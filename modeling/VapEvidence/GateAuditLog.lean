import VapEvidence.Delimited
import VapEvidence.GateAudit
import VapEvidence.JsonNesting

set_option autoImplicit false

/-!
# The log of the audit service

The events of an operation, what its row must say of them, and what one transaction may do.
-/
namespace VapEvidence.RecordGate
open Json Transaction
open Incident (Packages sub)
open Scope (falsy)

/-- What the service relies on of `rfc8785.dumps`: a dictionary is written as the JSON of one with the same keys,
    what is read back has no other canonical text, texts and constants are written, and a dictionary is whose
    members are and that is not nested deeper than some value that is. -/
structure Jcs (pk : Packages) : Prop where
  keys : ∀ v raw, v.isDict = true → pk.rfc8785 v = some raw → ∃ s w, decodeUtf8 raw = some s ∧
    loads (plainHooks pk) s = .ok w ∧ w.isDict = true ∧ ∀ k, k ∈ w.keys ↔ k ∈ v.keys
  reread : ∀ v raw s w raw', pk.rfc8785 v = some raw → decodeUtf8 raw = some s →
    loads (plainHooks pk) s = .ok w → pk.rfc8785 w = some raw' → raw' = raw
  text : ∀ s, (pk.rfc8785 (.str s)).isSome
  flag : ∀ b, (pk.rfc8785 (.bool b)).isSome
  null : (pk.rfc8785 .null).isSome
  dict : ∀ ps w, (∀ p ∈ ps, (pk.rfc8785 p.2).isSome) → nesting (dict ps) ≤ nesting w → (pk.rfc8785 w).isSome →
    (pk.rfc8785 (Json.dict ps)).isSome

/-! ## Events of an operation -/

def suffixes : List Suffix := [.request, .dispatch, .unknown, .result]

/-- The events of an operation in the order of `seq`. -/
def eventsOf (s : Store) (id : String) : List Event :=
  s.events.rows.filter fun e => suffixes.any fun suffix => e.eventId = eventId id suffix

/-- The types of the events that a state asks for. -/
def histories : OperationState → List (List Suffix)
  | .prepared => [[.request]]
  | .dispatchIntent => [[.request, .dispatch]]
  | .resultUnknown => [[.request, .dispatch, .unknown]]
  | .confirmedSuccess => [[.request, .dispatch, .result], [.request, .dispatch, .unknown, .result]]

section Log
variable (pk : Packages) (config : AuditConfig)

/-- What an event of an operation carries. -/
def Carries (row : Operation) (op : Json) : Suffix → List (String × Json) → Prop
  | .request, payload => ∃ request authorization recorded,
    payload = [("intent", op), ("authorization", authorization), ("signed_request", request)] ∧
      canonicalText pk request = .ok row.request ∧ sub request "intent" = .ok recorded ∧
      digest pk recorded = .ok row.digest
  | .dispatch, payload => payload = [("intent", op), ("meaning", .str meaning)]
  | .unknown, payload => ∃ reason, payload = [("reason", reason)]
  | .result, payload => ∃ receipt result text, payload = [("receipt", receipt)] ∧
    check pk receipt config.backendPublic "backend_receipt" "backend" false = .ok result ∧
    receiptBinds result row.id row.digest = .ok true ∧ canonicalText pk receipt = .ok text ∧ row.receipt = some text

/-- An event is the record of one step of an operation. -/
def Records (row : Operation) (suffix : Suffix) (e : Event) : Prop :=
  ∃ op payload, operationId op = .ok row.id ∧ digest pk op = .ok row.digest ∧ Carries pk config row op suffix payload ∧
    eventRow pk config op suffix payload = .ok e

/-- The log and the row of an operation agree. -/
structure Logged (s : Store) (row : Operation) : Prop where
  history : ∃ kinds ∈ histories row.state, List.Forall₂ (Records pk config row) kinds (eventsOf s row.id)
  receipt : row.receipt.isSome = true ↔ row.state = .confirmedSuccess

structure Consistent (s : Store) : Prop where
  logged : ∀ row ∈ s.operations.rows, Logged pk config s row
  owned : ∀ e ∈ s.events.rows, ∃ row ∈ s.operations.rows, e ∈ eventsOf s row.id

end Log

/-- A later store: events are only appended, and no row loses what it holds. -/
structure Extends (s t : Store) : Prop where
  events : s.events.rows <+: t.events.rows
  rows : ∀ row ∈ s.operations.rows, ∃ row' ∈ t.operations.rows, row'.id = row.id ∧ row'.digest = row.digest ∧
    row'.request = row.request ∧ ∀ text, row.receipt = some text → row'.receipt = some text

theorem Extends.refl (s : Store) : Extends s s :=
  ⟨List.prefix_refl _, fun row hrow => ⟨row, hrow, rfl, rfl, rfl, fun _ h => h⟩⟩

theorem Extends.trans {s t u : Store} (h : Extends s t) (h' : Extends t u) : Extends s u := by
  refine ⟨h.events.trans h'.events, fun row hrow => ?_⟩
  obtain ⟨middle, hmiddle, hid, hdigest, hrequest, hreceipt⟩ := h.rows row hrow
  obtain ⟨last, hlast, hid', hdigest', hrequest', hreceipt'⟩ := h'.rows middle hmiddle
  exact ⟨last, hlast, hid'.trans hid, hdigest'.trans hdigest, hrequest'.trans hrequest,
    fun text ht => hreceipt' text (hreceipt text ht)⟩

theorem Suffix.text_injective {k l : Suffix} (h : k.text = l.text) : k = l := by
  cases k <;> cases l <;> first | rfl | exact absurd h (by decide)

/-- No suffix holds a colon, so an id tells its operation and its suffix. -/
theorem eventId_inj {a b : String} {k l : Suffix} (h : eventId a k = eventId b l) : a = b ∧ k = l := by
  have hcolon : ∀ suffix : Suffix, ':' ∉ suffix.text.toList.reverse := by
    intro suffix
    cases suffix <;> decide
  have hlist (id : String) (suffix : Suffix) :
      (eventId id suffix).toList.reverse = suffix.text.toList.reverse ++ ':' :: id.toList.reverse := by
    rw [eventId, String.toList_append, String.toList_append, List.reverse_append, List.reverse_append]
    rfl
  have hrev := congrArg (fun s : String => s.toList.reverse) h
  simp only [hlist] at hrev
  obtain ⟨hsuffix, hid⟩ := Delimited.cut_unique (hcolon k) (hcolon l) hrev
  exact ⟨String.toList_inj.1 (List.reverse_injective hid),
    Suffix.text_injective (String.toList_inj.1 (List.reverse_injective hsuffix))⟩

theorem mem_eventsOf {s : Store} {id : String} {e : Event} :
    e ∈ eventsOf s id ↔ e ∈ s.events.rows ∧ ∃ suffix, e.eventId = eventId id suffix := by
  rw [eventsOf, List.mem_filter, List.any_eq_true]
  refine and_congr_right fun _ => ⟨?_, ?_⟩
  · rintro ⟨suffix, -, h⟩
    exact ⟨suffix, of_decide_eq_true h⟩
  · rintro ⟨suffix, h⟩
    refine ⟨suffix, ?_, decide_eq_true h⟩
    cases suffix <;> decide

/-- A new event is one more of its own operation, and of no other. -/
theorem eventsOf_append {s t : Store} {e : Event} {id : String} {suffix : Suffix}
    (h : t.events.rows = s.events.rows ++ [e]) (he : e.eventId = eventId id suffix) (other : String) :
    eventsOf t other = if other = id then eventsOf s other ++ [e] else eventsOf s other := by
  rw [eventsOf, h, List.filter_append]
  split_ifs with ho
  · subst ho
    refine congrArg (eventsOf s other ++ ·) (List.filter_eq_self.2 fun e' he' => ?_)
    obtain rfl := List.mem_singleton.1 he'
    refine List.any_eq_true.2 ⟨suffix, ?_, decide_eq_true he⟩
    cases suffix <;> decide
  · refine (congrArg (eventsOf s other ++ ·) (List.filter_eq_nil_iff.2 fun e' he' hany => ?_)).trans (List.append_nil _)
    obtain rfl := List.mem_singleton.1 he'
    obtain ⟨l, -, hl⟩ := List.any_eq_true.1 hany
    exact ho (eventId_inj ((of_decide_eq_true hl).symm.trans he)).1

/-! ## What a transaction does -/

section Changes
variable (pk : Packages) (config : AuditConfig)

/-- What the outcome requests write into the column of the receipt. -/
def Rewrites (row : Operation) (text : Option String) : Prop :=
  ∃ receipt, storedReceipt pk row = .ok receipt ∧
    (if falsy receipt then .ok none else do return some (← canonicalText pk receipt)) = (.ok text : Answer (Option String))

/-- An event that moves a row on: its type, and the state and the receipt that are written with it. -/
inductive Moves (row : Operation) (op : Json) : Suffix → List (String × Json) → OperationState → Option String → Prop where
  | dispatch (h : row.state = .prepared) :
    Moves row op .dispatch [("intent", op), ("meaning", .str meaning)] .dispatchIntent row.receipt
  | unknown (reason : Json) (text : Option String) (h : row.state = .dispatchIntent) (hw : Rewrites pk row text) :
    Moves row op .unknown [("reason", reason)] .resultUnknown text
  | result (receipt result : Json) (text : String) (h : row.state = .dispatchIntent ∨ row.state = .resultUnknown)
    (hc : check pk receipt config.backendPublic "backend_receipt" "backend" false = .ok result)
    (hb : receiptBinds result row.id row.digest = .ok true) (ht : canonicalText pk receipt = .ok text) :
    Moves row op .result [("receipt", receipt)] .confirmedSuccess (some text)

/-- What a transaction on an operation may do, and the receipt that it answers with. -/
inductive Changed (s : Store) (op : Json) (id digest_ : String) : Store → Json → Prop where
  | same (receipt : Json) : Changed s op id digest_ s receipt
  | prepared (request authorization recorded : Json) (text : String) (e : Event) (t : Store)
    (hnew : ∀ row ∈ s.operations.rows, row.id ≠ id) (hr : sub request "intent" = .ok recorded)
    (hd : digest pk recorded = .ok digest_) (ht : canonicalText pk request = .ok text)
    (he : eventRow pk config op .request
      [("intent", op), ("authorization", authorization), ("signed_request", request)] = .ok e)
    (hevents : t.events.rows = s.events.rows ++ [e])
    (hrows : t.operations.rows = s.operations.rows ++ [⟨id, digest_, text, .prepared, none⟩]) :
    Changed s op id digest_ t .null
  | moved (row : Operation) (suffix : Suffix) (payload : List (String × Json)) (state : OperationState)
    (receipt : Json) (text : Option String) (e : Event) (events : Table Event.eventId Eq)
    (hrow : row ∈ s.operations.rows) (hid : row.id = id) (hdigest : row.digest = digest_)
    (hm : Moves pk config row op suffix payload state text) (he : eventRow pk config op suffix payload = .ok e)
    (hevents : events.rows = s.events.rows ++ [e])
    (hreceipt : storedReceipt pk row = .ok receipt ∨ ("receipt", receipt) ∈ payload) :
    Changed s op id digest_ (Store.update ⟨s.operations, events⟩ id state text) receipt
  | rewritten (row : Operation) (receipt : Json) (text : Option String) (hrow : row ∈ s.operations.rows)
    (hid : row.id = id) (hw : Rewrites pk row text) : Changed s op id digest_ (s.update id row.state text) receipt

end Changes

section Transactions
variable {pk : Packages} {config : AuditConfig}

theorem event_returned {op : Json} {suffix : Suffix} {payload : List (String × Json)} {s t : Store} {u : Unit}
    (h : (event pk config op suffix payload).on s = (.ok u, t)) : ∃ e events,
      eventRow pk config op suffix payload = .ok e ∧ events.rows = s.events.rows ++ [e] ∧ t = ⟨s.operations, events⟩ := by
  obtain ⟨e, he, h⟩ := perform_returned h
  rw [on_get_bind] at h
  cases hins : s.events.insert e with
  | none =>
    simp only [hins] at h
    cases h
  | some events =>
    simp only [hins] at h
    exact ⟨e, events, he, (Table.insert_some hins).1, (congrArg Prod.snd h).symm⟩

theorem insertOperation_returned {row : Operation} {s t : Store} {u : Unit}
    (h : (insertOperation row).on s = (.ok u, t)) : t.operations.rows = s.operations.rows ++ [row] ∧
      (∀ other ∈ s.operations.rows, other.id ≠ row.id) ∧ t.events = s.events := by
  rw [insertOperation, on_get_bind] at h
  cases hins : s.operations.insert row with
  | none =>
    simp only [hins] at h
    cases h
  | some operations =>
    simp only [hins] at h
    obtain ⟨hrows, hnew⟩ := Table.insert_some hins
    obtain rfl : t = ⟨operations, s.events⟩ := (congrArg Prod.snd h).symm
    exact ⟨hrows, hnew, rfl⟩

theorem prepare_returned {op body : Json} {id digest_ : String} {s t : Store} {row : Operation}
    (h : (prepare pk config op id digest_ body).on s = (.ok row, t)) :
    Changed pk config s op id digest_ t .null ∧ row = ⟨id, digest_, row.request, .prepared, none⟩ := by
  obtain ⟨request, -, h⟩ := perform_returned h
  obtain ⟨given, hgiven, h⟩ := perform_returned h
  obtain ⟨_, hsame, h⟩ := perform_returned h
  obtain ⟨authorization, -, h⟩ := perform_returned h
  obtain ⟨_, u, hevent, h⟩ := bind_returned h
  obtain ⟨text, htext, h⟩ := perform_returned h
  obtain ⟨_, v, hinsert, hreturn⟩ := bind_returned h
  rw [on_pure] at hreturn
  obtain rfl : v = t := congrArg Prod.snd hreturn
  obtain rfl : _ = row := Except.ok.inj (congrArg Prod.fst hreturn)
  obtain ⟨recorded, hrecorded, hdigest⟩ := bind_ok hgiven
  obtain rfl : given = digest_ := of_decide_eq_true (require_ok hsame)
  obtain ⟨e, events, he, hevents, rfl⟩ := event_returned hevent
  obtain ⟨hrows, hnew, hkept⟩ := insertOperation_returned hinsert
  exact ⟨.prepared request authorization recorded text e v hnew (lift_ok hrecorded) hdigest htext he
    (hkept ▸ hevents) hrows, rfl⟩

theorem check_fields {env result : Json} {publicKey kind keyId : String} {research : Bool}
    (h : check pk env publicKey kind keyId research = .ok result) :
    env.hasFields ["algorithm", "key_id", "body", "signature"] = true := by
  unfold check at h
  split at h
  · next hv =>
    obtain ⟨_, hfields, -⟩ := bind_ok hv
    exact require_ok hfields
  · cases h

theorem not_falsy_of_key {v : Json} {k : String} (hd : v.isDict = true) (hk : k ∈ v.keys) : falsy v = false := by
  cases v with
  | obj ms =>
    cases ms with
    | nil => exact absurd hk List.not_mem_nil
    | cons m ms => rfl
  | _ => cases hd

/-- An envelope that was checked is a dictionary with members. -/
theorem check_dict {env result : Json} {publicKey kind keyId : String} {research : Bool}
    (h : check pk env publicKey kind keyId research = .ok result) : env.isDict = true ∧ "body" ∈ env.keys := by
  obtain ⟨ms, rfl, hkeys⟩ := hasFields_obj (check_fields h)
  exact ⟨rfl, (hkeys "body").2 (by decide)⟩

/-- What comes of the two reports of an outcome. -/
theorem report_returned {op : Json} {row : Operation} {receipt body wanted given : Json} {state : OperationState}
    {s t : Store} (hprepared : row.state ≠ .prepared)
    (h : (report pk config op row receipt wanted body).on s = (.ok (state, given), t)) :
    (state = row.state ∧ given = receipt ∧ t = s) ∨
    (∃ e events reason, state = .resultUnknown ∧ given = receipt ∧ row.state = .dispatchIntent ∧
      eventRow pk config op .unknown [("reason", reason)] = .ok e ∧ events.rows = s.events.rows ++ [e] ∧
      t = ⟨s.operations, events⟩) ∨
    ∃ e events result, state = .confirmedSuccess ∧ (row.state = .dispatchIntent ∨ row.state = .resultUnknown) ∧
      check pk given config.backendPublic "backend_receipt" "backend" false = .ok result ∧
      receiptBinds result row.id row.digest = .ok true ∧ eventRow pk config op .result [("receipt", given)] = .ok e ∧
      events.rows = s.events.rows ++ [e] ∧ t = ⟨s.operations, events⟩ := by
  unfold report at h
  split_ifs at h with hwanted
  · obtain ⟨offered, -, h⟩ := perform_returned h
    obtain ⟨result, hresult, h⟩ := perform_returned h
    obtain ⟨_, hbinds, h⟩ := perform_returned h
    obtain ⟨binds, hbinds, hrequire⟩ := bind_ok hbinds
    obtain rfl := require_ok hrequire
    split_ifs at h with hstate
    · obtain ⟨_, u, hevent, h⟩ := bind_returned h
      obtain ⟨e, events, he, hevents, rfl⟩ := event_returned hevent
      cases h
      refine .inr (.inr ⟨e, events, result, rfl, ?_, hresult, hbinds, he, hevents, rfl⟩)
      cases hs : row.state with
      | prepared => exact absurd hs hprepared
      | dispatchIntent => exact .inl rfl
      | resultUnknown => exact .inr rfl
      | confirmedSuccess => exact absurd hs hstate
    · cases h
      exact .inl ⟨rfl, rfl, rfl⟩
  · obtain ⟨_, -, h⟩ := perform_returned h
    unfold reportUnknown at h
    split_ifs at h with hstate
    · obtain ⟨reason, -, h⟩ := perform_returned h
      obtain ⟨_, u, hevent, h⟩ := bind_returned h
      obtain ⟨e, events, he, hevents, rfl⟩ := event_returned hevent
      cases h
      exact .inr (.inl ⟨e, events, reason, rfl, rfl, hstate, he, hevents, rfl⟩)
    · cases h
      exact .inl ⟨rfl, rfl, rfl⟩

theorem act_returned {action : String} {op body : Json} {row : Operation} {state : OperationState} {claimed : Bool}
    {receipt : Json} {s t : Store} (hrow : row ∈ s.operations.rows)
    (h : (act pk config action op row body).on s = (.ok (state, claimed, receipt), t)) :
    Changed pk config s op row.id row.digest t receipt := by
  obtain ⟨stored, hstored, h⟩ := perform_returned h
  split_ifs at h with hclaim houtcome
  · obtain ⟨_, u, hevent, h⟩ := bind_returned h
    obtain ⟨e, events, he, hevents, rfl⟩ := event_returned hevent
    rw [on_get_bind, on_set_bind] at h
    cases h
    exact .moved row .dispatch _ .dispatchIntent _ row.receipt e events hrow rfl rfl (.dispatch hclaim.2) he hevents
      (.inl hstored)
  · obtain ⟨⟨after, given⟩, u, h, hreturn⟩ := bind_returned h
    cases hreturn
    obtain ⟨_, hprepared, h⟩ := perform_returned h
    obtain ⟨wanted, -, h⟩ := perform_returned h
    obtain ⟨⟨after, given⟩, u, hreport, h⟩ := bind_returned h
    obtain ⟨text, htext, h⟩ := perform_returned h
    rw [on_get_bind, on_set_bind] at h
    cases h
    have hprepared : row.state ≠ .prepared := of_decide_eq_true (require_ok hprepared)
    rcases report_returned hprepared hreport with ⟨rfl, rfl, rfl⟩ | ⟨e, events, reason, rfl, rfl, hstate, he, hevents, rfl⟩ |
      ⟨e, events, result, rfl, hstate, hcheck, hbinds, he, hevents, rfl⟩
    · exact .rewritten row _ text hrow rfl ⟨_, hstored, htext⟩
    · exact .moved row .unknown _ .resultUnknown _ text e events hrow rfl rfl (.unknown reason text hstate ⟨_, hstored, htext⟩)
        he hevents (.inl hstored)
    · obtain ⟨hd, hk⟩ := check_dict hcheck
      rw [not_falsy_of_key hd hk, if_neg Bool.false_ne_true] at htext
      obtain ⟨written, hwritten, htext⟩ := bind_ok htext
      cases htext
      exact .moved row .result _ .confirmedSuccess _ (some written) e events hrow rfl rfl
        (.result _ result written hstate hcheck hbinds hwritten) he hevents (.inr List.mem_cons_self)
  · obtain ⟨_, -, h⟩ := perform_returned h
    cases h
    exact .same _

/-- A request to prepare does nothing more to the row. -/
theorem act_prepare {op body : Json} {row : Operation} {state : OperationState} {claimed : Bool} {receipt : Json}
    {s t : Store} (h : (act pk config "prepare" op row body).on s = (.ok (state, claimed, receipt), t)) :
    storedReceipt pk row = .ok receipt ∧ t = s := by
  obtain ⟨stored, hstored, h⟩ := perform_returned h
  rw [if_neg (by simp), if_neg (by decide)] at h
  obtain ⟨_, -, h⟩ := perform_returned h
  cases h
  exact ⟨hstored, rfl⟩

theorem change_returned {action : String} {op body : Json} {id digest_ : String} {state : OperationState}
    {claimed : Bool} {receipt : Json} {s t : Store}
    (h : (change pk config action op id digest_ body).on s = (.ok (state, claimed, receipt), t)) :
    Changed pk config s op id digest_ t receipt := by
  obtain ⟨row, u, hcurrent, h⟩ := bind_returned h
  obtain ⟨_, -, hact⟩ := perform_returned h
  rw [current, on_get_bind] at hcurrent
  obtain ⟨_, hsame, hrest⟩ := perform_returned hcurrent
  cases hfound : s.operations.rows.find? fun row => row.id = id with
  | some found =>
    simp only [hfound] at hrest hsame
    cases hrest
    have hid : row.id = id := by simpa using List.find?_some hfound
    have hdigest : row.digest = digest_ := by simpa using require_ok hsame
    exact hid ▸ hdigest ▸ act_returned (List.mem_of_find?_eq_some hfound) hact
  | none =>
    simp only [hfound] at hrest
    by_cases haction : action = "prepare"
    · subst haction
      rw [if_pos rfl] at hrest
      obtain ⟨hchanged, hrow⟩ := prepare_returned hrest
      obtain ⟨hstored, rfl⟩ := act_prepare hact
      rw [hrow] at hstored
      cases hstored
      exact hchanged
    · rw [if_neg haction] at hrest
      cases hrest

end Transactions

end VapEvidence.RecordGate
