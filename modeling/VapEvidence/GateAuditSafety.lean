import VapEvidence.GateAuditLog
import VapEvidence.ListExtends

set_option autoImplicit false

/-!
# Runs of the audit service

After any requests the events of each operation are those that its state asks for, in
their order; what is stored is never replaced, and a request that is refused changes nothing.
-/
namespace VapEvidence.RecordGate
open Json Transaction
open Incident (Packages sub)
open Scope (falsy)

/-! ## Agreement of the log and the rows -/

section Steps
variable {pk : Packages} {config : AuditConfig}

theorem canonical_rfc8785 {v : Json} {raw : Bytes} (h : canonical pk v = .ok raw) : pk.rfc8785 v = some raw := by
  have hc := lift_ok h
  unfold Scope.canonical at hc
  split at hc
  · next hr =>
    cases hc
    exact hr
  · cases hc

theorem canonicalText_ok {v : Json} {text : String} (h : canonicalText pk v = .ok text) :
    ∃ raw s, pk.rfc8785 v = some raw ∧ decodeUtf8 raw = some s ∧ text = String.ofList s := by
  obtain ⟨raw, hraw, h⟩ := bind_ok h
  cases hs : decodeUtf8 raw with
  | none =>
    simp only [hs] at h
    cases h
  | some s =>
    simp only [hs] at h
    exact ⟨raw, s, canonical_rfc8785 hraw, hs, (Except.ok.inj h).symm⟩

theorem eventRow_id {op : Json} {suffix : Suffix} {payload : List (String × Json)} {e : Event} {id : String}
    (hop : operationId op = .ok id) (h : eventRow pk config op suffix payload = .ok e) :
    e.eventId = eventId id suffix := by
  obtain ⟨id', hid, h⟩ := bind_ok h
  obtain ⟨_, -, h⟩ := bind_ok h
  obtain ⟨_, -, h⟩ := bind_ok h
  obtain ⟨_, -, h⟩ := bind_ok h
  obtain rfl := Except.ok.inj (hop.symm.trans hid)
  cases h
  rfl

theorem Records.mono {row row' : Operation} {suffix : Suffix} {e : Event} (h : Records pk config row suffix e)
    (hid : row'.id = row.id) (hdigest : row'.digest = row.digest) (hrequest : row'.request = row.request)
    (hreceipt : ∀ text, row.receipt = some text → row'.receipt = some text) : Records pk config row' suffix e := by
  obtain ⟨op, payload, hop, hd, hc, he⟩ := h
  refine ⟨op, payload, hid ▸ hop, hdigest ▸ hd, ?_, he⟩
  cases suffix with
  | request => simpa only [Carries, hdigest, hrequest] using hc
  | dispatch => exact hc
  | unknown => exact hc
  | result =>
    obtain ⟨receipt, result, text, hp, hcheck, hbinds, htext, hr⟩ := hc
    exact ⟨receipt, result, text, hp, hcheck, by rw [hid, hdigest]; exact hbinds, htext, hreceipt text hr⟩

/-- The receipt of a row is that of its result event. -/
theorem Logged.stored {s : Store} {row : Operation} {stored : String} (h : Logged pk config s row)
    (hr : row.receipt = some stored) : ∃ receipt result,
      check pk receipt config.backendPublic "backend_receipt" "backend" false = .ok result ∧
      receiptBinds result row.id row.digest = .ok true ∧ canonicalText pk receipt = .ok stored := by
  obtain ⟨kinds, hkinds, hrecords⟩ := h.history
  rw [h.receipt.1 (Option.isSome_of_mem hr)] at hkinds
  have hmem : Suffix.result ∈ kinds := by
    simp only [histories, List.mem_cons, List.not_mem_nil, or_false] at hkinds
    rcases hkinds with rfl | rfl <;> decide
  obtain ⟨e, -, op, payload, -, -, hc, -⟩ := forall₂_left hrecords hmem
  obtain ⟨receipt, result, text, -, hcheck, hbinds, htext, hr'⟩ := hc
  obtain rfl := Option.some.inj (hr.symm.trans hr')
  exact ⟨receipt, result, hcheck, hbinds, htext⟩

/-- The final update of an outcome writes the receipt that was there. -/
theorem rewrites_eq (hpk : Jcs pk) {s : Store} {row : Operation} {text : Option String} (hl : Logged pk config s row)
    (h : Rewrites pk row text) : text = row.receipt := by
  obtain ⟨receipt, hstored, h⟩ := h
  cases hr : row.receipt with
  | none =>
    rw [storedReceipt, hr] at hstored
    cases hstored
    cases h
    rfl
  | some stored =>
    obtain ⟨given, result, hcheck, -, htext⟩ := hl.stored hr
    obtain ⟨raw, chars, hraw, hs, rfl⟩ := canonicalText_ok htext
    obtain ⟨hdict, hbody⟩ := check_dict hcheck
    obtain ⟨chars', w, hs', hw, hwdict, hkeys⟩ := hpk.keys given raw hdict hraw
    obtain rfl := Option.some.inj (hs.symm.trans hs')
    have hne : String.ofList chars ≠ "" := by
      intro hempty
      obtain rfl : chars = [] := by simpa using congrArg String.toList hempty
      cases hw
    rw [storedReceipt, hr] at hstored
    simp only [if_neg hne, loadsText, String.toList_ofList, hw] at hstored
    cases hstored
    rw [not_falsy_of_key hwdict ((hkeys "body").2 hbody), if_neg Bool.false_ne_true] at h
    obtain ⟨written, hwritten, h⟩ := bind_ok h
    obtain ⟨raw', chars', hraw', ht, rfl⟩ := canonicalText_ok hwritten
    obtain rfl := hpk.reread given raw chars _ raw' hraw hs hw hraw'
    obtain rfl := Option.some.inj (hs.symm.trans ht)
    cases h
    rfl

/-- An update that writes what is there. -/
theorem update_self {s : Store} {row : Operation} (hrow : row ∈ s.operations.rows) :
    s.update row.id row.state row.receipt = s := by
  have hrows : (s.update row.id row.state row.receipt).operations = s.operations := by
    refine Table.ext_rows ?_
    rw [Store.update, Table.update_rows]
    refine (List.map_congr_left fun other hother => ?_).trans (List.map_id _)
    split_ifs with h
    · obtain rfl := s.operations.eq_of_clash (fun _ _ h => h.symm) hother hrow (of_decide_eq_true h)
      rfl
    · rfl
  exact congrArg (Store.mk · s.events) hrows

/-- The state that a move leads to asks for one event more. -/
theorem Moves.histories {row : Operation} {op : Json} {suffix : Suffix} {payload : List (String × Json)} {state : OperationState}
    {text : Option String} (h : Moves pk config row op suffix payload state text) {kinds : List Suffix}
    (hk : kinds ∈ histories row.state) : kinds ++ [suffix] ∈ RecordGate.histories state := by
  cases h with
  | dispatch h =>
    rw [h] at hk
    obtain rfl := List.mem_singleton.1 hk
    decide
  | unknown reason text h hw =>
    rw [h] at hk
    obtain rfl := List.mem_singleton.1 hk
    decide
  | result receipt result text h hc hb ht =>
    rcases h with h | h
    · rw [h] at hk
      obtain rfl := List.mem_singleton.1 hk
      decide
    · rw [h] at hk
      obtain rfl := List.mem_singleton.1 hk
      decide

/-- A move fills the receipt exactly when it confirms, and keeps one that is there. -/
theorem Moves.receipt (hpk : Jcs pk) {s : Store} {row : Operation} {op : Json} {suffix : Suffix} {payload : List (String × Json)}
    {state : OperationState} {text : Option String} (hl : Logged pk config s row)
    (h : Moves pk config row op suffix payload state text) :
    row.receipt = none ∧ (text.isSome = true ↔ state = .confirmedSuccess) := by
  have hnone (hs : row.state ≠ .confirmedSuccess) : row.receipt = none :=
    Option.not_isSome_iff_eq_none.1 fun h => hs (hl.receipt.1 h)
  cases h with
  | dispatch h =>
    have := hnone (by rw [h]; decide)
    exact ⟨this, by simp [this]⟩
  | unknown reason text h hw =>
    have := hnone (by rw [h]; decide)
    exact ⟨this, by simp [rewrites_eq hpk hl hw, this]⟩
  | result receipt result text h hc hb ht =>
    refine ⟨hnone ?_, by simp⟩
    rcases h with h | h <;>
      · rw [h]
        decide

/-- The event of a move is the record of it in the row that the move leaves. -/
theorem Moves.carries {row : Operation} {op : Json} {suffix : Suffix} {payload : List (String × Json)}
    {state : OperationState} {text : Option String} (h : Moves pk config row op suffix payload state text) :
    Carries pk config (row.become state text) op suffix payload := by
  cases h with
  | dispatch h => rfl
  | unknown reason text h hw => exact ⟨reason, rfl⟩
  | result receipt result text h hc hb ht => exact ⟨receipt, result, text, rfl, hc, hb, ht, rfl⟩

theorem mem_update {s : Store} {id : String} {state : OperationState} {text : Option String} {row : Operation} :
    row ∈ (s.update id state text).operations.rows ↔
      ∃ old ∈ s.operations.rows, row = if old.id = id then old.become state text else old := by
  rw [Store.update, Table.update_rows, List.mem_map]
  refine exists_congr fun old => and_congr_right fun _ => ?_
  by_cases h : old.id = id
  · simp only [h, decide_true, if_true]
    exact eq_comm
  · simp only [h, decide_false, if_false]
    exact eq_comm

/-- The row of an operation whose log did not change stays in agreement with it. -/
theorem Logged.frame {s t : Store} {row : Operation} (h : Logged pk config s row)
    (he : eventsOf t row.id = eventsOf s row.id) : Logged pk config t row :=
  ⟨by rw [he]; exact h.history, h.receipt⟩

theorem consistent_prepared {s t : Store} {e : Event} {row : Operation} (hs : Consistent pk config s)
    (hnew : ∀ other ∈ s.operations.rows, other.id ≠ row.id) (hstate : row.state = .prepared) (hnone : row.receipt = none)
    (he : e.eventId = eventId row.id .request) (hr : Records pk config row .request e)
    (hevents : t.events.rows = s.events.rows ++ [e]) (hrows : t.operations.rows = s.operations.rows ++ [row]) :
    Consistent pk config t := by
  have hempty : eventsOf s row.id = [] := by
    refine List.eq_nil_iff_forall_not_mem.2 fun e' he' => ?_
    obtain ⟨hmem, suffix, hid⟩ := mem_eventsOf.1 he'
    obtain ⟨owner, howner, hown⟩ := hs.owned e' hmem
    obtain ⟨-, suffix', hid'⟩ := mem_eventsOf.1 hown
    exact hnew owner howner (eventId_inj (hid'.symm.trans hid)).1
  have hown : eventsOf t row.id = [e] := by rw [eventsOf_append hevents he, if_pos rfl, hempty, List.nil_append]
  refine ⟨fun other hother => ?_, fun e' he' => ?_⟩
  · rw [hrows, List.mem_append, List.mem_singleton] at hother
    rcases hother with hother | rfl
    · refine (hs.logged other hother).frame ?_
      rw [eventsOf_append hevents he, if_neg (hnew other hother)]
    · refine ⟨⟨[.request], by rw [hstate]; decide, ?_⟩, by rw [hstate, hnone]; decide⟩
      rw [hown]
      exact .cons hr .nil
  · rw [hevents, List.mem_append, List.mem_singleton] at he'
    rcases he' with he' | rfl
    · obtain ⟨owner, howner, hin⟩ := hs.owned e' he'
      refine ⟨owner, hrows ▸ List.mem_append_left _ howner, ?_⟩
      obtain ⟨hmem, hid⟩ := mem_eventsOf.1 hin
      exact mem_eventsOf.2 ⟨hevents ▸ List.mem_append_left _ hmem, hid⟩
    · exact ⟨row, hrows ▸ List.mem_append_right _ List.mem_cons_self, hown ▸ List.mem_cons_self⟩

theorem consistent_moved (hpk : Jcs pk) {s : Store} {events : Table Event.eventId Eq} {e : Event} {row : Operation} {op : Json}
    {suffix : Suffix} {payload : List (String × Json)} {state : OperationState} {text : Option String}
    (hs : Consistent pk config s) (hrow : row ∈ s.operations.rows) (hop : operationId op = .ok row.id)
    (hd : digest pk op = .ok row.digest) (hm : Moves pk config row op suffix payload state text)
    (he : eventRow pk config op suffix payload = .ok e) (hevents : events.rows = s.events.rows ++ [e]) :
    Consistent pk config (Store.update ⟨s.operations, events⟩ row.id state text) := by
  have hid := eventRow_id hop he
  have hnew (other : String) : eventsOf (Store.update ⟨s.operations, events⟩ row.id state text) other =
      if other = row.id then eventsOf s other ++ [e] else eventsOf s other := eventsOf_append hevents hid other
  refine ⟨fun r hr => ?_, fun e' he' => ?_⟩
  · obtain ⟨old, hold, rfl⟩ := mem_update.1 hr
    split_ifs with h
    · obtain rfl := s.operations.eq_of_clash (fun _ _ h => h.symm) hold hrow h
      obtain ⟨kinds, hkinds, hrecords⟩ := (hs.logged old hold).history
      obtain ⟨hnone, hreceipt⟩ := hm.receipt hpk (hs.logged old hold)
      refine ⟨⟨kinds ++ [suffix], hm.histories hkinds, ?_⟩, hreceipt⟩
      rw [show (old.become state text).id = old.id from rfl, hnew, if_pos rfl]
      refine List.rel_append (hrecords.imp fun k e' h => ?_) (.cons ⟨op, payload, hop, hd, hm.carries, he⟩ .nil)
      exact h.mono rfl rfl rfl fun text ht => absurd (hnone.symm.trans ht) (by simp)
    · refine (hs.logged old hold).frame ?_
      rw [hnew, if_neg h]
  · have he' : e' ∈ s.events.rows ++ [e] := hevents ▸ he'
    have hkept (owner : Operation) (howner : owner ∈ s.operations.rows) :
        ∃ r ∈ (Store.update ⟨s.operations, events⟩ row.id state text).operations.rows, r.id = owner.id := by
      refine ⟨_, mem_update.2 ⟨owner, howner, rfl⟩, ?_⟩
      split_ifs <;> rfl
    rcases List.mem_append.1 he' with he' | he'
    · obtain ⟨owner, howner, hin⟩ := hs.owned e' he'
      obtain ⟨r, hr, hrid⟩ := hkept owner howner
      refine ⟨r, hr, ?_⟩
      rw [hnew, hrid]
      split_ifs
      · exact List.mem_append_left _ hin
      · exact hin
    · obtain rfl := List.mem_singleton.1 he'
      obtain ⟨r, hr, hrid⟩ := hkept row hrow
      exact ⟨r, hr, by rw [hnew, if_pos hrid]; exact List.mem_append_right _ List.mem_cons_self⟩

/-- What a transaction does keeps the log and the rows in agreement, and extends both. -/
theorem Changed.consistent (hpk : Jcs pk) {s t : Store} {op receipt : Json} {id digest_ : String}
    (hop : operationId op = .ok id) (hd : digest pk op = .ok digest_) (hs : Consistent pk config s)
    (h : Changed pk config s op id digest_ t receipt) : Consistent pk config t ∧ Extends s t := by
  cases h with
  | same => exact ⟨hs, .refl s⟩
  | prepared request authorization recorded text e t hnew hr hrecorded ht he hevents hrows =>
    refine ⟨consistent_prepared hs hnew rfl rfl (eventRow_id hop he) ⟨op, _, hop, hd, ?_, he⟩ hevents hrows, ?_⟩
    · exact ⟨request, authorization, recorded, rfl, ht, hr, hrecorded⟩
    · exact ⟨hevents ▸ List.prefix_append _ _,
        fun row hrow => ⟨row, hrows ▸ List.mem_append_left _ hrow, rfl, rfl, rfl, fun _ h => h⟩⟩
  | moved row suffix payload state receipt text e events hrow hid hdigest hm he hevents hreceipt =>
    subst hid hdigest
    refine ⟨consistent_moved hpk hs hrow hop hd hm he hevents, ?_, fun old hold => ?_⟩
    · exact hevents ▸ List.prefix_append _ _
    · refine ⟨_, mem_update.2 ⟨old, hold, rfl⟩, ?_⟩
      split_ifs with h
      · obtain rfl := s.operations.eq_of_clash (fun _ _ h => h.symm) hold hrow h
        obtain ⟨hnone, -⟩ := hm.receipt hpk (hs.logged old hold)
        exact ⟨rfl, rfl, rfl, fun text ht => absurd (hnone.symm.trans ht) (by simp)⟩
      · exact ⟨rfl, rfl, rfl, fun _ h => h⟩
  | rewritten row receipt text hrow hid hw =>
    subst hid
    rw [rewrites_eq hpk (hs.logged row hrow) hw, update_self hrow]
    exact ⟨hs, .refl s⟩

end Steps

/-! ## Requests that are refused -/

section Refusals
variable {pk : Packages} {config : AuditConfig}

theorem sign_ok {body env : Json} {secret keyId : String} {research : Bool}
    (h : sign pk body secret keyId research = .ok env) :
    env.get? "body" = some body ∧ ∃ raw, Scope.hexBytes (.str secret) 32 = .ok raw := by
  obtain ⟨data, -, h⟩ := bind_ok h
  obtain ⟨raw, hraw, h⟩ := bind_ok h
  cases h
  exact ⟨by simp [get?_dict, lookup_cons_ite], raw, lift_ok hraw⟩

/-- A body is signed when it is written and is not nested too deep. -/
theorem sign_total (hpk : Jcs pk) {body w : Json} {secret keyId : String} {raw : Bytes}
    (hbody : (pk.rfc8785 body).isSome) (hnest : nesting body + 1 ≤ nesting w) (hw : (pk.rfc8785 w).isSome)
    (hsecret : Scope.hexBytes (.str secret) 32 = .ok raw) : ∃ env, sign pk body secret keyId false = .ok env := by
  have hall : ∀ p ∈ [("algorithm", Json.str "Ed25519"), ("key_id", .str keyId), ("body", body)],
      (pk.rfc8785 p.2).isSome ∧ nesting p.2 ≤ nesting body := by
    simp only [List.forall_mem_cons, List.not_mem_nil, false_imp_iff, implies_true, and_true]
    exact ⟨⟨hpk.text _, Nat.zero_le _⟩, ⟨hpk.text _, Nat.zero_le _⟩, hbody, le_rfl⟩
  obtain ⟨bytes, hbytes⟩ := Option.isSome_iff_exists.1
    (hpk.dict _ w (fun p hp => (hall p hp).1) ((nesting_dict_le fun p hp => (hall p hp).2).trans hnest) hw)
  refine ⟨dict [("algorithm", .str "Ed25519"), ("key_id", .str keyId), ("body", body),
    ("signature", .str (hex (pk.sign raw (domain ++ bytes))))], ?_⟩
  simp only [sign, signedData, canonical, Scope.canonical, hbytes, hsecret, lift]
  rfl

/-- What an event that is written says of the values in it. -/
theorem eventRow_nesting {op : Json} {suffix : Suffix} {payload : List (String × Json)} {e : Event}
    (h : eventRow pk config op suffix payload = .ok e) : ∃ w raw, (pk.rfc8785 w).isSome ∧
      Scope.hexBytes (.str config.secret) 32 = .ok raw ∧ 3 ≤ nesting w ∧
      ∀ receipt, payload = [("receipt", receipt)] → nesting receipt + 3 ≤ nesting w := by
  obtain ⟨id, -, h⟩ := bind_ok h
  obtain ⟨operationDigest, -, h⟩ := bind_ok h
  obtain ⟨env, henv, h⟩ := bind_ok h
  obtain ⟨text, htext, -⟩ := bind_ok h
  obtain ⟨hbody, raw, hraw⟩ := sign_ok henv
  obtain ⟨bytes, chars, hbytes, -⟩ := canonicalText_ok htext
  have hpayload : (eventBody config (eventId id suffix) suffix.text operationDigest payload).get? "payload" =
      some (dict (("operation_digest", .str operationDigest) :: payload)) := by
    simp [eventBody, get?_dict]
  have henvelope := nesting_lt_of_get? hbody
  have hmiddle := nesting_lt_of_get? hpayload
  refine ⟨env, raw, Option.isSome_of_mem hbytes, hraw, ?_, fun receipt hreceipt => ?_⟩
  · have hpos : 0 < nesting (dict (("operation_digest", .str operationDigest) :: payload)) := Nat.succ_pos _
    omega
  · subst hreceipt
    have hinner : (dict [("operation_digest", .str operationDigest), ("receipt", receipt)]).get? "receipt" = some receipt := by
      simp [get?_dict]
    have := nesting_lt_of_get? hinner
    omega

theorem ack_total (hpk : Jcs pk) {w receipt : Json} {raw : Bytes} (hw : (pk.rfc8785 w).isSome)
    (hsecret : Scope.hexBytes (.str config.secret) 32 = .ok raw) (hreceipt : (pk.rfc8785 receipt).isSome)
    (hnest : nesting receipt + 3 ≤ nesting w) (action id digest_ : String) (state : OperationState) (claimed : Bool) :
    ∃ answer, signed pk config (ackBody action id digest_ state claimed receipt) = .ok answer := by
  have hall : ∀ p ∈ [("kind", Json.str "audit_ack"), ("action", .str action), ("operation_id", .str id),
      ("operation_digest", .str digest_), ("state", .str state.text), ("claimed", .bool claimed), ("receipt", receipt)],
      (pk.rfc8785 p.2).isSome ∧ nesting p.2 ≤ nesting receipt := by
    simp only [List.forall_mem_cons, List.not_mem_nil, false_imp_iff, implies_true, and_true]
    exact ⟨⟨hpk.text _, Nat.zero_le _⟩, ⟨hpk.text _, Nat.zero_le _⟩, ⟨hpk.text _, Nat.zero_le _⟩,
      ⟨hpk.text _, Nat.zero_le _⟩, ⟨hpk.text _, Nat.zero_le _⟩, ⟨hpk.flag _, Nat.zero_le _⟩, hreceipt, le_rfl⟩
  have hbody := nesting_dict_le fun p hp => (hall p hp).2
  exact sign_total hpk (hpk.dict _ w (fun p hp => (hall p hp).1) (hbody.trans (by omega)) hw)
    (by rw [ackBody]; omega) hw hsecret

/-- A transaction that changes the tables is acknowledged. -/
theorem Changed.acknowledged (hpk : Jcs pk) {s t : Store} {op receipt : Json} {id digest_ : String}
    (hs : Consistent pk config s) (h : Changed pk config s op id digest_ t receipt) (action : String)
    (state : OperationState) (claimed : Bool) :
    t = s ∨ ∃ answer, signed pk config (ackBody action id digest_ state claimed receipt) = .ok answer := by
  cases h with
  | same => exact .inl rfl
  | prepared request authorization recorded text e t hnew hr hrecorded ht he hevents hrows =>
    obtain ⟨w, raw, hw, hraw, hthree, -⟩ := eventRow_nesting he
    exact .inr (ack_total hpk hw hraw hpk.null hthree action id digest_ state claimed)
  | moved row suffix payload state' receipt text e events hrow hid hdigest hm he hevents hreceipt =>
    obtain ⟨w, raw, hw, hraw, hthree, hgiven⟩ := eventRow_nesting he
    obtain ⟨hnone, -⟩ := hm.receipt hpk (hs.logged row hrow)
    refine .inr ?_
    rcases hreceipt with hstored | hmem
    · rw [storedReceipt, hnone] at hstored
      cases hstored
      exact ack_total hpk hw hraw hpk.null hthree action id digest_ state claimed
    · cases hm with
      | dispatch _ => simp at hmem
      | unknown _ _ _ _ => simp at hmem
      | result given result text _ _ _ ht =>
        obtain rfl : receipt = given := by simpa using hmem
        obtain ⟨bytes, chars, hbytes, -⟩ := canonicalText_ok ht
        exact ack_total hpk hw hraw (Option.isSome_of_mem hbytes) (hgiven receipt rfl) action id digest_ state claimed
  | rewritten row receipt text hrow hid hw =>
    subst hid
    exact .inl (by rw [rewrites_eq hpk (hs.logged row hrow) hw, update_self hrow])

end Refusals

/-! ## Requests and runs of them -/

section Runs
variable (pk : Packages) (config : AuditConfig)

/-- A call that keeps the log and the rows in agreement, and the tables as they are when it raises. -/
def Keeps {α : Type} (m : Call Refusal Store α) : Prop :=
  ∀ s, Consistent pk config s → Consistent pk config (m.on s).2 ∧ Extends s (m.on s).2 ∧
    ∀ e, (m.on s).1 = .error e → (m.on s).2 = s

structure Request where
  faults : Faults
  path : String
  envelope : Json

/-- The tables after requests, of which each runs its transaction alone. -/
def served (requests : List Request) : Store :=
  requests.foldl (fun s r => ((audit pk config r.faults r.path r.envelope).on s).2) .initial

variable {pk config}

theorem Keeps.of_reads {α : Type} {m : Call Refusal Store α} (h : Reads m) : Keeps pk config m := by
  intro s hs
  rw [h s]
  exact ⟨hs, .refl s, fun _ _ => rfl⟩

theorem Keeps.perform_bind {α β : Type} {r : Answer α} {f : α → Call Refusal Store β}
    (h : ∀ a, r = .ok a → Keeps pk config (f a)) : Keeps pk config (perform r >>= f) := by
  intro s hs
  cases hr : r with
  | ok a =>
    rw [on_perform_bind rfl]
    exact h a hr s hs
  | error e =>
    rw [on_bind, on_perform]
    exact ⟨hs, .refl s, fun _ _ => rfl⟩

theorem keeps_change (hpk : Jcs pk) {op : Json} {id digest_ : String} (hop : operationId op = .ok id)
    (hd : digest pk op = .ok digest_) (faults : Faults) (action : String) (body : Json) :
    Keeps pk config (do
      let (state, claimed, receipt) ← atomically (change pk config action op id digest_ body)
      if faults.dropAck = some action then return none
      else
        let answer ← perform (signed pk config (ackBody action id digest_ state claimed receipt))
        return some answer) := by
  intro s hs
  rw [on_bind]
  rcases hr : (atomically (change pk config action op id digest_ body)).on s with ⟨r, t⟩
  cases r with
  | error e =>
    obtain rfl := atomic_atomically _ s e t hr
    exact ⟨hs, .refl t, fun _ _ => rfl⟩
  | ok result =>
    obtain ⟨state, claimed, receipt⟩ := result
    have hchanged := change_returned (atomically_returned hr)
    obtain ⟨hconsistent, hextends⟩ := hchanged.consistent hpk hop hd hs
    by_cases hdrop : faults.dropAck = some action
    · simp only [hdrop, if_true, on_pure]
      exact ⟨hconsistent, hextends, fun e h => by cases h⟩
    · simp only [hdrop, if_false, on_bind, on_perform]
      rcases hchanged.acknowledged hpk hs action state claimed with rfl | ⟨answer, hanswer⟩
      · cases signed pk config (ackBody action id digest_ state claimed receipt) with
        | ok answer => exact ⟨hconsistent, hextends, fun e h => rfl⟩
        | error e => exact ⟨hconsistent, hextends, fun e h => rfl⟩
      · rw [hanswer]
        exact ⟨hconsistent, hextends, fun e h => by cases h⟩

theorem keeps_audit (hpk : Jcs pk) (faults : Faults) (path : String) (envelope : Json) :
    Keeps pk config (audit pk config faults path envelope) := by
  unfold audit
  refine .perform_bind fun body _ => .perform_bind fun _ _ => ?_
  split
  · refine .of_reads (reads_get.bind fun s => ?_)
    exact (reads_perform _).bind fun _ => (reads_perform _).bind fun _ => reads_pure _
  · exact .perform_bind fun op _ => .perform_bind fun id hop => .perform_bind fun digest_ hd =>
      keeps_change hpk hop hd faults _ body

theorem consistent_initial : Consistent pk config .initial :=
  ⟨fun _ h => absurd h List.not_mem_nil, fun _ h => absurd h List.not_mem_nil⟩

/-- A run of requests from tables that agree. -/
theorem serve_all (hpk : Jcs pk) (requests : List Request) {s : Store} (hs : Consistent pk config s) :
    let t := requests.foldl (fun s r => ((audit pk config r.faults r.path r.envelope).on s).2) s
    Consistent pk config t ∧ Extends s t := by
  induction requests generalizing s with
  | nil => exact ⟨hs, .refl s⟩
  | cons r requests ih =>
    obtain ⟨hnext, hextends, -⟩ := keeps_audit hpk r.faults r.path r.envelope s hs
    obtain ⟨hlast, hextends'⟩ := ih hnext
    exact ⟨hlast, hextends.trans hextends'⟩

/-- After any requests, in any order and with any envelopes, the events of each operation are those that its state
    asks for, and it has a receipt just when it is confirmed; every event is of an operation; further requests only
    append events and keep what each row holds; and a request that raises leaves the tables as they are. -/
theorem audit_log (hpk : Jcs pk) (requests : List Request) :
    (∀ row ∈ (served pk config requests).operations.rows,
      (∃ kinds ∈ histories row.state,
        List.Forall₂ (Records pk config row) kinds (eventsOf (served pk config requests) row.id)) ∧
      (row.receipt.isSome = true ↔ row.state = .confirmedSuccess)) ∧
    (∀ e ∈ (served pk config requests).events.rows, ∃ row ∈ (served pk config requests).operations.rows,
      e ∈ eventsOf (served pk config requests) row.id) ∧
    (∀ more, Extends (served pk config requests) (served pk config (requests ++ more))) ∧
    ∀ faults path envelope e, ((audit pk config faults path envelope).on (served pk config requests)).1 = .error e →
      ((audit pk config faults path envelope).on (served pk config requests)).2 = served pk config requests := by
  have hinitial : Consistent pk config .initial := consistent_initial
  obtain ⟨hconsistent, -⟩ := serve_all hpk requests hinitial
  refine ⟨fun row hrow => ?_, hconsistent.owned, fun more => ?_, fun faults path envelope => ?_⟩
  · exact ⟨(hconsistent.logged row hrow).history, (hconsistent.logged row hrow).receipt⟩
  · rw [served, served, List.foldl_append]
    exact (serve_all hpk more hconsistent).2
  · exact (keeps_audit hpk faults path envelope _ hconsistent).2.2

end Runs

/-! ## A small instance -/

section Sample

mutual
def decidePlain : (v : Json) → Decidable (Plain (fun _ => True) v)
  | .null => .isTrue trivial
  | .bool _ => .isTrue trivial
  | .int _ => .isTrue trivial
  | .float _ => .isFalse not_false
  | .str _ => .isTrue trivial
  | .arr xs => decidePlainList xs
  | .obj ms =>
    have := decidePlainMembers ms
    inferInstanceAs (Decidable ((ms.map Prod.fst).Pairwise (· < ·) ∧ PlainMembers (fun _ => True) ms))
def decidePlainList : (xs : List Json) → Decidable (PlainList (fun _ => True) xs)
  | [] => .isTrue trivial
  | x :: xs =>
    have := decidePlain x
    have := decidePlainList xs
    inferInstanceAs (Decidable (Plain (fun _ => True) x ∧ PlainList (fun _ => True) xs))
def decidePlainMembers : (ms : List (String × Json)) → Decidable (PlainMembers (fun _ => True) ms)
  | [] => .isTrue trivial
  | (_, x) :: ms =>
    have := decidePlain x
    have := decidePlainMembers ms
    inferInstanceAs (Decidable (Plain (fun _ => True) x ∧ PlainMembers (fun _ => True) ms))
end

instance decidablePlain : DecidablePred (Plain fun _ => True) := decidePlain

/-- Packages that write values without floats as compact JSON with sorted keys. -/
def samplePackages : Packages where
  sha256 _ := List.replicate 32 0
  normalizeNFC s := s
  floatRepr _ := []
  publicKey k := k
  publicKeyLoads _ := true
  sign _ _ := List.replicate 64 0
  verify _ _ _ := true
  floatOf _ := 0
  rfc8785 v := if Plain (fun _ => True) v then some (encodeUtf8 (dumps (fun _ => []) false v)) else none

theorem sample_writes {v : Json} {raw : Bytes} (h : samplePackages.rfc8785 v = some raw) :
    raw = encodeUtf8 (dumps (fun _ => []) false v) ∧
      loads (plainHooks samplePackages) (dumps (fun _ => []) false v) = .ok v := by
  simp only [samplePackages] at h
  split_ifs at h with hv
  refine ⟨(Option.some.inj h).symm, ?_⟩
  exact loads_dumps _ _ false (fun _ => True) (fun n _ => by simp [plainHooks, intToken_dumpInt])
    (fun ms hms => congrArg Except.ok (dict_sorted hms)) v hv

theorem sample_accepts {v : Json} : (samplePackages.rfc8785 v).isSome = true ↔ Plain (fun _ => True) v := by
  simp only [samplePackages]
  split_ifs with hv
  · exact ⟨fun _ => hv, fun _ => rfl⟩
  · exact ⟨fun h => absurd h Bool.false_ne_true, fun h => absurd h hv⟩

theorem sample_jcs : Jcs samplePackages where
  keys v raw hd h := by
    obtain ⟨rfl, hread⟩ := sample_writes h
    exact ⟨_, v, decodeUtf8_encodeUtf8 _, hread, hd, fun _ => Iff.rfl⟩
  reread v raw s w raw' h hs hw h' := by
    obtain ⟨rfl, hread⟩ := sample_writes h
    rw [decodeUtf8_encodeUtf8] at hs
    obtain rfl := Option.some.inj hs
    obtain rfl := Except.ok.inj (hread.symm.trans hw)
    exact (sample_writes h').1
  text s := sample_accepts.2 trivial
  flag b := sample_accepts.2 trivial
  null := sample_accepts.2 trivial
  dict ps w hps _ _ := by
    refine sample_accepts.2 ⟨sortedKeys_insertAll ps [] .nil, (plainMembers_iff _).2 fun m hm => ?_⟩
    rcases mem_insertAll hm with hm | hm
    · exact sample_accepts.1 (hps m hm)
    · exact absurd hm List.not_mem_nil

def sampleConfig : AuditConfig where
  secret := String.ofList (List.replicate 64 '1')
  gatePublic := String.ofList (List.replicate 64 '2')
  backendPublic := String.ofList (List.replicate 64 '3')
  evaluationId := "exercise"
  policyDigest := String.ofList (List.replicate 64 '4')

def sampleIntent : Json :=
  .obj [("action", .str "create_record"), ("args", .obj [("text", .str "t")]), ("operation_id", .str "o-1"),
    ("target", .str "sandbox/records")]

def sampleRequest (action : String) (fields : List (String × Json)) : Request where
  faults := ⟨none, none⟩
  path := "/" ++ action
  envelope := .obj [("algorithm", .str "Ed25519"),
    ("body", dict ([("kind", .str "control"), ("action", .str action), ("intent", sampleIntent)] ++ fields)),
    ("key_id", .str "gate"), ("signature", .str (String.ofList (List.replicate 128 '0')))]

/-- A request that is prepared and claimed; its second claim is answered from the row. -/
def sampleRequests : List Request :=
  [sampleRequest "prepare" [("request", .obj [("intent", sampleIntent)]), ("authorization", .null)],
    sampleRequest "claim" [], sampleRequest "claim" []]

theorem sample_audit_log :
    (∀ row ∈ (served samplePackages sampleConfig sampleRequests).operations.rows,
      (∃ kinds ∈ histories row.state, List.Forall₂ (Records samplePackages sampleConfig row) kinds
        (eventsOf (served samplePackages sampleConfig sampleRequests) row.id)) ∧
      (row.receipt.isSome = true ↔ row.state = .confirmedSuccess)) ∧
    Extends (served samplePackages sampleConfig sampleRequests)
      (served samplePackages sampleConfig (sampleRequests ++ sampleRequests)) :=
  ⟨(audit_log sample_jcs sampleRequests).1, (audit_log sample_jcs sampleRequests).2.2.1 sampleRequests⟩

end Sample
end VapEvidence.RecordGate
