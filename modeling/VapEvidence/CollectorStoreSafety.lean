import VapEvidence.CollectorTransactions
import VapEvidence.EditorRoundTrip

set_option autoImplicit false

/-!
# Collections are stored once

On every run of a metadata collector a collection and a request are stored at most once, a stored
intent gets its receipt again, and a status tells what was stored when its query was answered.
-/
namespace VapEvidence.Collector.Metadata
open Json Incident Transaction Interleaving
open Assessor (sampleWriter sampleTime writer_reads)
open Publication (digestHex_hex sampleWriter_standard sampleWriter_signs sampleWriter_compact)

/-! ## Logs -/

/-- What holds between any two elements of the one list holds between those of the other that they stand for. -/
theorem forall₂_pairwise {α β : Type} {R : α → β → Prop} {S : β → β → Prop} {T : α → α → Prop} {l : List α} {m : List β}
    (h : List.Forall₂ R l m) (hm : m.Pairwise S) (ht : ∀ a a' b b', R a b → R a' b' → S b b' → T a a') : l.Pairwise T := by
  induction h with
  | nil => exact .nil
  | @cons a b l m hab hrest ih =>
    obtain ⟨hfirst, hm⟩ := List.pairwise_cons.1 hm
    refine .cons (fun a' ha' => ?_) (ih hm)
    obtain ⟨b', hb', hr⟩ := forall₂_left hrest ha'
    exact ht a a' b b' hab hr (hfirst b' hb')

/-- The intent and the receipt that an effect stored. -/
def stored : (e : Effect) × Answer e → Option (Json × Json)
  | ⟨.accept _ intent _, .ok (receipt, true)⟩ => some (intent, receipt)
  | _ => none

/-- What has been stored, in its order. -/
def commits (log : Log Effect Answer) : List (Json × Json) := log.filterMap fun m => stored m.2

/-- What an answer to a query says of what was stored. -/
structure Reports (pk : Packages) (commits : List (Json × Json)) (body : Json) (found : Option Found) : Prop where
  absent : found = none → ∀ p ∈ commits, (p.1.item "body").item "collection_id" ≠ body.item "collection_id"
  present : ∀ f, found = some f → (f.intent, f.receipt) ∈ commits ∧ digest pk f.intent = .ok f.requestSha256 ∧
    body.item "request_sha256" = .str f.requestSha256

/-- The kind of a receipt. -/
def IsReceipt (receipt : Json) : Prop := receipt.WF ∧ (receipt.item "body").item "kind" = .str "collection_receipt"

/-- What an effect with its answer leaves true, after what was stored before. -/
def Told (pk : Packages) (clock : ℤ) (before : List (Json × Json)) : (e : Effect) × Answer e → Prop
  | ⟨.now, r⟩ => ∃ t, timestamp r = .ok t ∧ t ≤ clock
  | ⟨.lookup _ body, .ok found⟩ => Reports pk before body found
  | ⟨.accept .., .ok (receipt, _)⟩ => IsReceipt receipt
  | _ => True

section Runs
variable {pk : Packages} (server : Server pk)

structure Consistent (s : State) (log : Log Effect Answer) : Prop where
  identity : storedIdentity pk s.1 = .ok server.identity
  rows : List.Forall₂ (fun p r => Readable server s.2 r p.1 p.2) (commits log) s.1.collections.rows
  told : ∀ before m after, log = before ++ m :: after → Told pk s.2 (commits before) m.2

theorem Told.later {clock clock' : ℤ} {before : List (Json × Json)} {m : (e : Effect) × Answer e}
    (h : Told pk clock before m) (hle : clock ≤ clock') : Told pk clock' before m := by
  obtain ⟨e, r⟩ := m
  cases e with
  | now =>
    obtain ⟨t, ht, htc⟩ := h
    exact ⟨t, ht, htc.trans hle⟩
  | lookup query body => cases r <;> exact h
  | accept drop intent body => cases r <;> exact h
  | _ => trivial

theorem commits_snoc (log : Log Effect Answer) (m : ℕ × ((e : Effect) × Answer e)) :
    commits (log ++ [m]) = commits log ++ (stored m.2).toList := by
  rw [commits, commits, List.filterMap_append]
  cases h : stored m.2 <;> simp [h]

/-- An effect keeps the store consistent that adds the rows of what it stored and tells the truth. -/
theorem Consistent.snoc {s t : State} {log : Log Effect Answer} {i : ℕ} {o : (e : Effect) × Answer e} {rows : List Row}
    (h : Consistent server s log) (hidentity : t.1.identityJson = s.1.identityJson) (hclock : s.2 ≤ t.2)
    (hrows : t.1.collections.rows = s.1.collections.rows ++ rows)
    (hnew : List.Forall₂ (fun p r => Readable server t.2 r p.1 p.2) (stored o).toList rows)
    (htold : Told pk t.2 (commits log) o) : Consistent server t (log ++ [(i, o)]) := by
  refine ⟨?_, ?_, fun before m after hsplit => ?_⟩
  · rw [← h.identity]
    simp only [storedIdentity, hidentity]
  · rw [commits_snoc, hrows]
    exact List.rel_append (h.rows.imp fun _ _ hr => hr.later server hclock) hnew
  · rcases List.eq_nil_or_concat after with rfl | ⟨after', n, rfl⟩
    · obtain ⟨rfl, hm⟩ := List.append_inj' hsplit rfl
      obtain rfl := List.singleton_inj.1 hm
      exact htold
    · rw [List.concat_eq_append, ← List.cons_append, ← List.append_assoc] at hsplit
      obtain ⟨hlog, -⟩ := List.append_inj' hsplit rfl
      exact (h.told before m after' hlog).later hclock

/-- What a program has established before an effect. -/
def Signs (pk : Packages) (h : History Effect Answer) (body : Json) : Prop :=
  (∃ query b d nonce found now, ⟨.lookup query b, .ok found⟩ ∈ h ∧ digest pk query = .ok d ∧ query.WF ∧
    b = query.item "body" ∧ body = statusBody b d nonce found now) ∨
  ∃ drop intent b receipt flag, ⟨.accept drop intent b, .ok (receipt, flag)⟩ ∈ h ∧ body = wrongReceipt receipt

def Allowed (_ : Request) (h : History Effect Answer) : Effect → Prop
  | .accept _ intent body => Accepted server intent body ∧ ∃ now created t, ⟨.now, now⟩ ∈ h ∧
    timestamp (body.item "created_at") = .ok created ∧ timestamp now = .ok t ∧ created ≤ t
  | .sign body => Signs pk h body
  | _ => True

theorem row_receipt (hread : ReadsBack pk) {now : Json} {r : Row} {f : Found} (h : row server now r = .ok f) :
    IsReceipt f.receipt := by
  unfold row at h
  iterate 3 obtain ⟨_, -, h⟩ := bind_ok h
  obtain ⟨intent, -, h⟩ := bind_ok h
  obtain ⟨receipt, hreceipt, h⟩ := bind_ok h
  iterate 4 obtain ⟨_, -, h⟩ := bind_ok h
  obtain ⟨b, hverified, h⟩ := bind_ok h
  cases h
  obtain ⟨text, -, hloads, -⟩ := decodeJson_ok hreceipt
  have hwf : receipt.WF := loads_closed controlHooks_closed hloads
  unfold verifyReceipt at hverified
  obtain ⟨_, -, hverified⟩ := bind_ok hverified
  obtain ⟨_, -, hverified⟩ := bind_ok hverified
  obtain ⟨body, hbody, -⟩ := bind_ok hverified
  obtain ⟨rfl, -, -, hkind⟩ := verifyControl_ok hread hwf hbody
  exact ⟨hwf, item_of_get? hkind⟩

theorem signed_receipt (hread : ReadsBack pk) {body now receipt : Json} {d uuid : String} (hb : body.WF)
    (hn : now.WF) (h : signControl pk (receiptBody body d now uuid) server.secret server.collectorKeyId = .ok receipt) :
    IsReceipt receipt := by
  obtain ⟨owned, howned, hitem, hwf⟩ := signControl_ok h
  have hbody : (receiptBody body d now uuid).WF := dict_wf (by simp [WF, wf_item hb, hn])
  rw [capture_eq hread hbody howned] at hitem
  refine ⟨hwf, ?_⟩
  rw [hitem]
  exact item_of_get? (receiptBody_items body d now uuid).2.2.2.2.2.2.2

theorem count_keeps {s t : Store} {status : Bool} {r : Run Unit} (h : (count server status).on s = (r, t)) :
    t.identityJson = s.identityJson ∧ t.collections = s.collections := by
  rw [count, on_get_bind, on_bind, on_perform] at h
  cases hc : checkIdentity server changed s with
  | ok _ =>
    rw [hc] at h
    obtain rfl := congrArg Prod.snd h
    cases status <;> exact ⟨rfl, rfl⟩
  | error e =>
    rw [hc] at h
    obtain rfl := congrArg Prod.snd h
    exact ⟨rfl, rfl⟩

/-- Every effect of a request keeps the store consistent. -/
theorem consistent_exec (hstd : pk.toPlatform.Standard) (hsig : pk.toPlatform.Signs) (hpk : WritesCompactly pk)
    (hread : ReadsBack pk) {i : ℕ} {s t : State} {log : Log Effect Answer} {e : Effect} {r : Answer e}
    (h : Consistent server s log) (hallowed : ∃ q, Allowed server q (history i log) e) (hx : exec server s e t r) :
    Consistent server t (log ++ [(i, ⟨e, r⟩)]) := by
  cases e with
  | count status =>
    obtain ⟨hclock, hcount⟩ := hx
    have hkeeps : t.1.identityJson = s.1.identityJson ∧ t.1.collections = s.1.collections := by
      rcases hcount with hcount | ⟨-, ht⟩
      · exact count_keeps server hcount
      · rw [ht]
        exact ⟨rfl, rfl⟩
    exact h.snoc server hkeeps.1 hclock (by rw [hkeeps.2, List.append_nil]) .nil trivial
  | now =>
    obtain ⟨ht, hr, hclock⟩ := hx
    exact h.snoc server (by rw [ht]) hclock (by rw [ht, List.append_nil]) .nil ⟨t.2, hr, le_rfl⟩
  | accept drop intent body =>
    obtain ⟨now, uuid, ⟨hnow, hclock⟩, huuid, hx | ⟨rfl, ht⟩⟩ := hx
    · rcases acceptTransaction_cases server hx with ⟨⟨e, rfl⟩, ht⟩ | ⟨d, f, -, hfind, rfl, ht⟩ |
        ⟨d, receipt, r, hd, -, hsign, hrow, rfl, hidentity, hrows⟩
      · exact h.snoc server (by rw [ht]) hclock (by rw [ht, List.append_nil]) .nil trivial
      · obtain ⟨r, -, hr⟩ := find_some server hfind
        exact h.snoc server (by rw [ht]) hclock (by rw [ht, List.append_nil]) .nil (row_receipt server hread hr)
      · obtain ⟨q, haccepted, earlier, created, u, hearlier, hcreated, hu, hle⟩ := hallowed
        obtain ⟨before, after, hsplit⟩ := List.append_of_mem (mem_history.1 hearlier)
        obtain ⟨u', hu', hle'⟩ := h.told before _ after hsplit
        rw [hu] at hu'
        obtain rfl := Except.ok.inj hu'
        obtain ⟨text, rfl, -⟩ := Publication.timestamp_length hnow
        obtain ⟨hbody, -, -, -⟩ := verifyControl_ok hread haccepted.wf haccepted.verified
        refine h.snoc server hidentity hclock hrows (.cons ?_ .nil) ?_
        · exact row_readable server hstd hsig hpk hread haccepted hd hcreated hnow (hle.trans (hle'.trans hclock)) huuid hsign hrow
        · exact signed_receipt server hread (hbody ▸ wf_item haccepted.wf "body") (show (Json.str text).WF from trivial) hsign
    · exact h.snoc server (by rw [ht]) hclock (by rw [ht, List.append_nil]) .nil trivial
  | find body =>
    obtain ⟨ht, now, ⟨-, hclock⟩, -⟩ := hx
    exact h.snoc server (by rw [ht]) hclock (by rw [ht, List.append_nil]) .nil trivial
  | lookup query body =>
    obtain ⟨ht, now, ⟨hnow, hclock⟩, hx | rfl⟩ := hx
    · refine h.snoc server (by rw [ht]) hclock (by rw [ht, List.append_nil]) .nil ?_
      cases r with
      | error e => trivial
      | ok found =>
        obtain ⟨hfind, hanswers⟩ := lookupTransaction_ok server hx.symm
        refine ⟨fun hf p hp hsame => ?_, fun f hf => ?_⟩
        · subst hf
          obtain ⟨r, hr, hreadable⟩ := forall₂_left h.rows hp
          have hfresh := (find_none server hfind hr).1
          rw [sameCollection, decide_eq_false_iff_not] at hfresh
          exact hfresh (hsame.symm.trans hreadable.collection)
        · subst hf
          obtain ⟨r, hr, hrow⟩ := find_some server hfind
          obtain ⟨p, hp, hreadable⟩ := forall₂_right h.rows hr
          rw [hreadable.row now t.2 hnow hclock] at hrow
          obtain rfl := Except.ok.inj hrow
          have hsame := hanswers _ rfl
          simp only [Found.answers, Bool.and_eq_true, decide_eq_true_eq] at hsame
          exact ⟨hp, hreadable.digest, hsame.2⟩
    · exact h.snoc server (by rw [ht]) hclock (by rw [ht, List.append_nil]) .nil trivial
  | sign body =>
    obtain ⟨rfl, -⟩ := hx
    exact h.snoc server rfl le_rfl (List.append_nil _).symm .nil trivial

/-! ## Programs -/

theorem received_ok (hread : ReadsBack pk) {raw : Bytes} {message : Json × Json} {path : Endpoint}
    (h : received server path raw = .ok message) : message.1.WF ∧ message.2 = message.1.item "body" ∧
      (path = .collect → verifyControl pk message.1 server.gatewayPublic server.gatewayKeyId "collection_intent" = .ok message.2 ∧
        validateIntent pk message.2 = .ok message.2) := by
  obtain ⟨value, hvalue, h⟩ := bind_ok h
  obtain ⟨signed, hsigned, h⟩ := bind_ok h
  obtain ⟨body, hbody, h⟩ := bind_ok h
  cases h
  obtain ⟨s, -, hloads, -⟩ := decodeJson_ok hvalue
  have hwf : value.WF := loads_closed controlHooks_closed hloads
  obtain ⟨hitem, -, -, -⟩ := verifyControl_ok hread hwf hsigned
  have hsignedWf : signed.WF := hitem ▸ wf_item hwf "body"
  cases path with
  | collect =>
    obtain ⟨hsame, -, -⟩ := validateIntent_ok hread hsignedWf hbody
    rw [hsame] at hbody ⊢
    exact ⟨hwf, hitem, fun _ => ⟨hsigned, hbody⟩⟩
  | status =>
    have hsame := validateQuery_eq hread hsignedWf hbody
    rw [hsame]
    exact ⟨hwf, hitem, fun h => nomatch h⟩

theorem applicable_along (q : Request) (body : Json) (h : History Effect Answer) :
    Prog.Along (Allowed server q) (fun h' r => ∀ u, r = .ok u → body.item "collector_id" = .str server.collectorId ∧
      ∃ now created t, ⟨.now, now⟩ ∈ h' ∧ timestamp (body.item "created_at") = .ok created ∧ timestamp now = .ok t ∧
        created ≤ t) (applicable server body) h := by
  unfold applicable
  split_ifs with hc
  · refine ⟨trivial, fun now u hu => ⟨hc, ?_⟩⟩
    obtain ⟨created, hcreated, hu⟩ := bind_ok hu
    obtain ⟨t, ht, hu⟩ := bind_ok hu
    exact ⟨now, created, t, List.mem_append_right _ (List.mem_singleton_self _), hcreated, ht,
      of_decide_eq_true (Incident.require_ok hu)⟩
  · exact fun u hu => nomatch hu

theorem accept_along {q : Request} {mode : Mode} {intent body : Json} {h : History Effect Answer}
    (ha : ∀ drop, Allowed server q h (.accept drop intent body)) :
    Prog.Along (Allowed server q) (fun h' r => ∀ receipt, r = .ok receipt →
      ∃ drop flag, ⟨.accept drop intent body, .ok (receipt, flag)⟩ ∈ h') (accept pk mode intent body) h := by
  refine ⟨ha _, fun r => ?_⟩
  cases r with
  | error e => exact fun _ hr => nomatch hr
  | ok answer =>
    obtain ⟨receipt, flag⟩ := answer
    cases flag with
    | false =>
      intro receipt' hr
      cases hr
      exact ⟨_, false, List.mem_append_right _ (List.mem_singleton_self _)⟩
    | true =>
      refine ⟨trivial, fun persisted => ?_⟩
      cases persisted with
      | error e => exact fun _ hr => nomatch hr
      | ok persisted =>
        intro receipt' hr
        obtain ⟨d, -, hr⟩ := bind_ok hr
        cases persisted with
        | none => cases hr
        | some f =>
          obtain ⟨_, hconfirmed, hr⟩ := bind_ok hr
          cases hr
          have hsame := Incident.require_ok hconfirmed
          simp only [Bool.and_eq_true, decide_eq_true_eq] at hsame
          rw [hsame.2]
          exact ⟨_, true, List.mem_append_left _ (List.mem_append_right _ (List.mem_singleton_self _))⟩

theorem lookup_along {q : Request} {mode : Mode} {query : Json} {h : History Effect Answer} (hw : query.WF) :
    Prog.Along (Allowed server q) (fun _ _ => True) (lookup pk mode query (query.item "body")) h := by
  refine ⟨trivial, fun r => ?_⟩
  cases r with
  | error e => trivial
  | ok found =>
    refine Prog.Along.andThen (p := Prog.ret (digest pk query)) ?_
    cases hd : digest pk query with
    | error e => trivial
    | ok d =>
      refine ⟨trivial, fun now => ⟨.inl ⟨query, _, d, _, found, now, ?_, hd, hw, rfl, rfl⟩, fun _ => trivial⟩⟩
      exact List.mem_append_left _ (List.mem_append_right _ (List.mem_singleton_self _))

theorem collected_along {q : Request} {mode : Mode} {receipt : Json} {h : History Effect Answer}
    (hr : ∃ drop intent body flag, ⟨.accept drop intent body, .ok (receipt, flag)⟩ ∈ h) :
    Prog.Along (Allowed server q) (fun _ _ => True) (collected mode receipt) h := by
  obtain ⟨drop, intent, body, flag, hm⟩ := hr
  cases mode with
  | wrongReceipt => exact ⟨.inr ⟨drop, intent, body, receipt, flag, hm, rfl⟩, fun _ => trivial⟩
  | _ => trivial

/-- A request stores what it has verified, and signs what it has found. -/
theorem post_along (hread : ReadsBack pk) (q : Request) :
    Prog.Along (Allowed server q) (fun _ _ => True) (post server q) [] := by
  refine Prog.Along.bind (f := fun r => Prog.ret (respond r)) ⟨trivial, fun counted => ?_⟩
  cases counted with
  | error e => trivial
  | ok _ =>
    refine Prog.Along.andThen (p := Prog.ret (received server q.path q.raw)) ?_
    cases hreceived : received server q.path q.raw with
    | error e => trivial
    | ok message =>
      obtain ⟨hwf, hbody, hintent⟩ := received_ok server hread hreceived
      refine Prog.Along.andThen ((applicable_along server q message.2 _).mono fun h r hr => ?_)
      cases r with
      | error e => trivial
      | ok _ =>
        obtain ⟨hcollector, htimely⟩ := hr _ rfl
        cases hpath : q.path with
        | collect =>
          obtain ⟨hverified, hvalid⟩ := hintent hpath
          refine Prog.Along.andThen ((accept_along server fun drop =>
            ⟨⟨hwf, hverified, hvalid, hcollector⟩, htimely⟩).mono fun h' r hr => ?_)
          cases r with
          | error e => trivial
          | ok receipt =>
            obtain ⟨drop, flag, hm⟩ := hr receipt rfl
            exact collected_along server ⟨drop, _, _, flag, hm⟩
        | status =>
          rw [hbody]
          refine Prog.Along.andThen ((lookup_along server hwf).mono fun h' r _ => ?_)
          cases r <;> trivial

/-! ## Reachable stores -/

theorem initializeStore_new {s : Store} (h : initializeStore server none = .ok s) :
    storedIdentity pk s = .ok server.identity ∧ s.collections.rows = [] := by
  obtain ⟨text, -, h⟩ := bind_ok h
  obtain ⟨_, hcheck, h⟩ := bind_ok h
  cases h
  obtain ⟨identity, hidentity, hcheck⟩ := bind_ok hcheck
  refine ⟨?_, rfl⟩
  rw [hidentity, of_decide_eq_true (Incident.require_ok hcheck)]

/-- Starting on a store that exists changes nothing. -/
theorem initializeStore_existing {s t : Store} (h : initializeStore server (some s) = .ok t) : t = s := by
  obtain ⟨_, -, h⟩ := bind_ok h
  exact (Except.ok.inj h).symm

theorem Consistent.restarted {s t : State} {log : Log Effect Answer} (h : Consistent server s log) (hclock : s.2 ≤ t.2)
    (ht : t.1 = s.1 ∨ ∃ other : Server pk, initializeStore other (some s.1) = .ok t.1) : Consistent server t log := by
  have hsame : t.1 = s.1 := by
    rcases ht with ht | ⟨other, ht⟩
    · exact ht
    · exact initializeStore_existing other ht
  refine ⟨hsame ▸ h.identity, ?_, fun before m after hsplit => (h.told before m after hsplit).later hclock⟩
  rw [hsame]
  exact h.rows.imp fun _ _ hr => hr.later server hclock

theorem reachable_consistent (hstd : pk.toPlatform.Standard) (hsig : pk.toPlatform.Signs) (hpk : WritesCompactly pk)
    (hread : ReadsBack pk) {w : CollectorRuns} (h : Reachable server w) : Consistent server w.shared.1 w.shared.2 := by
  obtain ⟨s, clock, hs, hrun⟩ := h
  obtain ⟨hidentity, hrows⟩ := initializeStore_new server hs
  have hinitial : Consistent server (s, clock) [] := by
    refine ⟨hidentity, ?_, fun before m after hsplit => by simp at hsplit⟩
    change List.Forall₂ _ [] s.collections.rows
    rw [hrows]
    exact .nil
  refine inv_along (P := Allowed server) (Q := fun _ _ _ => True) (I := Consistent server) (post_along server hread) ?_ ?_
    Relation.ReflTransGen.refl hinitial hrun
  · intro i s log e t r hc hallowed hx
    exact consistent_exec server hstd hsig hpk hread hc hallowed hx
  · rintro s t log hc ⟨hclock, ht⟩
    exact hc.restarted server hclock ht

/-- Two stored intents have neither a collection nor a request in common. -/
theorem commits_unique {s : State} {log : Log Effect Answer} (h : Consistent server s log) :
    (commits log).Pairwise fun p q => (p.1.item "body").item "collection_id" ≠ (q.1.item "body").item "collection_id" ∧
      (p.1.item "body").item "request_id" ≠ (q.1.item "body").item "request_id" := by
  refine forall₂_pairwise h.rows s.1.collections.unique fun p q r r' hr hr' hne => ?_
  rw [hr.collection, hr'.collection, hr.request, hr'.request]
  exact ⟨fun he => hne (.inl (Json.str.inj he)), fun he => hne (.inr (Json.str.inj he))⟩

theorem commits_eq {s : State} {log : Log Effect Answer} (h : Consistent server s log) {p q : Json × Json}
    (hp : p ∈ commits log) (hq : q ∈ commits log)
    (he : (p.1.item "body").item "collection_id" = (q.1.item "body").item "collection_id") : p = q := by
  by_contra hne
  have hsymm : Std.Symm fun p q : Json × Json => (p.1.item "body").item "collection_id" ≠
      (q.1.item "body").item "collection_id" ∧ (p.1.item "body").item "request_id" ≠ (q.1.item "body").item "request_id" :=
    ⟨fun _ _ h => ⟨h.1.symm, h.2.symm⟩⟩
  exact ((commits_unique server h).forall hp hq hne).1 he

/-! ## Statuses -/

/-- What a status establishes that is verified for a query about an intent. -/
theorem verifyStatus_ok (hread : ReadsBack pk) {status query intent at_ body : Json} {public_ keyId : String}
    (hstatus : status.WF) (hquery : query.WF) (hintent : intent.WF)
    (h : verifyStatus pk status query intent public_ keyId at_ = .ok body) :
    ∃ d dq, digest pk intent = .ok d ∧ digest pk query = .ok dq ∧
      (query.item "body").item "collection_id" = (intent.item "body").item "collection_id" ∧
      (query.item "body").item "request_sha256" = .str d ∧ body.item "kind" = .str "collection_status" ∧
      body.item "query_sha256" = .str dq ∧ body.item "nonce" = (query.item "body").item "nonce" := by
  unfold verifyStatus at h
  obtain ⟨intent', henvelope, h⟩ := bind_ok h
  rw [envelope_eq hread hintent henvelope] at h
  obtain ⟨original, horiginal, h⟩ := bind_ok h
  rw [(validateIntent_ok hread (wf_item hintent _) horiginal).1] at h
  obtain ⟨query', henvelope', h⟩ := bind_ok h
  rw [envelope_eq hread hquery henvelope'] at h
  obtain ⟨requested, hrequested, h⟩ := bind_ok h
  rw [validateQuery_eq hread (wf_item hquery _) hrequested] at h
  obtain ⟨d, hd, h⟩ := bind_ok h
  obtain ⟨_, -, h⟩ := bind_ok h
  obtain ⟨_, -, h⟩ := bind_ok h
  obtain ⟨_, hasked, h⟩ := bind_ok h
  obtain ⟨answered, hanswered, h⟩ := bind_ok h
  obtain ⟨answered', hexact, h⟩ := bind_ok h
  iterate 4 obtain ⟨_, -, h⟩ := bind_ok h
  obtain ⟨dq, hdq, h⟩ := bind_ok h
  obtain ⟨_, hbinds, h⟩ := bind_ok h
  obtain ⟨_, -, hexact⟩ := bind_ok hexact
  cases hexact
  have ha := Incident.require_ok hasked
  have hb := Incident.require_ok hbinds
  simp only [Bool.and_eq_true, decide_eq_true_eq] at ha hb
  obtain ⟨-, -, -, hkind⟩ := verifyControl_ok hread hstatus hanswered
  have hbody : answered = body := by
    iterate 5 obtain ⟨_, -, h⟩ := bind_ok h
    split_ifs at h
    · obtain ⟨_, -, h⟩ := bind_ok h
      exact Except.ok.inj h
    · obtain ⟨_, -, h⟩ := bind_ok h
      exact Except.ok.inj h
    · cases h
  subst hbody
  exact ⟨d, dq, hd, hdq, binds_item ha.1.1 (by simp), ha.1.2, item_of_get? hkind, hb.2, binds_item hb.1 (by simp)⟩

theorem statusBody_items (b : Json) (d nonce : String) (found : Option Found) (now : Json) :
    (statusBody b d nonce found now).item "query_sha256" = .str d ∧
      (statusBody b d nonce found now).item "status" = .str (if found.isSome then "FOUND" else "NOT_FOUND") ∧
      (statusBody b d nonce found now).item "receipt" = (found.map Found.receipt).getD .null :=
  ⟨item_dict (by simp) (by simp), item_dict (by simp) (by simp), item_dict (by simp) (by simp)⟩

/-- A receipt for another digest is still a receipt. -/
theorem wrongReceipt_kind {receipt : Json} (h : IsReceipt receipt) :
    (wrongReceipt receipt).item "kind" = .str "collection_receipt" := by
  obtain ⟨hwf, hkind⟩ := h
  refine item_of_get? ?_
  rw [wrongReceipt, get?_dict, List.reverse_append]
  change ((_, _) :: (receipt.item "body").members.reverse).lookup "kind" = _
  rw [List.lookup_cons]
  have hbody := wf_item hwf "body"
  cases hv : receipt.item "body" with
  | obj ms =>
    rw [hv] at hbody hkind
    have hmem : ("kind", Json.str "collection_receipt") ∈ ms := by
      cases hl : ms.lookup "kind" with
      | none => simp [item, get?, members, hl] at hkind
      | some v =>
        simp only [item, get?, members, hl, Option.getD_some] at hkind
        exact hkind ▸ mem_of_lookup hl
    refine lookup_of_mem (q := ("kind", Json.str "collection_receipt")) ?_ (List.mem_reverse.2 hmem)
    rw [List.map_reverse]
    exact (List.reverse_perm _).nodup_iff.2 hbody.1.nodup
  | _ => rw [hv] at hkind; cases hkind

/-- The body was signed for a status or a receipt. -/
def Signed (log : Log Effect Answer) (body : Json) : Prop := ∃ i r, (i, ⟨.sign body, .ok r⟩) ∈ log

/-- A status that verifies was signed for an answer to its own query. -/
theorem status_answered (hread : ReadsBack pk) {w : CollectorRuns} (h : Reachable server w)
    (hc : Consistent server w.shared.1 w.shared.2) {body query : Json} {dq : String}
    (hkind : body.item "kind" = .str "collection_status") (hsigned : Signed w.shared.2 body)
    (hdq : digest pk query = .ok dq) (hquery : body.item "query_sha256" = .str dq)
    (hfresh : ∀ i q b r, (i, ⟨.lookup q b, r⟩) ∈ w.shared.2 → digest pk q = digest pk query → q = query) :
    ∃ i before after found nonce now, w.shared.2 = before ++ (i, ⟨.lookup query (query.item "body"), .ok found⟩) :: after ∧
      body = statusBody (query.item "body") dq nonce found now := by
  obtain ⟨i, r, hm⟩ := hsigned
  obtain ⟨earlier, later, hsplit⟩ := List.append_of_mem hm
  obtain ⟨s, clock, -, hrun⟩ := h
  obtain ⟨q, -, hallowed⟩ := occurs_run (post_along server hread) hrun hsplit
  rcases hallowed with ⟨query', b, d, nonce, found, now, hlookup, hd, -, rfl, rfl⟩ | ⟨drop, intent, b, receipt, flag, haccept, rfl⟩
  · have hmem : (i, ⟨.lookup query' (query'.item "body"), .ok found⟩) ∈ w.shared.2 := by
      rw [hsplit]
      exact List.mem_append_left _ (mem_history.1 hlookup)
    rw [(statusBody_items _ d nonce found now).1] at hquery
    obtain rfl := Json.str.inj hquery
    obtain rfl := hfresh i query' _ _ hmem (hd.trans hdq.symm)
    obtain ⟨before, after, hlog⟩ := List.append_of_mem hmem
    exact ⟨i, before, after, found, nonce, now, hlog, rfl⟩
  · have hmem : (i, ⟨.accept drop intent b, .ok (receipt, flag)⟩) ∈ w.shared.2 := by
      rw [hsplit]
      exact List.mem_append_left _ (mem_history.1 haccept)
    obtain ⟨before, after, hlog⟩ := List.append_of_mem hmem
    have hreceipt : IsReceipt receipt := hc.told before _ after hlog
    rw [wrongReceipt_kind hreceipt] at hkind
    exact absurd (Json.str.inj hkind) (by decide)

/-! ## The run of one request -/

/-- What is left to do when the transaction of an intent has answered. -/
def replied (pk : Packages) (mode : Mode) (intent body : Json) (answer : Run (Json × Bool)) : Program Response :=
  (((Prog.ret answer : Program (Run (Json × Bool))).andThen fun a =>
    if a.2 then
      (effect (.find body) fun r => r).andThen fun persisted => .ret (confirm pk intent a.1 persisted)
    else .ret (.ok a.1)).andThen (collected mode)).bind fun r => .ret (respond r)

/-- What is left to do when an intent was found to be for this collector and timely, or not. -/
def checked (pk : Packages) (mode : Mode) (intent body : Json) (r : Run Unit) : Program Response :=
  ((Prog.ret r : Program (Run Unit)).andThen fun _ => (accept pk mode intent body).andThen (collected mode)).bind
    fun r => .ret (respond r)

theorem checked_ok (pk : Packages) (mode : Mode) (intent body : Json) : checked pk mode intent body (.ok ()) =
    .eff (.accept (decide (mode = .dropBeforeCommit)) intent body) (replied pk mode intent body) := rfl

/-- The effects of a request with an intent for this collector. -/
theorem post_collect {mode : Mode} {raw : Bytes} {intent body : Json} {created : ℤ}
    (hreceived : received server .collect raw = .ok (intent, body))
    (hcollector : body.item "collector_id" = .str server.collectorId)
    (hcreated : timestamp (body.item "created_at") = .ok created) :
    ∃ k k', post server ⟨mode, .collect, raw⟩ = .eff (.count false) k ∧ k (.ok ()) = .eff .now k' ∧
      ∀ now t, timestamp now = .ok t → created ≤ t → k' now = checked pk mode intent body (.ok ()) := by
  refine ⟨_, fun now => checked pk mode intent body do
    let created ← timestamp (body.item "created_at")
    let current ← timestamp now
    Incident.require (created ≤ current) inapplicable, rfl, ?_, fun now t hnow hle => ?_⟩
  · change Prog.bind (Prog.andThen (Prog.ret (received server .collect raw)) _) _ = _
    rw [hreceived]
    change Prog.bind (Prog.andThen (applicable server body) _) _ = _
    rw [applicable, if_pos hcollector]
    rfl
  · have hrequired : Incident.require (decide (created ≤ t)) inapplicable = .ok () := require_true (decide_eq_true hle)
    simp only [hcreated, hnow, bind, Except.bind, hrequired]

theorem count_ok {s : Store} (h : storedIdentity pk s = .ok server.identity) (status : Bool) :
    (count server status).on s =
      (.ok (), if status then { s with statusCalls := s.statusCalls + 1 } else { s with collectCalls := s.collectCalls + 1 }) := by
  rw [count, on_get_bind, on_perform_bind (checkIdentity_ok server changed h), on_set]

theorem storedIdentity_congr {s s' : Store} (h : s'.identityJson = s.identityJson) : storedIdentity pk s' = storedIdentity pk s := by
  simp only [storedIdentity, h]

theorem spawn_step {w : CollectorRuns} {i : ℕ} (q : Request) (hidle : w.procs i = .idle) :
    ∃ w', Step (semantics server).logged (fun _ _ => True) (post server) w w' ∧ w'.shared = w.shared ∧
      w'.procs i = .live q (post server q) :=
  ⟨{ w with procs := Function.update w.procs i (.live q (post server q)) }, .spawn i q hidle trivial, rfl, Function.update_self ..⟩

theorem effect_step {w : CollectorRuns} {i : ℕ} {q : Request} {e : Effect} {k : Answer e → Program Response} {t : State}
    {r : Answer e} (hw : w.procs i = .live q (.eff e k)) (hx : exec server w.shared.1 e t r) :
    ∃ w', Step (semantics server).logged (fun _ _ => True) (post server) w w' ∧
      w'.shared = (t, w.shared.2 ++ [(i, ⟨e, r⟩)]) ∧ w'.procs i = .live q (k r) :=
  ⟨⟨(t, w.shared.2 ++ [(i, ⟨e, r⟩)]), Function.update w.procs i (.live q (k r))⟩, .run i hw ⟨hx, rfl⟩, rfl,
    Function.update_self ..⟩

/-- A request with an intent reaches the transaction, which answers. -/
theorem accept_run {w : CollectorRuns} {i : ℕ} {mode : Mode} {raw : Bytes} {intent body now : Json} {uuid : String}
    {created t : ℤ} {answer : Run (Json × Bool)} {s' : Store} (hidentity : storedIdentity pk w.shared.1.1 = .ok server.identity)
    (hidle : w.procs i = .idle) (hreceived : received server .collect raw = .ok (intent, body))
    (hcollector : body.item "collector_id" = .str server.collectorId)
    (hcreated : timestamp (body.item "created_at") = .ok created) (hnow : timestamp now = .ok t) (hle : created ≤ t)
    (hclock : w.shared.1.2 ≤ t) (huuid : isUuid uuid)
    (ha : (acceptTransaction server (decide (mode = .dropBeforeCommit)) now uuid intent body).on
      { w.shared.1.1 with collectCalls := w.shared.1.1.collectCalls + 1 } = (answer, s')) :
    ∃ w', Interleaving.Run (semantics server).logged (fun _ _ => True) (post server) w w' ∧ w'.shared.1 = (s', t) ∧
      commits w'.shared.2 = commits w.shared.2 ++
        (stored ⟨.accept (decide (mode = .dropBeforeCommit)) intent body, answer⟩).toList ∧
      w'.procs i = .live ⟨mode, .collect, raw⟩ (replied pk mode intent body answer) := by
  obtain ⟨k, k', hk, hk', hchecked⟩ := @post_collect _ server mode _ _ _ _ hreceived hcollector hcreated
  obtain ⟨w₀, hspawn, hshared₀, hprocs₀⟩ := spawn_step server ⟨mode, .collect, raw⟩ hidle
  rw [hk] at hprocs₀
  obtain ⟨w₁, hcount, hshared₁, hprocs₁⟩ := effect_step server hprocs₀
    (t := ({ w.shared.1.1 with collectCalls := w.shared.1.1.collectCalls + 1 }, w.shared.1.2)) (e := .count false) (r := .ok ())
    ⟨by rw [hshared₀], .inl (by rw [hshared₀]; exact count_ok server hidentity false)⟩
  rw [hk'] at hprocs₁
  obtain ⟨w₂, hread, hshared₂, hprocs₂⟩ := effect_step server (t := (w₁.shared.1.1, t)) (r := now) hprocs₁
    ⟨rfl, hnow, by rw [hshared₁]; exact hclock⟩
  rw [hchecked now t hnow hle, checked_ok] at hprocs₂
  obtain ⟨w₃, haccept, hshared₃, hprocs₃⟩ := effect_step server (t := (s', t)) (r := answer) hprocs₂
    ⟨now, uuid, ⟨hnow, by rw [hshared₂]⟩, huuid, .inl (by rw [hshared₂, hshared₁]; exact ha)⟩
  refine ⟨w₃, .tail (.tail (.tail (.single hspawn) hcount) hread) haccept, by rw [hshared₃], ?_, hprocs₃⟩
  rw [hshared₃, commits_snoc, hshared₂, commits_snoc, hshared₁, commits_snoc, hshared₀]
  simp [stored]

/-- A committed intent is confirmed, and its receipt is the reply. -/
theorem confirm_run {w : CollectorRuns} {i : ℕ} {raw : Bytes} {intent receipt now : Json} {t : ℤ}
    (hc : Consistent server w.shared.1 w.shared.2) (hm : (intent, receipt) ∈ commits w.shared.2)
    (hnow : timestamp now = .ok t) (hclock : w.shared.1.2 ≤ t)
    (hw : w.procs i = .live ⟨.normal, .collect, raw⟩ (replied pk .normal intent (intent.item "body") (.ok (receipt, true)))) :
    ∃ w', Interleaving.Run (semantics server).logged (fun _ _ => True) (post server) w w' ∧
      commits w'.shared.2 = commits w.shared.2 ∧ w'.procs i = .live ⟨.normal, .collect, raw⟩ (.ret (.reply 200 receipt)) := by
  obtain ⟨r, hr, h⟩ := forall₂_left hc.rows hm
  have hfind : find server now w.shared.1.1 (intent.item "body") =
      .ok (some ⟨r.collectionId, r.requestId, r.requestSha256, intent, receipt⟩) := by
    rw [find_both server hr (decide_eq_true h.collection) (decide_eq_true h.request), h.row now t hnow hclock]
    rfl
  obtain ⟨w', hfound, hshared, hprocs⟩ := effect_step server (e := .find (intent.item "body")) (t := (w.shared.1.1, t)) hw
    ⟨rfl, now, ⟨hnow, hclock⟩, .inl rfl⟩
  refine ⟨w', .single hfound, ?_, ?_⟩
  · rw [hshared, commits_snoc]
    exact List.append_nil _
  · have hconfirm : confirm pk intent receipt (some ⟨r.collectionId, r.requestId, r.requestSha256, intent, receipt⟩) =
        .ok receipt := by
      simp only [confirm, h.digest, Incident.require, decide_true, Bool.and_self, if_true, bind, Except.bind, pure, Except.pure]
    rw [hprocs, hfind]
    change Proc.live _ (Prog.bind (Prog.andThen (Prog.ret (confirm pk intent receipt _)) _) _) = _
    rw [hconfirm]
    rfl

/-- What makes an intent valid. -/
theorem validateIntent_of {body : Json} {evaluation subject payload policy decision : String} {created : ℤ}
    (hcaptured : capture pk body = .ok body) (hfields : body.hasFields intentFields = true)
    (hkind : body.item "kind" = .str "collection_intent") (hidentity : identity pk body = .ok ())
    (hevaluation : controlText (body.item "evaluation_id") = .ok evaluation)
    (hsubject : controlHex (body.item "subject_sha256") 32 = .ok subject)
    (hpayload : controlHex (body.item "payload_sha256") 32 = .ok payload)
    (hpolicy : controlHex (body.item "policy_sha256") 32 = .ok policy)
    (hdecision : controlHex (body.item "decision_sha256") 32 = .ok decision)
    (hlength : Upload.isByteLength (body.item "byte_length") = true)
    (hcreated : timestamp (body.item "created_at") = .ok created) : validateIntent pk body = .ok body := by
  unfold validateIntent
  simp only [hcaptured, exact, hfields, hkind, hidentity, hevaluation, hsubject, hpayload, hpolicy, hdecision, hlength, hcreated,
    Incident.require, decide_true, if_true, bind, Except.bind, pure, Except.pure]

theorem received_of {raw : Bytes} {intent body : Json} (hread : Collector.decodeJson pk raw = .ok intent)
    (hverified : verifyControl pk intent server.gatewayPublic server.gatewayKeyId "collection_intent" = .ok body)
    (hvalid : validateIntent pk body = .ok body) : received server .collect raw = .ok (intent, body) := by
  simp only [received, hread, Endpoint.kind, hverified, Endpoint.validate, hvalid, bind, Except.bind, pure, Except.pure]

/-! ## Safety -/

def sampleHex : String := hex (List.replicate 32 0)

def sampleServer : Server sampleWriter where
  collectorId := "c"
  gatewayPublic := sampleHex
  gatewayKeyId := "k"
  secret := sampleHex
  collectorPublic := sampleHex
  collectorKeyId := "k"
  endpoint := "http://127.0.0.1:80"
  named := rfl
  gatewayKey := controlHex_hex rfl
  gatewayNamed := rfl
  held := controlHex_hex rfl
  keyed := by
    have hsecret : digestHex (.str sampleHex) 32 = .ok sampleHex := digestHex_hex rfl
    simp only [publicKey, hsecret, bind, Except.bind]
    rw [sampleHex, unhex_hex]
    rfl
  keyNamed := rfl
  bound := by decide +kernel

def sampleBody : Json :=
  dict [("kind", .str "collection_intent"), ("collector_id", .str "c"), ("collection_id", .str sampleHex),
    ("request_id", .str "r"), ("evaluation_id", .str "e"), ("subject_sha256", .str sampleHex),
    ("payload_sha256", .str sampleHex), ("byte_length", .int 1), ("policy_sha256", .str sampleHex),
    ("decision_sha256", .str sampleHex), ("created_at", sampleTime)]

theorem sampleBody_small : Small sampleWriter sampleBody 1 13874 := by
  refine (@Small.dict _ _ 0 386 intentFields rfl (by decide) (by decide) (by simp [intentFields]) ?_).mono (by decide) (by decide)
  have htext {t : String} (h : t.length ≤ 64) : Small sampleWriter (.str t) 0 386 := small_text h
  have hhex : sampleHex.length ≤ 64 := by
    rw [sampleHex, hex_length]
    decide
  have hint : Small sampleWriter (.int 1) 0 386 :=
    ⟨.int 0 1 (by decide), fun d hd => by unfold bounded; exact require_true (decide_eq_true (by omega)),
      (size_int_le (k := 1) (by decide) (by decide)).trans (by decide)⟩
  simp only [List.forall_mem_cons]
  exact ⟨htext (by decide), htext (by decide), htext hhex, htext (by decide), htext (by decide), htext hhex,
    htext hhex, hint, htext hhex, htext hhex, htext (by decide), fun _ h => (List.not_mem_nil h).elim⟩

theorem sample_timestamp : timestamp sampleTime = .ok 63902908800000000 := by decide +kernel

theorem sample_created : timestamp (sampleBody.item "created_at") = .ok 63902908800000000 := by
  rw [show sampleBody.item "created_at" = sampleTime from item_dict (by simp) (by simp)]
  exact sample_timestamp

theorem sampleBody_valid : validateIntent sampleWriter sampleBody = .ok sampleBody := by
  have hfields : sampleBody.hasFields intentFields = true := by
    rw [sampleBody, hasFields_dict]
    exact ⟨by simp [intentFields], by simp [intentFields]⟩
  have hkind : sampleBody.item "kind" = .str "collection_intent" := item_dict (by simp) (by simp)
  have hcollector : sampleBody.item "collector_id" = .str "c" := item_dict (by simp) (by simp)
  have hcollection : sampleBody.item "collection_id" = .str sampleHex := item_dict (by simp) (by simp)
  have hrequest : sampleBody.item "request_id" = .str "r" := item_dict (by simp) (by simp)
  have hevaluation : sampleBody.item "evaluation_id" = .str "e" := item_dict (by simp) (by simp)
  have hsubject : sampleBody.item "subject_sha256" = .str sampleHex := item_dict (by simp) (by simp)
  have hpayload : sampleBody.item "payload_sha256" = .str sampleHex := item_dict (by simp) (by simp)
  have hlength : sampleBody.item "byte_length" = .int 1 := item_dict (by simp) (by simp)
  have hpolicy : sampleBody.item "policy_sha256" = .str sampleHex := item_dict (by simp) (by simp)
  have hdecision : sampleBody.item "decision_sha256" = .str sampleHex := item_dict (by simp) (by simp)
  have hhex : controlHex (.str sampleHex) 32 = .ok sampleHex := controlHex_hex rfl
  have hcompact : Compact 1 (dict [("collector_id", .str "c"), ("request_id", .str "r")]) := by
    refine .dict ["collector_id", "request_id"] rfl (by decide) (by simp) ?_
    simp only [List.forall_mem_cons]
    exact ⟨.str 0 _, .str 0 _, fun _ h => (List.not_mem_nil h).elim⟩
  have hid : collectionId sampleWriter (.str "c") (.str "r") = .ok sampleHex := by
    have hc : controlText (.str "c") = .ok "c" := rfl
    have hr : controlText (.str "r") = .ok "r" := rfl
    simp only [collectionId, hc, hr, bind, Except.bind, digest, canonical_compact sampleWriter_compact hcompact (by decide : 1 ≤ maxDepth)]
    rfl
  have hc : controlText (.str "c") = .ok "c" := rfl
  have hr : controlText (.str "r") = .ok "r" := rfl
  have he : controlText (.str "e") = .ok "e" := rfl
  have hbytes : Upload.isByteLength (.int 1) = true := by decide
  have hidentity : identity sampleWriter sampleBody = .ok () := by
    simp only [identity, hcollector, hcollection, hrequest, hid, hhex, hc, hr, Incident.require, decide_true, if_true, bind,
      Except.bind]
  refine validateIntent_of (sampleBody_small.captured sampleWriter_compact (by decide) (by decide)) hfields hkind hidentity
    (hevaluation ▸ he) (hsubject ▸ hhex) (hpayload ▸ hhex) (hpolicy ▸ hhex) (hdecision ▸ hhex) (hlength ▸ hbytes)
    sample_created

/-- A message with the sample intent, signed. -/
theorem sample_received : ∃ raw intent, received sampleServer .collect raw = .ok (intent, sampleBody) ∧
    Accepted sampleServer intent sampleBody := by
  obtain ⟨signature, hlength, -, hverify⟩ := signed_verifies sampleServer sampleWriter_standard sampleWriter_signs
    sampleWriter_compact sampleBody_small rfl
  have hcaptured := (envelope_small sampleServer sampleBody_small hlength).captured sampleWriter_compact (by decide) le_rfl
  have hverified := hverify "collection_intent" (by rw [sampleBody, get?_dict]; rfl)
  obtain ⟨raw, -, -, hread⟩ := capture_ok hcaptured
  refine ⟨raw, _, received_of sampleServer hread hverified sampleBody_valid,
    ⟨?_, hverified, sampleBody_valid, (item_dict (by simp) (by simp) : sampleBody.item "collector_id" = .str "c")⟩⟩
  obtain ⟨s, -, hloads, -⟩ := decodeJson_ok hread
  exact loads_closed controlHooks_closed hloads

/-- On a store that any requests reach, rows are what was stored, each collection and each request once; a stored intent gets
    its receipt again, and what disagrees with a row is a conflict, without a change; and a verified status tells what was
    stored when its query was answered. -/
theorem collector_store (hstd : pk.toPlatform.Standard) (hsig : pk.toPlatform.Signs) (hpk : WritesCompactly pk)
    (hread : ReadsBack pk) {w : CollectorRuns} (h : Reachable server w) :
    (List.Forall₂ (fun p r => Readable server w.shared.1.2 r p.1 p.2) (commits w.shared.2) w.shared.1.1.collections.rows ∧
      w.shared.1.1.collections.rows.Pairwise fun a b => a.collectionId ≠ b.collectionId ∧ a.requestId ≠ b.requestId) ∧
    (∀ p ∈ commits w.shared.2, ∀ drop now uuid t, timestamp now = .ok t → w.shared.1.2 ≤ t →
      (acceptTransaction server drop now uuid p.1 (p.1.item "body")).on w.shared.1.1 = (.ok (p.2, false), w.shared.1.1)) ∧
    (∀ r ∈ w.shared.1.1.collections.rows, ∀ body now t, timestamp now = .ok t → w.shared.1.2 ≤ t →
      (∀ drop uuid intent d, digest pk intent = .ok d → Disagrees r body (.str d) →
        (acceptTransaction server drop now uuid intent body).on w.shared.1.1 = (.error (.input conflict), w.shared.1.1)) ∧
      (Disagrees r body (body.item "request_sha256") →
        lookupTransaction server now w.shared.1.1 body = .error (.input conflict))) ∧
    (∀ query body t r, exec server w.shared.1 (.lookup query body) t r → t.1 = w.shared.1.1) ∧
    ∀ status query intent at_ body, status.WF → query.WF → intent.WF →
      verifyStatus pk status query intent server.collectorPublic server.collectorKeyId at_ = .ok body →
      Signed w.shared.2 body →
      (∀ i q b r, (i, ⟨.lookup q b, r⟩) ∈ w.shared.2 → digest pk q = digest pk query → q = query) →
      (∀ p ∈ commits w.shared.2, digest pk p.1 = digest pk intent → p.1 = intent) →
      ∃ i before after found, w.shared.2 = before ++ (i, ⟨.lookup query (query.item "body"), .ok found⟩) :: after ∧
        (∀ old new, w.shared.2 = old ++ new →
          (∀ j q b r, (j, ⟨.lookup q b, r⟩) ∈ old → b.item "nonce" ≠ (query.item "body").item "nonce") →
          old.length ≤ before.length) ∧
        ∀ r, (body.item "status" = .str "FOUND" ∧ body.item "receipt" = r) ↔ (intent, r) ∈ commits before := by
  have hc := reachable_consistent server hstd hsig hpk hread h
  refine ⟨⟨hc.rows, w.shared.1.1.collections.unique.imp fun hne => ⟨fun he => hne (.inl he), fun he => hne (.inr he)⟩⟩,
    fun p hp drop now uuid t hnow ht => ?_, fun r hr body now t hnow ht => ?_, fun query body t r hx => hx.1, ?_⟩
  · obtain ⟨r, hr, hreadable⟩ := forall₂_left hc.rows hp
    exact acceptTransaction_stored server hc.identity hr hreadable hnow ht
  · obtain ⟨p, -, hreadable⟩ := forall₂_right hc.rows hr
    refine ⟨fun drop uuid intent d hd hdis => ?_, fun hdis => ?_⟩
    · exact acceptTransaction_conflict server hc.identity hr hreadable hnow ht hd hdis
    · exact lookupTransaction_conflict server hc.identity hr hreadable hnow ht hdis
  · intro status query intent at_ body hstatus hquery hintent hverified hsigned hqueries hintents
    obtain ⟨d, dq, hd, hdq, hcollection, hasked, hkind, hquerySha, -⟩ := verifyStatus_ok hread hstatus hquery hintent hverified
    obtain ⟨i, before, after, found, nonce, now, hlog, rfl⟩ :=
      status_answered server hread h hc hkind hsigned hdq hquerySha hqueries
    have hreports : Reports pk (commits before) (query.item "body") found := hc.told before _ after hlog
    have hsub : ∀ p ∈ commits before, p ∈ commits w.shared.2 := by
      intro p hp
      rw [hlog, commits, List.filterMap_append]
      exact List.mem_append_left _ hp
    have hsame : ∀ f, found = some f → f.intent = intent ∧ (intent, f.receipt) ∈ commits before := by
      intro f hf
      obtain ⟨hp, hdigest, hsha⟩ := hreports.present f hf
      rw [hasked] at hsha
      have heq := hintents _ (hsub _ hp) (by rw [hdigest, hd, Json.str.inj hsha])
      exact ⟨heq, heq ▸ hp⟩
    refine ⟨i, before, after, found, hlog, fun old new hold hnonce => ?_, fun r => ?_⟩
    · rw [hold] at hlog
      rcases List.append_eq_append_iff.1 hlog with ⟨cs, hbefore, -⟩ | ⟨cs, hbefore, hcs⟩
      · rw [hbefore, List.length_append]
        exact Nat.le_add_right _ _
      · cases cs with
        | nil =>
          rw [hbefore, List.append_nil]
        | cons c cs =>
          obtain ⟨rfl, -⟩ := List.cons.inj hcs
          refine absurd rfl (hnonce i query (query.item "body") (.ok found) ?_)
          rw [hbefore]
          exact List.mem_append_right _ List.mem_cons_self
    · rw [(statusBody_items _ dq nonce found now).2.1, (statusBody_items _ dq nonce found now).2.2]
      cases found with
      | none =>
        refine ⟨fun hr => absurd (Json.str.inj hr.1) (by decide), fun hr => ?_⟩
        exact absurd hcollection.symm (hreports.absent rfl _ hr)
      | some f =>
        obtain ⟨-, hp⟩ := hsame f rfl
        refine ⟨fun hr => hr.2 ▸ hp, fun hr => ⟨rfl, ?_⟩⟩
        exact congrArg Prod.snd (commits_eq server hc (hsub _ hp) (hsub _ hr) rfl)

/-- A run on which the sample intent is stored. -/
theorem sample_collector_store : ∃ w : CollectorRuns, Reachable sampleServer w ∧ (∃ p, commits w.shared.2 = [p]) ∧
    List.Forall₂ (fun p r => Readable sampleServer w.shared.1.2 r p.1 p.2) (commits w.shared.2)
      w.shared.1.1.collections.rows := by
  have hread : ReadsBack sampleWriter := writer_reads rfl
  obtain ⟨s, hs⟩ := initializeStore_ok sampleServer sampleWriter_signs sampleWriter_compact hread
  obtain ⟨hidentity, hrows⟩ := initializeStore_new sampleServer hs
  obtain ⟨raw, intent, hreceived, haccepted⟩ := sample_received
  have huuid : isUuid (String.ofList (List.replicate 32 '0')) := ⟨rfl, by simp [isLowerHex]⟩
  have hfresh : ∀ r ∈ ({ s with collectCalls := s.collectCalls + 1 } : Store).collections.rows,
      sameCollection sampleBody r = false ∧ sameRequest sampleBody r = false := by
    intro r hr
    exact absurd (hrows ▸ hr) List.not_mem_nil
  obtain ⟨receipt, s', ha, -⟩ := acceptTransaction_fresh sampleServer sampleWriter_standard sampleWriter_signs
    sampleWriter_compact hread (s := { s with collectCalls := s.collectCalls + 1 }) hidentity hfresh haccepted sample_created
    sample_timestamp le_rfl huuid
  obtain ⟨w, hrun, -, hcommits, -⟩ := @accept_run _ sampleServer (World.initial ((s, 63902908800000000), [])) 0 .normal raw intent
    sampleBody sampleTime _ _ _ _ s' hidentity rfl hreceived haccepted.collector sample_created sample_timestamp le_rfl le_rfl huuid ha
  have hw : Reachable sampleServer w := ⟨s, _, hs, hrun⟩
  refine ⟨w, hw, ⟨(intent, receipt), hcommits⟩, ?_⟩
  exact (collector_store sampleServer sampleWriter_standard sampleWriter_signs sampleWriter_compact hread hw).1.1

/-! ## Answers -/

/-- A timely intent for a collector is always answered, unless it is disturbed: with a conflict if it disagrees with a row, with
    the receipt of the stored intent if there is one with its digest, and else with a receipt that verifies, once it is stored. -/
theorem collector_answers (hstd : pk.toPlatform.Standard) (hsig : pk.toPlatform.Signs) (hpk : WritesCompactly pk)
    (hread : ReadsBack pk) {w : CollectorRuns} (h : Reachable server w) {i : ℕ} {raw : Bytes} {intent body now : Json}
    {created t : ℤ} (hidle : w.procs i = .idle) (hreceived : received server .collect raw = .ok (intent, body))
    (hcollector : body.item "collector_id" = .str server.collectorId)
    (hcreated : timestamp (body.item "created_at") = .ok created) (hnow : timestamp now = .ok t) (hle : created ≤ t)
    (hclock : w.shared.1.2 ≤ t) :
    ∃ w' response d, Interleaving.Run (semantics server).logged (fun _ _ => True) (post server) w w' ∧
      w'.procs i = .live ⟨.normal, .collect, raw⟩ (.ret response) ∧ digest pk intent = .ok d ∧
      ((response = .reply 409 (dict [("error", .str conflict)]) ∧ commits w'.shared.2 = commits w.shared.2 ∧
          ∃ r ∈ w.shared.1.1.collections.rows, Disagrees r body (.str d)) ∨
        ∃ intent' receipt, response = .reply 200 receipt ∧ digest pk intent' = .ok d ∧
          ((commits w'.shared.2 = commits w.shared.2 ∧ (intent', receipt) ∈ commits w.shared.2) ∨
            (commits w'.shared.2 = commits w.shared.2 ++ [(intent, receipt)] ∧ intent' = intent ∧
              ∃ b, verifyReceipt pk receipt intent server.collectorPublic server.collectorKeyId now = .ok b))) := by
  have hc := reachable_consistent server hstd hsig hpk hread h
  obtain ⟨hwf, hbody, hintent⟩ := received_ok server hread hreceived
  obtain rfl : body = intent.item "body" := hbody
  obtain ⟨hverified, hvalid⟩ := hintent rfl
  have haccepted : Accepted server intent (intent.item "body") := ⟨hwf, hverified, hvalid, hcollector⟩
  obtain ⟨raw', -, hraw', -⟩ := capture_ok (verifyControl_ok hread hwf hverified).2.1
  have hd : digest pk intent = .ok (sha256Hex pk raw') := by
    rw [digest, hraw']
    rfl
  obtain ⟨uuid, huuid⟩ : ∃ uuid, isUuid uuid := ⟨String.ofList (List.replicate 32 '0'), rfl, by simp [isLowerHex]⟩
  let s₁ : Store := { w.shared.1.1 with collectCalls := w.shared.1.1.collectCalls + 1 }
  have hidentity : storedIdentity pk s₁ = .ok server.identity := (storedIdentity_congr rfl).trans hc.identity
  have hrun (answer : Run (Json × Bool)) (s' : Store)
      (ha : (acceptTransaction server false now uuid intent (intent.item "body")).on s₁ = (answer, s')) :=
    @accept_run _ server w i .normal raw _ _ now uuid _ _ answer s' hc.identity hidle hreceived hcollector hcreated hnow hle
      hclock huuid ha
  by_cases hfresh : ∀ r ∈ w.shared.1.1.collections.rows,
      sameCollection (intent.item "body") r = false ∧ sameRequest (intent.item "body") r = false
  · obtain ⟨receipt, s', ha, hb⟩ :=
      acceptTransaction_fresh server hstd hsig hpk hread hidentity hfresh haccepted hcreated hnow hle huuid
    obtain ⟨w₁, hrun₁, hshared₁, hcommits₁, hprocs₁⟩ := hrun _ _ ha
    have hc₁ : Consistent server w₁.shared.1 w₁.shared.2 := by
      obtain ⟨s, clock, hs, hreach⟩ := h
      exact reachable_consistent server hstd hsig hpk hread ⟨s, clock, hs, hreach.trans hrun₁⟩
    have hm : (intent, receipt) ∈ commits w₁.shared.2 := by
      rw [hcommits₁]
      exact List.mem_append_right _ (List.mem_singleton_self _)
    obtain ⟨w₂, hrun₂, hcommits₂, hprocs₂⟩ := confirm_run server hc₁ hm hnow (by rw [hshared₁]) hprocs₁
    refine ⟨w₂, _, _, hrun₁.trans hrun₂, hprocs₂, hd, .inr ⟨intent, receipt, rfl, hd, .inr ⟨?_, rfl, hb⟩⟩⟩
    rw [hcommits₂, hcommits₁]
    rfl
  · obtain ⟨r, hr, hmatch⟩ : ∃ r ∈ w.shared.1.1.collections.rows,
        (sameCollection (intent.item "body") r || sameRequest (intent.item "body") r) = true := by
      by_contra hnone
      refine hfresh fun r hr => ?_
      by_contra hboth
      refine hnone ⟨r, hr, ?_⟩
      cases hcr : sameCollection (intent.item "body") r <;> cases hqr : sameRequest (intent.item "body") r <;> simp_all
    obtain ⟨p, hp, hreadable⟩ := forall₂_right hc.rows hr
    by_cases hdis : Disagrees r (intent.item "body") (.str (sha256Hex pk raw'))
    · obtain ⟨w₁, hrun₁, -, hcommits₁, hprocs₁⟩ := hrun _ _
        (acceptTransaction_conflict server hidentity hr hreadable hnow hclock hd hdis)
      refine ⟨w₁, _, _, hrun₁, hprocs₁, hd, .inl ⟨by rw [respond, if_pos rfl], ?_, r, hr, hdis⟩⟩
      rw [hcommits₁]
      exact List.append_nil _
    · have hsame : sameCollection (intent.item "body") r = true ∧ sameRequest (intent.item "body") r = true ∧
          sha256Hex pk raw' = r.requestSha256 := by
        unfold Disagrees at hdis
        cases hcr : sameCollection (intent.item "body") r <;> cases hqr : sameRequest (intent.item "body") r <;> simp_all
      obtain ⟨w₁, hrun₁, -, hcommits₁, hprocs₁⟩ := hrun _ _
        (acceptTransaction_answered server hidentity hr hreadable hnow hclock hsame.1 hsame.2.1 (hsame.2.2 ▸ hd))
      refine ⟨w₁, _, _, hrun₁, hprocs₁, hd, .inr ⟨p.1, p.2, rfl, hsame.2.2 ▸ hreadable.digest, .inl ⟨?_, hp⟩⟩⟩
      rw [hcommits₁]
      exact List.append_nil _

theorem sample_collector_answers : ∃ raw intent receipt b, verifyReceipt sampleWriter receipt intent sampleHex "k" sampleTime = .ok b ∧
    ∃ w' : CollectorRuns, w'.procs 0 = .live ⟨.normal, .collect, raw⟩ (.ret (.reply 200 receipt)) := by
  have hread : ReadsBack sampleWriter := writer_reads rfl
  obtain ⟨s, hs⟩ := initializeStore_ok sampleServer sampleWriter_signs sampleWriter_compact hread
  obtain ⟨-, hrows⟩ := initializeStore_new sampleServer hs
  obtain ⟨raw, intent, hreceived, haccepted⟩ := sample_received
  obtain ⟨w', response, d, -, hprocs, -, hanswer⟩ := collector_answers sampleServer sampleWriter_standard sampleWriter_signs
    sampleWriter_compact hread (w := World.initial ((s, 63902908800000000), [])) ⟨s, _, hs, .refl⟩ (i := 0) rfl hreceived
    haccepted.collector sample_created sample_timestamp le_rfl le_rfl
  rcases hanswer with ⟨-, -, r, hr, -⟩ | ⟨intent', receipt, rfl, -, ⟨-, hm⟩ | ⟨-, -, b, hb⟩⟩
  · exact absurd (show r ∈ s.collections.rows from hr) (hrows ▸ List.not_mem_nil)
  · exact absurd hm List.not_mem_nil
  · exact ⟨raw, intent, receipt, b, hb, w', hprocs⟩

end Runs
end VapEvidence.Collector.Metadata
