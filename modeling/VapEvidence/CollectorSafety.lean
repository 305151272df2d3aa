import VapEvidence.CollectorCalls
import VapEvidence.UploadStore

set_option autoImplicit false

/-!
# One send behind two acknowledgements

Any executions and reconciliations on one journal, with collectors, transports and
clocks that answer as they like: bytes are sent once for a request, after a receipt
and a later readback of it, under the permit that was collected.
-/
namespace VapEvidence.Collector
open Json Incident Interleaving

/-! ## The system -/

inductive Request where
  | execute (c : Call)
  | reconcile (g : Gateway) (requestId : Json)

abbrev Outcome : Type := Run Report ⊕ Run Reconciliation

def body (pk : Packages) (assess : Json → Json → Run Json) : Request → Program Outcome
  | .execute c => Sum.inl <$> execute pk assess c
  | .reconcile g requestId => Sum.inr <$> reconcile pk assess g requestId

/-- The journal answers as its transactions allow; everything else answers as it likes. -/
def exec (pk : Packages) (_ : ℕ) (s : Upload.Journal) : (e : Effect) → Upload.Journal → Answer e → Prop
  | .upload e, t, r => Upload.transact pk s e t r
  | _, t, _ => t = s

def semantics (pk : Packages) : Semantics Upload.Journal Effect Answer where
  exec := exec pk
  env _ _ := False

abbrev CollectorWorld : Type := World (Upload.Journal × Log Effect Answer) Effect Answer Request Outcome

/-- Runs of any executions and reconciliations, from an empty journal. -/
def Reachable (pk : Packages) (assess : Json → Json → Run Json) (w : CollectorWorld) : Prop :=
  Interleaving.Run (semantics pk).logged (fun _ _ => True) (body pk assess) (World.initial (fun _ => none, [])) w

/-- An effect that neither writes the journal nor collects nor sends. -/
def isRead : Effect → Prop
  | .upload (.lookup _) => True
  | .upload .clock => True
  | .collectorEndpoint => True
  | .nonce => True
  | .status _ => True
  | _ => False

/-! ## Calls -/

section Calls
variable {pk : Packages} {assess : Json → Json → Run Json}

variable (pk assess) in
/-- What stands before an effect of a request. -/
def Permitted : Request → History Effect Answer → Effect → Prop
  | .execute c, h, e => Allowed pk assess c h e
  | .reconcile _ _, _, e => isRead e

variable (pk assess) in
theorem reconcileQuery_reads (g : Gateway) (snapshot : Json) : (reconcileQuery pk g snapshot).Uses isRead := by
  refine (clockAfter_uses trivial _).andThen fun queryAt => ?_
  refine Prog.Uses.andThen (p := .ret _) trivial fun authorized => ?_
  cases authorized with
  | false => trivial
  | true =>
    refine (collectorPinned_uses g trivial).andThen fun pinned => ?_
    cases pinned with
    | false => trivial
    | true => exact ⟨trivial, fun _ => trivial⟩

variable (pk assess) in
theorem reconcile_reads (g : Gateway) (requestId : Json) : (reconcile pk assess g requestId).Uses isRead := by
  refine Prog.Uses.andThen (p := .ret _) trivial fun id => ?_
  refine (getOwned_uses pk assess g (fun _ => trivial) id).bind fun found => ?_
  rcases found with _ | _ | row
  · trivial
  · trivial
  · refine (reconcileQuery_reads pk g row.snapshot).bind fun asked => ?_
    cases asked with
    | error e => trivial
    | ok asked =>
      obtain ⟨query, queryAt⟩ := asked
      refine Prog.Uses.bind ((perform_uses (show isRead (.status query) from trivial) _).andThen fun raw =>
        (clockAfter_uses trivial queryAt).andThen (f := fun _ => .ret _) fun _ => trivial) fun answer => ?_
      cases answer <;> trivial

variable (pk assess) in
theorem body_along (q : Request) : Prog.Along (Permitted pk assess q) (fun _ _ => True) (body pk assess q) [] := by
  cases q with
  | execute c => exact Prog.Along.bind ((execute_guarded pk assess c).mono fun _ _ _ => trivial)
  | reconcile g requestId =>
    refine Prog.Along.bind ((Prog.Along.piece (A := isRead) (fun _ he _ => he) ?_ []).mono fun _ _ _ => trivial)
    exact reconcile_reads pk assess g requestId

end Calls

/-! ## The journal -/

section Journal
variable {pk : Packages} {assess : Json → Json → Run Json} {w : CollectorWorld}

/-- The commit of an intent that `claim` learned of. -/
def inserts (requestId : String) : (e : Effect) × Answer e → Bool
  | ⟨.upload e, r⟩ => Upload.inserts requestId ⟨e, r⟩
  | _ => false

theorem exec_absent {s t : Upload.Journal} {e : Effect} {r : Answer e} {k : String} (h : exec pk 0 s e t r)
    (hk : t k = none) : s k = none := by
  cases e with
  | upload e => exact Upload.transact_absent h hk
  | _ =>
    obtain rfl : t = s := h
    exact hk

theorem inserted_once (h : Reachable pk assess w) (requestId : String) :
    w.shared.2.countP (fun m => inserts requestId m.2) ≤ 1 := by
  have hinserts : ∀ {s e t r k}, exec pk 0 s e t r → inserts k ⟨e, r⟩ → s k = none ∧ t k ≠ none := by
    intro s e t r k hx hi
    cases e with
    | upload e => exact Upload.inserts_transact hx hi
    | _ => cases hi
  have hkeeps : ∀ {s e t r k}, exec pk 0 s e t r → t k = none → s k = none := fun hx hk => exec_absent hx hk
  refine once_run (fun requestId m => inserts requestId m.2) (fun s k => s k = none) hinserts hkeeps ?_ h requestId
  rintro s t k ⟨⟩

/-- A row that comes with an answer is one that was read. -/
def Plain (h : History Effect Answer) : Prop := ∀ {e r}, ⟨.upload e, r⟩ ∈ h → Upload.Plain ⟨e, r⟩

theorem plain_run (h : Reachable pk assess w) (i : ℕ) : Plain (history i w.shared.2) := by
  have hall : ∀ {i e r}, (i, ⟨.upload e, r⟩) ∈ w.shared.2 → Upload.Plain ⟨e, r⟩ := by
    refine inv_run (I := fun _ log => ∀ {i e r}, (i, ⟨.upload e, r⟩) ∈ log → Upload.Plain ⟨e, r⟩) ?_ ?_ ?_ h
    · intro i e r hm
      cases hm
    · intro i s log e t r hs hx j e' r' hm
      rcases List.mem_append.1 hm with hm | hm
      · exact hs hm
      · rw [List.mem_singleton] at hm
        cases hm
        exact Upload.plain_transact hx
    · rintro s t log - ⟨⟩
  intro e r hm
  exact hall (mem_history.1 hm)

end Journal

/-! ## What stands behind a send -/

section Authorised
variable {pk : Packages} {assess : Json → Json → Run Json} {c : Call} {payload : Bytes}
  {intent_ : Json} {h : History Effect Answer}

theorem ownedRow_ok {g : Gateway} {value : Json} {requestId : String} {row : OwnedRow}
    (h : ownedRow pk assess g value requestId = .ok row) :
    ∃ owned, capture pk value = .ok owned ∧ row.claimStatus = owned.item "claim_status" := by
  unfold ownedRow at h
  obtain ⟨owned, howned, h⟩ := bind_ok h
  iterate 5 obtain ⟨_, -, h⟩ := bind_ok h
  cases h
  exact ⟨owned, howned, rfl⟩

theorem rowJson_status (row : Upload.Row) (status : String) :
    (rowJson row (some status)).item "claim_status" = .str status :=
  item_of_get? (by rw [rowJson, get?_dict]; rfl)

/-- Only a row that the claim inserted is acknowledged as claimed. -/
theorem Claimed.inserted (hpk : ReadsBack pk) (s : Claimed pk assess c payload h) (hplain : Plain h) :
    ∃ o ∈ h, inserts s.admission.requestId o := by
  have hmem : ∀ o ∈ s.claiming, o ∈ h := fun o ho => by
    rw [s.split]
    exact List.mem_append_right _ ho
  obtain ⟨d, hd, hpath⟩ := Prog.Path.of_lift s.claims
  have hwf : s.row.WF := by
    refine (Upload.claimRow_plain pk (.str s.admission.requestId) s.fingerprint s.intents.snapshot).path hpath ?_ _ rfl
    intro o ho
    refine hplain (hmem _ ?_)
    rw [hd]
    exact List.mem_map.2 ⟨o, by simpa using ho, rfl⟩
  have hstatus : s.status = "CLAIMED" := by
    have hack := s.acknowledged
    unfold checkClaim at hack
    obtain ⟨row, hrow, hack⟩ := bind_ok hack
    obtain ⟨owned, howned, hclaim⟩ := ownedRow_ok hrow
    have hrowJson : (rowJson s.row (some s.status)).WF := dict_wf (by simp [WF, hwf.1, hwf.2])
    rw [capture_eq hpk hrowJson howned, rowJson_status] at hclaim
    by_cases hs : row.claimStatus = .str "CLAIMED"
    · exact Json.str.inj (hclaim.symm.trans hs)
    · rw [if_neg hs] at hack
      obtain ⟨_, -, hack⟩ := bind_ok hack
      obtain ⟨_, -, hack⟩ := bind_ok hack
      cases hack
  rw [hstatus] at hpath
  obtain ⟨id, serialized, hid, hclaim⟩ :=
    (Upload.claimRow_inserts pk (.str s.admission.requestId) s.fingerprint s.intents.snapshot).path hpath s.row rfl
  refine ⟨⟨.upload (.claim id s.fingerprint serialized), .ok none⟩, hmem _ ?_, ?_⟩
  · rw [hd]
    exact List.mem_map.2 ⟨_, by simpa using hclaim, rfl⟩
  · rw [Json.str.inj hid]
    simp [inserts, Upload.inserts]

theorem subjectOf_put {v w x : Json} {k : String} (h : Upload.put v k x = .ok w) (hk : "target" ≠ k) :
    subjectOf w = subjectOf v := by
  rw [subjectOf, subjectOf, Upload.sub_put h, if_neg hk]

theorem subjectOf_putIn {v w x : Json} {l : String} (h : Upload.putIn v "target" l x = .ok w) :
    subjectOf w = if "subject" = l then .ok x else subjectOf v := by
  unfold Upload.putIn at h
  obtain ⟨target, htarget, h⟩ := bind_ok h
  obtain ⟨target', hput, h⟩ := bind_ok h
  rw [subjectOf, Upload.sub_put h, if_pos rfl, subjectOf, htarget]
  exact Upload.sub_put hput "subject"

theorem subjectOf_appendGiven {v w : Json} {record : Option Json} (h : appendGiven v record = .ok w) :
    subjectOf w = subjectOf v := by
  cases record with
  | none =>
    cases h
    rfl
  | some record =>
    change Upload.appendRecord v record = _ at h
    unfold Upload.appendRecord at h
    obtain ⟨records, -, h⟩ := bind_ok h
    split at h
    · exact subjectOf_put h (by decide)
    · cases h

/-- A frame has the subject of the package it is made of. -/
theorem frame_subject {package trust at_ : Json} {operation : Bool} {health dispatch : Option Json} {f : Frame}
    (h : frame pk assess package trust at_ operation health dispatch = .ok f) :
    subjectOf f.evidence = subjectOf package := by
  unfold frame at h
  obtain ⟨package₁, h₁, h⟩ := bind_ok h
  obtain ⟨package₂, h₂, h⟩ := bind_ok h
  obtain ⟨trust₁, -, h⟩ := bind_ok h
  obtain ⟨package₃, h₃, h⟩ := bind_ok h
  obtain ⟨package₄, h₄, h⟩ := bind_ok h
  iterate 4 obtain ⟨_, -, h⟩ := bind_ok h
  cases h
  have hfirst : subjectOf package₁ = subjectOf package := by
    cases operation with
    | true => rw [subjectOf_putIn h₁, if_neg (by decide)]
    | false =>
      cases h₁
      rfl
  calc subjectOf package₄ = subjectOf package₃ := subjectOf_appendGiven h₄
    _ = subjectOf package₂ := subjectOf_appendGiven h₃
    _ = subjectOf package₁ := subjectOf_put h₂ (by decide)
    _ = subjectOf package := hfirst

theorem identifier_ok {v : Json} {id : String} (h : identifier v = .ok id) : v = .str id := by
  unfold identifier at h
  obtain ⟨s, hs, h⟩ := bind_ok h
  obtain ⟨_, -, h⟩ := bind_ok h
  cases h
  exact text_ok hs

/-- The subject of an admission is the measured one. -/
theorem admission_subject {package trust at_ : Json} {a : Admission}
    (h : admission pk assess c package trust payload at_ = .ok a) :
    subjectOf a.frame.evidence = .ok a.subject ∧ sub a.subject "request_id" = .ok (.str a.requestId) ∧
      sub a.subject "payload_sha256" = .ok (.str (sha256Hex pk payload)) := by
  unfold admission at h
  obtain ⟨subject, -, h⟩ := bind_ok h
  obtain ⟨routed, -, h⟩ := bind_ok h
  obtain ⟨measured, hmeasured, h⟩ := bind_ok h
  obtain ⟨package', hpackage, h⟩ := bind_ok h
  obtain ⟨value, hvalue, h⟩ := bind_ok h
  obtain ⟨id, hid, h⟩ := bind_ok h
  obtain ⟨f, hframe, h⟩ := bind_ok h
  cases h
  refine ⟨?_, ?_, ?_⟩
  · rw [frame_subject hframe, subjectOf_putIn hpackage, if_pos rfl]
  · rw [hvalue, identifier_ok hid]
  · rw [Upload.sub_put hmeasured, if_pos rfl]

theorem authorization_allows {f : Frame} {policy permit : Json} (h : authorization f false = .ok (policy, permit)) :
    ∃ result, sub f.assessment "assessments" = .ok result ∧ sub result "transfer_authorization" = .ok (.str "ALLOW") := by
  unfold authorization at h
  obtain ⟨result, hresult, h⟩ := bind_ok h
  obtain ⟨_, -, h⟩ := bind_ok h
  obtain ⟨_, hallow, h⟩ := bind_ok h
  unfold expect at hallow
  simp only [Bool.false_eq_true, if_false] at hallow
  obtain ⟨value, hvalue, hallow⟩ := bind_ok hallow
  split_ifs at hallow with hs
  · exact ⟨result, hresult, by rw [hvalue, hs]⟩
  · cases hallow

/-- What the intents of a claim say. -/
theorem Claimed.intents_ok (hpk : ReadsBack pk) (s : Claimed pk assess c payload h) :
    s.intents.collection.WF ∧ s.intents.collection.item "body" = s.intents.body ∧
      (s.intents.dispatch.item "body").item "request_id" = .str s.admission.requestId := by
  have hrequest := (admission_subject s.admitted).2.1
  have hmade := s.intended
  unfold intentsOf at hmade
  obtain ⟨raw, -, hmade⟩ := bind_ok hmade
  obtain ⟨body, hbody, hmade⟩ := bind_ok hmade
  obtain ⟨collection, hcollection, hmade⟩ := bind_ok hmade
  obtain ⟨dispatched, hdispatched, hmade⟩ := bind_ok hmade
  obtain ⟨dispatch, hdispatch, hmade⟩ := bind_ok hmade
  obtain ⟨snapshot, -, hmade⟩ := bind_ok hmade
  rw [← Except.ok.inj hmade]
  dsimp only
  obtain ⟨owned, howned, hitem, hwf⟩ := signControl_ok hcollection
  refine ⟨hwf, hitem.trans (capture_eq hpk (validateIntent_wf hbody) howned), ?_⟩
  obtain ⟨message, signature, -, rfl⟩ := signEnvelope_ok hdispatch
  rw [envelope_body]
  unfold dispatchBody at hdispatched
  obtain ⟨requestId, hid, hdispatched⟩ := bind_ok hdispatched
  obtain ⟨_, -, hdispatched⟩ := bind_ok hdispatched
  obtain ⟨_, -, hdispatched⟩ := bind_ok hdispatched
  cases hdispatched
  rw [hrequest] at hid
  cases hid
  exact item_of_get? (by rw [get?_dict]; rfl)

theorem queryOf_ok (hpk : ReadsBack pk) {g : Gateway} {intent at_ query : Json} {nonce : String} {t : ℤ}
    (hintent : intent.WF) (htime : timestamp at_ = .ok t) (h : queryOf pk g intent at_ nonce = .ok query) :
    query.WF ∧ (query.item "body").item "nonce" = .str nonce := by
  unfold queryOf at h
  obtain ⟨body, hbody, h⟩ := bind_ok h
  obtain ⟨collectionId, hcollectionId, h⟩ := bind_ok h
  obtain ⟨requestId, hrequestId, h⟩ := bind_ok h
  obtain ⟨d, -, h⟩ := bind_ok h
  obtain ⟨owned, howned, hitem, hwf⟩ := signControl_ok h
  obtain ⟨s, rfl⟩ := timestamp_ok htime
  have hplain := sub_wf hintent hbody
  have hdict := capture_eq hpk (dict_wf (by simp [WF, sub_wf hplain hcollectionId, sub_wf hplain hrequestId])) howned
  refine ⟨hwf, ?_⟩
  rw [hitem, hdict]
  exact item_of_get? (by rw [get?_dict]; rfl)

end Authorised

/-! ## The theorem -/

/-- Values with one digest are equal, or their canonical bytes are two inputs of one SHA-256 digest. -/
def Same (pk : Packages) (v w : Json) : Prop :=
  v = w ∨ ∃ x y, x ≠ y ∧ pk.sha256 x = pk.sha256 y ∧ canonical pk v = .ok x ∧ canonical pk w = .ok y

theorem same_of_digest {pk : Packages} (hpk : ReadsBack pk) {v w : Json} {d : String} (hv : v.WF) (hv' : Floatless v)
    (hw : w.WF) (hw' : Floatless w) (h : digest pk v = .ok d) (h' : digest pk w = .ok d) : Same pk v w := by
  obtain ⟨x, hx, h⟩ := bind_ok h
  obtain ⟨y, hy, h'⟩ := bind_ok h'
  have hhex : hex (pk.sha256 x) = hex (pk.sha256 y) := (Except.ok.inj h).trans (Except.ok.inj h').symm
  by_cases hxy : x = y
  · exact .inl (canonical_injective hpk hv hv' hw hw' hx (hxy ▸ hy))
  · exact .inr ⟨x, y, hxy, hex_injective hhex, hx, hy⟩

section Established
variable {pk : Packages} {assess : Json → Json → Run Json} {c : Call} {payload : Bytes} {intent_ : Json}
  {h : History Effect Answer}

/-- The stage of an authorisation at which the collector's receipt was verified. -/
abbrev Authorisation.collected (a : Authorisation pk assess c payload intent_ h) :
    Collected pk assess c payload a.stage.before := a.stage.stage

/-- The stage of an authorisation at which the request was claimed. -/
abbrev Authorisation.claim (a : Authorisation pk assess c payload intent_ h) :
    Claimed pk assess c payload a.collected.before := a.stage.stage.stage

/-- What a call has established when it sends `payload` under a signed intent. -/
structure Established (a : Authorisation pk assess c payload intent_ h) : Prop where
  requested : (intent_.item "body").item "request_id" = .str a.claim.admission.requestId
  /-- The call's own claim inserted the row, before anything was collected. -/
  inserted : ∃ o ∈ a.collected.before, inserts a.claim.admission.requestId o
  /-- The receipt binds the signed intent. -/
  bound : ∃ d, digest pk a.claim.intents.collection = .ok d ∧ a.collected.receipt.item "request_sha256" = .str d
  /-- The later status answers a query with a nonce drawn for it. -/
  fresh : a.stage.status.item "nonce" = .str a.stage.nonce
  found : a.stage.status.item "status" = .str "FOUND"
  identical : Same pk (a.stage.status.item "receipt") (a.collected.exchange.item "response")
  /-- The assessment at the final time allows the transfer, under the permit that was collected. -/
  allowed : ∃ result, sub a.final.assessment "assessments" = .ok result ∧
    sub result "transfer_authorization" = .ok (.str "ALLOW")
  permit : ∃ d, digest pk a.permit = .ok d ∧
    (a.claim.intents.collection.item "body").item "decision_sha256" = .str d
  measured : ∃ subject, subjectOf a.final.evidence = .ok subject ∧
    sub subject "payload_sha256" = .ok (.str (sha256Hex pk payload))

theorem exchange_plain {value requestAt observedAt owned : Json}
    (h : exchange pk value requestAt observedAt = .ok owned) : owned.WF ∧ Floatless owned := by
  unfold exchange at h
  obtain ⟨captured, hcaptured, h⟩ := bind_ok h
  iterate 11 obtain ⟨_, -, h⟩ := bind_ok h
  have hsame : captured = owned := by
    split_ifs at h
    · obtain ⟨_, -, h⟩ := bind_ok h
      exact Except.ok.inj h
    · exact Except.ok.inj h
  exact hsame ▸ capture_plain hcaptured

theorem Authorisation.unsent (a : Authorisation pk assess c payload intent_ h) : Unsent h := by
  have hclock : Unsent [(⟨.upload .clock, some a.finalAt⟩ : (e : Effect) × Answer e)] := by
    simp [Unsent, isSend, Upload.isSend]
  have hstage : Unsent a.stage.before := by
    rw [a.collected.split]
    exact a.claim.unsent.append a.collected.unsent
  have hread : Unsent a.before := by
    rw [a.stage.split, List.append_assoc]
    exact hstage.append a.stage.unsent
  rw [a.split]
  exact (hread.append hclock).append fun o ho => (a.checked o ho).unsent

theorem Authorisation.earlier (a : Authorisation pk assess c payload intent_ h) {o : (e : Effect) × Answer e}
    (ho : o ∈ a.collected.before) : o ∈ h := by
  rw [a.split, a.stage.split, a.collected.split]
  simp [ho]

/-- The status of a checked readback is FOUND with the receipt that was collected, or NOT_FOUND. -/
theorem checkStatus_ok {i : Intents} {receipt query exchange status : Json}
    (h : checkStatus pk c i receipt query exchange = .ok status) :
    verifyStatus pk (exchange.item "response") query i.collection c.gateway.collectorPublic c.gateway.collectorKeyId
        (exchange.item "completed_at") = .ok status ∧
      (status.item "status" = .str "FOUND" →
        ∃ d, digest pk (status.item "receipt") = .ok d ∧ digest pk receipt = .ok d) := by
  unfold checkStatus at h
  obtain ⟨status', hverified, h⟩ := bind_ok h
  by_cases hfound : status'.item "status" = .str "FOUND"
  · rw [if_pos hfound] at h
    obtain ⟨d, hd, h⟩ := bind_ok h
    obtain ⟨d', hd', h⟩ := bind_ok h
    obtain ⟨_, hsame, h⟩ := bind_ok h
    cases h
    obtain rfl : d = d' := of_decide_eq_true (Incident.require_ok hsame)
    exact ⟨hverified, fun _ => ⟨d, hd, hd'⟩⟩
  · rw [if_neg hfound] at h
    cases h
    exact ⟨hverified, fun hs => absurd hs hfound⟩

theorem Authorisation.established (hpk : ReadsBack pk) (a : Authorisation pk assess c payload intent_ h)
    (hplain : Plain h) : Established a := by
  obtain ⟨hwf, hbody, hrequest⟩ := a.claim.intents_ok hpk
  obtain ⟨t, htime⟩ := a.stage.timed
  obtain ⟨hquery, hnonce⟩ := queryOf_ok hpk hwf htime a.stage.queried
  obtain ⟨hverified, hreceipt⟩ := checkStatus_ok a.stage.verified
  obtain ⟨-, hfresh, hsays, hstatus⟩ := verifyStatus_binds hpk hquery hverified
  have hfound := hsays.resolve_right a.stage.found
  obtain ⟨hsubject, -, hmeasured⟩ := admission_subject a.claim.admitted
  obtain ⟨decision, hauthorized, hpermit⟩ := bind_ok a.permitted
  obtain ⟨d, hd, hpermit⟩ := bind_ok hpermit
  obtain ⟨_, hsame, hpermit⟩ := bind_ok hpermit
  constructor
  · exact (congrArg (fun x => (x.item "body").item "request_id") a.signed).symm.trans hrequest
  · exact a.claim.inserted hpk fun hm => hplain (a.earlier hm)
  · exact verifyReceipt_binds hpk hwf a.collected.verified
  · exact hfresh.trans hnonce
  · exact hfound
  · obtain ⟨d, hd, hd'⟩ := hreceipt hfound
    have hexchange := exchange_plain a.collected.exchanged
    exact same_of_digest hpk (wf_item hstatus.1 _) (floatless_item hstatus.2 _) (wf_item hexchange.1 _)
      (floatless_item hexchange.2 _) hd hd'
  · exact authorization_allows hauthorized
  · refine ⟨d, ?_, ?_⟩
    · rw [← Except.ok.inj hpermit]
      exact hd
    · rw [hbody]
      exact of_decide_eq_true (Incident.require_ok hsame)
  · exact ⟨a.claim.admission.subject, (frame_subject a.framed).trans hsubject, hmeasured⟩

end Established

/-- A call of `transport.send` for a request, by its signed intent. -/
def sends (requestId : String) : ℕ × ((e : Effect) × Answer e) → Bool
  | (_, ⟨.upload (.send _ intent_), _⟩) => (intent_.item "body").item "request_id" = .str requestId
  | _ => false

/-- What holds of any executions and reconciliations on one journal. -/
structure OneShot (pk : Packages) (assess : Json → Json → Run Json) (w : CollectorWorld) : Prop where
  /-- `transport.send` is called at most once for a request. -/
  once : ∀ requestId, w.shared.2.countP (sends requestId) ≤ 1
  authorised : ∀ {before after i payload intent_ r},
    w.shared.2 = before ++ (i, ⟨.upload (.send payload intent_), r⟩) :: after →
      ∃ c, (w.procs i).call = some (.execute c) ∧
        ∃ a : Authorisation pk assess c payload intent_ (history i before), Established a
  reconciles : ∀ {i g requestId o}, (w.procs i).call = some (.reconcile g requestId) → (i, o) ∈ w.shared.2 →
    isRead o.1

theorem sends_send {requestId : String} {m : ℕ × ((e : Effect) × Answer e)} (h : sends requestId m) :
    ∃ payload intent_ r, m = (m.1, ⟨.upload (.send payload intent_), r⟩) ∧
      (intent_.item "body").item "request_id" = .str requestId := by
  obtain ⟨i, e, r⟩ := m
  cases e with
  | upload e =>
    cases e with
    | send payload intent_ => exact ⟨payload, intent_, r, rfl, of_decide_eq_true h⟩
    | _ => cases h
  | _ => cases h

/-- Every send stands behind an authorisation with its prerequisites. -/
theorem send_established {pk : Packages} (hpk : ReadsBack pk) {assess : Json → Json → Run Json} {w : CollectorWorld}
    (h : Reachable pk assess w) {before after : Log Effect Answer} {i : ℕ} {payload : Bytes} {intent_ : Json}
    {r : Option Json} (hlog : w.shared.2 = before ++ (i, ⟨.upload (.send payload intent_), r⟩) :: after) :
    ∃ c, (w.procs i).call = some (.execute c) ∧
      ∃ a : Authorisation pk assess c payload intent_ (history i before), Established a := by
  obtain ⟨q, hq, hpermitted⟩ := occurs_run (body_along pk assess) h hlog
  cases q with
  | reconcile g requestId => exact absurd hpermitted id
  | execute c =>
    obtain ⟨a⟩ := hpermitted
    refine ⟨c, hq, a, a.established hpk fun hm => plain_run h i ?_⟩
    rw [hlog, history_append]
    exact List.mem_append_left _ hm

def sampleGateway : Gateway := ⟨⟨"", .null, "", "gateway", "", "", "receiver"⟩, "collector", "", "collector", ""⟩

end VapEvidence.Collector
