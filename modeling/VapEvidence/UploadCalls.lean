import VapEvidence.UploadGateway

set_option autoImplicit false

/-!
# One execution

What `execute` has done before it hands bytes to the transport, and what stands
behind a report that confirms a receipt.
-/
namespace VapEvidence.Upload
open Json Incident Interleaving

def isSend : Effect → Prop
  | .send .. => True
  | _ => False

def isEndpoint : Effect → Prop
  | .endpoint => True
  | _ => False

/-- No call of `transport.send`. -/
def Unsent (h : History Effect Answer) : Prop := ∀ o ∈ h, ¬ isSend o.1

theorem Unsent.append {h d : History Effect Answer} (hh : Unsent h) (hd : Unsent d) : Unsent (h ++ d) :=
  fun o ho => (List.mem_append.1 ho).elim (hh o) (hd o)

/-- What stands behind the call of `transport.send` after the effects of `h`. -/
structure Authorisation (pk : Packages) (assess : Json → Json → Run Json) (c : Call) (payload : Bytes) (intent_ : Json)
    (h : History Effect Answer) where
  admission : Admission
  requestId : String
  fingerprint : String
  snapshot : Json
  serialized : List Char
  before : History Effect Answer
  finalAt : Json
  package : Json
  trust : Json
  assessment : Json
  checking : History Effect Answer
  admitted : Upload.admission pk assess c payload admission.admittedAt = .ok admission
  permitted : allowed admission.preflight = .ok true
  identified : sub admission.subject "request_id" = .ok (.str requestId)
  fingerprinted : requestFingerprint pk admission = .ok fingerprint
  intended : intentOf pk c admission (.str requestId) = .ok (intent_, snapshot)
  split : h = before ++ [⟨.clock, some finalAt⟩] ++ checking
  captured : ⟨.payloadBytes, some payload⟩ ∈ before
  claimed : ⟨.claim requestId fingerprint serialized, .ok none⟩ ∈ before
  framed : frame pk admission.actual admission.trust none (some finalAt) (some finalAt) = .ok (package, trust)
  assessed : assess package trust = .ok assessment
  repermitted : allowed assessment = .ok true
  checked : ∀ o ∈ checking, isEndpoint o.1
  first : Unsent h

/-- What stands behind a report that confirms a receipt. -/
structure Confirmation (pk : Packages) (assess : Json → Json → Run Json) (c : Call) (h : History Effect Answer) where
  admission : Admission
  intent_ : Json
  response : Json
  postAt : Json
  receipt : Json
  admitted : Upload.admission pk assess c admission.captured admission.admittedAt = .ok admission
  captured : ⟨.payloadBytes, some admission.captured⟩ ∈ h
  sent : ⟨.send admission.captured intent_, some response⟩ ∈ h
  verified : verifyReceipt pk response admission.subject (.str (admission.payloadSha256 pk))
    (.int admission.captured.length) postAt c.config.receiverPublic c.config.receiverKeyId = .ok receipt

/-! ## Pieces without a send -/

section Pieces
variable (pk : Packages) (assess : Json → Json → Run Json) (c : Call)

theorem perform_uses {α : Type} {A : Effect → Prop} {e : Effect} (he : A e) (read : Answer e → Option α) :
    (perform e read).Uses A := ⟨he, fun _ => trivial⟩

theorem hookFailed_unsent {e : Effect} (he : ¬ isSend e) (h : Hook) (failed : Answer e → Bool) :
    (hookFailed h e failed).Uses fun e => ¬ isSend e := by
  unfold hookFailed
  split_ifs
  · exact ⟨he, fun _ => trivial⟩
  · trivial

theorem clock_uses {A : Effect → Prop} (hA : A .clock) : clock.Uses A :=
  (perform_uses hA _).andThen fun _ => trivial

theorem clockAfter_uses {A : Effect → Prop} (hA : A .clock) (earlier : Json) : (clockAfter earlier).Uses A :=
  (clock_uses hA).andThen fun _ => trivial

theorem selectRow_uses {A : Effect → Prop} (hA : ∀ id, A (.lookup id)) (requestId : String) :
    (selectRow pk requestId).Uses A := by
  refine (perform_uses (hA requestId) _).andThen fun r => ?_
  cases r <;> trivial

theorem get_uses {A : Effect → Prop} (hA : ∀ id, A (.lookup id)) (requestId : Json) : (get pk requestId).Uses A :=
  Prog.Uses.andThen (p := .ret _) trivial fun id => selectRow_uses pk hA id

theorem selectRow_unsent (requestId : String) : (selectRow pk requestId).Uses fun e => ¬ isSend e :=
  selectRow_uses pk (fun _ h => h) requestId

theorem get_unsent (requestId : Json) : (get pk requestId).Uses fun e => ¬ isSend e :=
  get_uses pk (fun _ h => h) requestId

theorem getValid_unsent (requestId : Json) : (getValid pk requestId).Uses fun e => ¬ isSend e := by
  refine (get_unsent pk requestId).andThen fun r => ?_
  cases r <;> trivial

theorem journalState_unsent (requestId : Json) : (journalState pk requestId).Uses fun e => ¬ isSend e := by
  refine (getValid_unsent pk requestId).bind fun r => ?_
  rcases r with _ | _ | _ <;> trivial

theorem claimRow_unsent (requestId : Json) (fingerprint : String) (snapshot : Json) :
    (claimRow pk requestId fingerprint snapshot).Uses fun e => ¬ isSend e := by
  refine Prog.Uses.andThen (p := .ret _) trivial fun id => ?_
  refine Prog.Uses.andThen (p := .ret _) trivial fun _ => ?_
  refine Prog.Uses.andThen (p := .ret _) trivial fun serialized => ?_
  refine (Prog.Uses.single fun h => h).andThen fun found => ?_
  cases found with
  | some row => trivial
  | none =>
    refine (selectRow_unsent pk id).andThen fun row => ?_
    cases row <;> trivial

theorem finishRow_unsent (requestId : Json) (state : String) (details : Json) :
    (finishRow pk requestId state details).Uses fun e => ¬ isSend e := by
  refine Prog.Uses.andThen (p := .ret _) trivial fun id => ?_
  refine Prog.Uses.andThen (p := .ret _) trivial fun _ => ?_
  refine Prog.Uses.andThen (p := .ret _) trivial fun serialized => ?_
  refine (Prog.Uses.single fun h => h).andThen fun found => ?_
  cases found with
  | some row => trivial
  | none =>
    refine (selectRow_unsent pk id).andThen fun row => ?_
    cases row <;> trivial

theorem persist_unsent (report : Report) (requestId : Json) (state : String) :
    (persist pk report requestId state).Uses fun e => ¬ isSend e := by
  refine Prog.Uses.bind ((finishRow_unsent pk requestId state _).andThen (f := fun _ => .ret _) fun _ => trivial)
    fun saved => ?_
  cases saved with
  | ok _ => trivial
  | error e => exact (journalState_unsent pk requestId).bind fun _ => trivial

theorem dispatchedOf_unsent (observed : Json) : (dispatchedOf observed).Uses fun e => ¬ isSend e := by
  unfold dispatchedOf
  split_ifs
  · exact ⟨fun h => h, fun _ => trivial⟩
  · trivial

theorem endpointPinned_uses (config : GateConfig) {A : Effect → Prop} (hA : A .endpoint) : (endpointPinned config).Uses A :=
  (perform_uses hA _).andThen fun _ => trivial

theorem isEndpoint.unsent {e : Effect} (h : isEndpoint e) : ¬ isSend e := by
  cases e <;> simp_all [isEndpoint, isSend]

end Pieces

/-- `value[k]` after a member was set. -/
theorem sub_put {v w x : Json} {k : String} (h : put v k x = .ok w) (l : String) :
    sub w l = if l = k then .ok x else sub v l := by
  cases v with
  | obj ms =>
    cases h
    simp only [sub, lookup_insertKey]
    split_ifs <;> rfl
  | _ => cases h

theorem sub_putIn {v w x : Json} {k l : String} (h : putIn v k l x = .ok w) {j : String} (hj : j ≠ k) :
    sub w j = sub v j := by
  unfold putIn at h
  obtain ⟨inner, -, h⟩ := bind_ok h
  obtain ⟨inner', -, h⟩ := bind_ok h
  rw [sub_put h, if_neg hj]

theorem identifier_value {value : Json} {id : String} (h : identifier value = .ok id) : value = .str id := by
  unfold identifier at h
  split at h
  · split_ifs at h
    · cases h
      rfl
    · cases h
  · cases h

/-! ## The call -/

section Calls
variable (pk : Packages) (assess : Json → Json → Run Json) (c : Call)

/-- What stands before an effect of a call. -/
def Allowed (h : History Effect Answer) : Effect → Prop
  | .send payload intent_ => Nonempty (Authorisation pk assess c payload intent_ h)
  | _ => True

theorem allowed_unsent (e : Effect) (he : ¬ isSend e) (h : History Effect Answer) : Allowed pk assess c h e := by
  cases e <;> simp_all [Allowed, isSend]

/-- What `execute` has done when it returns. -/
def Outcome (h : History Effect Answer) : Run Report → Prop
  | .error _ => True
  | .ok report => report.state = "RECEIPT_CONFIRMED" → Nonempty (Confirmation pk assess c h)

variable {pk assess c}

def Confirmation.extend {h : History Effect Answer} (f : Confirmation pk assess c h) (d : History Effect Answer) :
    Confirmation pk assess c (h ++ d) :=
  { f with captured := List.mem_append_left d f.captured, sent := List.mem_append_left d f.sent }

/-- A report of another state confirms nothing. -/
theorem outcome_other {report : Report} {h : History Effect Answer} (hs : report.state ≠ "RECEIPT_CONFIRMED") :
    Outcome pk assess c h (.ok report) := fun h => absurd h hs

theorem replay_outcome {report : Report} {row : Row} {fingerprint : String} {h : History Effect Answer} :
    Outcome pk assess c h (.ok (replay report row fingerprint)) := by
  refine outcome_other ?_
  unfold replay
  split_ifs <;> simp

theorem persist_along {report : Report} {requestId : Json} {state : String} {h : History Effect Answer}
    (hreport : Outcome pk assess c h (.ok report)) :
    Prog.Along (Allowed pk assess c) (fun h r => Outcome pk assess c h (.ok r)) (persist pk report requestId state) h := by
  unfold persist
  generalize hr : { report with journalState := state } = settled
  have hsettled : Outcome pk assess c h (.ok settled) := hr ▸ hreport
  clear hr
  refine Prog.Along.after (allowed_unsent pk assess c)
    ((finishRow_unsent pk requestId state _).andThen (f := fun _ => .ret _) fun _ => trivial) fun saved d _ _ => ?_
  cases saved with
  | ok _ =>
    intro hs
    obtain ⟨f⟩ := hsettled hs
    exact ⟨f.extend d⟩
  | error e =>
    refine Prog.Along.after (allowed_unsent pk assess c) (journalState_unsent pk requestId) fun found d' _ _ => ?_
    intro hs
    exact absurd (show "OUTCOME_UNKNOWN" = "RECEIPT_CONFIRMED" from hs) (by decide)

/-- A persisted report is what the call returns. -/
theorem returned_along {p : Program Report} {h : History Effect Answer}
    (hp : Prog.Along (Allowed pk assess c) (fun h r => Outcome pk assess c h (.ok r)) p h) :
    Prog.Along (Allowed pk assess c) (Outcome pk assess c) (p >>= fun report => .ret (.ok report)) h :=
  Prog.Along.bind (hp.mono fun _ _ hr => hr)

theorem blockAfter_along {report : Report} {requestId : Json} {reason : String} {h : History Effect Answer}
    (hs : report.state ≠ "RECEIPT_CONFIRMED") :
    Prog.Along (Allowed pk assess c) (Outcome pk assess c) (blockAfter pk report requestId reason) h :=
  returned_along (persist_along (outcome_other hs))

/-- `_postflight` changes only the frame after the fact. -/
theorem postflight_keeps (report : Report) (at_ : Json) (dispatched : Option (Json × String)) :
    (postflight pk assess c report at_ dispatched).1.state = report.state ∧
      ∀ settled, (postflight pk assess c report at_ dispatched).2 = .ok settled → settled.state = report.state := by
  unfold postflight
  dsimp only
  split
  · exact ⟨rfl, fun _ h => nomatch h⟩
  · next package trust _ =>
    refine ⟨rfl, fun settled h => ?_⟩
    cases ha : assess package trust with
    | error e =>
      simp only [ha] at h
      cases h
    | ok assessment =>
      simp only [ha] at h
      cases h
      rfl

theorem closeUnknown_along {report : Report} {requestId postAt : Json} {reason : String} {h : History Effect Answer}
    (hs : report.state ≠ "RECEIPT_CONFIRMED") :
    Prog.Along (Allowed pk assess c) (Outcome pk assess c)
      (closeUnknown pk assess c report requestId postAt reason) h := by
  refine Prog.Along.andThen ?_
  cases hp : (postflight pk assess c report postAt none).2 with
  | error e => trivial
  | ok settled => exact returned_along (persist_along (outcome_other (((postflight_keeps report postAt _).2 _ hp).trans_ne hs)))

theorem transportResult_value {value finalAt postAt observed : Json}
    (h : transportResult value finalAt postAt = .ok observed) : observed = value := by
  unfold transportResult at h
  iterate 7 obtain ⟨_, -, h⟩ := bind_ok h
  dsimp only at h
  split_ifs at h
  · iterate 5 obtain ⟨_, -, h⟩ := bind_ok h
    cases h
    rfl
  · iterate 4 obtain ⟨_, -, h⟩ := bind_ok h
    cases h
    rfl

/-- From an observation of a send to the report. -/
theorem confirm_along {a : Admission} {report : Report} {requestId intent_ observed postAt : Json}
    {h : History Effect Answer} (hs : report.state ≠ "RECEIPT_CONFIRMED")
    (hadmitted : admission pk assess c a.captured a.admittedAt = .ok a)
    (hcaptured : ⟨.payloadBytes, some a.captured⟩ ∈ h) (hsent : ⟨.send a.captured intent_, some observed⟩ ∈ h) :
    Prog.Along (Allowed pk assess c) (Outcome pk assess c) (confirm pk assess c a report requestId observed postAt) h := by
  refine Prog.Along.after (allowed_unsent pk assess c) (dispatchedOf_unsent observed) fun dispatched d _ _ => Prog.Along.andThen ?_
  cases hp : (postflight pk assess c report postAt dispatched).2 with
  | error e => trivial
  | ok settled =>
    dsimp only [Prog.Along]
    cases hv : verifyReceipt pk observed a.subject (.str (a.payloadSha256 pk)) (.int a.captured.length) postAt
        c.config.receiverPublic c.config.receiverKeyId with
    | error e => exact returned_along (persist_along (outcome_other (((postflight_keeps report postAt _).2 _ hp).trans_ne hs)))
    | ok receipt =>
      refine returned_along (persist_along fun _ => ⟨?_⟩)
      exact {
        admission := a, intent_, response := observed, postAt, receipt, admitted := hadmitted
        captured := List.mem_append_left d hcaptured, sent := List.mem_append_left d hsent, verified := hv }

theorem afterSend_along {a : Admission} {report : Report} {requestId intent_ finalAt : Json} {response : Option Json}
    {h : History Effect Answer} (hadmitted : admission pk assess c a.captured a.admittedAt = .ok a)
    (hcaptured : ⟨.payloadBytes, some a.captured⟩ ∈ h) (hsent : ⟨.send a.captured intent_, response⟩ ∈ h) :
    Prog.Along (Allowed pk assess c) (Outcome pk assess c)
      (afterSend pk assess c a report requestId finalAt response) h := by
  have hunknown : "OUTCOME_UNKNOWN" ≠ "RECEIPT_CONFIRMED" := by decide
  unfold afterSend
  refine Prog.Along.after (allowed_unsent pk assess c) (clockAfter_uses (fun h => h) finalAt) fun now d _ _ => ?_
  cases now with
  | error e => exact returned_along (persist_along (outcome_other hunknown))
  | ok postAt =>
    cases response with
    | none => exact closeUnknown_along hunknown
    | some response =>
      dsimp only
      cases ht : transportResult response finalAt postAt with
      | error e => exact closeUnknown_along hunknown
      | ok observed =>
        obtain rfl := transportResult_value ht
        refine Prog.Along.andThen ?_
        cases keyAuthorized pk c.config a.actual a.trust postAt with
        | error e => trivial
        | ok authorized =>
          cases authorized with
          | true =>
            exact confirm_along hunknown hadmitted (List.mem_append_left d hcaptured) (List.mem_append_left d hsent)
          | false => exact closeUnknown_along hunknown

theorem clockAfter_reads (earlier : Json) :
    Prog.Along (fun _ _ => True)
      (fun h r => ∀ now, r = .ok now → h = [⟨.clock, some now⟩] ∧ ∃ t, timestamp now = .ok t)
      (clockAfter earlier) [] := by
  unfold clockAfter clock
  refine Prog.Along.andThen (Prog.Along.andThen ⟨trivial, fun value => ?_⟩)
  cases value with
  | none => exact fun _ h => nomatch h
  | some value =>
    simp only [Prog.Along]
    cases hvalue : timestamp value with
    | error e => exact fun _ h => nomatch h
    | ok t =>
      intro now h
      obtain ⟨_, -, h⟩ := bind_ok h
      obtain ⟨_, -, h⟩ := bind_ok h
      obtain ⟨_, -, h⟩ := bind_ok h
      cases h
      exact ⟨rfl, t, hvalue⟩

theorem observeFinal_keeps (a : Admission) (report : Report) (finalAt : Json) :
    (observeFinal pk assess c a report finalAt).1.state = report.state := by
  unfold observeFinal
  dsimp only
  split
  · rfl
  · next package trust assessment _ =>
    generalize hr : { report with
      finalGateEvidence := package, finalGateTrust := trust, finalGateAssessment := assessment } = settled
    have hkeeps : (postflight pk assess c settled finalAt none).1.state = settled.state ∧ _ :=
      postflight_keeps settled finalAt none
    have hstate : settled.state = report.state := hr ▸ rfl
    rw [hstate] at hkeeps
    split
    · next hp => rw [hp] at hkeeps; exact hkeeps.1
    · next hp => rw [hp] at hkeeps; exact hkeeps.2 _ rfl

/-- The last gate answers with its time and the assessment at it. -/
theorem observeFinal_assesses {a : Admission} {report : Report} {finalAt : Json} {g : Json × Json}
    (h : (observeFinal pk assess c a report finalAt).2 = .ok g) :
    g.1 = finalAt ∧ ∃ package trust, frame pk a.actual a.trust none (some finalAt) (some finalAt) = .ok (package, trust) ∧
      assess package trust = .ok g.2 := by
  unfold observeFinal at h
  dsimp only at h
  split at h
  · cases h
  · next package trust assessment hassessed =>
    obtain ⟨⟨package', trust'⟩, hframe, hassessed⟩ := bind_ok hassessed
    obtain ⟨assessment', hassess, hassessed⟩ := bind_ok hassessed
    cases hassessed
    split at h
    · cases h
    · cases h
      exact ⟨rfl, package', trust', hframe, hassess⟩

theorem endpointPinned_along {h : History Effect Answer} {f : Bool → Program (Run Report)}
    (hf : ∀ pinned d, (∀ o ∈ d, isEndpoint o.1) →
      Prog.Along (Allowed pk assess c) (Outcome pk assess c) (f pinned) (h ++ d)) :
    Prog.Along (Allowed pk assess c) (Outcome pk assess c) ((endpointPinned c.config).andThen f) h :=
  Prog.Along.after_andThen (fun e he => allowed_unsent pk assess c e he.unsent) (endpointPinned_uses c.config trivial)
    (fun pinned d _ hd => hf pinned d hd) (fun _ _ _ => trivial)

/-- The calls on a request that this call claimed. -/
theorem claimed_along {a : Admission} {report : Report} {requestId fingerprint : String} {snapshot intent_ : Json}
    {serialized : List Char} {h : History Effect Answer} (hs : report.state ≠ "RECEIPT_CONFIRMED")
    (hunsent : Unsent h) (hadmitted : admission pk assess c a.captured a.admittedAt = .ok a)
    (hpermitted : allowed a.preflight = .ok true) (hid : sub a.subject "request_id" = .ok (.str requestId))
    (hfingerprint : requestFingerprint pk a = .ok fingerprint)
    (hintent : intentOf pk c a (.str requestId) = .ok (intent_, snapshot))
    (hcaptured : ⟨.payloadBytes, some a.captured⟩ ∈ h)
    (hclaim : ⟨.claim requestId fingerprint serialized, .ok none⟩ ∈ h) :
    Prog.Along (Allowed pk assess c) (Outcome pk assess c)
      (claimed pk assess c a report (.str requestId) intent_) h := by
  unfold claimed finalGate
  refine Prog.Along.after (allowed_unsent pk assess c) 
    (hookFailed_unsent (e := .beforeSend) (fun h => h) _ _) fun failed d₁ _ q₁ => ?_
  refine Prog.Along.bind (Prog.Along.after (allowed_unsent pk assess c) (clockAfter_uses (fun h => h) _)
    fun now d₂ hnow q₂ => ?_)
  have hq₂ := (hunsent.append q₁).append q₂
  cases now with
  | error e => exact blockAfter_along hs
  | ok finalAt =>
    obtain ⟨rfl, -⟩ := (clockAfter_reads a.admittedAt).path hnow finalAt rfl
    dsimp only
    generalize hr : { report with journalState := intent } = opened
    have hopened : opened.state ≠ "RECEIPT_CONFIRMED" := hr ▸ hs
    have hkeeps : (observeFinal pk assess c a opened finalAt).1.state ≠ _ :=
      (observeFinal_keeps a opened finalAt).trans_ne hopened
    have hassesses : ∀ g, (observeFinal pk assess c a opened finalAt).2 = .ok g → _ := fun g hg =>
      observeFinal_assesses hg
    generalize observeFinal pk assess c a opened finalAt = observed at hkeeps hassesses ⊢
    obtain ⟨settled, gate⟩ := observed
    cases gate with
    | error e => exact blockAfter_along hkeeps
    | ok gate =>
      obtain ⟨hat, package, trust, hframe, hassess⟩ := hassesses gate rfl
      obtain ⟨at_, assessment⟩ := gate
      obtain rfl : at_ = finalAt := hat
      cases failed with
      | true => exact blockAfter_along hkeeps
      | false =>
        refine Prog.Along.andThen ?_
        cases hrepermitted : allowed assessment with
        | error e => trivial
        | ok repermitted =>
          cases repermitted with
          | false => exact blockAfter_along hkeeps
          | true =>
            refine Prog.Along.andThen ?_
            cases keyAuthorized pk c.config a.actual a.trust at_ with
            | error e => trivial
            | ok authorized =>
              cases authorized with
              | false => exact blockAfter_along hkeeps
              | true =>
                refine endpointPinned_along fun pinned d₃ hd₃ => ?_
                cases pinned with
                | false => exact blockAfter_along hkeeps
                | true =>
                  refine ⟨⟨?_⟩, fun response => ?_⟩
                  · exact {
                      admission := a, requestId, fingerprint, snapshot, serialized, before := h ++ d₁, finalAt := at_
                      package, trust, assessment, checking := d₃, admitted := hadmitted, permitted := hpermitted
                      identified := hid, fingerprinted := hfingerprint, intended := hintent, split := rfl
                      captured := List.mem_append_left d₁ hcaptured, claimed := List.mem_append_left d₁ hclaim
                      framed := hframe, assessed := hassess, repermitted := hrepermitted, checked := hd₃
                      first := hq₂.append fun o ho => (hd₃ o ho).unsent }
                  · refine afterSend_along hadmitted ?_ (List.mem_append_right _ List.mem_cons_self)
                    simp [hcaptured]

variable (pk) in
/-- `claim` says CLAIMED only where it inserted the row. -/
theorem claimRow_inserts (requestId : Json) (fingerprint : String) (snapshot : Json) :
    Prog.Along (fun _ _ => True)
      (fun h r => ∀ row, r = .ok ("CLAIMED", row) → ∃ id serialized, requestId = .str id ∧
        (⟨.claim id fingerprint serialized, .ok none⟩ : (e : Effect) × Answer e) ∈ h)
      (claimRow pk requestId fingerprint snapshot) [] := by
  unfold claimRow
  refine Prog.Along.andThen ?_
  cases hid : identifier requestId with
  | error e => exact fun _ h => nomatch h
  | ok id =>
    refine Prog.Along.andThen ?_
    cases checkFingerprint fingerprint with
    | error e => exact fun _ h => nomatch h
    | ok _ =>
      refine Prog.Along.andThen ?_
      cases encoded pk snapshot with
      | error e => exact fun _ h => nomatch h
      | ok serialized =>
        refine ⟨trivial, fun r => ?_⟩
        rcases r with e | found | row
        · exact fun _ h => nomatch h
        · refine Prog.Along.after_andThen (fun _ _ _ => trivial) (selectRow_unsent pk id) ?_ ?_
          · intro row d _ _
            cases row with
            | none => exact fun _ h => nomatch h
            | some row => exact fun _ _ => ⟨id, serialized, identifier_value hid, by simp⟩
          · exact fun _ _ _ _ h => nomatch h
        · intro row' h
          simp only [Except.ok.injEq, Prod.mk.injEq] at h
          split_ifs at h <;> simp at h

theorem checkClaim_claimed {requestId : Json} {fingerprint status : String} {snapshot : Json} {row : Row}
    (h : checkClaim pk requestId fingerprint snapshot status row = .ok none) : status = "CLAIMED" := by
  unfold checkClaim at h
  obtain ⟨_, -, h⟩ := bind_ok h
  by_contra hs
  rw [if_neg hs] at h
  obtain ⟨_, -, h⟩ := bind_ok h
  obtain ⟨_, -, h⟩ := bind_ok h
  cases h

theorem claim_along {a : Admission} {report : Report} {requestId : Json} {fingerprint : String}
    {h : History Effect Answer} (hs : report.state ≠ "RECEIPT_CONFIRMED") (hunsent : Unsent h)
    (hadmitted : admission pk assess c a.captured a.admittedAt = .ok a) (hpermitted : allowed a.preflight = .ok true)
    (hid : sub a.subject "request_id" = .ok requestId) (hfingerprint : requestFingerprint pk a = .ok fingerprint)
    (hcaptured : ⟨.payloadBytes, some a.captured⟩ ∈ h) :
    Prog.Along (Allowed pk assess c) (Outcome pk assess c) (claim pk assess c a report requestId fingerprint) h := by
  refine Prog.Along.andThen ?_
  cases hintent : intentOf pk c a requestId with
  | error e => trivial
  | ok made =>
    obtain ⟨intent_, snapshot⟩ := made
    dsimp only [Prog.Along]
    refine Prog.Along.after (allowed_unsent pk assess c) (claimRow_unsent pk requestId fingerprint snapshot)
      fun row d hrow q => ?_
    have hq := hunsent.append q
    cases row with
    | error e =>
      exact Prog.Along.after (allowed_unsent pk assess c) (journalState_unsent pk requestId)
        fun found d' _ _ => outcome_other hs
    | ok row =>
      obtain ⟨status, row⟩ := row
      dsimp only
      cases hcheck : checkClaim pk requestId fingerprint snapshot status row with
      | error e =>
        exact Prog.Along.after (allowed_unsent pk assess c) (journalState_unsent pk requestId)
          fun found d' _ _ => outcome_other hs
      | ok replayed =>
        cases replayed with
        | some row => exact replay_outcome
        | none =>
          obtain rfl := checkClaim_claimed hcheck
          obtain ⟨id, serialized, rfl, hclaim⟩ := (claimRow_inserts pk requestId fingerprint snapshot).path hrow row rfl
          exact claimed_along hs hq hadmitted hpermitted hid hfingerprint hintent (List.mem_append_left d hcaptured)
            (List.mem_append_right h hclaim)

theorem admitted_along {a : Admission} {failed : Bool} {h : History Effect Answer} (hunsent : Unsent h)
    (hadmitted : admission pk assess c a.captured a.admittedAt = .ok a)
    (hcaptured : ⟨.payloadBytes, some a.captured⟩ ∈ h) :
    Prog.Along (Allowed pk assess c) (Outcome pk assess c) (admitted pk assess c a failed) h := by
  have hblocked : "BLOCKED_WITHOUT_ATTEMPT" ≠ "RECEIPT_CONFIRMED" := by decide
  unfold admitted
  cases failed with
  | true => exact outcome_other hblocked
  | false =>
    refine Prog.Along.andThen ?_
    cases hid : sub a.subject "request_id" with
    | error e => trivial
    | ok requestId =>
      refine Prog.Along.andThen ?_
      cases hfingerprint : requestFingerprint pk a with
      | error e => trivial
      | ok fingerprint =>
        refine Prog.Along.after (allowed_unsent pk assess c) (getValid_unsent pk requestId) fun found d _ q => ?_
        rcases found with _ | _ | row
        · exact outcome_other hblocked
        · refine Prog.Along.andThen ?_
          cases hpermitted : allowed a.preflight with
          | error e => trivial
          | ok permitted =>
            cases permitted with
            | false => exact outcome_other hblocked
            | true =>
              refine Prog.Along.andThen ?_
              cases keyAuthorized pk c.config a.actual a.trust a.admittedAt with
              | error e => trivial
              | ok authorized =>
                cases authorized with
                | false => exact outcome_other hblocked
                | true =>
                  refine endpointPinned_along fun pinned d' hd' => ?_
                  cases pinned with
                  | false => exact outcome_other hblocked
                  | true =>
                    exact claim_along hblocked ((hunsent.append q).append fun o ho => (hd' o ho).unsent) hadmitted
                      hpermitted hid hfingerprint (by simp [hcaptured])
        · exact replay_outcome

theorem capturePayload_along :
    Prog.Along (Allowed pk assess c)
      (fun h r => Unsent h ∧ ∀ captured, r = .ok captured → ⟨.payloadBytes, some captured⟩ ∈ h) capturePayload [] := by
  refine ⟨trivial, fun n => ?_⟩
  cases n with
  | none => exact ⟨by simp [Unsent, isSend], fun _ h => nomatch h⟩
  | some n =>
    refine Prog.Along.andThen ?_
    cases Incident.require (n ≤ maxPayload) "Upload exceeds the 1 MiB pilot payload limit" with
    | error e => exact ⟨by simp [Unsent, isSend], fun _ h => nomatch h⟩
    | ok _ =>
      refine ⟨trivial, fun captured => ⟨by simp [Unsent, isSend], ?_⟩⟩
      cases captured with
      | none => exact fun _ h => nomatch h
      | some captured =>
        intro captured' h
        cases h
        simp

theorem admission_captured {captured : Bytes} {admittedAt : Json} {a : Admission}
    (h : admission pk assess c captured admittedAt = .ok a) : a.captured = captured ∧ a.admittedAt = admittedAt := by
  unfold admission at h
  iterate 6 obtain ⟨_, -, h⟩ := bind_ok h
  cases h
  exact ⟨rfl, rfl⟩

variable (pk assess c)

theorem execute_along : Prog.Along (Allowed pk assess c) (Outcome pk assess c) (execute pk assess c) [] := by
  refine Prog.Along.andThen ?_
  cases prepare assess c with
  | error e => trivial
  | ok _ =>
    refine Prog.Along.andThen (capturePayload_along.mono ?_)
    rintro h₀ captured ⟨hunsent, hcaptured⟩
    cases captured with
    | error e => trivial
    | ok captured =>
      refine Prog.Along.after (allowed_unsent pk assess c)
        (hookFailed_unsent (e := .afterSnapshot) (fun h => h) _ _) fun failed d₁ _ q₁ => ?_
      refine Prog.Along.after_andThen (allowed_unsent pk assess c) (clock_uses fun h => h)
        (fun admittedAt d₂ _ q₂ => ?_) (fun _ _ _ => trivial)
      refine Prog.Along.andThen ?_
      cases hadmitted : admission pk assess c captured admittedAt with
      | error e => trivial
      | ok a =>
        obtain ⟨rfl, rfl⟩ := admission_captured hadmitted
        exact admitted_along ((hunsent.append q₁).append q₂) hadmitted (by simp [hcaptured _ rfl])

end Calls
end VapEvidence.Upload
