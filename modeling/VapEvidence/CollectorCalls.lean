import VapEvidence.CollectorGateway
import VapEvidence.UploadCalls

set_option autoImplicit false

/-!
# One collected execution

What `execute` has done before it hands bytes to the transport: its claim, the
collector's receipt, a later readback and the last gate, in this order.
-/
namespace VapEvidence.Collector
open Json Incident Interleaving

def isSend : Effect → Prop
  | .upload e => Upload.isSend e
  | _ => False

/-- No call of `transport.send`. -/
def Unsent (h : History Effect Answer) : Prop := ∀ o ∈ h, ¬ isSend o.1

theorem Unsent.append {h d : History Effect Answer} (hh : Unsent h) (hd : Unsent d) : Unsent (h ++ d) :=
  fun o ho => (List.mem_append.1 ho).elim (hh o) (hd o)

/-! ## The stages of a call -/

section Stages
variable (pk : Packages) (assess : Json → Json → Run Json) (c : Call) (payload : Bytes)

/-- The call has claimed its request for its own snapshot. -/
structure Claimed (h : History Effect Answer) where
  package : Json
  trust : Json
  admission : Admission
  fingerprint : String
  policy : Json
  decision : Json
  intents : Intents
  status : String
  row : Upload.Row
  before : History Effect Answer
  claiming : History Effect Answer
  prepared : prepare pk assess c = .ok (package, trust)
  admitted : Collector.admission pk assess c package trust payload admission.at_ = .ok admission
  fingerprinted : fingerprintOf pk c.gateway admission.frame (.int admission.captured.length) = .ok fingerprint
  pending : authorization admission.frame true = .ok (policy, decision)
  intended : intentsOf pk c admission decision = .ok intents
  acknowledged : checkClaim pk assess c admission.requestId fingerprint intents.snapshot status row = .ok none
  split : h = before ++ claiming
  captured : ⟨.upload .payloadBytes, some payload⟩ ∈ before
  claims : Prog.Path (uploading (Upload.claimRow pk (.str admission.requestId) fingerprint intents.snapshot)) claiming
    (.ret (.ok (status, row)))
  unsent : Unsent h

/-- After its claim the call has verified a receipt of the collector for its signed intent. -/
structure Collected (h : History Effect Answer) where
  before : History Effect Answer
  after : History Effect Answer
  stage : Claimed pk assess c payload before
  raw : Json
  exchange : Json
  collectedAt : Json
  receipt : Json
  split : h = before ++ after
  unsent : Unsent after
  asked : ⟨.collect stage.intents.collection, some raw⟩ ∈ after
  exchanged : Collector.exchange pk raw stage.admission.at_ collectedAt = .ok exchange
  verified : verifyReceipt pk (exchange.item "response") stage.intents.collection c.gateway.collectorPublic
    c.gateway.collectorKeyId (exchange.item "completed_at") = .ok receipt

/-- After the receipt the call has verified a status for a query with a fresh nonce. -/
structure ReadBack (h : History Effect Answer) where
  before : History Effect Answer
  asking : History Effect Answer
  after : History Effect Answer
  stage : Collected pk assess c payload before
  nonce : String
  query : Json
  queryAt : Json
  raw : Json
  exchange : Json
  checkedAt : Json
  status : Json
  split : h = before ++ asking ++ after
  unsent : Unsent (asking ++ after)
  fresh : ⟨.nonce, nonce⟩ ∈ asking
  timed : ∃ t, timestamp queryAt = .ok t
  queried : queryOf pk c.gateway stage.stage.intents.collection queryAt nonce = .ok query
  asked : ⟨.status query, some raw⟩ ∈ after
  exchanged : Collector.exchange pk raw queryAt checkedAt = .ok exchange
  verified : checkStatus pk c stage.stage.intents (stage.exchange.item "response") query exchange = .ok status
  found : status.item "status" ≠ .str "NOT_FOUND"

/-- An effect that may follow the reading of the clock at the last gate. -/
def isChecking : Effect → Prop
  | .upload .fresh => True
  | .upload .endpoint => True
  | .collectorEndpoint => True
  | _ => False

/-- What stands behind the call of `transport.send` after the effects of `h`. -/
structure Authorisation (intent_ : Json) (h : History Effect Answer) where
  before : History Effect Answer
  checking : History Effect Answer
  stage : ReadBack pk assess c payload before
  finalAt : Json
  health : Option Json
  final : Frame
  permit : Json
  split : h = before ++ [⟨.upload .clock, some finalAt⟩] ++ checking
  checked : ∀ o ∈ checking, isChecking o.1
  signed : stage.stage.stage.intents.dispatch = intent_
  framed : frame pk assess stage.stage.stage.admission.frame.evidence stage.stage.stage.admission.frame.trust finalAt
    true health none = .ok final
  permitted : finalPermit pk final stage.stage.stage.intents.body = .ok permit

end Stages

/-! ## Pieces without a send -/

section Pieces
variable (pk : Packages) (assess : Json → Json → Run Json) (g : Gateway)

theorem uploading_uses {α : Type} {A : Effect → Prop} {p : Upload.Program α} (hp : p.Uses fun e => A (.upload e)) :
    (uploading p).Uses A := Prog.Uses.lift hp

theorem perform_uses {A : Effect → Prop} {e : Effect} (hA : A e) (read : Answer e → Option Json) :
    (perform e read).Uses A := ⟨hA, fun _ => trivial⟩

theorem getOwned_uses {A : Effect → Prop} (hA : ∀ id, A (.upload (.lookup id))) (requestId : String) :
    (getOwned pk assess g requestId).Uses A := by
  refine (uploading_uses (Upload.get_uses pk hA _)).andThen fun r => ?_
  cases r <;> trivial

theorem journalState_unsent (requestId : String) : (journalState pk assess g requestId).Uses fun e => ¬ isSend e := by
  refine (getOwned_uses pk assess g (fun _ h => h) requestId).bind fun r => ?_
  rcases r with _ | _ | _ <;> trivial

theorem persist_unsent (report : Report) (requestId state : String) :
    (persist pk assess g report requestId state).Uses fun e => ¬ isSend e := by
  refine Prog.Uses.bind ((uploading_uses (Upload.finishRow_unsent pk _ state _)).andThen (f := fun _ => .ret _)
    fun _ => trivial) fun saved => ?_
  cases saved with
  | ok _ => trivial
  | error e => exact (journalState_unsent pk assess g requestId).bind fun _ => trivial

theorem block_unsent (report : Report) (requestId reason : String) :
    (block pk assess g report requestId reason).Uses fun e => ¬ isSend e :=
  (persist_unsent pk assess g _ requestId _).bind fun _ => trivial

theorem healthOf_uses {A : Effect → Prop} (hA : A (.upload .fresh)) (f : Frame) (at_ : Json)
    (health : Option (Bool × Bool)) : (healthOf pk g f at_ health).Uses A := by
  cases health with
  | none => trivial
  | some health =>
    refine Prog.Uses.andThen (p := .ret _) trivial fun authorized => ?_
    cases authorized with
    | true => exact ⟨hA, fun _ => trivial⟩
    | false => trivial

theorem setFinal_uses {A : Effect → Prop} (hA : A (.upload .fresh)) (report : Report) (at_ : Json)
    (health : Option (Bool × Bool)) : (setFinal pk assess g report at_ health).Uses A :=
  (healthOf_uses pk g hA report.admission at_ health).andThen fun _ => trivial

theorem blockAt_unsent (report : Report) (requestId reason : String) (at_ : Json) (health : Option (Bool × Bool)) :
    (blockAt pk assess g report requestId reason at_ health).Uses fun e => ¬ isSend e := by
  refine (setFinal_uses pk assess g (fun h => h) report at_ health).bind fun r => ?_
  cases r <;> exact block_unsent pk assess g _ requestId _

theorem collectorPinned_uses {A : Effect → Prop} (hA : A .collectorEndpoint) : (collectorPinned g).Uses A :=
  (perform_uses hA _).andThen fun _ => trivial

theorem endpointsPinned_uses {A : Effect → Prop} (hA : A (.upload .endpoint)) (hA' : A .collectorEndpoint) :
    (endpointsPinned g).Uses A := by
  refine (uploading_uses (Upload.endpointPinned_uses g.config hA)).andThen fun pinned => ?_
  cases pinned with
  | true => exact collectorPinned_uses g hA'
  | false => trivial

theorem clockAfter_uses {A : Effect → Prop} (hA : A (.upload .clock)) (earlier : Json) : (clockAfter earlier).Uses A :=
  uploading_uses (Upload.clockAfter_uses hA earlier)

theorem rpc_uses {A : Effect → Prop} (hA : A .collectorEndpoint) (hA' : A (.upload .clock))
    {call : Program (Run Json)} (hcall : call.Uses A) (requestAt : Json) : (rpc pk g call requestAt).Uses A := by
  refine (collectorPinned_uses g hA).andThen fun pinned => ?_
  cases pinned with
  | true => exact hcall.andThen fun raw => (clockAfter_uses hA' requestAt).andThen fun _ => trivial
  | false => trivial

variable (c : Call)

theorem unknown_unsent (report : Report) (requestId reason : String) :
    (unknown pk assess c report requestId reason).Uses fun e => ¬ isSend e :=
  (persist_unsent pk assess c.gateway _ requestId _).bind fun _ => trivial

theorem confirm_unsent (a : Admission) (report : Report) (final : Frame) (observed postAt : Json) :
    (confirm pk assess c a report final observed postAt).Uses fun e => ¬ isSend e := by
  refine (uploading_uses (A := fun e => ¬ isSend e) (Upload.dispatchedOf_unsent observed)).bind fun dispatched => ?_
  refine Prog.Uses.andThen (p := .ret _) trivial fun report => ?_
  split
  · exact unknown_unsent pk assess c report a.requestId _
  · exact (persist_unsent pk assess c.gateway _ a.requestId _).bind fun _ => trivial

theorem afterSend_unsent (a : Admission) (report : Report) (final : Frame) (finalAt : Json) (raw : Option Json) :
    (afterSend pk assess c a report final finalAt raw).Uses fun e => ¬ isSend e := by
  refine Prog.Uses.bind ((clockAfter_uses (A := fun e => ¬ isSend e) (fun h => h) finalAt).andThen
    (f := fun postAt => .ret _) fun _ => trivial) fun closed => ?_
  cases closed with
  | error e => exact unknown_unsent pk assess c _ a.requestId _
  | ok closed =>
    dsimp only
    split
    · exact unknown_unsent pk assess c _ a.requestId _
    · exact unknown_unsent pk assess c _ a.requestId _
    · split
      · exact unknown_unsent pk assess c _ a.requestId _
      · refine Prog.Uses.andThen (p := .ret _) trivial fun authorized => ?_
        cases authorized with
        | true => exact confirm_unsent pk assess c a _ final _ _
        | false => exact unknown_unsent pk assess c _ a.requestId _

end Pieces

/-! ## The call -/

section Calls
variable {pk : Packages} {assess : Json → Json → Run Json} {c : Call} {payload : Bytes}

variable (pk assess c) in
/-- What stands before an effect of a call. -/
def Allowed (h : History Effect Answer) : Effect → Prop
  | .upload (.send payload intent_) => Nonempty (Authorisation pk assess c payload intent_ h)
  | _ => True

variable (pk assess c) in
theorem allowed_unsent (e : Effect) (he : ¬ isSend e) (h : History Effect Answer) : Allowed pk assess c h e := by
  rcases e with ⟨e⟩ | _ | _ | _ | _ | _
  · cases e <;> simp_all [Allowed, isSend, Upload.isSend]
  all_goals trivial

variable (pk assess c) in
/-- Every send of the rest of the call is authorised. -/
abbrev Guarded (p : Program (Run Report)) (h : History Effect Answer) : Prop :=
  Prog.Along (Allowed pk assess c) (fun _ _ => True) p h

theorem quiet_guarded {p : Program (Run Report)} (hp : p.Uses fun e => ¬ isSend e) (h : History Effect Answer) :
    Guarded pk assess c p h :=
  (Prog.Along.piece (allowed_unsent pk assess c) hp h).mono fun _ _ _ => trivial

/-- A piece without a send, with what follows it. -/
theorem Guarded.after {α : Type} {p : Program α} (hp : p.Uses fun e => ¬ isSend e) {f : α → Program (Run Report)}
    {h : History Effect Answer} (hf : ∀ a d, Prog.Path p d (.ret a) → Unsent d → Guarded pk assess c (f a) (h ++ d)) :
    Guarded pk assess c (p >>= f) h :=
  Prog.Along.after (allowed_unsent pk assess c) hp hf

theorem Guarded.after_andThen {α : Type} {p : Program (Run α)} (hp : p.Uses fun e => ¬ isSend e)
    {f : α → Program (Run Report)} {h : History Effect Answer}
    (hf : ∀ a d, Prog.Path p d (.ret (.ok a)) → Unsent d → Guarded pk assess c (f a) (h ++ d)) :
    Guarded pk assess c (p.andThen f) h :=
  Prog.Along.after_andThen (allowed_unsent pk assess c) hp hf fun _ _ _ => trivial

/-- A value that may raise, with what follows it. -/
theorem Guarded.value {α : Type} {x : Run α} {f : α → Program (Run Report)} {h : History Effect Answer}
    (hf : ∀ a, x = .ok a → Guarded pk assess c (f a) h) : Guarded pk assess c ((Prog.ret x).andThen f) h := by
  refine Prog.Along.andThen ?_
  cases x with
  | error e => trivial
  | ok a => exact hf a rfl

theorem clockAfter_reads {earlier now : Json} {d : History Effect Answer}
    (h : Prog.Path (clockAfter earlier) d (.ret (.ok now))) :
    d = [⟨.upload .clock, some now⟩] ∧ ∃ t, timestamp now = .ok t := by
  obtain ⟨d₀, rfl, hd⟩ := Prog.Path.of_lift h
  obtain ⟨hread, htime⟩ : d₀ = [⟨.clock, some now⟩] ∧ _ := (Upload.clockAfter_reads earlier).path hd now rfl
  rw [hread]
  exact ⟨rfl, htime⟩

/-- An exchange comes from an answer of the collector to the call. -/
theorem rpc_answers {g : Gateway} {call : Program (Run Json)} {requestAt : Json} {o : Json → (e : Effect) × Answer e}
    (hcall : ∀ h, Prog.Along (fun _ _ => True) (fun h' r => ∀ raw, r = .ok raw → h' = h ++ [o raw]) call h) :
    Prog.Along (fun _ _ => True) (fun h r => ∀ x : Json × Json, r = .ok x → ∃ raw, o raw ∈ h ∧
      exchange pk raw requestAt x.2 = .ok x.1) (rpc pk g call requestAt) [] := by
  refine Prog.Along.after_andThen (A := fun _ => True) (fun _ _ _ => trivial) (collectorPinned_uses g trivial) ?_
    (fun _ _ _ _ h => nomatch h)
  intro pinned d _ _
  cases pinned with
  | false => exact fun _ h => nomatch h
  | true =>
    refine Prog.Along.andThen ((hcall _).mono fun h' raw hraw => ?_)
    cases raw with
    | error e => exact fun _ h => nomatch h
    | ok raw =>
      obtain rfl := hraw raw rfl
      refine Prog.Along.after_andThen (A := fun _ => True) (fun _ _ _ => trivial) (clockAfter_uses trivial requestAt) ?_
        (fun _ _ _ _ h => nomatch h)
      intro observedAt d' _ _ x hx
      cases hexchange : exchange pk raw requestAt observedAt with
      | error e =>
        rw [hexchange] at hx
        cases hx
      | ok value =>
        rw [hexchange] at hx
        cases hx
        exact ⟨raw, by simp, hexchange⟩

theorem ask_uses {A : Effect → Prop} (hA : A (.upload .clock)) (hA' : A .nonce) (intent_ earlier : Json) :
    (ask pk c intent_ earlier).Uses A :=
  (clockAfter_uses hA earlier).andThen fun _ => ⟨hA', fun _ => trivial⟩

/-- A query carries a nonce that was drawn for it. -/
theorem ask_draws (intent_ earlier : Json) :
    Prog.Along (fun _ _ => True) (fun h r => ∀ x : Json × Json, r = .ok x → ∃ nonce, ⟨.nonce, nonce⟩ ∈ h ∧
      queryOf pk c.gateway intent_ x.2 nonce = .ok x.1 ∧ ∃ t, timestamp x.2 = .ok t) (ask pk c intent_ earlier) [] := by
  refine Prog.Along.after_andThen (A := fun _ => True) (fun _ _ _ => trivial) (clockAfter_uses trivial earlier) ?_
    (fun _ _ _ _ h => nomatch h)
  intro queryAt d hclock _
  refine ⟨trivial, fun nonce x hx => ?_⟩
  cases hquery : queryOf pk c.gateway intent_ queryAt nonce with
  | error e =>
    rw [hquery] at hx
    cases hx
  | ok query =>
    rw [hquery] at hx
    cases hx
    exact ⟨nonce, by simp, hquery, (clockAfter_reads hclock).2⟩

theorem perform_collect (intent_ : Json) (h : History Effect Answer) :
    Prog.Along (fun _ _ => True) (fun h' r => ∀ raw, r = .ok raw → h' = h ++ [⟨.collect intent_, some raw⟩])
      (perform (.collect intent_) fun r => r) h := by
  refine ⟨trivial, fun r => ?_⟩
  cases r with
  | none => exact fun _ h => nomatch h
  | some raw =>
    rintro _ ⟨⟩
    rfl

theorem perform_status (query : Json) (h : History Effect Answer) :
    Prog.Along (fun _ _ => True) (fun h' r => ∀ raw, r = .ok raw → h' = h ++ [⟨.status query, some raw⟩])
      (perform (.status query) fun r => r) h := by
  refine ⟨trivial, fun r => ?_⟩
  cases r with
  | none => exact fun _ h => nomatch h
  | some raw =>
    rintro _ ⟨⟩
    rfl

/-- The last gate reads the clock, and the frame at that time is what it decides on. -/
theorem setFinal_frames {g : Gateway} {report report' : Report} {at_ : Json} {health : Option (Bool × Bool)}
    {d : History Effect Answer} (h : Prog.Path (setFinal pk assess g report at_ health) d (.ret (.ok report'))) :
    ∃ record final, report'.final = some final ∧
      frame pk assess report.admission.evidence report.admission.trust at_ true record none = .ok final := by
  have hall : Prog.Along (fun _ _ => True) (fun _ r => ∀ report', r = .ok report' → ∃ record final,
      report'.final = some final ∧
        frame pk assess report.admission.evidence report.admission.trust at_ true record none = .ok final)
      (setFinal pk assess g report at_ health) [] := by
    refine Prog.Along.after_andThen (A := fun _ => True) (fun _ _ _ => trivial)
      (healthOf_uses pk g trivial report.admission at_ health) ?_ (fun _ _ _ _ h => nomatch h)
    intro record d _ _ report' hreport
    obtain ⟨f, hframe, hreport⟩ := bind_ok hreport
    cases hreport
    exact ⟨record, f, rfl, hframe⟩
  exact hall.path h report' rfl

theorem unlessRefused_some {α : Type} {x : Run α} {a : α} (h : unlessRefused x = .ok (some a)) : x = .ok a := by
  unfold unlessRefused at h
  split at h <;> cases h
  rfl

theorem isChecking.unsent {e : Effect} (h : isChecking e) : ¬ isSend e := by
  rcases e with ⟨e⟩ | _ | _ | _ | _ | _
  · cases e <;> simp_all [isChecking, isSend, Upload.isSend]
  all_goals exact fun h => h

theorem admission_captured {package trust : Json} {captured : Bytes} {at_ : Json} {a : Admission}
    (h : admission pk assess c package trust captured at_ = .ok a) : a.captured = captured ∧ a.at_ = at_ := by
  unfold admission at h
  iterate 7 obtain ⟨_, -, h⟩ := bind_ok h
  cases h
  exact ⟨rfl, rfl⟩

/-- From a readback to the send. -/
theorem finalGate_guarded {h : History Effect Answer} (s : ReadBack pk assess c payload h) {report : Report}
    (hadmission : report.admission = s.stage.stage.admission.frame) (checkedAt : Json) :
    Guarded pk assess c (finalGate pk assess c s.stage.stage.admission s.stage.stage.intents report checkedAt) h := by
  refine Prog.Along.bind (Prog.Along.andThen ?_)
  refine (Prog.Along.piece (allowed_unsent pk assess c)
    (clockAfter_uses (A := fun e => ¬ isSend e) (fun h => h) checkedAt) h).mono ?_
  rintro _ now ⟨d, rfl, hnow, hd⟩
  cases now with
  | error e => exact quiet_guarded (block_unsent pk assess c.gateway _ _ _) _
  | ok finalAt =>
    obtain ⟨rfl, -⟩ := clockAfter_reads hnow
    refine Prog.Along.andThen ((Prog.Along.piece (fun e (he : isChecking e) =>
      allowed_unsent pk assess c e he.unsent)
      (setFinal_uses pk assess c.gateway trivial report finalAt _) _).mono ?_)
    rintro _ set ⟨d₁, rfl, hset, hd₁⟩
    cases set with
    | error e => exact quiet_guarded (block_unsent pk assess c.gateway _ _ _) _
    | ok report' =>
      obtain ⟨record, final, hfinal, hframe⟩ := setFinal_frames hset
      dsimp only [Prog.Along]
      rw [hfinal]
      dsimp only
      refine Guarded.value fun authorized _ => ?_
      cases authorized with
      | false => exact quiet_guarded (block_unsent pk assess c.gateway _ _ _) _
      | true =>
        refine Guarded.value fun permit hpermit => ?_
        cases permit with
        | none => exact quiet_guarded (block_unsent pk assess c.gateway _ _ _) _
        | some permit =>
          refine Prog.Along.after_andThen (fun e (he : isChecking e) =>
            allowed_unsent pk assess c e he.unsent)
            (endpointsPinned_uses c.gateway trivial trivial) (fun pinned d₂ _ hd₂ => ?_) (fun _ _ _ => trivial)
          cases pinned with
          | false => exact quiet_guarded (block_unsent pk assess c.gateway _ _ _) _
          | true =>
            refine ⟨⟨?_⟩, fun raw => quiet_guarded (afterSend_unsent pk assess c _ _ final finalAt raw) _⟩
            rw [hadmission] at hframe
            rw [(admission_captured s.stage.stage.admitted).1]
            exact {
              before := h, checking := d₁ ++ d₂, stage := s, finalAt, health := record, final, permit
              split := by simp, checked := fun o ho => (List.mem_append.1 ho).elim (hd₁ o) (hd₂ o)
              signed := rfl, framed := hframe, permitted := unlessRefused_some hpermit }

/-- From a collected receipt to the send. -/
theorem readback_guarded {h : History Effect Answer} (s : Collected pk assess c payload h) {asking : History Effect Answer}
    (hasking : Unsent asking) {report : Report} (hadmission : report.admission = s.stage.admission.frame)
    (hreceipt : report.collectionReceipt = s.exchange.item "response") (collectedAt : Json) :
    Guarded pk assess c (readback pk assess c s.stage.admission s.stage.intents report collectedAt) (h ++ asking) := by
  unfold readback
  refine Guarded.after (ask_uses (fun h => h) (fun h => h) _ _) fun asked d hasked hd => ?_
  cases asked with
  | error e => exact quiet_guarded (block_unsent pk assess c.gateway _ _ _) _
  | ok asked =>
    obtain ⟨query, queryAt⟩ := asked
    obtain ⟨nonce, hnonce, hquery, htime⟩ := (ask_draws s.stage.intents.collection collectedAt).path hasked _ rfl
    dsimp only
    refine Guarded.after (rpc_uses pk c.gateway (fun h => h) (fun h => h) (perform_uses (fun h => h) _) queryAt)
      fun answer d' hanswer hd' => ?_
    cases answer with
    | error e => exact quiet_guarded (block_unsent pk assess c.gateway _ _ _) _
    | ok answer =>
      obtain ⟨exchange, checkedAt⟩ := answer
      obtain ⟨raw, hraw, hexchange⟩ := (rpc_answers (perform_status query)).path hanswer _ rfl
      dsimp only
      unfold afterStatus
      dsimp only
      split
      · exact quiet_guarded (blockAt_unsent pk assess c.gateway _ _ _ _ _) _
      · rw [hreceipt]
        cases hstatus : checkStatus pk c s.stage.intents (s.exchange.item "response") query exchange with
        | error e => exact quiet_guarded (blockAt_unsent pk assess c.gateway _ _ _ _ _) _
        | ok status =>
          dsimp only
          split
          · exact quiet_guarded (blockAt_unsent pk assess c.gateway _ _ _ _ _) _
          · next hfound =>
            let stage : ReadBack pk assess c payload (h ++ asking ++ d ++ d') := {
              before := h, asking := asking ++ d, after := d', stage := s, nonce, query, queryAt, raw, exchange
              checkedAt, status, split := by simp, unsent := (hasking.append hd).append hd'
              fresh := List.mem_append_right asking hnonce, timed := htime, queried := hquery, asked := hraw, exchanged := hexchange
              verified := hstatus, found := hfound }
            refine finalGate_guarded stage ?_ checkedAt
            exact hadmission

/-- From the claim to the send. -/
theorem claimed_guarded {h : History Effect Answer} (s : Claimed pk assess c payload h) {report : Report}
    (hadmission : report.admission = s.admission.frame) :
    Guarded pk assess c (claimed pk assess c s.admission s.intents report) h := by
  unfold claimed
  refine Guarded.after (rpc_uses pk c.gateway (fun h => h) (fun h => h) (perform_uses (fun h => h) _) s.admission.at_)
    fun answer d hanswer hd => ?_
  cases answer with
  | error e => exact quiet_guarded (block_unsent pk assess c.gateway _ _ _) _
  | ok answer =>
    obtain ⟨exchange, collectedAt⟩ := answer
    obtain ⟨raw, hraw, hexchange⟩ := (rpc_answers (perform_collect s.intents.collection)).path hanswer _ rfl
    dsimp only
    unfold afterCollect
    dsimp only
    split
    · exact quiet_guarded (blockAt_unsent pk assess c.gateway _ _ _ _ _) _
    · cases hverified : verifyReceipt pk (exchange.item "response") s.intents.collection c.gateway.collectorPublic
          c.gateway.collectorKeyId (exchange.item "completed_at") with
      | error e => exact quiet_guarded (blockAt_unsent pk assess c.gateway _ _ _ _ _) _
      | ok receipt =>
        let stage : Collected pk assess c payload (h ++ d) := {
          before := h, after := d, stage := s, raw, exchange, collectedAt, receipt, split := rfl, unsent := hd
          asked := by simpa using hraw, exchanged := hexchange, verified := hverified }
        dsimp only
        split
        · refine ⟨trivial, fun passed => ?_⟩
          cases passed with
          | true =>
            have hhook : Unsent [(⟨.beforeFinalCheck, true⟩ : (e : Effect) × Answer e)] := by simp [Unsent, isSend]
            refine readback_guarded stage hhook ?_ rfl collectedAt
            exact hadmission
          | false => exact quiet_guarded (block_unsent pk assess c.gateway _ _ _) _
        · have hnone : Unsent [] := by simp [Unsent]
          rw [← List.append_nil (h ++ d)]
          refine readback_guarded stage hnone ?_ rfl collectedAt
          exact hadmission

/-- From the admission to the send. -/
theorem claim_guarded {h : History Effect Answer} {package trust : Json} {a : Admission} {fingerprint : String}
    {policy decision : Json} (hunsent : Unsent h) (hprepared : prepare pk assess c = .ok (package, trust))
    (hadmitted : admission pk assess c package trust payload a.at_ = .ok a)
    (hfingerprint : fingerprintOf pk c.gateway a.frame (.int a.captured.length) = .ok fingerprint)
    (hpending : authorization a.frame true = .ok (policy, decision))
    (hcaptured : ⟨.upload .payloadBytes, some payload⟩ ∈ h) :
    Guarded pk assess c (claim pk assess c a fingerprint decision) h := by
  refine Guarded.value fun i hintended => ?_
  refine Guarded.after (uploading_uses (Upload.claimRow_unsent pk _ fingerprint i.snapshot)) fun row d hrow hd => ?_
  cases row with
  | error e => exact Guarded.after (journalState_unsent pk assess c.gateway _) fun _ _ _ _ => trivial
  | ok row =>
    obtain ⟨status, row⟩ := row
    dsimp only
    cases hcheck : checkClaim pk assess c a.requestId fingerprint i.snapshot status row with
    | error e => exact Guarded.after (journalState_unsent pk assess c.gateway _) fun _ _ _ _ => trivial
    | ok replayed =>
      cases replayed with
      | some row => trivial
      | none =>
        let stage : Claimed pk assess c payload (h ++ d) := {
          package, trust, admission := a, fingerprint, policy, decision, intents := i, status, row, before := h
          claiming := d, prepared := hprepared, admitted := hadmitted, fingerprinted := hfingerprint
          pending := hpending, intended := hintended, acknowledged := hcheck, split := rfl, captured := hcaptured
          claims := hrow, unsent := hunsent.append hd }
        exact claimed_guarded stage rfl

theorem admitted_guarded {h : History Effect Answer} {package trust : Json} {a : Admission} (hunsent : Unsent h)
    (hprepared : prepare pk assess c = .ok (package, trust))
    (hadmitted : admission pk assess c package trust payload a.at_ = .ok a)
    (hcaptured : ⟨.upload .payloadBytes, some payload⟩ ∈ h) : Guarded pk assess c (admitted pk assess c a) h := by
  refine Guarded.value fun fingerprint hfingerprint => ?_
  refine Guarded.after (getOwned_uses pk assess c.gateway (fun _ h => h) a.requestId) fun found d _ hd => ?_
  rcases found with _ | _ | row
  · trivial
  · refine Guarded.value fun pending hpending => ?_
    cases pending with
    | none => trivial
    | some pending =>
      obtain ⟨policy, decision⟩ := pending
      refine Guarded.value fun authorized _ => ?_
      cases authorized with
      | false => trivial
      | true =>
        refine Guarded.after_andThen (endpointsPinned_uses c.gateway (fun h => h) fun h => h) fun pinned d' _ hd' => ?_
        cases pinned with
        | false => trivial
        | true =>
          refine claim_guarded ((hunsent.append hd).append hd') hprepared hadmitted hfingerprint
            (unlessRefused_some hpending) ?_
          simp [hcaptured]
  · trivial

variable (pk assess c) in
theorem execute_guarded : Guarded pk assess c (execute pk assess c) [] := by
  refine Guarded.value fun prepared hprepared => ?_
  obtain ⟨package, trust⟩ := prepared
  refine Prog.Along.andThen ⟨trivial, fun n => ?_⟩
  cases n with
  | none => trivial
  | some n =>
    refine Prog.Along.andThen ?_
    cases Incident.require (n ≤ Upload.maxPayload) "Payload must be bounded bytes" with
    | error e => trivial
    | ok _ =>
      refine ⟨trivial, fun captured => ?_⟩
      cases captured with
      | none => trivial
      | some captured =>
        refine Guarded.value fun earlier _ => ?_
        refine Guarded.after_andThen (clockAfter_uses (fun h => h) earlier) fun at_ d _ hd => ?_
        refine Guarded.value fun a hadmitted => ?_
        obtain ⟨rfl, rfl⟩ := admission_captured hadmitted
        have hcaptured : Unsent ([⟨.upload .payloadLength, some n⟩, ⟨.upload .payloadBytes, some a.captured⟩] :
            History Effect Answer) := by simp [Unsent, isSend, Upload.isSend]
        exact admitted_guarded (hcaptured.append hd) hprepared hadmitted (by simp)

end Calls
end VapEvidence.Collector
