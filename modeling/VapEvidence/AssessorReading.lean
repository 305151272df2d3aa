import VapEvidence.Assessor
import VapEvidence.ListExtends

set_option autoImplicit false

/-!
# What an assessment reads

The assessments of a report are the values of the evaluation, apart from its findings; its
records are those of the package that passed every check, with data that was validated.
-/
namespace VapEvidence.Assessor
open Json Incident Recording

/-! ## Values of evaluations -/

@[simp] theorem value_finding (code : String) (rs : List VerifiedRecord) : value (finding code rs) = .ok () := rfl

@[simp] theorem value_findingIf (c : Bool) (code : String) (rs : List VerifiedRecord) :
    value (findingIf c code rs) = .ok () := by
  cases c <;> rfl

/-- A loop whose rounds only leave findings. -/
theorem value_each_unit {α β : Type} {f : α → Eval β} {l : List α} (h : ∀ a ∈ l, ∃ b, value (f a) = .ok b) :
    ∃ bs, value (each f l) = .ok bs := by
  induction l with
  | nil => exact ⟨[], rfl⟩
  | cons a l ih =>
    obtain ⟨b, hb⟩ := h a List.mem_cons_self
    obtain ⟨bs, hbs⟩ := ih fun c hc => h c (List.mem_cons_of_mem _ hc)
    exact ⟨b :: bs, by simp only [each, value_bind, hb, hbs, value_pure]; rfl⟩

/-- The values of a loop are those of its rounds. -/
theorem value_each {α β : Type} {f : α → Eval β} {l : List α} {bs : List β} (h : value (each f l) = .ok bs) :
    List.Forall₂ (fun a b => value (f a) = .ok b) l bs := by
  induction l generalizing bs with
  | nil =>
    cases h
    exact .nil
  | cons a l ih =>
    simp only [each, value_bind] at h
    obtain ⟨b, hb, h⟩ := bind_ok h
    obtain ⟨rest, hrest, h⟩ := bind_ok h
    cases h
    exact .cons hb (ih hrest)

/-- Nothing stands against the record. -/
def clean (reason : VerifiedRecord → Run (Option (String × List VerifiedRecord))) (r : VerifiedRecord) : Bool :=
  match reason r with
  | .ok none => true
  | _ => false

theorem clean_pure (reason : VerifiedRecord → Option (String × List VerifiedRecord)) (r : VerifiedRecord) :
    clean (fun r => return reason r) r = (reason r).isNone := by
  unfold clean
  cases h : reason r <;> simp [h, pure, Except.pure]

theorem value_sift {reason : VerifiedRecord → Run (Option (String × List VerifiedRecord))} {rs kept : List VerifiedRecord}
    (h : value (sift reason rs) = .ok kept) : kept = rs.filter (clean reason) := by
  have hall := keep_ok h
  refine Except.ok.inj (h.symm.trans (value_keep fun r hr => ?_))
  obtain ⟨b, hb⟩ := hall r hr
  rw [value_bind, value_lift] at hb ⊢
  unfold clean
  cases hreason : reason r with
  | error e =>
    rw [hreason] at hb
    cases hb
  | ok found =>
    cases found <;> rfl

theorem value_sift_pure (reason : VerifiedRecord → Option (String × List VerifiedRecord)) (rs : List VerifiedRecord) :
    value (sift (fun r => return reason r) rs) = .ok (rs.filter fun r => (reason r).isNone) := by
  refine value_keep fun r _ => ?_
  rw [value_bind, value_lift]
  dsimp only
  cases reason r <;> rfl

/-! ## Validated packages -/

section Packages
variable {pk : Packages}

/-- What a validated record says of itself. -/
structure ValidRecord (pk : Packages) (target envelope : Json) : Prop where
  kindIs : ∃ role workflow, kinds.lookup (textOf ((envelope.item "body").item "kind")) = some (role, workflow)
  bindingNames : ((envelope.item "body").item "binding").hasFields (target.item "subject").keys = true
  data : validateData pk (textOf ((envelope.item "body").item "kind")) ((envelope.item "body").item "data") = .ok ()

theorem checkRecords_ok {target : Json} {seen : List String} {records : List Json} {u : Unit}
    (h : checkRecords pk target seen records = .ok u) : (∀ r ∈ records, ValidRecord pk target r) ∧
      (records.map fun r => textOf ((r.item "body").item "record_id")).Nodup ∧
      ∀ r ∈ records, textOf ((r.item "body").item "record_id") ∉ seen := by
  induction records generalizing seen with
  | nil => exact ⟨fun _ h => absurd h List.not_mem_nil, List.nodup_nil, fun _ h => absurd h List.not_mem_nil⟩
  | cons record records ih =>
    unfold checkRecords at h
    obtain ⟨_, -, h⟩ := bind_ok h
    obtain ⟨_, -, h⟩ := bind_ok h
    obtain ⟨_, -, h⟩ := bind_ok h
    obtain ⟨_, -, h⟩ := bind_ok h
    obtain ⟨id, hid, h⟩ := bind_ok h
    unfold checkBody at hid
    obtain ⟨_, -, hid⟩ := bind_ok hid
    obtain ⟨_, -, hid⟩ := bind_ok hid
    obtain ⟨_, hfresh, hid⟩ := bind_ok hid
    obtain ⟨_, -, hid⟩ := bind_ok hid
    obtain ⟨_, hsubject, hid⟩ := bind_ok hid
    obtain ⟨⟨⟩, hdata, hid⟩ := bind_ok hid
    cases hid
    obtain ⟨hvalid, hnodup, hseen⟩ := ih h
    unfold checkSubject at hsubject
    obtain ⟨_, -, hsubject⟩ := bind_ok hsubject
    obtain ⟨_, hnames, -⟩ := bind_ok hsubject
    have hkind : ∃ role workflow, kinds.lookup (textOf ((record.item "body").item "kind")) = some (role, workflow) := by
      unfold validateData at hdata
      cases hl : kinds.lookup (textOf ((record.item "body").item "kind")) with
      | none =>
        rw [hl] at hdata
        cases hdata
      | some found => exact ⟨found.1, found.2, rfl⟩
    have hnew := Incident.require_ok hfresh
    simp only [Bool.not_eq_true', List.contains_eq_mem, decide_eq_false_iff_not] at hnew
    refine ⟨List.forall_mem_cons.2 ⟨⟨hkind, Incident.require_ok hnames, hdata⟩, hvalid⟩, ?_,
      List.forall_mem_cons.2 ⟨hnew, fun r hr => fun hm => hseen r hr (List.mem_cons_of_mem _ hm)⟩⟩
    rw [List.map_cons, List.nodup_cons]
    refine ⟨fun hm => ?_, hnodup⟩
    obtain ⟨r, hr, he⟩ := List.mem_map.1 hm
    exact hseen r hr (he ▸ List.mem_cons_self)

/-- The records of an accepted package. -/
theorem validatePackage_ok {package : Json} {u : Unit} (h : validatePackage pk package = .ok u) :
    (∀ r ∈ itemsOf (package.item "records"), ValidRecord pk (package.item "target") r) ∧
      ((itemsOf (package.item "records")).map fun r => textOf ((r.item "body").item "record_id")).Nodup := by
  unfold validatePackage at h
  obtain ⟨_, -, h⟩ := bind_ok h
  obtain ⟨_, -, h⟩ := bind_ok h
  obtain ⟨_, -, h⟩ := bind_ok h
  obtain ⟨_, -, h⟩ := bind_ok h
  obtain ⟨_, -, h⟩ := bind_ok h
  obtain ⟨_, -, h⟩ := bind_ok h
  obtain ⟨_, -, h⟩ := bind_ok h
  obtain ⟨records, hrecords, h⟩ := bind_ok h
  have hitems : itemsOf (package.item "records") = records := by
    unfold array at hrecords
    split at hrecords
    · next xs hxs =>
      split_ifs at hrecords
      · cases hrecords
        rw [hxs]
        rfl
      · cases hrecords
    · cases hrecords
  obtain ⟨hvalid, hnodup, -⟩ := checkRecords_ok h
  rw [hitems]
  exact ⟨hvalid, hnodup⟩

theorem validatePackage_subject {package : Json} {u : Unit} (h : validatePackage pk package = .ok u) :
    checkSubject ((package.item "target").item "subject") none = .ok () := by
  unfold validatePackage at h
  obtain ⟨_, -, h⟩ := bind_ok h
  obtain ⟨_, -, h⟩ := bind_ok h
  obtain ⟨_, -, h⟩ := bind_ok h
  obtain ⟨_, -, h⟩ := bind_ok h
  obtain ⟨_, -, h⟩ := bind_ok h
  obtain ⟨_, -, h⟩ := bind_ok h
  obtain ⟨_, htarget, -⟩ := bind_ok h
  obtain ⟨_, -, htarget⟩ := bind_ok htarget
  obtain ⟨⟨⟩, hsubject, -⟩ := bind_ok htarget
  exact hsubject

/-! ## Evidence of a package -/

/-- A record of the evidence as it stands in its envelope. -/
structure RecordOf (pk : Packages) (envelope : Json) (r : VerifiedRecord) : Prop where
  recordId : r.recordId = textOf ((envelope.item "body").item "record_id")
  kind : r.kind = textOf ((envelope.item "body").item "kind")
  recordedAt : r.recordedAt = timeOf ((envelope.item "body").item "recorded_at")
  binding : r.binding = (envelope.item "body").item "binding"
  data : r.data = (envelope.item "body").item "data"

theorem checkRecord_ok {evaluationId target trustKeys envelope : Json} {asOf : ℤ} {check : Check}
    {r : VerifiedRecord}
    (h : checkRecord pk evaluationId target asOf trustKeys envelope = .ok (check, some r)) : RecordOf pk envelope r := by
  unfold checkRecord at h
  obtain ⟨differing, -, h⟩ := bind_ok h
  dsimp only at h
  split at h
  · cases h
  · obtain ⟨found, -, h⟩ := bind_ok h
    split_ifs at h
    · cases h
      exact ⟨rfl, rfl, rfl, rfl, rfl⟩
    · cases h

/-- The fields in which a record differs from the target are those of its binding. -/
theorem checkRecord_differing {evaluationId target trustKeys envelope : Json} {asOf : ℤ} {check : Check}
    {r : VerifiedRecord}
    (h : checkRecord pk evaluationId target asOf trustKeys envelope = .ok (check, some r)) :
    bindingDifferences pk (target.item "subject") r.binding = .ok r.differing := by
  unfold checkRecord at h
  obtain ⟨differing, hdiffering, h⟩ := bind_ok h
  dsimp only at h
  split at h
  · cases h
  · obtain ⟨found, -, h⟩ := bind_ok h
    split_ifs at h
    · cases h
      exact hdiffering
    · cases h

/-- What the evidence of a package consists of. -/
structure EvidenceOf (pk : Packages) (package trust : Json) (ctx : Context) (found : List (Check × Option VerifiedRecord)) :
    Prop where
  target : ctx.target = package.item "target"
  subject : ctx.subject = (package.item "target").item "subject"
  asOf : ctx.asOf = timeOf (package.item "as_of")
  operationAt : ctx.operationAt = timeOf ((package.item "target").item "operation_at")
  past : ctx.operationAt ≤ ctx.asOf
  trustKeys : ctx.trustKeys = trust.item "keys"
  round : (itemsOf (package.item "records")).mapM (checkRecord pk (package.item "evaluation_id") (package.item "target")
    (timeOf (package.item "as_of")) (trust.item "keys")) = .ok found
  checks : ctx.checks = found.map Prod.fst
  eligible : ctx.eligible = found.filterMap Prod.snd
  integrity : ctx.integrityEstablished = (!(found.map Prod.fst).isEmpty && (found.map Prod.fst).all (·.eligible))

theorem newContext_ok {package trust : Json} {ctx : Context} (h : newContext pk package trust = .ok ctx) :
    ∃ found, EvidenceOf pk package trust ctx found := by
  unfold newContext at h
  obtain ⟨_, -, h⟩ := bind_ok h
  obtain ⟨_, -, h⟩ := bind_ok h
  obtain ⟨_, -, h⟩ := bind_ok h
  obtain ⟨_, hpast, h⟩ := bind_ok h
  obtain ⟨_, -, h⟩ := bind_ok h
  obtain ⟨_, -, h⟩ := bind_ok h
  obtain ⟨found, hfound, h⟩ := bind_ok h
  cases h
  have hp := Incident.require_ok hpast
  simp only [Bool.not_eq_true', decide_eq_false_iff_not, not_lt] at hp
  exact ⟨found, rfl, rfl, rfl, rfl, hp, rfl, hfound, rfl, rfl, rfl⟩

/-- Every record of the evidence is a record of the package. -/
theorem EvidenceOf.mem {package trust : Json} {ctx : Context} {found : List (Check × Option VerifiedRecord)}
    (h : EvidenceOf pk package trust ctx found) {r : VerifiedRecord} (hr : r ∈ ctx.eligible) :
    ∃ envelope ∈ itemsOf (package.item "records"), RecordOf pk envelope r := by
  rw [h.eligible] at hr
  obtain ⟨⟨check, kept⟩, hm, hk⟩ := List.mem_filterMap.1 hr
  obtain ⟨envelope, henv, hf⟩ := forall₂_right (mapM_ok h.round) hm
  cases hk
  exact ⟨envelope, henv, checkRecord_ok hf⟩

theorem EvidenceOf.differing {package trust : Json} {ctx : Context} {found : List (Check × Option VerifiedRecord)}
    (h : EvidenceOf pk package trust ctx found) {r : VerifiedRecord} (hr : r ∈ ctx.eligible) :
    bindingDifferences pk ctx.subject r.binding = .ok r.differing := by
  rw [h.eligible] at hr
  obtain ⟨⟨check, kept⟩, hm, hk⟩ := List.mem_filterMap.1 hr
  obtain ⟨envelope, -, hf⟩ := forall₂_right (mapM_ok h.round) hm
  cases hk
  rw [h.subject]
  exact checkRecord_differing hf

theorem EvidenceOf.wf {package trust : Json} {ctx : Context} {found : List (Check × Option VerifiedRecord)}
    (h : EvidenceOf pk package trust ctx found) (hw : package.WF) {r : VerifiedRecord} (hr : r ∈ ctx.eligible) :
    r.data.WF := by
  obtain ⟨envelope, henv, hof⟩ := h.mem hr
  have hrecords := wf_item hw "records"
  have henvelope : envelope.WF := by
    unfold itemsOf at henv
    split at henv
    · next xs hxs =>
      rw [hxs] at hrecords
      exact (wfList_iff xs).1 hrecords envelope henv
    · cases henv
  rw [hof.data]
  exact wf_item (wf_item henvelope "body") "data"

/-- The data of the evidence was validated. -/
theorem EvidenceOf.valid {package trust : Json} {ctx : Context} {found : List (Check × Option VerifiedRecord)}
    (h : EvidenceOf pk package trust ctx found) {u : Unit} (hp : validatePackage pk package = .ok u)
    {r : VerifiedRecord} (hr : r ∈ ctx.eligible) : validateData pk r.kind r.data = .ok () := by
  obtain ⟨envelope, henv, hof⟩ := h.mem hr
  rw [hof.kind, hof.data]
  exact ((validatePackage_ok hp).1 envelope henv).data

/-- The identifiers of the evidence are those of the package, in its order. -/
theorem ids_sublist {f : Json → Run (Check × Option VerifiedRecord)} {envelopes : List Json}
    {found : List (Check × Option VerifiedRecord)} (h : envelopes.mapM f = .ok found)
    (hf : ∀ envelope check r, f envelope = .ok (check, some r) → RecordOf pk envelope r) :
    List.Sublist ((found.filterMap Prod.snd).map VerifiedRecord.recordId)
      (envelopes.map fun e => textOf ((e.item "body").item "record_id")) := by
  induction envelopes generalizing found with
  | nil =>
    cases h
    exact .slnil
  | cons envelope envelopes ih =>
    obtain ⟨⟨check, kept⟩, rest, hc, hrest, rfl⟩ := mapM_cons_ok h
    have htail := ih hrest
    cases kept with
    | none => exact htail.cons _
    | some r =>
      change List.Sublist (r.recordId :: (rest.filterMap Prod.snd).map VerifiedRecord.recordId) _
      rw [List.map_cons, (hf _ _ _ hc).recordId]
      exact htail.cons_cons _

/-- Evidence whose records are told apart by their identifiers and have validated data. -/
structure Context.Valid (pk : Packages) (ctx : Context) : Prop where
  past : ctx.operationAt ≤ ctx.asOf
  distinct : ∀ r ∈ ctx.eligible, ∀ r' ∈ ctx.eligible, r.recordId = r'.recordId → r = r'
  data : ∀ r ∈ ctx.eligible, validateData pk r.kind r.data = .ok ()

theorem EvidenceOf.context {package trust : Json} {ctx : Context} {found : List (Check × Option VerifiedRecord)}
    (h : EvidenceOf pk package trust ctx found) {u : Unit} (hp : validatePackage pk package = .ok u) : ctx.Valid pk where
  past := h.past
  distinct := by
    have hnodup : (ctx.eligible.map VerifiedRecord.recordId).Nodup := by
      rw [h.eligible]
      exact (validatePackage_ok hp).2.sublist (ids_sublist h.round fun _ _ _ he => checkRecord_ok he)
    exact fun r hr r' hr' he => List.inj_on_of_nodup_map hnodup hr hr' he
  data _ hr := h.valid hp hr

theorem mem_boundOn {ctx : Context} {kind : String} {fields : List String} {r : VerifiedRecord} :
    r ∈ ctx.boundOn kind fields ↔ r ∈ ctx.eligible ∧ r.kind = kind ∧ ctx.differences r fields = [] := by
  simp only [Context.boundOn, Context.records, List.mem_filter, Context.matchesOn, List.isEmpty_iff, decide_eq_true_eq,
    and_assoc]

/-! ## Packages with more records -/

def kindOf (envelope : Json) : String := textOf ((envelope.item "body").item "kind")

/-- `package'` is `package` with further records of the given kinds, put in at any places. -/
structure Added (new : Json → Prop) (package package' : Json) : Prop where
  rest : ∀ k, k ≠ "records" → package'.item k = package.item k
  records : Extends new (itemsOf (package.item "records")) (itemsOf (package'.item "records"))

theorem EvidenceOf.extends_ {new : Json → Prop} {package package' trust : Json} (h : Added new package package')
    {ctx ctx' : Context} {found found' : List (Check × Option VerifiedRecord)}
    (he : EvidenceOf pk package trust ctx found) (he' : EvidenceOf pk package' trust ctx' found') :
    ctx'.target = ctx.target ∧ ctx'.subject = ctx.subject ∧ ctx'.asOf = ctx.asOf ∧ ctx'.operationAt = ctx.operationAt ∧
      ctx'.trustKeys = ctx.trustKeys ∧
      Extends (fun r => ∃ envelope, new envelope ∧ RecordOf pk envelope r) ctx.eligible ctx'.eligible := by
  have htarget := h.rest "target" (by decide)
  have hasOf := h.rest "as_of" (by decide)
  refine ⟨?_, ?_, ?_, ?_, ?_, ?_⟩
  · rw [he'.target, he.target, htarget]
  · rw [he'.subject, he.subject, htarget]
  · rw [he'.asOf, he.asOf, hasOf]
  · rw [he'.operationAt, he.operationAt, htarget]
  · rw [he'.trustKeys, he.trustKeys]
  · have hfound' := he'.round
    rw [h.rest "evaluation_id" (by decide), htarget, hasOf] at hfound'
    rw [he.eligible, he'.eligible]
    refine ((h.records.mapM he.round hfound').filterMap Prod.snd).imp ?_
    rintro r ⟨⟨check, kept⟩, ⟨envelope, hnew, hf⟩, hk⟩
    cases hk
    exact ⟨envelope, hnew, checkRecord_ok hf⟩

/-- Records of a kind that was not added are the same. -/
theorem records_of_extends {new : VerifiedRecord → Prop} {ctx ctx' : Context} {kind : String}
    (h : Extends new ctx.eligible ctx'.eligible) (hk : ∀ r, new r → r.kind ≠ kind) : ctx'.records kind = ctx.records kind :=
  h.filter_eq fun r hr => decide_eq_false (hk r hr)

/-! ## Reports -/

theorem assess_ok {package trust : Json} {allow : Bool} {report : Report}
    (h : assess pk package trust allow = .ok report) : validatePackage pk package = .ok () ∧
      ∃ ctx, newContext pk package trust = .ok ctx ∧
        value (evaluate pk (textOf (package.item "workflow")) ctx) = .ok report.assessments ∧
        ∃ log, Yields (evaluate pk (textOf (package.item "workflow")) ctx) report.assessments log ∧
          report.findings = log.eraseDups := by
  unfold assess at h
  obtain ⟨_, -, h⟩ := bind_ok h
  obtain ⟨⟨⟩, hvalid, h⟩ := bind_ok h
  obtain ⟨_, -, h⟩ := bind_ok h
  obtain ⟨ctx, hctx, h⟩ := bind_ok h
  obtain ⟨⟨assessments, findings⟩, hev, h⟩ := bind_ok h
  obtain ⟨_, -, h⟩ := bind_ok h
  obtain ⟨_, -, h⟩ := bind_ok h
  obtain ⟨_, -, h⟩ := bind_ok h
  cases h
  refine ⟨hvalid, ctx, hctx, ?_, findings, hev, rfl⟩
  rw [value, hev]
  rfl

end Packages

/-! ## A small instance -/

/-- Packages that write compact JSON with sorted keys; one digest, and every signature verifies. -/
def sampleWriter : Packages where
  sha256 _ := List.replicate 32 0
  normalizeNFC s := s
  floatRepr _ := []
  publicKey k := k
  publicKeyLoads _ := true
  sign _ _ := List.replicate 64 0
  verify _ _ _ := true
  floatOf _ := 0
  rfc8785 v := some (encodeUtf8 (dumps (fun _ => []) false v))

mutual
theorem plain_of_floatless : ∀ v : Json, v.WF → Floatless v → Plain (fun _ => True) v
  | .null, _, _ => trivial
  | .bool _, _, _ => trivial
  | .int _, _, _ => trivial
  | .str _, _, _ => trivial
  | .arr xs, hw, hf => plainList_of_floatless xs hw hf
  | .obj ms, hw, hf => ⟨hw.1, plainMembers_of_floatless ms hw.2 hf⟩
theorem plainList_of_floatless : ∀ xs : List Json, WFList xs → FloatlessList xs → PlainList (fun _ => True) xs
  | [], _, _ => trivial
  | x :: xs, hw, hf => ⟨plain_of_floatless x hw.1 hf.1, plainList_of_floatless xs hw.2 hf.2⟩
theorem plainMembers_of_floatless : ∀ ms : List (String × Json), WFMembers ms → FloatlessMembers ms →
    PlainMembers (fun _ => True) ms
  | [], _, _ => trivial
  | (_, x) :: ms, hw, hf => ⟨plain_of_floatless x hw.1 hf.1, plainMembers_of_floatless ms hw.2 hf.2⟩
end

/-- What such packages write is read back. -/
theorem writer_reads {pk : Packages} (h : pk.rfc8785 = sampleWriter.rfc8785) : ReadsBack pk := by
  intro v raw hw hf hraw
  rw [h] at hraw
  cases hraw
  refine ⟨_, decodeUtf8_encodeUtf8 _, ?_⟩
  exact loads_dumps (floatHooks pk) _ false (fun _ => True) (fun n _ => by simp [floatHooks, intToken_dumpInt])
    (fun ms hms => uniquePairs_sorted _ ms hms) v (plain_of_floatless v hw hf)

def zeros (n : ℕ) : String := String.ofList (List.replicate n '0')

def sampleTime : Json := .str "2026-01-01T00:00:00Z"
def sampleEarlier : Json := .str "2025-01-01T00:00:00Z"
def sampleLater : Json := .str "2027-01-01T00:00:00Z"

def samplePackage (workflow : Workflow) (subject authorities : List (String × Json)) (records : List Json) : Json :=
  .obj [("as_of", sampleTime), ("evaluation_id", .str "e"), ("format", .str "incident-evidence-input/0.1"),
    ("records", .arr records),
    ("target", .obj [("authorities", .obj authorities), ("coverage_requested", .str "managed_route"),
      ("operation_at", sampleTime), ("subject", .obj subject)]),
    ("workflow", .str workflow.name)]

def sampleTrust (workflow : Workflow) (keys : List (String × Json)) : Json :=
  .obj [("as_of", sampleTime), ("evaluation_id", .str "e"), ("format", .str "incident-evidence-trust/0.1"),
    ("keys", .obj keys), ("mode", .str "explicit-evaluator"), ("target_sha256", .str (zeros 64)),
    ("workflow", .str workflow.name)]

def sampleKey (publicKey issuer : String) (roles : List String) : Json :=
  .obj [("issuer", .str issuer), ("not_after", sampleLater), ("not_before", sampleEarlier), ("organization", .str issuer),
    ("public_key", .str publicKey), ("roles", .arr (roles.map .str))]

def sampleRecord (key issuer kind id : String) (recordedAt : Json) (binding : List (String × Json)) (data : Json) : Json :=
  .obj [("algorithm", .str "Ed25519"),
    ("body", .obj [("binding", .obj binding), ("data", data), ("evaluation_id", .str "e"), ("issuer", .str issuer),
      ("kind", .str kind), ("record_id", .str id), ("recorded_at", recordedAt)]),
    ("key_id", .str key), ("signature", .str (zeros 128))]

/-- The assessments of a report, where there is one. -/
def assessed (r : Run Report) : Option Assessments :=
  match r with
  | .ok report => some report.assessments
  | .error _ => none

theorem assessed_ok {r : Run Report} {a : Assessments} (h : assessed r = some a) :
    ∃ report, r = .ok report ∧ report.assessments = a := by
  cases r with
  | error e => cases h
  | ok report => exact ⟨report, rfl, Option.some.inj h⟩

end VapEvidence.Assessor
