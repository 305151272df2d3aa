import VapEvidence.RetentionAssessment
import VapEvidence.JsonSizes

set_option autoImplicit false

/-!
# Supplementary retention records

The order of the retention records does not show in a report, further records take nothing
back, and records that are not eligible change only the checks.
-/
namespace VapEvidence.Retention
open Json Incident Assessor SortedLists

/-- A package with other retention records. -/
def withRecords (package : Json) (records : List Json) : Json :=
  .obj [("erasure", package.item "erasure"), ("format", package.item "format"), ("retention_records", .arr records)]

/-- `rfc8785.dumps` writes the elements of an array one after the other, so their order does not change what
    it accepts or the length of what it writes. -/
def Reorders (pk : Packages) : Prop :=
  ∀ before after key (xs ys : List Json) raw, xs.Perm ys →
    pk.rfc8785 (.obj (before ++ (key, .arr xs) :: after)) = some raw →
    ∃ raw', pk.rfc8785 (.obj (before ++ (key, .arr ys) :: after)) = some raw' ∧ raw'.length = raw.length

section Packages
variable {pk : Packages}

@[simp] theorem item_erasure (package : Json) (records : List Json) :
    (withRecords package records).item "erasure" = package.item "erasure" := by
  simp [withRecords, item, get?, members]

@[simp] theorem item_format (package : Json) (records : List Json) :
    (withRecords package records).item "format" = package.item "format" := by
  simp [withRecords, item, get?, members, lookup_cons_ite]

@[simp] theorem item_records (package : Json) (records : List Json) :
    (withRecords package records).item "retention_records" = .arr records := by
  simp [withRecords, item, get?, members, lookup_cons_ite]

theorem exactKeys_withRecords (package : Json) (records : List Json) :
    exactKeys (withRecords package records) ["format", "erasure", "retention_records"] [] = .ok () := by
  rw [withRecords, exactKeys]
  exact if_pos (by simp)

/-- The parts of a validation that do not read the order of the records. -/
theorem validate_ok {package trust : Json} {u : Unit} (h : validate pk package trust = .ok u) :
    (∃ raw, canonical pk package = .ok raw ∧ raw.length ≤ maxBytes) ∧
    (∃ raw, canonical pk trust = .ok raw ∧ raw.length ≤ maxBytes) ∧
    exactKeys package ["format", "erasure", "retention_records"] [] = .ok () ∧
    (∃ s, enum (package.item "format") ["retention-evidence-input/0.1"] = .ok s) ∧
    exactKeys trust ["format", "erasure_trust"] [] = .ok () ∧
    (∃ s, enum (trust.item "format") ["retention-evidence-trust/0.1"] = .ok s) ∧
    ((package.item "erasure").isDict && (package.item "erasure").item "workflow" = .str "erasure") = true ∧
    ∃ xs, package.item "retention_records" = .arr xs ∧ xs.length ≤ maxRecords := by
  obtain ⟨raw, hraw, h⟩ := bind_ok h
  obtain ⟨raw', hraw', h⟩ := bind_ok h
  obtain ⟨_, hsize, h⟩ := bind_ok h
  obtain ⟨⟨⟩, hkeys, h⟩ := bind_ok h
  obtain ⟨s, hformat, h⟩ := bind_ok h
  obtain ⟨⟨⟩, htrust, h⟩ := bind_ok h
  obtain ⟨s', hformat', h⟩ := bind_ok h
  obtain ⟨_, herasure, h⟩ := bind_ok h
  obtain ⟨xs, hxs, -⟩ := bind_ok h
  have hsize := Incident.require_ok hsize
  rw [Bool.and_eq_true, decide_eq_true_eq, decide_eq_true_eq] at hsize
  refine ⟨⟨raw, hraw, hsize.1⟩, ⟨raw', hraw', hsize.2⟩, hkeys, ⟨s, hformat⟩, htrust, ⟨s', hformat'⟩,
    Incident.require_ok herasure, ?_⟩
  unfold array at hxs
  split at hxs
  · next ys hys =>
    split_ifs at hxs with hlen
    · exact ⟨ys, hys, hlen⟩
    · cases hxs
  · cases hxs

/-- An accepted package is that of its own records. -/
theorem eq_withRecords {package : Json} (hw : package.WF)
    (h : exactKeys package ["format", "erasure", "retention_records"] [] = .ok ()) {xs : List Json}
    (hxs : package.item "retention_records" = .arr xs) : package = withRecords package xs := by
  have hfields : package.hasFields ["erasure", "format", "retention_records"] = true := by
    cases package with
    | obj ms =>
      have hall := Incident.require_ok h
      simp only [Bool.and_eq_true, List.all_eq_true, List.contains_nil, Bool.or_false] at hall
      rw [hasFields, Bool.and_eq_true, List.all_eq_true, List.all_eq_true]
      refine ⟨fun m hm => ?_, fun f hf => hall.1 f ?_⟩
      · have := hall.2 m hm
        simp only [List.contains_iff_mem, List.mem_cons] at this ⊢
        tauto
      · simp only [List.mem_cons] at hf ⊢
        tauto
    | _ => cases h
  refine (eq_pick hw hfields).trans ?_
  rw [withRecords, ← hxs]
  exact dict_sorted (by simp only [SortedKeys, List.map_cons, List.map_nil]; decide)

/-! ## Values whose arrays are reordered -/

theorem boundedElems_iff {depth : ℕ} {xs : List Json} :
    boundedElems depth xs = .ok () ↔ ∀ x ∈ xs, boundedJson depth x = .ok () := by
  induction xs with
  | nil => simp [boundedElems]
  | cons x xs ih =>
    rw [boundedElems, List.forall_mem_cons, ← ih]
    constructor
    · intro h
      obtain ⟨⟨⟩, hx, hxs⟩ := bind_ok h
      exact ⟨hx, hxs⟩
    · rintro ⟨hx, hxs⟩
      rw [hx]
      exact hxs

/-- A value is accepted as it is when an array in it is reordered. -/
theorem canonical_withRecords (hpk : Reorders pk) {package : Json} {xs ys : List Json} (hp : ys.Perm xs) {raw : Bytes}
    (h : canonical pk (withRecords package xs) = .ok raw) :
    ∃ raw', canonical pk (withRecords package ys) = .ok raw' ∧ raw'.length = raw.length := by
  obtain ⟨⟨⟩, hbounded, h⟩ := bind_ok h
  have hbounded' : boundedJson 0 (withRecords package ys) = .ok () := by
    simp only [withRecords, boundedJson, boundedMembers, List.length_cons, List.length_nil] at hbounded ⊢
    obtain ⟨⟨⟩, hdepth, hbounded⟩ := bind_ok hbounded
    obtain ⟨⟨⟩, hsize, hbounded⟩ := bind_ok hbounded
    obtain ⟨⟨⟩, herasure, hbounded⟩ := bind_ok hbounded
    obtain ⟨⟨⟩, hformat, hbounded⟩ := bind_ok hbounded
    obtain ⟨⟨⟩, hrecords, -⟩ := bind_ok hbounded
    obtain ⟨⟨⟩, hdepth', hrecords⟩ := bind_ok hrecords
    obtain ⟨⟨⟩, hlength, helems⟩ := bind_ok hrecords
    rw [← hp.length_eq] at hlength
    have helems' := boundedElems_iff.2 fun y hy => boundedElems_iff.1 helems y (hp.mem_iff.1 hy)
    rw [hdepth, hsize, herasure, hformat, hdepth', hlength, helems']
    rfl
  cases hraw : pk.rfc8785 (withRecords package xs) with
  | none =>
    rw [hraw] at h
    cases h
  | some found =>
    rw [hraw] at h
    cases h
    obtain ⟨raw', hraw', hlength⟩ := hpk [("erasure", package.item "erasure"), ("format", package.item "format")] []
      "retention_records" xs ys raw hp.symm hraw
    refine ⟨raw', ?_, hlength⟩
    rw [canonical, hbounded', show pk.rfc8785 (withRecords package ys) = some raw' from hraw']
    rfl

/-! ## Validated records -/

theorem checkRecords_iff {names : List String} {seen : List String} {records : List Json} :
    checkRecords pk names seen records = .ok () ↔
      (∀ r ∈ records, checkRecord names r = .ok () ∧
        validateData pk (textOf ((r.item "body").item "kind")) ((r.item "body").item "data") = .ok ()) ∧
      (records.map idOf).Nodup ∧ ∀ r ∈ records, idOf r ∉ seen := by
  induction records generalizing seen with
  | nil => simp [checkRecords]
  | cons record records ih =>
    rw [checkRecords, List.forall_mem_cons, List.forall_mem_cons, List.map_cons, List.nodup_cons]
    constructor
    · intro h
      obtain ⟨⟨⟩, hrecord, h⟩ := bind_ok h
      obtain ⟨_, hfresh, h⟩ := bind_ok h
      obtain ⟨⟨⟩, hdata, h⟩ := bind_ok h
      obtain ⟨hall, hnodup, hseen⟩ := ih.1 h
      have hnew := Incident.require_ok hfresh
      simp only [Bool.not_eq_true', List.contains_eq_mem, decide_eq_false_iff_not] at hnew
      refine ⟨⟨⟨hrecord, hdata⟩, hall⟩, ⟨fun hm => ?_, hnodup⟩, hnew, fun r hr hm => hseen r hr (List.mem_cons_of_mem _ hm)⟩
      obtain ⟨r, hr, he⟩ := List.mem_map.1 hm
      exact hseen r hr (he ▸ List.mem_cons_self)
    · rintro ⟨⟨⟨hrecord, hdata⟩, hall⟩, ⟨hnot, hnodup⟩, hnew, hseen⟩
      have hrest := ih.2 ⟨hall, hnodup, fun r hr hm => (List.mem_cons.1 hm).elim
        (fun he => hnot (List.mem_map.2 ⟨r, hr, he⟩)) (hseen r hr)⟩
      rw [hrecord, hdata, hrest, show seen.contains (idOf record) = false by simpa using hnew]
      rfl

theorem checkRecords_perm {names seen : List String} {xs ys : List Json} (hp : ys.Perm xs)
    (h : checkRecords pk names seen xs = .ok ()) : checkRecords pk names seen ys = .ok () := by
  obtain ⟨hall, hnodup, hseen⟩ := checkRecords_iff.1 h
  exact checkRecords_iff.2 ⟨fun r hr => hall r (hp.mem_iff.1 hr), (hp.map idOf).nodup_iff.2 hnodup,
    fun r hr => hseen r (hp.mem_iff.1 hr)⟩

/-! ## Reports -/

/-- What a report is made from. -/
structure Assessed (pk : Packages) (package trust : Json) (allow : Bool) (report : Report) (ctx : Context)
    (found : List (Check × Entry)) : Prop where
  valid : validate pk package trust = .ok ()
  erasure : Assessor.assess pk (package.item "erasure") (trust.item "erasure_trust") allow = .ok report.erasureReport
  records : validatedRecords pk package = .ok ()
  context : newContext pk (package.item "erasure") (trust.item "erasure_trust") = .ok ctx
  rounds : (sortBy idOf (itemsOf (package.item "retention_records"))).mapM
    (round pk (package.item "erasure") (trust.item "erasure_trust") (boundRequests ctx)
      (attestations ctx report.erasureReport) ctx.asOf) = .ok found
  input : digest pk package = .ok report.inputSha256
  trusted : digest pk trust = .ok report.trustSha256
  target : digest pk ((package.item "erasure").item "target") = .ok report.targetSha256
  rest : report = { report with
    evaluationId := (package.item "erasure").item "evaluation_id"
    asOf := (package.item "erasure").item "as_of"
    synthetic := report.erasureReport.synthetic
    integrity := integrityOf (found.map Prod.fst)
    checks := found.map Prod.fst
    statements := found.filterMap fun f => f.2.statement?
    presence := found.filterMap fun f => f.2.presence?
    followUps := sorted ((followUps ctx.operationAt (attestations ctx report.erasureReport)
      (found.filterMap fun f => f.2.statement?) (found.filterMap fun f => f.2.presence?)).map FollowUp.text).dedup }

theorem assess_iff {package trust : Json} {allow : Bool} {report : Report} :
    assess pk package trust allow = .ok report ↔ ∃ ctx found, Assessed pk package trust allow report ctx found := by
  constructor
  · intro h
    obtain ⟨⟨⟩, hvalid, h⟩ := bind_ok h
    obtain ⟨erasureReport, herasure, h⟩ := bind_ok h
    obtain ⟨⟨⟩, hrecords, h⟩ := bind_ok h
    obtain ⟨ctx, hctx, h⟩ := bind_ok h
    obtain ⟨found, hfound, h⟩ := bind_ok h
    obtain ⟨input, hinput, h⟩ := bind_ok h
    obtain ⟨trusted, htrusted, h⟩ := bind_ok h
    obtain ⟨target, htarget, h⟩ := bind_ok h
    cases h
    exact ⟨ctx, found, hvalid, herasure, hrecords, hctx, hfound, hinput, htrusted, htarget, rfl⟩
  · rintro ⟨ctx, found, h⟩
    rw [h.rest]
    simp only [assess, h.valid, h.erasure, h.records, h.context, h.rounds, h.input, h.trusted, h.target, bind, Except.bind]
    rfl

/-! ## Rounds -/

theorem keyCheck_recordId {target envelope key : Json} {c c' : Check} (h : keyCheck pk target envelope c key = .ok c') :
    c'.recordId = c.recordId := by
  obtain ⟨_, -, h⟩ := bind_ok h
  split at h
  · cases h
    rfl
  · cases h

theorem requestCheck_recordId (requests : List VerifiedRecord) (kind : String) (recorded : ℤ) (data : Json) (c : Check) :
    (requestCheck requests kind recorded data c).recordId = c.recordId := by
  unfold requestCheck
  split <;> rfl

theorem observationCheck_recordId (kind : String) (recorded : ℤ) (data : Json) (c : Check) :
    (observationCheck kind recorded data c).recordId = c.recordId := by
  unfold observationCheck
  split <;> rfl

theorem check_recordId {core pins envelope : Json} {requests : List VerifiedRecord} {c : Check}
    (h : check pk core pins requests envelope = .ok c) : c.recordId = idOf envelope := by
  obtain ⟨differences, -, h⟩ := bind_ok h
  obtain ⟨keyed, hkeyed, h⟩ := bind_ok h
  obtain rfl := Except.ok.inj h
  rw [observationCheck_recordId, requestCheck_recordId]
  cases hk : (pins.item "keys").get? (textOf (envelope.item "key_id")) with
  | none =>
    rw [hk] at hkeyed
    obtain rfl := Except.ok.inj hkeyed
    rfl
  | some key =>
    rw [hk] at hkeyed
    exact keyCheck_recordId hkeyed

/-- What a round gives is about its own record, and nothing but a check where that is not eligible. -/
structure RoundOf (envelope : Json) (f : Check × Entry) : Prop where
  check : f.1.recordId = idOf envelope
  statement : ∀ s, f.2.statement? = some s → s.recordId = idOf envelope
  presence : ∀ p, f.2.presence? = some p → p.recordId = idOf envelope
  ineligible : f.1.eligible = false → f.2.statement? = none ∧ f.2.presence? = none

theorem round_of {core pins envelope : Json} {requests attested : List VerifiedRecord} {asOf : ℤ} {f : Check × Entry}
    (h : round pk core pins requests attested asOf envelope = .ok f) : RoundOf envelope f := by
  obtain ⟨c, hc, h⟩ := bind_ok h
  have hid := check_recordId hc
  cases he : c.eligible with
  | false =>
    rw [he] at h
    obtain rfl := Except.ok.inj h
    exact ⟨hid, fun _ hs => absurd hs (Option.some_ne_none _).symm, fun _ hp => absurd hp (Option.some_ne_none _).symm,
      fun _ => ⟨rfl, rfl⟩⟩
  | true =>
    rw [he, Bool.not_true, if_neg Bool.false_ne_true] at h
    split_ifs at h
    · obtain ⟨s, hs, h⟩ := bind_ok h
      obtain rfl := Except.ok.inj h
      obtain ⟨exceptions, -, hs⟩ := bind_ok hs
      obtain rfl := Except.ok.inj hs
      refine ⟨hid, fun s hs => ?_, fun _ hp => absurd hp (Option.some_ne_none _).symm,
        fun hn => absurd (he.symm.trans hn) Bool.true_eq_false.mp⟩
      obtain rfl := Option.some.inj hs
      rfl
    · obtain rfl := Except.ok.inj h
      refine ⟨hid, fun _ hs => absurd hs (Option.some_ne_none _).symm, fun p hp => ?_,
        fun hn => absurd (he.symm.trans hn) Bool.true_eq_false.mp⟩
      obtain rfl := Option.some.inj hp
      rfl

section Reports
variable {package trust : Json} {allow : Bool} {report report' : Report} {ctx ctx' : Context}
  {found found' : List (Check × Entry)} {ys : List Json}

/-- The erasure report and its evidence do not depend on the retention records. -/
theorem Assessed.same (h : Assessed pk package trust allow report ctx found)
    (h' : Assessed pk (withRecords package ys) trust allow report' ctx' found') :
    report'.erasureReport = report.erasureReport ∧ ctx' = ctx := by
  have herasure := h'.erasure
  have hcontext := h'.context
  rw [item_erasure] at herasure hcontext
  exact ⟨Except.ok.inj (herasure.symm.trans h.erasure), Except.ok.inj (hcontext.symm.trans h.context)⟩

/-- The loop body of an assessment. -/
def loop (pk : Packages) (package trust : Json) (report : Report) (ctx : Context) : Json → Run (Check × Entry) :=
  round pk (package.item "erasure") (trust.item "erasure_trust") (boundRequests ctx)
    (attestations ctx report.erasureReport) ctx.asOf

theorem Assessed.loop_same (h : Assessed pk package trust allow report ctx found)
    (h' : Assessed pk (withRecords package ys) trust allow report' ctx' found') :
    (sortBy idOf ys).mapM (loop pk package trust report ctx) = .ok found' := by
  obtain ⟨herasure, rfl⟩ := h.same h'
  have hrounds := h'.rounds
  rw [item_erasure, item_records, herasure] at hrounds
  exact hrounds

theorem Assessed.distinct (h : Assessed pk package trust allow report ctx found) :
    ((itemsOf (package.item "retention_records")).map idOf).Nodup := by
  obtain ⟨_, -, hrecords⟩ := bind_ok h.records
  obtain ⟨_, -, hrecords⟩ := bind_ok hrecords
  exact (checkRecords_iff.1 hrecords).2.1

/-- The parts of a report that the rounds make up. -/
theorem Assessed.parts (h : Assessed pk package trust allow report ctx found) :
    report.checks = found.map Prod.fst ∧ report.statements = found.filterMap (fun f => f.2.statement?) ∧
      report.presence = found.filterMap (fun f => f.2.presence?) ∧
      report.followUps = sorted ((followUps ctx.operationAt (attestations ctx report.erasureReport) report.statements
        report.presence).map FollowUp.text).dedup := by
  have hstatements := congrArg Report.statements h.rest
  have hpresence := congrArg Report.presence h.rest
  have hfollow := congrArg Report.followUps h.rest
  refine ⟨congrArg Report.checks h.rest, hstatements, hpresence, ?_⟩
  rw [hfollow, hstatements, hpresence]

/-- The order of the records does not show. -/
theorem Assessed.permuted (hpk : Reorders pk) {xs : List Json} (hxs : package = withRecords package xs)
    (h : Assessed pk package trust allow report ctx found) (hp : ys.Perm xs) :
    ∃ input, assess pk (withRecords package ys) trust allow = .ok { report with inputSha256 := input } := by
  obtain ⟨⟨raw, hraw, hsize⟩, ⟨raw', hraw', hsize'⟩, -, ⟨s, hformat⟩, htrust, ⟨s', hformat'⟩, herasure, zs, hzs, hcount⟩ :=
    validate_ok h.valid
  have hitems : package.item "retention_records" = .arr xs := by rw [hxs, item_records]
  obtain rfl : xs = zs := by
    rw [hitems] at hzs
    exact Json.arr.inj hzs
  obtain ⟨bytes, hbytes, hlength⟩ := canonical_withRecords hpk hp (hxs ▸ hraw)
  have hvalid : validate pk (withRecords package ys) trust = .ok () := by
    have hbound : (decide (bytes.length ≤ maxBytes) && decide (raw'.length ≤ maxBytes)) = true := by
      rw [Bool.and_eq_true, decide_eq_true_eq, decide_eq_true_eq, hlength]
      exact ⟨hsize, hsize'⟩
    simp only [validate, hbytes, hraw', hbound, exactKeys_withRecords, item_format, item_erasure, item_records, hformat,
      htrust, hformat', herasure, array, hp.length_eq, if_pos hcount, Incident.require, if_true, bind, Except.bind]
    rfl
  have hrecords : validatedRecords pk (withRecords package ys) = .ok () := by
    obtain ⟨_, hsubject, hrest⟩ := bind_ok h.records
    obtain ⟨_, hlegacy, hrest⟩ := bind_ok hrest
    rw [hitems] at hrest
    simp only [validatedRecords, item_erasure, item_records, hsubject, hlegacy, bind, Except.bind]
    exact checkRecords_perm hp hrest
  have hsort : sortBy idOf ys = sortBy idOf xs := by
    have hnodup : (ys.map idOf).Nodup := (hp.map idOf).nodup_iff.2 (by simpa [hitems, itemsOf] using h.distinct)
    exact sortBy_eq hp fun a ha b hb he => List.inj_on_of_nodup_map hnodup ha hb he
  have hrounds := h.rounds
  rw [hitems] at hrounds
  have hdigest : digest pk (withRecords package ys) = .ok (sha256Hex pk bytes) := by
    rw [digest, hbytes]
    rfl
  refine ⟨sha256Hex pk bytes, assess_iff.2 ⟨ctx, found, hvalid, ?_, hrecords, ?_, ?_, hdigest, h.trusted, ?_, ?_⟩⟩
  · rw [item_erasure]
    exact h.erasure
  · rw [item_erasure]
    exact h.context
  · rw [item_erasure, item_records]
    change (sortBy idOf ys).mapM _ = _
    rw [hsort]
    exact hrounds
  · rw [item_erasure]
    exact h.target
  · rw [item_erasure]
    conv_lhs => rw [h.rest]

/-- The selections from a report with further records, up to order, and those of the further records alone. -/
theorem Assessed.added {γ : Type} (h : Assessed pk package trust allow report ctx found)
    (h' : Assessed pk (withRecords package ys) trust allow report' ctx' found') {added : List Json}
    (hp : ys.Perm (itemsOf (package.item "retention_records") ++ added)) (g : Check × Entry → Option γ) :
    (found'.filterMap g).Perm (found.filterMap g ++ added.filterMap (result? (loop pk package trust report ctx) g)) := by
  rw [filterMap_mapM (h.loop_same h') g, filterMap_mapM (show _ = Except.ok found from h.rounds) g]
  have hall := (((sortBy_perm idOf ys).trans hp).filterMap (result? (loop pk package trust report ctx) g))
  rw [List.filterMap_append] at hall
  exact hall.trans (((sortBy_perm idOf _).symm.filterMap _).append_right _)

theorem mem_followUps {operationAt : ℤ} {attested : List VerifiedRecord} {statements : List Statement}
    {presence : List Presence} {reason : FollowUp} : reason ∈ followUps operationAt attested statements presence ↔
      (∃ s ∈ statements, reason ∈ statementReasons s) ∨
      (statements = [] ∧ reason = .noApplicableStatement) ∨
      (1 < statements.length ∧ reason = .multipleStatements) ∨
      (∃ p ∈ presence, ∃ s ∈ statements, reason ∈ deadlineReasons operationAt p s) ∨
      ∃ a ∈ attested, ∃ p ∈ presence, reason ∈ claimReasons a p := by
  have hempty : reason ∈ (if statements.isEmpty then [FollowUp.noApplicableStatement] else []) ↔
      statements = [] ∧ reason = .noApplicableStatement := by
    cases statements <;> simp
  have hmultiple : reason ∈ (if 1 < statements.length then [FollowUp.multipleStatements] else []) ↔
      1 < statements.length ∧ reason = .multipleStatements := by
    split_ifs with hc <;> simp [hc]
  rw [followUps, List.mem_append, List.mem_append, List.mem_append, List.mem_append, hempty, hmultiple]
  simp only [List.mem_flatMap, or_assoc]

/-- Further statements and reports of presence take no reason away, but that there is no statement. -/
theorem followUps_mono {operationAt : ℤ} {attested : List VerifiedRecord} {statements statements' more : List Statement}
    {presence presence' : List Presence} (hs : statements'.Perm (statements ++ more))
    (hp : ∀ p ∈ presence, p ∈ presence') {reason : FollowUp} (hne : reason ≠ .noApplicableStatement)
    (h : reason ∈ followUps operationAt attested statements presence) :
    reason ∈ followUps operationAt attested statements' presence' := by
  have hmem (s : Statement) (h : s ∈ statements) : s ∈ statements' := hs.mem_iff.2 (List.mem_append_left _ h)
  rw [mem_followUps] at h ⊢
  rcases h with ⟨s, hs, h⟩ | ⟨-, rfl⟩ | ⟨hlength, rfl⟩ | ⟨p, hp', s, hs, h⟩ | ⟨a, ha, p, hp', h⟩
  · exact .inl ⟨s, hmem s hs, h⟩
  · exact absurd rfl hne
  · have hlen := hs.length_eq
    rw [List.length_append] at hlen
    exact .inr (.inr (.inl ⟨by omega, rfl⟩))
  · exact .inr (.inr (.inr (.inl ⟨p, hp p hp', s, hmem s hs, h⟩)))
  · exact .inr (.inr (.inr (.inr ⟨a, ha, p, hp p hp', h⟩)))

theorem FollowUp.text_injective : ∀ {a b : FollowUp}, a.text = b.text → a = b := by
  intro a b
  cases a <;> cases b <;> first | exact fun _ => rfl | exact fun h => absurd h (by decide)

theorem mem_sorted {t : String} {reasons : List FollowUp} :
    t ∈ sorted (reasons.map FollowUp.text).dedup ↔ ∃ reason ∈ reasons, reason.text = t := by
  rw [sorted, List.mem_insertionSort, List.mem_dedup, List.mem_map]

/-- Where no further record gives an element, the selection is as before. -/
theorem Assessed.same_selection {γ : Type} {key : γ → String} {g : Check × Entry → Option γ}
    (h : Assessed pk package trust allow report ctx found)
    (h' : Assessed pk (withRecords package ys) trust allow report' ctx' found') {added : List Json}
    (hp : ys.Perm (itemsOf (package.item "retention_records") ++ added))
    (hkey : ∀ envelope f c, RoundOf envelope f → g f = some c → key c = idOf envelope)
    (hnone : ∀ envelope ∈ added, ∀ f ∈ found', RoundOf envelope f → g f = none) :
    found'.filterMap g = found.filterMap g := by
  have hround (envelope : Json) (f : Check × Entry) (c : γ) (hf : loop pk package trust report ctx envelope = .ok f)
      (hc : g f = some c) : key c = idOf envelope := hkey envelope f c (round_of hf) hc
  have hdistinct := h'.distinct
  rw [item_records] at hdistinct
  obtain ⟨hsorted', hinj'⟩ := selection_sorted hdistinct (h.loop_same h') hround
  obtain ⟨hsorted, -⟩ := selection_sorted h.distinct (show _ = Except.ok found from h.rounds) hround
  have hempty : added.filterMap (result? (loop pk package trust report ctx) g) = [] := by
    rw [List.filterMap_eq_nil_iff]
    intro envelope henvelope
    have hmem : envelope ∈ sortBy idOf ys :=
      (sortBy_perm idOf ys).mem_iff.2 (hp.mem_iff.2 (List.mem_append_right _ henvelope))
    obtain ⟨f, hf, hround⟩ := forall₂_left (mapM_ok (h.loop_same h')) hmem
    rw [result?, hround]
    exact hnone envelope henvelope f hf (round_of hround)
  have hperm := h.added h' hp g
  rw [hempty, List.append_nil] at hperm
  exact eq_of_sorted hperm hsorted' hsorted hinj'

end Reports

end Packages
/-! ## A small instance -/

theorem sampleWriter_reorders : Reorders sampleWriter := by
  intro before after key xs ys raw hp hraw
  cases hraw
  refine ⟨_, rfl, ?_⟩
  change size (fun _ => []) _ = size (fun _ => []) _
  have hmember : memberSize (fun _ => []) (key, .arr ys) = memberSize (fun _ => []) (key, .arr xs) := by
    simp only [memberSize, size_arr_perm hp]
  cases before with
  | nil => simp only [List.nil_append, size_obj_cons, List.map_cons, hmember]
  | cons m before => simp only [List.cons_append, size_obj_cons, List.map_cons, List.map_append, hmember]

def sampleSubject : List (String × Json) :=
  [("account_id", .str "a"), ("object_ids", .arr [.str "o"]), ("payload_sha256", .str (zeros 64)),
    ("provider_id", .str "p"), ("request_id", .str "x"), ("tenant_id", .str "t")]

def sampleErasure : Json :=
  .obj [("as_of", sampleTime), ("evaluation_id", .str "e"), ("format", .str "incident-evidence-input/0.1"),
    ("records", .arr []),
    ("target", .obj [("authorities", .obj [("collector", .str "c"), ("provider", .str "p"), ("responder", .str "q")]),
      ("coverage_requested", .str "managed_route"), ("operation_at", sampleTime), ("subject", .obj sampleSubject)]),
    ("workflow", .str Workflow.erasure.name)]

/-- A statement with a deadline in the past. -/
def sampleStatement (key id : String) : Json :=
  sampleRecord key "p" "retention.statement" id sampleTime sampleSubject (.obj [
    ("exceptions", .arr []), ("locations", .arr [.str "l"]), ("processing_locations", .arr []),
    ("request_record_id", .str "1"), ("schedule", .obj [("deadline", sampleEarlier), ("kind", .str "stated-deadline")]),
    ("terms_ref", .str "r"), ("terms_sha256", .str (zeros 64)), ("training_use", .str "not-reported")])

def sampleEvidence (records : List Json) : Json :=
  .obj [("erasure", sampleErasure), ("format", .str "retention-evidence-input/0.1"), ("retention_records", .arr records)]

def sampleEvidenceTrust : Json :=
  .obj [("erasure_trust", sampleTrust .erasure []), ("format", .str "retention-evidence-trust/0.1")]

/-- The number of checks and the reasons of a report, where there is one. -/
def summary (r : Run Report) : Option (ℕ × List String) :=
  match r with
  | .ok report => some (report.checks.length, report.followUps)
  | .error _ => none

theorem summary_ok {r : Run Report} {a : ℕ × List String} (h : summary r = some a) :
    ∃ report, r = .ok report ∧ (report.checks.length, report.followUps) = a := by
  cases r with
  | error e => cases h
  | ok report => exact ⟨report, rfl, Option.some.inj h⟩

/-- A statement under a key without trust. -/
theorem sample_summary : summary (assess sampleWriter (sampleEvidence [sampleStatement "l" "2"]) sampleEvidenceTrust false) =
    some (1, ["NO_APPLICABLE_RETENTION_STATEMENT"]) := by
  decide +kernel

end VapEvidence.Retention
