import VapEvidence.AssessorReading
import VapEvidence.IncidentEnvelopes

set_option autoImplicit false

/-!
# When a publication is blocked

A publication is blocked exactly when the policy that applies prohibits an activity observed in
the artifact. Records other than manifests can only add policies with the pinned content and
further activities, so they do not lift a prohibition.
-/
namespace VapEvidence.Assessor.Publication
open Json Incident Recording

section Evaluation
variable {pk : Packages} {ctx : Context}

/-- The verdict of the policy is that of `r`. -/
structure SameVerdict (r r' : Assessments) : Prop where
  action : r'.action = r.action
  policyAssessment : r'.policyAssessment = r.policyAssessment

/-! ## Passes -/

theorem involvementPass_ok {activities : List VerifiedRecord} {r r' : Assessments}
    (h : value (involvementPass ctx activities r) = .ok r') : SameVerdict r r' := by
  unfold involvementPass at h
  split_ifs at h with hempty
  · simp only [value_bind, value_finding, value_findingIf, value_pure] at h
    obtain ⟨_, -, h⟩ := bind_ok h
    obtain ⟨_, -, h⟩ := bind_ok h
    obtain ⟨_, -, h⟩ := bind_ok h
    obtain ⟨_, -, h⟩ := bind_ok h
    cases h
    split_ifs <;> exact ⟨rfl, rfl⟩
  · simp only [value_bind, value_finding, value_findingIf, value_pure] at h
    obtain ⟨_, -, h⟩ := bind_ok h
    obtain ⟨_, -, h⟩ := bind_ok h
    obtain ⟨_, -, h⟩ := bind_ok h
    obtain ⟨_, -, h⟩ := bind_ok h
    cases h
    split_ifs <;> exact ⟨rfl, rfl⟩

theorem approvalPass_ok {policy : Option VerifiedRecord} {r r' : Assessments}
    (h : value (approvalPass ctx policy r) = .ok r') : SameVerdict r r' := by
  unfold approvalPass at h
  rw [value_bind] at h
  obtain ⟨found, -, h⟩ := bind_ok h
  dsimp only at h
  split_ifs at h
  · rw [value_bind] at h
    obtain ⟨_, -, h⟩ := bind_ok h
    cases h
    exact ⟨rfl, rfl⟩
  · rw [value_bind] at h
    obtain ⟨_, -, h⟩ := bind_ok h
    cases h
    exact ⟨rfl, rfl⟩
  · rw [value_bind] at h
    obtain ⟨_, -, h⟩ := bind_ok h
    cases h
    exact ⟨rfl, rfl⟩

theorem deliveryPass_ok {r r' : Assessments} (h : value (deliveryPass ctx r) = .ok r') : SameVerdict r r' := by
  unfold deliveryPass at h
  simp only [value_bind, value_findingIf, value_pure] at h
  obtain ⟨_, -, h⟩ := bind_ok h
  obtain ⟨_, -, h⟩ := bind_ok h
  obtain ⟨_, -, h⟩ := bind_ok h
  obtain ⟨_, -, h⟩ := bind_ok h
  cases h
  exact ⟨rfl, rfl⟩

/-- A policy prohibits some of the activities. -/
def Prohibits (policy : Option VerifiedRecord) (activities : List VerifiedRecord) : Prop :=
  ∃ p, policy = some p ∧ p.data.item "interpretation" ≠ .str "unresolved" ∧ prohibited p activities ≠ []

/-- The verdict on a publication: blocked for a prohibited use, or to be reviewed. -/
structure Verdict (blocked : Prop) (r : Assessments) : Prop where
  block : r.action = .block ↔ blocked
  prohibitedUse : r.policyAssessment = .prohibitedUse ↔ blocked

theorem SameVerdict.verdict {blocked : Prop} {r r' : Assessments} (h : SameVerdict r r') (hv : Verdict blocked r) :
    Verdict blocked r' :=
  ⟨h.action ▸ hv.block, h.policyAssessment ▸ hv.prohibitedUse⟩

theorem policyPass_ok {policy : Option VerifiedRecord} {activities disclosures : List VerifiedRecord} {r r' : Assessments}
    (h : value (policyPass policy activities disclosures r) = .ok r') (hr : Verdict False r) :
    Verdict (Prohibits policy activities) r' := by
  have hsame {blocked : Prop} (hb : ¬ blocked) : Verdict blocked r :=
    ⟨by simp [hr.block, hb], by simp [hr.prohibitedUse, hb]⟩
  unfold policyPass at h
  cases policy with
  | none =>
    rw [value_bind] at h
    obtain ⟨_, -, h⟩ := bind_ok h
    cases h
    exact hsame (by rintro ⟨p, hp, -⟩; cases hp)
  | some p =>
    dsimp only at h
    by_cases hunresolved : p.data.item "interpretation" = .str "unresolved"
    · rw [if_pos hunresolved, value_bind] at h
      obtain ⟨_, -, h⟩ := bind_ok h
      cases h
      refine hsame ?_
      rintro ⟨p', hp, hi, -⟩
      cases hp
      exact hi hunresolved
    · rw [if_neg hunresolved] at h
      simp only [value_bind, value_findingIf, value_pure] at h
      obtain ⟨_, -, h⟩ := bind_ok h
      obtain ⟨_, -, h⟩ := bind_ok h
      have hiff : Prohibits (some p) activities ↔ prohibited p activities ≠ [] := by
        simp [Prohibits, hunresolved]
      rw [hiff]
      by_cases hnone : prohibited p activities = []
      · simp only [hnone, List.isEmpty_nil, if_true] at h
        cases h
        split_ifs
        · exact ⟨by simp [hr.block, hnone], by simp [hr.prohibitedUse, hnone]⟩
        · exact ⟨by simp [hr.block, hnone], by simp [hr.prohibitedUse, hnone]⟩
      · have hempty : ¬ (prohibited p activities).isEmpty = true := by simpa using hnone
        rw [if_neg hempty] at h
        cases h
        split_ifs
        · exact ⟨by simp [hnone], by simp [hnone]⟩
        · exact ⟨by simp [hnone], by simp [hnone]⟩

/-! ## Evaluations -/

/-- The activities in an artifact with the given manifests. -/
def observed (ctx : Context) (manifests : List VerifiedRecord) : List VerifiedRecord :=
  (ctx.bound "publication_activity").filter fun r => (activityReason ctx manifests r).isNone

/-- The target names all that an assessment needs, and the operation lies before the cutoff. -/
def Assessable (ctx : Context) : Prop :=
  (targetFields.all fun f => ctx.subject.keys.contains f) = true ∧ ctx.operationAt ≤ ctx.asOf

theorem evaluate_ok {result : Assessments} (h : value (evaluate pk ctx) = .ok result) :
    (¬ Assessable ctx ∧ Verdict False result) ∨ Assessable ctx ∧ ∃ found policy_, value (manifests pk ctx) = .ok found ∧
      value (policy pk ctx) = .ok policy_ ∧ Verdict (Prohibits policy_ (observed ctx found)) result := by
  have hinitial {r : Assessments} (h : SameVerdict (Assessments.initial ctx.integrityEstablished) r) :
      Verdict False r := h.verdict ⟨by simp [Assessments.initial], by simp [Assessments.initial]⟩
  unfold evaluate at h
  dsimp only at h
  split_ifs at h with hcond
  · rw [value_bind] at h
    obtain ⟨_, -, h⟩ := bind_ok h
    cases h
    refine .inl ⟨?_, hinitial ⟨rfl, rfl⟩⟩
    rintro ⟨hfields, hpast⟩
    rw [hfields] at hcond
    simp [not_lt.2 hpast] at hcond
  · have hassess : Assessable ctx := by
      simp only [Bool.or_eq_true, Bool.not_eq_true', decide_eq_true_eq, not_or, Bool.not_eq_false, not_lt] at hcond
      exact hcond
    refine .inr ⟨hassess, ?_⟩
    rw [value_bind] at h
    obtain ⟨_, -, h⟩ := bind_ok h
    rw [value_bind] at h
    obtain ⟨found, hfound, h⟩ := bind_ok h
    rw [value_bind, value_sift_pure] at h
    obtain ⟨_, ⟨⟩, h⟩ := bind_ok h
    rw [value_bind] at h
    obtain ⟨r₁, hinvolved, h⟩ := bind_ok h
    rw [value_bind] at h
    obtain ⟨disclosures, -, h⟩ := bind_ok h
    rw [value_bind] at h
    obtain ⟨_, -, h⟩ := bind_ok h
    rw [value_bind] at h
    obtain ⟨policy_, hpolicy, h⟩ := bind_ok h
    rw [value_bind] at h
    obtain ⟨r₂, hverdict, h⟩ := bind_ok h
    rw [value_bind] at h
    obtain ⟨r₃, happroval, h⟩ := bind_ok h
    have hbefore := (involvementPass_ok hinvolved).verdict (hinitial ⟨rfl, rfl⟩)
    refine ⟨found, policy_, hfound, hpolicy, (deliveryPass_ok h).verdict ((approvalPass_ok happroval).verdict
      (policyPass_ok hverdict ?_))⟩
    split_ifs
    · exact hbefore
    · exact ⟨hbefore.block, hbefore.prohibitedUse⟩

/-! ## Policies with the pinned content -/

/-- The binding of a record agrees with the subject in every field that was matched. -/
theorem matchesOn_canonical {r : VerifiedRecord} {fields : List String}
    (hd : bindingDifferences pk ctx.subject r.binding = .ok r.differing) (hm : ctx.matchesOn r fields = true) {k : String}
    (hk : k ∈ fields) : k ∈ ctx.subject.keys ∧ ∃ raw, canonical pk (r.binding.item k) = .ok raw ∧
      canonical pk (ctx.subject.item k) = .ok raw := by
  obtain ⟨hall, hdiffering⟩ := filterM_ok hd
  rw [Context.matchesOn, Context.differences, List.isEmpty_iff, List.filter_eq_nil_iff] at hm
  have hkey := hm k hk
  simp only [Bool.or_eq_true, Bool.not_eq_true', List.contains_eq_mem, decide_eq_false_iff_not, decide_eq_true_eq, not_or,
    not_not] at hkey
  obtain ⟨⟨hsubject, -⟩, hsame⟩ := hkey
  refine ⟨hsubject, ?_⟩
  obtain ⟨b, hb⟩ := hall k hsubject
  have hholds : b = false := by
    by_contra hne
    rw [hdiffering, List.mem_filter] at hsame
    refine hsame ⟨hsubject, ?_⟩
    rw [holds, hb]
    exact (Bool.not_eq_false b).mp hne
  obtain ⟨left, hleft, hb⟩ := bind_ok hb
  obtain ⟨right, hright, hb⟩ := bind_ok hb
  cases hb
  have heq : left = right := not_not.1 (of_decide_eq_false hholds)
  exact ⟨left, hleft, heq ▸ hright⟩

/-- Nothing stands against the policy: its content has the digest that its binding and the target name. -/
theorem clean_policyReason {r : VerifiedRecord} (h : clean (policyReason pk ctx) r = true) :
    ctx.matchesOn r policyFields = true ∧ ∃ contentDigest, digest pk r.data = .ok contentDigest ∧
      r.binding.item "policy_sha256" = .str contentDigest := by
  unfold clean policyReason at h
  by_cases hm : ctx.matchesOn r policyFields = true
  · simp only [hm, Bool.not_true, Bool.false_eq_true, if_false] at h
    cases hd : digest pk r.data with
    | error e =>
      rw [hd] at h
      cases h
    | ok contentDigest =>
      rw [hd] at h
      by_cases hb : Json.str contentDigest = r.binding.item "policy_sha256"
      · exact ⟨hm, contentDigest, rfl, hb.symm⟩
      · simp [hb, pure, Except.pure, bind, Except.bind] at h
  · simp [hm, pure, Except.pure] at h

theorem policyReason_congr {ctx' : Context} (hsubject : ctx'.subject = ctx.subject)
    (hoperation : ctx'.operationAt = ctx.operationAt) : policyReason pk ctx' = policyReason pk ctx := by
  cases ctx
  cases ctx'
  cases hsubject
  cases hoperation
  rfl

theorem timeReason_congr {ctx' : Context} (hasOf : ctx'.asOf = ctx.asOf) (hoperation : ctx'.operationAt = ctx.operationAt) :
    timeReason ctx' = timeReason ctx := by
  cases ctx
  cases ctx'
  cases hasOf
  cases hoperation
  rfl

/-- Records of other kinds leave the manifests as they are. -/
theorem manifests_congr {ctx' : Context} (hsubject : ctx'.subject = ctx.subject) (hasOf : ctx'.asOf = ctx.asOf)
    (hoperation : ctx'.operationAt = ctx.operationAt)
    (hrecords : ctx'.records "publication_manifest" = ctx.records "publication_manifest") :
    manifests pk ctx' = manifests pk ctx := by
  have hbound : ctx'.bound "publication_manifest" = ctx.bound "publication_manifest" := by
    simp only [Context.bound, Context.boundOn, hrecords, hsubject, Context.matchesOn, Context.differences]
  simp only [manifests, hbound, timeReason_congr hasOf hoperation, expectedDocument, hsubject]

theorem mem_observed_of_extends {ctx' : Context} {new : VerifiedRecord → Prop} {found : List VerifiedRecord}
    (hext : Extends new ctx.eligible ctx'.eligible) (hsubject : ctx'.subject = ctx.subject) (hasOf : ctx'.asOf = ctx.asOf)
    (hoperation : ctx'.operationAt = ctx.operationAt) {r : VerifiedRecord} (hr : r ∈ observed ctx found) :
    r ∈ observed ctx' found := by
  rw [observed, List.mem_filter] at hr ⊢
  obtain ⟨hb, hreason⟩ := hr
  obtain ⟨hm, hk, hd⟩ := mem_boundOn.1 hb
  refine ⟨mem_boundOn.2 ⟨hext.mem hm, hk, ?_⟩, ?_⟩
  · rw [hsubject]
    simpa only [Context.differences, hsubject] using hd
  · simpa only [activityReason, timeReason_congr hasOf hoperation, hsubject] using hreason

/-! ## Validated policies -/

theorem checkSubject_digest {value : Json} {names : Option (List String)} {u : Unit} (h : checkSubject value names = .ok u)
    {k : String} (hk : k ∈ value.keys) (hname : k ≠ "object_ids") (hsuffix : "_sha256".toList.isSuffixOf k.toList = true) :
    ∃ s, value.item k = .str s := by
  obtain ⟨_, -, h⟩ := bind_ok h
  obtain ⟨_, -, h⟩ := bind_ok h
  cases hl : value.members.lookup k with
  | none => exact absurd hk (lookup_eq_none_iff.1 hl)
  | some x =>
    have hm := forM_ok h (k, x) (mem_of_lookup hl)
    rw [if_neg hname, if_pos hsuffix] at hm
    obtain ⟨s, hs, -⟩ := bind_ok hm
    exact ⟨s, (item_of_get? hl).trans (digestHex_ok hs)⟩

theorem strings_floatless {value : Json} {items : List String} (h : strings value = .ok items) : Floatless value := by
  unfold strings at h
  split at h
  · next xs =>
    obtain ⟨_, -, h⟩ := bind_ok h
    obtain ⟨texts, htexts, -⟩ := bind_ok h
    have hall := mapM_ok htexts
    clear * - hall
    change FloatlessList xs
    induction hall with
    | nil => trivial
    | cons hx _ ih => exact ⟨text_ok hx ▸ trivial, ih⟩
  · cases h

theorem timestamp_floatless {value : Json} {t : ℤ} (h : timestamp value = .ok t) : Floatless value := by
  obtain ⟨s, hs, -⟩ := bind_ok h
  exact text_ok hs ▸ trivial

theorem policyData_floatless {data : Json} (hw : data.WF) (h : validateData pk "publication_policy" data = .ok ()) :
    Floatless data := by
  change publicationData "publication_policy" data = .ok () at h
  unfold publicationData at h
  rw [if_pos rfl] at h
  obtain ⟨_, hkeys, h⟩ := bind_ok h
  obtain ⟨_, hinterval, h⟩ := bind_ok h
  obtain ⟨_, hprohibited, h⟩ := bind_ok h
  obtain ⟨_, hcategories, h⟩ := bind_ok h
  obtain ⟨_, happroval, h⟩ := bind_ok h
  obtain ⟨interpretation, hinterpretation, -⟩ := bind_ok h
  obtain ⟨_, hfrom, hinterval⟩ := bind_ok hinterval
  obtain ⟨_, huntil, -⟩ := bind_ok hinterval
  obtain ⟨_, hprohibited, -⟩ := bind_ok hprohibited
  obtain ⟨_, hcategories, -⟩ := bind_ok hcategories
  obtain ⟨s, htext, -⟩ := bind_ok hinterpretation
  have hbool : Floatless (data.item "approval_required") := by
    unfold boolean at happroval
    split at happroval
    · next hb => exact hb ▸ trivial
    · cases happroval
  refine exactKeys_floatless hw hkeys fun k hk => ?_
  simp only [List.mem_cons, List.not_mem_nil, or_false] at hk
  rcases hk with rfl | rfl | rfl | rfl | rfl | rfl
  · exact timestamp_floatless hfrom
  · exact timestamp_floatless huntil
  · exact strings_floatless hprohibited
  · exact strings_floatless hcategories
  · exact hbool
  · exact text_ok htext ▸ trivial

end Evaluation

section Packages
variable {pk : Packages}

/-- The workflow of that name is the publication. -/
def IsPublication (workflow : String) : Prop := Workflow.all.find? (fun w => w.name = workflow) = some .publication

theorem evaluate_publication {workflow : String} {ctx : Context} {result : Assessments}
    (h : value (Assessor.evaluate pk workflow ctx) = .ok (.publication result)) : IsPublication workflow := by
  unfold IsPublication
  unfold Assessor.evaluate at h
  split at h
  case h_3 hw => exact hw
  all_goals
    first
      | (rw [value_bind] at h; obtain ⟨r, -, h⟩ := bind_ok h; cases h)
      | cases h

theorem assess_publication {package trust : Json} {allow : Bool} {report : Report}
    (h : assess pk package trust allow = .ok report) (hw : IsPublication (textOf (package.item "workflow"))) :
    validatePackage pk package = .ok () ∧ ∃ ctx result, newContext pk package trust = .ok ctx ∧
      report.assessments = .publication result ∧ value (evaluate pk ctx) = .ok result := by
  obtain ⟨hvalid, ctx, hctx, hev, -⟩ := assess_ok h
  unfold IsPublication at hw
  unfold Assessor.evaluate at hev
  rw [hw, value_bind] at hev
  obtain ⟨result, hv, hev⟩ := bind_ok hev
  exact ⟨hvalid, ctx, result, hctx, (Except.ok.inj hev).symm, hv⟩

/-- The policy of a target with an assessment has the pinned content. -/
theorem policy_pinned (hpk : ReadsBack pk) {package trust : Json} {ctx : Context}
    {found : List (Check × Option VerifiedRecord)} (h : EvidenceOf pk package trust ctx found)
    (hvalid : validatePackage pk package = .ok ()) {r : VerifiedRecord} (hr : r ∈ ctx.records "publication_policy")
    (hclean : clean (policyReason pk ctx) r = true) :
    ∃ contentDigest, digest pk r.data = .ok contentDigest ∧ ctx.subject.item "policy_sha256" = .str contentDigest := by
  obtain ⟨hm, contentDigest, hdigest, hbinding⟩ := clean_policyReason hclean
  obtain ⟨hkey, raw, hleft, hright⟩ := matchesOn_canonical (h.differing (List.mem_of_mem_filter hr)) hm
    (k := "policy_sha256") (by decide)
  have hsubject := validatePackage_subject hvalid
  rw [← h.subject] at hsubject
  obtain ⟨s, hs⟩ := checkSubject_digest hsubject hkey (by decide) (by decide)
  refine ⟨contentDigest, hdigest, ?_⟩
  rw [hbinding] at hleft
  rw [hs] at hright ⊢
  exact canonical_injective hpk trivial trivial trivial trivial hright hleft

/-- The pinned digest tells one content. -/
def Pinned (pk : Packages) (package : Json) : Prop :=
  ∀ a b, .str (sha256Hex pk a) = ((package.item "target").item "subject").item "policy_sha256" →
    .str (sha256Hex pk b) = ((package.item "target").item "subject").item "policy_sha256" → a = b

/-- Two policies with the pinned content have the same data. -/
theorem same_policy (hpk : ReadsBack pk) {d : String} (hinj : ∀ a b, sha256Hex pk a = d → sha256Hex pk b = d → a = b)
    {v w : Json} (hv : v.WF) (hv' : Floatless v) (hw : w.WF) (hw' : Floatless w) (h : digest pk v = .ok d)
    (h' : digest pk w = .ok d) : v = w := by
  obtain ⟨x, hx, hd⟩ := bind_ok h
  obtain ⟨y, hy, hd'⟩ := bind_ok h'
  have heq := hinj x y (Except.ok.inj hd) (Except.ok.inj hd')
  exact canonical_injective hpk hv hv' hw hw' hx (heq ▸ hy)

/-- A publication that is blocked stays blocked for a prohibited use, whatever records other than manifests
are added to its package. -/
theorem prohibition_stays (hpk : ReadsBack pk) {package package' trust : Json} (hw : package.WF) (hw' : package'.WF)
    (hpinned : Pinned pk package) {allow : Bool} {report report' : Report}
    (h : assess pk package trust allow = .ok report) {result : Assessments}
    (hr : report.assessments = .publication result) (hblock : result.action = .block)
    (hadded : Added (fun e => kindOf e ≠ "publication_manifest") package package')
    (h' : assess pk package' trust allow = .ok report') :
    ∃ result', report'.assessments = .publication result' ∧ result'.action = .block ∧
      result'.policyAssessment = .prohibitedUse := by
  obtain ⟨-, _, -, hev, -⟩ := assess_ok h
  have hworkflow := evaluate_publication (hr ▸ hev)
  obtain ⟨hvalid, ctx, r, hctx, hresult, hv⟩ := assess_publication h hworkflow
  cases hr.symm.trans hresult
  rw [← hadded.rest "workflow" (by decide)] at hworkflow
  obtain ⟨hvalid', ctx', result', hctx', hresult', hv'⟩ := assess_publication h' hworkflow
  refine ⟨result', hresult', ?_⟩
  obtain ⟨found, hof⟩ := newContext_ok hctx
  obtain ⟨found', hof'⟩ := newContext_ok hctx'
  obtain ⟨-, hsubject, hasOf, hoperation, -, hext⟩ := hof.extends_ hadded hof'
  have hrecords : ctx'.records "publication_manifest" = ctx.records "publication_manifest" :=
    records_of_extends hext fun r ⟨envelope, hnew, hrecord⟩ => hrecord.kind ▸ hnew
  -- the first run: a policy that prohibits an observed activity
  rcases evaluate_ok hv with ⟨-, hverdict⟩ | ⟨hassess, ms, policy_, hms, hpolicy, hverdict⟩
  · exact absurd (hverdict.block.1 hblock) id
  obtain ⟨p, rfl, hresolved, hprohibited⟩ := hverdict.block.1 hblock
  have hassess' : Assessable ctx' := by rwa [Assessable, hsubject, hasOf, hoperation]
  rcases evaluate_ok hv' with ⟨hno, -⟩ | ⟨-, ms', policy', hms', hpolicy', hverdict'⟩
  · exact absurd hassess' hno
  rw [manifests_congr hsubject hasOf hoperation hrecords, hms] at hms'
  cases hms'
  -- the policies with the pinned content all say the same
  rw [policy, value_bind] at hpolicy hpolicy'
  obtain ⟨candidates, hcandidates, hpolicy⟩ := bind_ok hpolicy
  obtain ⟨candidates', hcandidates', hpolicy'⟩ := bind_ok hpolicy'
  obtain rfl := value_sift hcandidates
  obtain rfl := value_sift hcandidates'
  have hp := List.mem_of_head? (Except.ok.inj hpolicy)
  rw [List.mem_filter] at hp
  have hp' : p ∈ (ctx'.records "publication_policy").filter (clean (policyReason pk ctx')) := by
    rw [policyReason_congr hsubject hoperation, List.mem_filter]
    exact ⟨(hext.filter fun r => decide (r.kind = "publication_policy")).mem hp.1, hp.2⟩
  obtain ⟨q, hq⟩ : ∃ q, policy' = some q := by
    cases policy' with
    | none => exact absurd hp' (List.head?_eq_none_iff.1 (Except.ok.inj hpolicy') ▸ List.not_mem_nil)
    | some q => exact ⟨q, rfl⟩
  subst hq
  have hqmem := List.mem_of_head? (Except.ok.inj hpolicy')
  rw [List.mem_filter] at hqmem
  have hdata : q.data = p.data := by
    obtain ⟨hpm, hpk'⟩ := List.mem_filter.1 hp.1
    obtain ⟨hqm, hqk⟩ := List.mem_filter.1 hqmem.1
    obtain ⟨d, hd, hpin⟩ := policy_pinned hpk hof hvalid hp.1 hp.2
    obtain ⟨d', hd', hpin'⟩ := policy_pinned hpk hof' hvalid' hqmem.1 hqmem.2
    rw [hsubject, hpin] at hpin'
    cases hpin'
    have hpvalid := hof.valid hvalid hpm
    have hqvalid := hof'.valid hvalid' hqm
    rw [of_decide_eq_true hpk'] at hpvalid
    rw [of_decide_eq_true hqk] at hqvalid
    rw [hof.subject] at hpin
    refine same_policy hpk (fun a b ha hb => hpinned a b ?_ ?_) (hof'.wf hw' hqm)
      (policyData_floatless (hof'.wf hw' hqm) hqvalid) (hof.wf hw hpm) (policyData_floatless (hof.wf hw hpm) hpvalid) hd' hd
    · rw [ha, hpin]
    · rw [hb, hpin]
  have hstays : Prohibits (some q) (observed ctx' ms) := by
    refine ⟨q, rfl, hdata ▸ hresolved, ?_⟩
    obtain ⟨a, ha⟩ := List.exists_mem_of_ne_nil _ hprohibited
    rw [prohibited, List.mem_filter] at ha
    refine List.ne_nil_of_mem (a := a) ?_
    rw [prohibited, List.mem_filter, hdata]
    exact ⟨mem_observed_of_extends hext hsubject hasOf hoperation ha.1, ha.2⟩
  exact ⟨hverdict'.block.2 hstays, hverdict'.prohibitedUse.2 hstays⟩

end Packages

/-! ## A small instance -/

def samplePolicyData : Json :=
  .obj [("approval_required", .bool false), ("disclosure_categories", .arr []), ("effective_from", sampleEarlier),
    ("effective_until", sampleLater), ("interpretation", .str "resolved"),
    ("prohibited_activities", .arr [.str "translation"])]

/-- The digest of the policy is told from every other. -/
def sampleDigests : Packages := { sampleWriter with
  sha256 := fun raw =>
    List.replicate 32 (if raw = encodeUtf8 (dumps (fun _ => []) false samplePolicyData) then 1 else 0) }

def sampleSubject : List (String × Json) :=
  [("artifact_id", .str "a"), ("disclosure_sha256", .str (zeros 64)), ("payload_sha256", .str (zeros 64)),
    ("policy_id", .str "p"), ("policy_sha256", .str (hex (List.replicate 32 1))), ("policy_version", .str "v"),
    ("request_id", .str "x"), ("revision_id", .str "r"), ("stage", .str "s")]

def sampleComponent : Json :=
  .obj [("artifact_id", .str "a"), ("category", .str "text"), ("revision_id", .str "r"), ("sha256", .str (zeros 64))]

def samplePublication (further : List Json) : Json :=
  samplePackage .publication sampleSubject [("author", .str "i"), ("collector", .str "i"), ("policy", .str "i")]
    ([sampleRecord "k" "i" "publication_policy" "1" sampleTime sampleSubject samplePolicyData,
      sampleRecord "k" "i" "publication_manifest" "2" sampleTime sampleSubject
        (.obj [("components", .arr [sampleComponent]), ("observed_at", sampleTime)]),
      sampleRecord "k" "i" "publication_activity" "3" sampleTime sampleSubject
        (.obj [("activity", .str "translation"), ("adoption_basis", .str "observed_in_artifact"),
          ("component", sampleComponent), ("included_in_artifact_sha256", .str (zeros 64)),
          ("observed_at", sampleTime)])] ++ further)

def sampleDeclaration : Json :=
  sampleRecord "k" "i" "publication_declaration" "4" sampleTime sampleSubject
    (.obj [("activities", .arr []), ("declared_at", sampleTime)])

def samplePublicationTrust : Json :=
  sampleTrust .publication [("k", sampleKey (zeros 64) "i" ["author", "collector", "policy"])]

/-- A translation that the policy prohibits. -/
theorem sample_blocked : (assessed (assess sampleDigests (samplePublication []) samplePublicationTrust false)).map
    (fun a => match a with
      | .publication r => r.action
      | _ => .review) = some .block := by
  decide +kernel

theorem sample_declared :
    (assessed (assess sampleDigests (samplePublication [sampleDeclaration]) samplePublicationTrust false)).isSome := by
  decide +kernel

theorem samplePublication_added : Added (fun e => kindOf e ≠ "publication_manifest") (samplePublication [])
    (samplePublication [sampleDeclaration]) where
  rest k hk := by
    simp only [item, get?, samplePublication, samplePackage, members, lookup_cons_ite, if_neg hk]
  records := .keep _ (.keep _ (.keep _ (.add _ (by decide +kernel) .nil)))

theorem sample_pinned : Pinned sampleDigests (samplePublication []) := by
  have hpinned : (((samplePublication []).item "target").item "subject").item "policy_sha256" =
      .str (hex (List.replicate 32 1)) := by decide +kernel
  have hone {raw : Bytes} (h : Json.str (sha256Hex sampleDigests raw) =
      (((samplePublication []).item "target").item "subject").item "policy_sha256") :
      raw = encodeUtf8 (dumps (fun _ => []) false samplePolicyData) := by
    rw [hpinned] at h
    have hbytes : sampleDigests.sha256 raw = List.replicate 32 1 := hex_injective (Json.str.inj h)
    by_contra hne
    simp [sampleDigests, hne] at hbytes
  exact fun a b ha hb => (hone ha).trans (hone hb).symm

theorem sample_prohibition_stays : ∃ report' result',
    assess sampleDigests (samplePublication [sampleDeclaration]) samplePublicationTrust false = .ok report' ∧
      report'.assessments = .publication result' ∧ result'.action = .block := by
  obtain ⟨a, ha, haction⟩ := Option.map_eq_some_iff.1 sample_blocked
  obtain ⟨report, hreport, hr⟩ := assessed_ok ha
  obtain ⟨a', ha'⟩ := Option.isSome_iff_exists.1 sample_declared
  obtain ⟨report', hreport', -⟩ := assessed_ok ha'
  obtain ⟨result, rfl⟩ : ∃ result, a = .publication result := by
    cases a with
    | publication result => exact ⟨result, rfl⟩
    | _ => cases haction
  have hreads : ReadsBack sampleDigests := writer_reads rfl
  have hwf : (samplePublication []).WF := by decide +kernel
  have hwf' : (samplePublication [sampleDeclaration]).WF := by decide +kernel
  obtain ⟨result', hresult', hblock, -⟩ := prohibition_stays hreads hwf hwf' sample_pinned hreport hr haction
    samplePublication_added hreport'
  exact ⟨report', result', hreport', hresult', hblock⟩

end VapEvidence.Assessor.Publication
