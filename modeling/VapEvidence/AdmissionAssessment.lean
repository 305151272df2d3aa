import VapEvidence.JournalSafety
import VapEvidence.ProofRecheck

set_option autoImplicit false

/-!
# What an admission rests on

The assessment of one moment authorizes a payment exactly when its policy, both
approvals and the final status say so, and only statements that verify can deny
it: bytes that do not verify count as a slot that was left out.
-/
namespace VapEvidence.Authorization
open Json Payment

namespace Findings

@[simp] theorem clear_none : Clear none := ⟨rfl, rfl⟩

theorem clear_available {condition : Bool} {reason : String} :
    Clear (available condition reason) ↔ condition = true := by
  cases condition <;> simp [available, Clear, none]

theorem verdict_authorized {f : Findings} : f.verdict = "AUTHORIZED" ↔ Clear f := by
  refine ⟨clear_of_verdict, fun h => ?_⟩
  rw [verdict, if_neg (not_not.2 h.1), if_neg (not_not.2 h.2)]

theorem verdict_denied {f : Findings} : f.verdict = "DENIED" ↔ f.denied ≠ [] := by
  by_cases hd : f.denied = []
  · by_cases hu : f.unknown = []
    · simp [verdict, hd, hu]
    · simp [verdict, hd, hu]
  · simp [verdict, hd]

theorem clear_demands {fields : List String} {condition : String → Bool} {reason : String → String} :
    (∀ f ∈ fields.map (fun field => demand (condition field) (reason field)), Clear f) ↔
      ∀ field ∈ fields, condition field = true := by
  rw [List.forall_mem_map]
  exact forall₂_congr fun field _ => clear_demand

theorem clear_append_iff {fs gs : List Findings} :
    (∀ f ∈ fs ++ gs, Clear f) ↔ (∀ f ∈ fs, Clear f) ∧ ∀ f ∈ gs, Clear f :=
  List.forall_mem_append

end Findings

section Assessment
variable (py : Platform)

/-! ## Statements that verify -/

/-- The bytes are a canonical envelope around `body`, signed under `key`, which the trust manifest
holds for the slot's role; the body has the slot's shape and is not after the admission. -/
structure Authentic (slot : String) (raw : Bytes) (trust : Json) (now : ℤ) (body key : Json) : Prop where
  signed : ∃ envelope keyBytes message signature,
    load py raw = .ok envelope ∧ canonical py envelope = .ok raw ∧
    envelope.hasFields ["key_id", "payload", "signature"] = true ∧
    textOk (envelope.item "key_id") = true ∧ signatureOk (envelope.item "signature") = true ∧
    envelope.item "payload" = body ∧
    (trust.item (roleOf slot)).get? (envelope.item "key_id").text = some key ∧
    canonical py (pick ["key_id", "payload"] envelope) = .ok message ∧
    unhex key.text = some keyBytes ∧ unhex (envelope.item "signature").text = some signature ∧
    py.publicKeyLoads keyBytes = true ∧ py.verify keyBytes (signingDomain ++ message) signature = true
  shaped : (if approvals.contains slot then approvalShape body slot else statusShape body) = true
  past : (body.item (if approvals.contains slot then "issued_at_ms" else "observed_at_ms")).number ≤ now

variable {py}

theorem readEnvelope_ok {raw : Bytes} {envelope : Json} : readEnvelope py raw = .ok envelope ↔
    load py raw = .ok envelope ∧ envelope.hasFields ["key_id", "payload", "signature"] = true ∧
      canonical py envelope = .ok raw ∧ textOk (envelope.item "key_id") = true ∧
      signatureOk (envelope.item "signature") = true := by
  constructor
  · intro h
    obtain ⟨v, hv, h⟩ := bind_ok h
    obtain ⟨_, hok, h⟩ := bind_ok h
    cases h
    have hok := require_ok.1 hok
    simp only [Bool.and_eq_true, decide_eq_true_eq] at hok
    exact ⟨hv, hok.1.1.1, hok.1.1.2, hok.1.2, hok.2⟩
  · rintro ⟨hv, hf, hc, ht, hs⟩
    simp only [readEnvelope, hv, hf, hc, ht, hs, require, bind, Except.bind]
    rfl

theorem envelopeVerifies_ok {envelope key : Json} {u : Unit} : envelopeVerifies py envelope key = .ok u ↔
    ∃ message keyBytes signature, canonical py (pick ["key_id", "payload"] envelope) = .ok message ∧
      unhex key.text = some keyBytes ∧ unhex (envelope.item "signature").text = some signature ∧
      py.publicKeyLoads keyBytes = true ∧ py.verify keyBytes (signingDomain ++ message) signature = true := by
  constructor
  · intro h
    obtain ⟨message, hm, h⟩ := bind_ok h
    split at h
    · next keyBytes signature hp hs =>
      have h := require_ok.1 h
      rw [Bool.and_eq_true] at h
      exact ⟨message, keyBytes, signature, hm, hp, hs, h.1, h.2⟩
    · cases h
  · rintro ⟨message, keyBytes, signature, hm, hp, hs, hl, hv⟩
    simp only [envelopeVerifies, hm, hp, hs, hl, hv, require, bind, Except.bind]
    rfl

/-- `_verified` accepts exactly the authentic statements. -/
theorem verified_ok {slot : String} {evidence : EvidenceBytes} {trust : Json} {now : ℤ} {body key : Json} :
    verified py slot evidence trust now = .ok (body, key) ↔
      ∃ raw, evidence.lookup slot = some raw ∧ Authentic py slot raw trust now body key := by
  constructor
  · intro h
    unfold verified at h
    split at h
    · cases h
    next raw hraw =>
    split at h
    · cases h
    next envelope henv =>
    split at h
    · cases h
    next k hk =>
    split at h
    · cases h
    next hver =>
    dsimp only at h
    by_cases hshape : (if approvals.contains slot then approvalShape (envelope.item "payload") slot
        else statusShape (envelope.item "payload")) = true
    · rw [if_neg (not_not.2 hshape)] at h
      obtain ⟨hload, hfields, hcanon, htext, hsig⟩ := readEnvelope_ok.1 henv
      obtain ⟨message, keyBytes, signature, hm, hp, hs, hl, hv⟩ := envelopeVerifies_ok.1 hver
      rcases lt_or_ge now ((envelope.item "payload").item
          (if approvals.contains slot then "issued_at_ms" else "observed_at_ms")).number with hpast | hpast
      · rw [if_pos hpast] at h
        cases h
      · rw [if_neg (not_lt.2 hpast)] at h
        cases h
        exact ⟨raw, hraw, ⟨envelope, keyBytes, message, signature, hload, hcanon, hfields, htext, hsig, rfl, hk,
          hm, hp, hs, hl, hv⟩, hshape, hpast⟩
    · rw [if_pos hshape] at h
      cases h
  · rintro ⟨raw, hraw, ⟨envelope, keyBytes, message, signature, hload, hcanon, hfields, htext, hsig, rfl, hk, hm,
      hp, hs, hl, hv⟩, hshape, hpast⟩
    have henv := readEnvelope_ok.2 ⟨hload, hfields, hcanon, htext, hsig⟩
    have hver : envelopeVerifies py envelope key = .ok () :=
      envelopeVerifies_ok.2 ⟨message, keyBytes, signature, hm, hp, hs, hl, hv⟩
    simp only [verified, hraw, henv, hk, hver]
    rw [if_neg (not_not.2 hshape), if_neg (not_lt.2 hpast)]

/-! ## What an authorized payment has -/

/-- The policy's own window, context, generation, accounts and amount. -/
structure PolicyAdmits (r : Request py) (policy : Json) (now : ℤ) : Prop where
  window : (policy.item "valid_from_ms").number ≤ now ∧ now < (policy.item "valid_until_ms").number
  context : ∀ field ∈ contextFields, r.json.item field = (policy.item "context").item field
  generation : ∀ field ∈ ["configuration_digest", "recovery_epoch"], r.json.item field = policy.item field
  source : r.json.item "source_account" ∈ elements (policy.item "allowed_sources")
  beneficiary : r.json.item "beneficiary" ∈ elements (policy.item "allowed_beneficiaries")
  amount : amount (r.field "amount_minor") ≤ amount (policy.item "max_amount_minor").text

/-- An approval of this request and policy, in its window, by an eligible identity of its role. -/
structure Approves (r : Request py) (policyDigest role : String) (now : ℤ) (approval identity : Json) :
    Prop where
  bindsRequest : approval.item "request_digest" = .str r.digest
  bindsPolicy : approval.item "policy_digest" = .str policyDigest
  window : (approval.item "issued_at_ms").number ≤ now ∧ now < (approval.item "expires_at_ms").number
  eligibleRole : .str role ∈ elements (identity.item "roles")
  scope : ∀ field ∈ scopeFields, identity.item field = r.json.item field
  eligibleAtIssuance : (identity.item "valid_from_ms").number ≤ (approval.item "issued_at_ms").number ∧
    (approval.item "issued_at_ms").number < (identity.item "valid_until_ms").number
  eligibleAtAdmission : (identity.item "valid_from_ms").number ≤ now ∧
    now < (identity.item "valid_until_ms").number

/-- A status of this request, policy and both approval envelopes that is active and current. -/
structure StatusAdmits (r : Request py) (policy : Json) (policyDigest : String) (now maxStatusAge : ℤ)
    (maker checker : Bytes) (makerApproval checkerApproval status : Json) : Prop where
  bindsRequest : status.item "request_digest" = .str r.digest
  bindsPolicy : status.item "policy_digest" = .str policyDigest
  subject : ∀ field ∈ ["principal_id", "credential_id", "configuration_digest", "recovery_epoch"],
    status.item field = policy.item field
  makerBytes : (status.item "approval_digests").item "maker_approval" = .str (bytesDigest py maker)
  checkerBytes : (status.item "approval_digests").item "checker_approval" = .str (bytesDigest py checker)
  afterMaker : (makerApproval.item "issued_at_ms").number ≤ (status.item "observed_at_ms").number
  afterChecker : (checkerApproval.item "issued_at_ms").number ≤ (status.item "observed_at_ms").number
  observed : (status.item "observed_at_ms").number ≤ now
  unexpired : now < (status.item "valid_until_ms").number
  fresh : now - (status.item "observed_at_ms").number ≤ maxStatusAge
  active : status.item "state" = .str "active"
  unrevoked : status.item "revoked_at_ms" = .null

/-- Everything an authorization says. -/
structure Admissible (r : Request py) (evidence : EvidenceBytes) (policy trust identities : Json)
    (policyDigest : String) (now maxStatusAge : ℤ) : Prop where
  admitted : PolicyAdmits r policy now
  statements : ∃ maker checker status makerApproval makerKey makerIdentity checkerApproval checkerKey
      checkerIdentity current statusKey,
    evidence.lookup "maker_approval" = some maker ∧
    evidence.lookup "checker_approval" = some checker ∧
    evidence.lookup "final_status" = some status ∧
    Authentic py "maker_approval" maker trust now makerApproval makerKey ∧
    Authentic py "checker_approval" checker trust now checkerApproval checkerKey ∧
    Authentic py "final_status" status trust now current statusKey ∧
    identities.get? makerKey.text = some makerIdentity ∧
    identities.get? checkerKey.text = some checkerIdentity ∧
    Approves r policyDigest "maker" now makerApproval makerIdentity ∧
    Approves r policyDigest "checker" now checkerApproval checkerIdentity ∧
    makerIdentity.item "person_id" ≠ checkerIdentity.item "person_id" ∧
    makerApproval.item "approval_id" ≠ checkerApproval.item "approval_id" ∧
    StatusAdmits r policy policyDigest now maxStatusAge maker checker makerApproval checkerApproval current

theorem within_iff {v : Json} {first last : String} {now : ℤ} : within v first last now = true ↔
    (v.item first).number ≤ now ∧ now < (v.item last).number := by
  simp [within]

theorem policyFindings_clear {r : Request py} {policy : Json} {now : ℤ} :
    Findings.Clear (policyFindings r policy now) ↔ PolicyAdmits r policy now := by
  rw [policyFindings, Findings.clear_all, Findings.clear_append_iff, Findings.clear_append_iff,
    Findings.clear_append_iff, Findings.clear_demands, Findings.clear_demands]
  simp only [List.forall_mem_cons, List.not_mem_nil, false_implies, implies_true, and_true, Findings.clear_demand, within_iff,
    decide_eq_true_eq, List.contains_iff_mem]
  constructor
  · rintro ⟨⟨⟨hw, hc⟩, hg⟩, hs, hb, ha⟩
    exact ⟨hw, hc, List.forall_mem_cons.2 ⟨hg.1, List.forall_mem_singleton.2 hg.2⟩, hs, hb, ha⟩
  · rintro ⟨hw, hc, hg, hs, hb, ha⟩
    exact ⟨⟨⟨hw, hc⟩, hg _ (by simp), hg _ (by simp)⟩, hs, hb, ha⟩

theorem approvalFindings_clear {r : Request py} {policyDigest : String} {identities : Json} {now : ℤ}
    {slot role : String} {approval key : Json} :
    Findings.Clear (approvalFindings r policyDigest identities now slot role approval key) ↔
      ∃ identity, identities.get? key.text = some identity ∧
        Approves r policyDigest role now approval identity := by
  rw [approvalFindings, Findings.clear_all, Findings.clear_append_iff]
  cases hi : identities.get? key.text with
  | none => simp [Findings.clear_available]
  | some identity =>
    dsimp only
    rw [Findings.clear_append_iff, Findings.clear_append_iff, Findings.clear_demands]
    simp only [List.forall_mem_cons, List.not_mem_nil, false_implies, implies_true, and_true, Findings.clear_demand, within_iff,
      decide_eq_true_eq, List.contains_iff_mem, Option.some.injEq, exists_eq_left']
    constructor
    · rintro ⟨⟨hr, hp, -, hw⟩, ⟨hrole, hscope⟩, hissue, hadmit⟩
      exact ⟨hr, hp, hw, hrole, hscope, hissue, hadmit⟩
    · rintro ⟨hr, hp, hw, hrole, hscope, hissue, hadmit⟩
      exact ⟨⟨hr, hp, hw.1.trans_lt hw.2, hw⟩, ⟨hrole, hscope⟩, hissue, hadmit⟩

theorem freshness_iff {status : Json} {now maxStatusAge : ℤ} : freshness status now maxStatusAge = true ↔
    ((status.item "observed_at_ms").number ≤ now ∧ now < (status.item "valid_until_ms").number) ∧
      now - (status.item "observed_at_ms").number ≤ maxStatusAge := by
  simp [freshness, within]

/-- A current status that is not active is never clear: one that was revoked is after its own
revocation. -/
theorem revocationFindings_clear {status : Json} {now : ℤ} (h : (status.item "observed_at_ms").number ≤ now) :
    Findings.Clear (revocationFindings status now) ↔
      status.item "state" = .str "active" ∧ status.item "revoked_at_ms" = .null := by
  unfold revocationFindings
  split_ifs with hs
  · constructor
    · intro hc
      split at hc
      · exact absurd (Findings.clear_available.1 hc) (by decide)
      · simp only [Findings.clear_all, List.forall_mem_cons, List.not_mem_nil, false_implies, implies_true, and_true,
          Findings.clear_demand, decide_eq_true_eq] at hc
        omega
    · rintro ⟨ha, -⟩
      rw [ha] at hs
      exact absurd hs (by decide)
  · simp only [Findings.clear_all, List.forall_mem_cons, List.not_mem_nil, false_implies, implies_true, and_true,
      Findings.clear_demand, Findings.clear_available, decide_eq_true_eq]
    exact and_comm

theorem statusFindings_clear {r : Request py} {policyDigest : String} {policy : Json}
    {evidence : EvidenceBytes} {maker checker : Bytes} {makerApproval makerKey checkerApproval checkerKey : Json}
    {approval : String → Except String (Json × Json)} {status : Json} {now maxStatusAge : ℤ}
    (hm : approval "maker_approval" = .ok (makerApproval, makerKey))
    (hc : approval "checker_approval" = .ok (checkerApproval, checkerKey))
    (hml : evidence.lookup "maker_approval" = some maker)
    (hcl : evidence.lookup "checker_approval" = some checker) :
    Findings.Clear (statusFindings r policyDigest policy evidence approval status now maxStatusAge) ↔
      StatusAdmits r policy policyDigest now maxStatusAge maker checker makerApproval checkerApproval status := by
  rw [statusFindings, Findings.clear_all, Findings.clear_append_iff, Findings.clear_append_iff,
    Findings.clear_append_iff, Findings.clear_demands]
  simp only [approvals, List.map_cons, List.map_nil, hm, hc, hml, hcl, Option.getD_some, List.forall_mem_cons,
    List.not_mem_nil, false_implies, implies_true, and_true, Findings.clear_all, Findings.clear_demand, Findings.clear_available,
    decide_eq_true_eq]
  constructor
  · rintro ⟨⟨⟨⟨hr, hp⟩, hsub⟩, ⟨hmb, hma⟩, hcb, hca⟩, -, hfresh, hrev⟩
    rw [if_pos hfresh] at hrev
    have hf := freshness_iff.1 hfresh
    obtain ⟨hactive, hunrevoked⟩ := (revocationFindings_clear hf.1.1).1 hrev
    refine ⟨hr, hp, ?_, hmb, hcb, hma, hca, hf.1.1, hf.1.2, hf.2, hactive, hunrevoked⟩
    simpa only [List.forall_mem_cons, List.not_mem_nil, false_implies, implies_true, and_true] using hsub
  · rintro ⟨hr, hp, hsub, hmb, hcb, hma, hca, hobs, hexp, hage, hactive, hunrevoked⟩
    have hfresh := freshness_iff.2 ⟨⟨hobs, hexp⟩, hage⟩
    rw [if_pos hfresh]
    refine ⟨⟨⟨⟨hr, hp⟩, ?_⟩, ⟨hmb, hma⟩, hcb, hca⟩, hobs.trans_lt hexp, hfresh,
      (revocationFindings_clear hobs).2 ⟨hactive, hunrevoked⟩⟩
    simpa only [List.forall_mem_cons, List.not_mem_nil, false_implies, implies_true, and_true] using hsub

theorem unknownOf_clear {α : Type} {x : Except String α} :
    Findings.Clear (unknownOf x) ↔ ∃ a, x = .ok a := by
  refine ⟨Findings.clear_unknownOf, ?_⟩
  rintro ⟨a, rfl⟩
  exact Findings.clear_none

/-- Every check that a missing statement skips is covered by the reason that it is missing. -/
theorem assessFindings_clear_iff {r : Request py} {evidence : EvidenceBytes} {problems : List String}
    {policy trust identities : Json} {policyDigest : String} {now maxStatusAge : ℤ} :
    Findings.Clear
        (assessFindings r evidence problems policy trust identities policyDigest now maxStatusAge) ↔
      problems = [] ∧ Admissible r evidence policy trust identities policyDigest now maxStatusAge := by
  simp only [assessFindings, Findings.clear_all, slots, approvals, List.cons_append, List.nil_append,
    List.map_cons, List.map_nil, List.forall_mem_cons, List.not_mem_nil, false_implies, implies_true, and_true,
    unknownOf_clear, policyFindings_clear]
  constructor
  · rintro ⟨hproblems, hpolicy, ⟨⟨⟨makerApproval, makerKey⟩, hm⟩, ⟨⟨checkerApproval, checkerKey⟩, hc⟩,
      ⟨⟨status, statusKey⟩, hs⟩⟩, hmaker, hchecker, hperson, hid, hstatus⟩
    obtain ⟨maker, hml, hmv⟩ := verified_ok.1 hm
    obtain ⟨checker, hcl, hcv⟩ := verified_ok.1 hc
    obtain ⟨current, hsl, hsv⟩ := verified_ok.1 hs
    rw [hm] at hmaker
    rw [hc] at hchecker
    obtain ⟨makerIdentity, hmi, hma⟩ := approvalFindings_clear.1 hmaker
    obtain ⟨checkerIdentity, hci, hca⟩ := approvalFindings_clear.1 hchecker
    simp only [hm, hc, personOf, approvalId, hmi, hci, Option.map_some, distinctFindings,
      Findings.clear_demand, decide_eq_true_eq] at hperson hid
    rw [hs] at hstatus
    exact ⟨hproblems.2, hpolicy, maker, checker, current, makerApproval, makerKey, makerIdentity,
      checkerApproval, checkerKey, checkerIdentity, status, statusKey, hml, hcl, hsl, hmv, hcv, hsv, hmi, hci,
      hma, hca, hperson, hid, (statusFindings_clear hm hc hml hcl).1 hstatus⟩
  · rintro ⟨hproblems, hpolicy, maker, checker, current, makerApproval, makerKey, makerIdentity,
      checkerApproval, checkerKey, checkerIdentity, status, statusKey, hml, hcl, hsl, hmv, hcv, hsv, hmi, hci,
      hma, hca, hperson, hid, hstatus⟩
    have hm := verified_ok.2 ⟨maker, hml, hmv⟩
    have hc := verified_ok.2 ⟨checker, hcl, hcv⟩
    have hs := verified_ok.2 ⟨current, hsl, hsv⟩
    refine ⟨⟨rfl, hproblems⟩, hpolicy, ⟨⟨_, hm⟩, ⟨_, hc⟩, _, hs⟩, ?_, ?_, ?_, ?_, ?_⟩
    · rw [hm]
      exact approvalFindings_clear.2 ⟨makerIdentity, hmi, hma⟩
    · rw [hc]
      exact approvalFindings_clear.2 ⟨checkerIdentity, hci, hca⟩
    · simpa only [hm, hc, personOf, hmi, hci, Option.map_some, distinctFindings, Findings.clear_demand,
        decide_eq_true_eq] using hperson
    · simpa only [hm, hc, approvalId, distinctFindings, Findings.clear_demand, decide_eq_true_eq] using hid
    · rw [hs]
      exact (statusFindings_clear hm hc hml hcl).2 hstatus

/-! ## The verdict -/

theorem assess_verdict {r : Request py} {evidence : EvidenceBytes} {problems : List String}
    {policy trust identities : Json} {policyDigest trustDigest identityDigest : String} {now maxStatusAge : ℤ}
    (hp : digest py policy = .ok policyDigest) (ht : digest py trust = .ok trustDigest)
    (hi : digest py identities = .ok identityDigest) :
    ∃ decision, assess r evidence problems policy trust identities now maxStatusAge = .ok decision ∧
      decision.item "verdict" = .str
        (assessFindings r evidence problems policy trust identities policyDigest now maxStatusAge).verdict := by
  simp only [assess, hp, ht, hi, bind, Except.bind]
  exact ⟨_, rfl, item_of_get? (by simp [get?_dict, lookup_cons_ite])⟩

/-- The bytes that a slot was supplied with, when they are usable. -/
def usableOf (raw : Option Bytes) : Option Bytes :=
  if raw.any (fun raw => 0 < raw.length && raw.length ≤ 16384) then raw else none

theorem lookup_freezeEvidence {items : List (String × Option Bytes)} {slot : String} (hs : slot ∈ slots)
    (hkeys : ¬ (items.any fun e => !slots.contains e.1) = true) :
    (freezeEvidence (.items items)).1.lookup slot = (items.lookup slot).bind usableOf := by
  have hfrozen : (freezeEvidence (.items items)).1 =
      slots.filterMap fun slot => ((items.lookup slot).bind usableOf).map fun raw => (slot, raw) := by
    simp only [freezeEvidence, if_neg hkeys]
    refine List.filterMap_congr fun slot _ => ?_
    cases hl : items.lookup slot with
    | none => rfl
    | some raw =>
      simp only [Option.bind_some, usableOf]
      split_ifs <;> rfl
  rw [hfrozen, lookup_filterMap, if_pos hs]

/-- A slot that was refused as it was supplied is missing from the evidence. -/
theorem freezeEvidence_problems {supplied : Supplied}
    (h : ∀ slot ∈ slots, ∃ raw, (freezeEvidence supplied).1.lookup slot = some raw) :
    (freezeEvidence supplied).2 = [] := by
  cases supplied with
  | absent => rfl
  | unusable =>
    obtain ⟨raw, hraw⟩ := h "final_status" (by decide)
    cases hraw
  | items items =>
    by_cases hkeys : (items.any fun e => !slots.contains e.1) = true
    · obtain ⟨raw, hraw⟩ := h "final_status" (by decide)
      simp only [freezeEvidence, if_pos hkeys] at hraw
      cases hraw
    · simp only [freezeEvidence, if_neg hkeys]
      refine List.filterMap_eq_nil_iff.2 fun slot hslot => ?_
      obtain ⟨raw, hraw⟩ := h slot hslot
      rw [lookup_freezeEvidence hslot hkeys] at hraw
      obtain ⟨bytes, hl, hu⟩ := Option.bind_eq_some_iff.1 hraw
      unfold usableOf at hu
      split_ifs at hu with husable
      rw [hl, Option.bind_some, if_pos husable]

theorem policyOf_self {v : Json} {raw : Bytes} (hw : v.WF) (h : canonical py v = .ok raw)
    (ho : policyOk v = true) (hc : validateContext py (v.item "context") = .ok (v.item "context")) :
    policyOf py v = .ok v := by
  simp only [policyOf, h, load_canonical hw h, ho, hc, require, bind, Except.bind, if_true, pure, Except.pure]

end Assessment

/-! ## A small instance -/

def samplePolicy : Json := .obj
  [("allowed_beneficiaries", .arr [.str "bob"]), ("allowed_sources", .arr [.str "alice"]),
    ("configuration_digest", .str sampleDigest), ("context", sampleContext), ("credential_id", .str "c"),
    ("max_amount_minor", .str "5"), ("policy_id", .str "p"), ("principal_id", .str "u"), ("recovery_epoch", .int 1),
    ("schema", .str policySchema), ("valid_from_ms", .int 0), ("valid_until_ms", .int 10), ("version", .str "1")]

theorem samplePolicy_wf : samplePolicy.WF := by
  have hcontext : sampleContext.WF := dict_wf (by simp [Json.WF])
  refine ⟨?_, by simp [WFMembers, WFList, WF, hcontext]⟩
  unfold SortedKeys
  decide +kernel

/-- A gate that trusts nobody. -/
theorem sample_configured : ∃ g, Configured samplePlatform g samplePolicy (dict []) (dict []) := by
  have hpolicy := @canonical_eq samplePlatform samplePolicy (by decide +kernel) (by decide +kernel)
  have hempty := @canonical_eq samplePlatform (dict []) (by decide +kernel) (by decide +kernel)
  have hload : load samplePlatform _ = .ok (dict []) := load_canonical (dict_wf (by simp)) hempty
  have hcontext : samplePolicy.item "context" = sampleContext := by decide +kernel
  refine ⟨⟨sampleAdapter, _, _, _, 1, false⟩, ⟨samplePolicy, ?_⟩, ⟨[], ?_⟩, ⟨dict [], ?_⟩, hpolicy, hempty,
    hempty, by decide⟩
  · exact policyOf_self samplePolicy_wf hpolicy (by decide +kernel) (hcontext ▸ sampleContext_valid)
  · have htrust : trustValue [] = dict [] := rfl
    simp only [trustManifest, checkRoles, htrust, hempty, hload, require, List.all_nil, if_true, bind, Except.bind]
  · simp only [identityManifest, hempty, hload, bind, Except.bind]
    rfl

end VapEvidence.Authorization
