import VapEvidence.AdmissionAssessment

set_option autoImplicit false

/-!
# Replaced and omitted statements

Two assessments of one request differ only in their evidence. Bytes that do not
verify leave the verdict that a missing slot leaves, and leaving slots out never
adds a reason to deny.
-/
namespace VapEvidence.Authorization
open Json Payment

namespace Findings

/-- Every reason of `f` to deny is one of `g`. -/
def DeniesLess (f g : Findings) : Prop := f.denied ⊆ g.denied

theorem DeniesLess.refl (f : Findings) : DeniesLess f f := fun _ h => h

theorem deniesLess_none (f : Findings) : DeniesLess none f := fun _ h => by cases h

theorem deniesLess_unknown (reasons : List String) (f : Findings) : DeniesLess ⟨[], reasons⟩ f :=
  fun _ h => by cases h

theorem DeniesLess.append {a b c d : Findings} (h : DeniesLess a c) (h' : DeniesLess b d) :
    DeniesLess (a ++ b) (c ++ d) := by
  intro reason hr
  rcases List.mem_append.1 hr with hr | hr
  · exact List.mem_append_left _ (h hr)
  · exact List.mem_append_right _ (h' hr)

theorem DeniesLess.foldl {fs gs : List Findings} (h : List.Forall₂ DeniesLess fs gs) {a b : Findings}
    (hab : DeniesLess a b) : DeniesLess (fs.foldl (· ++ ·) a) (gs.foldl (· ++ ·) b) := by
  induction h generalizing a b with
  | nil => exact hab
  | cons hf _ ih => exact ih (hab.append hf)

theorem DeniesLess.all {fs gs : List Findings} (h : List.Forall₂ DeniesLess fs gs) :
    DeniesLess (all fs) (all gs) := DeniesLess.foldl h (DeniesLess.refl _)

theorem deniesLess_same (fs : List Findings) : List.Forall₂ DeniesLess fs fs := by
  induction fs with
  | nil => exact .nil
  | cons f fs ih => exact .cons (DeniesLess.refl f) ih

theorem deniesLess_map {α : Type} (f g : α → Findings) (xs : List α) (h : ∀ x ∈ xs, DeniesLess (f x) (g x)) :
    List.Forall₂ DeniesLess (xs.map f) (xs.map g) := by
  induction xs with
  | nil => exact .nil
  | cons x xs ih =>
    exact .cons (h x List.mem_cons_self) (ih fun y hy => h y (List.mem_cons_of_mem _ hy))

/-- Findings that deny for the same reasons, and each leave something unknown, have one verdict. -/
theorem verdict_congr {f g : Findings} (hfg : DeniesLess f g) (hgf : DeniesLess g f) (hf : f.unknown ≠ [])
    (hg : g.unknown ≠ []) : f.verdict = g.verdict := by
  have hdenied : f.denied = [] ↔ g.denied = [] := by
    constructor
    · intro h
      exact List.eq_nil_iff_forall_not_mem.2 fun a ha => List.not_mem_nil (h ▸ hgf ha)
    · intro h
      exact List.eq_nil_iff_forall_not_mem.2 fun a ha => List.not_mem_nil (h ▸ hfg ha)
  by_cases h : f.denied = []
  · simp [verdict, h, hdenied.1 h, hf, hg]
  · simp [verdict, h, mt hdenied.2 h]

theorem unknown_foldl (fs : List Findings) (a : Findings) :
    (fs.foldl (· ++ ·) a).unknown = a.unknown ++ fs.flatMap unknown := by
  induction fs generalizing a with
  | nil => simp
  | cons f fs ih => rw [List.foldl_cons, ih, List.flatMap_cons, ← List.append_assoc, append_def]

theorem unknown_of_mem {fs : List Findings} {f : Findings} (h : f ∈ fs) (hf : f.unknown ≠ []) :
    (all fs).unknown ≠ [] := by
  rw [all, unknown_foldl]
  intro hnone
  exact hf (List.flatMap_eq_nil_iff.1 (List.append_eq_nil_iff.1 hnone).2 f h)

end Findings

section Replacement
variable {py : Platform}

/-! ## Evidence that says less -/

/-- Each slot of `evidence'` holds what `evidence` holds there, or holds nothing that verifies. -/
def SaysLess (py : Platform) (trust : Json) (now : ℤ) (evidence' evidence : EvidenceBytes) : Prop :=
  ∀ slot ∈ slots, evidence'.lookup slot = evidence.lookup slot ∨
    ∃ reason, verified py slot evidence' trust now = .error reason

theorem verified_congr {slot : String} {evidence' evidence : EvidenceBytes} {trust : Json} {now : ℤ}
    (h : evidence'.lookup slot = evidence.lookup slot) :
    verified py slot evidence' trust now = verified py slot evidence trust now := by
  rw [verified, verified, h]

theorem distinctFindings_less {a a' b b' : Option Json} {reason : String} (ha : a' = a ∨ a' = none)
    (hb : b' = b ∨ b' = none) :
    Findings.DeniesLess (distinctFindings a' b' reason) (distinctFindings a b reason) := by
  rcases ha with rfl | rfl
  · rcases hb with rfl | rfl
    · exact Findings.DeniesLess.refl _
    · cases a' <;> exact Findings.deniesLess_none _
  · exact Findings.deniesLess_none _

/-- A status read against fewer approvals: a comparison with an approval that does not verify becomes a
reason to leave the outcome unknown. -/
theorem statusFindings_less {r : Request py} {policyDigest : String} {policy trust status : Json}
    {evidence' evidence : EvidenceBytes} {now maxStatusAge : ℤ} (h : SaysLess py trust now evidence' evidence) :
    Findings.DeniesLess
      (statusFindings r policyDigest policy evidence' (fun slot => verified py slot evidence' trust now) status
        now maxStatusAge)
      (statusFindings r policyDigest policy evidence (fun slot => verified py slot evidence trust now) status
        now maxStatusAge) := by
  refine Findings.DeniesLess.all (List.rel_append (List.rel_append (Findings.deniesLess_same _) ?_)
    (Findings.deniesLess_same _))
  refine Findings.deniesLess_map _ _ _ fun slot hslot => ?_
  dsimp only
  rcases h slot (List.mem_append_left _ hslot) with hl | ⟨reason, hr⟩
  · rw [verified_congr hl, hl]
    exact Findings.DeniesLess.refl _
  · rw [hr]
    exact Findings.deniesLess_unknown _ _

theorem assessFindings_less {r : Request py} {evidence' evidence : EvidenceBytes} {problems' problems : List String}
    {policy trust identities : Json} {policyDigest : String} {now maxStatusAge : ℤ}
    (h : SaysLess py trust now evidence' evidence) :
    Findings.DeniesLess
      (assessFindings r evidence' problems' policy trust identities policyDigest now maxStatusAge)
      (assessFindings r evidence problems policy trust identities policyDigest now maxStatusAge) := by
  have hrecord : ∀ slot ∈ slots, verified py slot evidence' trust now = verified py slot evidence trust now ∨
      ∃ reason, verified py slot evidence' trust now = .error reason :=
    fun slot hs => (h slot hs).imp verified_congr id
  have hvalue {α : Type} (f : Except String (Json × Json) → Option α)
      (hf : ∀ reason, f (.error reason) = none) (slot : String) (hs : slot ∈ slots) :
      f (verified py slot evidence' trust now) = f (verified py slot evidence trust now) ∨
        f (verified py slot evidence' trust now) = none := by
    rcases hrecord slot hs with hv | ⟨reason, hv⟩
    · exact .inl (congrArg f hv)
    · exact .inr (by rw [hv, hf])
  have hm : "maker_approval" ∈ slots := by decide
  have hc : "checker_approval" ∈ slots := by decide
  unfold assessFindings
  refine Findings.DeniesLess.all (.cons (Findings.deniesLess_unknown _ _) (.cons (Findings.DeniesLess.refl _)
    (.cons ?_ (.cons ?_ (.cons ?_ (.cons ?_ (.cons ?_ (.cons ?_ .nil))))))))
  · refine Findings.DeniesLess.all (Findings.deniesLess_map _ _ _ fun slot hs => ?_)
    dsimp only
    rcases hrecord slot hs with hv | ⟨reason, hv⟩
    · rw [hv]
      exact Findings.DeniesLess.refl _
    · rw [hv]
      exact Findings.deniesLess_unknown _ _
  · dsimp only
    rcases hrecord _ hm with hv | ⟨reason, hv⟩
    · rw [hv]
      exact Findings.DeniesLess.refl _
    · rw [hv]
      exact Findings.deniesLess_none _
  · dsimp only
    rcases hrecord _ hc with hv | ⟨reason, hv⟩
    · rw [hv]
      exact Findings.DeniesLess.refl _
    · rw [hv]
      exact Findings.deniesLess_none _
  · exact distinctFindings_less (hvalue (personOf identities) (fun _ => rfl) _ hm)
      (hvalue (personOf identities) (fun _ => rfl) _ hc)
  · exact distinctFindings_less (hvalue approvalId (fun _ => rfl) _ hm) (hvalue approvalId (fun _ => rfl) _ hc)
  · dsimp only
    rcases hrecord "final_status" (by decide) with hv | ⟨reason, hv⟩
    · rw [hv]
      split
      · exact statusFindings_less h
      · exact Findings.deniesLess_none _
    · rw [hv]
      exact Findings.deniesLess_none _

/-- A slot that does not verify leaves something unknown. -/
theorem assessFindings_unknown {r : Request py} {evidence : EvidenceBytes} {problems : List String}
    {policy trust identities : Json} {policyDigest reason : String} {now maxStatusAge : ℤ} {slot : String}
    (hs : slot ∈ slots) (h : verified py slot evidence trust now = .error reason) :
    (assessFindings r evidence problems policy trust identities policyDigest now maxStatusAge).unknown ≠ [] := by
  have hslots : (Findings.all (slots.map fun slot => unknownOf (verified py slot evidence trust now))).unknown ≠ [] := by
    refine Findings.unknown_of_mem (List.mem_map_of_mem hs) ?_
    rw [h]
    exact List.cons_ne_nil _ _
  exact Findings.unknown_of_mem (List.mem_cons_of_mem _ (List.mem_cons_of_mem _ List.mem_cons_self)) hslots

/-! ## Supplied evidence -/

/-- The evidence without the slots `S`. -/
def Supplied.omit (S : List String) : Supplied → Supplied
  | .items entries => .items (entries.filter fun e => !S.contains e.1)
  | supplied => supplied

/-- The evidence with other bytes in those of the slots `S` that it has. -/
def Supplied.replace (S : List String) (bytes : String → Option Bytes) : Supplied → Supplied
  | .items entries => .items (entries.map fun e => if S.contains e.1 then (e.1, bytes e.1) else e)
  | supplied => supplied

theorem lookup_omit (S : List String) (items : List (String × Option Bytes)) (slot : String) :
    (items.filter fun e => !S.contains e.1).lookup slot = if slot ∈ S then none else items.lookup slot := by
  induction items with
  | nil => simp
  | cons e items ih =>
    obtain ⟨k, v⟩ := e
    by_cases hk : k ∈ S
    · rw [List.filter_cons_of_neg (by simp [hk]), ih]
      by_cases hs : slot ∈ S
      · rw [if_pos hs, if_pos hs]
      · have hne : slot ≠ k := fun h => hs (h ▸ hk)
        rw [if_neg hs, if_neg hs, List.lookup_cons, beq_false_of_ne hne]
    · rw [List.filter_cons_of_pos (by simp [hk]), List.lookup_cons, List.lookup_cons, ih]
      by_cases he : slot = k
      · subst he
        simp [hk]
      · simp [beq_false_of_ne he]

theorem lookup_replace (S : List String) (bytes : String → Option Bytes) (items : List (String × Option Bytes))
    (slot : String) :
    (items.map fun e => if S.contains e.1 then (e.1, bytes e.1) else e).lookup slot =
      if slot ∈ S then (items.lookup slot).map fun _ => bytes slot else items.lookup slot := by
  induction items with
  | nil => simp
  | cons e items ih =>
    obtain ⟨k, v⟩ := e
    rw [List.map_cons]
    by_cases he : slot = k
    · subst he
      by_cases hs : slot ∈ S
      · simp [hs]
      · simp [hs]
    · by_cases hk : k ∈ S
      · rw [if_pos (List.contains_iff_mem.2 hk), List.lookup_cons, List.lookup_cons, beq_false_of_ne he, ih]
      · rw [if_neg (mt List.contains_iff_mem.1 hk), List.lookup_cons, List.lookup_cons, beq_false_of_ne he, ih]

/-- The bytes that an assessment reads in a slot. -/
def frozen (supplied : Supplied) (slot : String) : Option Bytes := (freezeEvidence supplied).1.lookup slot

/-- Some key of the evidence is no slot. -/
def foreign (items : List (String × Option Bytes)) : Bool := items.any fun e => !slots.contains e.1

theorem frozen_items {items : List (String × Option Bytes)} {slot : String} (hs : slot ∈ slots) :
    frozen (.items items) slot = if foreign items then none else (items.lookup slot).bind usableOf := by
  by_cases h : foreign items = true
  · have hkeys : (items.any fun e => !slots.contains e.1) = true := h
    rw [if_pos h, frozen, freezeEvidence, if_pos hkeys]
    rfl
  · rw [if_neg h]
    exact lookup_freezeEvidence hs h

theorem foreign_omit {S : List String} (hS : ∀ slot ∈ S, slot ∈ slots) (items : List (String × Option Bytes)) :
    foreign (items.filter fun e => !S.contains e.1) = foreign items := by
  rw [foreign, foreign, List.any_filter]
  refine congrArg (items.any ·) (funext fun e => ?_)
  by_cases he : e.1 ∈ S
  · simp [he, hS _ he]
  · simp [he]

theorem foreign_replace (S : List String) (bytes : String → Option Bytes) (items : List (String × Option Bytes)) :
    foreign (items.map fun e => if S.contains e.1 then (e.1, bytes e.1) else e) = foreign items := by
  rw [foreign, foreign, List.any_map]
  refine congrArg (items.any ·) (funext fun e => ?_)
  dsimp only [Function.comp]
  split_ifs <;> rfl

theorem frozen_omit {S : List String} (hS : ∀ slot ∈ S, slot ∈ slots) (supplied : Supplied) {slot : String}
    (hs : slot ∈ slots) :
    frozen (supplied.omit S) slot = if slot ∈ S then none else frozen supplied slot := by
  cases supplied with
  | absent => exact (ite_self none).symm
  | unusable => exact (ite_self none).symm
  | items items =>
    rw [Supplied.omit, frozen_items hs, frozen_items hs, foreign_omit hS, lookup_omit]
    split_ifs <;> rfl

theorem frozen_replace_other {S : List String} (bytes : String → Option Bytes) (supplied : Supplied) {slot : String}
    (hs : slot ∈ slots) (hn : slot ∉ S) : frozen (supplied.replace S bytes) slot = frozen supplied slot := by
  cases supplied with
  | absent => rfl
  | unusable => rfl
  | items items =>
    rw [Supplied.replace, frozen_items hs, frozen_items hs, foreign_replace, lookup_replace, if_neg hn]

theorem frozen_replace_self {S : List String} (bytes : String → Option Bytes) (supplied : Supplied) {slot : String}
    {raw : Bytes} (hs : slot ∈ slots) (hm : slot ∈ S) (h : frozen (supplied.replace S bytes) slot = some raw) :
    bytes slot = some raw := by
  cases supplied with
  | absent => cases h
  | unusable => cases h
  | items items =>
    rw [Supplied.replace, frozen_items hs, foreign_replace, lookup_replace, if_pos hm] at h
    split_ifs at h with hf
    obtain ⟨supplied, hl, hu⟩ := Option.bind_eq_some_iff.1 h
    obtain ⟨_, -, rfl⟩ := Option.map_eq_some_iff.1 hl
    unfold usableOf at hu
    split_ifs at hu
    exact hu

theorem verified_missing {slot : String} {evidence : EvidenceBytes} {trust : Json} {now : ℤ}
    (h : ∀ raw, evidence.lookup slot = some raw → ¬ ∃ body key, Authentic py slot raw trust now body key) :
    ∃ reason, verified py slot evidence trust now = .error reason := by
  cases hv : verified py slot evidence trust now with
  | error reason => exact ⟨reason, rfl⟩
  | ok record =>
    obtain ⟨body, key⟩ := record
    obtain ⟨raw, hraw, ha⟩ := verified_ok.1 hv
    exact absurd ⟨body, key, ha⟩ (h raw hraw)

/-! ## Two assessments -/

/-- The verdict on what a caller supplied. -/
def verdictOn (r : Request py) (policy trust identities : Json) (now maxStatusAge : ℤ) (supplied : Supplied) :
    Except String Json :=
  (assess r (freezeEvidence supplied).1 (freezeEvidence supplied).2 policy trust identities now maxStatusAge).map
    fun decision => decision.item "verdict"

/-- The verdict follows from the findings, unless the configuration has no digest. -/
theorem verdictOn_findings (r : Request py) (policy trust identities : Json) (now maxStatusAge : ℤ) :
    (∃ e, ∀ supplied, verdictOn r policy trust identities now maxStatusAge supplied = .error e) ∨
    ∃ policyDigest, ∀ supplied, verdictOn r policy trust identities now maxStatusAge supplied =
      .ok (.str (assessFindings r (freezeEvidence supplied).1 (freezeEvidence supplied).2 policy trust identities
        policyDigest now maxStatusAge).verdict) := by
  have hfail {e : String} (h : ∀ evidence problems,
      assess r evidence problems policy trust identities now maxStatusAge = .error e) :
      ∃ e, ∀ supplied, verdictOn r policy trust identities now maxStatusAge supplied = .error e :=
    ⟨e, fun supplied => by rw [verdictOn, h]; rfl⟩
  cases hp : digest py policy with
  | error e => exact .inl (hfail fun _ _ => by rw [assess, hp]; rfl)
  | ok policyDigest =>
    cases ht : digest py trust with
    | error e => exact .inl (hfail fun _ _ => by rw [assess, hp, ht]; rfl)
    | ok trustDigest =>
      cases hi : digest py identities with
      | error e => exact .inl (hfail fun _ _ => by rw [assess, hp, ht, hi]; rfl)
      | ok identityDigest =>
        refine .inr ⟨policyDigest, fun supplied => ?_⟩
        obtain ⟨decision, hd, hv⟩ := @assess_verdict _ r (freezeEvidence supplied).1 (freezeEvidence supplied).2
          _ _ _ _ _ _ now maxStatusAge hp ht hi
        rw [verdictOn, hd, ← hv]
        rfl

section Removed
variable {S : List String} (hS : ∀ slot ∈ S, slot ∈ slots)
include hS

theorem omit_unverified (supplied : Supplied) (trust : Json) (now : ℤ) : ∀ slot ∈ S, ∃ reason,
    verified py slot (freezeEvidence (supplied.omit S)).1 trust now = .error reason := by
  intro slot hm
  refine verified_missing fun raw hraw => ?_
  have hfrozen := frozen_omit hS supplied (hS slot hm)
  rw [if_pos hm] at hfrozen
  exact absurd (hfrozen.symm.trans hraw) (by simp)

theorem omit_saysLess (supplied : Supplied) (trust : Json) (now : ℤ) :
    SaysLess py trust now (freezeEvidence (supplied.omit S)).1 (freezeEvidence supplied).1 := by
  intro slot hs
  by_cases hm : slot ∈ S
  · exact .inr (omit_unverified hS supplied trust now slot hm)
  · exact .inl ((frozen_omit hS supplied hs).trans (if_neg hm))

variable {r : Request py} {policy trust identities : Json} {now maxStatusAge : ℤ} (supplied : Supplied)

theorem denied_of_omit
    (h : verdictOn r policy trust identities now maxStatusAge (supplied.omit S) = .ok (.str "DENIED")) :
    verdictOn r policy trust identities now maxStatusAge supplied = .ok (.str "DENIED") := by
  rcases verdictOn_findings r policy trust identities now maxStatusAge with ⟨e, he⟩ | ⟨policyDigest, hv⟩
  · cases (he _).symm.trans h
  · have hd := Json.str.inj (Except.ok.inj ((hv _).symm.trans h))
    obtain ⟨reason, hr⟩ := List.exists_mem_of_ne_nil _ (Findings.verdict_denied.1 hd)
    rw [hv, Findings.verdict_denied.2]
    exact List.ne_nil_of_mem (assessFindings_less (omit_saysLess hS supplied trust now) hr)

theorem omit_not_authorized (hne : S ≠ []) :
    verdictOn r policy trust identities now maxStatusAge (supplied.omit S) ≠ .ok (.str "AUTHORIZED") := by
  intro h
  rcases verdictOn_findings r policy trust identities now maxStatusAge with ⟨e, he⟩ | ⟨policyDigest, hv⟩
  · cases (he _).symm.trans h
  · obtain ⟨slot, hm⟩ := List.exists_mem_of_ne_nil _ hne
    obtain ⟨reason, hr⟩ := @omit_unverified py S hS supplied trust now slot hm
    have hclear := Findings.verdict_authorized.1 (Json.str.inj (Except.ok.inj ((hv _).symm.trans h)))
    exact assessFindings_unknown (hS slot hm) hr hclear.2

theorem replace_eq_omit {bytes : String → Option Bytes}
    (hbytes : ∀ slot ∈ S, ∀ raw, bytes slot = some raw → ¬ ∃ body key, Authentic py slot raw trust now body key) :
    verdictOn r policy trust identities now maxStatusAge (supplied.replace S bytes) =
      verdictOn r policy trust identities now maxStatusAge (supplied.omit S) := by
  have hreplaced : ∀ slot ∈ S, ∃ reason,
      verified py slot (freezeEvidence (supplied.replace S bytes)).1 trust now = .error reason := fun slot hm =>
    verified_missing fun raw hraw => hbytes slot hm raw (frozen_replace_self bytes supplied (hS slot hm) hm hraw)
  have homitted := @omit_unverified py S hS supplied trust now
  have hother : ∀ slot ∈ slots, slot ∉ S → (freezeEvidence (supplied.replace S bytes)).1.lookup slot =
      (freezeEvidence (supplied.omit S)).1.lookup slot := fun slot hs hn =>
    (frozen_replace_other bytes supplied hs hn).trans ((frozen_omit hS supplied hs).trans (if_neg hn)).symm
  rcases verdictOn_findings r policy trust identities now maxStatusAge with ⟨e, he⟩ | ⟨policyDigest, hv⟩
  · exact (he _).trans (he _).symm
  rcases List.eq_nil_or_concat S with hnil | ⟨S', slot, hS'⟩
  · subst hnil
    cases supplied with
    | absent => rfl
    | unusable => rfl
    | items items =>
      have hmap : items.map (fun e => if ([] : List String).contains e.1 then (e.1, bytes e.1) else e) = items :=
        List.map_id'' (fun _ => rfl) items
      have hfilter : items.filter (fun e => !([] : List String).contains e.1) = items :=
        List.filter_eq_self.2 fun _ _ => rfl
      rw [Supplied.replace, Supplied.omit, hmap, hfilter]
  · have hm : slot ∈ S := by simp [hS']
    obtain ⟨reason, hr⟩ := hreplaced slot hm
    obtain ⟨reason', hr'⟩ := homitted slot hm
    have hless : SaysLess py trust now (freezeEvidence (supplied.replace S bytes)).1
        (freezeEvidence (supplied.omit S)).1 := by
      intro s hs
      by_cases hsm : s ∈ S
      · exact .inr (hreplaced s hsm)
      · exact .inl (hother s hs hsm)
    have hmore : SaysLess py trust now (freezeEvidence (supplied.omit S)).1
        (freezeEvidence (supplied.replace S bytes)).1 := by
      intro s hs
      by_cases hsm : s ∈ S
      · exact .inr (homitted s hsm)
      · exact .inl (hother s hs hsm).symm
    rw [hv, hv, Findings.verdict_congr (assessFindings_less hless) (assessFindings_less hmore)
      (assessFindings_unknown (hS slot hm) hr) (assessFindings_unknown (hS slot hm) hr')]

end Removed

/-- Replacing the bytes of slots by bytes that do not verify gives the verdict of leaving these slots out;
leaving slots out never makes a verdict a denial, and never authorizes. -/
theorem unverified_as_omitted (r : Request py) (policy trust identities : Json) (now maxStatusAge : ℤ)
    (supplied : Supplied) (S : List String) (hS : ∀ slot ∈ S, slot ∈ slots) :
    let verdict := verdictOn r policy trust identities now maxStatusAge
    (∀ bytes : String → Option Bytes,
      (∀ slot ∈ S, ∀ raw, bytes slot = some raw → ¬ ∃ body key, Authentic py slot raw trust now body key) →
      verdict (supplied.replace S bytes) = verdict (supplied.omit S) ∧
        (S ≠ [] → verdict (supplied.replace S bytes) ≠ .ok (.str "AUTHORIZED")) ∧
        (verdict (supplied.replace S bytes) = .ok (.str "DENIED") → verdict supplied = .ok (.str "DENIED"))) ∧
    (verdict (supplied.omit S) = .ok (.str "DENIED") → verdict supplied = .ok (.str "DENIED")) ∧
    (S ≠ [] → verdict (supplied.omit S) ≠ .ok (.str "AUTHORIZED")) := by
  intro verdict
  refine ⟨fun bytes hbytes => ?_, denied_of_omit hS supplied, omit_not_authorized hS supplied⟩
  have hsame : verdict (supplied.replace S bytes) = verdict (supplied.omit S) := replace_eq_omit hS supplied hbytes
  exact ⟨hsame, fun hne h => omit_not_authorized hS supplied hne (hsame.symm.trans h),
    fun h => denied_of_omit hS supplied (hsame.symm.trans h)⟩

/-- Under a manifest that trusts nobody no bytes verify. -/
theorem sample_unverified_as_omitted : ∃ r : Request samplePlatform,
    let verdict := verdictOn r samplePolicy (dict []) (dict []) 5 1
    let supplied := Supplied.items [("final_status", some [1])]
    verdict (supplied.replace ["final_status"] fun _ => some [0]) = verdict (supplied.omit ["final_status"]) ∧
      verdict (supplied.omit ["final_status"]) ≠ .ok (.str "AUTHORIZED") := by
  obtain ⟨r, -⟩ := sampleRequest_prepared
  obtain ⟨hreplace, -, hauthorized⟩ := unverified_as_omitted r samplePolicy (dict []) (dict []) 5 1
    (.items [("final_status", some [1])]) ["final_status"] (by decide)
  refine ⟨r, (hreplace (fun _ => some [0]) fun slot _ raw _ => ?_).1, hauthorized (List.cons_ne_nil _ _)⟩
  rintro ⟨body, key, ⟨⟨_, _, _, _, -, -, -, -, -, -, hkey, -⟩, -, -⟩⟩
  cases hkey

end Replacement
end VapEvidence.Authorization
