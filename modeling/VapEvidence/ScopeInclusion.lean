import VapEvidence.MerkleInclusion
import VapEvidence.CustodyPackages
import VapEvidence.IncidentEnvelopes
import VapEvidence.ScopeCrypto

set_option autoImplicit false

/-!
# Inclusion proofs

`audit_path` and `inclusion` of the declared-scope verifier as the paths of the tree over
the leaf hashes.
-/
namespace VapEvidence.Scope
open Json Merkle
open Incident (Packages Raised Run inputError sub isLowerHex)

/-! ## The tree of the leaf hashes -/

theorem split_eq {n : ℕ} (hn : 2 ≤ n) : split n = splitPoint n := by
  have hpos : 0 < Nat.size (n - 1) := Nat.size_pos.2 (by omega)
  have hle : 2 ^ (Nat.size (n - 1) - 1) ≤ n - 1 := Nat.lt_size.1 (by omega)
  have hlt : n - 1 < 2 ^ Nat.size (n - 1) := Nat.lt_size_self _
  rw [show Nat.size (n - 1) = Nat.size (n - 1) - 1 + 1 by omega, Nat.pow_succ] at hlt
  rw [split, Nat.shiftLeft_eq, one_mul]
  exact eq_splitPoint (by omega) (by omega)

section Trees
variable (pk : Packages)

/-- The tree whose leaves are hashes already. -/
def hashTree : TreeHash Bytes Bytes := ⟨pk.sha256 [], id, nodeHash pk⟩

theorem merkleRoot_eq (leaves : List Bytes) : merkleRoot pk leaves = (hashTree pk).rootOf leaves := by
  fun_induction merkleRoot pk leaves with
  | case1 =>
    rw [TreeHash.rootOf, Tree.ofList_nil]
    rfl
  | case2 leaf =>
    rw [TreeHash.rootOf, Tree.ofList_singleton]
    rfl
  | case3 a b rest k ih₁ ih₂ =>
    have hl : 2 ≤ (a :: b :: rest).length := by simp
    have hk : k = splitPoint (a :: b :: rest).length := split_eq hl
    rw [TreeHash.rootOf_split _ hl, ih₁, ih₂, hk]
    rfl

theorem siblings_eq (leaves : List Bytes) (i : ℕ) :
    auditPath.siblings pk leaves i = ((hashTree pk).auditPath leaves i).map hex := by
  fun_induction auditPath.siblings pk leaves i with
  | case1 =>
    rw [TreeHash.auditPath]
    rfl
  | case2 =>
    rw [TreeHash.auditPath_leaf]
    rfl
  | case3 i a b rest k hi ih =>
    have hl : 2 ≤ (a :: b :: rest).length := by simp
    have hk : k = splitPoint (a :: b :: rest).length := split_eq hl
    rw [TreeHash.auditPath_left _ hl (hk ▸ hi), List.map_append, ih, merkleRoot_eq, hk]
    rfl
  | case4 i a b rest k hi ih =>
    have hl : 2 ≤ (a :: b :: rest).length := by simp
    have hk : k = splitPoint (a :: b :: rest).length := split_eq hl
    rw [TreeHash.auditPath_right _ hl (hk ▸ hi), List.map_append, ih, merkleRoot_eq, hk]
    rfl

theorem fold_eq (leaf : Bytes) (i n : ℕ) (path : List Bytes) :
    fold pk leaf i n path = (hashTree pk).recompute leaf i n path := by
  induction n using Nat.strongRecOn generalizing i with
  | _ n ih =>
    rw [fold]
    by_cases hn : 2 ≤ n
    · have hpos := splitPoint_pos n
      rw [dif_neg (by omega), split_eq hn]
      by_cases hi : i < splitPoint n
      · simp only [if_pos hi]
        rw [TreeHash.recompute_left hn hi, ih _ (splitPoint_lt hn)]
        apply congrArg
        funext p
        obtain ⟨child, rest⟩ := p
        cases rest <;> rfl
      · simp only [if_neg hi]
        rw [TreeHash.recompute_right hn hi, ih _ (by omega)]
        apply congrArg
        funext p
        obtain ⟨child, rest⟩ := p
        cases rest <;> rfl
    · rw [dif_pos (by omega), TreeHash.recompute_leaf hn]

end Trees

/-! ## Lengths -/

variable {pk : Packages}

theorem rootOf_length (hlen : ∀ b, (pk.sha256 b).length = 32) {leaves : List Bytes} (hl : ∀ l ∈ leaves, l.length = 32) :
    ((hashTree pk).rootOf leaves).length = 32 := by
  match leaves, hl with
  | [], _ =>
    rw [TreeHash.rootOf, Tree.ofList_nil]
    exact hlen []
  | [l], hl =>
    rw [TreeHash.rootOf, Tree.ofList_singleton]
    exact hl l (List.mem_singleton_self l)
  | a :: b :: rest, _ =>
    rw [TreeHash.rootOf_split _ (by simp)]
    exact hlen _

theorem pairsOf_length (hlen : ∀ b, (pk.sha256 b).length = 32) {leaves : List Bytes} (hl : ∀ l ∈ leaves, l.length = 32)
    {p : Bytes × Bytes} (hp : p ∈ (hashTree pk).pairsOf leaves) : p.1.length = 32 ∧ p.2.length = 32 := by
  induction hn : leaves.length using Nat.strongRecOn generalizing leaves with
  | _ n ih =>
    by_cases h2 : 2 ≤ leaves.length
    · have hleft : ∀ l ∈ leaves.take (splitPoint leaves.length), l.length = 32 :=
        fun l h => hl l (List.mem_of_mem_take h)
      have hright : ∀ l ∈ leaves.drop (splitPoint leaves.length), l.length = 32 :=
        fun l h => hl l (List.mem_of_mem_drop h)
      have hlt := splitPoint_lt h2
      have hpos := splitPoint_pos leaves.length
      rw [TreeHash.pairsOf_split _ h2] at hp
      rcases List.mem_cons.1 hp with rfl | hp
      · exact ⟨rootOf_length hlen hleft, rootOf_length hlen hright⟩
      · rcases List.mem_append.1 hp with hp | hp
        · exact ih _ (by rw [List.length_take]; omega) hleft hp rfl
        · exact ih _ (by rw [List.length_drop]; omega) hright hp rfl
    · match leaves, h2 with
      | [], _ =>
        rw [TreeHash.pairsOf, Tree.ofList_nil] at hp
        exact absurd hp List.not_mem_nil
      | [l], _ =>
        rw [TreeHash.pairsOf, Tree.ofList_singleton] at hp
        exact absurd hp List.not_mem_nil
      | _ :: _ :: _, h2 => exact absurd (by simp) h2

theorem auditPath_lengths (hlen : ∀ b, (pk.sha256 b).length = 32) {leaves : List Bytes} (hl : ∀ l ∈ leaves, l.length = 32)
    {i : ℕ} (hi : i < leaves.length) : ∀ b ∈ (hashTree pk).auditPath leaves i, b.length = 32 := by
  induction leaves, i, hi using position_induction with
  | leaf d _ =>
    rw [TreeHash.auditPath_leaf]
    exact fun b hb => absurd hb List.not_mem_nil
  | left ds i _ h2 hi ih =>
    rw [TreeHash.auditPath_left _ h2 hi]
    refine List.forall_mem_append.2 ⟨ih fun l h => hl l (List.mem_of_mem_take h), fun b hb => ?_⟩
    rw [List.mem_singleton.1 hb]
    exact rootOf_length hlen fun l h => hl l (List.mem_of_mem_drop h)
  | right ds i _ h2 hi ih =>
    rw [TreeHash.auditPath_right _ h2 hi]
    refine List.forall_mem_append.2 ⟨ih fun l h => hl l (List.mem_of_mem_drop h), fun b hb => ?_⟩
    rw [List.mem_singleton.1 hb]
    exact rootOf_length hlen fun l h => hl l (List.mem_of_mem_take h)

/-! ## Hexadecimal texts -/

theorem hexBytes_hex {b : Bytes} {n : ℕ} (h : b.length = n) : hexBytes (.str (hex b)) n = .ok b := by
  have hlower : (hex b).toList.all isLowerHex = true := by
    refine List.all_eq_true.2 fun c hc => ?_
    have := (Payment.mem_hex hc).1
    simpa [Payment.isLowerHex, isLowerHex] using this
  rw [hexBytes, hlower, hex_length, h, decide_eq_true rfl, unhex_hex]
  rfl

theorem unhexChars_lower : ∀ {s : List Char} {n : ℕ}, s.length = 2 * n → s.all isLowerHex = true →
    ∃ b, unhexChars s = some b
  | [], _, _, _ => ⟨[], rfl⟩
  | [_], n, h, _ => by
    rw [List.length_singleton] at h
    omega
  | x :: y :: s, n, h, hall => by
    simp only [List.all_cons, Bool.and_eq_true] at hall
    obtain ⟨b, hb⟩ := unhexChars_lower (s := s) (n := n - 1)
      (by rw [List.length_cons, List.length_cons] at h; omega) hall.2.2
    have digit {c : Char} (hc : isLowerHex c = true) : ∃ v, lowerHexValue c = some v := by
      simp only [isLowerHex, Bool.or_eq_true, Bool.and_eq_true, decide_eq_true_eq] at hc
      unfold lowerHexValue
      split_ifs with h0 h1
      · exact ⟨_, rfl⟩
      · exact ⟨_, rfl⟩
      · exact absurd hc (by tauto)
    obtain ⟨v, hv⟩ := digit hall.1
    obtain ⟨w, hw⟩ := digit hall.2.1
    exact ⟨_, by rw [unhexChars, hv, hw, hb]; rfl⟩

theorem hexBytes_ok {v : Json} {n : ℕ} {b : Bytes} (h : hexBytes v n = .ok b) : v = .str (hex b) ∧ b.length = n := by
  unfold hexBytes at h
  split at h
  · next s =>
    split_ifs at h with hs
    · cases h
      simp only [Bool.and_eq_true, decide_eq_true_eq] at hs
      obtain ⟨b, hb⟩ := unhexChars_lower (n := n) (by rw [String.length_toList]; exact hs.1) hs.2
      have hu : unhex s = some b := hb
      have hx := hex_of_unhex hu
      rw [hu, Option.getD_some, hx]
      refine ⟨rfl, ?_⟩
      have hlength := hs.1
      rw [← hx, hex_length] at hlength
      omega
    · cases h
  · cases h

/-- The hashes that a path gives. -/
def siblingsOf (path : Json) : List Bytes := (elems path).map fun item => (unhex (Incident.textOf item)).getD []

theorem mapM_hexBytes {items : List Json} {siblings : List Bytes} (h : items.mapM (fun item => hexBytes item 32) = .ok siblings) :
    items = siblings.map (fun b => .str (hex b)) ∧ ∀ b ∈ siblings, b.length = 32 := by
  have hall := mapM_ok h
  clear h
  induction hall with
  | nil => exact ⟨rfl, fun b hb => absurd hb List.not_mem_nil⟩
  | cons hx _ ih =>
    obtain ⟨rfl, hlength⟩ := hexBytes_ok hx
    exact ⟨by rw [List.map_cons, ← ih.1], List.forall_mem_cons.2 ⟨hlength, ih.2⟩⟩

theorem siblingsOf_map (siblings : List Bytes) : siblingsOf (.arr (siblings.map fun b => .str (hex b))) = siblings := by
  rw [siblingsOf, elems, List.map_map]
  refine (List.map_congr_left fun b _ => ?_).trans (List.map_id _)
  change (unhex (hex b)).getD [] = b
  rw [unhex_hex, Option.getD_some]

/-! ## Inclusion -/

section Inclusion
variable (pk)

/-- The inputs of the hashes in `merkle_root`. -/
def rootInputs (leaves : List Bytes) : List Bytes := ((hashTree pk).pairsOf leaves).map fun p => 1 :: (p.1 ++ p.2)

/-- The inputs of the hashes in `inclusion`. -/
def inclusionInputs (leaf : Bytes) (index size : ℕ) (path : Json) : List Bytes :=
  (TreeHash.foldedPairs (hashTree pk) leaf index size (siblingsOf path)).map fun p => 1 :: (p.1 ++ p.2)

/-- Two different inputs, one from either list, with one digest. -/
def Collision (is js : List Bytes) : Prop := ∃ x ∈ is, ∃ y ∈ js, x ≠ y ∧ pk.sha256 x = pk.sha256 y

end Inclusion

/-- What an inclusion that holds has checked. -/
theorem inclusion_true {leaf : Bytes} {i n : ℕ} {path : Json} {root : Bytes}
    (h : inclusion pk leaf i n path (.str (hex root)) = .ok true) : ∃ siblings : List Bytes,
      path = .arr (siblings.map fun b => .str (hex b)) ∧ (∀ b ∈ siblings, b.length = 32) ∧
      (hashTree pk).recompute leaf i n siblings = some (root, []) := by
  unfold inclusion at h
  obtain ⟨_, -, h⟩ := bind_ok h
  split at h
  · next items =>
    split_ifs at h with hb
    · cases h
    · obtain ⟨siblings, hs, hfold⟩ := bind_ok h
      obtain ⟨hitems, hlengths⟩ := mapM_hexBytes hs
      rw [fold_eq] at hfold
      split at hfold
      · next result hr =>
        obtain ⟨bytes, hbytes, hfold⟩ := bind_ok hfold
        obtain ⟨he, -⟩ := hexBytes_ok hbytes
        obtain rfl := hex_injective (Json.str.inj he)
        refine ⟨siblings, by rw [hitems], hlengths, ?_⟩
        rw [hr, of_decide_eq_true (Except.ok.inj hfold)]
      · cases hfold
  · cases h

/-- A proof for a position of a tree is as long as the path of its leaf. -/
theorem inclusion_length {leaves : List Bytes} {i : ℕ} (hi : i < leaves.length) {leaf : Bytes} {items : List Json} {p : List String}
    (hp : auditPath pk leaves i = .ok p)
    (h : inclusion pk leaf i leaves.length (.arr items) (.str (hex (merkleRoot pk leaves))) = .ok true) :
    items.length = p.length := by
  rw [auditPath, if_pos hi] at hp
  cases hp
  obtain ⟨siblings, hpath, -, hr⟩ := inclusion_true h
  cases hpath
  rw [siblings_eq, List.length_map, List.length_map, TreeHash.recompute_length hi hr]
  rfl

theorem inclusion_complete (hlen : ∀ b, (pk.sha256 b).length = 32) {leaves : List Bytes} (hl : ∀ l ∈ leaves, l.length = 32)
    {i : ℕ} (hi : i < leaves.length) (hsize : leaves.length ≤ maxItems) :
    inclusion pk leaves[i] i leaves.length (.arr ((auditPath.siblings pk leaves i).map .str))
      (.str (hex (merkleRoot pk leaves))) = .ok true := by
  have hpath : (auditPath.siblings pk leaves i).map Json.str =
      ((hashTree pk).auditPath leaves i).map fun b => .str (hex b) := by
    rw [siblings_eq, List.map_map]
    rfl
  have hmap : (((hashTree pk).auditPath leaves i).map fun b => Json.str (hex b)).mapM (fun item => hexBytes item 32) =
      .ok ((hashTree pk).auditPath leaves i) := by
    refine mapM_eq (List.forall₂_map_left_iff.2 (List.forall₂_same.2 fun b hb => ?_))
    exact hexBytes_hex (auditPath_lengths hlen hl hi b hb)
  have hshort : ((hashTree pk).auditPath leaves i).length ≤ 64 :=
    TreeHash.auditPath_length_le hi (hsize.trans (by decide))
  have hrecompute : fold pk leaves[i] i leaves.length ((hashTree pk).auditPath leaves i) = some (merkleRoot pk leaves, []) := by
    have hfold := @TreeHash.recompute_auditPath _ _ (hashTree pk) i [] leaves hi _ (List.getElem?_eq_getElem hi)
    rw [List.append_nil] at hfold
    rw [fold_eq, merkleRoot_eq]
    exact hfold
  have hbound : (decide (leaves.length ≤ maxItems) && decide (i ≤ maxItems)) = true := by
    simp only [Bool.and_eq_true, decide_eq_true_eq]
    omega
  have hguard : (decide (leaves.length = 0) || decide (leaves.length ≤ i) ||
      decide (64 < (((hashTree pk).auditPath leaves i).map fun b => Json.str (hex b)).length)) = false := by
    simp only [List.length_map, Bool.or_eq_false_iff, decide_eq_false_iff_not]
    omega
  have hroot : hexBytes (.str (hex (merkleRoot pk leaves))) 32 = .ok (merkleRoot pk leaves) := by
    refine hexBytes_hex ?_
    rw [merkleRoot_eq]
    exact rootOf_length hlen hl
  rw [hpath, inclusion, hbound]
  simp only [hguard, hmap, hrecompute, hroot, Incident.require, if_true, bind, Except.bind, pure, Except.pure, decide_true,
    Bool.false_eq_true, if_false]

theorem inclusion_sound (hlen : ∀ b, (pk.sha256 b).length = 32) {leaves : List Bytes} (hl : ∀ l ∈ leaves, l.length = 32)
    {i : ℕ} (hi : i < leaves.length) {leaf : Bytes} {path : Json}
    (h : inclusion pk leaf i leaves.length path (.str (hex (merkleRoot pk leaves))) = .ok true) :
    (leaf = leaves[i] ∧ path = .arr ((auditPath.siblings pk leaves i).map .str)) ∨
      Collision pk (rootInputs pk leaves) (inclusionInputs pk leaf i leaves.length path) := by
  obtain ⟨siblings, rfl, hlengths, hr⟩ := inclusion_true h
  rw [merkleRoot_eq] at hr
  rcases TreeHash.recompute_sound hi hr with ⟨hleaf, hpath⟩ | ⟨p, hp, q, hq, hne, he⟩
  · left
    rw [List.getElem?_eq_getElem hi, Option.map_some] at hleaf
    rw [List.append_nil] at hpath
    refine ⟨(Option.some.inj hleaf).symm, ?_⟩
    rw [siblings_eq, List.map_map, ← hpath]
    rfl
  · right
    refine ⟨_, List.mem_map_of_mem hp, _, List.mem_map_of_mem (by rwa [siblingsOf_map]), fun hbytes => hne ?_, he⟩
    obtain ⟨h1, h2⟩ := pairsOf_length hlen hl hp
    have hpair := (List.cons.inj hbytes).2
    have hsum := congrArg List.length hpair
    rw [List.length_append, List.length_append] at hsum
    have hq1 : q.1.length = 32 := by
      rcases TreeHash.foldedPairs_sibling hq with hs | hs
      · exact hlengths _ hs
      · have := hlengths _ hs
        omega
    obtain ⟨e1, e2⟩ := List.append_inj hpair (h1.trans hq1.symm)
    exact Prod.ext e1 e2

/-- The audit path of a leaf in a tree of at most 10000 is accepted, nothing else is unless two inputs of SHA-256
    collide, and for more leaves every proof is an input error. -/
theorem inclusion_audit_path (hlen : ∀ b, (pk.sha256 b).length = 32) (leaves : List Bytes) (hl : ∀ l ∈ leaves, l.length = 32)
    (i : ℕ) (hi : i < leaves.length) :
    ∃ p, auditPath pk leaves i = .ok p ∧
      (leaves.length ≤ maxItems →
        inclusion pk leaves[i] i leaves.length (.arr (p.map .str)) (.str (hex (merkleRoot pk leaves))) = .ok true) ∧
      (∀ leaf path, inclusion pk leaf i leaves.length path (.str (hex (merkleRoot pk leaves))) = .ok true →
        (leaf = leaves[i] ∧ path = .arr (p.map .str)) ∨
          Collision pk (rootInputs pk leaves) (inclusionInputs pk leaf i leaves.length path)) ∧
      (∀ leaf items, items.length ≠ p.length →
        inclusion pk leaf i leaves.length (.arr items) (.str (hex (merkleRoot pk leaves))) ≠ .ok true) ∧
      (maxItems < leaves.length → ∀ leaf path root,
        inclusion pk leaf i leaves.length path root = inputError "Expected a bounded nonnegative integer") := by
  have hp : auditPath pk leaves i = .ok (auditPath.siblings pk leaves i) := by rw [auditPath, if_pos hi]
  refine ⟨_, hp, inclusion_complete hlen hl hi, fun leaf path h => inclusion_sound hlen hl hi h,
    fun leaf items hne h => hne (inclusion_length hi hp h), fun hsize leaf path root => ?_⟩
  unfold inclusion
  rw [decide_eq_false (Nat.not_le_of_lt hsize)]
  rfl

/-! ## A small instance -/

def sampleLeaves : List Bytes := [List.replicate 32 0, List.replicate 32 1]

/-- Packages with the digest of the pair of the sample leaves. -/
def sampleHasher : Packages :=
  { Incident.samplePackages with
    sha256 := fun b =>
      if b = 1 :: (List.replicate 32 0 ++ List.replicate 32 1) then
        (unhex "2ad82c3a51e8ed6418cb5bf267c5f9e521b99f7ab4fce657f460a8f1a3e87b2e").getD []
      else List.replicate 32 0 }

theorem sampleHasher_length (b : Bytes) : (sampleHasher.sha256 b).length = 32 := by
  rw [sampleHasher]
  dsimp only
  split_ifs
  · decide +kernel
  · rfl

theorem sample_inclusion_audit_path : ∃ p, auditPath sampleHasher sampleLeaves 0 = .ok p ∧
    inclusion sampleHasher (List.replicate 32 0) 0 2 (.arr (p.map .str)) (.str (hex (merkleRoot sampleHasher sampleLeaves))) =
      .ok true ∧ p.length = 1 := by
  obtain ⟨p, hp, hcomplete, -⟩ := inclusion_audit_path sampleHasher_length sampleLeaves (by decide) 0 (by decide)
  have hlength : p.length = 1 := by
    rw [auditPath, if_pos (by decide)] at hp
    cases hp
    rw [siblings_eq, TreeHash.auditPath_left _ (by decide) (by decide), List.length_map, List.length_append,
      show sampleLeaves.take (splitPoint sampleLeaves.length) = [List.replicate 32 0] by decide, TreeHash.auditPath_leaf]
    rfl
  exact ⟨p, hp, hcomplete (by decide), hlength⟩

/-- One leaf more than a natural number may count. -/
def oversizedLeaves : List Bytes := List.replicate 10001 (List.replicate 32 0)

/-- Past the bound even the audit path of a leaf is not accepted. -/
theorem oversized_inclusion : oversizedLeaves[0]? = some (List.replicate 32 0) ∧
    ∃ p, auditPath sampleHasher oversizedLeaves 0 = .ok p ∧
      inclusion sampleHasher (List.replicate 32 0) 0 oversizedLeaves.length (.arr (p.map .str))
        (.str (hex (merkleRoot sampleHasher oversizedLeaves))) ≠ .ok true := by
  have hsize : oversizedLeaves.length = 10001 := List.length_replicate
  refine ⟨List.getElem?_replicate_of_lt (by decide), _, by rw [auditPath, if_pos (by omega)], ?_⟩
  unfold inclusion
  rw [decide_eq_false (show ¬ oversizedLeaves.length ≤ maxItems by rw [hsize]; decide)]
  exact fun h => nomatch h

end VapEvidence.Scope
