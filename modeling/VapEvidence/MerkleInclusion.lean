import VapEvidence.MerkleTree

set_option autoImplicit false

/-!
# Audit paths in hash trees

The path of a leaf lists the roots beside it, the innermost first. Folding the path
over the leaf gives the root of the list, and a path that folds to that root is the
leaf's own, or two different pairs have one hash.
-/
namespace VapEvidence.Merkle
variable {D H : Type}

/-! ## Positions -/

theorem length_left {ds : List D} (h : 2 ≤ ds.length) : (ds.take (splitPoint ds.length)).length = splitPoint ds.length := by
  rw [List.length_take, Nat.min_eq_left (Nat.le_of_lt (splitPoint_lt h))]

theorem lt_left {ds : List D} {i : ℕ} (h : 2 ≤ ds.length) (hi : i < splitPoint ds.length) :
    i < (ds.take (splitPoint ds.length)).length := by
  rwa [length_left h]

theorem lt_right {ds : List D} {i : ℕ} (h : i < ds.length) (hi : ¬ i < splitPoint ds.length) :
    i - splitPoint ds.length < (ds.drop (splitPoint ds.length)).length := by
  rw [List.length_drop]
  omega

/-- A position of a list lies in the left or in the right part, down to a single leaf. -/
theorem position_induction {P : (ds : List D) → (i : ℕ) → i < ds.length → Prop} (leaf : ∀ d h, P [d] 0 h)
    (left : ∀ ds i h (hl : 2 ≤ ds.length) (hi : i < splitPoint ds.length),
      P (ds.take (splitPoint ds.length)) i (lt_left hl hi) → P ds i h)
    (right : ∀ ds i h (_ : 2 ≤ ds.length) (hi : ¬ i < splitPoint ds.length),
      P (ds.drop (splitPoint ds.length)) (i - splitPoint ds.length) (lt_right h hi) → P ds i h)
    (ds : List D) (i : ℕ) (h : i < ds.length) : P ds i h := by
  induction hn : ds.length using Nat.strongRecOn generalizing ds i with
  | _ n ih =>
    subst hn
    by_cases hl : 2 ≤ ds.length
    · have hlt := splitPoint_lt hl
      have hpos := splitPoint_pos ds.length
      by_cases hi : i < splitPoint ds.length
      · refine left ds i h hl hi (ih _ ?_ _ i _ rfl)
        rwa [length_left hl]
      · refine right ds i h hl hi (ih _ ?_ _ _ _ rfl)
        rw [List.length_drop]
        omega
    · match ds, i, h, hl with
      | [d], 0, h, _ => exact leaf d h
      | _ :: _ :: _, _, _, hl => exact absurd (by simp) hl

theorem get_left {ds : List D} {i : ℕ} (h : i < splitPoint ds.length) : (ds.take (splitPoint ds.length))[i]? = ds[i]? :=
  List.getElem?_take_of_lt h

theorem get_right {ds : List D} {i : ℕ} (h : ¬ i < splitPoint ds.length) :
    (ds.drop (splitPoint ds.length))[i - splitPoint ds.length]? = ds[i]? := by
  rw [List.getElem?_drop, Nat.add_sub_cancel' (Nat.le_of_not_lt h)]

/-! ## Paths -/

namespace TreeHash
variable (h : TreeHash D H)

/-- The root of the tree over a list. -/
def rootOf (ds : List D) : H := h.root (.ofList ds)

theorem rootOf_split {ds : List D} (hl : 2 ≤ ds.length) :
    h.rootOf ds = h.node (h.rootOf (ds.take (splitPoint ds.length))) (h.rootOf (ds.drop (splitPoint ds.length))) :=
  h.root_split hl

/-- The pairs that the tree over a list hashes together. -/
def pairs : Tree D → List (H × H)
  | .empty => []
  | .leaf _ => []
  | .node l r => (h.root l, h.root r) :: (pairs l ++ pairs r)

def pairsOf (ds : List D) : List (H × H) := h.pairs (.ofList ds)

theorem pairsOf_split {ds : List D} (hl : 2 ≤ ds.length) : h.pairsOf ds =
    (h.rootOf (ds.take (splitPoint ds.length)), h.rootOf (ds.drop (splitPoint ds.length))) ::
      (h.pairsOf (ds.take (splitPoint ds.length)) ++ h.pairsOf (ds.drop (splitPoint ds.length))) := by
  rw [pairsOf, Tree.ofList_split hl]
  rfl

/-- The roots beside the leaf at a position, the innermost first. -/
def auditPath (ds : List D) (i : ℕ) : List H :=
  if _h : 2 ≤ ds.length then
    if i < splitPoint ds.length then
      auditPath (ds.take (splitPoint ds.length)) i ++ [h.rootOf (ds.drop (splitPoint ds.length))]
    else
      auditPath (ds.drop (splitPoint ds.length)) (i - splitPoint ds.length) ++ [h.rootOf (ds.take (splitPoint ds.length))]
  else []
termination_by ds.length
decreasing_by
  · have := splitPoint_lt _h
    rw [List.length_take]
    omega
  · have := splitPoint_pos ds.length
    rw [List.length_drop]
    omega

theorem auditPath_leaf (d : D) (i : ℕ) : h.auditPath [d] i = [] := by
  rw [auditPath, dif_neg (by simp)]

theorem auditPath_left {ds : List D} {i : ℕ} (hl : 2 ≤ ds.length) (hi : i < splitPoint ds.length) :
    h.auditPath ds i = h.auditPath (ds.take (splitPoint ds.length)) i ++ [h.rootOf (ds.drop (splitPoint ds.length))] := by
  rw [auditPath, dif_pos hl, if_pos hi]

theorem auditPath_right {ds : List D} {i : ℕ} (hl : 2 ≤ ds.length) (hi : ¬ i < splitPoint ds.length) :
    h.auditPath ds i =
      h.auditPath (ds.drop (splitPoint ds.length)) (i - splitPoint ds.length) ++ [h.rootOf (ds.take (splitPoint ds.length))] := by
  rw [auditPath, dif_pos hl, if_neg hi]

/-- One level up: a hash of the child with the next sibling. -/
def climb (combine : H → H → H) : H × List H → Option (H × List H)
  | (_, []) => none
  | (child, sibling :: rest) => some (combine child sibling, rest)

/-- The root of a tree of `n` leaves with `x` at a position, and what is left of the path. -/
def recompute (x : H) (i n : ℕ) (path : List H) : Option (H × List H) :=
  if _h : 2 ≤ n then
    if i < splitPoint n then (recompute x i (splitPoint n) path).bind (climb h.node)
    else (recompute x (i - splitPoint n) (n - splitPoint n) path).bind (climb fun child sibling => h.node sibling child)
  else some (x, path)
termination_by n
decreasing_by
  · exact splitPoint_lt _h
  · have := splitPoint_pos n
    omega

variable {h} {x : H} {i n : ℕ} {path rest : List H}

theorem recompute_leaf (hn : ¬ 2 ≤ n) : h.recompute x i n path = some (x, path) := by
  rw [recompute, dif_neg hn]

theorem recompute_left (hn : 2 ≤ n) (hi : i < splitPoint n) :
    h.recompute x i n path = (h.recompute x i (splitPoint n) path).bind (climb h.node) := by
  rw [recompute, dif_pos hn, if_pos hi]

theorem recompute_right (hn : 2 ≤ n) (hi : ¬ i < splitPoint n) :
    h.recompute x i n path = (h.recompute x (i - splitPoint n) (n - splitPoint n) path).bind
      (climb fun child sibling => h.node sibling child) := by
  rw [recompute, dif_pos hn, if_neg hi]

theorem bind_climb {o : Option (H × List H)} {combine : H → H → H} {r : H} (ho : o.bind (climb combine) = some (r, rest)) :
    ∃ child sibling, o = some (child, sibling :: rest) ∧ combine child sibling = r := by
  obtain ⟨⟨child, siblings⟩, rfl, hc⟩ := Option.bind_eq_some_iff.1 ho
  cases siblings with
  | nil => cases hc
  | cons sibling siblings =>
    cases hc
    exact ⟨child, sibling, rfl, rfl⟩

/-! ## Completeness -/

/-- The path of a leaf folds to the root. -/
theorem recompute_auditPath {ds : List D} (hi : i < ds.length) {d : D} (hd : ds[i]? = some d) :
    h.recompute (h.leaf d) i ds.length (h.auditPath ds i ++ rest) = some (h.rootOf ds, rest) := by
  induction ds, i, hi using position_induction generalizing rest with
  | leaf d' _ =>
    cases hd
    rw [recompute_leaf (by simp), auditPath_leaf, rootOf, Tree.ofList_singleton]
    rfl
  | left ds i _ hl hi ih =>
    rw [get_left hi, length_left hl] at ih
    rw [recompute_left hl hi, auditPath_left h hl hi, List.append_assoc, ih hd, rootOf_split h hl]
    rfl
  | right ds i _ hl hi ih =>
    rw [get_right hi, List.length_drop] at ih
    rw [recompute_right hl hi, auditPath_right h hl hi, List.append_assoc, ih hd, rootOf_split h hl]
    rfl

/-! ## Lengths -/

/-- Folding takes as many siblings from any path. -/
theorem recompute_length {ds : List D} (hi : i < ds.length) {r : H} (hr : h.recompute x i ds.length path = some (r, rest)) :
    path.length = (h.auditPath ds i).length + rest.length := by
  induction ds, i, hi using position_induction generalizing r rest with
  | leaf d _ =>
    rw [recompute_leaf (by simp)] at hr
    cases hr
    rw [auditPath_leaf, List.length_nil, Nat.zero_add]
  | left ds i _ hl hi ih =>
    rw [recompute_left hl hi] at hr
    obtain ⟨child, sibling, ho, -⟩ := bind_climb hr
    rw [length_left hl] at ih
    have hlength := ih ho
    rw [auditPath_left h hl hi, List.length_append, List.length_singleton]
    rw [List.length_cons] at hlength
    omega
  | right ds i _ hl hi ih =>
    rw [recompute_right hl hi] at hr
    obtain ⟨child, sibling, ho, -⟩ := bind_climb hr
    rw [List.length_drop] at ih
    have hlength := ih ho
    rw [auditPath_right h hl hi, List.length_append, List.length_singleton]
    rw [List.length_cons] at hlength
    omega

theorem splitPoint_le {n b : ℕ} (hn : 2 ≤ n) (hb : n ≤ 2 ^ b) : 1 ≤ b ∧ splitPoint n ≤ 2 ^ (b - 1) := by
  have hlt := splitPoint_lt hn
  rw [splitPoint] at hlt ⊢
  have hlog := (Nat.pow_lt_pow_iff_right (by decide : 1 < 2)).1 (Nat.lt_of_lt_of_le hlt hb)
  exact ⟨by omega, Nat.pow_le_pow_right (by decide) (by omega)⟩

/-- A list of at most `2 ^ b` leaves has paths of at most `b` siblings. -/
theorem auditPath_length_le {ds : List D} (hi : i < ds.length) {b : ℕ} (hb : ds.length ≤ 2 ^ b) :
    (h.auditPath ds i).length ≤ b := by
  induction ds, i, hi using position_induction generalizing b with
  | leaf d _ =>
    rw [auditPath_leaf]
    exact Nat.zero_le b
  | left ds i _ hl hi ih =>
    obtain ⟨hpos, hle⟩ := splitPoint_le hl hb
    rw [length_left hl] at ih
    have hlength := ih hle
    rw [auditPath_left h hl hi, List.length_append, List.length_singleton]
    omega
  | right ds i _ hl hi ih =>
    obtain ⟨hpos, hle⟩ := splitPoint_le hl hb
    have htwo := le_two_mul_splitPoint hl
    rw [List.length_drop] at ih
    have hlength := ih (show ds.length - splitPoint ds.length ≤ 2 ^ (b - 1) by omega)
    rw [auditPath_right h hl hi, List.length_append, List.length_singleton]
    omega

/-! ## Soundness -/

/-- The pair hashed on the way up, the sibling on the right. -/
def onto : Option (H × List H) → List (H × H)
  | some (child, sibling :: _) => [(child, sibling)]
  | _ => []

/-- The pairs that folding a path hashes together. -/
def foldedPairs (h : TreeHash D H) (x : H) (i n : ℕ) (path : List H) : List (H × H) :=
  if _h : 2 ≤ n then
    if i < splitPoint n then onto (h.recompute x i (splitPoint n) path) ++ foldedPairs h x i (splitPoint n) path
    else (onto (h.recompute x (i - splitPoint n) (n - splitPoint n) path)).map Prod.swap ++
      foldedPairs h x (i - splitPoint n) (n - splitPoint n) path
  else []
termination_by n
decreasing_by
  · exact splitPoint_lt _h
  · have := splitPoint_pos n
    omega

theorem foldedPairs_left (hn : 2 ≤ n) (hi : i < splitPoint n) : foldedPairs h x i n path =
    onto (h.recompute x i (splitPoint n) path) ++ foldedPairs h x i (splitPoint n) path := by
  rw [foldedPairs, dif_pos hn, if_pos hi]

theorem foldedPairs_right (hn : 2 ≤ n) (hi : ¬ i < splitPoint n) : foldedPairs h x i n path =
    (onto (h.recompute x (i - splitPoint n) (n - splitPoint n) path)).map Prod.swap ++
      foldedPairs h x (i - splitPoint n) (n - splitPoint n) path := by
  rw [foldedPairs, dif_pos hn, if_neg hi]

/-- Two different pairs, one from either list, with one hash. -/
def PairCollision (h : TreeHash D H) (ps qs : List (H × H)) : Prop :=
  ∃ p ∈ ps, ∃ q ∈ qs, p ≠ q ∧ h.node p.1 p.2 = h.node q.1 q.2

theorem PairCollision.mono {ps ps' qs qs' : List (H × H)} (hc : h.PairCollision ps qs) (hp : ps ⊆ ps') (hq : qs ⊆ qs') :
    h.PairCollision ps' qs' := by
  obtain ⟨p, hpm, q, hqm, hne, he⟩ := hc
  exact ⟨p, hp hpm, q, hq hqm, hne, he⟩

/-- What folds to the root of a list is the leaf at its position with its path, or there is a collision. -/
theorem recompute_sound {ds : List D} (hi : i < ds.length) (hr : h.recompute x i ds.length path = some (h.rootOf ds, rest)) :
    (ds[i]?.map h.leaf = some x ∧ path = h.auditPath ds i ++ rest) ∨
      h.PairCollision (h.pairsOf ds) (foldedPairs h x i ds.length path) := by
  induction ds, i, hi using position_induction generalizing rest with
  | leaf d _ =>
    rw [recompute_leaf (by simp), rootOf, Tree.ofList_singleton] at hr
    cases hr
    exact Or.inl ⟨rfl, by rw [auditPath_leaf]; rfl⟩
  | left ds i _ hl hi ih =>
    rw [recompute_left hl hi] at hr
    obtain ⟨child, sibling, ho, he⟩ := bind_climb hr
    rw [length_left hl, get_left hi] at ih
    rw [rootOf_split h hl] at he
    rw [pairsOf_split h hl, foldedPairs_left hl hi, ho]
    by_cases heq : (h.rootOf (ds.take (splitPoint ds.length)), h.rootOf (ds.drop (splitPoint ds.length))) = (child, sibling)
    · obtain ⟨rfl, rfl⟩ := Prod.mk.inj heq
      rcases ih ho with ⟨hx, hp⟩ | hc
      · refine Or.inl ⟨hx, ?_⟩
        rw [auditPath_left h hl hi, List.append_assoc, hp]
        rfl
      · exact Or.inr (hc.mono (fun p hp => List.mem_cons_of_mem _ (List.mem_append_left _ hp))
          fun q hq => List.mem_append_right _ hq)
    · exact Or.inr ⟨_, List.mem_cons_self, _, List.mem_append_left _ (List.mem_singleton_self _), heq, he.symm⟩
  | right ds i _ hl hi ih =>
    rw [recompute_right hl hi] at hr
    obtain ⟨child, sibling, ho, he⟩ := bind_climb hr
    rw [List.length_drop, get_right hi] at ih
    rw [rootOf_split h hl] at he
    rw [pairsOf_split h hl, foldedPairs_right hl hi, ho]
    by_cases heq : (h.rootOf (ds.take (splitPoint ds.length)), h.rootOf (ds.drop (splitPoint ds.length))) = (sibling, child)
    · obtain ⟨rfl, rfl⟩ := Prod.mk.inj heq
      rcases ih ho with ⟨hx, hp⟩ | hc
      · refine Or.inl ⟨hx, ?_⟩
        rw [auditPath_right h hl hi, List.append_assoc, hp]
        rfl
      · exact Or.inr (hc.mono (fun p hp => List.mem_cons_of_mem _ (List.mem_append_right _ hp))
          fun q hq => List.mem_append_right _ hq)
    · exact Or.inr ⟨_, List.mem_cons_self, _, List.mem_append_left _ (List.mem_singleton_self _), heq, he.symm⟩

/-- What is left of a path is among it. -/
theorem recompute_rest {r : H} (hr : h.recompute x i n path = some (r, rest)) : rest ⊆ path := by
  fun_induction recompute h x i n path generalizing r rest with
  | case1 i n hn hi ih =>
    obtain ⟨child, sibling, ho, -⟩ := bind_climb hr
    exact fun s hs => ih ho (List.mem_cons_of_mem _ hs)
  | case2 i n hn hi ih =>
    obtain ⟨child, sibling, ho, -⟩ := bind_climb hr
    exact fun s hs => ih ho (List.mem_cons_of_mem _ hs)
  | case3 =>
    cases hr
    exact List.Subset.refl _

theorem mem_onto {o : Option (H × List H)} {p : H × H} (hp : p ∈ onto o) : ∃ rest, o = some (p.1, p.2 :: rest) := by
  match o, hp with
  | some (child, sibling :: rest), hp =>
    obtain rfl := List.mem_singleton.1 hp
    exact ⟨rest, rfl⟩

/-- A pair that is hashed on the way up holds a sibling of the path. -/
theorem foldedPairs_sibling {p : H × H} (hp : p ∈ foldedPairs h x i n path) : p.1 ∈ path ∨ p.2 ∈ path := by
  fun_induction foldedPairs h x i n path with
  | case1 i n hn hi ih =>
    rcases List.mem_append.1 hp with hp | hp
    · obtain ⟨rest, ho⟩ := mem_onto hp
      exact Or.inr (recompute_rest ho List.mem_cons_self)
    · exact ih hp
  | case2 i n hn hi ih =>
    rcases List.mem_append.1 hp with hp | hp
    · obtain ⟨q, hq, rfl⟩ := List.mem_map.1 hp
      obtain ⟨rest, ho⟩ := mem_onto hq
      exact Or.inl (recompute_rest ho List.mem_cons_self)
    · exact ih hp
  | case3 => exact absurd hp List.not_mem_nil

end TreeHash
end VapEvidence.Merkle
