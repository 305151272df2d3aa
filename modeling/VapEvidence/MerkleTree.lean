import Mathlib.Algebra.GroupWithZero.Nat
import Mathlib.Data.List.Basic

set_option autoImplicit false

/-!
# Hash trees over lists

The tree of a list splits it at the largest power of two below its length. Equal
roots mean equal lists, or two different inputs of the trees' own hashes with one
digest.
-/
namespace VapEvidence.Merkle

/-- The hash functions of a tree with data in `D` and digests in `H`. -/
structure TreeHash (D H : Type) where
  empty : H
  leaf : D → H
  node : H → H → H

/-- What one hash of a tree is applied to. -/
inductive HashInput (D H : Type) where
  | empty
  | leaf (d : D)
  | node (l r : H)

inductive Tree (D : Type) where
  | empty
  | leaf (d : D)
  | node (l r : Tree D)

variable {D H : Type}

namespace TreeHash
variable (h : TreeHash D H)

def hash : HashInput D H → H
  | .empty => h.empty
  | .leaf d => h.leaf d
  | .node l r => h.node l r

def root : Tree D → H
  | .empty => h.empty
  | .leaf d => h.leaf d
  | .node l r => h.node (root l) (root r)

/-- The input of the hash that gives the root. -/
def top : Tree D → HashInput D H
  | .empty => .empty
  | .leaf d => .leaf d
  | .node l r => .node (h.root l) (h.root r)

/-- The inputs of every hash in the tree. -/
def inputs : Tree D → List (HashInput D H)
  | .empty => [.empty]
  | .leaf d => [.leaf d]
  | .node l r => .node (h.root l) (h.root r) :: (inputs l ++ inputs r)

/-- Two different inputs, one from either list, with one digest. -/
def Collision (is js : List (HashInput D H)) : Prop :=
  ∃ i ∈ is, ∃ j ∈ js, i ≠ j ∧ h.hash i = h.hash j

theorem hash_top (t : Tree D) : h.hash (h.top t) = h.root t := by cases t <;> rfl

theorem top_mem (t : Tree D) : h.top t ∈ h.inputs t := by cases t <;> simp [top, inputs]

variable {h}

theorem Collision.mono {is is' js js' : List (HashInput D H)} (hc : h.Collision is js)
    (hi : is ⊆ is') (hj : js ⊆ js') : h.Collision is' js' := by
  obtain ⟨i, him, j, hjm, hne, he⟩ := hc
  exact ⟨i, hi him, j, hj hjm, hne, he⟩

theorem inputs_left (l r : Tree D) : h.inputs l ⊆ h.inputs (.node l r) := fun _ hx =>
  List.mem_cons_of_mem _ (List.mem_append_left _ hx)

theorem inputs_right (l r : Tree D) : h.inputs r ⊆ h.inputs (.node l r) := fun _ hx =>
  List.mem_cons_of_mem _ (List.mem_append_right _ hx)

/-- Trees with one root have the same input on top, or collide there. -/
theorem top_eq_or_collision {s t : Tree D} (hr : h.root s = h.root t) :
    h.top s = h.top t ∨ h.Collision (h.inputs s) (h.inputs t) := by
  by_cases he : h.top s = h.top t
  · exact Or.inl he
  · exact Or.inr ⟨_, h.top_mem s, _, h.top_mem t, he, by rw [hash_top, hash_top, hr]⟩

/-- A root binds its whole tree. -/
theorem binding {s t : Tree D} (hr : h.root s = h.root t) :
    s = t ∨ h.Collision (h.inputs s) (h.inputs t) := by
  induction s generalizing t with
  | empty =>
    rcases top_eq_or_collision hr with he | hc
    · cases t with
      | empty => exact Or.inl rfl
      | leaf d => cases he
      | node l r => cases he
    · exact Or.inr hc
  | leaf d =>
    rcases top_eq_or_collision hr with he | hc
    · cases t with
      | empty => cases he
      | leaf e => cases he; exact Or.inl rfl
      | node l r => cases he
    · exact Or.inr hc
  | node l r ihl ihr =>
    rcases top_eq_or_collision hr with he | hc
    · cases t with
      | empty => cases he
      | leaf e => cases he
      | node l' r' =>
        simp only [top, HashInput.node.injEq] at he
        rcases ihl he.1 with rfl | hc
        · rcases ihr he.2 with rfl | hc
          · exact Or.inl rfl
          · exact Or.inr (hc.mono (inputs_right l r) (inputs_right l r'))
        · exact Or.inr (hc.mono (inputs_left l r) (inputs_left l' r'))
    · exact Or.inr hc

end TreeHash

/-! ## The tree of a list -/

/-- The largest power of two below `n`, for `n` at least two. -/
def splitPoint (n : ℕ) : ℕ := 2 ^ Nat.log2 (n - 1)

theorem splitPoint_pos (n : ℕ) : 0 < splitPoint n := Nat.two_pow_pos _

theorem splitPoint_lt {n : ℕ} (hn : 2 ≤ n) : splitPoint n < n := by
  have := Nat.log2_self_le (show n - 1 ≠ 0 by omega)
  unfold splitPoint
  omega

theorem le_two_mul_splitPoint {n : ℕ} (hn : 2 ≤ n) : n ≤ 2 * splitPoint n := by
  have := @Nat.lt_log2_self (n - 1)
  rw [Nat.pow_succ] at this
  unfold splitPoint
  omega

/-- A power of two between half of `n` and `n` is the split point. -/
theorem eq_splitPoint {n k : ℕ} (h₁ : 2 ^ k < n) (h₂ : n ≤ 2 * 2 ^ k) : 2 ^ k = splitPoint n := by
  have hpos := Nat.two_pow_pos k
  have hk : Nat.log2 (n - 1) = k := by
    rw [Nat.log2_eq_iff (by omega), Nat.pow_succ]
    omega
  rw [splitPoint, hk]

namespace Tree

def leaves : Tree D → List D
  | .empty => []
  | .leaf d => [d]
  | .node l r => leaves l ++ leaves r

def ofList : List D → Tree D
  | [] => .empty
  | [d] => .leaf d
  | d :: e :: ds =>
    .node (ofList ((d :: e :: ds).take (splitPoint (ds.length + 2))))
      (ofList ((d :: e :: ds).drop (splitPoint (ds.length + 2))))
termination_by ds => ds.length
decreasing_by
  · have := splitPoint_lt (show 2 ≤ ds.length + 2 by omega)
    rw [List.length_take, List.length_cons, List.length_cons]
    omega
  · have := splitPoint_pos (ds.length + 2)
    rw [List.length_drop, List.length_cons, List.length_cons]
    omega

theorem ofList_split {ds : List D} (h : 2 ≤ ds.length) :
    ofList ds = .node (ofList (ds.take (splitPoint ds.length))) (ofList (ds.drop (splitPoint ds.length))) := by
  match ds, h with
  | d :: e :: ds, _ => rw [ofList]; rfl

theorem ofList_nil : ofList ([] : List D) = .empty := by rw [ofList]

theorem ofList_singleton (d : D) : ofList [d] = .leaf d := by rw [ofList]

theorem leaves_ofList (ds : List D) : (ofList ds).leaves = ds := by
  fun_induction ofList ds with
  | case1 => rfl
  | case2 => rfl
  | case3 d e ds ih₁ ih₂ => rw [leaves, ih₁, ih₂, List.take_append_drop]

theorem ofList_injective : Function.Injective (@ofList D) := by
  intro xs ys h
  rw [← leaves_ofList xs, h, leaves_ofList]

end Tree

theorem TreeHash.root_split (h : TreeHash D H) {ds : List D} (hl : 2 ≤ ds.length) :
    h.root (.ofList ds) = h.node (h.root (.ofList (ds.take (splitPoint ds.length))))
      (h.root (.ofList (ds.drop (splitPoint ds.length)))) := by
  rw [Tree.ofList_split hl, root]

/-- Equal roots over two lists mean equal lists, or a collision among the inputs of the two trees. -/
theorem TreeHash.list_binding {h : TreeHash D H} {xs ys : List D}
    (hr : h.root (.ofList xs) = h.root (.ofList ys)) :
    xs = ys ∨ h.Collision (h.inputs (.ofList xs)) (h.inputs (.ofList ys)) :=
  (binding hr).imp_left fun he => Tree.ofList_injective he

end VapEvidence.Merkle
