import VapEvidence.Fallible
import VapEvidence.JsonRoundTrip

set_option autoImplicit false

/-!
# What scanning preserves

A property of values that the scanner and its hooks build up from parts holds of
every value that is read; and what hooks that accept less read, others read as well.
-/
namespace VapEvidence
open Json

structure Closed (h : Hooks) (P : Json → Prop) : Prop where
  null : P .null
  bool : ∀ b, P (.bool b)
  str : ∀ s, P (.str s)
  arr : ∀ xs, (∀ x ∈ xs, P x) → P (.arr xs)
  parseInt : ∀ t v, h.parseInt t = .ok v → P v
  parseFloat : ∀ t v, h.parseFloat t = .ok v → P v
  parseConstant : ∀ t v, h.parseConstant t = .ok v → P v
  objectPairs : ∀ ms v, (∀ m ∈ ms, P m.2) → h.objectPairs ms = .ok v → P v

section
variable {h : Hooks} {P : Json → Prop} (hp : Closed h P)
include hp

theorem scanScalar_closed {s : List Char} {v : Json} {r : List Char}
    (hs : scanScalar h s = .ok (v, r)) : P v := by
  unfold scanScalar scanToken scanNumber at hs
  split at hs
  · next o ho =>
    split at ho
    · cases ho; cases hs; exact hp.null
    · split at ho
      · cases ho; cases hs; exact hp.bool _
      · split at ho
        · cases ho; cases hs; exact hp.bool _
        · split at ho
          · cases ho; obtain ⟨a, ha, he⟩ := map_ok hs; cases he; exact hp.parseConstant _ _ ha
          · split at ho
            · cases ho; obtain ⟨a, ha, he⟩ := map_ok hs; cases he; exact hp.parseConstant _ _ ha
            · split at ho
              · cases ho; obtain ⟨a, ha, he⟩ := map_ok hs; cases he; exact hp.parseConstant _ _ ha
              · cases ho
  · split at hs
    · cases hs
    · split at hs
      · split at hs <;>
          (obtain ⟨a, ha, he⟩ := map_ok hs; cases he; exact hp.parseFloat _ _ ha)
      · split at hs
        · obtain ⟨a, ha, he⟩ := map_ok hs; cases he; exact hp.parseFloat _ _ ha
        · obtain ⟨a, ha, he⟩ := map_ok hs; cases he; exact hp.parseInt _ _ ha

theorem scan_closed (n : ℕ) :
    (∀ s v r, scanOnce h n s = .ok (v, r) → P v) ∧
    (∀ s ms r, scanMembers h n s = .ok (ms, r) → ∀ m ∈ ms, P m.2) ∧
    (∀ s xs r, scanElems h n s = .ok (xs, r) → ∀ x ∈ xs, P x) := by
  induction n with
  | zero => exact ⟨fun s v r hs => by simp [scanOnce] at hs, fun s v r hs => by simp [scanMembers] at hs,
      fun s v r hs => by simp [scanElems] at hs⟩
  | succ n ih =>
    obtain ⟨ihv, ihm, ihe⟩ := ih
    refine ⟨?_, ?_, ?_⟩
    · intro s v r hs
      cases s with
      | nil => simp [scanOnce] at hs
      | cons c s =>
        rw [scanOnce] at hs
        split_ifs at hs
        · split at hs
          · cases hs; exact hp.str _
          · cases hs
        · split at hs
          · obtain ⟨a, ha, he⟩ := map_ok hs
            cases he
            exact hp.objectPairs [] _ (by simp) ha
          · obtain ⟨⟨ms, r'⟩, hms, hs⟩ := bind_ok hs
            obtain ⟨w, hw, hs⟩ := bind_ok hs
            cases hs
            exact hp.objectPairs ms _ (ihm _ _ _ hms) hw
        · split at hs
          · cases hs; exact hp.arr _ (by simp)
          · obtain ⟨⟨xs, r'⟩, hxs, hs⟩ := bind_ok hs
            cases hs
            exact hp.arr _ (ihe _ _ _ hxs)
        · exact scanScalar_closed hp hs
    · intro s ms r hs
      unfold scanMembers at hs
      split at hs
      · split at hs
        · cases hs
        · split at hs
          · obtain ⟨⟨x, r'⟩, hx, hs⟩ := bind_ok hs
            have hv := ihv _ _ _ hx
            dsimp only at hs
            split at hs
            · cases hs; simpa using hv
            · obtain ⟨⟨ns, r''⟩, hns, hs⟩ := bind_ok hs
              cases hs
              intro m hm
              rcases List.mem_cons.1 hm with rfl | hm
              · exact hv
              · exact ihm _ _ _ hns m hm
            · cases hs
          · cases hs
      · cases hs
    · intro s xs r hs
      rw [scanElems] at hs
      obtain ⟨⟨x, r'⟩, hx, hs⟩ := bind_ok hs
      have hv := ihv _ _ _ hx
      dsimp only at hs
      split at hs
      · cases hs; simpa using hv
      · obtain ⟨⟨ys, r''⟩, hys, hs⟩ := bind_ok hs
        cases hs
        intro y hy
        rcases List.mem_cons.1 hy with rfl | hy
        · exact hv
        · exact ihe _ _ _ hys y hy
      · cases hs

theorem loads_closed {s : List Char} {v : Json} (hs : loads h s = .ok v) : P v := by
  unfold loads at hs
  split_ifs at hs
  split at hs
  · cases hs
  · next hv =>
    split_ifs at hs
    cases hs
    exact (scan_closed hp _).1 _ _ _ hv

end

/-! ## Hooks that accept less -/

/-- Whatever the first hooks accept the second ones accept with the same value. -/
structure Narrower (h h' : Hooks) : Prop where
  parseInt : ∀ t v, h.parseInt t = .ok v → h'.parseInt t = .ok v
  parseFloat : ∀ t v, h.parseFloat t = .ok v → h'.parseFloat t = .ok v
  parseConstant : ∀ t v, h.parseConstant t = .ok v → h'.parseConstant t = .ok v
  objectPairs : ∀ ms v, h.objectPairs ms = .ok v → h'.objectPairs ms = .ok v

theorem map_narrower {α β : Type} {x y : Except String α} (hxy : ∀ a, x = .ok a → y = .ok a) {f : α → β} {b : β}
    (hx : x.map f = .ok b) : y.map f = .ok b := by
  obtain ⟨a, ha, rfl⟩ := map_ok hx
  rw [hxy a ha]
  rfl

section
variable {h h' : Hooks} (hn : Narrower h h')
include hn

theorem scanNumber_narrower {s : List Char} {v : Json} {r : List Char} (hs : scanNumber h s = .ok (v, r)) :
    scanNumber h' s = .ok (v, r) := by
  unfold scanNumber at hs ⊢
  cases hi : scanInteger s with
  | none =>
    rw [hi] at hs
    cases hs
  | some i =>
    obtain ⟨t, r⟩ := i
    rw [hi] at hs
    dsimp only at hs ⊢
    cases hf : scanFraction r with
    | none =>
      rw [hf] at hs
      dsimp only at hs ⊢
      cases he : scanExponent r with
      | none =>
        rw [he] at hs
        exact map_narrower (hn.parseInt t) hs
      | some e =>
        rw [he] at hs
        exact map_narrower (hn.parseFloat _) hs
    | some f =>
      obtain ⟨f, r⟩ := f
      rw [hf] at hs
      dsimp only at hs ⊢
      cases he : scanExponent r with
      | none =>
        rw [he] at hs
        exact map_narrower (hn.parseFloat _) hs
      | some e =>
        rw [he] at hs
        exact map_narrower (hn.parseFloat _) hs

theorem scanScalar_narrower {s : List Char} {v : Json} {r : List Char} (hs : scanScalar h s = .ok (v, r)) :
    scanScalar h' s = .ok (v, r) := by
  unfold scanScalar scanToken at hs ⊢
  cases h₁ : token? "null".toList s with
  | some q => simpa only [h₁] using hs
  | none =>
  cases h₂ : token? "true".toList s with
  | some q => simpa only [h₁, h₂] using hs
  | none =>
  cases h₃ : token? "false".toList s with
  | some q => simpa only [h₁, h₂, h₃] using hs
  | none =>
  cases h₄ : token? "NaN".toList s with
  | some q =>
    simp only [h₁, h₂, h₃, h₄] at hs ⊢
    exact map_narrower (hn.parseConstant _) hs
  | none =>
  cases h₅ : token? "Infinity".toList s with
  | some q =>
    simp only [h₁, h₂, h₃, h₄, h₅] at hs ⊢
    exact map_narrower (hn.parseConstant _) hs
  | none =>
  cases h₆ : token? "-Infinity".toList s with
  | some q =>
    simp only [h₁, h₂, h₃, h₄, h₅, h₆] at hs ⊢
    exact map_narrower (hn.parseConstant _) hs
  | none =>
    simp only [h₁, h₂, h₃, h₄, h₅, h₆] at hs ⊢
    exact scanNumber_narrower hn hs

theorem scan_narrower (n : ℕ) :
    (∀ s x, scanOnce h n s = .ok x → scanOnce h' n s = .ok x) ∧
    (∀ s x, scanMembers h n s = .ok x → scanMembers h' n s = .ok x) ∧
    (∀ s x, scanElems h n s = .ok x → scanElems h' n s = .ok x) := by
  induction n with
  | zero => exact ⟨fun s x hs => by simp [scanOnce] at hs, fun s x hs => by simp [scanMembers] at hs,
      fun s x hs => by simp [scanElems] at hs⟩
  | succ n ih =>
    obtain ⟨ihv, ihm, ihe⟩ := ih
    refine ⟨?_, ?_, ?_⟩
    · intro s x hs
      cases s with
      | nil => simp [scanOnce] at hs
      | cons c s =>
        rw [scanOnce] at hs ⊢
        split_ifs at hs ⊢
        · exact hs
        · split at hs
          · exact map_narrower (hn.objectPairs []) hs
          · obtain ⟨ms, hms, hs⟩ := bind_ok hs
            obtain ⟨w, hw, hs⟩ := bind_ok hs
            rw [ihm _ _ hms]
            dsimp only [bind, Except.bind]
            rw [hn.objectPairs _ _ hw]
            exact hs
        · split at hs
          · exact hs
          · obtain ⟨xs, hxs, hs⟩ := bind_ok hs
            rw [ihe _ _ hxs]
            exact hs
        · exact scanScalar_narrower hn hs
    · intro s x hs
      unfold scanMembers at hs ⊢
      split at hs
      · split at hs
        · cases hs
        · dsimp only
          split at hs
          · obtain ⟨m, hm, hs⟩ := bind_ok hs
            rw [ihv _ _ hm]
            dsimp only [bind, Except.bind] at hs ⊢
            split at hs
            · exact hs
            · obtain ⟨ns, hns, hs⟩ := bind_ok hs
              rw [ihm _ _ hns]
              exact hs
            · cases hs
          · cases hs
      · cases hs
    · intro s x hs
      rw [scanElems] at hs ⊢
      obtain ⟨y, hy, hs⟩ := bind_ok hs
      rw [ihv _ _ hy]
      dsimp only [bind, Except.bind] at hs ⊢
      split at hs
      · exact hs
      · obtain ⟨ys, hys, hs⟩ := bind_ok hs
        rw [ihe _ _ hys]
        exact hs
      · cases hs

theorem loads_narrower {s : List Char} {v : Json} (hs : loads h s = .ok v) : loads h' s = .ok v := by
  unfold loads at hs ⊢
  split_ifs at hs ⊢
  split at hs
  · cases hs
  · next hv =>
    rw [(scan_narrower hn _).1 _ _ hv]
    exact hs

end
end VapEvidence
