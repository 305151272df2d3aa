import VapEvidence.JsonScan

set_option autoImplicit false

/-!
# String tokens and the reach of the scanner

The spellings a string token may use, one character at a time, and the length of
what each scan leaves over, which bounds the calls the scanner makes.
-/
namespace VapEvidence
open Json

/-- The ways a string token spells one character. -/
inductive Spells : List Char → Char → Prop where
  | plain (c : Char) (hq : c ≠ '"') (hb : c ≠ '\\') (h : ¬c.toNat < 32) : Spells [c] c
  | simple (e ch : Char) (h : simpleEscape e = some ch) : Spells ['\\', e] ch
  | unit (a b c d : Char) (u : ℕ) (ch : Char) (hu : hex4 a b c d = some u)
      (hc : unitChar u = some ch) : Spells ['\\', 'u', a, b, c, d] ch
  | pair (a b c d e f g i : Char) (u : ℕ) (ch : Char) (hu : hex4 a b c d = some u)
      (hn : unitChar u = none) (hc : (hex4 e f g i).bind (pairChar u) = some ch) :
      Spells ['\\', 'u', a, b, c, d, '\\', 'u', e, f, g, i] ch

/-- A string token after its opening quote. -/
inductive StringToken : List Char → List Char → Prop where
  | close : StringToken ['"'] []
  | cons (w : List Char) (ch : Char) (t cs : List Char) (hw : Spells w ch) (ht : StringToken t cs) :
      StringToken (w ++ t) (ch :: cs)

theorem scanString_simple {e ch : Char} (h : simpleEscape e = some ch) (t : List Char) :
    scanString ('\\' :: e :: t) = (scanString t).map fun p => (ch :: p.1, p.2) := by
  have hu : e ≠ 'u' := by
    rintro rfl
    simp [simpleEscape] at h
  rw [scanString.eq_4 e t fun a b c d s he => absurd he hu, h]

theorem scanString_spelled {w : List Char} {ch : Char} (h : Spells w ch) (t : List Char) :
    scanString (w ++ t) = (scanString t).map fun p => (ch :: p.1, p.2) := by
  cases h with
  | plain _ hq hb hc => exact scanString_plain _ t hq hb hc
  | simple e _ he => exact scanString_simple he t
  | unit a b c d u _ hu hc =>
    simp only [List.cons_append, List.nil_append]
    rw [scanString]
    simp only [hu, hc]
  | pair a b c d e f g i u _ hu hn hc =>
    simp only [List.cons_append, List.nil_append]
    rw [scanString]
    simp only [hu, hn, hc]

theorem scanString_token {t cs : List Char} (h : StringToken t cs) (r : List Char) :
    scanString (t ++ r) = some (cs, r) := by
  induction h with
  | close => rfl
  | cons w ch t cs hw _ ih => rw [List.append_assoc, scanString_spelled hw, ih]; rfl

/-- One spelled character in front of text that starts with a token. -/
theorem token_step {w s cs r : List Char} {ch : Char} (hw : Spells w ch)
    (hs : (scanString s).map (fun p => (ch :: p.1, p.2)) = some (cs, r))
    (ih : ∀ {cs r : List Char}, scanString s = some (cs, r) → ∃ t, s = t ++ r ∧ StringToken t cs) :
    ∃ t, w ++ s = t ++ r ∧ StringToken t cs := by
  obtain ⟨p, hp, he⟩ := Option.map_eq_some_iff.1 hs
  cases he
  obtain ⟨t, rfl, ht⟩ := ih hp
  exact ⟨w ++ t, (List.append_assoc w t _).symm, .cons w ch t _ hw ht⟩

theorem token_of_scanString {s cs r : List Char} (h : scanString s = some (cs, r)) :
    ∃ t, s = t ++ r ∧ StringToken t cs := by
  fun_induction scanString s generalizing cs r with
  | case1 => cases h
  | case2 s => cases h; exact ⟨['"'], rfl, .close⟩
  | case3 => cases h
  | case4 a b c d s u hu ch hc ih => exact token_step (.unit a b c d u ch hu hc) h ih
  | case5 a b c d u hu hn e f g i t ch hc ih => exact token_step (.pair a b c d e f g i u ch hu hn hc) h ih
  | case6 => cases h
  | case7 => cases h
  | case8 e s _ ch hc ih => exact token_step (.simple e ch hc) h ih
  | case9 => cases h
  | case10 => cases h
  | case11 c s hq _ hb hc ih =>
    by_cases hs : c = '\\'
    · -- a backslash here is the last character of the text
      cases s with
      | nil => simp [scanString] at h
      | cons e s => exact absurd rfl (hb e s hs)
    · exact token_step (.plain c hq hs hc) h ih

theorem scanString_iff {s cs r : List Char} :
    scanString s = some (cs, r) ↔ ∃ t, s = t ++ r ∧ StringToken t cs := by
  refine ⟨token_of_scanString, ?_⟩
  rintro ⟨t, rfl, ht⟩
  exact scanString_token ht r

theorem StringToken.length_pos {t cs : List Char} (h : StringToken t cs) : 0 < t.length := by
  induction h with
  | close => exact Nat.one_pos
  | cons w ch t cs _ _ ih => rw [List.length_append]; omega

/-! ## What a scan leaves over -/

theorem skipSpace_length (s : List Char) : (skipSpace s).length ≤ s.length := by
  induction s with
  | nil => rfl
  | cons c s ih =>
    rw [skipSpace]
    split_ifs
    · exact Nat.le_succ_of_le ih
    · exact le_rfl

theorem scanString_length {s cs r : List Char} (h : scanString s = some (cs, r)) :
    r.length < s.length := by
  obtain ⟨t, rfl, ht⟩ := token_of_scanString h
  have := ht.length_pos
  rw [List.length_append]
  omega

theorem token?_length {t s r : List Char} (ht : t ≠ []) (h : token? t s = some r) :
    r.length < s.length := by
  unfold token? at h
  split_ifs at h with hp
  obtain ⟨q, rfl⟩ := List.isPrefixOf_iff_prefix.1 hp
  have := List.length_pos_of_ne_nil ht
  cases h
  rw [List.drop_left, List.length_append]
  omega

theorem spanDigits_length {s ds r : List Char} (h : spanDigits s = (ds, r)) :
    r.length + ds.length = s.length := by
  cases h
  rw [Nat.add_comm, ← List.length_append, List.takeWhile_append_dropWhile]

theorem scanInteger_length {s t r : List Char} (h : scanInteger s = some (t, r)) :
    r.length < s.length := by
  have hdigits {d : Char} {u : List Char} {sign : List Char}
      (hd : (if d = '0' then some (sign ++ ['0'], u) else if d.isDigit then
        some (sign ++ d :: (spanDigits u).1, (spanDigits u).2) else none) = some (t, r)) :
      r.length ≤ u.length := by
    split_ifs at hd
    · cases hd; exact le_rfl
    · cases hd
      exact le_of_le_of_eq (Nat.le_add_right _ _) (spanDigits_length rfl)
  unfold scanInteger at h
  split at h
  · next sign r' hs =>
    split at hs
    · cases hs
      split at h
      · cases h
      · exact Nat.lt_succ_of_lt (Nat.lt_succ_of_le (hdigits h))
    · cases hs
      split at h
      · cases h
      · exact Nat.lt_succ_of_le (hdigits h)

theorem scanFraction_length {s t r : List Char} (h : scanFraction s = some (t, r)) :
    r.length < s.length := by
  unfold scanFraction at h
  split at h
  · next d u =>
    split_ifs at h
    cases h
    have := spanDigits_length (s := u) rfl
    simp only [List.length_cons]
    omega
  · cases h

theorem scanExponent_length {s t r : List Char} (h : scanExponent s = some (t, r)) :
    r.length < s.length := by
  unfold scanExponent at h
  split at h
  · next e u =>
    split_ifs at h
    split at h
    next sign v hv =>
    have hle : v.length ≤ u.length := by
      split at hv <;> (cases hv; simp)
    split at h
    · cases h
    · next ds r' _ hd =>
      cases h
      have := spanDigits_length hd
      simp only [List.length_cons]
      omega
  · cases h

theorem bind_congr_ok {ε α β : Type} {m : Except ε α} {f g : α → Except ε β}
    (h : ∀ a, m = .ok a → f a = g a) : (m >>= f) = (m >>= g) := by
  cases m with
  | error e => rfl
  | ok a => exact h a rfl

section Scan
variable {h : Hooks}

theorem scanNumber_length {s r : List Char} {v : Json} (hs : scanNumber h s = .ok (v, r)) :
    r.length < s.length := by
  unfold scanNumber at hs
  split at hs
  · cases hs
  · next t u hi =>
    have hu := scanInteger_length hi
    split at hs
    · next f w hf =>
      have hw := scanFraction_length hf
      split at hs
      · next e x he =>
        have hx := scanExponent_length he
        obtain ⟨_, -, he⟩ := map_ok hs
        cases he
        omega
      · obtain ⟨_, -, he⟩ := map_ok hs
        cases he
        omega
    · split at hs
      · next e x he =>
        have hx := scanExponent_length he
        obtain ⟨_, -, he⟩ := map_ok hs
        cases he
        omega
      · obtain ⟨_, -, he⟩ := map_ok hs
        cases he
        exact hu

theorem scanToken_length {s r : List Char} {v : Json} {x : Except String (Json × List Char)}
    (hs : scanToken h s = some x) (hx : x = .ok (v, r)) : r.length < s.length := by
  have constant {t u : List Char} {f : Json → Json × List Char} {c : Except String Json} (ht : t ≠ [])
      (hu : token? t s = some u) (hf : ∀ w, (f w).2 = u) (hm : c.map f = .ok (v, r)) :
      r.length < s.length := by
    obtain ⟨w, -, hw⟩ := map_ok hm
    have : r = u := by rw [← hf w, hw]
    exact this ▸ token?_length ht hu
  unfold scanToken at hs
  split at hs
  · next u hu => cases hs; cases hx; exact token?_length (by decide) hu
  · split at hs
    · next u hu => cases hs; cases hx; exact token?_length (by decide) hu
    · split at hs
      · next u hu => cases hs; cases hx; exact token?_length (by decide) hu
      · split at hs
        · next u hu => cases hs; exact constant (by decide) hu (fun _ => rfl) hx
        · split at hs
          · next u hu => cases hs; exact constant (by decide) hu (fun _ => rfl) hx
          · split at hs
            · next u hu => cases hs; exact constant (by decide) hu (fun _ => rfl) hx
            · cases hs

theorem scanScalar_length {s r : List Char} {v : Json} (hs : scanScalar h s = .ok (v, r)) :
    r.length < s.length := by
  unfold scanScalar at hs
  split at hs
  · next x hx => exact scanToken_length hx hs
  · exact scanNumber_length hs

theorem scan_length (n : ℕ) :
    (∀ s v r, scanOnce h n s = .ok (v, r) → r.length < s.length) ∧
    (∀ s ms r, scanMembers h n s = .ok (ms, r) → r.length < s.length) ∧
    (∀ s xs r, scanElems h n s = .ok (xs, r) → r.length < s.length) := by
  induction n with
  | zero => exact ⟨fun s v r hs => by simp [scanOnce] at hs, fun s v r hs => by simp [scanMembers] at hs,
      fun s v r hs => by simp [scanElems] at hs⟩
  | succ n ih =>
    obtain ⟨ihv, ihm, ihe⟩ := ih
    refine ⟨?_, ?_, ?_⟩
    · intro s v r hs
      cases s with
      | nil => simp [scanOnce] at hs
      | cons c s =>
        have hsk := skipSpace_length s
        rw [scanOnce] at hs
        rw [List.length_cons]
        split_ifs at hs
        · split at hs
          · next cs u hu =>
            cases hs
            exact Nat.lt_succ_of_lt (scanString_length hu)
          · cases hs
        · split at hs
          · next u hu =>
            obtain ⟨_, -, he⟩ := map_ok hs
            cases he
            rw [hu, List.length_cons] at hsk
            omega
          · obtain ⟨⟨ms, r'⟩, hms, hs⟩ := bind_ok hs
            obtain ⟨w, -, hs⟩ := bind_ok hs
            cases hs
            have := ihm _ _ _ hms
            omega
        · split at hs
          · next u hu =>
            cases hs
            rw [hu, List.length_cons] at hsk
            omega
          · obtain ⟨⟨xs, r'⟩, hxs, hs⟩ := bind_ok hs
            cases hs
            have := ihe _ _ _ hxs
            omega
        · exact scanScalar_length hs
    · intro s ms r hs
      unfold scanMembers at hs
      split at hs
      · next s =>
        split at hs
        · cases hs
        · next cs u hu =>
          have hu := scanString_length hu
          split at hs
          · next w hw =>
            have h1 := skipSpace_length u
            rw [hw, List.length_cons] at h1
            have h2 := skipSpace_length w
            obtain ⟨⟨x, r'⟩, hx, hs⟩ := bind_ok hs
            have h3 := ihv _ _ _ hx
            have h4 := skipSpace_length r'
            rw [List.length_cons]
            dsimp only at hs
            split at hs
            · next y hy =>
              cases hs
              rw [hy, List.length_cons] at h4
              omega
            · next y hy =>
              obtain ⟨⟨ns, r''⟩, hns, hs⟩ := bind_ok hs
              cases hs
              have h5 := ihm _ _ _ hns
              have h6 := skipSpace_length y
              rw [hy, List.length_cons] at h4
              change r''.length < _
              omega
            · cases hs
          · cases hs
      · cases hs
    · intro s xs r hs
      rw [scanElems] at hs
      obtain ⟨⟨x, r'⟩, hx, hs⟩ := bind_ok hs
      have h3 := ihv _ _ _ hx
      have h4 := skipSpace_length r'
      dsimp only at hs
      split at hs
      · next y hy =>
        cases hs
        rw [hy, List.length_cons] at h4
        omega
      · next y hy =>
        obtain ⟨⟨ys, r''⟩, hys, hs⟩ := bind_ok hs
        cases hs
        have h5 := ihe _ _ _ hys
        have h6 := skipSpace_length y
        rw [hy, List.length_cons] at h4
        change r''.length < _
        omega
      · cases hs

/-- One more call of fuel changes nothing once there is enough for the text. -/
theorem scan_fuel (n : ℕ) :
    (∀ s, 2 * s.length + 1 ≤ n → scanOnce h (n + 1) s = scanOnce h n s) ∧
    (∀ s, 2 * s.length + 2 ≤ n → scanMembers h (n + 1) s = scanMembers h n s) ∧
    (∀ s, 2 * s.length + 2 ≤ n → scanElems h (n + 1) s = scanElems h n s) := by
  induction n with
  | zero => exact ⟨fun s hs => by omega, fun s hs => by omega, fun s hs => by omega⟩
  | succ n ih =>
    obtain ⟨ihv, ihm, ihe⟩ := ih
    refine ⟨?_, ?_, ?_⟩
    · intro s hs
      cases s with
      | nil => rfl
      | cons c s =>
        have hsk := skipSpace_length s
        rw [List.length_cons] at hs
        rw [scanOnce, scanOnce]
        split_ifs
        · rfl
        · split
          · rfl
          · rw [ihm _ (by omega)]
        · split
          · rfl
          · rw [ihe _ (by omega)]
        · rfl
    · intro s hs
      rw [scanMembers.eq_def, scanMembers.eq_def h (n + 1)]
      dsimp only
      split
      · next s =>
        split
        · rfl
        · next cs u hu =>
          have hu := scanString_length hu
          split
          · next w hw =>
            have h1 := skipSpace_length u
            rw [hw, List.length_cons] at h1
            have h2 := skipSpace_length w
            rw [List.length_cons] at hs
            rw [ihv _ (by omega)]
            refine bind_congr_ok fun p hp => ?_
            have h3 := (scan_length n).1 _ _ _ hp
            have h4 := skipSpace_length p.2
            split
            · rfl
            · next y hy =>
              have h5 := skipSpace_length y
              rw [hy, List.length_cons] at h4
              rw [ihm _ (by omega)]
            · rfl
          · rfl
      · rfl
    · intro s hs
      rw [scanElems, scanElems, ihv _ (by omega)]
      refine bind_congr_ok fun p hp => ?_
      have h3 := (scan_length n).1 _ _ _ hp
      have h4 := skipSpace_length p.2
      dsimp only
      split
      · rfl
      · next y hy =>
        have h5 := skipSpace_length y
        rw [hy, List.length_cons] at h4
        rw [ihe _ (by omega)]
      · rfl

/-- The fuel of `loads` is enough: any larger amount reads the same. -/
theorem scanOnce_fuel {n : ℕ} (s : List Char) (hn : scanFuel s ≤ n) :
    scanOnce h n s = scanOnce h (scanFuel s) s := by
  induction n, hn using Nat.le_induction with
  | base => rfl
  | succ n hn ih => rw [← ih, (scan_fuel n).1 s (by unfold scanFuel at hn; omega)]

end Scan
end VapEvidence
