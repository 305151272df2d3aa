import VapEvidence.IncidentEnvelopes
import VapEvidence.JsonSizes

set_option autoImplicit false

/-!
# Canonical JSON of texts and safe integers

Values of texts and safe integers, in lists and in dictionaries under ASCII keys, are written
as compact JSON in key order; what is written is read back, and takes no more room than its parts.
-/
namespace VapEvidence.Incident
open Json

/-- Texts and safe integers, in lists and in dictionaries under ASCII keys, at most `n` levels deep. -/
inductive Compact : ℕ → Json → Prop
  | str (n : ℕ) (s : String) : Compact n (.str s)
  | int (n : ℕ) (k : ℤ) (hk : k.natAbs ≤ maxInteger) : Compact n (.int k)
  | arr (n : ℕ) (xs : List Json) (hl : xs.length ≤ maxItems) (hxs : ∀ x ∈ xs, Compact n x) : Compact (n + 1) (.arr xs)
  | obj (n : ℕ) (ms : List (String × Json)) (hs : SortedKeys ms) (hl : ms.length ≤ maxItems)
      (hkeys : ∀ m ∈ ms, ∀ c ∈ m.1.toList, c.toNat < 128) (hms : ∀ m ∈ ms, Compact n m.2) : Compact (n + 1) (.obj ms)

/-- `rfc8785.dumps` of such a value is its compact JSON in key order. -/
def WritesCompactly (pk : Packages) : Prop :=
  ∀ n v, Compact n v → pk.rfc8785 v = some (encodeUtf8 (dumps pk.floatRepr false v))

theorem Compact.mono {m n : ℕ} {v : Json} (h : Compact n v) (hle : n ≤ m) : Compact m v := by
  induction h generalizing m with
  | str n s => exact .str m s
  | int n k hk => exact .int m k hk
  | arr n xs hl hxs ih =>
    obtain ⟨m, rfl⟩ : ∃ k, m = k + 1 := ⟨m - 1, by omega⟩
    exact .arr m xs hl fun x hx => ih x hx (Nat.le_of_succ_le_succ hle)
  | obj n ms hs hl hkeys hms ih =>
    obtain ⟨m, rfl⟩ : ∃ k, m = k + 1 := ⟨m - 1, by omega⟩
    exact .obj m ms hs hl hkeys fun x hx => ih x hx (Nat.le_of_succ_le_succ hle)

theorem Compact.dict {n : ℕ} {ps : List (String × Json)} (keys : List String) (hk : ps.map Prod.fst = keys)
    (hl : keys.length ≤ maxItems) (hascii : ∀ k ∈ keys, ∀ c ∈ k.toList, c.toNat < 128)
    (h : ∀ p ∈ ps, Compact n p.2) : Compact (n + 1) (dict ps) := by
  subst hk
  have hmem {m : String × Json} (hm : m ∈ insertAll ps []) : m ∈ ps :=
    (mem_insertAll hm).resolve_right List.not_mem_nil
  have hlength : (insertAll ps []).length ≤ ps.length := by
    simpa using sum_insertAll_le (fun _ => 1) ps []
  rw [List.length_map] at hl
  exact .obj n _ (sortedKeys_insertAll ps [] List.Pairwise.nil) (hlength.trans hl)
    (fun m hm => hascii m.1 (List.mem_map_of_mem (hmem hm))) fun m hm => h m (hmem hm)

/-- What a dictionary display holds under one of its keys. -/
theorem item_dict {ps : List (String × Json)} {k : String} {v : Json} (hn : (ps.map Prod.fst).Nodup)
    (h : (k, v) ∈ ps) : (dict ps).item k = v := by
  refine item_of_get? ?_
  rw [get?_dict]
  refine lookup_of_mem (q := (k, v)) ?_ (List.mem_reverse.2 h)
  rw [List.map_reverse]
  exact (List.reverse_perm _).nodup_iff.2 hn

theorem Compact.plain {n : ℕ} {v : Json} (h : Compact n v) : Plain (fun _ => True) v := by
  induction h with
  | str n s => trivial
  | int n k hk => trivial
  | arr n xs hl hxs ih => exact (plainList_iff xs).2 ih
  | obj n ms hs hl hkeys hms ih => exact ⟨hs, (plainMembers_iff ms).2 ih⟩

theorem boundedElems_ok {d : ℕ} {xs : List Json} (h : ∀ x ∈ xs, boundedJson d x = .ok ()) :
    boundedElems d xs = .ok () := by
  induction xs with
  | nil => rfl
  | cons x xs ih =>
    rw [boundedElems, h x List.mem_cons_self]
    exact ih fun y hy => h y (List.mem_cons_of_mem x hy)

theorem boundedMembers_ok {d : ℕ} {ms : List (String × Json)} (h : ∀ m ∈ ms, boundedJson d m.2 = .ok ()) :
    boundedMembers d ms = .ok () := by
  induction ms with
  | nil => rfl
  | cons m ms ih =>
    obtain ⟨k, x⟩ := m
    rw [boundedMembers, h (k, x) List.mem_cons_self]
    exact ih fun y hy => h y (List.mem_cons_of_mem _ hy)

theorem require_true {b : Bool} {message : String} (h : b = true) : require b message = .ok () := by
  rw [require, h]
  rfl

theorem Compact.bounded {n d : ℕ} {v : Json} (h : Compact n v) (hd : d + n ≤ maxDepth) : boundedJson d v = .ok () := by
  induction h generalizing d with
  | str n s => exact require_true (decide_eq_true (by omega))
  | int n k hk => exact require_true (decide_eq_true (by omega))
  | arr n xs hl hxs ih =>
    rw [boundedJson, require_true (decide_eq_true (by omega)), require_true (decide_eq_true hl)]
    exact boundedElems_ok fun x hx => ih x hx (by omega)
  | obj n ms hs hl hkeys hms ih =>
    rw [boundedJson, require_true (decide_eq_true (by omega)), require_true (decide_eq_true hl)]
    exact boundedMembers_ok fun m hm => ih m hm (by omega)

section Writing
variable {pk : Packages} {n : ℕ} {v : Json}

theorem canonical_compact (hpk : WritesCompactly pk) (h : Compact n v) (hn : n ≤ maxDepth) :
    canonical pk v = .ok (encodeUtf8 (dumps pk.floatRepr false v)) := by
  rw [canonical, h.bounded ((Nat.zero_add n).le.trans hn), hpk n v h]
  rfl

theorem digest_compact (hpk : WritesCompactly pk) (h : Compact n v) (hn : n ≤ maxDepth) :
    digest pk v = .ok (sha256Hex pk (encodeUtf8 (dumps pk.floatRepr false v))) := by
  rw [digest, canonical_compact hpk h hn]
  rfl

theorem canonical_length (hpk : WritesCompactly pk) (h : Compact n v) (hn : n ≤ maxDepth) {raw : Bytes}
    (hraw : canonical pk v = .ok raw) : raw.length = size pk.floatRepr v := by
  rw [canonical_compact hpk h hn] at hraw
  cases hraw
  rfl

/-- What is written is read back. -/
theorem decodeJson_compact (hpk : WritesCompactly pk) (h : Compact n v) (hn : n ≤ maxDepth) {limit : ℕ}
    (hl : size pk.floatRepr v ≤ limit) :
    decodeJson pk (floatHooks pk) limit (encodeUtf8 (dumps pk.floatRepr false v)) = .ok v := by
  have hloads : loads (floatHooks pk) (dumps pk.floatRepr false v) = .ok v :=
    loads_dumps (floatHooks pk) pk.floatRepr false (fun _ => True)
      (fun n _ => by simp [floatHooks, intToken_dumpInt]) (fun ms hms => uniquePairs_sorted _ ms hms) v h.plain
  have hlength : require (decide ((encodeUtf8 (dumps pk.floatRepr false v)).length ≤ limit))
      "Invalid or oversized JSON message" = .ok () := require_true (decide_eq_true hl)
  rw [decodeJson, hlength, decodeUtf8_encodeUtf8]
  dsimp only [bind, Except.bind]
  rw [hloads]
  dsimp only
  rw [canonical_compact hpk h hn]

end Writing

/-! ## Sizes -/

section Sizes
variable {floatRepr : UInt64 → List Char}

/-- A character takes at most six bytes, escaped or not. -/
theorem length_escapeChar_le_six (c : Char) : (encodeUtf8 (escapeChar false c)).length ≤ 6 := by
  by_cases hc : 32 ≤ c.toNat
  · exact (length_escapeChar_le hc).trans (by decide)
  · have hall : ∀ n < 32, (encodeUtf8 (escapeChar false (Char.ofNat n))).length ≤ 6 := by decide
    have := hall c.toNat (not_le.1 hc)
    rwa [Char.ofNat_toNat] at this

theorem textSize_le_six (s : String) : textSize s ≤ 6 * s.length + 2 := by
  have hall : ∀ l : List Char, (encodeUtf8 (l.flatMap (escapeChar false))).length ≤ 6 * l.length := by
    intro l
    induction l with
    | nil => exact Nat.zero_le _
    | cons c l ih =>
      have hc := length_escapeChar_le_six c
      rw [List.flatMap_cons, length_encodeUtf8_append, List.length_cons]
      omega
  have := hall s.toList
  rw [String.length_toList] at this
  rw [textSize_eq]
  omega

end Sizes
end VapEvidence.Incident
