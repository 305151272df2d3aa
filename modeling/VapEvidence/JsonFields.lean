import VapEvidence.JsonValue

set_option autoImplicit false

/-!
# Dictionaries with known fields

A dictionary is determined by its members; one that has exactly the fields of a
list is the display of those fields. Python's equality of values.
-/
namespace VapEvidence.Json

/-- `type(value) is dict` -/
def isDict : Json → Bool
  | .obj _ => true
  | _ => false

theorem lookup_eq_none_iff {ms : List (String × Json)} {k : String} :
    ms.lookup k = none ↔ k ∉ ms.map Prod.fst := by
  induction ms with
  | nil => simp
  | cons m ms ih =>
    obtain ⟨j, w⟩ := m
    rw [lookup_cons_ite]
    split_ifs with h
    · simp [h]
    · simp [ih, h]

theorem lookup_head_lt {ms : List (String × Json)} {k j : String} (h : ∀ l ∈ ms.map Prod.fst, j < l)
    (hk : k ≤ j) : ms.lookup k = none := by
  rw [lookup_eq_none_iff]
  intro hm
  exact absurd (h k hm) (not_lt.2 hk)

/-- Dictionaries with the same members are the same list. -/
theorem sorted_ext {a b : List (String × Json)} (ha : SortedKeys a) (hb : SortedKeys b)
    (h : ∀ k, a.lookup k = b.lookup k) : a = b := by
  induction a generalizing b with
  | nil =>
    cases b with
    | nil => rfl
    | cons m ms =>
      have := h m.1
      rw [show m = (m.1, m.2) from rfl, lookup_cons_ite] at this
      simp at this
  | cons m ms ih =>
    obtain ⟨k, x⟩ := m
    have hk := h k
    simp only [SortedKeys, List.map_cons, List.pairwise_cons] at ha
    cases b with
    | nil => simp at hk
    | cons n ns =>
      obtain ⟨l, y⟩ := n
      simp only [SortedKeys, List.map_cons, List.pairwise_cons] at hb
      have hl := h l
      simp only [lookup_cons_ite, if_true] at hk hl
      have hkl : k = l := by
        rcases lt_trichotomy k l with hlt | rfl | hlt
        · rw [if_neg (ne_of_lt hlt), lookup_head_lt hb.1 hlt.le] at hk
          cases hk
        · rfl
        · rw [if_neg (ne_of_lt hlt), lookup_head_lt ha.1 hlt.le] at hl
          cases hl
      subst hkl
      rw [if_pos rfl] at hk
      obtain rfl := Option.some.inj hk
      have htail : ∀ j, ms.lookup j = ns.lookup j := by
        intro j
        by_cases hj : j = k
        · subst hj
          rw [lookup_head_lt ha.1 le_rfl, lookup_head_lt hb.1 le_rfl]
        · have := h j
          simpa only [lookup_cons_ite, if_neg hj] using this
      rw [ih ha.2 hb.2 htail]

theorem item_of_get? {v : Json} {k : String} {x : Json} (h : v.get? k = some x) : v.item k = x := by
  rw [item, h]
  rfl

theorem hasFields_obj {v : Json} {fields : List String} (h : v.hasFields fields = true) :
    ∃ ms, v = .obj ms ∧ (∀ k, k ∈ ms.map Prod.fst ↔ k ∈ fields) := by
  cases v with
  | obj ms =>
    simp only [hasFields, Bool.and_eq_true, List.all_eq_true, List.contains_iff_mem] at h
    refine ⟨ms, rfl, fun k => ⟨fun hk => ?_, h.2 k⟩⟩
    obtain ⟨m, hm, rfl⟩ := List.mem_map.1 hk
    exact h.1 m hm
  | _ => simp [hasFields] at h

theorem get?_of_hasFields {v : Json} {fields : List String} (h : v.hasFields fields = true)
    (k : String) : v.get? k = if k ∈ fields then some (v.item k) else none := by
  obtain ⟨ms, rfl, hk⟩ := hasFields_obj h
  rw [item]
  cases hl : (Json.obj ms).get? k with
  | none =>
    have : k ∉ fields := fun hf => lookup_eq_none_iff.1 hl ((hk k).2 hf)
    rw [if_neg this]
  | some x =>
    have : k ∈ fields := by
      by_contra hf
      have hn : ms.lookup k = none := lookup_eq_none_iff.2 fun hm => hf ((hk k).1 hm)
      exact absurd (hl.symm.trans hn) (by simp)
    rw [if_pos this]
    rfl

/-- The members of a value under the given names, as a dictionary display builds them. -/
def pick (fields : List String) (v : Json) : Json := dict (fields.map fun f => (f, v.item f))

theorem lookup_map_item (fields : List String) (f : String → Json) (k : String) :
    (fields.map fun j => (j, f j)).lookup k = if k ∈ fields then some (f k) else none := by
  induction fields with
  | nil => simp
  | cons j js ih =>
    rw [List.map_cons, lookup_cons_ite, ih]
    by_cases h : k = j
    · simp [h]
    · simp [h]

theorem get?_pick (fields : List String) (v : Json) (k : String) :
    (pick fields v).get? k = if k ∈ fields then some (v.item k) else none := by
  rw [pick, get?_dict, ← List.map_reverse, lookup_map_item]
  simp

theorem item_pick {fields : List String} (v : Json) {k : String} (h : k ∈ fields) :
    (pick fields v).item k = v.item k := item_of_get? (by rw [get?_pick, if_pos h])

theorem ext_get? {v w : Json} (hv : v.WF) (hw : w.WF) (h : ∃ ms, v = .obj ms) (h' : ∃ ms, w = .obj ms)
    (hk : ∀ k, v.get? k = w.get? k) : v = w := by
  obtain ⟨ms, rfl⟩ := h
  obtain ⟨ns, rfl⟩ := h'
  exact congrArg Json.obj (sorted_ext hv.1 hw.1 hk)

theorem mem_of_lookup {ms : List (String × Json)} {k : String} {x : Json} (h : ms.lookup k = some x) :
    (k, x) ∈ ms := by
  induction ms with
  | nil => cases h
  | cons m ms ih =>
    obtain ⟨j, w⟩ := m
    rw [lookup_cons_ite] at h
    split_ifs at h with hj
    · simp [hj, Option.some.inj h]
    · exact List.mem_cons_of_mem _ (ih h)

theorem lookup_of_mem {α β : Type} [DecidableEq α] {ms : List (α × β)} (h : (ms.map Prod.fst).Nodup) {q : α × β}
    (hq : q ∈ ms) : ms.lookup q.1 = some q.2 := by
  induction ms with
  | nil => cases hq
  | cons p ms ih =>
    rw [List.map_cons, List.nodup_cons] at h
    rcases List.mem_cons.1 hq with rfl | hm
    · exact List.lookup_cons_self
    · have hne : (q.1 == p.1) = false := beq_false_of_ne fun he => h.1 (he ▸ List.mem_map_of_mem hm)
      rw [List.lookup_cons, hne]
      exact ih h.2 hm

/-- A member of a dictionary is found under its key. -/
theorem item_of_mem {ms : List (String × Json)} (h : SortedKeys ms) {m : String × Json} (hm : m ∈ ms) :
    (Json.obj ms).item m.1 = m.2 :=
  item_of_get? (lookup_of_mem (h.imp ne_of_lt) hm)

theorem wf_item {v : Json} (h : v.WF) (k : String) : (v.item k).WF := by
  cases hl : v.get? k with
  | none => rw [item, hl]; trivial
  | some x =>
    rw [item_of_get? hl]
    cases v with
    | obj ms => exact (wfMembers_iff ms).1 h.2 _ (mem_of_lookup hl)
    | _ => simp [get?, members] at hl

theorem pick_wf {v : Json} (h : v.WF) (fields : List String) : (pick fields v).WF := by
  refine dict_wf fun p hp => ?_
  obtain ⟨f, -, rfl⟩ := List.mem_map.1 hp
  exact wf_item h f

/-- A dictionary with exactly the given fields is the display of them. -/
theorem eq_pick {v : Json} {fields : List String} (hw : v.WF) (h : v.hasFields fields = true) :
    v = pick fields v := by
  obtain ⟨ms, hv, -⟩ := hasFields_obj h
  refine ext_get? hw (pick_wf hw fields) ⟨ms, hv⟩ ⟨_, rfl⟩ fun k => ?_
  rw [get?_of_hasFields h, get?_pick]

/-! ## Equality of values -/

mutual
/-- `==` between two JSON values, where `True == 1` and `False == 0`. -/
def pyEq : Json → Json → Bool
  | .null, .null => true
  | .bool a, .bool b => a == b
  | .bool a, .int n => n == cond a 1 0
  | .int n, .bool a => n == cond a 1 0
  | .int a, .int b => a == b
  | .float a, .float b => a == b
  | .str a, .str b => a == b
  | .arr a, .arr b => pyEqList a b
  | .obj a, .obj b => pyEqMembers a b
  | _, _ => false
def pyEqList : List Json → List Json → Bool
  | [], [] => true
  | a :: as, b :: bs => pyEq a b && pyEqList as bs
  | _, _ => false
def pyEqMembers : List (String × Json) → List (String × Json) → Bool
  | [], [] => true
  | (k, a) :: as, (l, b) :: bs => k == l && pyEq a b && pyEqMembers as bs
  | _, _ => false
end

mutual
theorem pyEq_refl : ∀ v : Json, pyEq v v = true
  | .null => rfl
  | .bool _ => by simp [pyEq]
  | .int _ => by simp [pyEq]
  | .float _ => by simp [pyEq]
  | .str _ => by simp [pyEq]
  | .arr xs => by rw [pyEq]; exact pyEqList_refl xs
  | .obj ms => by rw [pyEq]; exact pyEqMembers_refl ms
theorem pyEqList_refl : ∀ xs : List Json, pyEqList xs xs = true
  | [] => rfl
  | x :: xs => by rw [pyEqList, pyEq_refl x, pyEqList_refl xs]; rfl
theorem pyEqMembers_refl : ∀ ms : List (String × Json), pyEqMembers ms ms = true
  | [] => rfl
  | (k, x) :: ms => by rw [pyEqMembers, pyEq_refl x, pyEqMembers_refl ms]; simp
end

theorem pyEq_str {v : Json} {s : String} (h : v.pyEq (.str s) = true) : v = .str s := by
  cases v <;> simp_all [pyEq]

end VapEvidence.Json
