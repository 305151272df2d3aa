import VapEvidence.StrictScalars

set_option autoImplicit false

/-!
# One canonical text

`canonical` of the Node verifier collects the texts of the parts and joins them;
on the values of the subset the result is what `json.dumps` writes.
-/
namespace VapEvidence.Evidence
open Json

theorem escapeChar_printable {c : Char} (h : isPrintable c = true) : escapeChar true c = escapeChar false c := by
  simp only [isPrintable, decide_eq_true_eq] at h
  have hc : ¬126 < c.toNat := by omega
  simp only [escapeChar, hc, and_false]

theorem dumpString_printable {s : String} (h : Printable s) : dumpString true s = dumpString false s := by
  have : ∀ cs : List Char, cs.all isPrintable = true →
      cs.flatMap (escapeChar true) = cs.flatMap (escapeChar false) := by
    intro cs hcs
    induction cs with
    | nil => rfl
    | cons c cs ih =>
      simp only [List.all_cons, Bool.and_eq_true] at hcs
      rw [List.flatMap_cons, List.flatMap_cons, escapeChar_printable hcs.1, ih hcs.2]
  rw [dumpString, dumpString, this _ h.2]

section
variable (floatRepr : UInt64 → List Char)

/-- The texts of the elements, as `encode` collects them. -/
def elemTexts (xs : List Json) : List (List Char) := xs.map (dumps floatRepr true)

def memberTexts (ms : List (String × Json)) : List (List Char) :=
  ms.map fun m => dumpString true m.1 ++ ':' :: dumps floatRepr true m.2

theorem join_elems (x : Json) (xs : List Json) :
    Node.join (elemTexts floatRepr (x :: xs)) ++ [']'] = dumps floatRepr true x ++ dumpElems floatRepr true xs := by
  induction xs generalizing x with
  | nil => simp [elemTexts, Node.join, dumpElems]
  | cons y ys ih =>
    change dumps floatRepr true x ++ ',' :: Node.join (elemTexts floatRepr (y :: ys)) ++ [']'] = _
    rw [List.append_assoc, List.cons_append, ih y, dumpElems]

theorem join_members (m : String × Json) (ms : List (String × Json)) :
    Node.join (memberTexts floatRepr (m :: ms)) ++ ['}'] =
      dumpString true m.1 ++ ':' :: (dumps floatRepr true m.2 ++ dumpMembers floatRepr true ms) := by
  induction ms generalizing m with
  | nil => simp [memberTexts, Node.join, dumpMembers]
  | cons n ns ih =>
    change (dumpString true m.1 ++ ':' :: dumps floatRepr true m.2) ++
      ',' :: Node.join (memberTexts floatRepr (n :: ns)) ++ ['}'] = _
    obtain ⟨k, x⟩ := n
    rw [List.append_assoc, List.cons_append, ih (k, x), dumpMembers]
    simp

theorem dumps_arr (xs : List Json) :
    '[' :: Node.join (elemTexts floatRepr xs) ++ [']'] = dumps floatRepr true (.arr xs) := by
  cases xs with
  | nil => rfl
  | cons x xs => rw [List.cons_append, join_elems, dumps]

theorem dumps_obj (ms : List (String × Json)) :
    '{' :: Node.join (memberTexts floatRepr ms) ++ ['}'] = dumps floatRepr true (.obj ms) := by
  cases ms with
  | nil => rfl
  | cons m ms => rw [List.cons_append, join_members, dumps]

theorem safe_decides (n : ℤ) (message : String) :
    Checks (check (Node.isSafeInteger n) message) (n.natAbs ≤ maxSafeInteger) () :=
  (check_decides _ _).congr (by simp [Node.isSafeInteger])

mutual
/-- `encode` writes the values of the subset as `json.dumps` does. -/
theorem encode_decides (depth : ℕ) : ∀ v, Checks (Node.encode depth v) (Subset depth v) (dumps floatRepr true v)
  | .null => by
    have h : Checks (Node.encode depth .null) _ _ := (check_depth depth _).bind fun _ => Decides.pure "null".toList
    exact (h.congr (and_iff_left trivial)).value fun _ => by rw [dumps]
  | .bool b => by
    have h : Checks (Node.encode depth (.bool b)) _ _ := (check_depth depth _).bind fun _ => Decides.pure _
    exact (h.congr (and_iff_left trivial)).value fun _ => by cases b <;> rfl
  | .int n => by
    have h : Checks (Node.encode depth (.int n)) _ _ :=
      (check_depth depth _).bind fun _ => (safe_decides n _).bind fun _ => Decides.pure (dumpInt n)
    exact (h.congr (by simp [Subset])).value fun _ => by rw [dumps]
  | .float _ => ((check_depth depth _).bind fun _ => Decides.error trivial _).congr (by simp [Subset])
  | .str s => by
    have h : Checks (Node.encode depth (.str s)) _ _ :=
      (check_depth depth _).bind fun _ => (printable_str s _).bind fun _ => Decides.pure (dumpString false s)
    exact (h.congr (by simp [Subset])).value fun hp => by rw [dumps, dumpString_printable hp.2]
  | .arr xs => by
    have h : Checks (Node.encode depth (.arr xs)) _ _ :=
      (check_depth depth _).bind fun _ => (encodeElems_decides (depth + 1) xs).bind fun _ => Decides.pure _
    exact (h.congr (by simp [Subset])).value fun _ => dumps_arr floatRepr xs
  | .obj ms => by
    have h : Checks (Node.encode depth (.obj ms)) _ _ :=
      (check_depth depth _).bind fun _ => (encodeMembers_decides (depth + 1) ms).bind fun _ => Decides.pure _
    exact (h.congr (by simp [Subset])).value fun _ => dumps_obj floatRepr ms
theorem encodeElems_decides (depth : ℕ) :
    ∀ xs, Checks (Node.encodeElems depth xs) (SubsetElems depth xs) (elemTexts floatRepr xs)
  | [] => Decides.pure []
  | x :: xs => by
    have h : Checks (Node.encodeElems depth (x :: xs)) _ _ :=
      (encode_decides depth x).bind fun _ => (encodeElems_decides depth xs).bind fun _ => Decides.pure _
    exact h.congr (by simp [SubsetElems])
theorem encodeMembers_decides (depth : ℕ) :
    ∀ ms, Checks (Node.encodeMembers depth ms) (SubsetMembers depth ms) (memberTexts floatRepr ms)
  | [] => Decides.pure []
  | (k, x) :: ms => by
    have h : Checks (Node.encodeMembers depth ((k, x) :: ms)) _ _ :=
      (printable_str k _).bind fun _ => (encode_decides depth x).bind fun _ =>
        (encodeMembers_decides depth ms).bind fun _ => Decides.pure _
    refine (h.congr (by simp [SubsetMembers])).value fun hp => ?_
    rw [← dumpString_printable hp.1]
    rfl
end

end

/-- `canonical` of either verifier gives the same bytes on the same values. -/
theorem node_canonical_decides (py : Platform) (v : Json) :
    Checks (Node.canonical v) (Subset 0 v) (encodeUtf8 (dumps py.floatRepr true v)) :=
  (encode_decides py.floatRepr 0 v).map encodeUtf8

end VapEvidence.Evidence
