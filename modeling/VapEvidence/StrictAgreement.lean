import Mathlib.Data.List.Nodup
import VapEvidence.StrictScalars

set_option autoImplicit false

/-!
# Two readers, one language

`strict_loads` and `strictParse` accept the same texts with the same values. The
descent is followed call by call: where one returns, so does the other, with the
same text left over.
-/
namespace VapEvidence.Evidence
open Json

/-! ## Values -/

theorem skipSpace_idem (s : List Char) : skipSpace (skipSpace s) = skipSpace s := by
  induction s with
  | nil => rfl
  | cons c s ih =>
    by_cases hc : isSpace c = true
    · rw [skipSpace, if_pos hc, ih]
    · rw [skipSpace, if_neg hc, skipSpace, if_neg hc]

theorem mem_insertAll_iff {ps : List (String × Json)} (hn : (ps.map Prod.fst).Nodup) (m : String × Json) :
    m ∈ insertAll ps [] ↔ m ∈ ps := by
  refine ⟨fun h => (mem_insertAll h).resolve_right (by simp), fun h => mem_of_lookup ?_⟩
  rw [lookup_insertAll]
  have hn' : (ps.reverse.map Prod.fst).Nodup := by rwa [List.map_reverse, List.nodup_reverse]
  have hl : ∀ {qs : List (String × Json)}, (qs.map Prod.fst).Nodup → m ∈ qs → qs.lookup m.1 = some m.2 := by
    intro qs hq hm
    induction qs with
    | nil => cases hm
    | cons q qs ih =>
      rw [List.map_cons, List.nodup_cons] at hq
      rw [show q = (q.1, q.2) from rfl, lookup_cons_ite]
      rcases List.mem_cons.1 hm with rfl | hm
      · simp
      · have hne : m.1 ≠ q.1 := fun he => hq.1 (he ▸ List.mem_map_of_mem hm)
        rw [if_neg hne, ih hq.2 hm]
  rw [hl hn' (List.mem_reverse.2 h)]
  rfl

theorem subset_dict {d : ℕ} {ps : List (String × Json)} (hn : (ps.map Prod.fst).Nodup) :
    Subset d (dict ps) ↔ d ≤ 16 ∧ ∀ p ∈ ps, Printable p.1 ∧ Subset (d + 1) p.2 := by
  rw [dict, Subset, subsetMembers_iff]
  simp only [mem_insertAll_iff hn]

theorem strict_objectPairs {ps : List (String × Json)} {v : Json} :
    Python.strictHooks.objectPairs ps = .ok v ↔ (ps.map Prod.fst).Nodup ∧ v = dict ps := by
  change uniquePairs _ ps = _ ↔ _
  unfold uniquePairs
  split_ifs with h
  · simp [h, eq_comm]
  · simp [h]

theorem scanMembers_nil {h : Hooks} {n : ℕ} {p : List (String × Json) × List Char} :
    scanMembers h n [] ≠ .ok p := by cases n <;> simp [scanMembers]

theorem scanElems_nil {h : Hooks} {n : ℕ} {p : List Json × List Char} : scanElems h n [] ≠ .ok p := by
  rcases n with _ | _ | n <;> simp [scanElems, scanOnce, bind, Except.bind]

section
variable {text : List Char}

/-- Where Node reads a value, `scan_once` reads it too, and it is in the subset. -/
theorem value_sound (n : ℕ) :
    (∀ d s v r, Node.value text n d s = .ok (v, r) →
      scanOnce Python.strictHooks n (skipSpace s) = .ok (v, r) ∧ Subset d v) ∧
    (∀ d seen s ms r, Node.members text n d seen s = .ok (ms, r) →
      scanMembers Python.strictHooks n (skipSpace s) = .ok (ms, r) ∧ (ms.map Prod.fst).Nodup ∧
        ∀ m ∈ ms, m.1 ∉ seen ∧ Printable m.1 ∧ Subset (d + 1) m.2) ∧
    (∀ d s xs r, Node.elements text n d s = .ok (xs, r) →
      scanElems Python.strictHooks n (skipSpace s) = .ok (xs, r) ∧ ∀ x ∈ xs, Subset (d + 1) x) := by
  induction n with
  | zero => exact ⟨fun d s v r h => by simp [Node.value] at h, fun d seen s v r h => by simp [Node.members] at h,
      fun d s v r h => by simp [Node.elements] at h⟩
  | succ n ih =>
    obtain ⟨ihv, ihm, ihe⟩ := ih
    refine ⟨?_, ?_, ?_⟩
    · intro d s v r h
      rw [Node.value] at h
      split_ifs at h with hd
      have hd : d ≤ 16 := not_lt.1 hd
      split at h
      · next t ht =>
        obtain ⟨⟨k, r'⟩, hk, he⟩ := map_ok h
        cases he
        obtain ⟨t', cs, ht', hcs, rfl, hp⟩ := (stringValue_iff _).1 hk
        cases ht'
        rw [ht]
        refine ⟨?_, hd, hp⟩
        simp [scanOnce, hcs]
      · next t ht =>
        rw [ht]
        split at h
        · next u hu =>
          cases h
          refine ⟨?_, hd, trivial⟩
          have : Python.strictHooks.objectPairs [] = .ok (.obj []) := rfl
          simp [scanOnce, hu, this, Except.map]
        · next hne =>
          obtain ⟨⟨ms, r'⟩, hms, h⟩ := bind_ok h
          cases h
          obtain ⟨hs, hnd, hall⟩ := ihm _ _ _ _ _ hms
          rw [skipSpace_idem] at hs
          refine ⟨?_, (subset_dict hnd).2 ⟨hd, fun m hm => (hall m hm).2⟩⟩
          cases hk : skipSpace t with
          | nil => exact absurd (hk ▸ hs) scanMembers_nil
          | cons c u =>
            rw [scanOnce_obj _ n hk fun hc => hne u (by rw [hk, hc]), ← hk, hs]
            change (Python.strictHooks.objectPairs ms).map _ = _
            rw [strict_objectPairs.2 ⟨hnd, rfl⟩]
            rfl
      · next t ht =>
        rw [ht]
        split at h
        · next u hu =>
          cases h
          refine ⟨?_, hd, trivial⟩
          simp [scanOnce, hu]
        · next hne =>
          obtain ⟨⟨xs, r'⟩, hxs, h⟩ := bind_ok h
          cases h
          obtain ⟨hs, hall⟩ := ihe _ _ _ _ hxs
          rw [skipSpace_idem] at hs
          refine ⟨?_, hd, (subsetElems_iff _ xs).2 hall⟩
          cases hk : skipSpace t with
          | nil => exact absurd (hk ▸ hs) scanElems_nil
          | cons c u =>
            rw [scanOnce_arr _ n hk fun hc => hne u (by rw [hk, hc]), ← hk, hs]
            rfl
      · next hq hb ha =>
        obtain ⟨hs, hsub⟩ := scalarValue_sound h
        refine ⟨?_, hsub d hd⟩
        cases hk : skipSpace s with
        | nil => rw [hk] at hs; simp [scanScalar, scanToken, scanNumber, scanInteger, token?] at hs
        | cons c u =>
          rw [scanOnce_scalar _ n rfl (fun hc => hq u (by rw [hk, hc])) (fun hc => hb u (by rw [hk, hc]))
            (fun hc => ha u (by rw [hk, hc])), ← hk, hs]
    · intro d seen s ms r h
      rw [Node.members] at h
      obtain ⟨⟨key, r₁⟩, hkey, h⟩ := bind_ok h
      obtain ⟨t, cs, hs, hcs, rfl, hp⟩ := (stringValue_iff _).1 hkey
      obtain ⟨u, hseen, h⟩ := bind_ok h
      have hseen := of_decide_eq_true (((check_decides _ _).ok_iff u).1 hseen).1
      rw [hs]
      split at h
      · next r₂ hcolon =>
        obtain ⟨⟨x, r₃⟩, hx, h⟩ := bind_ok h
        obtain ⟨hscan, hsub⟩ := ihv _ _ _ _ hx
        dsimp only at h
        split at h
        · next u hu =>
          cases h
          exact ⟨scanMembers_last _ hcs hcolon hscan hu, by simp, by simpa using ⟨hseen, hp, hsub⟩⟩
        · next u hu =>
          obtain ⟨⟨ns, r₄⟩, hns, h⟩ := bind_ok h
          cases h
          obtain ⟨hrest, hnd, hall⟩ := ihm _ _ _ _ _ hns
          refine ⟨?_, ?_, List.forall_mem_cons.2 ⟨⟨hseen, hp, hsub⟩, fun m hm => ?_⟩⟩
          · rw [scanMembers_comma _ hcs hcolon hscan hu, hrest]
            rfl
          · refine List.nodup_cons.2 ⟨fun hm => ?_, hnd⟩
            obtain ⟨m, hm, he⟩ := List.mem_map.1 hm
            exact (hall m hm).1 (by simp [he])
          · obtain ⟨hnot, hrest⟩ := hall m hm
            exact ⟨fun hm => hnot (List.mem_cons_of_mem _ hm), hrest⟩
        · cases h
      · cases h
    · intro d s xs r h
      rw [Node.elements] at h
      obtain ⟨⟨x, r₁⟩, hx, h⟩ := bind_ok h
      obtain ⟨hscan, hsub⟩ := ihv _ _ _ _ hx
      dsimp only at h
      split at h
      · next u hu =>
        cases h
        exact ⟨scanElems_last _ hscan hu, by simpa using hsub⟩
      · next u hu =>
        obtain ⟨⟨ys, r₂⟩, hys, h⟩ := bind_ok h
        cases h
        obtain ⟨hrest, hall⟩ := ihe _ _ _ _ hys
        refine ⟨?_, List.forall_mem_cons.2 ⟨hsub, hall⟩⟩
        rw [scanElems_comma _ hscan hu, hrest]
        rfl
      · cases h

/-! ### One turn of the descent -/

theorem value_obj {n d : ℕ} {s t : List Char} (hd : d ≤ 16) (hs : skipSpace s = '{' :: t)
    (hne : ∀ u, skipSpace t ≠ '}' :: u) : Node.value text (n + 1) d s =
      (Node.members text n d [] (skipSpace t)).map fun q => (dict q.1, q.2) := by
  rw [Node.value, if_neg (show ¬Node.maxDepth < d from not_lt.2 hd), hs]
  split
  · next he => exact absurd (List.cons.inj he).1 (by decide)
  · next he =>
    cases he
    split
    · next u hu => exact absurd hu (hne u)
    · cases Node.members text n d [] (skipSpace t) <;> rfl
  · next he => exact absurd (List.cons.inj he).1 (by decide)
  · next he _ => exact absurd rfl (he t)

theorem value_arr {n d : ℕ} {s t : List Char} (hd : d ≤ 16) (hs : skipSpace s = '[' :: t)
    (hne : ∀ u, skipSpace t ≠ ']' :: u) : Node.value text (n + 1) d s =
      (Node.elements text n d (skipSpace t)).map fun q => (.arr q.1, q.2) := by
  rw [Node.value, if_neg (show ¬Node.maxDepth < d from not_lt.2 hd), hs]
  split
  · next he => exact absurd (List.cons.inj he).1 (by decide)
  · next he => exact absurd (List.cons.inj he).1 (by decide)
  · next he =>
    cases he
    split
    · next u hu => exact absurd hu (hne u)
    · cases Node.elements text n d (skipSpace t) <;> rfl
  · next he => exact absurd rfl (he t)

/-- Where `scan_once` reads a value of the subset, Node reads it too. -/
theorem value_complete (text : List Char) (n : ℕ) :
    (∀ d s v r, scanOnce Python.strictHooks n (skipSpace s) = .ok (v, r) → Subset d v → Follow r →
      Node.value text n d s = .ok (v, r)) ∧
    (∀ d seen s ms r, scanMembers Python.strictHooks n (skipSpace s) = .ok (ms, r) →
      (ms.map Prod.fst).Nodup → (∀ m ∈ ms, m.1 ∉ seen ∧ Printable m.1 ∧ Subset (d + 1) m.2) →
      Node.members text n d seen s = .ok (ms, r)) ∧
    (∀ d s xs r, scanElems Python.strictHooks n (skipSpace s) = .ok (xs, r) →
      (∀ x ∈ xs, Subset (d + 1) x) → Node.elements text n d s = .ok (xs, r)) := by
  induction n with
  | zero => exact ⟨fun d s v r h => by simp [scanOnce] at h, fun d seen s v r h => by simp [scanMembers] at h,
      fun d s v r h => by simp [scanElems] at h⟩
  | succ n ih =>
    obtain ⟨ihv, ihm, ihe⟩ := ih
    refine ⟨?_, ?_, ?_⟩
    · intro d s v r h hv hr
      have hd := subset_depth hv
      cases hs : skipSpace s with
      | nil => rw [hs] at h; simp [scanOnce] at h
      | cons c t =>
        rw [hs, scanOnce] at h
        split_ifs at h with hq hb ha
        · subst hq
          split at h
          · next cs u hcs =>
            cases h
            rw [Node.value, if_neg (show ¬Node.maxDepth < d from not_lt.2 hd), hs]
            change (Node.stringValue text ('"' :: t)).map _ = _
            rw [(stringValue_iff _).2 ⟨t, cs, rfl, hcs, rfl, hv.2⟩]
            rfl
          · cases h
        · subst hb
          split at h
          · next u hu =>
            obtain ⟨w, hw, he⟩ := map_ok h
            cases he
            obtain ⟨-, rfl⟩ := strict_objectPairs.1 hw
            rw [Node.value, if_neg (show ¬Node.maxDepth < d from not_lt.2 hd), hs]
            simp only [hu]
            rfl
          · next hne =>
            obtain ⟨⟨ms, r'⟩, hms, h⟩ := bind_ok h
            obtain ⟨w, hw, h⟩ := bind_ok h
            cases h
            obtain ⟨hnd, rfl⟩ := strict_objectPairs.1 hw
            have hall := ((subset_dict hnd).1 hv).2
            rw [value_obj hd hs hne, ihm d [] _ ms _ (by rw [skipSpace_idem]; exact hms) hnd
              fun m hm => ⟨List.not_mem_nil, hall m hm⟩]
            rfl
        · subst ha
          split at h
          · next u hu =>
            cases h
            rw [Node.value, if_neg (show ¬Node.maxDepth < d from not_lt.2 hd), hs]
            simp only [hu]
          · next hne =>
            obtain ⟨⟨xs, r'⟩, hxs, h⟩ := bind_ok h
            cases h
            rw [value_arr hd hs hne, ihe d _ xs _ (by rw [skipSpace_idem]; exact hxs)
              ((subsetElems_iff _ xs).1 hv.2)]
            rfl
        · rw [Node.value, if_neg (show ¬Node.maxDepth < d from not_lt.2 hd), hs]
          have hscalar := scalarValue_complete text h hr
          split
          · next he => exact absurd (List.cons.inj he).1 hq
          · next he => exact absurd (List.cons.inj he).1 hb
          · next he => exact absurd (List.cons.inj he).1 ha
          · exact hscalar
    · intro d seen s ms r h hnd hall
      rw [scanMembers.eq_def] at h
      dsimp only at h
      split at h
      · next t ht =>
        split at h
        · cases h
        · next cs r₁ hcs =>
          split at h
          · next r₂ hcolon =>
            obtain ⟨⟨x, r₃⟩, hx, h⟩ := bind_ok h
            dsimp only at h
            split at h
            · next u hu =>
              cases h
              obtain ⟨hseen, hp, hsub⟩ := hall _ List.mem_cons_self
              have hfollow : Follow r₃ := follow_of_skipSpace (by rw [hu]; simp)
              have hkey := (stringValue_iff text).2 ⟨t, cs, rfl, hcs, rfl, hp⟩
              rw [Node.members, ht, hkey]
              simp only [bind, Except.bind, check, hseen, hcolon, ihv _ _ _ _ hx hsub hfollow, hu,
                not_false_eq_true, decide_true, if_true]
              rfl
            · next u hu =>
              obtain ⟨⟨ns, r₄⟩, hns, h⟩ := bind_ok h
              cases h
              obtain ⟨hseen, hp, hsub⟩ := hall _ List.mem_cons_self
              obtain ⟨hnot, hnd⟩ := List.nodup_cons.1 hnd
              have hfollow : Follow r₃ := follow_of_skipSpace (by rw [hu]; simp)
              have hkey := (stringValue_iff text).2 ⟨t, cs, rfl, hcs, rfl, hp⟩
              have hrest := ihm d (String.ofList cs :: seen) _ _ _ hns hnd fun m hm => by
                obtain ⟨hm', hrest⟩ := hall m (List.mem_cons_of_mem _ hm)
                refine ⟨?_, hrest⟩
                rw [List.mem_cons, not_or]
                refine ⟨fun he => hnot ?_, hm'⟩
                change String.ofList cs ∈ ns.map Prod.fst
                rw [← he]
                exact List.mem_map_of_mem hm
              rw [Node.members, ht, hkey]
              simp only [bind, Except.bind, check, hseen, hcolon, ihv _ _ _ _ hx hsub hfollow, hu,
                not_false_eq_true, decide_true, if_true, hrest]
              rfl
            · cases h
          · cases h
      · cases h
    · intro d s xs r h hall
      rw [scanElems] at h
      obtain ⟨⟨x, r₁⟩, hx, h⟩ := bind_ok h
      dsimp only at h
      split at h
      · next u hu =>
        cases h
        have hfollow : Follow r₁ := follow_of_skipSpace (by rw [hu]; simp)
        rw [Node.elements, ihv _ _ _ _ hx (hall x (by simp)) hfollow]
        simp only [bind, Except.bind, hu]
        rfl
      · next u hu =>
        obtain ⟨⟨ys, r₂⟩, hys, h⟩ := bind_ok h
        cases h
        have hfollow : Follow r₁ := follow_of_skipSpace (by rw [hu]; simp)
        rw [Node.elements, ihv _ _ _ _ hx (hall x (by simp)) hfollow]
        simp only [bind, Except.bind, hu]
        rw [ihe _ _ _ _ hys fun y hy => hall y (List.mem_cons_of_mem _ hy)]
        rfl
      · cases h

end

/-- `strict_loads` and `strictParse` accept the same texts and read the same values. -/
theorem strictLoads_iff_strictParse {s : List Char} {v : Json} :
    Python.strictLoads s = .ok v ↔ Node.strictParse s = .ok v := by
  constructor
  · intro h
    obtain ⟨u, hlen, h⟩ := bind_ok h
    have hlen := (((check_decides _ _).ok_iff u).1 hlen).1
    split at h
    · cases h
    · next w hw =>
      obtain ⟨u, hsub, h⟩ := bind_ok h
      cases h
      have hsub := (((subset_decides 0 v).ok_iff u).1 hsub).1
      unfold loads at hw
      split_ifs at hw with hbom
      split at hw
      · cases hw
      · next w r hscan =>
        split_ifs at hw with hend
        cases hw
        have hvalue := (value_complete s _).1 _ _ _ _ hscan hsub
          (follow_of_skipSpace (by rw [hend]; simp))
        simp only [Node.strictParse, check, hlen, hbom, hvalue, hend, bind, Except.bind, if_true, ne_eq,
          not_false_eq_true, decide_true]
        rfl
  · intro h
    obtain ⟨u, hlen, h⟩ := bind_ok h
    have hlen := (((check_decides _ _).ok_iff u).1 hlen).1
    obtain ⟨u, hbom, h⟩ := bind_ok h
    have hbom := of_decide_eq_true (((check_decides _ _).ok_iff u).1 hbom).1
    obtain ⟨⟨w, r⟩, hvalue, h⟩ := bind_ok h
    obtain ⟨u, hend, h⟩ := bind_ok h
    cases h
    have hend := of_decide_eq_true (((check_decides _ _).ok_iff u).1 hend).1
    obtain ⟨hscan, hsub⟩ := (value_sound _).1 _ _ _ _ hvalue
    have hloads : loads Python.strictHooks s = .ok v := by
      simp only [loads, if_neg hbom, hscan, hend, if_true]
    simp only [Python.strictLoads, check, hlen, hloads, (subset_decides 0 v).accepts hsub, bind, Except.bind,
      if_true]
    rfl

/-! ## Files -/

theorem decodeUtf8_mark (b : Bytes) : decodeUtf8 (0xef :: 0xbb :: 0xbf :: b) = (decodeUtf8 b).map ('\ufeff' :: ·) :=
  decodeUtf8_encodeChar '\ufeff' b

theorem strictParse_no_mark {s : List Char} {v : Json} (h : Node.strictParse s = .ok v) :
    s.head? ≠ some '\ufeff' := by
  obtain ⟨u, hlen, h⟩ := bind_ok h
  obtain ⟨u, hbom, h⟩ := bind_ok h
  exact of_decide_eq_true (((check_decides _ _).ok_iff u).1 hbom).1

/-- `load_json` and `loadJsonFile` accept the same files and read the same values. -/
theorem loadJson_iff_loadJsonFile {raw : Bytes} {v : Json} :
    Python.loadJson raw = .ok v ↔ Node.loadJsonFile raw = .ok v := by
  have hmark (s : List Char) (hs : decodeUtf8 raw = some s) (hv : Node.strictParse s = .ok v) :
      (!([0xef, 0xbb, 0xbf] : Bytes).isPrefixOf raw) = true := by
    by_contra hp
    simp only [Bool.not_eq_true', Bool.not_eq_false, List.isPrefixOf_iff_prefix] at hp
    obtain ⟨b, rfl⟩ := hp
    obtain ⟨t, -, rfl⟩ := Option.map_eq_some_iff.1 ((decodeUtf8_mark b).symm.trans hs)
    exact strictParse_no_mark hv rfl
  unfold Python.loadJson Node.loadJsonFile
  constructor
  · intro h
    obtain ⟨u, hlen, h⟩ := bind_ok h
    have hlen := (((check_decides _ _).ok_iff u).1 hlen).1
    split at h
    · cases h
    · next s hs =>
      have hv := strictLoads_iff_strictParse.1 h
      simp only [check, hlen, hmark s hs hv, hs, if_true, bind, Except.bind]
      exact hv
  · intro h
    obtain ⟨u, hlen, h⟩ := bind_ok h
    have hlen := (((check_decides _ _).ok_iff u).1 hlen).1
    obtain ⟨u, -, h⟩ := bind_ok h
    split at h
    · cases h
    · next s hs =>
      simp only [check, hlen, hs, if_true, bind, Except.bind]
      exact strictLoads_iff_strictParse.2 h

/-! ## The fuel of the descent -/

theorem value_length {text s r : List Char} {n d : ℕ} {v : Json}
    (h : Node.value text n d s = .ok (v, r)) : r.length < s.length :=
  lt_of_lt_of_le ((scan_length n).1 _ _ _ ((value_sound n).1 _ _ _ _ h).1) (skipSpace_length s)

theorem stringValue_length {text s r : List Char} {k : String} (h : Node.stringValue text s = .ok (k, r)) :
    r.length < s.length := by
  obtain ⟨t, cs, rfl, hcs, -⟩ := (stringValue_iff _).1 h
  exact Nat.lt_succ_of_lt (scanString_length hcs)

/-- One more call of fuel changes nothing once there is enough for the text. -/
theorem value_fuel {text : List Char} (n : ℕ) :
    (∀ d s, 2 * s.length + 1 ≤ n → Node.value text (n + 1) d s = Node.value text n d s) ∧
    (∀ d seen s, 2 * s.length + 2 ≤ n → Node.members text (n + 1) d seen s = Node.members text n d seen s) ∧
    (∀ d s, 2 * s.length + 2 ≤ n → Node.elements text (n + 1) d s = Node.elements text n d s) := by
  induction n with
  | zero => exact ⟨fun d s hs => by omega, fun d seen s hs => by omega, fun d s hs => by omega⟩
  | succ n ih =>
    obtain ⟨ihv, ihm, ihe⟩ := ih
    refine ⟨?_, ?_, ?_⟩
    · intro d s hs
      have hsk := skipSpace_length s
      rw [Node.value, Node.value]
      split_ifs
      · rfl
      · split
        · rfl
        · next t ht =>
          rw [ht, List.length_cons] at hsk
          have h1 := skipSpace_length t
          split
          · rfl
          · rw [ihm _ _ _ (by omega)]
        · next t ht =>
          rw [ht, List.length_cons] at hsk
          have h1 := skipSpace_length t
          split
          · rfl
          · rw [ihe _ _ (by omega)]
        · rfl
    · intro d seen s hs
      have hsk := skipSpace_length s
      rw [Node.members, Node.members]
      refine bind_congr_ok fun p hp => ?_
      have h1 := stringValue_length hp
      refine bind_congr_ok fun _ _ => ?_
      have h2 := skipSpace_length p.2
      split
      · next u hu =>
        rw [hu, List.length_cons] at h2
        rw [ihv _ _ (by omega)]
        refine bind_congr_ok fun ⟨x, r⟩ hq => ?_
        have h3 := value_length hq
        have h4 := skipSpace_length r
        dsimp only
        split
        · rfl
        · next w hw =>
          rw [hw, List.length_cons] at h4
          rw [ihm _ _ _ (by omega)]
        · rfl
      · rfl
    · intro d s hs
      rw [Node.elements, Node.elements, ihv _ _ (by omega)]
      refine bind_congr_ok fun ⟨x, r⟩ hq => ?_
      have h3 := value_length hq
      have h4 := skipSpace_length r
      dsimp only
      split
      · rfl
      · next w hw =>
        rw [hw, List.length_cons] at h4
        rw [ihe _ _ (by omega)]
      · rfl

theorem value_enough {text : List Char} {n d : ℕ} (s : List Char) (hn : scanFuel s ≤ n) :
    Node.value text n d s = Node.value text (scanFuel s) d s := by
  induction n, hn using Nat.le_induction with
  | base => rfl
  | succ n hn ih => rw [← ih, (value_fuel n).1 d s (by unfold scanFuel at hn; omega)]

end VapEvidence.Evidence
