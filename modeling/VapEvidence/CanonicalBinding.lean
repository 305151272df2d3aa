import VapEvidence.KeyOrder
import VapEvidence.ListExtends
import VapEvidence.PackBinding
import VapEvidence.PackNode
import VapEvidence.VerifierAgreement

set_option autoImplicit false

/-!
# Canonical bytes and roots bind

Both encoders write one text for one value of the subset, which either reader reads
back, and both trees give one root for one list of events.
-/
namespace VapEvidence.Evidence
open Json

/-! ## The subset in any order -/

mutual
theorem keyed_of_subset {d : ℕ} : ∀ {v : Json}, Subset d v → Keyed Printable v
  | .null, _ => trivial
  | .bool _, _ => trivial
  | .int _, _ => trivial
  | .float _, _ => trivial
  | .str _, _ => trivial
  | .arr _, h => keyedList_of_subset h.2
  | .obj _, h => keyedMembers_of_subset h.2
theorem keyedList_of_subset {d : ℕ} : ∀ {xs : List Json}, SubsetElems d xs → KeyedList Printable xs
  | [], _ => trivial
  | _ :: _, h => ⟨keyed_of_subset h.1, keyedList_of_subset h.2⟩
theorem keyedMembers_of_subset {d : ℕ} : ∀ {ms : List (String × Json)}, SubsetMembers d ms → KeyedMembers Printable ms
  | [], _ => trivial
  | (_, _) :: _, h => ⟨h.1, keyed_of_subset h.2.1, keyedMembers_of_subset h.2.2⟩
end

section
variable (le : String → String → Bool)

mutual
theorem subset_sortKeys (d : ℕ) : ∀ v : Json, Subset d (sortKeys le v) ↔ Subset d v
  | .null => Iff.rfl
  | .bool _ => Iff.rfl
  | .int _ => Iff.rfl
  | .float _ => Iff.rfl
  | .str _ => Iff.rfl
  | .arr xs => and_congr_right fun _ => subset_sortElems (d + 1) xs
  | .obj ms => by
    refine and_congr_right fun _ => ?_
    rw [← subset_sortMembers (d + 1) ms, subsetMembers_iff, subsetMembers_iff]
    exact forall_congr' fun m => imp_congr_left (mem_sorted le)
theorem subset_sortElems (d : ℕ) : ∀ xs : List Json, SubsetElems d (sortElems le xs) ↔ SubsetElems d xs
  | [] => Iff.rfl
  | x :: xs => and_congr (subset_sortKeys d x) (subset_sortElems d xs)
theorem subset_sortMembers (d : ℕ) : ∀ ms : List (String × Json), SubsetMembers d (sortMembers le ms) ↔ SubsetMembers d ms
  | [] => Iff.rfl
  | (_, x) :: ms => and_congr_right fun _ => and_congr (subset_sortKeys d x) (subset_sortMembers d ms)
end

end

theorem printable_plane {s : String} (h : Printable s) : ∀ c ∈ s.toList, c.toNat < 65536 := by
  intro c hc
  have := List.all_eq_true.1 h.2 c hc
  simp only [isPrintable, decide_eq_true_eq] at this
  omega

/-- On the keys of the subset the two orders are one. -/
theorem sortKeys_subset {d : ℕ} {v : Json} (h : Subset d v) : sortKeys codeUnitLe v = sortKeys codePointLe v :=
  sortKeys_agrees (fun _ _ ha hb => codeUnitLe_eq (printable_plane ha) (printable_plane hb)) (keyed_of_subset h)

/-! ## Reading back -/

theorem integer_dumpInt {n : ℤ} (h : n.natAbs ≤ maxSafeInteger) : Python.integer (dumpInt n) = .ok (.int n) := by
  obtain ⟨sign, hsign, he⟩ := dumpInt_eq n
  have htoken : IntegerToken sign (Nat.toDigits 10 n.natAbs) := by
    refine ⟨hsign, toDigits_isDigit _, ?_⟩
    by_cases hzero : n.natAbs = 0
    · exact Or.inl (by rw [hzero]; decide)
    · exact Or.inr (toDigits_head _ (by omega))
  rw [he]
  refine (htoken.integer_iff _).2 ?_
  rw [← he, intToken_dumpInt]
  refine ⟨?_, h, rfl⟩
  intro h0
  have := congrArg intToken h0
  rw [intToken_dumpInt] at this
  subst this
  exact absurd h0 (by decide)

mutual
theorem safe_of_subset {d : ℕ} : ∀ {v : Json}, Subset d v → v.WF → Plain (fun n => n.natAbs ≤ maxSafeInteger) v
  | .null, _, _ => trivial
  | .bool _, _, _ => trivial
  | .int _, h, _ => h.2
  | .float _, h, _ => h
  | .str _, _, _ => trivial
  | .arr _, h, hw => safeList_of_subset h.2 hw
  | .obj _, h, hw => ⟨hw.1, safeMembers_of_subset h.2 hw.2⟩
theorem safeList_of_subset {d : ℕ} : ∀ {xs : List Json}, SubsetElems d xs → WFList xs →
    PlainList (fun n => n.natAbs ≤ maxSafeInteger) xs
  | [], _, _ => trivial
  | _ :: _, h, hw => ⟨safe_of_subset h.1 hw.1, safeList_of_subset h.2 hw.2⟩
theorem safeMembers_of_subset {d : ℕ} : ∀ {ms : List (String × Json)}, SubsetMembers d ms → WFMembers ms →
    PlainMembers (fun n => n.natAbs ≤ maxSafeInteger) ms
  | [], _, _ => trivial
  | (_, _) :: _, h, hw => ⟨safe_of_subset h.2.1 hw.1, safeMembers_of_subset h.2.2 hw.2⟩
end

section
variable (py : Platform)

/-- The canonical text of a value is read back. -/
theorem strictLoads_dumps {v : Json} (hs : Subset 0 v) (hw : v.WF)
    (hl : (encodeUtf8 (dumps py.floatRepr true v)).length ≤ maxFileBytes) :
    Python.strictLoads (dumps py.floatRepr true v) = .ok v := by
  have hloads : loads Python.strictHooks (dumps py.floatRepr true v) = .ok v :=
    loads_dumps Python.strictHooks py.floatRepr true (fun n => n.natAbs ≤ maxSafeInteger)
      (fun n hn => integer_dumpInt hn) (fun ms hms => uniquePairs_sorted _ ms hms) v (safe_of_subset hs hw)
  simp only [Python.strictLoads, check, hl, hloads, (subset_decides 0 v).accepts hs, bind, Except.bind, decide_true, if_true]
  rfl

theorem strictLoads_subset {s : List Char} {v : Json} (h : Python.strictLoads s = .ok v) : Subset 0 v := by
  unfold Python.strictLoads at h
  obtain ⟨_, -, h⟩ := bind_ok h
  split at h
  · cases h
  · next w hw =>
    obtain ⟨u, hs, h⟩ := bind_ok h
    cases h
    exact (((subset_decides 0 v).ok_iff u).1 hs).1

/-! ## Both encoders -/

/-- `canonical` of `verify_python.py` on a value in insertion order. -/
def Python.encoded (v : Json) : Except String Bytes := Python.canonical py (sortKeys codePointLe v)

/-- `canonical` of `verify_node.mjs` on a value in insertion order. -/
def Node.encoded (v : Json) : Except String Bytes := Node.canonical (sortKeys codeUnitLe v)

/-- The members of every object in one order. -/
def SameValue (v w : Json) : Prop := sortKeys codePointLe v = sortKeys codePointLe w

theorem python_encoded_iff {v : Json} {b : Bytes} :
    Python.encoded py v = .ok b ↔ Subset 0 v ∧ b = canonBytes py (sortKeys codePointLe v) := by
  rw [Python.encoded, (canonical_decides py _).ok_iff, subset_sortKeys]
  rfl

theorem node_encoded_iff {v : Json} {b : Bytes} :
    Node.encoded v = .ok b ↔ Subset 0 v ∧ b = canonBytes py (sortKeys codePointLe v) := by
  rw [Node.encoded, (node_canonical_decides py _).ok_iff, subset_sortKeys]
  exact and_congr_right fun h => by rw [sortKeys_subset h]; rfl

/-- Both encoders agree on every value; the bytes are read back and stand for one value; and what either reader
    read has the other's canonical text or digest only where the values are one, or SHA-256 collides. -/
theorem canonical_binds :
    (∀ v, v.Distinct → (∀ b, Python.encoded py v = .ok b ↔ Node.encoded v = .ok b) ∧
      (Subset 0 v → ∃ s, Python.encoded py v = .ok (encodeUtf8 s) ∧ Node.encoded v = .ok (encodeUtf8 s) ∧
        ((encodeUtf8 s).length ≤ maxFileBytes →
          Python.strictLoads s = .ok (sortKeys codePointLe v) ∧ Node.strictParse s = .ok (sortKeys codePointLe v))) ∧
      ∀ w b, w.Distinct → Python.encoded py v = .ok b → Node.encoded w = .ok b → SameValue v w) ∧
    ∀ s t v w, Python.strictLoads s = .ok v → Node.strictParse t = .ok w →
      (Python.canonical py v = Node.canonical w ↔ v = w) ∧
      ∀ c, Python.digest py v = .ok c → Node.commitment py w = .ok c →
        v = w ∨ ∃ a b, Python.canonical py v = .ok a ∧ Node.canonical w = .ok b ∧ a ≠ b ∧ py.sha256 a = py.sha256 b := by
  refine ⟨fun v hv => ⟨fun b => ?_, fun hs => ?_, fun w b hw hb hb' => ?_⟩, fun s t v w hv hw => ?_⟩
  · rw [python_encoded_iff, node_encoded_iff py]
  · refine ⟨_, (python_encoded_iff py).2 ⟨hs, rfl⟩, (node_encoded_iff py).2 ⟨hs, rfl⟩, fun hl => ?_⟩
    have hread := strictLoads_dumps py ((subset_sortKeys _ 0 v).2 hs) (wf_sortKeys hv) hl
    exact ⟨hread, strictLoads_iff_strictParse.1 hread⟩
  · obtain ⟨hs, rfl⟩ := (python_encoded_iff py).1 hb
    obtain ⟨hs', he⟩ := (node_encoded_iff py).1 hb'
    exact canonBytes_injective py ⟨(subset_sortKeys _ 0 v).2 hs, wf_sortKeys hv⟩
      ⟨(subset_sortKeys _ 0 w).2 hs', wf_sortKeys hw⟩ he
  · have hw := strictLoads_iff_strictParse.2 hw
    have hsv := strictLoads_subset hv
    have hsw := strictLoads_subset hw
    have hcv := (canonical_decides py v).accepts hsv
    have hcw := (node_canonical_decides py w).accepts hsw
    have heq (h : canonBytes py v = canonBytes py w) : v = w :=
      canonBytes_injective py ⟨hsv, strictLoads_wf hv⟩ ⟨hsw, strictLoads_wf hw⟩ h
    refine ⟨?_, fun c hc hc' => ?_⟩
    · rw [hcv, hcw]
      exact ⟨fun h => heq (Except.ok.inj h), fun h => by rw [h]⟩
    · rw [Python.digest, hcv] at hc
      rw [Node.commitment, hcw] at hc'
      have hhash := hex_injective (Json.str.inj (Except.ok.inj (hc.trans hc'.symm)))
      by_cases hb : canonBytes py v = canonBytes py w
      · exact Or.inl (heq hb)
      · exact Or.inr ⟨_, _, hcv, hcw, hb, hhash⟩

/-! ## Both trees -/

/-- `merkle_root` -/
def Python.merkleRoot (events : List Json) : Run Json := do return .str (hex (← Python.tree py events))

theorem tree_subset {events : List Json} {root : Bytes} (h : Python.tree py events = .ok root) : ∀ e ∈ events, Subset 0 e := by
  fun_induction Python.tree py events generalizing root with
  | case1 => exact fun e he => absurd he List.not_mem_nil
  | case2 leaf =>
    obtain ⟨raw, hraw, -⟩ := bind_ok h
    have hs := ((lift_judges (canonical_decides py leaf)).ok_iff raw).1 hraw
    exact List.forall_mem_singleton.2 hs.1
  | case3 a b rest split ihl =>
    rename_i ihr
    obtain ⟨left, hl, h⟩ := bind_ok h
    obtain ⟨right, hr, -⟩ := bind_ok h
    intro e he
    rw [← List.take_append_drop split (a :: b :: rest)] at he
    exact (List.mem_append.1 he).elim (ihl hl e) (ihr hr e)

theorem python_merkleRoot_iff {events : List Json} {root : Json} :
    Python.merkleRoot py events = .ok root ↔ (∀ e ∈ events, Subset 0 e) ∧ root = rootOf py events := by
  constructor
  · intro h
    obtain ⟨bytes, hb, h⟩ := bind_ok h
    have hs := tree_subset py hb
    rw [Python.tree_ok py hs] at hb
    cases hb
    exact ⟨hs, (Except.ok.inj h).symm⟩
  · rintro ⟨hs, rfl⟩
    rw [Python.merkleRoot, Python.tree_ok py hs]
    rfl

theorem node_merkleRoot_iff {events : List Json} {root : Json} :
    Node.merkleRoot py events = .ok root ↔ (∀ e ∈ events, Subset 0 e) ∧ root = rootOf py events := by
  constructor
  · intro h
    have hs : ∀ e ∈ events, Subset 0 e := by
      obtain ⟨digests, hd, -⟩ := bind_ok h
      intro e he
      obtain ⟨digest, -, hdigest⟩ := forall₂_left (mapM_ok hd) he
      obtain ⟨bytes, hbytes, -⟩ := bind_ok hdigest
      exact (((lift_judges (node_canonical_decides py e)).ok_iff bytes).1 hbytes).1
    rw [Node.merkleRoot_ok py hs] at h
    exact ⟨hs, (Except.ok.inj h).symm⟩
  · rintro ⟨hs, rfl⟩
    exact Node.merkleRoot_ok py hs

/-- The inputs of the hashes in the root of some events. -/
def rootInputs (events : List Json) : List Bytes :=
  ((merkleHash py).inputs (.ofList (events.map (canonBytes py)))).map inputBytes

/-- Both programs give the same roots, and one root stands for one list of events, or SHA-256 collides among the
    inputs of the two trees. -/
theorem merkle_root_binds (hlen : ∀ b, (py.sha256 b).length = 32) :
    (∀ events root, Python.merkleRoot py events = .ok root ↔ Node.merkleRoot py events = .ok root) ∧
    ∀ xs ys root, (∀ x ∈ xs, x.WF) → (∀ y ∈ ys, y.WF) → Python.merkleRoot py xs = .ok root →
      Python.merkleRoot py ys = .ok root →
      xs = ys ∨ ∃ a ∈ rootInputs py xs, ∃ b ∈ rootInputs py ys, a ≠ b ∧ py.sha256 a = py.sha256 b := by
  refine ⟨fun events root => by rw [python_merkleRoot_iff, node_merkleRoot_iff], fun xs ys root hx hy h h' => ?_⟩
  obtain ⟨hxs, rfl⟩ := (python_merkleRoot_iff py).1 h
  obtain ⟨hys, he⟩ := (python_merkleRoot_iff py).1 h'
  rw [rootOf, rootOf, Json.str.injEq] at he
  rcases Merkle.TreeHash.list_binding (hex_injective he) with he | ⟨i, hi, j, hj, hne, hhash⟩
  · exact Or.inl (map_canonBytes_injective py (fun x hm => ⟨hxs x hm, hx x hm⟩) (fun y hm => ⟨hys y hm, hy y hm⟩) he)
  · refine Or.inr ⟨_, List.mem_map_of_mem hi, _, List.mem_map_of_mem hj, fun hb => hne (inputBytes_injective hlen hi hj hb), ?_⟩
    rw [sha256_inputBytes, sha256_inputBytes, hhash]

end

/-! ## A small instance -/

/-- An object out of key order, with a text that both encoders escape. -/
def sampleMembers : Json := .obj [("b", .int (-1)), ("a", .arr [.null, .str "\"\\"])]

theorem sample_canonical_binds : ∃ s, Python.encoded sampleVerifier sampleMembers = .ok (encodeUtf8 s) ∧
    Node.encoded sampleMembers = .ok (encodeUtf8 s) := by
  have hdistinct : sampleMembers.Distinct := ⟨by decide, trivial, ⟨trivial, trivial, trivial⟩, trivial⟩
  have hsubset : Subset 0 sampleMembers := by
    simp only [sampleMembers, Subset, SubsetMembers, SubsetElems, Printable]
    decide +kernel
  obtain ⟨s, hp, hn, -⟩ := ((canonical_binds sampleVerifier).1 sampleMembers hdistinct).2.1 hsubset
  exact ⟨s, hp, hn⟩

def sampleEvents : List Json := [.null, .int 1]

/-- The SHA-256 digests of the inputs of the tree over the sample, by the lengths of the inputs. -/
def sampleTreeDigests : List (ℕ × String) := [
  (5, "b018d21dce8b6a938aecc2bb5ffdef6c1cd0d821f0f282c0eb96a08a36ef7bfe"),
  (2, "2215e8ac4e2b871c2a48189e79738c956c081e23ac2f2415bf77da199dfd920c"),
  (65, "bbfce1e1771c70393abfc6788d2c5cdc5e129327bda791a09b6fbb1c1d728950")]

def sampleTree : Platform := { sampleVerifier with
  sha256 := fun b => ((sampleTreeDigests.lookup b.length).bind unhex).getD (List.replicate 32 0) }

theorem sampleTree_length (b : Bytes) : (sampleTree.sha256 b).length = 32 :=
  @digestTable_length sampleTreeDigests (by decide +kernel) b.length

theorem sample_merkle_root_binds : ∃ root, Python.merkleRoot sampleTree sampleEvents = .ok root ∧
    Node.merkleRoot sampleTree sampleEvents = .ok root := by
  have hsubset : ∀ e ∈ sampleEvents, Subset 0 e := by
    exact List.forall_mem_cons.2 ⟨Nat.zero_le 16, List.forall_mem_singleton.2 ⟨Nat.zero_le 16, by decide⟩⟩
  have hp := (python_merkleRoot_iff sampleTree).2 ⟨hsubset, rfl⟩
  exact ⟨_, hp, ((merkle_root_binds sampleTree sampleTree_length).1 _ _).1 hp⟩

end VapEvidence.Evidence
