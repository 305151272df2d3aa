import VapEvidence.PackNode
import VapEvidence.PackPython
import VapEvidence.StrictAgreement

set_option autoImplicit false

/-!
# The verdicts of the two verifiers

Both verifiers decide `Accepted` of the values in the two files, and both read the
same values from the same bytes.
-/
namespace VapEvidence.Evidence
open Json

theorem strictHooks_closed : Closed Python.strictHooks WF where
  null := trivial
  bool _ := trivial
  str _ := trivial
  arr xs h := (wfList_iff xs).2 h
  parseInt t v h := by
    obtain ⟨_, -, h⟩ := bind_ok h
    obtain ⟨_, -, h⟩ := bind_ok h
    obtain ⟨_, -, h⟩ := bind_ok h
    cases h
    trivial
  parseFloat t v h := by cases h
  parseConstant t v h := by cases h
  objectPairs ms v h hv := by
    rw [(strict_objectPairs.1 hv).2]
    exact dict_wf h

theorem strictLoads_wf {s : List Char} {v : Json} (h : Python.strictLoads s = .ok v) : v.WF := by
  unfold Python.strictLoads at h
  obtain ⟨u, -, h⟩ := bind_ok h
  split at h
  · cases h
  · next w hw =>
    obtain ⟨u, -, h⟩ := bind_ok h
    cases h
    exact loads_closed strictHooks_closed hw

theorem loadJson_wf {raw : Bytes} {v : Json} (h : Python.loadJson raw = .ok v) : v.WF := by
  unfold Python.loadJson at h
  obtain ⟨u, -, h⟩ := bind_ok h
  split at h
  · cases h
  · exact strictLoads_wf h

section
variable (py : Platform)

/-- The files hold values of which the trust file accepts the pack. -/
def AcceptedFiles (packFile trustFile : Bytes) : Prop :=
  ∃ pack trust, Python.loadJson packFile = .ok pack ∧ Python.loadJson trustFile = .ok trust ∧ Accepted py pack trust

/-- Reading both files and then verifying decides whether the files are accepted. -/
theorem run_judges {load : Bytes → Except String Json} (hload : ∀ raw v, load raw = .ok v ↔ Python.loadJson raw = .ok v)
    {verify : Json → Json → Run (List String)}
    (hverify : ∀ pack trust, pack.WF → trust.WF → Judges (verify pack trust) (Accepted py pack trust) checkNames)
    (packFile trustFile : Bytes) :
    Judges (do verify (← lift (load packFile)) (← lift (load trustFile))) (AcceptedFiles py packFile trustFile)
      checkNames := by
  have hrefuse {file : Bytes} {e : String} (he : load file = .error e) (v : Json) : Python.loadJson file ≠ .ok v :=
    fun h => by rw [(hload file v).2 h] at he; cases he
  cases hp : load packFile with
  | error e =>
    refine Decides.congr (refuse_judges e _) (iff_of_false id ?_)
    rintro ⟨pack, trust, h, -⟩
    exact hrefuse hp pack h
  | ok pack =>
    cases ht : load trustFile with
    | error e =>
      refine Decides.congr (refuse_judges e _) (iff_of_false id ?_)
      rintro ⟨pack, trust, -, h, -⟩
      exact hrefuse ht trust h
    | ok trust =>
      have hpack := (hload _ _).1 hp
      have htrust := (hload _ _).1 ht
      refine Decides.congr (hverify pack trust (loadJson_wf hpack) (loadJson_wf htrust)) ?_
      refine ⟨fun h => ⟨pack, trust, hpack, htrust, h⟩, ?_⟩
      rintro ⟨pack', trust', hpack', htrust', h⟩
      cases hpack.symm.trans hpack'
      cases htrust.symm.trans htrust'
      exact h

theorem verdict_eq {m : Run (List String)} {P : Prop} (h : Judges m P checkNames) :
    (P → verdict m = .pass checkNames) ∧ (¬P → verdict m = .fail) := by
  refine ⟨fun hp => by rw [h.accepts hp]; rfl, fun hp => ?_⟩
  obtain ⟨e, he, hm⟩ := h.refuses hp
  cases e with
  | verification message => rw [hm]; rfl
  | other => cases he

theorem python_verdict (packFile trustFile : Bytes) :
    (AcceptedFiles py packFile trustFile → Python.main py packFile trustFile = .pass checkNames) ∧
      (¬AcceptedFiles py packFile trustFile → Python.main py packFile trustFile = .fail) :=
  verdict_eq (run_judges py (fun _ _ => Iff.rfl) (fun _ _ _ ht => Python.verifyPack_judges py ht) packFile trustFile)

theorem node_verdict (packFile trustFile : Bytes) :
    (AcceptedFiles py packFile trustFile → Node.main py packFile trustFile = .pass checkNames) ∧
      (¬AcceptedFiles py packFile trustFile → Node.main py packFile trustFile = .fail) :=
  verdict_eq (run_judges py (fun _ _ => loadJson_iff_loadJsonFile.symm)
    (fun _ _ hp ht => Node.verifyPack_judges py hp ht) packFile trustFile)

/-- The two verifiers give one verdict on any two files, PASS or FAIL, and read the same value from
    any text. -/
theorem verifiers_agree :
    (∀ packFile trustFile, Python.main py packFile trustFile = Node.main py packFile trustFile ∧
      Python.main py packFile trustFile ≠ .error) ∧
    ∀ s v, Python.strictLoads s = .ok v ↔ Node.strictParse s = .ok v := by
  refine ⟨fun packFile trustFile => ?_, fun s v => strictLoads_iff_strictParse⟩
  by_cases h : AcceptedFiles py packFile trustFile
  · rw [(python_verdict py packFile trustFile).1 h, (node_verdict py packFile trustFile).1 h]
    exact ⟨rfl, nofun⟩
  · rw [(python_verdict py packFile trustFile).2 h, (node_verdict py packFile trustFile).2 h]
    exact ⟨rfl, nofun⟩

end
end VapEvidence.Evidence
