import VapEvidence.IncidentEnvelopes
import VapEvidence.ScopeExperimental

set_option autoImplicit false

/-!
# Sidecars stay apart

Packages that differ in their experimental member alone get the same result of the
current framework, in either mode.
-/
namespace VapEvidence.Scope
open Json Recording
open Incident (Packages Raised Run inputError sub sha256Hex)

/-- The packages agree on every member but the experimental one. -/
def SameCore (p q : Json) : Prop := ∀ k, k ≠ "experimental" → p.get? k = q.get? k

section Evaluation
variable {pk : Packages} {p q : Json} {ev : Evaluation}

theorem sub_get? {v : Json} {k : String} (h : v.isDict = true) :
    sub v k = ((v.get? k).map Except.ok).getD (.error .key) := by
  cases v with
  | obj ms =>
    rw [sub, Json.get?, Json.members]
    cases ms.lookup k <;> rfl
  | _ => cases h

theorem item_congr {k : String} (h : p.get? k = q.get? k) : p.item k = q.item k := by rw [Json.item, Json.item, h]

variable (hp : p.isDict = true) (hq : q.isDict = true)
include hp hq

theorem sub_congr {k : String} (h : p.get? k = q.get? k) : sub p k = sub q k := by
  rw [sub_get? hp, sub_get? hq, h]

theorem readBatch_eq (hanchor : p.get? "anchor" = q.get? "anchor") (hindex : p.get? "batch_index" = q.get? "batch_index") :
    readBatch { ev with p := p } = readBatch { ev with p := q } := by
  simp only [readBatch, item_congr hanchor, sub_congr hp hq hanchor, sub_congr hp hq hindex]

theorem readPolicy_eq (h : SameCore p q) : readPolicy { ev with p := p } = readPolicy { ev with p := q } := by
  simp only [readPolicy, sub_congr hp hq (h "format" (by decide)), sub_congr hp hq (h "events" (by decide)),
    sub_congr hp hq (h "policy" (by decide))]

theorem anchored_eq (h : SameCore p q) : anchored pk { ev with p := p } = anchored pk { ev with p := q } := by
  unfold anchored
  rw [readPolicy_eq hp hq h, readBatch_eq hp hq (h "anchor" (by decide)) (h "batch_index" (by decide))]
  dsimp only
  rw [item_congr (h "anchor" (by decide)), item_congr (h "anchor_receipt" (by decide))]
  rfl

/-- The core pass reads nothing of the experimental member. -/
theorem core_eq (h : SameCore p q) : core pk { ev with p := p } = core pk { ev with p := q } := by
  have hproofs : commitmentProofs { ev with p := p } = commitmentProofs { ev with p := q } := by
    rw [commitmentProofs, commitmentProofs, h _ (by decide : "commitment_proofs" ≠ "experimental")]
  unfold core
  rw [anchored_eq hp hq h, hproofs]
  dsimp only
  rw [item_congr (h "events" (by decide))]
  rfl

end Evaluation

/-! ## Passes and reports -/

section Reports
variable {pk : Packages} {p q trust time : Json} {simulate : Bool}

theorem newEvaluation_ok {package at_ : Json} {ev : Evaluation} (h : newEvaluation package trust at_ simulate = .ok ev) :
    package.isDict = true ∧ ∃ n, natural at_ maxTime = .ok n ∧
      ev = ⟨package, trust, n, simulate && trust.item "purpose" = .str "synthetic-test-only"⟩ := by
  obtain ⟨_, hpackage, h⟩ := bind_ok h
  obtain ⟨_, -, h⟩ := bind_ok h
  obtain ⟨n, hn, h⟩ := bind_ok h
  cases h
  exact ⟨Incident.require_ok hpackage, n, hn, rfl⟩

/-- What a run of the passes consists of. -/
theorem runPasses_ok {package : Json} {mode : Mode} {r : Passes}
    (h : runPasses pk package trust mode time simulate = .ok r) :
    newEvaluation package trust time simulate = .ok r.evaluation ∧ core pk r.evaluation = .ok (r.core, r.coreLog) ∧
      (mode = .vap → r.scope = none) ∧
      (mode = .experimentalScope → ∃ s, r.scope = some s ∧ experimental pk r.evaluation r.core (cryptoOf r.coreLog) = .ok s) := by
  obtain ⟨_, -, h⟩ := bind_ok h
  obtain ⟨_, -, h⟩ := bind_ok h
  obtain ⟨ev, hev, h⟩ := bind_ok h
  obtain ⟨⟨c, log⟩, hcore, h⟩ := bind_ok h
  cases mode with
  | vap =>
    cases h
    exact ⟨hev, hcore, fun _ => rfl, fun hm => (by cases hm)⟩
  | experimentalScope =>
    obtain ⟨s, hs, h⟩ := bind_ok h
    cases h
    exact ⟨hev, hcore, fun hm => (by cases hm), fun _ => ⟨s, rfl, hs⟩⟩

/-- A report says of the passes what they left. -/
theorem reportOf_ok {package : Json} {mode : Mode} {r : Passes} {report : Report}
    (h : reportOf pk package trust mode time r = .ok report) :
    ∃ evaluationId policyDigest inputDigest trustDigest, digest pk trust = .ok trustDigest ∧
      sub trust "evaluation_id" = .ok evaluationId ∧ sub trust "policy_digest" = .ok policyDigest ∧
      report = { implementationVersion := version, format := adapter, mode, specification := ("VAP v1.2.0 Draft 3", baseline)
                 proposalStatus := if r.scope.isSome then "experimental_unadopted" else "not_applied"
                 environment := if r.evaluation.simulate then "synthetic_simulation" else "offline_non_simulated"
                 evaluationId, evaluationTime := time, policyDigest, inputDigest, trustDigest
                 integrity := aggregate r.checks, checks := r.checks, requirements := r.core.requirements
                 scopeFulfillment := r.scope.map fun s => finish s.1 s.2, limits } := by
  obtain ⟨evaluationId, hid, h⟩ := bind_ok h
  obtain ⟨policyDigest, hpolicy, h⟩ := bind_ok h
  obtain ⟨inputDigest, -, h⟩ := bind_ok h
  obtain ⟨trustDigest, htrust, h⟩ := bind_ok h
  cases h
  exact ⟨evaluationId, policyDigest, inputDigest, trustDigest, htrust, hid, hpolicy, rfl⟩

theorem verify_ok {package : Json} (mode : Mode) {report : Report}
    (h : verify pk package trust mode.name time simulate = .ok report) :
    ∃ r, runPasses pk package trust mode time simulate = .ok r ∧ reportOf pk package trust mode time r = .ok report := by
  have hmode : modeOf mode.name = some mode := by cases mode <;> decide
  rw [verify, hmode] at h
  cases hr : (do
    let r ← runPasses pk package trust mode time simulate
    reportOf pk package trust mode time r : Run Report) with
  | error e =>
    simp only [hr] at h
    cases h
  | ok report' =>
    simp only [hr] at h
    cases h
    obtain ⟨r, hrun, hreport⟩ := bind_ok hr
    exact ⟨r, hrun, hreport⟩

/-- Passes on packages with the same core leave the same core. -/
theorem passes_core {mode mode' : Mode} {r r' : Passes} (h : SameCore p q)
    (hr : runPasses pk p trust mode time simulate = .ok r) (hr' : runPasses pk q trust mode' time simulate = .ok r') :
    r.core = r'.core ∧ r.coreLog = r'.coreLog ∧ r.evaluation.simulate = r'.evaluation.simulate := by
  obtain ⟨hev, hcore, -, -⟩ := runPasses_ok hr
  obtain ⟨hev', hcore', -, -⟩ := runPasses_ok hr'
  obtain ⟨hp, n, hn, he⟩ := newEvaluation_ok hev
  obtain ⟨hq, n', hn', he'⟩ := newEvaluation_ok hev'
  obtain rfl := Except.ok.inj (hn.symm.trans hn')
  rw [he] at hcore
  rw [he'] at hcore'
  have heq := @core_eq pk p q ⟨p, trust, n, simulate && trust.item "purpose" = .str "synthetic-test-only"⟩ hp hq h
  have hsame := Except.ok.inj (hcore.symm.trans (heq.trans hcore'))
  rw [he, he']
  exact ⟨congrArg Prod.fst hsame, congrArg Prod.snd hsame, rfl⟩

/-- No sidecar changes a result of the current framework. -/
theorem sidecars_isolated (h : SameCore p q) :
    (∀ reportP reportQ, verify pk p trust "vap-v1.2" time simulate = .ok reportP →
      verify pk q trust "vap-v1.2" time simulate = .ok reportQ →
      { reportP with inputDigest := reportQ.inputDigest } = reportQ) ∧
    (∀ report reportX, verify pk p trust "vap-v1.2" time simulate = .ok report →
      verify pk p trust "experimental-scope" time simulate = .ok reportX →
      reportX.requirements = report.requirements ∧ ∃ later, reportX.checks = report.checks ++ later) := by
  refine ⟨fun reportP reportQ hP hQ => ?_, fun report reportX hP hX => ?_⟩
  · obtain ⟨r, hr, hreport⟩ := verify_ok .vap hP
    obtain ⟨r', hr', hreport'⟩ := verify_ok .vap hQ
    obtain ⟨hcore, hlog, hsimulate⟩ := passes_core h hr hr'
    have hnone := (runPasses_ok hr).2.2.1 rfl
    have hnone' := (runPasses_ok hr').2.2.1 rfl
    obtain ⟨_, _, _, _, htrust, hid, hpolicy, rfl⟩ := reportOf_ok hreport
    obtain ⟨_, _, _, _, htrust', hid', hpolicy', rfl⟩ := reportOf_ok hreport'
    obtain rfl := Except.ok.inj (htrust.symm.trans htrust')
    obtain rfl := Except.ok.inj (hid.symm.trans hid')
    obtain rfl := Except.ok.inj (hpolicy.symm.trans hpolicy')
    simp only [Passes.checks, hcore, hlog, hsimulate, hnone, hnone']
  · obtain ⟨r, hr, hreport⟩ := verify_ok .vap hP
    obtain ⟨r', hr', hreport'⟩ := verify_ok .experimentalScope hX
    obtain ⟨hcore, hlog, -⟩ := passes_core (fun _ _ => rfl) hr hr'
    have hnone := (runPasses_ok hr).2.2.1 rfl
    obtain ⟨_, _, _, _, -, -, -, rfl⟩ := reportOf_ok hreport
    obtain ⟨_, _, _, _, -, -, -, rfl⟩ := reportOf_ok hreport'
    refine ⟨congrArg Core.requirements hcore.symm, cryptoOf ((r'.scope.map Prod.snd).getD []), ?_⟩
    simp only [Passes.checks, hlog, hnone, Option.map_none, Option.getD_none]
    rw [show cryptoOf [] = [] from rfl, List.append_nil]

end Reports

/-! ## A small instance -/

def zeros : String := "0000000000000000000000000000000000000000000000000000000000000000"

/-- Packages whose digests are all zero. -/
def samplePackages : Packages :=
  { Incident.samplePackages with
    sha256 := fun _ => List.replicate 32 0
    rfc8785 := fun v => some (encodeUtf8 (dumps (fun _ => []) false v)) }

def samplePackage (sidecars : List (String × Json)) : Json := dict (sidecars ++
  [("format", .str adapter), ("events", .arr []), ("batch_index", .arr []),
    ("policy", dict [("adapter", .str adapter), ("event_signers", .obj []),
      ("multiplicity", .str "exactly-one-per-obligation")]),
    ("anchor", dict [("body", dict [("kind", .str "anchor"), ("evaluation_id", .str "e"), ("policy_digest", .str zeros),
      ("batch", dict [("event_count", .int 0), ("index_digest", .str zeros), ("merkle_root", .str zeros),
        ("first_event_id", .null), ("last_event_id", .null), ("policy_digest", .str zeros)])])])])

def sampleTrust : Json := dict [("evaluation_id", .str "e"), ("policy_digest", .str zeros)]

theorem sample_sidecars_isolated : ∃ reportP reportQ,
    verify samplePackages (samplePackage [("experimental", .str "sidecar")]) sampleTrust "vap-v1.2" (.int 5) true = .ok reportP ∧
      verify samplePackages (samplePackage []) sampleTrust "vap-v1.2" (.int 5) true = .ok reportQ ∧
      { reportP with inputDigest := reportQ.inputDigest } = reportQ := by
  have hsame : SameCore (samplePackage [("experimental", .str "sidecar")]) (samplePackage []) := by
    intro k hk
    rw [samplePackage, samplePackage, get?_dict, get?_dict, List.reverse_append, List.reverse_append, List.lookup_append,
      List.lookup_append]
    have hnone : (k == "experimental") = false := by simpa using hk
    simp [List.lookup_cons, hnone]
  have hp : (verify samplePackages (samplePackage [("experimental", .str "sidecar")]) sampleTrust "vap-v1.2" (.int 5)
    true).toOption.isSome = true := by decide +kernel
  have hq : (verify samplePackages (samplePackage []) sampleTrust "vap-v1.2" (.int 5) true).toOption.isSome = true := by
    decide +kernel
  have hreturns {x : Except Refused Report} (h : x.toOption.isSome = true) : ∃ r, x = .ok r := by
    cases x with
    | error e => cases h
    | ok r => exact ⟨r, rfl⟩
  obtain ⟨reportP, hP⟩ := hreturns hp
  obtain ⟨reportQ, hQ⟩ := hreturns hq
  exact ⟨reportP, reportQ, hP, hQ, (sidecars_isolated hsame).1 reportP reportQ hP hQ⟩

end VapEvidence.Scope
