import VapEvidence.AssessorErasure
import VapEvidence.AssessorPublication
import VapEvidence.AssessorResponses
import VapEvidence.AssessorTransfer

set_option autoImplicit false

/-!
# The incident assessor

`assess.py`: the validated package, its evidence under the evaluator's trust, and the report
of the workflow that the package names.
-/
namespace VapEvidence.Assessor
open Json Incident Recording

inductive Assessments where
  | transfer (result : Transfer.Assessments)
  | erasure (result : Erasure.Assessments)
  | publication (result : Publication.Assessments)
  | incidentResponse (result : Response.Assessments)
  | crossParty (result : CrossParty.Assessments)
  deriving DecidableEq

inductive Integrity where
  | verifiedUnderEvaluatorTrust
  | failed
  | indeterminate
  deriving DecidableEq

/-- A report, without what is the same in every report. -/
structure Report where
  evaluationId : Json
  workflow : Json
  asOf : Json
  synthetic : Bool
  inputSha256 : String
  trustSha256 : String
  targetSha256 : String
  integrity : Integrity
  assessments : Assessments
  findings : List Finding
  checks : List Check

section Assess
variable (pk : Packages)

/-- `WORKFLOWS[workflow].evaluate` -/
def evaluate (workflow : String) (ctx : Context) : Eval Assessments :=
  match Workflow.all.find? fun w => w.name = workflow with
  | some .transfer => do return .transfer (← Transfer.evaluate pk ctx)
  | some .erasure => do return .erasure (← Erasure.evaluate ctx)
  | some .publication => do return .publication (← Publication.evaluate pk ctx)
  | some .incidentResponse => do return .incidentResponse (← Response.evaluate pk ctx)
  | some .crossParty => do return .crossParty (← CrossParty.evaluate ctx)
  | none => liftM (.error .key : Run Assessments)

/-- `assess` -/
def assess (package trust : Json) (allowSynthetic : Bool) : Run Report := do
  validateTrust pk trust
  validatePackage pk package
  let synthetic : Bool := trust.item "mode" = .str "synthetic-test-only"
  Incident.require (!synthetic || allowSynthetic) "Synthetic public test keys require explicit --allow-synthetic"
  let ctx ← newContext pk package trust
  let (assessments, findings) ← evaluate pk (textOf (package.item "workflow")) ctx
  return {
    evaluationId := package.item "evaluation_id"
    workflow := package.item "workflow"
    asOf := package.item "as_of"
    synthetic
    inputSha256 := ← digest pk package
    trustSha256 := ← digest pk trust
    targetSha256 := ← digest pk (package.item "target")
    integrity :=
      if ctx.integrityEstablished then .verifiedUnderEvaluatorTrust
      else if ctx.checks.any fun c => c.signature = .failed then .failed else .indeterminate
    assessments
    findings := findings.eraseDups
    checks := ctx.checks }

end Assess
end VapEvidence.Assessor
