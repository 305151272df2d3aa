import Mathlib.Data.List.Dedup
import Mathlib.Data.List.MinMax
import Mathlib.Data.List.Sort
import Mathlib.Data.Prod.Lex
import Mathlib.Data.String.Basic
import VapEvidence.AssessorInput
import VapEvidence.Recording

set_option autoImplicit false

/-!
# Evidence of the incident assessor

`evidence.py`: every record of a package is checked against the evaluator's trust, and the
records that pass are what the assessments of a workflow read.
-/
namespace VapEvidence.Assessor
open Json Incident

/-! ## Records -/

inductive SignatureCheck where
  | untrustedKey
  | verified
  | failed
  deriving DecidableEq

inductive IdentityCheck where
  | unknown
  | expectedIssuer
  | mismatch
  deriving DecidableEq

inductive RoleCheck where
  | unknown
  | authorized
  | unauthorized
  deriving DecidableEq

inductive TimeCheck where
  | futureRecord
  | withinDeclaredWindow
  | outsideKeyValidity
  deriving DecidableEq

structure Check where
  recordId : String
  kind : String
  signature : SignatureCheck
  identity : IdentityCheck
  role : RoleCheck
  time : TimeCheck
  evaluationMatches : Bool
  bindingDifferences : List String
  eligible : Bool
  deriving DecidableEq

/-- A record that is eligible; `differing` are the fields of its binding that differ from the subject. -/
structure VerifiedRecord where
  recordId : String
  kind : String
  issuer : String
  recordedAt : ℤ
  binding : Json
  data : Json
  organization : String
  differing : List String
  deriving DecidableEq

structure Finding where
  code : String
  recordIds : List String
  deriving DecidableEq

abbrev Eval : Type → Type := Recording Raised Finding

structure Context where
  target : Json
  subject : Json
  asOf : ℤ
  operationAt : ℤ
  trustKeys : Json
  checks : List Check
  eligible : List VerifiedRecord
  integrityEstablished : Bool

section Evidence
variable (pk : Packages)

/-- What the key of a record says of it, where the evaluator has one. -/
def keyCheck (target : Json) (envelope : Json) (check : Check) (key : Json) : Run Check := do
  let body := envelope.item "body"
  let message ← signingBytes pk recordDomain (unsignedOf envelope)
  let issuer := body.item "issuer"
  let recorded := timeOf (body.item "recorded_at")
  match unhex (textOf (key.item "public_key")), unhex (textOf (envelope.item "signature")) with
  | some public_, some signature => do
    let found : Check := { check with
      signature := if pk.verify public_ message signature then .verified else .failed
      identity := if issuer = key.item "issuer" ∧ (target.item "authorities").get? (roleOf check.kind) = some issuer
        then .expectedIssuer else .mismatch
      role := if (textsOf (key.item "roles")).contains (roleOf check.kind) then .authorized else .unauthorized
      time := if timeOf (key.item "not_before") ≤ recorded ∧ recorded < timeOf (key.item "not_after") then check.time
        else .outsideKeyValidity }
    return { found with
      eligible := found.signature = .verified && found.identity = .expectedIssuer && found.role = .authorized &&
        found.time = .withinDeclaredWindow && found.evaluationMatches }
  | _, _ => .error .other

/-- The fields of the subject whose canonical bytes differ in the binding. -/
def bindingDifferences (subject binding : Json) : Run (List String) :=
  subject.keys.filterM fun k => do
    return (← canonical pk (binding.item k)) ≠ (← canonical pk (subject.item k))

/-- One round of the loop of `Context.__init__`. -/
def checkRecord (evaluationId : Json) (target : Json) (asOf : ℤ) (trustKeys : Json) (envelope : Json) :
    Run (Check × Option VerifiedRecord) := do
  let body := envelope.item "body"
  let kind := textOf (body.item "kind")
  let recorded := timeOf (body.item "recorded_at")
  let differing ← bindingDifferences pk (target.item "subject") (body.item "binding")
  let check : Check := {
    recordId := textOf (body.item "record_id"), kind
    signature := .untrustedKey, identity := .unknown, role := .unknown
    time := if asOf < recorded then .futureRecord else .withinDeclaredWindow
    evaluationMatches := body.item "evaluation_id" = evaluationId
    bindingDifferences := differing
    eligible := false }
  match trustKeys.get? (textOf (envelope.item "key_id")) with
  | none => return (check, none)
  | some key => do
    let found ← keyCheck pk target envelope check key
    if found.eligible then
      return (found, some {
        recordId := check.recordId, kind, issuer := textOf (body.item "issuer"), recordedAt := recorded
        binding := body.item "binding", data := body.item "data"
        organization := textOf (key.item "organization"), differing })
    else return (found, none)

/-- `Context.__init__` -/
def newContext (package trust : Json) : Run Context := do
  let target := package.item "target"
  let asOf := timeOf (package.item "as_of")
  let operationAt := timeOf (target.item "operation_at")
  Incident.require (package.item "evaluation_id" = trust.item "evaluation_id")
    "Trust configuration is for a different evaluation"
  Incident.require (package.item "workflow" = trust.item "workflow") "Workflow differs from the evaluator-pinned workflow"
  Incident.require (asOf = timeOf (trust.item "as_of")) "Observation cutoff differs from the evaluator-pinned cutoff"
  Incident.require (!(asOf < operationAt)) "Target operation time is after the observation cutoff"
  let targetDigest ← digest pk target
  Incident.require (.str targetDigest = trust.item "target_sha256") "Target differs from the evaluator-pinned target digest"
  let found ← (itemsOf (package.item "records")).mapM
    (checkRecord pk (package.item "evaluation_id") target asOf (trust.item "keys"))
  let checks := found.map Prod.fst
  return {
    target, subject := target.item "subject", asOf, operationAt, trustKeys := trust.item "keys", checks
    eligible := found.filterMap Prod.snd
    integrityEstablished := !checks.isEmpty && checks.all (·.eligible) }

end Evidence

/-! ## Reading the evidence -/

namespace Context
variable (ctx : Context)

def records (kind : String) : List VerifiedRecord := ctx.eligible.filter fun r => r.kind = kind

/-- `differences` for the given fields -/
def differences (r : VerifiedRecord) (fields : List String) : List String :=
  fields.filter fun k => !ctx.subject.keys.contains k || !r.binding.keys.contains k || r.differing.contains k

/-- `matches` for the given fields -/
def matchesOn (r : VerifiedRecord) (fields : List String) : Bool := (ctx.differences r fields).isEmpty

/-- `bound` for the given fields -/
def boundOn (kind : String) (fields : List String) : List VerifiedRecord :=
  (ctx.records kind).filter fun r => ctx.matchesOn r fields

/-- `bound` for all fields of the subject -/
def bound (kind : String) : List VerifiedRecord := ctx.boundOn kind ctx.subject.keys

/-- `organization_for` -/
def organizationFor (role : String) : Option String :=
  let issuer := (ctx.target.item "authorities").get? role
  let organizations := (ctx.trustKeys.members.filter fun k =>
    some (k.2.item "issuer") = issuer && (textsOf (k.2.item "roles")).contains role).map fun k =>
      textOf (k.2.item "organization")
  match organizations.dedup with
  | [organization] => some organization
  | _ => none

end Context

/-- `ctx.finding` -/
def finding (code : String) (records : List VerifiedRecord) : Eval Unit :=
  Recording.record ⟨code, (records.map VerifiedRecord.recordId).dedup.insertionSort (· ≤ ·)⟩

/-- A finding where there is a reason for one. -/
def findingIf (c : Bool) (code : String) (records : List VerifiedRecord) : Eval Unit :=
  if c then finding code records else pure ()

/-- The records for which there is no reason against; the reason of every other is a finding. -/
def sift (reason : VerifiedRecord → Run (Option (String × List VerifiedRecord))) (records : List VerifiedRecord) :
    Eval (List VerifiedRecord) :=
  Recording.keep (fun r => do
    match ← liftM (reason r) with
    | none => return true
    | some (code, involved) => do
      finding code involved
      return false) records

/-- The fields that the target of a workflow needs. -/
def requireSubject (ctx : Context) (fields : List String) (message : String) : Run Unit :=
  Incident.require (fields.all fun f => ctx.subject.keys.contains f) message

end VapEvidence.Assessor
