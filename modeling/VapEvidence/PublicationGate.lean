import VapEvidence.PublicationStore
import VapEvidence.UploadGateway

set_option autoImplicit false

/-!
# The publication gate

`gate.py` of the publication pilot: the check of a candidate at a time, which is pure, and
`release`, which decides twice around the publisher's durable intent. The assessor is a
parameter; no result rests on what it computes.
-/
namespace VapEvidence.Publication
open Json Incident Interleaving
open Upload (put putIn appendRecord)

/-- `GateConfig` -/
structure GateConfig where
  route : Json
  policyId : String
  policyVersion : String
  policySha256 : String
  keys : Json
  authorities : Json
  collectorKeyId : String
  reviewerKeyId : String
  publisherPublic : String
  publisherKeyId : String

def baseKinds : List String := ["publication_policy", "publication_manifest", "publication_activity",
  "publication_coverage", "publication_disclosure"]
/-- `STATES` of a release -/
def states : List String := ["LOCAL_OUTPUT_CONFIRMED", "BLOCKED_WITHOUT_PUBLICATION", "OUTCOME_UNKNOWN",
  "REPLAY_NO_PUBLICATION", "REQUEST_ID_CONFLICT"]

/-- The reason of a check or a report: a value, or the text of an exception that has none in the model. -/
inductive Reason where
  | json (value : Json)
  | described (e : Raised)

def reasonOf : Raised → Reason
  | .input message => .json (.str message)
  | e => .described e

/-- The result of a check. -/
structure Check where
  at_ : Json
  authorized : Bool
  reason : Reason
  measurements : Json
  assessorFrame : Json

/-! ## Measurements -/

/-- `for item in value` -/
def iterate : Json → Run (List Json)
  | .arr xs => .ok xs
  | .obj ms => .ok (ms.map fun m => .str m.1)
  | .str s => .ok (s.toList.map fun c => .str (String.singleton c))
  | _ => .error .type

/-- A member of a set -/
def hashable : Json → Run Json
  | .arr _ | .obj _ => .error .type
  | v => .ok v

/-- `value[k] != expected` raises. -/
def expect (actual expected : Json) (message : String) : Run Unit := Incident.require (actual.pyEq expected) message

/-- `measured_components` -/
def measuredComponents (view : View) (subject : Json) : List Json :=
  dict [("artifact_id", subject.item "artifact_id"), ("revision_id", subject.item "revision_id"),
    ("sha256", subject.item "payload_sha256"), ("category", .str "text")] ::
  view.adopted.map fun block =>
    dict [("artifact_id", .str (view.documentId ++ ":" ++ block.blockId)), ("revision_id", .str block.revisionId),
      ("sha256", .str block.sha256), ("category", .str "text")]

/-- `adopted_data` -/
def adoptedData (view : View) (subject : Json) : List Json :=
  (view.adopted.zip (measuredComponents view subject).tail).map fun (item, component) =>
    dict [("activity", .str item.activity), ("observed_at", item.observedAt),
      ("adoption_basis", .str "observed_in_artifact"), ("included_in_artifact_sha256", subject.item "payload_sha256"),
      ("component", component)]

/-- What a check has measured of its candidate. -/
structure Measured where
  candidate : Json
  trust : Json
  approval : Json
  package : Json
  view : View
  notice : String
  html : Bytes
  subject : Json
  measurements : Json

section Check
variable (pk : Packages) (assess : Json → Json → Run Json) (config : GateConfig)

/-- `canonical(v) == canonical(w)` -/
def sameCanonical (v w : Json) : Run Bool := do return (← canonical pk v) = (← canonical pk w)

/-- The collector's key was valid when an envelope of the editor was observed. -/
def checkEditorKey (collector envelope : Json) : Run Unit := do
  let observed ← timestamp (← sub (← sub envelope "body") "observed_at")
  let start ← timestamp (← sub collector "not_before")
  Incident.require (start ≤ observed) "Editor signing key was outside its configured validity"
  let stop ← timestamp (← sub collector "not_after")
  Incident.require (observed < stop) "Editor signing key was outside its configured validity"

/-- The bytes of the candidate's rendering. -/
def checkHtml (view : View) (candidate : Json) : Run Bytes := do
  match ← sub candidate "html" with
  | .str s => do
    let html := encodeUtf8 s.toList
    Incident.require (0 < html.length && html.length ≤ maxHtml) "Final HTML differs from the controlled article/disclosure rendering"
    Incident.require (html = (← renderHtml pk view (← sub candidate "disclosure")))
      "Final HTML differs from the controlled article/disclosure rendering"
    return html
  | _ => inputError "Candidate HTML must be UTF-8 text"

/-- The subject of what was measured. -/
def subjectOf (requestId : Json) (view : View) (html : Bytes) (notice : String) : Json :=
  dict ([("request_id", requestId)] ++ config.route.members ++
    [("artifact_id", .str view.documentId), ("revision_id", .str view.revisionId),
      ("payload_sha256", .str (sha256Hex pk html)),
      ("disclosure_sha256", .str (sha256Hex pk (encodeUtf8 notice.toList))), ("policy_id", .str config.policyId),
      ("policy_version", .str config.policyVersion), ("policy_sha256", .str config.policySha256)])

/-- `measurements` with the fingerprint. -/
def measurementsOf (subject candidate : Json) (view : View) (html : Bytes) : Run Json := do
  let fields := [("request_id", subject.item "request_id"), ("candidate_sha256", .str (← digest pk candidate)),
    ("source_sha256", .str view.sourceSha256), ("lineage_sha256", .str view.lineageSha256),
    ("artifact_sha256", subject.item "payload_sha256"), ("disclosure_sha256", subject.item "disclosure_sha256"),
    ("byte_length", .int html.length), ("destination_id", config.route.item "provider_id")]
  return dict (fields ++ [("fingerprint", .str (← digest pk (dict fields)))])

/-- The part of `check` that measures the candidate. -/
@[irreducible] def measure (candidate trust approval at_ : Json) : Run Measured := do
  let candidate ← owned pk candidate
  let trust ← owned pk trust
  let approval ← owned pk approval
  let now ← timestamp at_
  exactKeys candidate ["format", "source", "disclosure", "html", "evidence"] []
  expect (candidate.item "format") (.str "incident-publication-candidate/0.1") "Unsupported candidate format"
  expect (← sub trust "mode") (.str "synthetic-test-only")
    "Evaluator trust differs from the controller-pinned key metadata"
  Incident.require (← sameCanonical pk (← sub trust "keys") config.keys)
    "Evaluator trust differs from the controller-pinned key metadata"
  let package := candidate.item "evidence"
  expect (← sub package "workflow") (.str "publication") "Unexpected workflow or publication authorities"
  expect (← sub (← sub package "target") "authorities") config.authorities
    "Unexpected workflow or publication authorities"
  let _ ← assess package trust
  Incident.require (!(now < (← timestamp (← sub package "as_of")))) "Candidate preparation is after the current operation"
  let collector ← sub config.keys config.collectorKeyId
  let source := candidate.item "source"
  let view ← verifySnapshot pk source (textOf (← sub collector "public_key")) config.collectorKeyId
  let operations ← iterate (← sub source "operations")
  (operations ++ [← sub source "checkpoint"]).forM fun envelope => checkEditorKey collector envelope
  Incident.require (!((← timestamp (← sub package "as_of")) < (← timestamp view.observedAt)))
    "Source checkpoint follows candidate preparation"
  let notice ← disclosureText (candidate.item "disclosure")
  let html ← checkHtml pk view candidate
  let target ← sub (← sub package "target") "subject"
  let subject := subjectOf pk config (← sub target "request_id") view html notice
  Incident.require (← sameCanonical pk subject target) "Candidate target differs from measured bytes, revision, venue or policy"
  return { candidate, trust, approval, package, view, notice, html, subject
           measurements := ← measurementsOf pk config subject candidate view html }

/-- A record of a candidate's kinds that is bound to the subject. -/
def checkBound (subject record : Json) : Run Unit := do
  let kind ← hashable (← sub (← sub record "body") "kind")
  Incident.require (baseKinds.any fun k => kind = .str k) "Candidate record kind or full target binding is unsupported"
  Incident.require (← sameCanonical pk (← sub (← sub record "body") "binding") subject)
    "Candidate record kind or full target binding is unsupported"

/-- The kind and data of a record. -/
def kindData (record : Json) : Run (String × Json) := do
  return (textOf (← sub (← sub record "body") "kind"), ← sub (← sub record "body") "data")

def ofKind (records : List (String × Json)) (kind : String) : List Json :=
  (records.filter fun r => r.1 = kind).map Prod.snd

/-- The data of the only record of a kind. -/
def onlyOf (records : List (String × Json)) (kind : String) : Run Json :=
  match ofKind records kind with
  | [data] => .ok data
  | _ => inputError "Required candidate record is missing or duplicated"

/-- The part of `check` that compares the records with what was measured: the policy. -/
@[irreducible] def project (m : Measured) : Run Json := do
  let records ← iterate (← sub m.package "records")
  records.forM fun record => checkBound pk m.subject record
  let records ← records.mapM kindData
  let manifest ← onlyOf records "publication_manifest"
  let disclosed ← onlyOf records "publication_disclosure"
  let coverage ← onlyOf records "publication_coverage"
  let policy ← onlyOf records "publication_policy"
  let preparedAt ← sub m.package "as_of"
  expect manifest (dict [("observed_at", preparedAt), ("components", .arr (measuredComponents m.view m.subject))])
    "Manifest differs from actually rendered adopted components"
  let recorded ← (ofKind records "publication_activity").mapM fun v => canonical pk v
  let adopted ← (adoptedData m.view m.subject).mapM fun v => canonical pk v
  Incident.require (recorded.isPerm adopted) "Activity projection differs from the verified final block history"
  let disclosure := m.candidate.item "disclosure"
  let activities ← iterate (← sub disclosure "activities")
  let categories := if activities.isEmpty then [] else [Json.str "text"]
  expect disclosed (dict [("categories", .arr categories), ("prepared_at", preparedAt), ("text", .str m.notice)])
    "Disclosure record differs from the rendered structured notice"
  match ← iterate (← sub (m.candidate.item "source") "operations") with
  | [] => .error .other
  | first :: _ => do
    expect coverage (dict [("scope", .str "declared_editor_only"),
      ("from", ← sub (← sub first "body") "observed_at"), ("until", preparedAt)])
      "Coverage record must retain only the observed preparation interval"
    let observed := m.view.observedActivities.map Json.str
    Incident.require (observed.all activities.contains) "Disclosure omits a recorded session activity"
    Incident.require (activities.all observed.contains) "Disclosure claims an unrecorded simulated activity"
    return policy

/-- The evidence of a frame: the package at its time, with the approval's record where one is given. -/
def frameEvidence (m : Measured) (at_ : Json) : Run Json := do
  let frame ← put m.package "as_of" at_
  let frame ← putIn frame "target" "operation_at" at_
  if m.approval = .null then return frame
  else do
    exactKeys m.approval ["release", "evidence"] []
    appendRecord frame (m.approval.item "evidence")

/-- The part of `check` that assesses the candidate at its time: the report, in its frame. -/
def assessFrame (m : Measured) (at_ : Json) : Run (Json × Json) := do
  let frame ← frameEvidence m at_
  let trust ← put m.trust "as_of" at_
  let trust ← put trust "target_sha256" (.str (← digest pk (← sub frame "target")))
  let report ← assess frame trust
  return (report, dict [("evidence", frame), ("trust", trust), ("report", report)])

/-- The names under which an approval is bound to the measurements. -/
def approvedNames : List String :=
  ["request_id", "candidate_sha256", "artifact_sha256", "disclosure_sha256", "destination_id"]

def approvalFields : List String := ["kind", "request_id", "candidate_sha256", "artifact_sha256", "disclosure_sha256",
  "policy_sha256", "destination_id", "approved_at", "valid_until", "decision", "review_scope"]

/-- The assessor's record of an approval against the release. -/
def checkApprovalRecord (record body subject : Json) : Run Unit := do
  let message := "Pilot authorization and assessor approval disagree"
  expect (← sub record "key_id") (.str config.reviewerKeyId) message
  let recorded ← sub record "body"
  expect (← sub recorded "issuer") (← sub config.authorities "reviewer") message
  expect (← sub recorded "kind") (.str "publication_approval") message
  expect (← sub recorded "recorded_at") (body.item "approved_at") message
  Incident.require (← sameCanonical pk (← sub recorded "binding") subject) message
  expect (← sub recorded "data") (dict [("valid_from", body.item "approved_at"),
    ("valid_until", body.item "valid_until"), ("approval", .str "approved")]) message

/-- The reviewer's signed release of an approval, with what binds it. -/
def releaseBody (m : Measured) (at_ : Json) : Run Json := do
  Incident.require (m.approval ≠ .null) "Separate explicit reviewer release authorization is required"
  let key ← sub config.keys config.reviewerKeyId
  let body ← verifyMessage pk (← sub m.approval "release") (textOf (← sub key "public_key")) config.reviewerKeyId
    "release_approval"
  exactKeys body approvalFields []
  approvedNames.forM fun name =>
    expect (body.item name) (m.measurements.item name) ("Release authorization no longer matches " ++ name)
  Incident.require ((body.item "policy_sha256").pyEq (.str config.policySha256) && (body.item "decision").pyEq (.str "approve") &&
    (body.item "review_scope").pyEq (.str "exact_local_artifact_and_disclosure"))
    "Unexpected reviewer decision, scope or policy"
  let approved ← timestamp (body.item "approved_at")
  let until_ ← timestamp (body.item "valid_until")
  let now ← timestamp at_
  let prepared ← timestamp (← sub m.package "as_of")
  Incident.require (prepared ≤ approved && approved ≤ now && now < until_) "Reviewer authorization is premature, future or expired"
  let start ← timestamp (← sub key "not_before")
  Incident.require (start ≤ approved) "Reviewer key was not valid at approval"
  let stop ← timestamp (← sub key "not_after")
  Incident.require (approved < stop) "Reviewer key was not valid at approval"
  return body

/-- `_approval` -/
def checkApproval (m : Measured) (at_ : Json) : Run Unit := do
  let body ← releaseBody pk config m at_
  checkApprovalRecord pk config (← sub m.approval "evidence") body m.subject

/-- The part of `check` that reads the assessor's report. -/
@[irreducible] def conclude (m : Measured) (policy report at_ : Json) : Run Unit := do
  expect (← sub report "evidence_integrity") (.str "VERIFIED_UNDER_EVALUATOR_TRUST")
    "Required evidence signature, identity, role or recording time failed"
  let assessments ← sub report "assessments"
  expect (← sub assessments "policy_applicability") (.str "BOUND_AND_EFFECTIVE_UNDER_GIVEN_ASSUMPTIONS")
    "Publication policy applicability or interpretation is unresolved"
  let action ← sub assessments "publication_action"
  Incident.require (!action.pyEq (.str "BLOCK")) "Recorded session activity is prohibited by the pinned release policy"
  let prohibited ← (← iterate (← sub policy "prohibited_activities")).mapM hashable
  Incident.require (!m.view.observedActivities.any fun a => prohibited.contains (.str a))
    "Recorded session activity is prohibited by the pinned release policy"
  expect (← sub assessments "disclosure_preparation") (.str "RECORDED") "Required disclosure evidence is not established"
  expect (← sub assessments "disclosure_assessment") (.str "REQUIRES_CONTENT_REVIEW")
    "Required disclosure evidence is not established"
  checkApproval pk config m at_
  expect (← sub assessments "approval_applicability") (.str "BOUND_APPROVAL_RECORDED")
    "Current fully bound reviewer approval is not established"

/-- `except (InputError, KeyError, TypeError, UnicodeError)` of `check`. -/
def denied (at_ : Json) (e : Raised) (measurements assessorFrame : Json) : Run Check :=
  match e with
  | .other => .error .other
  | e => .ok ⟨at_, false, reasonOf e, measurements, assessorFrame⟩

/-- `check` -/
def check (candidate trust approval at_ : Json) : Run Check :=
  match measure pk assess config candidate trust approval at_ with
  | .error e => denied at_ e .null .null
  | .ok m =>
    match (do return (← project pk m, ← assessFrame pk assess m at_)) with
    | .error e => denied at_ e m.measurements .null
    | .ok (policy, report, frame) =>
      match conclude pk config m policy report at_ with
      | .error e => denied at_ e m.measurements frame
      | .ok _ => .ok ⟨at_, true, .json (.str
          "Explicit reviewer authorization for the exact local artifact; core assessment remains REVIEW"),
          m.measurements, frame⟩

/-! ## Receipts -/

def receiptFields : List String := ["kind", "request_id", "fingerprint", "artifact_sha256", "disclosure_sha256",
  "byte_length", "destination_id", "visible_name", "observed_at"]

/-- `verify_receipt` -/
def verifyReceipt (receipt measurements finalAt postAt : Json) : Run Json := do
  let body ← verifyMessage pk receipt config.publisherPublic config.publisherKeyId "local_publication_receipt"
  exactKeys body receiptFields []
  ["request_id", "fingerprint", "artifact_sha256", "disclosure_sha256", "byte_length", "destination_id"].forM fun field => do
    Incident.require (← sameCanonical pk (body.item field) (measurements.item field))
      ("Local receipt does not match measured " ++ field)
  Incident.require (isReceiptLength (body.item "byte_length")) "Invalid local receipt length"
  match measurements.item "request_id" with
  | .str requestId => do
    expect (body.item "visible_name") (.str (safeName pk requestId)) "Local receipt names another output"
    let start ← timestamp finalAt
    let observed ← timestamp (body.item "observed_at")
    Incident.require (start ≤ observed) "Local receipt time is outside the publication observation"
    Incident.require (observed ≤ (← timestamp postAt)) "Local receipt time is outside the publication observation"
    return body
  | _ => .error .other
where
  isReceiptLength : Json → Bool
    | .int n => 0 < n && n ≤ maxHtml
    | _ => false

end Check

/-! ## `release` -/

/-- A gate, the arguments of one `release` and the publisher it is given. -/
structure Call where
  config : GateConfig
  candidate : Json
  trust : Json
  approval : Json
  publisher : LocalPublisher
  afterSnapshot : Bool
  beforePublish : Bool

/-- The report of a release; what is absent is `null`. -/
structure Report where
  state : String
  attempted : Option Bool
  reason : Reason
  preflight : Option Check
  finalGate : Option Check
  publication : Json
  receipt : Json
  postAt : Json

/-- What `publisher.publish` does with the caller's gate: it returns a value or raises, and the last
    result of the gate stays with the caller. -/
abbrev Publishing : Type :=
  Json → String → Bytes → String → Program (Run Check) → Program (Except Thrown Json × Option Check)

/-- The exception of a clock, where nothing catches it. -/
def Thrown.raised : Thrown → Raised
  | .input message => .input message
  | _ => .other

/-- `publish` of a local publisher. -/
def LocalPublisher.publishing (pk : Packages) (p : LocalPublisher) : Publishing :=
  fun requestId fingerprint html disclosureSha256 gate => do
    match ← publish pk p gate Check.authorized requestId fingerprint html disclosureSha256 false with
    | .error (.input message) => return (.error (.input message), none)
    | .error _ => return (.error .other, none)
    | .ok outcome => return (.ok outcome.result.toJson, outcome.gate)

section Release
variable (pk : Packages) (assess : Json → Json → Run Json) (c : Call)

def clock : Program (Run Json) :=
  .eff .clock fun
    | .ok at_ => .ret (.ok at_)
    | .error e => .ret (.error e.raised)

/-- `final_gate` -/
def finalGate (candidate trust approval at_ : Json) : Program (Run Check) :=
  (if c.beforePublish then pass .beforePublish fun r => r else .ret (.ok ())).andThen fun _ =>
  clock.andThen fun finalAt => .ret do
    let result ← check pk assess c.config candidate trust approval finalAt
    if (← timestamp finalAt) < (← timestamp at_) then
      return { result with authorized := false, reason := .json (.str "Clock moved backwards before publication") }
    else return result

/-- The state that a result of the publisher has, if it is well formed. -/
def publishedState (result : Json) : Run (String × Bool) := do
  Incident.require result.isDict "Malformed local publisher result"
  let state ← hashable (result.item "state")
  match states.find? fun s => state = .str s, result.item "attempted" with
  | some s, .bool attempted => return (s, attempted)
  | _, _ => inputError "Malformed local publisher result"

/-- The receipt of a confirmed publication. -/
def confirmation (preflight : Check) (finalGate : Option Check) (result postAt : Json) : Run Json := do
  match result.item "attempted", finalGate with
  | .bool true, some final => do
    Incident.require final.authorized "Output confirmation lacks its final authorization"
    let receipt ← sub result "receipt"
    let body ← verifyReceipt pk c.config receipt preflight.measurements final.at_ postAt
    let message := "Publisher confirmation lacks matching persistence or visible filename"
    expect (← sub result "journal_state") (.str "local_output_confirmed") message
    expect (← sub result "visible_name") (body.item "visible_name") message
    return receipt
  | _, _ => inputError "Output confirmation lacks its final authorization"

/-- `except (InputError, OSError)` around the publisher. -/
def uncertain (report : Report) (reason : Reason) : Report :=
  { report with
    state := "OUTCOME_UNKNOWN", reason, receipt := .null
    attempted := if report.publication = .null then none else report.attempted }

/-- The part of a release that follows the publisher's result. -/
def settle (preflight : Check) (report : Report) (result : Json) : Program (Run Report) :=
  match publishedState result with
  | .error (.input message) => .ret (.ok (uncertain report (.json (.str message))))
  | .error e => .ret (.error e)
  | .ok (state, attempted) =>
    let report := { report with publication := result, attempted := some attempted }
    match sub result "reason" with
    | .error e => .ret (.error e)
    | .ok reason =>
      let report := { report with state, reason := .json reason }
      .eff .clock fun
        | .error (.input message) | .error (.os message) => .ret (.ok (uncertain report (.json (.str message))))
        | .error .other => .ret (.error .other)
        | .ok postAt =>
          let report := { report with postAt }
          let closed : Run Report := do
            let _ ← timestamp postAt
            if state = "LOCAL_OUTPUT_CONFIRMED" then
              return { report with receipt := ← confirmation pk c preflight report.finalGate result postAt }
            else return report
          match closed with
          | .error (.input message) => .ret (.ok (uncertain report (.json (.str message))))
          | .error e => .ret (.error e)
          | .ok report => .ret (.ok report)

/-- `decode_json(canonical(value))` of the three inputs. -/
def ownInputs (candidate trust approval : Json) : Run (Json × Json × Json) := do
  return (← owned pk candidate, ← owned pk trust, ← owned pk approval)

/-- From an authorized preflight on. -/
def publishChecked (publishing : Publishing) (candidate trust approval : Json) (preflight : Check) (report : Report) :
    Program (Run Report) := do
  let html := encodeUtf8 (textOf (candidate.item "html")).toList
  let measured := preflight.measurements
  (if c.afterSnapshot then pass .afterSnapshot fun r => r else .ret (.ok ())).andThen fun _ => do
    let (published, final) ← publishing (measured.item "request_id") (textOf (measured.item "fingerprint")) html
      (textOf (measured.item "disclosure_sha256")) (finalGate pk assess c candidate trust approval preflight.at_)
    let report := { report with postAt := .null, finalGate := final }
    match published with
    | .error (.input message) | .error (.os message) => return .ok (uncertain report (.json (.str message)))
    | .error .other => return .error .other
    | .ok result => settle pk c preflight report result

/-- From the captured inputs on. -/
def releaseOwned (publishing : Publishing) (candidate trust approval at_ : Json) : Program (Run Report) :=
  (Prog.ret (check pk assess c.config candidate trust approval at_)).andThen fun preflight =>
    let report : Report :=
      ⟨"BLOCKED_WITHOUT_PUBLICATION", some false, preflight.reason, some preflight, none, .null, .null, at_⟩
    if !preflight.authorized then .ret (.ok report)
    else if .str c.publisher.destinationId ≠ c.config.route.item "provider_id" ∨
        c.publisher.publicKey ≠ c.config.publisherPublic ∨ c.publisher.keyId ≠ c.config.publisherKeyId then
      .ret (.ok { report with
        reason := .json (.str "Publisher destination or signing identity differs from the controller pin") })
    else publishChecked pk assess c publishing candidate trust approval preflight report

/-- `release` to a publisher -/
def releaseTo (publishing : Publishing) : Program (Run Report) :=
  clock.andThen fun at_ =>
    match ownInputs pk c.candidate c.trust c.approval with
    | .error (.input message) =>
      .ret (.ok ⟨"BLOCKED_WITHOUT_PUBLICATION", some false, .json (.str message), none, none, .null, .null, at_⟩)
    | .error e => .ret (.error e)
    | .ok (candidate, trust, approval) => releaseOwned pk assess c publishing candidate trust approval at_

/-- `release` -/
def release : Program (Run Report) := releaseTo pk assess c (c.publisher.publishing pk)

end Release
end VapEvidence.Publication
