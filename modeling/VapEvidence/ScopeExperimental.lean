import VapEvidence.ScopeCore

set_option autoImplicit false

/-!
# The experimental pass of the declared-scope verifier

`scope_verifier/verifier.py`: `Evaluation.experimental`, the fulfilment of a declared
scope by what was delivered, and `verify` with its report.
-/
namespace VapEvidence.Scope
open Json Recording
open Incident (Packages Raised Run inputError sub sha256Hex)

def unknown (code reason : String) (evidence : List String) : M Unit := record (.unresolved ⟨code, reason, evidence⟩)

def violation (code reason : String) (evidence : List String) : M Unit := record (.finding ⟨code, reason, evidence⟩)

/-- A value that must be a boolean. -/
def booleanValue (value : Json) (message : String) : Run Bool :=
  match value with
  | .bool b => .ok b
  | _ => inputError message

def isNotification (obligation : Json) : Bool := obligation.item "event_type" = .str "notification_receipt"

/-- `obligation_list` -/
def obligationList (value : Json) (name : String) : Run (List Json) := do
  let items ← arrayValue value name
  let ids ← items.mapM fun item => do
    objectValue item (name ++ " item")
    ["id", "source_id", "event_type", "disclosure"].forM fun key => do
      let _ ← stringValue (← sub item key) (name ++ "." ++ key)
    if isNotification item then do
      let notification ← sub item "notification"
      objectValue notification "notification obligation"
      ["trigger", "recipient", "stage"].forM fun key => do
        let _ ← stringValue (← sub notification key) ("notification." ++ key)
      let _ ← natural (← sub notification "deadline") maxTime
    return textAt item "id"
  Incident.require ids.Nodup ("Duplicate obligation IDs in " ++ name)
  return items

section Experimental
variable (pk : Packages) (ev : Evaluation) (c : Core)

/-! ## The scope and its timing -/

/-- The terms of a declared scope. -/
structure Terms where
  scope : Json
  scopeDigest : String
  scopeOk : Bool
  individuals : List Json
  cutoff : ℕ
  start : ℕ
  stop : ℕ
  deadline : ℕ
  timeSupported : Bool
  closureSupported : Bool
  derivationSupported : Bool

def readTerms (scopeEnv : Json) (signedOk : Bool) : M Terms := do
  let scope ← sub scopeEnv "body"
  let scopeDigest ← digest pk scopeEnv
  let pinned ← test "scope.approval_binding" (ev.trust.item "scope_digest" = .str scopeDigest)
    "Exact approved revision pinned by evaluator outside package; amendments are not auto-accepted"
    ["experimental.scope", "trust.scope_digest"]
  (["systems", "operations", "event_classes", "exclusions", "controllers"].forM fun key => do
    let _ ← stringArray (← sub scope key) ("scope." ++ key) : Run Unit)
  let _ ← stringValue (← sub scope "observation_boundary") "scope.observation_boundary"
  let individuals ← obligationList ((scope.get? "individually_required").getD (.arr [])) "individually_required"
  let cutoff ← natural (← sub scope "commitment_cutoff") maxTime
  let start ← natural (← sub scope "start") maxTime
  let stop ← natural (← sub scope "end") maxTime
  let deadline ← natural (← sub scope "submission_deadline") maxTime
  Incident.require (cutoff < start && start ≤ stop && stop ≤ deadline) "Unsupported or inconsistent scope interval/deadlines"
  if (← sub scope "revision") ≠ .str "1" || scope.item "previous_revision" ≠ .null then
    unknown "amendment_unsupported" "Amendments require separate original and revised assessments" ["experimental.scope"]
  let timeSupported ← allOf [do return (← sub scope "interval") = .str "[start,end]",
    do return (← sub scope "time_basis") = .str "synthetic POSIX integer seconds"]
  if !timeSupported then
    unknown "time_semantics_unsupported" "Unimplemented interval or time basis" ["experimental.scope"]
  let closureSupported ← (do return (← sub scope "closure_rule") = .str "signed-source-enumeration-v1" : Run Bool)
  if !closureSupported then
    unknown "closure_rule_unsupported" "Unimplemented source closure rule" ["experimental.scope"]
  let derivationSupported ← allOf [
    do
      let mode ← sub scope "inventory_mode"
      return mode = .str "fixed" || mode = .str "derived",
    do return (← sub scope "derivation_rule") = .str "explicit-obligations-v1"]
  if !derivationSupported then
    unknown "derivation_unsupported" "Unimplemented expected-set derivation" ["experimental.scope"]
  return { scope, scopeDigest, scopeOk := signedOk && pinned && c.policyOk, individuals, cutoff, start, stop, deadline
           timeSupported, closureSupported, derivationSupported }

/-- Whether a closed register proves that the first acceptance came after the cutoff. -/
def late (t : Terms) (scopeReceipt register : Json) : M Bool := do
  let body := scopeReceipt.item "body"
  let r ← sub register "body"
  let closed ← booleanValue (← sub r "closed") "Register closure must be a boolean"
  let closedAt ← natural (← sub r "closed_at") maxTime
  let first ← natural (← sub r "first_accepted_at") maxTime
  let same ← allOf [do return (← sub r "scope_digest") = .str t.scopeDigest,
    do return (← sub r "receipt_digest") = .str (← digest pk scopeReceipt),
    do return equal (← sub r "register_id") (← sub c.policy "timing_register_id")]
  let registerOk ← test "register.binding" same "Closed-register receipt and scope binding" ["experimental.timing_register"]
  return registerOk && closed && first ≤ closedAt && closedAt ≤ ev.at_ && (first : ℤ) = intAt body "accepted_at" &&
    (t.cutoff : ℤ) < first - intAt body "uncertainty"

/-- The advance commitment of the scope. -/
def timing (x : Json) (t : Terms) : M Unit := do
  let scopeReceipt := x.item "scope_receipt"
  let timingOk ← receipt pk ev scopeReceipt t.scopeDigest "scope" "experimental.scope_receipt"
  if timingOk && t.scopeOk && t.timeSupported then
    let body := scopeReceipt.item "body"
    if intAt body "accepted_at" + intAt body "uncertainty" ≤ t.cutoff then
      record (.scope ⟨"advance_commitment", .verified, "Latest simulated receipt bound is no later than cutoff",
        ["experimental.scope_receipt"]⟩)
    else
      let register := x.item "timing_register"
      let registerOk ← if falsy register then pure false
        else signed pk ev register "register" "experimental.timing_register"
      if registerOk then
        if ← late pk ev c t scopeReceipt register then
          violation "late_first_acceptance"
            "Simulated closed trusted register proves first qualifying acceptance missed deadline"
            ["experimental.scope", "experimental.scope_receipt", "experimental.timing_register", "trust"]
        else
          unknown "timing_unresolved" "Register does not establish a definite timing violation"
            ["experimental.timing_register"]
      else
        unknown "late_receipt_only" "Late receipt does not establish whether an earlier qualifying receipt exists"
          ["experimental.scope_receipt"]
  else
    unknown "advance_commitment_unknown" "Advance timing or authority is unresolved"
      ["experimental.scope", "experimental.scope_receipt"]

/-! ## Sidecars -/

/-- `sidecar` -/
def sidecar (x : Json) (t : Terms) (name kind : String) : M Bool := do
  let env := x.item name
  if env = .null then return false
  else
    let valid ← signed pk ev env kind ("experimental." ++ name)
    let same ← (do return (← sub (← sub env "body") "scope_digest") = .str t.scopeDigest : Run Bool)
    let boundOk ← test (name ++ ".scope_binding") same "Sidecar belongs to the exact scope revision" ["experimental." ++ name]
    return boundOk && valid

/-- The body of a sidecar that is there. -/
def sidecarBody (x : Json) (name : String) : Run Json := if falsy (x.item name) then return .null else sub (x.item name) "body"

def bindManifest (manifest : Json) : M Bool := do
  let _ ← booleanValue (← sub manifest "final") "Manifest finality must be a boolean"
  let _ ← natural (← sub manifest "finalized_at") maxTime
  let same ← allOf [do return (← sub manifest "anchor_digest") = .str (← digest pk (ev.p.item "anchor")),
    do return (← sub manifest "delivery_digest") = .str (← digest pk (dict [("events", ev.p.item "events"),
      ("commitment_proofs", commitmentProofs ev)]))]
  test "manifest.package_binding" same "Manifest binds exact delivery bytes and original anchor"
    ["experimental.manifest", "events", "anchor"]

def bindClosure (t : Terms) (closure : Json) : M Bool := do
  let _ ← booleanValue (← sub closure "closed") "Source closure must be a boolean"
  let closedAt ← natural (← sub closure "closed_at") maxTime
  let _ ← stringArray (← sub closure "closed_sources") "closure.closed_sources"
  let _ ← stringArray (← sub closure "observation_gaps") "closure.observation_gaps"
  let same ← allOf [do return equal (← sub closure "configuration_digest") (← sub t.scope "configuration_digest"),
    do return equal (← sub closure "source_id") (← sub t.scope "expectation_source"),
    do return equal (← sub closure "end") (.int t.stop), return t.stop ≤ closedAt]
  test "closure.configuration" same "Closure source, boundary end and configuration binding"
    ["experimental.closure", "experimental.scope"]

/-- The expected obligations, when the inventory can be authenticated or reproduced. -/
def readInventory (x : Json) (t : Terms) (closure inventory : Json) (sourceReady : Bool) : M (Option (List Json)) := do
  let expected ← obligationList (← sub inventory "obligations") "inventory.obligations"
  if (← sub t.scope "inventory_mode") = .str "fixed" then
    let same ← (do return .str (← digest pk (.arr expected)) = (← sub t.scope "expected_digest") : Run Bool)
    let ok ← test "inventory.fixed_commitment" same "Fixed expected enumeration bound before cutoff"
      ["experimental.scope", "experimental.inventory"]
    return if ok then some expected else none
  else if sourceReady && x.item "source_records" ≠ .null then
    let records ← arrayValue (x.item "source_records") "source_records"
    let derived ← (records.mapM fun r => do
      objectValue r "source record"
      sub r "obligation" : Run (List Json))
    let same ← allOf [do return (← sub closure "source_records_digest") = .str (← digest pk (x.item "source_records")),
      do return (← canonical pk (.arr derived)) = (← canonical pk (.arr expected)),
      do return (← sub closure "expected_digest") = .str (← digest pk (.arr expected))]
    let ok ← test "inventory.derived_commitment" same
      "Reproduce expected set from closure-bound source records under explicit-obligations-v1"
      ["experimental.source_records", "experimental.closure", "experimental.inventory"]
    return if ok then some expected else none
  else return none

/-- What the sidecars establish. -/
structure Sidecars where
  closure : Json
  manifest : Json
  manifestOk : Bool
  sourceReady : Bool
  expected : Option (List Json)

def hasGaps (closure : Json) : Bool := !(elems (closure.item "observation_gaps")).isEmpty

def isTrue (v : Json) : Bool := v = .bool true

def readSidecars (x : Json) (t : Terms) : M Sidecars := do
  let inventoryOk := (← sidecar pk ev x t "inventory" "inventory") && t.derivationSupported
  let closureOk := (← sidecar pk ev x t "closure" "closure") && t.closureSupported
  let manifestOk ← sidecar pk ev x t "manifest" "manifest"
  let inventory ← sidecarBody x "inventory"
  let closure ← sidecarBody x "closure"
  let manifest ← sidecarBody x "manifest"
  let manifestOk ← if manifestOk then bindManifest pk ev manifest else pure false
  let closureOk ← if closureOk then bindClosure t closure else pure false
  let established := closureOk && t.timeSupported && isTrue (closure.item "closed") && intAt closure "closed_at" ≤ ev.at_
  let sourceReady := established && !hasGaps closure
  let expected ← if inventoryOk then readInventory pk x t closure inventory sourceReady else pure none
  let closureOk ← match expected with
    | some expected =>
      if closureOk then do
        let same ← (do return (← sub closure "expected_digest") = .str (← digest pk (.arr expected)) : Run Bool)
        test "closure.inventory_binding" same "Closure binds the exact expected enumeration"
          ["experimental.closure", "experimental.inventory"]
      else pure false
    | none => pure closureOk
  if expected.isNone then
    unknown "expected_set_unknown" "Expected inventory cannot be authenticated or reproduced"
      ["experimental.inventory", "experimental.closure"]
  if !(closureOk && established) then
    unknown "source_unclosed" "Expected-set source closure is absent or not yet established" ["experimental.closure"]
  else if hasGaps closure then
    unknown "observation_gap" "Authenticated source reports unresolved observation gaps; signature does not cure them"
      ["experimental.closure"]
  if !manifestOk then
    unknown "manifest_unknown" "Exact final delivery manifest is unavailable or invalid" ["experimental.manifest"]
  return { closure, manifest, manifestOk, sourceReady := sourceReady && closureOk, expected }

/-! ## Obligations -/

/-- `combined[item["id"]] = item` -/
def upsert (item : Json) : List Json → List Json
  | [] => [item]
  | o :: os => if o.item "id" = item.item "id" then item :: os else o :: upsert item os

/-- The expected obligations together with the individual ones of the scope. -/
def combine : List Json → List Json → Run (List Json)
  | combined, [] => .ok combined
  | combined, item :: items => do
    match combined.find? fun o => o.item "id" = item.item "id" with
    | some o =>
      if (← canonical pk o) = (← canonical pk item) then combine (upsert item combined) items
      else inputError ("Conflicting inventory and individual obligation: " ++ textAt item "id")
    | none => combine (upsert item combined) items

/-- The entries of the manifest. -/
def readEntries (s : Sidecars) : Run (List Json) := do
  let entries ← if s.manifestOk then arrayValue (← sub s.manifest "entries") "manifest.entries" else pure []
  entries.forM fun entry => do
    objectValue entry "manifest entry"
    let _ ← stringValue (← sub entry "id") "manifest entry ID"
  Incident.require (entries.map fun e => textAt e "id").Nodup "Duplicate manifest obligation IDs"
  return entries

/-- What the obligations are weighed against. -/
structure Delivery where
  terms : Terms
  sidecars : Sidecars
  entries : List Json
  final : Bool

/-- The presentation state of an obligation in the manifest. -/
def presentation (d : Delivery) (oid : String) : Run String := do
  let state ← (match d.entries.find? fun e => e.item "id" = .str oid with
    | some entry => sub entry "state"
    | none => .ok (.str "unaccounted"))
  Incident.require (["included", "withheld", "unavailable", "unaccounted"].any fun s => state = .str s) "Unknown presentation state"
  return Incident.textOf state

def recordsOf (oid : String) : List Delivered := c.events.filter fun e => e.eventId = oid

def proofsOf (oid : String) : List Commitment := c.proofs.filter fun p => p.identity.item "event_id" = .str oid

def refs : List String := ["experimental.scope", "experimental.inventory", "experimental.manifest", "trust"]

/-- `notification_matches` -/
def notificationMatches (record obligation : Json) : Run Bool := do
  let required := obligation.item "notification"
  let observed ← sub record "payload"
  objectValue observed "notification payload"
  match observed.item "at" with
  | .int at_ =>
    return (["trigger", "recipient", "stage"].all fun k => observed.item k = required.item k) &&
      (0 ≤ at_ && at_ ≤ intAt required "deadline")
  | _ => return false

def stages : List String := ["attempted", "transport_accepted", "delivered_endpoint", "human_acknowledged"]

def sourceClosed (d : Delivery) (obligation : Json) : Bool :=
  d.sidecars.sourceReady && (elems (d.sidecars.closure.item "closed_sources")).contains (obligation.item "source_id")

/-- An obligation that the finalized delivery does not meet. -/
def missing (d : Delivery) (obligation : Json) (unclosed absent : String) (evidence : List String) : M Bool := do
  let oid := textAt obligation "id"
  if isNotification obligation && !sourceClosed d obligation then
    unknown "notification_evidence_unclosed" (oid ++ unclosed) (refs ++ ["experimental.closure"])
  else violation "missing_delivery" (oid ++ absent) evidence
  return false

/-- An obligation that the manifest calls included. -/
def weighIncluded (d : Delivery) (obligation : Json) : M Bool := do
  let oid := textAt obligation "id"
  let records := recordsOf c oid
  match records with
  | [] =>
    if d.final then
      missing d obligation ": inclusion claim lacks receipt and source closure"
        ": claimed inclusion contradicted by exact finalized delivery" (refs ++ ["events"])
    else
      unknown "included_record_unverified" (oid ++ ": manifest inclusion claim cannot be established") (refs ++ ["events"])
      return false
  | [r] =>
    if r.valid then
      if r.body.item "source_id" ≠ obligation.item "source_id" || r.body.item "event_type" ≠ obligation.item "event_type" then
        violation "record_type_mismatch" (oid ++ ": valid record contradicts required source/type") (refs ++ ["events"])
        return false
      else
        let fits ← if isNotification obligation then notificationMatches r.body obligation else pure true
        if fits then return true
        else
          violation "notification_receipt_mismatch"
            (oid ++ ": valid receipt contradicts trigger, recipient, stage or deadline") (refs ++ ["events"])
          return false
    else
      unknown "included_record_unverified" (oid ++ ": manifest inclusion claim cannot be established") (refs ++ ["events"])
      return false
  | _ =>
    if records.all Delivered.valid && d.final then
      violation "duplicate_delivery" (oid ++ ": multiplicity rule requires exactly one record") (refs ++ ["events"])
    else
      unknown "included_record_unverified" (oid ++ ": manifest inclusion claim cannot be established") (refs ++ ["events"])
    return false

/-- An obligation whose content is withheld behind a commitment. -/
def weighCommitment (obligation : Json) : M Bool := do
  let oid := textAt obligation "id"
  match proofsOf c oid with
  | [p] =>
    if p.valid then
      if p.identity.item "source_id" = obligation.item "source_id" &&
          p.identity.item "event_type" = obligation.item "event_type" then return true
      else
        violation "commitment_type_mismatch" (oid ++ ": anchored commitment contradicts required source/type")
          (refs ++ ["commitment_proofs", "anchor"])
        return false
    else
      unknown "commitment_unverified" (oid ++ ": required commitment proof is missing or invalid")
        (refs ++ ["commitment_proofs"])
      return false
  | _ =>
    unknown "commitment_unverified" (oid ++ ": required commitment proof is missing or invalid")
      (refs ++ ["commitment_proofs"])
    return false

/-- One round of the loop over the obligations, after the presentation state is known: whether the
    obligation is satisfied. -/
def weigh (d : Delivery) (state : String) (obligation : Json) : M Bool := do
  let oid := textAt obligation "id"
  let full := obligation.item "disclosure" = .str "full"
  let notification := obligation.item "notification"
  if isNotification obligation && !(stages.any fun s => notification.item "stage" = .str s) then
    unknown "notification_stage_unsupported" "Unimplemented notification acknowledgement stage" refs
    return false
  else if isNotification obligation && (!d.terms.timeSupported || (ev.at_ : ℤ) < intAt notification "deadline") then
    unknown "notification_pending" (oid ++ ": notification evidence deadline has not elapsed") refs
    return false
  else if !(full || obligation.item "disclosure" = .str "commitment") then
    unknown "disclosure_unsupported" "Unimplemented disclosure policy" refs
    return false
  else if state ≠ "included" && !(recordsOf c oid).isEmpty then
    unknown "manifest_disposition_conflict"
      (oid ++ ": manifest disposition conflicts with supplied material; do not infer absence") (refs ++ ["events"])
    return false
  else if (state = "withheld" || state = "unavailable") && full && d.final then
    violation ("required_evidence_" ++ state)
      (oid ++ ": required full evidence explicitly " ++ state ++ "; underlying action remains unknown") refs
    return false
  else if state = "withheld" && !full then weighCommitment c obligation
  else if state = "included" then weighIncluded c d obligation
  else if state = "unaccounted" && d.final then
    missing d obligation ": missing receipt with unclosed source; occurrence unknown"
      ": identified required evidence absent from finalized delivery" refs
  else
    unknown "delivery_unresolved" (oid ++ ": required evidence not yet established") refs
    return false

/-- An obligation with its presentation state, and whether it is satisfied. -/
structure Weighed where
  obligation : Json
  state : String
  satisfied : Bool

def weighOne (d : Delivery) (obligation : Json) : M Weighed := do
  let state ← presentation d (textAt obligation "id")
  return ⟨obligation, state, ← weigh ev c d state obligation⟩

/-! ## Relationships -/

/-- `self.records.get(key, [])` for a key that may be no text. -/
def recordsAt (key : Json) : Run (List Delivered) := do
  asSet [key]
  return c.events.filter fun e => key = .str e.eventId

/-- One round of the loop over the relationships. -/
def relate (relation : Json) : M Unit := do
  objectValue relation "relationship"
  if (← sub relation "rule") ≠ .str "payload-value-equality-v1" then
    unknown "relationship_unsupported" "Unimplemented relationship rule" ["experimental.scope"]
  else
    let left ← sub relation "left"
    let right ← sub relation "right"
    match ← recordsAt c left, ← recordsAt c right with
    | [l], [r] =>
      if l.valid && r.valid then
        let same ← (do
          let l ← canonical pk (← sub (← sub l.body "payload") "value")
          let r ← canonical pk (← sub (← sub r.body "payload") "value")
          return l = r : Run Bool)
        if !same then
          violation "source_disagreement"
            "Authenticated producer and execution observations violate agreed equality; truth of either is unresolved"
            ["experimental.scope", "events:" ++ Incident.textOf left, "events:" ++ Incident.textOf right, "anchor", "trust"]
      else
        unknown "relationship_unverified" "Cannot establish both sides of required relationship" ["experimental.scope", "events"]
    | _, _ =>
      unknown "relationship_unverified" "Cannot establish both sides of required relationship" ["experimental.scope", "events"]

/-! ## Fulfilment -/

/-- What the pass counts. -/
structure Tally where
  expected : Option ℕ
  satisfied : ℕ
  accounted : Bool
  states : List String

def noTally : Tally := ⟨none, 0, false, []⟩

/-- The pass from the sidecars on. -/
def assess (x : Json) (t : Terms) : M Tally := do
  let s ← readSidecars pk ev x t
  let obligations ← combine pk (s.expected.getD []) t.individuals
  Incident.require (obligations.length ≤ maxItems) "Combined obligations exceed the supported limit"
  let entries ← readEntries s
  let finalizedAt := intAt s.manifest "finalized_at"
  let final := t.timeSupported && s.manifestOk && isTrue (s.manifest.item "final") &&
    (t.deadline : ℤ) ≤ finalizedAt && finalizedAt ≤ ev.at_
  if !final then
    unknown "delivery_pending" "Delivery is not authenticated and finalized after its deadline" ["experimental.manifest"]
  let weighed ← each (weighOne ev c ⟨t, s, entries, final⟩) obligations
  let relations ← arrayValue (← sub t.scope "relationships") "scope.relationships"
  let _ ← each (relate pk c) relations
  return {
    expected := s.expected.map fun _ => obligations.length
    satisfied := (weighed.filter Weighed.satisfied).length
    accounted := s.expected.isSome && s.manifestOk && obligations.all fun o => (entries.find? fun e => e.item "id" = o.item "id").isSome
    states := weighed.map Weighed.state }

/-- `Evaluation.experimental`, on the checks that the core pass left. -/
def experimental (before : List Check) : M Tally := do
  let x := ev.p.item "experimental"
  if falsy x then
    unknown "extension_missing" "Experimental sidecars not supplied" ["experimental"]
    return noTally
  else
    let (tally, log) ← listen do
      objectValue x "experimental"
      let scopeEnv := x.item "scope"
      let signedOk ← signed pk ev scopeEnv "scope" "experimental.scope"
      if falsy scopeEnv then
        unknown "scope_missing" "No scope declaration" ["experimental.scope"]
        return none
      else
        let t ← readTerms pk ev c scopeEnv signedOk
        timing pk ev c x t
        if !t.scopeOk then
          unknown "scope_authority" "Approved evaluation scope has not been established" ["experimental.scope", "trust"]
          return none
        else return some (← assess pk ev c x t)
    match tally with
    | none => return noTally
    | some tally =>
      let checks := before ++ cryptoOf log
      if aggregate checks ≠ .verified then
        unknown "cryptographic_prerequisite"
          "Some required cryptographic checks failed or are unresolved; independent violations are retained"
          ((checks.filter fun item => item.result ≠ .verified).map Check.check)
      return tally

end Experimental

inductive Outcome where
  | met
  | notMet
  | indeterminate
  deriving DecidableEq

structure Fulfillment where
  result : Outcome
  expected : Option ℕ
  satisfied : ℕ
  accounted : Bool
  presentationStates : List (String × ℕ)
  violations : List Note
  unresolved : List Note
  checks : List Check
  deriving DecidableEq

/-- `finish` -/
def finish (tally : Tally) (log : List Entry) : Fulfillment where
  result :=
    if log.filterMap Entry.finding? ≠ [] then .notMet
    else if log.filterMap Entry.unresolved? ≠ [] then .indeterminate
    else .met
  expected := tally.expected
  satisfied := tally.satisfied
  accounted := tally.accounted
  presentationStates := tally.states.dedup.map fun s => (s, tally.states.count s)
  violations := log.filterMap Entry.finding?
  unresolved := log.filterMap Entry.unresolved?
  checks := log.filterMap Entry.scope?

/-! ## Reports -/

inductive Mode where
  | vap
  | experimentalScope
  deriving DecidableEq

def Mode.name : Mode → String
  | .vap => "vap-v1.2"
  | .experimentalScope => "experimental-scope"

structure Report where
  implementationVersion : String
  format : String
  mode : Mode
  specification : String × String
  proposalStatus : String
  environment : String
  evaluationId : Json
  evaluationTime : Json
  policyDigest : Json
  inputDigest : String
  trustDigest : String
  integrity : State
  checks : List Check
  requirements : List Check
  scopeFulfillment : Option Fulfillment
  limits : List String
  deriving DecidableEq

def limits : List String :=
  ["Research adapter, not a standardized VAP Evidence Pack format",
    "Synthetic receipt keys do not establish independent time or institutional independence",
    "No production RFC 3161, SCITT, blockchain or log trust-path adapter",
    "No reconstruction of unobserved activity, prevention, certification or legal-compliance conclusion",
    "INT-004 profile sequencing, INT-007 continuity and INT-009 recovery remain unimplemented"]

section Verify
variable (pk : Packages)

/-- The passes of one mode: the checks, the requirements, and what became of the scope. -/
structure Passes where
  evaluation : Evaluation
  core : Core
  coreLog : List Entry
  scope : Option (Tally × List Entry)

/-- The checks that the passes left, in order. -/
def Passes.checks (r : Passes) : List Check := cryptoOf r.coreLog ++ cryptoOf ((r.scope.map Prod.snd).getD [])

def runPasses (package trust : Json) (mode : Mode) (evaluationTime : Json) (allowSynthetic : Bool) : Run Passes := do
  let _ ← canonical pk package
  let _ ← canonical pk trust
  let ev ← newEvaluation package trust evaluationTime allowSynthetic
  let (core, coreLog) ← core pk ev
  match mode with
  | .vap => return ⟨ev, core, coreLog, none⟩
  | .experimentalScope => do
    let scope ← experimental pk ev core (cryptoOf coreLog)
    return ⟨ev, core, coreLog, some scope⟩

/-- The report on the passes. -/
def reportOf (package trust : Json) (mode : Mode) (evaluationTime : Json) (r : Passes) : Run Report := do
  let evaluationId ← sub trust "evaluation_id"
  let policyDigest ← sub trust "policy_digest"
  return {
    implementationVersion := version, format := adapter, mode, specification := ("VAP v1.2.0 Draft 3", baseline)
    proposalStatus := if r.scope.isSome then "experimental_unadopted" else "not_applied"
    environment := if r.evaluation.simulate then "synthetic_simulation" else "offline_non_simulated"
    evaluationId, evaluationTime, policyDigest
    inputDigest := ← digest pk package
    trustDigest := ← digest pk trust
    integrity := aggregate r.checks
    checks := r.checks
    requirements := r.core.requirements
    scopeFulfillment := r.scope.map fun s => finish s.1 s.2
    limits }

/-- Why `verify` raises: an unknown mode, an `InputError` around another exception, or an exception
    that it does not catch. -/
inductive Refused where
  | mode
  | structure (raised : Raised)
  | escapes
  deriving DecidableEq

def refuse : Raised → Refused
  | .other => .escapes
  | raised => .structure raised

def modeOf (mode : String) : Option Mode := [Mode.vap, .experimentalScope].find? fun m => m.name = mode

/-- `verify` -/
def verify (package trust : Json) (mode : String) (evaluationTime : Json) (allowSynthetic : Bool) : Except Refused Report :=
  match modeOf mode with
  | none => .error .mode
  | some mode =>
    (do
      let r ← runPasses pk package trust mode evaluationTime allowSynthetic
      reportOf pk package trust mode evaluationTime r).mapError refuse

end Verify
end VapEvidence.Scope
