import VapEvidence.EvidenceMonotone
import VapEvidence.JsonSizes

set_option autoImplicit false

/-!
# Verdicts with less evidence

Bundles that differ in evidence that was removed, or replaced by envelopes that do not
verify: of two such bundles the smaller one never decides against the larger one.
-/
namespace VapEvidence.PaymentEvidence
open Json

variable (py : Platform)

/-! ## Reading a bundle back -/

mutual
theorem jsonValue_plain : ∀ (d : ℕ) (v : Json), jsonValue py d v = .ok () → WF v → Plain (fun _ => True) v
  | _, .null, _, _ => trivial
  | _, .bool _, _, _ => trivial
  | _, .int _, _, _ => trivial
  | _, .float _, h, _ => by
    obtain ⟨-, -, h⟩ := bind_ok h
    cases h
  | _, .str _, _, _ => trivial
  | d, .arr xs, h, hw => by
    obtain ⟨-, -, h⟩ := bind_ok h
    obtain ⟨-, -, h⟩ := bind_ok h
    exact jsonElems_plain (d + 1) xs h hw
  | d, .obj ms, h, hw => by
    obtain ⟨-, -, h⟩ := bind_ok h
    obtain ⟨-, -, h⟩ := bind_ok h
    exact ⟨hw.1, jsonMembers_plain (d + 1) ms h hw.2⟩
theorem jsonElems_plain : ∀ (d : ℕ) (xs : List Json), jsonElems py d xs = .ok () → WFList xs →
    PlainList (fun _ => True) xs
  | _, [], _, _ => trivial
  | d, x :: xs, h, hw => by
    obtain ⟨_, hx, h⟩ := bind_ok h
    exact ⟨jsonValue_plain d x hx hw.1, jsonElems_plain d xs h hw.2⟩
theorem jsonMembers_plain : ∀ (d : ℕ) (ms : List (String × Json)), jsonMembers py d ms = .ok () → WFMembers ms →
    PlainMembers (fun _ => True) ms
  | _, [], _, _ => trivial
  | d, (k, x) :: ms, h, hw => by
    obtain ⟨-, -, h⟩ := bind_ok h
    obtain ⟨_, hx, h⟩ := bind_ok h
    exact ⟨jsonValue_plain d x hx hw.1, jsonMembers_plain d ms h hw.2⟩
end

theorem canonicalJson_ok {v : Json} {raw : Bytes} (h : canonicalJson py v = .ok raw) :
    jsonValue py 0 v = .ok () ∧ raw = encodeUtf8 (dumps py.floatRepr false v) ∧ raw.length ≤ maxDocument := by
  obtain ⟨_, hc, h⟩ := bind_ok h
  obtain ⟨_, hl, h⟩ := bind_ok h
  cases h
  exact ⟨hc, rfl, of_decide_eq_true (require_ok.1 hl)⟩

theorem canonicalJson_eq {v : Json} (h : jsonValue py 0 v = .ok ()) (hl : Json.size py.floatRepr v ≤ maxDocument) :
    canonicalJson py v = .ok (encodeUtf8 (dumps py.floatRepr false v)) := by
  have hl' : require (decide ((encodeUtf8 (dumps py.floatRepr false v)).length ≤ maxDocument)) "json_document_limit" = .ok () :=
    require_ok.2 (decide_eq_true hl)
  rw [canonicalJson, h]
  change (require _ _ >>= _) = _
  rw [hl']
  rfl

/-- What is written canonically is read back as it was. -/
theorem loadJson_canonicalJson {v : Json} {raw : Bytes} (hv : v.WF) (h : canonicalJson py v = .ok raw) :
    loadJson py raw = .ok v := by
  obtain ⟨hc, hraw, hl⟩ := canonicalJson_ok py h
  have hp := jsonValue_plain py 0 v hc hv
  have hloads : loads evidenceHooks (dumps py.floatRepr false v) = .ok v :=
    loads_dumps evidenceHooks py.floatRepr false (fun _ => True)
      (fun n _ => by simp [evidenceHooks, intToken_dumpInt])
      (fun ms hms => uniquePairs_sorted _ ms hms) v hp
  have hl' : require (decide (raw.length ≤ maxDocument)) "json_input_type_or_size" = .ok () :=
    require_ok.2 (decide_eq_true hl)
  rw [loadJson, hl', hraw, decodeText_dumps py _ v hp]
  change (loads evidenceHooks _ >>= _) = _
  rw [hloads]
  change (canonicalJson py v >>= _) = _
  rw [h]
  rfl

theorem readBundle_eq {bundle read : Json} (hw : bundle.WF) (h : readBundle py bundle = .ok read) : read = bundle := by
  obtain ⟨raw, hraw, h⟩ := bind_ok h
  obtain ⟨value, hvalue, h⟩ := bind_ok h
  obtain ⟨-, -, h⟩ := bind_ok h
  obtain ⟨-, -, h⟩ := bind_ok h
  obtain ⟨-, -, h⟩ := bind_ok h
  cases h
  exact Except.ok.inj (hvalue.symm.trans (loadJson_canonicalJson py hw hraw))

/-! ## Evidence taken away -/

/-- The envelope bears a signature under the role's key that it names. -/
def Verifies (trust : Trust) (slot : Slot) (env : Json) : Prop :=
  envelopeOk env = true ∧ ∃ publicKey message, trustedKey trust slot (env.item "key_id") = some publicKey ∧
    signedBytes py env = .ok message ∧
    py.verify publicKey message ((unhex (env.item "signature").text).getD []) = true

/-- The first bundle is the second one with slots removed, or replaced by envelopes that do not verify. -/
structure Weakened (trust : Trust) (bundle' bundle : Json) : Prop where
  runId : bundle'.item "run_id" = bundle.item "run_id"
  operation : bundle'.item "operation" = bundle.item "operation"
  evidence : ∀ slot : Slot, (bundle'.item "evidence").get? slot.name = (bundle.item "evidence").get? slot.name ∨
    (bundle'.item "evidence").get? slot.name = none ∨
    ∃ env, (bundle'.item "evidence").get? slot.name = some env ∧ ¬ Verifies py trust slot env

/-- A record that is used comes in an envelope that verifies. -/
theorem readRecord_found {trust : Trust} {runId : Json} {slot : Slot} {env : Option Json} {checks : List Check}
    {record : Json × Bytes} (h : readRecord py trust runId slot env = .ok (checks, some record)) :
    ∃ e, env = some e ∧ Verifies py trust slot e := by
  cases env with
  | none => cases h
  | some e =>
    unfold readRecord at h
    obtain ⟨ref, -, h⟩ := bind_ok h
    by_cases hshape : envelopeOk e = true
    · rw [hshape, Bool.not_true, if_neg Bool.false_ne_true] at h
      cases hkey : trustedKey trust slot (e.item "key_id") with
      | none =>
        rw [hkey] at h
        cases h
      | some publicKey =>
        rw [hkey] at h
        obtain ⟨message, hmessage, h⟩ := bind_ok h
        split_ifs at h with hsig hrecord
        · cases h
        · cases h
        · exact ⟨e, rfl, hshape, publicKey, message, hkey, hmessage, by simpa using hsig⟩
    · rw [Bool.eq_false_iff.2 hshape] at h
      cases h

variable {py} {trust : Trust} {bundle bundle' : Json}

theorem slotFinding_found {slot : Slot} {finding : Finding} (h : slotFinding py trust bundle slot = .ok finding)
    {record : Json × Bytes} (hf : finding.found = some record) :
    finding.digest.isSome = true ∧
      ∃ env, (bundle.item "evidence").get? slot.name = some env ∧ Verifies py trust slot env := by
  obtain ⟨⟨checks, found⟩, hrecord, h⟩ := bind_ok h
  obtain ⟨ref, href, h⟩ := bind_ok h
  cases h
  cases hf
  obtain ⟨env, henv, hverifies⟩ := readRecord_found py hrecord
  refine ⟨?_, env, henv, hverifies⟩
  rw [henv, Option.mapM_some] at href
  obtain ⟨d, -, hd⟩ := map_ok href
  rw [← hd]
  rfl

theorem allFindings_ok {found : Slot → Finding} (h : allFindings py trust bundle = .ok found) (slot : Slot) :
    slotFinding py trust bundle slot = .ok (found slot) := by
  obtain ⟨_, h1, h⟩ := bind_ok h
  obtain ⟨_, h2, h⟩ := bind_ok h
  obtain ⟨_, h3, h⟩ := bind_ok h
  obtain ⟨_, h4, h⟩ := bind_ok h
  obtain ⟨_, h5, h⟩ := bind_ok h
  obtain ⟨_, h6, h⟩ := bind_ok h
  obtain ⟨_, h7, h⟩ := bind_ok h
  obtain ⟨_, h8, h⟩ := bind_ok h
  cases h
  cases slot
  · exact h1
  · exact h2
  · exact h3
  · exact h4
  · exact h5
  · exact h6
  · exact h7
  · exact h8

/-- A record found in the weakened bundle is found in the same envelope of the other one. -/
theorem Weakened.finding (h : Weakened py trust bundle' bundle) {slot : Slot} {finding' finding : Finding}
    (hf' : slotFinding py trust bundle' slot = .ok finding') (hf : slotFinding py trust bundle slot = .ok finding)
    {record : Json × Bytes} (hr : finding'.found = some record) : finding' = finding := by
  obtain ⟨-, env, henv, hverifies⟩ := slotFinding_found hf' hr
  have hsame : (bundle'.item "evidence").get? slot.name = (bundle.item "evidence").get? slot.name := by
    rcases h.evidence slot with heq | hnone | ⟨e, he, hnot⟩
    · exact heq
    · rw [henv] at hnone
      cases hnone
    · obtain rfl := Option.some.inj (henv.symm.trans he)
      exact absurd hverifies hnot
  have heq : slotFinding py trust bundle' slot = slotFinding py trust bundle slot := by
    rw [slotFinding, slotFinding, hsame, h.runId]
  exact Except.ok.inj (hf'.symm.trans (heq.trans hf))

theorem beyond_none {at' at_ : ℤ} (ht : at' ≤ at_) {slot : Slot} {body : Json} (h : beyond at' slot body = none) :
    beyond at_ slot body = none := by
  unfold beyond at h ⊢
  cases hf : observedField slot with
  | none => rfl
  | some f =>
    simp only [hf, Option.bind_some] at h ⊢
    split_ifs at h with hlt
    rw [if_neg (fun hlt' => hlt (lt_of_le_of_lt ht hlt'))]

theorem viewOf_record {operationDigest : String} {at_ : ℤ} {found : Slot → Finding} {slot : Slot} {body : Json} :
    (viewOf bundle operationDigest at_ found).records slot = some body ↔
      (∃ key, (found slot).found = some (body, key)) ∧ beyond at_ slot body = none := by
  rw [viewOf, Option.filter_eq_some_iff, Option.map_eq_some_iff, Option.isNone_iff_eq_none]
  refine and_congr_left fun _ => ⟨?_, ?_⟩
  · rintro ⟨⟨_, key⟩, hf, rfl⟩
    exact ⟨key, hf⟩
  · rintro ⟨key, hf⟩
    exact ⟨_, hf, rfl⟩

/-- The evaluators see less of a weakened bundle, from an earlier time. -/
theorem Weakened.below (h : Weakened py trust bundle' bundle) {at' at_ : ℤ} (ht : at' ≤ at_)
    {found' found : Slot → Finding} (hf' : allFindings py trust bundle' = .ok found')
    (hf : allFindings py trust bundle = .ok found) (operationDigest : String) :
    Below (viewOf bundle' operationDigest at' found') (viewOf bundle operationDigest at_ found) := by
  have hsame {slot : Slot} (hs : ((viewOf bundle' operationDigest at' found').records slot).isSome = true) :
      found' slot = found slot := by
    obtain ⟨body, hb⟩ := Option.isSome_iff_exists.1 hs
    obtain ⟨⟨key, hrecord⟩, -⟩ := viewOf_record.1 hb
    exact h.finding (allFindings_ok hf' slot) (allFindings_ok hf slot) hrecord
  refine ⟨h.operation, rfl, fun slot body hb => ?_, fun slot hs => ?_, fun slot hs => ?_, fun slot hs => ?_⟩
  · obtain ⟨⟨key, hrecord⟩, hnone⟩ := viewOf_record.1 hb
    rw [hsame (by rw [hb]; rfl)] at hrecord
    exact viewOf_record.2 ⟨⟨key, hrecord⟩, beyond_none ht hnone⟩
  · exact congrArg Finding.digest (hsame hs)
  · exact congrArg (fun f : Finding => f.found.map Prod.snd) (hsame hs)
  · obtain ⟨body, hb⟩ := Option.isSome_iff_exists.1 hs
    obtain ⟨⟨key, hrecord⟩, -⟩ := viewOf_record.1 hb
    exact (slotFinding_found (allFindings_ok hf slot) hrecord).1

/-! ## Verdicts -/

/-- An assessed bundle, with what its evaluators saw and asked. -/
structure Assessed (py : Platform) (trust : Trust) (identities : Json) (at_ maxAge : ℤ) (bundle : Json)
    (report : Report) (operationDigest : String) (found : Slot → Finding) (authorized : List Check) : Prop where
  digest : digest py (bundle.item "operation") = .ok operationDigest
  findings : allFindings py trust bundle = .ok found
  checks : authorization py (viewOf bundle operationDigest at_ found) identities at_ maxAge = .ok authorized
  authorization : (report.claims .authorization).verdict = verdictOf authorized
  execution : (report.claims .executionMatch).verdict =
    verdictOf (execution py (viewOf bundle operationDigest at_ found) at_).1
  control : (report.claims .controlState).verdict =
    verdictOf (control (viewOf bundle operationDigest at_ found) at_ maxAge)

theorem assess_ok {identities : Json} {at_ maxAge : ℤ} {report : Report}
    (h : assess py trust identities at_ maxAge bundle = .ok report) :
    ∃ operationDigest found authorized,
      Assessed py trust identities at_ maxAge bundle report operationDigest found authorized := by
  obtain ⟨operationDigest, hdigest, h⟩ := bind_ok h
  obtain ⟨found, hfound, h⟩ := bind_ok h
  obtain ⟨authorized, hauthorized, h⟩ := bind_ok h
  cases h
  exact ⟨operationDigest, found, authorized, hdigest, hfound, hauthorized, rfl, rfl, rfl⟩

theorem verifyBundle_ok {identities : Json} {at_ maxAge : ℤ} {read : Json} {report : Report}
    (h : verifyBundle py bundle trust identities at_ maxAge = .ok report) (hread : readBundle py bundle = .ok read) :
    ∃ mapping, readIdentities py identities = .ok mapping ∧ assess py trust mapping at_ maxAge read = .ok report := by
  obtain ⟨-, -, h⟩ := bind_ok h
  obtain ⟨mapping, hmapping, h⟩ := bind_ok h
  obtain ⟨-, -, h⟩ := bind_ok h
  rw [hread] at h
  exact ⟨mapping, hmapping, h⟩

def sampleHash : String := "sha256:0000000000000000000000000000000000000000000000000000000000000000"

def sampleOperation : Json := .obj
  [("action", .str "transfer"), ("adapter", .str adapterName), ("amount_minor", .str "1"), ("api_audience", .str "a"),
    ("beneficiary", .str "b"), ("configuration_digest", .str sampleHash), ("credential_id", .str "c"),
    ("currency", .str "EUR"), ("environment", .str "e"), ("idempotency_domain", .str "d"), ("idempotency_key", .str "i"),
    ("minor_unit_scale", .int 2), ("nonce", .str "7"), ("operation_id", .str "o"), ("payload_digest", .str sampleHash),
    ("policy_digest", .str sampleHash), ("principal_id", .str "p"), ("recovery_epoch", .int 1),
    ("source_account", .str "s"), ("tenant", .str "t"), ("valid_from", .int 0), ("valid_until", .int 9),
    ("workload_id", .str "w")]

def sampleBundle (evidence : List (String × Json)) : Json := .obj
  [("evidence", .obj evidence), ("operation", sampleOperation), ("run_id", .str "r"), ("schema", .str bundleSchema),
    ("synthetic", .bool true)]

theorem sampleOperation_checks :
    jsonValue Payment.samplePlatform 0 sampleOperation = .ok () ∧ jsonValue Payment.samplePlatform 1 sampleOperation = .ok () :=
  ⟨by decide +kernel, by decide +kernel⟩

theorem sampleOperation_size : Json.size Payment.samplePlatform.floatRepr sampleOperation ≤ 1000 := by decide +kernel

theorem sampleOperation_wf : sampleOperation.WF := by
  refine ⟨?_, by simp [WFMembers, WF]⟩
  unfold SortedKeys
  decide +kernel

theorem sampleBundle_read (evidence : List (String × Json)) (hw : (sampleBundle evidence).WF)
    (hchecks : jsonValue Payment.samplePlatform 1 (.obj evidence) = .ok ())
    (hsize : Json.size Payment.samplePlatform.floatRepr (.obj evidence) ≤ 1000)
    (hslots : (evidence.map Prod.fst).all (fun k => (slots.map Slot.name).contains k) = true) :
    readBundle Payment.samplePlatform (sampleBundle evidence) = .ok (sampleBundle evidence) := by
  have hcheck : jsonValue Payment.samplePlatform 0 (sampleBundle evidence) = .ok () := by
    have hrest : jsonMembers Payment.samplePlatform 1 [("run_id", .str "r"), ("schema", .str bundleSchema),
      ("synthetic", .bool true)] = .ok () := by decide +kernel
    have hkeys : checkText Payment.samplePlatform 1 "evidence" = .ok () ∧
      checkText Payment.samplePlatform 1 "operation" = .ok () := by decide +kernel
    rw [sampleBundle, jsonValue, jsonMembers, jsonMembers, hkeys.1, hkeys.2, hchecks, sampleOperation_checks.2, hrest]
    rfl
  have hfit : Json.size Payment.samplePlatform.floatRepr (sampleBundle evidence) ≤ maxDocument := by
    refine (size_obj_le _).trans ?_
    have hkeys : textSize "evidence" + textSize "operation" ≤ 30 := by decide +kernel
    have hrest : (([("run_id", .str "r"), ("schema", .str bundleSchema), ("synthetic", .bool true)] : List (String × Json)).map
      (memberSize Payment.samplePlatform.floatRepr)).sum ≤ 1000 := by decide +kernel
    have hop := sampleOperation_size
    rw [List.map_cons, List.map_cons, List.sum_cons, List.sum_cons, memberSize, memberSize, maxDocument]
    dsimp only
    omega
  have hcanonical := canonicalJson_eq _ hcheck hfit
  have hoperation : validateOperation ((sampleBundle evidence).item "operation") = .ok () :=
    (by decide +kernel : validateOperation sampleOperation = .ok ())
  have hscope : require ((sampleBundle evidence).hasFields ["schema", "synthetic", "run_id", "operation", "evidence"] &&
      (sampleBundle evidence).item "schema" = .str bundleSchema && (sampleBundle evidence).item "synthetic" = .bool true &&
      textOk ((sampleBundle evidence).item "run_id")) "bundle_shape_or_scope" = .ok () := rfl
  have hkeys : require (((sampleBundle evidence).item "evidence").isDict &&
      ((sampleBundle evidence).item "evidence").keys.all fun k => (slots.map Slot.name).contains k) "evidence_slots" = .ok () :=
    require_ok.2 hslots
  simp only [readBundle, hcanonical, loadJson_canonicalJson _ hw hcanonical, hscope, hkeys, hoperation, Bind.bind, Except.bind]
  rfl

theorem allFindings_eq {f : Slot → Finding} (h : ∀ slot, slotFinding py trust bundle slot = .ok (f slot)) :
    allFindings py trust bundle = .ok f := by
  simp only [allFindings, h, Bind.bind, Except.bind]
  refine congrArg Except.ok (funext fun slot => ?_)
  cases slot <;> rfl

/-- A bundle without a dispatch is assessed when its operation has a digest. -/
theorem sampleBundle_report {evidence : List (String × Json)} {f : Slot → Finding} {at_ : ℤ} (hw : (sampleBundle evidence).WF)
    (hchecks : jsonValue Payment.samplePlatform 1 (.obj evidence) = .ok ())
    (hsize : Json.size Payment.samplePlatform.floatRepr (.obj evidence) ≤ 1000)
    (hslots : (evidence.map Prod.fst).all (fun k => (slots.map Slot.name).contains k) = true)
    (hf : ∀ slot, slotFinding Payment.samplePlatform [] (sampleBundle evidence) slot = .ok (f slot))
    (hd : (f .dispatch).found = none) (hat : integerOk (.int at_) = true) :
    ∃ report, verifyBundle Payment.samplePlatform (sampleBundle evidence) [] (.obj []) at_ 5 = .ok report := by
  have hidentities : readIdentities Payment.samplePlatform (.obj []) = .ok (.obj []) := by decide +kernel
  have hoperation := canonicalJson_eq Payment.samplePlatform sampleOperation_checks.1 (sampleOperation_size.trans (by decide))
  have hitem : (sampleBundle evidence).item "operation" = sampleOperation := rfl
  have htimes : require (integerOk (.int at_) && integerOk (.int 5) && decide ((5 : ℤ) ≠ 0)) "caller_time_or_freshness_limit" =
      .ok () := require_ok.2 (by rw [hat]; decide)
  have htrust : checkTrust Payment.samplePlatform [] = .ok () := rfl
  have hauth (v : View) (hv : v.records .dispatch = none) :
      authorization Payment.samplePlatform v (.obj []) at_ 5 = .ok (need v .dispatch) := by
    rw [authorization, hv]
  have hnone (d : String) : (viewOf (sampleBundle evidence) d at_ f).records .dispatch = none := by
    simp only [viewOf, hd, Option.map_none, Option.filter_none]
  simp only [verifyBundle, htrust, hidentities, htimes, sampleBundle_read evidence hw hchecks hsize hslots, assess, hitem, digest,
    hoperation, allFindings_eq hf, hauth _ (hnone _), Bind.bind, Except.bind, pure, Except.pure]
  exact ⟨_, rfl⟩

end VapEvidence.PaymentEvidence
