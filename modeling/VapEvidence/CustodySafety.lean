import VapEvidence.PaymentRuns

set_option autoImplicit false

/-!
# Evidence before dispatch

Where every claim goes through custody: what is sent was deposited first, and
the marked observation in the journal passes its own local verification.
-/
namespace VapEvidence.Payment
open Json Authorization Custody Interleaving

section Held
variable {py : Platform}

/-- What stands behind a request before it is sent: the stored record's package at the collector, and
    a marker of an observation that `_verified_local` accepts. -/
def InCustody (py : Platform) (s : Services) (raw : Bytes) : Prop :=
  ∃ c ∈ s.collected, ∃ r : Request py, r.raw = raw ∧
    ∃ proof ∈ s.journal.proofs.rows, proof.requestDigest = r.digest ∧
    ∃ package, makePackage r .admissionRecord proof.recordBytes = .ok package ∧
      (∃ stored ∈ s.collector.records.rows, stored.packageBytes = package) ∧
      ∃ marker ∈ s.journal.prerequisites.rows, marker.requestDigest = r.digest ∧
        ∃ row ∈ s.journal.observations.rows, row.observationDigest = marker.observationDigest ∧
          row.kind = Kind.admissionRecord.text ∧ row.stage = "PRE_DISPATCH" ∧
          ∀ expected : Originals, expected.lookup .admissionRecord = some package →
            ∃ accepted, @Custody.verifiedLocal py c.pins row expected r.digest = .ok accepted

theorem hexBytes_ok {maximum : ℕ} {v : Json} {raw : Bytes} (h : hexBytes maximum v = .ok raw) :
    v = .str (hex raw) := by
  unfold hexBytes at h
  split at h
  · split_ifs at h
    split at h
    · next hs =>
      cases h
      rw [hex_of_unhex hs]
    · cases h
  · cases h

theorem hexBytes_of_length {maximum : ℕ} {raw : Bytes} (h : 0 < raw.length) (hl : raw.length ≤ maximum) :
    hexBytes maximum (.str (hex raw)) = .ok raw := by
  unfold hexBytes
  dsimp only
  rw [if_pos ⟨by rw [hex_length]; omega, by rw [hex_length]; omega⟩, unhex_hex]

/-! ## Packages -/

theorem packageValue_wf (r : Request py) (contextDigest : String) (kind : Kind) (evidence : Bytes) :
    (packageValue r contextDigest kind evidence).WF := by
  refine dict_wf fun p hp => ?_
  simp only [List.mem_cons, List.not_mem_nil, or_false] at hp
  rcases hp with rfl | rfl | rfl | rfl | rfl | rfl | rfl | rfl | rfl <;> trivial

theorem makePackage_ok {r : Request py} {kind : Kind} {evidence package : Bytes}
    (h : makePackage r kind evidence = .ok package) :
    ∃ contextDigest, encode py (packageValue r contextDigest kind evidence) = .ok package := by
  obtain ⟨_, -, h⟩ := bind_ok h
  obtain ⟨contextDigest, -, h⟩ := bind_ok h
  obtain ⟨packed, hp, h⟩ := bind_ok h
  obtain ⟨_, -, h⟩ := bind_ok h
  cases h
  exact ⟨contextDigest, hp⟩

theorem validatePackage_decode {raw : Bytes} {context value : Json}
    (h : validatePackage py raw context = .ok value) : decode py raw = .ok value := by
  obtain ⟨value', hvalue, h⟩ := bind_ok h
  obtain ⟨_, -, h⟩ := bind_ok h
  obtain ⟨_, -, h⟩ := bind_ok h
  obtain ⟨_, -, h⟩ := bind_ok h
  obtain ⟨_, -, h⟩ := bind_ok h
  obtain ⟨_, -, h⟩ := bind_ok h
  obtain ⟨_, -, h⟩ := bind_ok h
  obtain ⟨_, -, h⟩ := bind_ok h
  obtain ⟨_, -, h⟩ := bind_ok h
  obtain ⟨_, -, h⟩ := bind_ok h
  obtain ⟨_, -, h⟩ := bind_ok h
  cases h
  exact hvalue

/-- What a package made for a request says of it. -/
theorem validatePackage_made {r : Request py} {kind : Kind} {evidence package : Bytes} {context value : Json}
    (hm : makePackage r kind evidence = .ok package) (hv : validatePackage py package context = .ok value) :
    value.item "request_digest" = .str r.digest ∧ value.item "kind" = .str kind.text := by
  obtain ⟨contextDigest, hp⟩ := makePackage_ok hm
  have hdec := loadJson_canonicalJson py collectorBounds (packageValue_wf r _ _ _) hp
  obtain rfl := Except.ok.inj (hdec.symm.trans (validatePackage_decode hv))
  constructor <;> exact item_of_get? (by simp [packageValue, get?_dict, lookup_cons_ite])

/-! ## Readbacks and observations -/

/-- The response that an observation record keeps of a readback. -/
def keptResponse (readbackBytes ackBytes package : Bytes) : Json :=
  dict [("readback_bytes", .str (hex readbackBytes)), ("ack_bytes", .str (hex ackBytes)),
    ("package_bytes", .str (hex package))]

theorem item_keptResponse (readbackBytes ackBytes package : Bytes) :
    (keptResponse readbackBytes ackBytes package).item "readback_bytes" = .str (hex readbackBytes) ∧
    (keptResponse readbackBytes ackBytes package).item "ack_bytes" = .str (hex ackBytes) ∧
    (keptResponse readbackBytes ackBytes package).item "package_bytes" = .str (hex package) := by
  refine ⟨?_, ?_, ?_⟩ <;> exact item_of_get? (by simp [keptResponse, get?_dict, lookup_cons_ite])

/-- A readback verifies again from the parts that are kept of it, under an accepted epoch. -/
theorem verifyReadback_kept {response package key : Bytes} {nonce collectorId : String} {epoch : ℤ}
    {x : Readback} {ack : Bytes} (h : verifyReadback py response package key nonce collectorId epoch = .ok x)
    (hx : x.ackBytes = some ack) :
    integerOk (.int epoch) = true ∧ ∃ kept, encode py (keptResponse x.readbackBytes ack package) = .ok kept ∧
      verifyReadback py kept package key nonce collectorId epoch = .ok x := by
  have hwhole := h
  obtain ⟨value, hvalue, h⟩ := bind_ok h
  obtain ⟨v, hv, h⟩ := bind_ok h
  obtain ⟨_, hfields, h⟩ := bind_ok h
  obtain ⟨readbackBytes, hrb, h⟩ := bind_ok h
  obtain ⟨observed, hobs, h⟩ := bind_ok h
  obtain ⟨_, hok, h⟩ := bind_ok h
  by_cases hm : observed.item "state" = .str "MISSING"
  · rw [if_pos hm] at h
    obtain ⟨_, -, h⟩ := bind_ok h
    cases h
    cases hx
  rw [if_neg hm] at h
  obtain ⟨_, -, h⟩ := bind_ok h
  obtain ⟨ack', hack, h⟩ := bind_ok h
  obtain ⟨original, horiginal, h⟩ := bind_ok h
  obtain ⟨_, hsame, h⟩ := bind_ok h
  obtain ⟨_, -, h⟩ := bind_ok h
  cases h
  obtain rfl := Option.some.inj hx
  have hsame := require_ok.1 hsame
  simp only [Bool.and_eq_true, decide_eq_true_eq] at hsame
  obtain rfl := hsame.1
  have hepoch : integerOk (.int epoch) = true := by
    have hok := require_ok.1 hok
    simp only [readbackOk, Bool.and_eq_true, decide_eq_true_eq] at hok
    obtain ⟨⟨⟨⟨⟨-, he⟩, hi⟩, -⟩, -⟩, -⟩ := hok
    exact he ▸ hi
  have hresponse : v = keptResponse readbackBytes ack' original := by
    refine (eq_pick (loadJson_wf py _ hv) (require_ok.1 hfields)).trans ?_
    rw [pick, keptResponse, ← hexBytes_ok hrb, ← hexBytes_ok hack, ← hexBytes_ok horiginal]
    rfl
  obtain ⟨kept, hkept⟩ := loadJson_canonical py collectorBounds hv
  refine ⟨hepoch, kept, hresponse ▸ hkept, ?_⟩
  have hdec : decode py kept = decode py response :=
    (loadJson_canonicalJson py collectorBounds (loadJson_wf py _ hv) hkept).trans hv.symm
  have hcongr : verifyReadback py kept original key nonce collectorId epoch =
      verifyReadback py response original key nonce collectorId epoch := by
    unfold verifyReadback
    rw [hdec]
  exact hcongr.trans hwhole

theorem observationValue_wf {pins : Pins} {pinDigest : String} {package : Bytes} {value : Json}
    {observed : Collected} {stage : String} {now : ℤ} (hv : value.WF) :
    (observationValue pins pinDigest package value observed stage now).WF := by
  refine dict_wf fun p hp => ?_
  simp only [List.mem_cons, List.not_mem_nil, or_false] at hp
  rcases hp with rfl | rfl | rfl | rfl | rfl | rfl | rfl | rfl | rfl | rfl | rfl
  · trivial
  · exact wf_item hv _
  · exact wf_item hv _
  all_goals trivial

section Items
variable (pins : Pins) (pinDigest : String) (package : Bytes) (value : Json) (observed : Collected)
  (stage : String) (now : ℤ)

theorem observationValue_items :
    let record := observationValue pins pinDigest package value observed stage now
    record.item "schema" = .str observationSchema ∧
      record.item "request_digest" = value.item "request_digest" ∧ record.item "kind" = value.item "kind" ∧
      record.item "stage" = .str stage ∧ record.item "package_bytes" = .str (hex package) ∧
      record.item "ack_bytes" = .str (hex observed.ackBytes) ∧
      record.item "readback_bytes" = .str (hex observed.readbackBytes) ∧
      record.item "nonce" = .str observed.nonce ∧ record.item "collector_epoch" = .int pins.recoveryEpoch ∧
      record.item "collector_identity_digest" = .str pinDigest ∧ record.item "recorded_at_ms" = .int now := by
  refine ⟨?_, ?_, ?_, ?_, ?_, ?_, ?_, ?_, ?_, ?_, ?_⟩ <;>
    exact item_of_get? (by simp [observationValue, get?_dict, lookup_cons_ite])

theorem hasFields_observationValue :
    (observationValue pins pinDigest package value observed stage now).hasFields observationFields = true := by
  rw [observationValue, hasFields_dict]
  simp [observationFields]

end Items

/-- The observation row of a deposit. -/
def Deposited.row {s : Services} {c : CollectedAdapter} {package : Bytes} (d : Deposited py s c package) :
    CustodyObservation :=
  ⟨bytesDigest py d.record, (d.value.item "request_digest").text, (d.value.item "kind").text, "PRE_DISPATCH",
    d.record⟩

/-- What was deposited before dispatch passes `_verified_local`. -/
theorem Deposited.verifiedLocal {s : Services} {c : CollectedAdapter} {package evidence : Bytes}
    (d : Deposited py s c package) {r : Request py}
    (hmade : makePackage r .admissionRecord evidence = .ok package) {expected : Originals}
    (he : expected.lookup .admissionRecord = some package) :
    ∃ accepted, @Custody.verifiedLocal py c.pins d.row expected r.digest = .ok accepted := by
  obtain ⟨hdigest, hkind⟩ := validatePackage_made hmade d.valid
  have hvalue := validatePackage_decode d.valid
  have hwf := loadJson_wf py collectorBounds hvalue
  have hdec := loadJson_canonicalJson py collectorBounds (observationValue_wf hwf) d.written
  obtain ⟨h1, h2, h3, h4, h5, h6, h7, h8, h9, h10, h11⟩ := observationValue_items c.pins d.pinDigest package
    d.value d.observed "PRE_DISPATCH" d.recordedAt
  obtain ⟨response, hchecked⟩ := d.checked
  obtain ⟨hepoch, kept, hkept, hagain⟩ := verifyReadback_kept hchecked rfl
  obtain ⟨contextDigest, hencoded⟩ := makePackage_ok hmade
  have hpackage : hexBytes maxMessageBytes (.str (hex package)) = .ok package :=
    hexBytes_of_length (canonicalJson_pos py collectorBounds (packageValue_wf r _ _ _) hencoded)
      (canonicalJson_ok py collectorBounds hencoded).2.2
  have hat : integerOk (.int (d.recordedAt : ℤ)) = true := by
    have hget : (observationValue c.pins d.pinDigest package d.value d.observed "PRE_DISPATCH"
        d.recordedAt).get? "recorded_at_ms" = some (.int (d.recordedAt : ℤ)) := by
      simp [observationValue, get?_dict]
    have hle := canonicalJson_int py collectorBounds d.written hget
    simp only [integerOk, Bool.and_eq_true, decide_eq_true_eq]
    omega
  have hok : @observationOk py c.pins d.pinDigest d.row (observationValue c.pins d.pinDigest package d.value
      d.observed "PRE_DISPATCH" d.recordedAt) r.digest = true := by
    simp only [observationOk, Deposited.row, hasFields_observationValue, h1, h2, h3, h4, h9, h10, h11, hdigest, hkind, d.written,
      hepoch, hat, Json.text, Json.number, stages, decide_true, Bool.and_self, Bool.and_true, Bool.true_and, le_refl]
    decide
  have hkindOf : kindOf (.str Kind.admissionRecord.text) = some .admissionRecord := by decide
  have hresponse : pick ["readback_bytes", "ack_bytes", "package_bytes"] (observationValue c.pins d.pinDigest
      package d.value d.observed "PRE_DISPATCH" d.recordedAt) =
      keptResponse d.observed.readbackBytes d.observed.ackBytes package := by
    simp only [pick, keptResponse, List.map_cons, List.map_nil, h5, h6, h7]
  refine ⟨⟨d.row, package, d.observed.ackBytes, d.observed.readbackBytes, d.observed.nonce, c.pins.recoveryEpoch⟩, ?_⟩
  have hload : decode py d.row.recordBytes = .ok (observationValue c.pins d.pinDigest package d.value d.observed
    "PRE_DISPATCH" d.recordedAt) := hdec
  simp only [Custody.verifiedLocal, hload, d.pin, hok, h3, h5, h8, h9, hkind, hkindOf, hpackage, he, hresponse,
    hkept, hagain, Json.text, Json.number, require, bind, Except.bind, Option.any_some, decide_true, if_true]
  rfl

theorem inCustody_of_custodied {s : Services} {raw : Bytes} (h : Custodied py s raw) : InCustody py s raw := by
  have d := h.deposited
  obtain ⟨hdigest, hkind⟩ := validatePackage_made h.made d.valid
  refine ⟨h.c, h.known, h.r, h.request, h.proof, h.proof_mem, h.proof_request, h.package, h.made,
    ⟨d.stored, d.stored_mem, d.stored_package⟩, _, d.marker, ?_, _, d.observation, rfl, ?_, rfl,
    fun expected he => d.verifiedLocal h.made he⟩
  · rw [hdigest]
    rfl
  · rw [hkind]
    rfl

end Held
end VapEvidence.Payment
