import VapEvidence.CollectionSizes
import VapEvidence.CustodyHistory

set_option autoImplicit false

/-!
# Custody of collections

Every package that is made is collected and read back inside the limits of a message,
and what the store holds, acknowledges and answers is the same over all its runs.
-/
namespace VapEvidence

/-- What is documented of Ed25519: keys of 32 bytes load, and a signature verifies under its own key. -/
structure Platform.Signs (py : Platform) : Prop where
  length : ∀ key : Bytes, key.length = 32 → (py.publicKey key).length = 32
  loads : ∀ key : Bytes, key.length = 32 → py.publicKeyLoads (py.publicKey key) = true
  verifies : ∀ key message : Bytes, key.length = 32 → py.verify (py.publicKey key) message (py.sign key message) = true

namespace Custody
open Json Payment

section Replies
variable {py : Platform}

/-! ## Statements that verify -/

theorem signatureOk_sign (hpy : py.Standard) (key message : Bytes) :
    signatureOk (.str (hex (py.sign key message))) = true := by
  simp only [signatureOk, Bool.and_eq_true, decide_eq_true_eq]
  refine ⟨by rw [hex_length, hpy.signature], List.all_eq_true.2 fun c hc => (mem_hex hc).1⟩

theorem verifyStatement_eq (hpy : py.Standard) (hsig : py.Signs) {key raw : Bytes} {payload : Json} (hk : key.length = 32)
    (hw : payload.WF) (hd : payload.isDict = true) (h : signStatement py key payload = .ok raw) :
    verifyStatement py raw (py.publicKey key) = .ok payload := by
  obtain ⟨signed, hs, henc, hdec⟩ := signStatement_ok hw h
  obtain ⟨hp, hg⟩ := item_envelope payload (py.sign key (signingDomain ++ signed))
  have hfields : (envelope payload (py.sign key (signingDomain ++ signed))).hasFields ["payload", "signature"] = true := by
    rw [envelope, hasFields_dict]
    simp
  have hparts : signedParts signingDomain (encode py) (envelope payload (py.sign key (signingDomain ++ signed))) =
      .ok (signingDomain ++ signed, py.sign key (signingDomain ++ signed)) := by
    rw [signedParts, hp, hg, hs]
    simp only [Json.text, unhex_hex, bind, Except.bind]
    rfl
  simp only [verifyStatement, hsig.length key hk, hdec, hfields, henc, hp, hd, hg, signatureOk_sign hpy, hsig.loads key hk,
    hparts, hsig.verifies _ _ hk, require, decide_true, Bool.and_self, if_true, bind, Except.bind]
  rfl

theorem ackPayload_fields (config : CollectorConfig) (now : ℤ) (package : Json) (raw : Bytes) :
    (ackPayload py config now package raw).hasFields ackFields = true := by
  rw [ackPayload, hasFields_dict]
  simp [ackFields, bindingFields, bindingMembers]

theorem readbackPayload_fields (config : CollectorConfig) (packageDigest nonce contextDigest : String) (now : ℤ)
    (row : Option CollectionRecord) :
    (readbackPayload py config packageDigest nonce contextDigest now row).hasFields readbackFields = true := by
  rw [readbackPayload, hasFields_dict]
  simp [readbackFields]

theorem responseOf_fields (signed : Bytes) (row : Option CollectionRecord) :
    (responseOf signed row).hasFields ["readback_bytes", "ack_bytes", "package_bytes"] = true := by
  rw [responseOf, hasFields_dict]
  simp

/-- A clock that was signed is a small number. -/
theorem integerOk_of_encode {payload : Json} {signed : Bytes} {f : String} {n : ℕ}
    (h : encode py payload = .ok signed) (hg : payload.get? f = some (.int n)) : integerOk (.int (n : ℤ)) = true := by
  have := canonicalJson_int py collectorBounds h hg
  simp only [integerOk, Bool.and_eq_true, decide_eq_true_eq]
  omega

/-- The acknowledgment of a record verifies for its package, from its epoch on. -/
theorem verifyAck_eq (hpy : py.Standard) (hsig : py.Signs) {config : CollectorConfig} {now : ℕ} {package : Json}
    {raw ack : Bytes} {epoch : ℤ} (hc : Configured config) (hdec : decode py raw = .ok package)
    (hsign : signStatement py config.privateKey (ackPayload py config now package raw) = .ok ack)
    (he : config.recoveryEpoch ≤ epoch) :
    verifyAck py ack raw (py.publicKey config.privateKey) config.collectorId epoch =
      .ok (ackPayload py config now package raw) := by
  have hw := @ackPayload_wf py config now package raw (loadJson_wf py collectorBounds hdec)
  obtain ⟨signed, hs, -, -⟩ := signStatement_ok hw hsign
  obtain ⟨h1, h2, h3, h4, h5⟩ := @ackPayload_items py config now package raw
  have hclock : integerOk (.int (now : ℤ)) = true := by
    refine integerOk_of_encode hs (f := "recorded_at_ms") ?_
    simp [ackPayload, bindingMembers, bindingFields, get?_dict, lookup_cons_ite]
  have hmembers : ((bindingMembers py package raw).all fun m =>
      decide ((ackPayload py config now package raw).item m.1 = m.2)) = true :=
    List.all_eq_true.2 fun m hm => decide_eq_true (h5 m hm)
  have hstatement := verifyStatement_eq hpy hsig hc.key hw rfl hsign
  simp only [verifyAck, hdec, hstatement, bind, Except.bind, ackPayload_fields, h1, h2, h3, h4, hc.epoch, hclock, Json.number,
    he, hmembers, decide_true, Bool.and_self, require, if_true]
  rfl

/-- The response that shows a record is accepted with the record's acknowledgment. -/
theorem verifyReadback_eq (hpy : py.Standard) (hsig : py.Signs) {config : CollectorConfig} {row : CollectionRecord}
    {nonce contextDigest : String} {now : ℕ} {package ack : Json} {signed body : Bytes} (hc : Configured config)
    (hnonce : nonceOk nonce = true) (hdec : decode py row.packageBytes = .ok package)
    (hcontext : package.item "context_digest" = .str contextDigest)
    (hsigned : signStatement py config.privateKey (readbackPayload py config (bytesDigest py row.packageBytes) nonce
      contextDigest now (some row)) = .ok signed) (hbody : encode py (responseOf signed (some row)) = .ok body)
    (hs : 0 < signed.length ∧ signed.length ≤ maxEvidenceBytes)
    (ha : 0 < row.ackBytes.length ∧ row.ackBytes.length ≤ maxEvidenceBytes)
    (hp : 0 < row.packageBytes.length ∧ row.packageBytes.length ≤ maxMessageBytes)
    (hack : verifyAck py row.ackBytes row.packageBytes (py.publicKey config.privateKey) config.collectorId
      config.recoveryEpoch = .ok ack) :
    verifyReadback py body row.packageBytes (py.publicKey config.privateKey) nonce config.collectorId
      config.recoveryEpoch = .ok ⟨signed, some row.ackBytes, nonce⟩ := by
  have hw := @readbackPayload_wf py config (bytesDigest py row.packageBytes) nonce contextDigest now (some row)
  have hdecBody : decode py body = .ok (responseOf signed (some row)) :=
    loadJson_canonicalJson py collectorBounds (responseOf_wf signed (some row)) hbody
  obtain ⟨r1, r2, r3⟩ := responseOf_items signed (some row)
  rw [Option.map_some, Option.map_some, Option.getD_some] at r2 r3
  obtain ⟨o1, o2, o3, o4, o5, o6, o7, o8, o9⟩ := @readbackPayload_items py config (bytesDigest py row.packageBytes)
    nonce contextDigest now (some row)
  rw [Option.map_some, Option.getD_some] at o9
  have hclock : integerOk (.int (now : ℤ)) = true := by
    obtain ⟨_, henc, -, -⟩ := signStatement_ok hw hsigned
    refine integerOk_of_encode henc (f := "observed_at_ms") ?_
    simp [readbackPayload, get?_dict, lookup_cons_ite]
  have hok : readbackOk py (readbackPayload py config (bytesDigest py row.packageBytes) nonce contextDigest now (some row))
      package row.packageBytes nonce config.collectorId config.recoveryEpoch = true := by
    simp only [readbackOk, readbackPayload_fields, o1, o2, o3, o4, o5, o7, o8, hnonce, hc.epoch, hcontext, hclock,
      decide_true, Bool.and_self]
  have hstatement := verifyStatement_eq hpy hsig hc.key hw rfl hsigned
  have hstate : Json.str (if (some row).isSome then "PRESENT" else "MISSING") = .str "PRESENT" := rfl
  simp only [verifyReadback, hdec, hdecBody, responseOf_fields, r1, r2, r3, hexBytes_of_length hs.1 hs.2,
    hexBytes_of_length ha.1 ha.2, hexBytes_of_length hp.1 hp.2, hstatement, hok, o6, o9, hstate, hack, require,
    decide_true, Bool.and_self, if_true, bind, Except.bind]
  rfl

/-! ## Collecting and reading back -/

section Serving
variable {s : Collector} {config : CollectorConfig}

theorem collect_new (hpy : py.Standard) (h : CollectorInv py s) (hc : config ∈ s.serving)
    (hcurrent : Current py s.store config) {now : ℕ} (hnow : now ≤ maxInteger) {raw : Bytes} {package : Json}
    (hvalid : validatePackage py raw config.context = .ok package)
    (hnew : ∀ row ∈ s.store.records.rows, row.packageDigest ≠ bytesDigest py raw ∧
      ¬ (row.requestDigest = (package.item "request_digest").text ∧ row.kind = (package.item "kind").text)) :
    ∃ ack store, collect py config raw now s.store = .ok (ack, store) := by
  obtain ⟨hid, hconfigured⟩ := h.serving config hc
  obtain ⟨identityDigest, hidentity, hgeneration⟩ := hcurrent
  obtain ⟨r, kind, evidence, contextDigest, hpackage, -, -, hdigest, -, hl⟩ := validatePackage_eq hvalid
  obtain ⟨context, -, hd⟩ := bind_ok hdigest
  obtain rfl : bytesDigest py context = contextDigest := Except.ok.inj hd
  obtain ⟨ack, hack⟩ := signStatement_eq hpy config.privateKey
    (fun d hd => ackPayload_checks hpy hid.normal hconfigured hnow r kind context hl raw hd)
    (ackPayload_size hpy hconfigured hnow r kind context hl raw)
  rw [← hpackage] at hack
  have hfind : s.store.records.rows.find? (fun old => old.requestDigest = (package.item "request_digest").text &&
      old.kind = (package.item "kind").text) = none := by
    refine List.find?_eq_none.2 fun row hrow hsame => (hnew row hrow).2 ?_
    simpa using hsame
  obtain ⟨records, hrecords⟩ := Table.insert_isSome (t := s.store.records) (a := ⟨bytesDigest py raw,
    (package.item "request_digest").text, (package.item "kind").text, raw, ack⟩) fun row hrow hclash =>
      hclash.elim (hnew row hrow).1 (hnew row hrow).2
  refine ⟨ack, { s.store with records }, ?_⟩
  change signStatement py config.privateKey (dict _) = _ at hack
  simp only [collect, hvalid, hfind, hidentity, hgeneration, hack, hrecords, check, integrity, Except.mapError, bind,
    Except.bind]
  rfl

/-- A package that no other bytes clash with is collected, now or as the original. -/
theorem collect_package (hpy : py.Standard) (h : CollectorInv py s) (hc : config ∈ s.serving)
    (hcurrent : Current py s.store config) {now : ℕ} (hnow : now ≤ maxInteger) {raw : Bytes} {package : Json}
    (hvalid : validatePackage py raw config.context = .ok package)
    (hsame : ∀ row ∈ s.store.records.rows, row.packageDigest = bytesDigest py raw ∨
      (row.requestDigest = (package.item "request_digest").text ∧ row.kind = (package.item "kind").text) →
        row.packageBytes = raw) :
    ∃ ack store, collect py config raw now s.store = .ok (ack, store) := by
  by_cases hold : ∃ row ∈ s.store.records.rows, row.packageBytes = raw
  · obtain ⟨row, hrow, rfl⟩ := hold
    exact ⟨_, _, collect_again h hc hrow now⟩
  · refine collect_new hpy h hc hcurrent hnow hvalid fun row hrow => ⟨fun hd => ?_, fun hk => ?_⟩
    · exact hold ⟨row, hrow, hsame row hrow (.inl hd)⟩
    · exact hold ⟨row, hrow, hsame row hrow (.inr hk)⟩

theorem response_size (signed : Bytes) (row : CollectionRecord) :
    size py.floatRepr (responseOf signed (some row)) ≤
      2 * signed.length + 2 * row.ackBytes.length + 2 * row.packageBytes.length + 60 := by
  have hk : textSize "readback_bytes" = 16 ∧ textSize "ack_bytes" = 11 ∧ textSize "package_bytes" = 15 := by
    refine ⟨?_, ?_, ?_⟩ <;> exact textSize_plain (by decide)
  refine (size_dict_le _).trans ?_
  simp only [List.map_cons, List.map_nil, List.sum_cons, List.sum_nil, memberSize, Option.map_some, Option.getD_some,
    size_str, textSize_hex, hk.1, hk.2.1, hk.2.2]
  omega

theorem response_checks (hpy : py.Standard) (signed : Bytes) (row : CollectionRecord)
    (hs : 2 * signed.length ≤ maxMessageBytes) (ha : 2 * row.ackBytes.length ≤ maxMessageBytes)
    (hp : 2 * row.packageBytes.length ≤ maxMessageBytes) :
    checkValue py collectorBounds 0 (responseOf signed (some row)) = .ok () := by
  refine checkValue_dict (by decide) (by simp [collectorBounds]) fun p hm => ?_
  simp only [Option.map_some, Option.getD_some, List.mem_cons, List.not_mem_nil, or_false] at hm
  rcases hm with rfl | rfl | rfl
  · exact checkMember_plain (k := "readback_bytes") hpy (by decide) (by decide) (by decide)
      (.inl ⟨_, rfl, hex_plain _, hex_length _ ▸ hs⟩)
  · exact checkMember_plain (k := "ack_bytes") hpy (by decide) (by decide) (by decide)
      (.inl ⟨_, rfl, hex_plain _, hex_length _ ▸ ha⟩)
  · exact checkMember_plain (k := "package_bytes") hpy (by decide) (by decide) (by decide)
      (.inl ⟨_, rfl, hex_plain _, hex_length _ ▸ hp⟩)

/-- An acknowledgment is a small statement. -/
theorem Acknowledged.ack_length (hpy : py.Standard) {store : CollectorStore} {row : CollectionRecord}
    {origin : CollectorConfig} {recorded : ℕ} {package : Json} (x : Acknowledged py store row origin recorded package) :
    0 < row.ackBytes.length ∧ row.ackBytes.length ≤ 1300 := by
  obtain ⟨r, kind, evidence, contextDigest, hpackage, -, -, hdigest, -, hl⟩ := validatePackage_eq x.valid
  obtain ⟨context, -, hd⟩ := bind_ok hdigest
  obtain rfl : bytesDigest py context = contextDigest := Except.ok.inj hd
  have hw := @ackPayload_wf py origin recorded package row.packageBytes
    (loadJson_wf py collectorBounds (validatePackage_decode x.valid))
  have hclock : recorded ≤ maxInteger := by
    obtain ⟨signed, hs, -, -⟩ := signStatement_ok hw x.signs
    have := integerOk_of_encode hs (f := "recorded_at_ms") (n := recorded)
      (by simp [ackPayload, bindingMembers, bindingFields, get?_dict, lookup_cons_ite])
    simp only [integerOk, Bool.and_eq_true, decide_eq_true_eq] at this
    omega
  refine statement_size hpy hw x.signs ?_
  rw [hpackage]
  exact ackPayload_size hpy x.configured hclock r kind context hl row.packageBytes

/-- A record is read back in one message, and the client accepts it with the original acknowledgment. -/
theorem readback_row (hpy : py.Standard) (hsig : py.Signs) (h : CollectorInv py s) (hc : config ∈ s.serving)
    (hcurrent : Current py s.store config) {row : CollectionRecord} (hrow : row ∈ s.store.records.rows) {nonce : String}
    (hnonce : nonceOk nonce = true) {now : ℕ} (hnow : now ≤ maxInteger) :
    ∃ body signed, readback py config row.packageDigest nonce now s.store = .ok body ∧ body.length ≤ maxMessageBytes ∧
      verifyReadback py body row.packageBytes (py.publicKey config.privateKey) nonce config.collectorId
        config.recoveryEpoch = .ok ⟨signed, some row.ackBytes, nonce⟩ := by
  obtain ⟨hid, hconfigured⟩ := h.serving config hc
  obtain ⟨origin, recorded, package, x⟩ := h.original row hrow
  obtain ⟨hcontext, hname, hkey⟩ := x.identifies.same hid
  obtain ⟨r, kind, evidence, contextDigest, hpackage, -, -, hdigest, -, hl⟩ := validatePackage_eq x.valid
  obtain ⟨context, henc, hd⟩ := bind_ok hdigest
  obtain rfl : bytesDigest py context = contextDigest := Except.ok.inj hd
  have hdecoded := validatePackage_decode x.valid
  have hpackageLength := package_size hpy x.valid
  have hpackagePos : 0 < row.packageBytes.length := by
    obtain ⟨-, -, -, -, -, hraw, -⟩ := validatePackage_eq x.valid
    exact canonicalJson_pos py collectorBounds (loadJson_wf py collectorBounds hdecoded) hraw
  obtain ⟨hackPos, hackLength⟩ := x.ack_length hpy
  have hfind : s.store.records.rows.find? (fun old => old.packageDigest = row.packageDigest) = some row :=
    s.store.records.find?_eq (fun _ _ h => h.imp Eq.symm (And.imp Eq.symm Eq.symm)) hrow (by simp) fun b hb =>
      .inl (by simpa using hb)
  obtain ⟨signed, hsigned⟩ := signStatement_eq hpy config.privateKey
    (fun d hd => readbackPayload_checks hpy hid.normal hconfigured hnow hnonce row.packageBytes context (some row) hd)
    (readbackPayload_size hpy hconfigured hnow hnonce row.packageBytes context (some row))
  have hw := @readbackPayload_wf py config (bytesDigest py row.packageBytes) nonce (bytesDigest py context) now (some row)
  obtain ⟨hpos, hlength⟩ := statement_size hpy hw hsigned
    (readbackPayload_size hpy hconfigured hnow hnonce row.packageBytes context (some row))
  have hsize := @response_size py signed row
  have hmax : maxMessageBytes = 524288 := rfl
  have hbody := canonicalJson_eq
    (response_checks hpy signed row (by omega) (by omega) (by omega))
    (hsize.trans (show _ ≤ 524288 by omega))
  generalize encodeUtf8 (dumps py.floatRepr false (responseOf signed (some row))) = body at hbody
  have hbodyLength : body.length ≤ maxMessageBytes := by
    rw [canonicalJson_length hbody]
    omega
  refine ⟨body, signed, ?_, hbodyLength, ?_⟩
  · obtain ⟨identityDigest, hidentity, hgeneration⟩ := hcurrent
    rw [← x.packageDigest] at hsigned
    rw [hcontext] at hdigest
    change signStatement py config.privateKey (dict _) = _ at hsigned
    change encode py (dict _) = _ at hbody
    simp only [readback, hidentity, hgeneration, hfind, hdigest, hsigned, hbody, check, Except.mapError, bind, Except.bind]
  · have hcd := (packageValue_items r (bytesDigest py context) kind evidence).2.2.2.1
    rw [← hpackage] at hcd
    obtain ⟨e, he, hle⟩ := x.epoch
    obtain rfl := Option.some.inj (he.symm.trans hcurrent.epoch)
    have hack := verifyAck_eq hpy hsig x.configured hdecoded x.signs hle
    rw [hkey, hname] at hack
    have hevidence : maxEvidenceBytes = 65536 := rfl
    exact verifyReadback_eq hpy hsig hconfigured hnonce hdecoded hcd hsigned hbody ⟨hpos, by omega⟩ ⟨hackPos, by omega⟩
      ⟨hpackagePos, by omega⟩ hack

end Serving

/-! ## Custody over every run -/

variable (py) in
/-- What holds of a collector `t` that was reached from a collector `s`. -/
structure CollectionCustody (s t : Collector) : Prop where
  unique : ∀ a ∈ t.store.records.rows, ∀ b ∈ t.store.records.rows,
    a.requestDigest = b.requestDigest → a.kind = b.kind → a = b
  kept : s.store.records.rows <+: t.store.records.rows
  recorded : ∀ config ∈ s.serving, ∀ raw ack, ∀ now : ℕ, ∀ store, collect py config raw now s.store = .ok (ack, store) →
    ∃ row ∈ store.records.rows, row.packageBytes = raw ∧ row.ackBytes = ack
  again : ∀ row ∈ s.store.records.rows, ∀ config ∈ t.serving, ∀ now : ℕ,
    collect py config row.packageBytes now t.store = .ok (row.ackBytes, t.store)
  conflict : ∀ row ∈ s.store.records.rows, ∀ config raw package, ∀ now : ℕ, raw ≠ row.packageBytes →
    validatePackage py raw config.context = .ok package → package.item "request_digest" = .str row.requestDigest →
    package.item "kind" = .str row.kind →
    collect py config raw now t.store = .error (.value "original_collection_conflict")
  answered : ∀ response package key nonce collectorId epoch x, Fresh py s.issued nonce →
    Authentic py t.issued key response → verifyReadback py response package key nonce collectorId epoch = .ok x →
    ∃ u u', CollectorRun py s u ∧ CollectorRun py u' t ∧
      Nonempty (Answers py (bytesDigest py package) nonce epoch x.readbackBytes u u') ∧
      (x.ackBytes.isSome = true ↔ ∃ row ∈ u.store.records.rows, row.packageDigest = bytesDigest py package) ∧
      ∀ ack, x.ackBytes = some ack →
        ∃ row ∈ u.store.records.rows, row.packageDigest = bytesDigest py package ∧ row.ackBytes = ack
  fits : ∀ (r : Request py) (kind : Kind) (evidence raw : Bytes), makePackage r kind evidence = .ok raw →
    ∀ config ∈ t.serving, Current py t.store config → config.context = pick contextFields r.json →
    (∀ row ∈ t.store.records.rows, row.packageDigest = bytesDigest py raw ∨
      (row.requestDigest = r.digest ∧ row.kind = kind.text) → row.packageBytes = raw) →
    ∀ now now' : ℕ, now ≤ maxInteger → now' ≤ maxInteger → ∀ nonce, nonceOk nonce = true →
    raw.length ≤ maxMessageBytes ∧ ∃ ack store, collect py config raw now t.store = .ok (ack, store) ∧
      ack.length ≤ maxMessageBytes ∧ ∃ body signed,
        readback py config (bytesDigest py raw) nonce now' store = .ok body ∧ body.length ≤ maxMessageBytes ∧
        verifyReadback py body raw (py.publicKey config.privateKey) nonce config.collectorId config.recoveryEpoch =
          .ok ⟨signed, some ack, nonce⟩

theorem Current.collected {s s' : CollectorStore} {config config' : CollectorConfig} {raw ack : Bytes} {now : ℕ}
    (h : Current py s config) (hr : collect py config' raw now s = .ok (ack, s')) : Current py s' config := by
  obtain ⟨identityDigest, hidentity, hgeneration⟩ := h
  obtain ⟨_, -, ⟨_, -, -, -, -, -, rfl⟩ | ⟨-, -, -, hmeta⟩⟩ := collect_cases hr
  · exact ⟨identityDigest, hidentity, hgeneration⟩
  · exact ⟨identityDigest, hidentity, hmeta ▸ hgeneration⟩

/-- A package that is made is collected and read back within the limits. -/
theorem package_fits (hpy : py.Standard) (hsig : py.Signs) {s : Collector} (h : CollectorInv py s) {r : Request py}
    {kind : Kind} {evidence raw : Bytes} (hmade : makePackage r kind evidence = .ok raw) {config : CollectorConfig}
    (hc : config ∈ s.serving) (hcurrent : Current py s.store config) (hcontext : config.context = pick contextFields r.json)
    (hsame : ∀ row ∈ s.store.records.rows, row.packageDigest = bytesDigest py raw ∨
      (row.requestDigest = r.digest ∧ row.kind = kind.text) → row.packageBytes = raw)
    {now now' : ℕ} (hnow : now ≤ maxInteger) (hnow' : now' ≤ maxInteger) {nonce : String} (hnonce : nonceOk nonce = true) :
    raw.length ≤ maxMessageBytes ∧ ∃ ack store, collect py config raw now s.store = .ok (ack, store) ∧
      ack.length ≤ maxMessageBytes ∧ ∃ body signed,
        readback py config (bytesDigest py raw) nonce now' store = .ok body ∧ body.length ≤ maxMessageBytes ∧
        verifyReadback py body raw (py.publicKey config.privateKey) nonce config.collectorId config.recoveryEpoch =
          .ok ⟨signed, some ack, nonce⟩ := by
  obtain ⟨_, -, hmade⟩ := bind_ok hmade
  obtain ⟨contextDigest, -, hmade⟩ := bind_ok hmade
  obtain ⟨packed, hpacked, hmade⟩ := bind_ok hmade
  obtain ⟨package, hvalid, hmade⟩ := bind_ok hmade
  cases hmade
  have hpackage : package = packageValue r contextDigest kind evidence :=
    Except.ok.inj ((validatePackage_decode hvalid).symm.trans
      (loadJson_canonicalJson py collectorBounds (packageValue_wf r contextDigest kind evidence) hpacked))
  obtain ⟨-, -, hdigest, -, hkind, -⟩ := packageValue_items r contextDigest kind evidence
  have hlength := package_size hpy hvalid
  have hmax : maxMessageBytes = 524288 := rfl
  rw [← hcontext] at hvalid
  obtain ⟨ack, store, hcollect⟩ := collect_package hpy h hc hcurrent hnow hvalid fun row hrow hclash => by
    rw [hpackage, hdigest, hkind] at hclash
    exact hsame row hrow hclash
  obtain ⟨hid, hconfigured⟩ := h.serving config hc
  obtain ⟨-, -, ⟨row, hrow, hraw, hack⟩, -⟩ := collect_recorded hcollect hid hconfigured
  have hinv : CollectorInv py { s with store } := inv_collected h hc hcollect fun raw hraw => .inl hraw
  obtain ⟨origin, recorded, value, x⟩ := hinv.original row hrow
  obtain ⟨body, signed, hread, hbody, hverify⟩ :=
    readback_row hpy hsig hinv hc (hcurrent.collected hcollect) hrow hnonce hnow'
  have hacklength := x.ack_length hpy
  rw [x.packageDigest, hraw] at hread
  rw [hraw, hack] at hverify
  rw [hack] at hacklength
  exact ⟨by omega, ack, store, hcollect, by omega, body, signed, hread, hbody, hverify⟩

/-- Over every run of the processes that share a collector's store: one record for each request and kind, kept
    with its acknowledgment, and readbacks that show what the store held; and every package that is made fits. -/
theorem collection_custody (hpy : py.Standard) (hsig : py.Signs) {s t : Collector} (h : CollectorReachable py s)
    (hr : CollectorRun py s t) : CollectionCustody py s t where
  unique a ha b hb hd hk := records_unique ha hb (.inr ⟨hd, hk⟩)
  kept := records_run hr
  recorded config hc raw ack now store hcollect := by
    obtain ⟨hid, hconfigured⟩ := (collector_inv h).serving config hc
    exact (collect_recorded hcollect hid hconfigured).2.2.1
  again row hrow config hc now := collect_again (collector_inv (h.trans hr)) hc ((records_run hr).subset hrow) now
  conflict row hrow config raw package now hne hvalid hd hk :=
    collect_conflict ((records_run hr).subset hrow) hne hvalid hd hk now
  answered response package key nonce collectorId epoch x hfresh hauth hv := readback_answered h hr hfresh hauth hv
  fits r kind evidence raw hmade config hc hcurrent hcontext hsame now now' hnow hnow' nonce hnonce :=
    package_fits hpy hsig (collector_inv (h.trans hr)) hmade hc hcurrent hcontext hsame hnow hnow' hnonce

end Replies

/-! ## A small instance -/

section Instance
variable {py : Platform}

theorem initializeCollector_eq {config : CollectorConfig} {identity generation digest : String}
    (hcontext : validateContext py config.context = .ok config.context) (hcred : credentialOk config.credential = true)
    (hkey : config.privateKey.length = 32)
    (hc : (textOk (.str config.collectorId) && integerOk (.int config.recoveryEpoch)) = true)
    (hd : encodeDigest py (storeIdentity py config) = .ok digest)
    (hi : canonicalText py (storeIdentity py config) = .ok identity)
    (hg : canonicalText py (generationValue config.recoveryEpoch digest) = .ok generation) :
    initializeCollector py config .empty =
      .ok (config, { CollectorStore.empty with metadata := some ⟨identity, some generation⟩ }) := by
  simp only [initializeCollector, hcontext, hcred, hkey, hc, hd, hi, hg, CollectorStore.empty, storeMeta, check,
    require, Except.mapError, decide_true, if_true, bind, Except.bind, pure, Except.pure]

/-- A process that created the store serves its generation. -/
theorem current_created {config : CollectorConfig} {identity generation digest : String}
    (hd : encodeDigest py (storeIdentity py config) = .ok digest)
    (hg : canonicalText py (generationValue config.recoveryEpoch digest) = .ok generation) :
    Current py { CollectorStore.empty with metadata := some ⟨identity, some generation⟩ } config := by
  refine ⟨digest, hd, ?_⟩
  have hload := loadJsonText_canonicalText (generationValue_wf config.recoveryEpoch digest) hg
  simp only [currentGeneration, Option.bind_some, hload, require, decide_true, if_true, bind, Except.bind]

/-- The least admission record of a request. -/
def admissionValue (r : Request py) : Json :=
  dict [("schema", .str Authorization.proofSchema), ("request_bytes", .str (hex r.raw))]

theorem admissionValue_packed (hpy : py.Standard) (r : Request py) :
    ∃ evidence raw, makePackage r .admissionRecord evidence = .ok raw := by
  have hraw := request_size r
  have hk : textSize "schema" = 8 ∧ textSize "request_bytes" = 15 ∧ textSize Authorization.proofSchema ≤ 60 := by
    refine ⟨textSize_plain (by decide), textSize_plain (by decide), ?_⟩
    rw [textSize_plain (by decide)]
    decide
  have hsize : size py.floatRepr (admissionValue r) ≤ maxBody := by
    refine (size_dict_le _).trans ?_
    simp only [List.map_cons, List.map_nil, List.sum_cons, List.sum_nil, memberSize, size_str, textSize_hex, hk.1, hk.2.1]
    have : maxBody = 65536 := rfl
    omega
  have hcheck : checkValue py runtimeBounds 0 (admissionValue r) = .ok () := by
    refine checkValue_dict (by decide) (by simp [runtimeBounds]) fun p hp => ?_
    simp only [List.mem_cons, List.not_mem_nil, or_false] at hp
    rcases hp with rfl | rfl
    · exact checkMember_plain (k := "schema") hpy (by decide) (by decide) (by decide) (.inl ⟨_, rfl, by decide, by decide⟩)
    · refine checkMember_plain (k := "request_bytes") hpy (by decide) (by decide) (by decide) (.inl ⟨_, rfl, hex_plain _, ?_⟩)
      rw [hex_length]
      change _ ≤ 65536
      omega
  have hcanonical := canonical_eq hcheck hsize
  have hw : (admissionValue r).WF := dict_wf (by simp [Json.WF])
  have hlen := canonicalJson_length hcanonical
  have hitems : (admissionValue r).item "schema" = .str Authorization.proofSchema ∧
      (admissionValue r).item "request_bytes" = .str (hex r.raw) := by
    constructor <;> exact item_of_get? (by simp [admissionValue, get?_dict, lookup_cons_ite])
  refine ⟨_, makePackage_eq hpy (canonicalJson_pos py runtimeBounds hw hcanonical) ?_ (load_canonical hw hcanonical) ?_⟩
  · rw [hlen]
    exact hsize
  · have hdict : (admissionValue r).isDict = true := rfl
    rw [evidenceBinding, if_pos rfl, hitems.1, hitems.2, hdict]
    simp only [require, decide_true, Bool.and_self, if_true]

end Instance

def sampleCollector : CollectorConfig where
  context := sampleContext
  privateKey := List.replicate 32 7
  credential := "credential-of-the-sample"
  collectorId := "synthetic-payment-collector-v0"
  recoveryEpoch := 1

theorem samplePlatform_signs : samplePlatform.Signs where
  length _ h := h
  loads _ _ := rfl
  verifies _ _ _ := rfl

/-- A package of the sample request is collected by a process that has just started, and read back. -/
theorem sample_collection_custody : ∃ (s : Collector) (store : CollectorStore) (raw ack body signed : Bytes),
    CollectorReachable samplePlatform s ∧ s.serving = [sampleCollector] ∧
      collect samplePlatform sampleCollector raw 0 s.store = .ok (ack, store) ∧
      verifyReadback samplePlatform body raw sampleCollector.privateKey "0123456789abcdef0123456789abcdef"
        sampleCollector.collectorId 1 = .ok ⟨signed, some ack, "0123456789abcdef0123456789abcdef"⟩ := by
  obtain ⟨prepared, hprepared⟩ := sampleRequest_prepared
  let r : Request samplePlatform := ⟨sampleRequest.json, prepared.raw, sampleRequest.wf, (prepare_ok hprepared).1⟩
  obtain ⟨evidence, raw, hraw⟩ := admissionValue_packed samplePlatform_standard r
  have hd : encodeDigest samplePlatform (storeIdentity samplePlatform sampleCollector) = .ok sampleDigest := by
    have h := @canonicalJson_eq samplePlatform collectorBounds (storeIdentity samplePlatform sampleCollector)
      (by decide +kernel) (by decide +kernel)
    simp only [encodeDigest, encode, h, sample_bytesDigest, bind, Except.bind, pure, Except.pure]
  have hi := @canonicalText_eq samplePlatform (storeIdentity samplePlatform sampleCollector) (by decide +kernel)
    (by decide +kernel)
  have hg := @canonicalText_eq samplePlatform (generationValue sampleCollector.recoveryEpoch sampleDigest)
    (by decide +kernel) (by decide +kernel)
  have hstart := @initializeCollector_eq samplePlatform sampleCollector _ _ _ sampleContext_valid (by decide +kernel) rfl
    (by decide +kernel) hd hi hg
  have hs : CollectorReachable samplePlatform ⟨_, [sampleCollector], []⟩ := .single (.start hstart)
  have hcontext : sampleCollector.context = pick contextFields sampleRequest.json := by decide +kernel
  obtain ⟨-, ack, store, hcollect, -, body, signed, -, -, hverify⟩ :=
    (collection_custody samplePlatform_standard samplePlatform_signs hs .refl).fits r .admissionRecord evidence raw hraw
      sampleCollector List.mem_cons_self (current_created hd hg) hcontext (fun row hrow => (by cases hrow)) 0 0
      (by decide) (by decide) "0123456789abcdef0123456789abcdef" (by decide)
  exact ⟨_, store, raw, ack, body, signed, hs, rfl, hcollect, hverify⟩

end Custody
end VapEvidence
