import VapEvidence.CollectionStore

set_option autoImplicit false

/-!
# Readbacks are answers of the store

A readback that a client accepts was executed by the collector for that package and
nonce, in the client's epoch, and shows the record that the store held then.
-/
namespace VapEvidence.Custody
open Json Payment

section Accepted
variable {py : Platform}

/-! ## What an accepted readback contains -/

theorem verifyAck_ok {ack package key : Bytes} {collectorId : String} {epoch : ℤ} {payload : Json}
    (h : verifyAck py ack package key collectorId epoch = .ok payload) :
    verifyStatement py ack key = .ok payload ∧ payload.item "schema" = .str ackSchema ∧
      payload.item "package_digest" = .str (bytesDigest py package) := by
  obtain ⟨value, -, h⟩ := bind_ok h
  obtain ⟨payload', hverify, h⟩ := bind_ok h
  obtain ⟨_, hok, h⟩ := bind_ok h
  cases h
  have hok := require_ok.1 hok
  simp only [Bool.and_eq_true, decide_eq_true_eq] at hok
  have hmembers := List.all_eq_true.1 hok.2 ("package_digest", .str (bytesDigest py package)) List.mem_cons_self
  exact ⟨hverify, hok.1.1.1.1.1.2, of_decide_eq_true hmembers⟩

theorem verifyReadback_ok {response package key : Bytes} {nonce collectorId : String} {epoch : ℤ} {x : Readback}
    (h : verifyReadback py response package key nonce collectorId epoch = .ok x) :
    ∃ v observed, decode py response = .ok v ∧ v.item "readback_bytes" = .str (hex x.readbackBytes) ∧
      verifyStatement py x.readbackBytes key = .ok observed ∧ observed.item "schema" = .str readbackSchema ∧
      observed.item "nonce" = .str nonce ∧ observed.item "recovery_epoch" = .int epoch ∧
      observed.item "package_digest" = .str (bytesDigest py package) ∧
      ((observed.item "state" = .str "MISSING" ∧ x.ackBytes = none) ∨
        (observed.item "state" = .str "PRESENT" ∧ ∃ ack payload, x.ackBytes = some ack ∧
          v.item "ack_bytes" = .str (hex ack) ∧ verifyAck py ack package key collectorId epoch = .ok payload)) := by
  obtain ⟨value, -, h⟩ := bind_ok h
  obtain ⟨v, hv, h⟩ := bind_ok h
  obtain ⟨_, -, h⟩ := bind_ok h
  obtain ⟨readbackBytes, hrb, h⟩ := bind_ok h
  obtain ⟨observed, hobs, h⟩ := bind_ok h
  obtain ⟨_, hok, h⟩ := bind_ok h
  have hok := require_ok.1 hok
  simp only [readbackOk, Bool.and_eq_true, decide_eq_true_eq] at hok
  obtain ⟨⟨⟨⟨⟨⟨⟨⟨⟨-, hschema⟩, -⟩, hnonce⟩, -⟩, hepoch⟩, -⟩, hpackage⟩, -⟩, -⟩ := hok
  by_cases hm : observed.item "state" = .str "MISSING"
  · rw [if_pos hm] at h
    obtain ⟨_, -, h⟩ := bind_ok h
    cases h
    exact ⟨v, observed, hv, hexBytes_ok hrb, hobs, hschema, hnonce, hepoch, hpackage, .inl ⟨hm, rfl⟩⟩
  · rw [if_neg hm] at h
    obtain ⟨_, hstate, h⟩ := bind_ok h
    obtain ⟨ack, hack, h⟩ := bind_ok h
    obtain ⟨original, -, h⟩ := bind_ok h
    obtain ⟨_, hsame, h⟩ := bind_ok h
    obtain ⟨payload, hpayload, h⟩ := bind_ok h
    cases h
    have hsame := require_ok.1 hsame
    simp only [Bool.and_eq_true, decide_eq_true_eq] at hsame
    obtain rfl := hsame.1
    exact ⟨v, observed, hv, hexBytes_ok hrb, hobs, hschema, hnonce, hepoch, hpackage,
      .inr ⟨of_decide_eq_true (require_ok.1 hstate), ack, payload, rfl, hexBytes_ok hack, hpayload⟩⟩

variable (py) in
/-- Neither of the statements in a response is forged. -/
def Authentic (issued : List Bytes) (key response : Bytes) : Prop :=
  ∀ v, decode py response = .ok v → ∀ f ∈ ["readback_bytes", "ack_bytes"], ∀ raw, v.item f = .str (hex raw) →
    Unforged py issued key raw

variable (py) in
/-- No statement sent so far answers the nonce. -/
def Fresh (issued : List Bytes) (nonce : String) : Prop :=
  ∀ raw ∈ issued, ∀ v, decode py raw = .ok v → (v.item "payload").item "nonce" ≠ .str nonce

/-! ## Where a statement was sent -/

/-- A step that answers a readback. -/
structure Answers (py : Platform) (packageDigest nonce : String) (epoch : ℤ) (signed : Bytes) (u u' : Collector) where
  config : CollectorConfig
  now : ℕ
  body : Bytes
  by_ : config ∈ u.serving
  answered : readback py config packageDigest nonce now u.store = .ok body
  carries : Carries py body signed
  epoch_eq : config.recoveryEpoch = epoch
  sends : u' = { u with issued := u.issued ++ [signed] }

/-- A statement sent along a run was sent in one of its steps. -/
theorem issued_run {s t : Collector} (hr : CollectorRun py s t) {raw : Bytes} (h : raw ∈ t.issued) :
    raw ∈ s.issued ∨ ∃ u u', CollectorRun py s u ∧ CollectorRun py u' t ∧
      ((∃ config ∈ u.serving, ∃ package, ∃ now : ℕ, collect py config package now u.store = .ok (raw, u'.store)) ∨
        ∃ packageDigest nonce epoch, Nonempty (Answers py packageDigest nonce epoch raw u u')) := by
  induction hr with
  | refl => exact .inl h
  | @tail v t hrun hstep ih =>
    have earlier (h : raw ∈ v.issued) : raw ∈ s.issued ∨ ∃ u u', CollectorRun py s u ∧ CollectorRun py u' t ∧
        ((∃ config ∈ u.serving, ∃ package, ∃ now : ℕ, collect py config package now u.store = .ok (raw, u'.store)) ∨
          ∃ packageDigest nonce epoch, Nonempty (Answers py packageDigest nonce epoch raw u u')) := by
      rcases ih h with h | ⟨u, u', hu, hu', hrest⟩
      · exact .inl h
      · exact .inr ⟨u, u', hu, hu'.tail hstep, hrest⟩
    cases hstep with
    | start | stop | lost | refused => exact earlier h
    | @collect config package ack now store by_ collected =>
      rcases List.mem_append.1 h with h | h
      · exact earlier h
      · obtain rfl := List.mem_singleton.1 h
        exact .inr ⟨v, _, hrun, .refl, .inl ⟨config, by_, package, now, collected⟩⟩
    | @readback config packageDigest nonce now body signed by_ answered carries =>
      rcases List.mem_append.1 h with h | h
      · exact earlier h
      · obtain rfl := List.mem_singleton.1 h
        exact .inr ⟨v, _, hrun, .refl, .inr ⟨packageDigest, nonce, _,
          ⟨⟨config, now, body, by_, answered, carries, rfl, rfl⟩⟩⟩⟩

/-- Every statement sent is a signed payload of one of the two schemas. -/
theorem CollectorInv.signed {s : Collector} (h : CollectorInv py s) {raw : Bytes} (hraw : raw ∈ s.issued) :
    ∃ k p, p.WF ∧ signStatement py k p = .ok raw := by
  rcases h.issued raw hraw with ⟨row, hrow, rfl⟩ | ⟨config, _, _, _, _, row, hsign⟩
  · obtain ⟨config, now, package, x⟩ := h.original row hrow
    exact ⟨_, _, ackPayload_wf (loadJson_wf py collectorBounds (validatePackage_decode x.valid)), x.signs⟩
  · exact ⟨_, _, readbackPayload_wf .., hsign⟩

/-- A statement determines its payload. -/
theorem payload_unique {k k' : Bytes} {p p' : Json} {raw : Bytes} (hp : p.WF) (hp' : p'.WF)
    (h : signStatement py k p = .ok raw) (h' : signStatement py k' p' = .ok raw) : p = p' := by
  obtain ⟨_, -, -, hdec⟩ := signStatement_ok hp h
  obtain ⟨_, -, -, hdec'⟩ := signStatement_ok hp' h'
  have heq := Except.ok.inj (hdec.symm.trans hdec')
  rw [← (item_envelope p _).1, heq, (item_envelope p' _).1]

/-- An acknowledgment that was sent is the one of the record with its package's digest. -/
theorem CollectorInv.acknowledged {s : Collector} (h : CollectorInv py s) {ack k : Bytes} {payload : Json}
    (hack : ack ∈ s.issued) (hw : payload.WF) (hsign : signStatement py k payload = .ok ack)
    (hschema : payload.item "schema" = .str ackSchema) :
    ∃ row ∈ s.store.records.rows, row.ackBytes = ack ∧ payload.item "package_digest" = .str row.packageDigest := by
  rcases h.issued ack hack with ⟨row, hrow, rfl⟩ | ⟨config, _, _, _, _, row, hsign'⟩
  · obtain ⟨config, now, package, x⟩ := h.original row hrow
    have hpw := loadJson_wf py collectorBounds (validatePackage_decode x.valid)
    obtain rfl := payload_unique hw (ackPayload_wf hpw) hsign x.signs
    refine ⟨row, hrow, rfl, ?_⟩
    rw [x.packageDigest]
    exact (ackPayload_items config now package row.packageBytes).2.2.2.2 ("package_digest", _) List.mem_cons_self
  · obtain rfl := payload_unique hw (readbackPayload_wf ..) hsign hsign'
    rw [(readbackPayload_items ..).1] at hschema
    exact absurd (Json.str.inj hschema) (by decide)

/-- The payload of an answered readback. -/
theorem Answers.payload {packageDigest nonce : String} {epoch : ℤ} {signed : Bytes} {u u' : Collector}
    (a : Answers py packageDigest nonce epoch signed u u') {k : Bytes} {observed : Json} (hw : observed.WF)
    (hsign : signStatement py k observed = .ok signed) : ∃ contextDigest, observed =
      readbackPayload py a.config packageDigest nonce contextDigest a.now
        (u.store.records.rows.find? fun row => row.packageDigest = packageDigest) := by
  obtain ⟨contextDigest, signed', hsign', hbody⟩ := readback_cases a.answered
  obtain rfl := carries_signed hbody a.carries
  exact ⟨contextDigest, payload_unique hw (readbackPayload_wf ..) hsign hsign'⟩

/-- A response accepted for a package and a fresh nonce, with no forged statement in it, was answered by the
    collector since: for that digest and nonce, in the client's epoch, `PRESENT` just when the record was
    there, and with the record's own acknowledgment. -/
theorem readback_answered {s t : Collector} (h : CollectorReachable py s) (hr : CollectorRun py s t)
    {response package key : Bytes} {nonce collectorId : String} {epoch : ℤ} {x : Readback}
    (hfresh : Fresh py s.issued nonce) (hauth : Authentic py t.issued key response)
    (hv : verifyReadback py response package key nonce collectorId epoch = .ok x) :
    ∃ u u', CollectorRun py s u ∧ CollectorRun py u' t ∧
      Nonempty (Answers py (bytesDigest py package) nonce epoch x.readbackBytes u u') ∧
      (x.ackBytes.isSome = true ↔ ∃ row ∈ u.store.records.rows, row.packageDigest = bytesDigest py package) ∧
      ∀ ack, x.ackBytes = some ack →
        ∃ row ∈ u.store.records.rows, row.packageDigest = bytesDigest py package ∧ row.ackBytes = ack := by
  have hinv := collector_inv (h.trans hr)
  obtain ⟨v, observed, hdec, hrb, hobs, hschema, hnonce, hepoch, hpackage, hstate⟩ := verifyReadback_ok hv
  obtain ⟨hsent, k, hsign⟩ := (hauth v hdec _ List.mem_cons_self _ hrb).sent hobs fun _ => hinv.signed
  obtain ⟨_, signature, hw, -, -, henvelope, -, -⟩ := verifyStatement_ok hobs
  rcases issued_run hr hsent with hold | ⟨u, u', hu, hu', hsends⟩
  · refine absurd ?_ (hfresh _ hold _ henvelope)
    rw [(item_envelope observed signature).1, hnonce]
  rcases hsends with ⟨config, hc, package', now, hcollect⟩ | ⟨packageDigest, nonce', epoch', ⟨a⟩⟩
  · obtain ⟨hid, hconfigured⟩ := (collector_inv (h.trans hu)).serving config hc
    obtain ⟨-, -, ⟨row, hrow, -, hack⟩, -⟩ := collect_recorded hcollect hid hconfigured
    obtain ⟨config', now', value, x⟩ := hinv.original row ((records_run hu').subset hrow)
    have hsign' := x.signs
    rw [hack] at hsign'
    have hpw := loadJson_wf py collectorBounds (validatePackage_decode x.valid)
    obtain rfl := payload_unique hw (ackPayload_wf hpw) hsign hsign'
    rw [(ackPayload_items config' now' value row.packageBytes).1] at hschema
    exact absurd (Json.str.inj hschema) (by decide)
  · obtain ⟨contextDigest, rfl⟩ := a.payload hw hsign
    obtain ⟨-, -, he, hn, -, hs, hp, -, -⟩ := @readbackPayload_items py a.config packageDigest nonce'
      contextDigest a.now (u.store.records.rows.find? fun row => row.packageDigest = packageDigest)
    obtain rfl : packageDigest = bytesDigest py package := Json.str.inj (hp.symm.trans hpackage)
    obtain rfl : nonce' = nonce := Json.str.inj (hn.symm.trans hnonce)
    obtain rfl : epoch' = epoch := a.epoch_eq.symm.trans (Json.int.inj (he.symm.trans hepoch))
    refine ⟨u, u', hu, hu', ⟨a⟩, ?_⟩
    rw [hs] at hstate
    cases hfind : u.store.records.rows.find? fun row => row.packageDigest = bytesDigest py package with
    | none =>
      rw [hfind] at hstate
      rcases hstate with ⟨-, hnone⟩ | ⟨hpresent, -⟩
      · rw [hnone]
        refine ⟨⟨fun h => (by cases h), ?_⟩, fun ack hack => (by cases hack)⟩
        rintro ⟨row, hrow, hd⟩
        exact absurd hd (by simpa using List.find?_eq_none.1 hfind row hrow)
      · exact absurd (Json.str.inj hpresent) (by decide)
    | some row =>
      rw [hfind] at hstate
      have hrow := List.mem_of_find?_eq_some hfind
      have hd : row.packageDigest = bytesDigest py package := by simpa using List.find?_some hfind
      rcases hstate with ⟨hmissing, -⟩ | ⟨-, ack, payload, hack, hitem, hverified⟩
      · exact absurd (Json.str.inj hmissing) (show "PRESENT" ≠ "MISSING" by decide)
      obtain ⟨hstatement, hackSchema, hackPackage⟩ := verifyAck_ok hverified
      obtain ⟨-, -, hpw, -, -, -, -, -⟩ := verifyStatement_ok hstatement
      obtain ⟨hackSent, k', hackSign⟩ :=
        (hauth v hdec _ (List.mem_cons_of_mem _ List.mem_cons_self) _ hitem).sent hstatement fun _ => hinv.signed
      obtain ⟨row', hrow', hbytes, hdigest⟩ := hinv.acknowledged hackSent hpw hackSign hackSchema
      have hrows := (records_step (.readback a.by_ a.answered a.carries)).trans
        (a.sends ▸ records_run hu' : _ <+: t.store.records.rows)
      have hsame : row = row' := records_unique (hrows.subset hrow) hrow'
        (.inl (hd.trans (Json.str.inj (hackPackage.symm.trans hdigest))))
      rw [hack]
      refine ⟨⟨fun _ => ⟨row, hrow, hd⟩, fun _ => rfl⟩, fun ack' hack' => ?_⟩
      cases hack'
      exact ⟨row, hrow, hd, hsame ▸ hbytes⟩

end Accepted
end VapEvidence.Custody
