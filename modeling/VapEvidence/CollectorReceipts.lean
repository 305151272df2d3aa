import VapEvidence.CollectorStore
import VapEvidence.EditorReplay

set_option autoImplicit false

/-!
# Receipts of the collector

What the collector signs verifies under its key, and what it stores for an accepted intent is read
back as long as its clock does not go back.
-/
namespace VapEvidence.Collector.Metadata
open Json Incident
open Publication (envelopeOf envelopeOf_items envelopeOf_fields hex_lower timestamp_length)

theorem encodeUtf8_of_decodeUtf8 {b : Bytes} {s : List Char} (h : decodeUtf8 b = some s) : encodeUtf8 s = b := by
  cases hd : b.toByteArray.utf8Decode? with
  | none =>
    rw [decodeUtf8, hd] at h
    cases h
  | some cs =>
    obtain ⟨l, hl⟩ := ByteArray.isSome_utf8Decode?_iff.1 (by rw [hd]; rfl)
    rw [decodeUtf8, hl, List.utf8Decode?_utf8Encode] at h
    obtain rfl : l = s := by simpa using h
    have heq : (encodeUtf8 l).toByteArray = b.toByteArray := by rw [encodeUtf8, toByteArray_flatMap, hl]
    have := congrArg (fun a : ByteArray => a.data.toList) heq
    simpa using this

section Messages
variable {pk : Packages}

theorem decodeText_canonicalText {v : Json} {text : String} (h : canonicalText pk v = .ok text) :
    ∃ raw, canonical pk v = .ok raw ∧ decodeText pk text = Collector.decodeJson pk raw := by
  obtain ⟨raw, hraw, h⟩ := bind_ok h
  cases hs : decodeUtf8 raw with
  | none =>
    rw [hs] at h
    cases h
  | some s =>
    rw [hs] at h
    cases h
    exact ⟨raw, hraw, by rw [decodeText, String.toList_ofList, encodeUtf8_of_decodeUtf8 hs]⟩

/-- A value that was captured is read back from its canonical text. -/
theorem decodeText_captured (hpk : ReadsBack pk) {v owned : Json} {text : String} (hw : v.WF)
    (hc : capture pk v = .ok owned) (h : canonicalText pk v = .ok text) : decodeText pk text = .ok v := by
  obtain ⟨raw, hraw, hd⟩ := decodeText_canonicalText h
  obtain ⟨raw', -, hraw', hread⟩ := capture_ok hc
  rw [hraw] at hraw'
  cases hraw'
  rw [hd, hread, capture_eq hpk hw hc]

/-- What is captured has a canonical text. -/
theorem canonicalText_captured {v owned : Json} (hc : capture pk v = .ok owned) : ∃ text, canonicalText pk v = .ok text := by
  obtain ⟨raw, -, hraw, hread⟩ := capture_ok hc
  obtain ⟨s, hs, -⟩ := decodeJson_ok hread
  refine ⟨String.ofList s, ?_⟩
  rw [canonicalText, hraw]
  simp only [bind, Except.bind, hs]

/-! ## Records of short texts -/

/-- A text that is no longer than a control text may be. -/
def Short (v : Json) : Prop := ∃ s, v = .str s ∧ s.length ≤ maxString

theorem bounded_member {d : ℕ} {ms : List (String × Json)} (h : ∀ m ∈ ms, bounded d m.2 = .ok ()) :
    boundedFields d ms = .ok () := by
  induction ms with
  | nil => rfl
  | cons m ms ih =>
    obtain ⟨k, v⟩ := m
    rw [boundedFields, h (k, v) List.mem_cons_self]
    exact ih fun m hm => h m (List.mem_cons_of_mem _ hm)

theorem bounded_str {d : ℕ} (h : d ≤ maxNesting) (s : String) : bounded d (.str s) = .ok () := by
  unfold bounded
  exact require_true (decide_eq_true h)

theorem bounded_dict {d : ℕ} {ps : List (String × Json)} (hd : d ≤ maxNesting) (hl : ps.length ≤ maxMembers)
    (h : ∀ p ∈ ps, bounded (d + 1) p.2 = .ok ()) : bounded d (dict ps) = .ok () := by
  have hlength : (insertAll ps []).length ≤ ps.length := by simpa using sum_insertAll_le (fun _ => 1) ps []
  change bounded d (.obj (insertAll ps [])) = _
  rw [bounded, require_true (decide_eq_true hd), require_true (decide_eq_true (hlength.trans hl))]
  exact bounded_member fun m hm => h m ((mem_insertAll hm).resolve_right List.not_mem_nil)

/-- A value that fits into a message: not deep, and not long. -/
structure Small (pk : Packages) (v : Json) (n room : ℕ) : Prop where
  compact : Compact n v
  bounded : ∀ d, d + n ≤ maxNesting → bounded d v = .ok ()
  size : size pk.floatRepr v ≤ room

theorem small_text {s : String} {n : ℕ} (h : s.length ≤ n) : Small pk (.str s) 0 (6 * n + 2) := by
  refine ⟨.str 0 s, fun d hd => bounded_str (by omega) s, ?_⟩
  have := textSize_le_six s
  rw [size_str]
  omega

theorem Short.small {v : Json} (h : Short v) : Small pk v 0 (6 * maxString + 2) := by
  obtain ⟨s, rfl, hs⟩ := h
  exact small_text hs

theorem Small.dict {ps : List (String × Json)} {n room : ℕ} (keys : List String) (hk : ps.map Prod.fst = keys)
    (hl : keys.length ≤ maxMembers) (hshort : ∀ k ∈ keys, k.length ≤ 32) (hascii : ∀ k ∈ keys, ∀ c ∈ k.toList, c.toNat < 128)
    (h : ∀ p ∈ ps, Small pk p.2 n room) : Small pk (dict ps) (n + 1) (keys.length * (room + 196) + 2) := by
  have hlength : ps.length = keys.length := by rw [← hk, List.length_map]
  refine ⟨.dict keys hk (hl.trans (by decide)) hascii fun p hp => (h p hp).compact,
    fun d hd => bounded_dict (by omega) (hlength.le.trans hl) fun p hp => (h p hp).bounded (d + 1) (by omega), ?_⟩
  refine (size_dict_le ps).trans (Nat.add_le_add_right ?_ 2)
  have hmember : ∀ x ∈ ps.map (memberSize pk.floatRepr), x ≤ room + 196 := by
    intro x hx
    obtain ⟨p, hp, rfl⟩ := List.mem_map.1 hx
    have hkey := hshort p.1 (hk ▸ List.mem_map_of_mem hp)
    have htext := textSize_le_six p.1
    have hvalue := (h p hp).size
    rw [memberSize]
    omega
  have hsum := List.sum_le_card_nsmul _ _ hmember
  rw [List.length_map, hlength] at hsum
  exact hsum

theorem Small.mono {v : Json} {m n room room' : ℕ} (h : Small pk v m room) (hn : m ≤ n) (hr : room ≤ room') :
    Small pk v n room' :=
  ⟨h.compact.mono hn, fun d hd => h.bounded d (by omega), h.size.trans hr⟩

/-- A small value is captured as it is. -/
theorem Small.captured (hpk : WritesCompactly pk) {v : Json} {n room : ℕ} (h : Small pk v n room) (hn : n ≤ maxNesting)
    (hr : room ≤ maxControl) : capture pk v = .ok v := by
  have hcanonical := canonical_compact hpk h.compact (hn.trans (by decide))
  have hloads : loads controlHooks (dumps pk.floatRepr false v) = .ok v :=
    loads_dumps controlHooks pk.floatRepr false (fun _ => True) (fun n _ => by simp [controlHooks, intToken_dumpInt])
      (fun ms hms => uniquePairs_sorted _ ms hms) v h.compact.plain
  have hbounded := h.bounded 0 (by omega)
  have hlength : (encodeUtf8 (dumps pk.floatRepr false v)).length ≤ maxControl := h.size.trans hr
  have hread : Collector.decodeJson pk (encodeUtf8 (dumps pk.floatRepr false v)) = .ok v := by
    rw [Collector.decodeJson, require_true (decide_eq_true hlength), decodeUtf8_encodeUtf8]
    simp only [bind, Except.bind, hloads, hbounded, hcanonical]
  unfold capture
  simp only [hbounded, hcanonical, hread, bind, Except.bind]

/-! ## Signing -/

section Signing
variable (server : Server pk)

theorem controlHex_hex {b : Bytes} {n : ℕ} (h : b.length = n) : controlHex (.str (hex b)) n = .ok (hex b) := by
  rw [controlHex, hex_lower b, hex_length, h, decide_eq_true rfl]
  rfl

theorem controlHex_ok {v : Json} {n : ℕ} {s : String} (h : controlHex v n = .ok s) :
    v = .str s ∧ s.length = 2 * n ∧ s.toList.all isLowerHex = true := by
  unfold controlHex at h
  split at h
  · split_ifs at h with hs
    · cases h
      rw [Bool.and_eq_true, decide_eq_true_eq] at hs
      exact ⟨rfl, hs.1, hs.2⟩
    · cases h
  · cases h

theorem controlText_ok {v : Json} {s : String} (h : controlText v = .ok s) : v = .str s ∧ s.length ≤ maxString := by
  unfold controlText at h
  split at h
  · split_ifs at h with hs
    · cases h
      rw [Bool.and_eq_true, decide_eq_true_eq] at hs
      exact ⟨rfl, hs.2⟩
    · cases h
  · cases h

theorem server_key : ∃ key, unhex server.secret = some key ∧ key.length = 32 ∧
    server.collectorPublic = hex (pk.publicKey key) := by
  have h := server.keyed
  obtain ⟨s, -, h⟩ := bind_ok h
  cases hu : unhex server.secret with
  | none =>
    rw [hu] at h
    cases h
  | some key =>
    rw [hu] at h
    obtain ⟨-, hlength, -⟩ := controlHex_ok server.held
    refine ⟨key, rfl, ?_, (Except.ok.inj h).symm⟩
    rw [← hex_of_unhex hu, hex_length] at hlength
    omega

/-- The envelope of a record that the collector signs. -/
theorem envelope_small {body : Json} {signature : Bytes} (hb : Small pk body 1 13874) (hs : signature.length = 64) :
    Small pk (envelopeOf server.collectorKeyId body signature) 2 maxControl := by
  have hshort (s : String) (h : s.length ≤ maxString) : Small pk (.str s) 1 13874 :=
    (Short.small ⟨s, rfl, h⟩).mono (by decide) (by decide)
  refine (@Small.dict _ _ 1 13874 ["algorithm", "key_id", "body", "signature"] rfl (by decide) (by decide) (by simp) ?_).mono
    (by decide) (by decide)
  simp only [List.forall_mem_cons]
  refine ⟨hshort _ (by decide), hshort _ (controlText_ok server.keyNamed).2, hb, hshort _ ?_, fun _ h => (List.not_mem_nil h).elim⟩
  rw [hex_length, hs]
  decide

/-- What the collector signs verifies under its key. -/
theorem signed_verifies (hstd : pk.toPlatform.Standard) (hsig : pk.toPlatform.Signs) (hpk : WritesCompactly pk)
    {body : Json} (hb : Small pk body 1 13874) (hd : body.isDict = true) :
    ∃ signature : Bytes, signature.length = 64 ∧
      signControl pk body server.secret server.collectorKeyId = .ok (envelopeOf server.collectorKeyId body signature) ∧
      ∀ kind, body.get? "kind" = some (.str kind) →
        verifyControl pk (envelopeOf server.collectorKeyId body signature) server.collectorPublic server.collectorKeyId kind =
          .ok body := by
  obtain ⟨key, hkey, hlength, hpublic⟩ := server_key server
  have hunsigned : Compact 2 (dict [("algorithm", .str "Ed25519"), ("key_id", .str server.collectorKeyId), ("body", body)]) := by
    refine .dict ["algorithm", "key_id", "body"] rfl (by decide) (by simp) ?_
    simp only [List.forall_mem_cons]
    exact ⟨.str 1 _, .str 1 _, hb.compact, fun _ h => (List.not_mem_nil h).elim⟩
  obtain ⟨raw, hraw⟩ : ∃ raw, canonical pk (dict [("algorithm", .str "Ed25519"), ("key_id", .str server.collectorKeyId),
      ("body", body)]) = .ok raw := ⟨_, canonical_compact hpk hunsigned (by decide)⟩
  refine ⟨pk.sign key (domain ++ raw), hstd.signature key _, ?_, fun kind hk => ?_⟩
  · unfold signControl
    simp only [server.held, server.keyNamed, Incident.require, hd, hb.captured hpk (by decide) (by decide), signingBytes, hraw,
      hkey, if_true, bind, Except.bind]
    rfl
  · obtain ⟨halgorithm, hkeyId, hbody, hsignature⟩ :=
      @envelopeOf_items server.collectorKeyId body (pk.sign key (domain ++ raw))
    have hcaptured := (envelope_small server hb (hstd.signature key (domain ++ raw))).captured hpk (by decide) le_rfl
    have hunsignedOf : unsignedOf (envelopeOf server.collectorKeyId body (pk.sign key (domain ++ raw))) =
        dict [("algorithm", .str "Ed25519"), ("key_id", .str server.collectorKeyId), ("body", body)] := unsignedOf_dict _ _ _ _
    have henvelope : envelope pk (envelopeOf server.collectorKeyId body (pk.sign key (domain ++ raw))) kind =
        .ok (envelopeOf server.collectorKeyId body (pk.sign key (domain ++ raw))) := by
      simp only [envelope, hcaptured, exact, envelopeFields, envelopeOf_fields, halgorithm, hkeyId, hbody, hsignature,
        server.keyNamed, controlHex_hex (hstd.signature key (domain ++ raw)), hd, hk, Incident.require, if_true, decide_true,
        Bool.and_self, bind, Except.bind, pure, Except.pure]
    simp only [verifyControl, henvelope, hkeyId, hbody, hsignature, server.keyNamed, signingBytes, hunsignedOf, hraw,
      hpublic, controlHex_hex (hsig.length key hlength), unhex_hex, textOf, hsig.verifies key (domain ++ raw) hlength,
      Incident.require, if_true, decide_true, bind, Except.bind, pure, Except.pure]

/-! ## Messages that were verified -/

theorem verifyControl_ok (hread : ReadsBack pk) {value body : Json} {public_ keyId kind : String} (hw : value.WF)
    (h : verifyControl pk value public_ keyId kind = .ok body) :
    body = value.item "body" ∧ capture pk value = .ok value ∧ envelope pk value kind = .ok value ∧
      body.get? "kind" = some (.str kind) := by
  obtain ⟨e, he, hrest⟩ := bind_ok h
  have heq := envelope_eq hread hw he
  rw [heq] at he hrest
  obtain ⟨w, hcaptured, hkind⟩ := bind_ok he
  obtain ⟨w', hexact, hkind⟩ := bind_ok hkind
  obtain ⟨_, -, hexact⟩ := bind_ok hexact
  cases hexact
  have howned := capture_eq hread hw hcaptured
  rw [howned] at hcaptured hkind
  iterate 3 obtain ⟨_, -, hkind⟩ := bind_ok hkind
  obtain ⟨_, hkind, -⟩ := bind_ok hkind
  have hk := Incident.require_ok hkind
  rw [Bool.and_eq_true, decide_eq_true_eq] at hk
  iterate 4 obtain ⟨_, -, hrest⟩ := bind_ok hrest
  split at hrest
  · obtain ⟨_, -, hrest⟩ := bind_ok hrest
    have hbody := (Except.ok.inj hrest).symm
    exact ⟨hbody, hcaptured, he, hbody ▸ hk.2⟩
  · cases hrest

/-- What the validation of an intent establishes. -/
theorem validateIntent_ok (hread : ReadsBack pk) {v w : Json} (hv : v.WF) (h : validateIntent pk v = .ok w) :
    w = v ∧ identity pk w = .ok () ∧ ∃ created, timestamp (w.item "created_at") = .ok created := by
  unfold validateIntent at h
  obtain ⟨w', hw, h⟩ := bind_ok h
  obtain ⟨w'', hexact, h⟩ := bind_ok h
  obtain ⟨_, -, hexact⟩ := bind_ok hexact
  cases hexact
  obtain ⟨_, -, h⟩ := bind_ok h
  obtain ⟨⟨⟩, hidentity, h⟩ := bind_ok h
  iterate 6 obtain ⟨_, -, h⟩ := bind_ok h
  obtain ⟨created, hcreated, h⟩ := bind_ok h
  cases h
  exact ⟨capture_eq hread hv hw, hidentity, created, hcreated⟩

theorem identity_ok {body : Json} {u : Unit} (h : identity pk body = .ok u) :
    ∃ collectorId requestId id, body.item "collector_id" = .str collectorId ∧ body.item "request_id" = .str requestId ∧
      body.item "collection_id" = .str id ∧ controlText (.str collectorId) = .ok collectorId ∧
      controlText (.str requestId) = .ok requestId ∧ controlHex (.str id) 32 = .ok id := by
  obtain ⟨collectorId, hcollector, h⟩ := bind_ok h
  obtain ⟨requestId, hrequest, h⟩ := bind_ok h
  obtain ⟨id, hid, -⟩ := bind_ok h
  have hc := (controlText_ok hcollector).1
  have hr := (controlText_ok hrequest).1
  have hi := (controlHex_ok hid).1
  rw [hc] at hcollector
  rw [hr] at hrequest
  rw [hi] at hid
  exact ⟨collectorId, requestId, id, hc, hr, hi, hcollector, hrequest, hid⟩

theorem identity_congr {a b : Json} (hc : a.item "collector_id" = b.item "collector_id")
    (hr : a.item "request_id" = b.item "request_id") (hi : a.item "collection_id" = b.item "collection_id") :
    identity pk a = identity pk b := by
  simp only [identity, hc, hr, hi]

/-- An intent for this collector, verified and validated. -/
structure Accepted (intent body : Json) : Prop where
  wf : intent.WF
  verified : verifyControl pk intent server.gatewayPublic server.gatewayKeyId "collection_intent" = .ok body
  valid : validateIntent pk body = .ok body
  collector : body.item "collector_id" = .str server.collectorId

/-! ## Receipts -/

theorem receiptBody_items (body : Json) (d : String) (now : Json) (uuid : String) :
    (receiptBody body d now uuid).item "collector_id" = body.item "collector_id" ∧
      (receiptBody body d now uuid).item "collection_id" = body.item "collection_id" ∧
      (receiptBody body d now uuid).item "request_id" = body.item "request_id" ∧
      (receiptBody body d now uuid).item "request_sha256" = .str d ∧
      (receiptBody body d now uuid).item "recorded_at" = now ∧
      (receiptBody body d now uuid).item "receipt_id" = .str ("receipt-" ++ uuid) ∧
      (receiptBody body d now uuid).item "storage" = .str "sqlite-wal-full" ∧
      (receiptBody body d now uuid).get? "kind" = some (.str "collection_receipt") := by
  refine ⟨item_dict (by simp) (by simp), item_dict (by simp) (by simp), item_dict (by simp) (by simp),
    item_dict (by simp) (by simp), item_dict (by simp) (by simp), item_dict (by simp) (by simp),
    item_dict (by simp) (by simp), ?_⟩
  rw [receiptBody, get?_dict]
  rfl

theorem digest_length (hstd : pk.toPlatform.Standard) {v : Json} {d : String} (h : digest pk v = .ok d) :
    controlHex (.str d) 32 = .ok d := by
  obtain ⟨raw, -, h⟩ := bind_ok h
  cases h
  exact controlHex_hex (hstd.digest raw)

/-- The receipt of an accepted intent: it is written, read back, and verifies from then on. -/
theorem receipt_ok (hstd : pk.toPlatform.Standard) (hsig : pk.toPlatform.Signs) (hpk : WritesCompactly pk)
    (hread : ReadsBack pk) {intent body now : Json} {d uuid : String} {created t : ℤ} (ha : Accepted server intent body)
    (hd : digest pk intent = .ok d) (hcreated : timestamp (body.item "created_at") = .ok created)
    (hnow : timestamp now = .ok t) (hle : created ≤ t) (huuid : isUuid uuid) :
    ∃ receipt, signControl pk (receiptBody body d now uuid) server.secret server.collectorKeyId = .ok receipt ∧
      receipt.WF ∧ capture pk receipt = .ok receipt ∧ (receipt.item "body").item "kind" = .str "collection_receipt" ∧
      ∀ later u, timestamp later = .ok u → t ≤ u → ∃ b, verifyReceipt pk receipt intent server.collectorPublic
        server.collectorKeyId later = .ok b := by
  obtain ⟨-, hintent, henvelope, -⟩ := verifyControl_ok hread ha.wf ha.verified
  obtain ⟨hbody, -, -, -⟩ := verifyControl_ok hread ha.wf ha.verified
  obtain ⟨-, hidentity, -⟩ := validateIntent_ok hread (hbody ▸ wf_item ha.wf "body") ha.valid
  obtain ⟨collectorId, requestId, id, hc, hr, hi, hct, hrt, hih⟩ := identity_ok hidentity
  obtain ⟨hrc, hri, hrr, hrd, hrn, hru, hrs, hrk⟩ := receiptBody_items body d now uuid
  obtain ⟨clock, rfl, hclock⟩ := timestamp_length hnow
  have hdigest := digest_length hstd hd
  have hsmall : Small pk (receiptBody body d (.str clock) uuid) 1 13874 := by
    refine @Small.dict _ _ 0 1538 ["kind", "collector_id", "collection_id", "request_id", "request_sha256", "recorded_at",
      "receipt_id", "storage"] rfl (by decide) (by decide) (by simp) ?_
    have hid := (controlHex_ok hih).2.1
    have hdl := (controlHex_ok hdigest).2.1
    have hul : ("receipt-" ++ uuid).length ≤ maxString := by
      rw [String.length_append, huuid.1]
      decide
    simp only [List.forall_mem_cons, hc, hr, hi]
    refine ⟨Short.small ⟨_, rfl, by decide⟩, Short.small ⟨_, rfl, (controlText_ok hct).2⟩, Short.small ⟨_, rfl, ?_⟩,
      Short.small ⟨_, rfl, (controlText_ok hrt).2⟩, Short.small ⟨_, rfl, ?_⟩, Short.small ⟨_, rfl, hclock.trans (by decide)⟩,
      Short.small ⟨_, rfl, hul⟩, Short.small ⟨_, rfl, by decide⟩, fun _ h => (List.not_mem_nil h).elim⟩
    · rw [hid]
      decide
    · rw [hdl]
      decide
  obtain ⟨signature, hsignature, hsign, hverify⟩ := signed_verifies server hstd hsig hpk hsmall rfl
  have henvelopeSmall := envelope_small server hsmall hsignature
  have hitem := (@envelopeOf_items server.collectorKeyId (receiptBody body d (.str clock) uuid) signature).2.2.1
  have htext : controlText (.str ("receipt-" ++ uuid)) = .ok ("receipt-" ++ uuid) := by
    have hlength : ("receipt-" ++ uuid).length ≤ maxString := by
      rw [String.length_append, huuid.1]
      decide
    have hblank : ("receipt-" ++ uuid).toList.all isBlank = false := by
      rw [String.toList_append, List.all_append]
      rfl
    rw [controlText, hblank, decide_eq_true hlength]
    rfl
  refine ⟨_, hsign, ?_, henvelopeSmall.captured hpk (by decide) le_rfl, ?_, fun later u hlater hu => ?_⟩
  · obtain ⟨-, -, -, hwf⟩ := signControl_ok hsign
    exact hwf
  · rw [hitem]
    exact item_of_get? hrk
  · have hidentity' : identity pk (receiptBody body d (.str clock) uuid) = .ok () := by
      rw [identity_congr hrc hrr hri]
      exact hidentity
    have hfields : (receiptBody body d (.str clock) uuid).hasFields receiptFields = true := by
      rw [receiptBody, hasFields_dict]
      exact ⟨by simp [receiptFields], by simp [receiptFields]⟩
    refine ⟨receiptBody body d (.str clock) uuid, ?_⟩
    unfold verifyReceipt
    simp only [henvelope, ← hbody, ha.valid, hverify _ hrk, exact, hfields, hidentity', hrd, hdigest, hru, htext, hrs, binds, hrc, hri,
      hrr, hd, hcreated, hrn, hnow, hlater, hle, hu, Incident.require, List.all_cons, List.all_nil, decide_true, Bool.and_self, if_true,
      bind, Except.bind, pure, Except.pure]

/-! ## Rows -/

/-- The row is read back as an intent and its receipt, from an instant on. -/
structure Readable (from_ : ℤ) (r : Row) (intent receipt : Json) : Prop where
  row : ∀ now t, timestamp now = .ok t → from_ ≤ t →
    Metadata.row server now r = .ok ⟨r.collectionId, r.requestId, r.requestSha256, intent, receipt⟩
  collection : (intent.item "body").item "collection_id" = .str r.collectionId
  request : (intent.item "body").item "request_id" = .str r.requestId
  digest : Incident.digest pk intent = .ok r.requestSha256

theorem Readable.later {s t : ℤ} {r : Row} {intent receipt : Json} (h : Readable server s r intent receipt) (hst : s ≤ t) :
    Readable server t r intent receipt :=
  { h with row := fun now u hu htu => h.row now u hu (hst.trans htu) }

/-- What is stored for an accepted intent is read back from then on. -/
theorem row_readable (hstd : pk.toPlatform.Standard) (hsig : pk.toPlatform.Signs) (hpk : WritesCompactly pk)
    (hread : ReadsBack pk) {intent body now receipt : Json} {d uuid : String} {created t : ℤ} {r : Row}
    (ha : Accepted server intent body) (hd : digest pk intent = .ok d)
    (hcreated : timestamp (body.item "created_at") = .ok created) (hnow : timestamp now = .ok t) (hle : created ≤ t)
    (huuid : isUuid uuid) (hsign : signControl pk (receiptBody body d now uuid) server.secret server.collectorKeyId = .ok receipt)
    (hrow : rowOf pk body d intent receipt = .ok r) : Readable server t r intent receipt := by
  obtain ⟨signed, hsigned, hwf, hcaptured, -, hverifies⟩ :=
    receipt_ok server hstd hsig hpk hread ha hd hcreated hnow hle huuid
  rw [hsign] at hsigned
  obtain rfl := Except.ok.inj hsigned
  obtain ⟨hbody, hintent, -, -⟩ := verifyControl_ok hread ha.wf ha.verified
  obtain ⟨-, hidentity, -⟩ := validateIntent_ok hread (hbody ▸ wf_item ha.wf "body") ha.valid
  obtain ⟨collectorId, requestId, id, -, hr, hi, -, hrt, hih⟩ := identity_ok hidentity
  obtain ⟨intentText, hintentText, hrow⟩ := bind_ok hrow
  obtain ⟨receiptText, hreceiptText, hrow⟩ := bind_ok hrow
  obtain rfl := Except.ok.inj hrow
  refine ⟨fun later u hlater hu => ?_, ?_, ?_, hd⟩
  · obtain ⟨b, hb⟩ := hverifies later u hlater hu
    simp only [Metadata.row, hr, hi, textOf, hih, hrt, digest_length hstd hd, decodeText_captured hread ha.wf hintent hintentText,
      decodeText_captured hread hwf hcaptured hreceiptText, ha.verified, ha.valid, hd, bindsRow, ha.collector, hb,
      Incident.require, decide_true, Bool.and_self, if_true, bind, Except.bind, pure, Except.pure]
  · rw [← hbody, hi]
    rfl
  · rw [← hbody, hr]
    rfl

end Signing
end Messages
end VapEvidence.Collector.Metadata
