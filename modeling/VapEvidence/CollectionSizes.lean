import VapEvidence.CollectionSafety

set_option autoImplicit false

/-!
# Collections fit

A request takes at most a few kilobytes, so every package, acknowledgment and readback
stays inside the limits of the messages that carry it.
-/
namespace VapEvidence.Custody
open Json Payment

section Requests
variable {py : Platform} {v : Json}

/-! ## Requests -/

theorem size_text (h : textOk v = true) : size py.floatRepr v ≤ 514 := by
  cases v with
  | str s =>
    simp only [textOk, Bool.and_eq_true, decide_eq_true_eq] at h
    have := textSize_le fun c hc => of_decide_eq_true (List.all_eq_true.1 h.2 c hc)
    rw [size_str]
    omega
  | _ => cases h

theorem lowerHex_plain {c : Char} (h : isLowerHex c = true) : plainChar c = true := by
  simp only [isLowerHex, Bool.decide_or, Bool.decide_and, Bool.or_eq_true, Bool.and_eq_true, decide_eq_true_eq] at h
  have h0 : '0'.toNat = 48 := by decide
  have h9 : '9'.toNat = 57 := by decide
  have ha : 'a'.toNat = 97 := by decide
  have hf : 'f'.toNat = 102 := by decide
  have hq : c ≠ '"' := by
    rintro rfl
    exact absurd h (by decide)
  have hb : c ≠ '\\' := by
    rintro rfl
    exact absurd h (by decide)
  have hrange : 48 ≤ c.toNat ∧ c.toNat ≤ 102 := by
    rcases h with ⟨hl, hu⟩ | ⟨hl, hu⟩
    · have hl : '0'.toNat ≤ c.toNat := hl
      have hu : c.toNat ≤ '9'.toNat := hu
      omega
    · have hl : 'a'.toNat ≤ c.toNat := hl
      have hu : c.toNat ≤ 'f'.toNat := hu
      omega
  simp only [plainChar, Bool.and_eq_true, decide_eq_true_eq]
  exact ⟨⟨⟨by omega, by omega⟩, hq⟩, hb⟩

theorem lowerHex_printable {c : Char} (h : isLowerHex c = true) : 32 ≤ c.toNat := by
  have := lowerHex_plain h
  simp only [plainChar, Bool.and_eq_true, decide_eq_true_eq] at this
  exact this.1.1.1

theorem size_hash (h : hashOk v = true) : size py.floatRepr v ≤ 286 := by
  cases v with
  | str s =>
    simp only [hashOk, hashText, Bool.and_eq_true, decide_eq_true_eq] at h
    obtain ⟨⟨hstart, hlen⟩, hrest⟩ := h
    have hsplit := List.prefix_iff_eq_append.1 (List.isPrefixOf_iff_prefix.1 hstart)
    have hall : ∀ c ∈ s.toList, 32 ≤ c.toNat := by
      intro c hc
      rw [← hsplit] at hc
      rcases List.mem_append.1 hc with hc | hc
      · exact (by simp : ∀ c ∈ "sha256:".toList, 32 ≤ c.toNat) c hc
      · exact lowerHex_printable (List.all_eq_true.1 hrest c hc)
    have := textSize_le hall
    rw [size_str]
    omega
  | _ => cases h

theorem size_currency (h : currencyOk v = true) : size py.floatRepr v ≤ 14 := by
  cases v with
  | str s =>
    simp only [currencyOk, Bool.and_eq_true, decide_eq_true_eq] at h
    have hall : ∀ c ∈ s.toList, 32 ≤ c.toNat := by
      intro c hc
      have hupper := List.all_eq_true.1 h.2 c hc
      simp only [Bool.and_eq_true, decide_eq_true_eq] at hupper
      have hA : 'A'.toNat = 65 := by decide
      have : 'A'.toNat ≤ c.toNat := hupper.1
      omega
    have := textSize_le hall
    rw [size_str]
    omega
  | _ => cases h

theorem size_decimal (h : decimalOk v = true) : size py.floatRepr v ≤ 314 := by
  cases v with
  | str s =>
    simp only [decimalOk, Bool.and_eq_true, decide_eq_true_eq] at h
    have hall : ∀ c ∈ s.toList, 32 ≤ c.toNat := by
      intro c hc
      have hdigit : c.isDigit = true := by
        obtain ⟨-, h⟩ := h
        unfold decimalDigits at h
        split at h
        · next heq =>
          rw [heq, List.mem_singleton] at hc
          subst c
          rfl
        · next d ds _ heq =>
          rw [heq] at hc
          exact List.all_eq_true.1 (Bool.and_eq_true_iff.1 h).2 c hc
        · cases h
      have h0 : '0'.toNat = 48 := by decide
      have := (Char.isDigit_iff_toNat.1 hdigit).1
      omega
    have := textSize_le hall
    rw [size_str]
    omega
  | _ => cases h

theorem size_integer {n : ℤ} (h : n.natAbs ≤ maxInteger) : size py.floatRepr (.int n) ≤ 17 := by
  refine size_int_le (k := 16) (by decide) ?_
  change _ ≤ 9007199254740991 at h
  omega

theorem size_integerOk (h : integerOk v = true) : size py.floatRepr v ≤ 17 := by
  cases v with
  | int n =>
    simp only [integerOk, Bool.and_eq_true, decide_eq_true_eq] at h
    exact size_integer (by omega)
  | _ => cases h

theorem size_scale (h : scaleOk v = true) : size py.floatRepr v ≤ 2 := by
  cases v with
  | int n =>
    simp only [scaleOk, Bool.and_eq_true, decide_eq_true_eq] at h
    exact size_int_le (k := 1) (by decide) (by omega)
  | _ => cases h

/-- What a request's own context passed. -/
theorem request_context (r : Request py) : contextOk (pick contextFields r.json) = true := by
  obtain ⟨-, item, hl, -, -, ⟨c, hc⟩, -⟩ := requestBytes_ok r.ok
  obtain rfl : r.json = item := Except.ok.inj (r.load_raw.symm.trans hl)
  have hw := pick_wf r.wf contextFields
  obtain ⟨raw, hraw, h⟩ := bind_ok hc
  obtain ⟨snapshot, hload, h⟩ := bind_ok h
  obtain ⟨_, hok, -⟩ := bind_ok h
  obtain rfl := Except.ok.inj (hload.symm.trans (load_canonical hw hraw))
  exact require_ok.1 hok

/-- A request takes at most 5200 bytes. -/
theorem request_size (r : Request py) : r.raw.length ≤ 5200 := by
  obtain ⟨hfields, hschema, hok⟩ := r.fields_ok
  have hcontext := request_context r
  simp only [contextOk, scopeFields, Bool.and_eq_true, List.all_cons, List.all_nil, and_true] at hcontext
  obtain ⟨⟨⟨-, htenant, henvironment, haudience, hdomain⟩, hcurrency⟩, hscale⟩ := hcontext
  rw [item_pick r.json (by decide)] at htenant henvironment haudience hdomain hcurrency hscale
  simp only [requestFieldsOk, Bool.and_eq_true, List.all_cons, List.all_nil, and_true, decide_eq_true_eq] at hok
  obtain ⟨⟨⟨⟨⟨⟨hoperation, hkey, hsource, hbeneficiary⟩, -⟩, hconfiguration⟩, hepoch⟩, hamount⟩, -⟩ := hok
  rw [canonicalJson_length r.canonical_json, eq_pick r.wf hfields]
  have hk : textSize "schema" = 8 ∧ textSize "tenant" = 8 ∧ textSize "environment" = 13 ∧
      textSize "api_audience" = 14 ∧ textSize "idempotency_domain" = 20 ∧ textSize "currency" = 10 ∧
      textSize "minor_unit_scale" = 18 ∧ textSize "operation_id" = 14 ∧ textSize "idempotency_key" = 17 ∧
      textSize "configuration_digest" = 22 ∧ textSize "recovery_epoch" = 16 ∧ textSize "source_account" = 16 ∧
      textSize "beneficiary" = 13 ∧ textSize "amount_minor" = 14 ∧ textSize requestSchema = 39 := by
    refine ⟨?_, ?_, ?_, ?_, ?_, ?_, ?_, ?_, ?_, ?_, ?_, ?_, ?_, ?_, ?_⟩ <;> exact textSize_plain (by decide)
  obtain ⟨k1, k2, k3, k4, k5, k6, k7, k8, k9, k10, k11, k12, k13, k14, k15⟩ := hk
  have v1 := @size_text py _ htenant
  have v2 := @size_text py _ henvironment
  have v3 := @size_text py _ haudience
  have v4 := @size_text py _ hdomain
  have v5 := @size_currency py _ hcurrency
  have v6 := @size_scale py _ hscale
  have v7 := @size_text py _ hoperation
  have v8 := @size_text py _ hkey
  have v9 := @size_hash py _ hconfiguration
  have v10 := @size_integerOk py _ hepoch
  have v11 := @size_text py _ hsource
  have v12 := @size_text py _ hbeneficiary
  have v13 := @size_decimal py _ hamount
  refine (size_dict_le _).trans ?_
  simp only [requestFields, contextFields, scopeFields, List.map_cons, List.map_nil, List.cons_append,
    List.nil_append, List.sum_cons, List.sum_nil, memberSize, hschema, size_str, k1, k2, k3, k4, k5, k6, k7, k8, k9,
    k10, k11, k12, k13, k14, k15]
  omega

end Requests

section Statements
variable {py : Platform}

/-! ## Packages and statements -/

theorem encodeDigest_plain (hpy : py.Standard) {v : Json} {d : String} (h : encodeDigest py v = .ok d) :
    d.toList.all plainChar = true ∧ d.length = 71 := by
  obtain ⟨raw, -, h⟩ := bind_ok h
  cases h
  exact ⟨bytesDigest_plain py raw, bytesDigest_length hpy raw⟩

theorem package_size (hpy : py.Standard) {raw : Bytes} {context package : Json}
    (h : validatePackage py raw context = .ok package) : raw.length ≤ 142072 := by
  obtain ⟨r, kind, evidence, contextDigest, rfl, hencode, -, hdigest, -, hl⟩ := validatePackage_eq h
  obtain ⟨hc, hcl⟩ := encodeDigest_plain hpy hdigest
  have hsize := packageValue_size r kind hpy hc hcl hl
  have hr := request_size r
  change _ ≤ 65536 at hl
  rw [canonicalJson_length hencode]
  omega

theorem envelope_size (hpy : py.Standard) (key message : Bytes) (payload : Json) :
    size py.floatRepr (envelope payload (py.sign key message)) ≤ size py.floatRepr payload + 160 := by
  have hk : textSize "payload" = 9 ∧ textSize "signature" = 11 := by
    constructor <;> exact textSize_plain (by decide)
  refine (size_dict_le _).trans ?_
  simp only [List.map_cons, List.map_nil, List.sum_cons, List.sum_nil, memberSize, size_str, textSize_hex,
    hpy.signature, hk.1, hk.2]
  omega

/-- A small payload is signed, and the statement is small. -/
theorem signStatement_eq (hpy : py.Standard) {payload : Json} (key : Bytes)
    (hc : ∀ d ≤ 1, checkValue py collectorBounds d payload = .ok ()) (hs : size py.floatRepr payload ≤ 1140) :
    ∃ raw, signStatement py key payload = .ok raw := by
  have hp := canonicalJson_eq (hc 0 (by decide)) (hs.trans (by decide))
  generalize encodeUtf8 (dumps py.floatRepr false payload) = signed at hp
  have hplain : (hex (py.sign key (signingDomain ++ signed))).length ≤ collectorBounds.string := by
    rw [hex_length, hpy.signature]
    decide
  have he : checkValue py collectorBounds 0 (envelope payload (py.sign key (signingDomain ++ signed))) = .ok () := by
    refine checkValue_dict (by decide) (by simp [collectorBounds]) fun p hp => ?_
    simp only [List.mem_cons, List.not_mem_nil, or_false] at hp
    rcases hp with rfl | rfl
    · exact ⟨checkString_plain hpy (s := "payload") (by decide) (by decide) (by decide), hc 1 le_rfl⟩
    · exact checkMember_plain (k := "signature") hpy (by decide) (by decide) (by decide)
        (.inl ⟨_, rfl, hex_plain _, hplain⟩)
  have hsize : size py.floatRepr (envelope payload (py.sign key (signingDomain ++ signed))) ≤
      collectorBounds.document := by
    have := envelope_size hpy key (signingDomain ++ signed) payload
    change _ ≤ 524288
    omega
  refine ⟨encodeUtf8 (dumps py.floatRepr false (envelope payload (py.sign key (signingDomain ++ signed)))), ?_⟩
  rw [signStatement, show encode py payload = .ok signed from hp]
  exact canonicalJson_eq he hsize

theorem statement_size (hpy : py.Standard) {payload : Json} {key raw : Bytes} (hw : payload.WF)
    (h : signStatement py key payload = .ok raw) (hs : size py.floatRepr payload ≤ 1140) :
    0 < raw.length ∧ raw.length ≤ 1300 := by
  obtain ⟨signed, -, henc, -⟩ := signStatement_ok hw h
  have hsize := envelope_size hpy key (signingDomain ++ signed) payload
  have hlen := canonicalJson_length henc
  refine ⟨canonicalJson_pos py collectorBounds (envelope_wf hw _) henc, ?_⟩
  omega

/-- The collector's name was a text in NFC when the store was opened. -/
theorem Identifies.normal {s : CollectorStore} {config : CollectorConfig} (h : Identifies py s config) :
    py.normalizeNFC config.collectorId = config.collectorId := by
  obtain ⟨-, m, -, hi⟩ := h
  obtain ⟨raw, hraw, -⟩ := canonicalText_ok hi
  have hg : (storeIdentity py config).get? "collector_id" = some (.str config.collectorId) := by
    simp [storeIdentity, get?_dict, lookup_cons_ite]
  exact canonicalJson_str py runtimeBounds hraw hg

/-- A collector's name fits as any member of a payload. -/
theorem checkMember_name (hpy : py.Standard) {config : CollectorConfig} (hn : py.normalizeNFC config.collectorId = config.collectorId)
    (hc : Configured config) {d : ℕ} (hd : d ≤ 20) :
    checkString py collectorBounds d "collector_id" = .ok () ∧
      checkValue py collectorBounds d (.str config.collectorId) = .ok () := by
  have hlen := hc.collectorId
  simp only [textOk, Bool.and_eq_true, decide_eq_true_eq] at hlen
  refine ⟨checkString_plain hpy hd (by decide) (by decide), ?_⟩
  rw [checkValue]
  refine checkString_ok hd ?_ hn
  change _ ≤ 524288
  omega

/-! ## Payloads -/

section Payloads
variable {config : CollectorConfig}

theorem size_name (hc : Configured config) : size py.floatRepr (.str config.collectorId) ≤ 514 := size_text hc.collectorId

theorem integer_small {n : ℤ} (h : integerOk (.int n) = true) : n.natAbs ≤ maxInteger := by
  simp only [integerOk, Bool.and_eq_true, decide_eq_true_eq] at h
  omega

theorem digest_fits (hpy : py.Standard) (raw : Bytes) : (bytesDigest py raw).length ≤ collectorBounds.string := by
  rw [bytesDigest_length hpy]
  decide

theorem ackPayload_checks (hpy : py.Standard) (hn : py.normalizeNFC config.collectorId = config.collectorId)
    (hc : Configured config) {now : ℕ} (hnow : now ≤ maxInteger) (r : Request py) (kind : Kind) (context : Bytes) {evidence : Bytes}
    (hl : evidence.length ≤ maxEvidenceBytes) (raw : Bytes) {d : ℕ} (hd : d ≤ 1) :
    checkValue py collectorBounds d
      (ackPayload py config now (packageValue r (bytesDigest py context) kind evidence) raw) = .ok () := by
  obtain ⟨hkt, hkl, hpt, hpl⟩ := kind_plain kind
  obtain ⟨-, -, h3, h4, h5, h6, -, h8, h9⟩ := packageValue_items r (bytesDigest py context) kind evidence
  have hd' : d + 1 ≤ collectorBounds.depth := by
    change _ ≤ 20
    omega
  refine checkValue_dict (by omega) (by simp [collectorBounds, bindingMembers, bindingFields]) fun p hp => ?_
  simp only [bindingMembers, bindingFields, List.map_cons, List.map_nil, List.cons_append, List.nil_append, List.mem_cons,
    List.not_mem_nil, or_false, h3, h4, h5, h6, h8, h9] at hp
  rcases hp with rfl | rfl | rfl | rfl | rfl | rfl | rfl | rfl | rfl | rfl | rfl
  · exact checkMember_plain (k := "schema") hpy hd' (by decide) (by decide) (.inl ⟨_, rfl, by decide, by decide⟩)
  · exact checkMember_name hpy hn hc hd'
  · exact checkMember_plain (k := "storage_epoch") hpy hd' (by decide) (by decide) (.inr ⟨_, rfl, integer_small hc.epoch⟩)
  · exact checkMember_plain (k := "recorded_at_ms") hpy hd' (by decide) (by decide) (.inr ⟨_, rfl, hnow⟩)
  · exact checkMember_plain (k := "package_digest") hpy hd' (by decide) (by decide)
      (.inl ⟨_, rfl, bytesDigest_plain py _, digest_fits hpy _⟩)
  · exact checkMember_plain (k := "request_digest") hpy hd' (by decide) (by decide)
      (.inl ⟨_, rfl, bytesDigest_plain py _, digest_fits hpy _⟩)
  · exact checkMember_plain (k := "context_digest") hpy hd' (by decide) (by decide)
      (.inl ⟨_, rfl, bytesDigest_plain py _, digest_fits hpy _⟩)
  · exact checkMember_plain (k := "kind") hpy hd' (by decide) (by decide) (.inl ⟨_, rfl, hkt, hkl.trans (by decide)⟩)
  · exact checkMember_plain (k := "phase") hpy hd' (by decide) (by decide) (.inl ⟨_, rfl, hpt, hpl.trans (by decide)⟩)
  · exact checkMember_plain (k := "evidence_digest") hpy hd' (by decide) (by decide)
      (.inl ⟨_, rfl, bytesDigest_plain py _, digest_fits hpy _⟩)
  · refine checkMember_plain (k := "evidence_length") hpy hd' (by decide) (by decide) (.inr ⟨_, rfl, ?_⟩)
    change _ ≤ 65536 at hl
    change _ ≤ 9007199254740991
    omega

theorem ackPayload_size (hpy : py.Standard) (hc : Configured config) {now : ℕ} (hnow : now ≤ maxInteger)
    (r : Request py) (kind : Kind) (context : Bytes) {evidence : Bytes} (hl : evidence.length ≤ maxEvidenceBytes) (raw : Bytes) :
    size py.floatRepr (ackPayload py config now (packageValue r (bytesDigest py context) kind evidence) raw) ≤ 1140 := by
  obtain ⟨hkt, hkl, hpt, hpl⟩ := kind_plain kind
  obtain ⟨-, -, h3, h4, h5, h6, -, h8, h9⟩ := packageValue_items r (bytesDigest py context) kind evidence
  have hname := @size_name py config hc
  rw [size_str] at hname
  have hepoch := @size_integer py _ (integer_small hc.epoch)
  have hclock := @size_integer py now hnow
  have hlen : size py.floatRepr (.int evidence.length) ≤ 6 := by
    refine size_int_le (k := 5) (by decide) ?_
    change _ ≤ 65536 at hl
    simp only [Int.natAbs_natCast]
    omega
  have hk : textSize "schema" = 8 ∧ textSize "collector_id" = 14 ∧ textSize "storage_epoch" = 15 ∧
      textSize "recorded_at_ms" = 16 ∧ textSize "package_digest" = 16 ∧ textSize "request_digest" = 16 ∧
      textSize "context_digest" = 16 ∧ textSize "kind" = 6 ∧ textSize "phase" = 7 ∧ textSize "evidence_digest" = 17 ∧
      textSize "evidence_length" = 17 ∧ textSize ackSchema = 37 := by
    refine ⟨?_, ?_, ?_, ?_, ?_, ?_, ?_, ?_, ?_, ?_, ?_, ?_⟩ <;> exact textSize_plain (by decide)
  obtain ⟨k1, k2, k3, k4, k5, k6, k7, k8, k9, k10, k11, k12⟩ := hk
  refine (size_dict_le _).trans ?_
  simp only [bindingMembers, bindingFields, List.map_cons, List.map_nil, List.cons_append, List.nil_append, List.sum_cons,
    List.sum_nil, memberSize, h3, h4, h5, h6, h8, h9, size_str, Request.digest, textSize_plain (bytesDigest_plain py _),
    bytesDigest_length hpy, textSize_plain hkt, textSize_plain hpt, k1, k2, k3, k4, k5, k6, k7, k8, k9, k10, k11, k12]
  omega

theorem nonce_plain {nonce : String} (h : nonceOk nonce = true) :
    nonce.toList.all plainChar = true ∧ nonce.length = 32 := by
  simp only [nonceOk, Bool.and_eq_true, decide_eq_true_eq] at h
  refine ⟨List.all_eq_true.2 fun c hc => ?_, h.1⟩
  exact lowerHex_plain (List.all_eq_true.1 h.2 c hc)

/-- The state of a readback is one of two short words. -/
theorem state_plain (present : Bool) :
    (if present then "PRESENT" else "MISSING").toList.all plainChar = true ∧
      (if present then "PRESENT" else "MISSING").length = 7 := by
  cases present <;> decide

theorem readbackPayload_checks (hpy : py.Standard) (hn : py.normalizeNFC config.collectorId = config.collectorId)
    (hc : Configured config) {now : ℕ} (hnow : now ≤ maxInteger) {nonce : String} (hnonce : nonceOk nonce = true)
    (package context : Bytes) (row : Option CollectionRecord) {d : ℕ} (hd : d ≤ 1) :
    checkValue py collectorBounds d (readbackPayload py config (bytesDigest py package) nonce
      (bytesDigest py context) now row) = .ok () := by
  obtain ⟨hp, hpl⟩ := nonce_plain hnonce
  obtain ⟨hs, hsl⟩ := state_plain row.isSome
  have hd' : d + 1 ≤ collectorBounds.depth := by
    change _ ≤ 20
    omega
  refine checkValue_dict (by omega) (by simp [collectorBounds]) fun p hp => ?_
  simp only [List.mem_cons, List.not_mem_nil, or_false] at hp
  rcases hp with rfl | rfl | rfl | rfl | rfl | rfl | rfl | rfl | rfl
  · exact checkMember_plain (k := "schema") hpy hd' (by decide) (by decide) (.inl ⟨_, rfl, by decide, by decide⟩)
  · exact checkMember_name hpy hn hc hd'
  · exact checkMember_plain (k := "recovery_epoch") hpy hd' (by decide) (by decide) (.inr ⟨_, rfl, integer_small hc.epoch⟩)
  · exact checkMember_plain (k := "nonce") hpy hd' (by decide) (by decide)
      (.inl ⟨_, rfl, hp, hpl.trans_le (by decide)⟩)
  · exact checkMember_plain (k := "observed_at_ms") hpy hd' (by decide) (by decide) (.inr ⟨_, rfl, hnow⟩)
  · exact checkMember_plain (k := "state") hpy hd' (by decide) (by decide) (.inl ⟨_, rfl, hs, hsl.trans_le (by decide)⟩)
  · exact checkMember_plain (k := "package_digest") hpy hd' (by decide) (by decide)
      (.inl ⟨_, rfl, bytesDigest_plain py _, digest_fits hpy _⟩)
  · exact checkMember_plain (k := "context_digest") hpy hd' (by decide) (by decide)
      (.inl ⟨_, rfl, bytesDigest_plain py _, digest_fits hpy _⟩)
  · cases row with
    | none =>
      refine ⟨checkString_plain hpy (s := "ack_digest") hd' (by decide) (by decide), ?_⟩
      rw [Option.map_none, Option.getD_none, checkValue, if_neg (not_lt.2 hd')]
    | some row =>
      exact checkMember_plain (k := "ack_digest") hpy hd' (by decide) (by decide)
        (.inl ⟨_, rfl, bytesDigest_plain py _, digest_fits hpy _⟩)

theorem readbackPayload_size (hpy : py.Standard) (hc : Configured config) {now : ℕ} (hnow : now ≤ maxInteger)
    {nonce : String} (hnonce : nonceOk nonce = true) (package context : Bytes) (row : Option CollectionRecord) :
    size py.floatRepr (readbackPayload py config (bytesDigest py package) nonce (bytesDigest py context) now row) ≤ 1140 := by
  obtain ⟨hp, hpl⟩ := nonce_plain hnonce
  obtain ⟨hs, hsl⟩ := state_plain row.isSome
  have hname := @size_name py config hc
  rw [size_str] at hname
  have hepoch := @size_integer py _ (integer_small hc.epoch)
  have hclock := @size_integer py now hnow
  have hack : size py.floatRepr ((row.map fun row => Json.str (bytesDigest py row.ackBytes)).getD .null) ≤ 73 := by
    cases row with
    | none => exact (by decide : (encodeUtf8 "null".toList).length ≤ 73)
    | some row =>
      rw [Option.map_some, Option.getD_some, size_str, textSize_plain (bytesDigest_plain py _), bytesDigest_length hpy]
  have hk : textSize "schema" = 8 ∧ textSize "collector_id" = 14 ∧ textSize "recovery_epoch" = 16 ∧
      textSize "nonce" = 7 ∧ textSize "observed_at_ms" = 16 ∧ textSize "state" = 7 ∧ textSize "package_digest" = 16 ∧
      textSize "context_digest" = 16 ∧ textSize "ack_digest" = 12 ∧ textSize readbackSchema = 42 := by
    refine ⟨?_, ?_, ?_, ?_, ?_, ?_, ?_, ?_, ?_, ?_⟩ <;> exact textSize_plain (by decide)
  obtain ⟨k1, k2, k3, k4, k5, k6, k7, k8, k9, k10⟩ := hk
  refine (size_dict_le _).trans ?_
  simp only [List.map_cons, List.map_nil, List.sum_cons, List.sum_nil, memberSize, size_str, textSize_plain hp, hpl,
    textSize_plain hs, hsl, textSize_plain (bytesDigest_plain py _), bytesDigest_length hpy, k1, k2, k3, k4, k5, k6, k7, k8,
    k9, k10]
  omega

end Payloads

end Statements
end VapEvidence.Custody
