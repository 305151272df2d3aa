import VapEvidence.IncidentValues

set_option autoImplicit false

/-!
# What a signed envelope says

Values without floats are told apart by their canonical bytes, so that what was signed
is what is read; and what signing and verifying an envelope establish.
-/
namespace VapEvidence.Incident
open Json

mutual
/-- No float anywhere in the value. -/
def Floatless : Json → Prop
  | .float _ => False
  | .arr xs => FloatlessList xs
  | .obj ms => FloatlessMembers ms
  | _ => True
def FloatlessList : List Json → Prop
  | [] => True
  | x :: xs => Floatless x ∧ FloatlessList xs
def FloatlessMembers : List (String × Json) → Prop
  | [] => True
  | (_, x) :: ms => Floatless x ∧ FloatlessMembers ms
end

theorem floatlessMembers_iff (ms : List (String × Json)) : FloatlessMembers ms ↔ ∀ m ∈ ms, Floatless m.2 := by
  induction ms with
  | nil => simp [FloatlessMembers]
  | cons m ms ih =>
    obtain ⟨k, x⟩ := m
    simp [FloatlessMembers, ih]

theorem dict_floatless {ps : List (String × Json)} (h : ∀ p ∈ ps, Floatless p.2) : Floatless (dict ps) := by
  refine (floatlessMembers_iff _).2 fun m hm => ?_
  rcases mem_insertAll hm with hm | hm
  · exact h m hm
  · cases hm

theorem floatless_item {v : Json} (h : Floatless v) (k : String) : Floatless (v.item k) := by
  cases hl : v.get? k with
  | none =>
    rw [item, hl]
    trivial
  | some x =>
    rw [item_of_get? hl]
    cases v with
    | obj ms => exact (floatlessMembers_iff ms).1 h _ (mem_of_lookup hl)
    | _ => simp [get?, members] at hl

/-- `rfc8785.dumps` writes JSON in UTF-8 that `json.loads` reads back as the value that was written. -/
def ReadsBack (pk : Packages) : Prop :=
  ∀ v raw, v.WF → Floatless v → pk.rfc8785 v = some raw →
    ∃ s, decodeUtf8 raw = some s ∧ loads (floatHooks pk) s = .ok v

/-- The canonical text of a value that was read from canonical text is that text. -/
def Canonicalizes (pk : Packages) : Prop :=
  ∀ v raw s w raw', pk.rfc8785 v = some raw → decodeUtf8 raw = some s → loads (floatHooks pk) s = .ok w →
    pk.rfc8785 w = some raw' → raw' = raw

section Canonical
variable {pk : Packages}

theorem floatHooks_closed (pk : Packages) : Closed (floatHooks pk) WF where
  null := trivial
  bool _ := trivial
  str _ := trivial
  arr xs h := (wfList_iff xs).2 h
  parseInt t v h := by cases h; trivial
  parseFloat t v h := by cases h; trivial
  parseConstant t v h := by cases h
  objectPairs ms v h hv := by
    change uniquePairs _ ms = _ at hv
    unfold uniquePairs at hv
    split_ifs at hv
    cases hv
    exact dict_wf h

theorem decodeJson_wf {n : ℕ} {raw : Bytes} {v : Json} (h : decodeJson pk (floatHooks pk) n raw = .ok v) : v.WF := by
  unfold decodeJson at h
  obtain ⟨_, -, h⟩ := bind_ok h
  split at h
  · cases h
  · split at h
    · cases h
    · next hloads =>
      split at h
      · cases h
      · cases h
        exact loads_closed (floatHooks_closed pk) hloads

theorem canonical_rfc8785 {v : Json} {raw : Bytes} (h : canonical pk v = .ok raw) : pk.rfc8785 v = some raw := by
  unfold canonical at h
  obtain ⟨_, -, h⟩ := bind_ok h
  cases hr : pk.rfc8785 v with
  | none =>
    rw [hr] at h
    cases h
  | some raw' =>
    rw [hr] at h
    cases h
    rfl

theorem canonical_injective (hpk : ReadsBack pk) {v w : Json} {raw : Bytes} (hv : v.WF) (hv' : Floatless v)
    (hw : w.WF) (hw' : Floatless w) (h : canonical pk v = .ok raw) (h' : canonical pk w = .ok raw) : v = w := by
  obtain ⟨s, hs, hread⟩ := hpk v raw hv hv' (canonical_rfc8785 h)
  obtain ⟨t, ht, hread'⟩ := hpk w raw hw hw' (canonical_rfc8785 h')
  rw [hs] at ht
  cases ht
  rw [hread] at hread'
  exact Except.ok.inj hread'

theorem signingBytes_injective (hpk : ReadsBack pk) {domain message : Bytes} {v w : Json} (hv : v.WF)
    (hv' : Floatless v) (hw : w.WF) (hw' : Floatless w) (h : signingBytes pk domain v = .ok message)
    (h' : signingBytes pk domain w = .ok message) : v = w := by
  obtain ⟨raw, hraw, h⟩ := bind_ok h
  obtain ⟨raw', hraw', h'⟩ := bind_ok h'
  cases h
  have heq : raw = raw' := List.append_cancel_left (Except.ok.inj h').symm
  exact canonical_injective hpk hv hv' hw hw' hraw (heq ▸ hraw')

/-- Reading the text of a canonical value gives the value. -/
theorem decodeJson_canonical (hpk : ReadsBack pk) {v w : Json} {raw : Bytes} {s : List Char} {n : ℕ} (hv : v.WF)
    (hv' : Floatless v) (h : canonical pk v = .ok raw) (hs : decodeUtf8 raw = some s)
    (hw : decodeJson pk (floatHooks pk) n (encodeUtf8 s) = .ok w) : w = v := by
  unfold decodeJson at hw
  obtain ⟨_, -, hw⟩ := bind_ok hw
  rw [decodeUtf8_encodeUtf8] at hw
  obtain ⟨t, ht, hread⟩ := hpk v raw hv hv' (canonical_rfc8785 h)
  rw [hs] at ht
  cases ht
  simp only [hread] at hw
  split at hw
  · cases hw
  · cases hw
    rfl

/-- What `_sign` returns. -/
theorem signEnvelope_ok {domain : Bytes} {body envelope : Json} {secret keyId : String}
    (h : signEnvelope pk domain body secret keyId = .ok envelope) :
    ∃ message signature, signingBytes pk domain
        (dict [("algorithm", .str "Ed25519"), ("key_id", .str keyId), ("body", body)]) = .ok message ∧
      envelope = dict [("algorithm", .str "Ed25519"), ("key_id", .str keyId), ("body", body),
        ("signature", .str signature)] := by
  unfold signEnvelope at h
  obtain ⟨_, -, h⟩ := bind_ok h
  obtain ⟨_, -, h⟩ := bind_ok h
  obtain ⟨message, hmessage, h⟩ := bind_ok h
  split at h
  · cases h
    exact ⟨message, _, hmessage, rfl⟩
  · cases h

theorem unsignedOf_dict (algorithm keyId body signature : Json) :
    unsignedOf (dict [("algorithm", algorithm), ("key_id", keyId), ("body", body), ("signature", signature)]) =
      dict [("algorithm", algorithm), ("key_id", keyId), ("body", body)] := by
  have hitem : ∀ k x, (k, x) ∈ [("algorithm", algorithm), ("key_id", keyId), ("body", body)] →
      (dict [("algorithm", algorithm), ("key_id", keyId), ("body", body), ("signature", signature)]).item k = x := by
    intro k x hk
    refine item_of_get? ?_
    rw [get?_dict]
    simp only [List.mem_cons, Prod.mk.injEq, List.not_mem_nil, or_false] at hk
    rcases hk with ⟨rfl, rfl⟩ | ⟨rfl, rfl⟩ | ⟨rfl, rfl⟩ <;> rfl
  simp only [unsignedOf, pick, List.map_cons, List.map_nil]
  rw [hitem "algorithm" algorithm (by simp), hitem "key_id" keyId (by simp), hitem "body" body (by simp)]

theorem unsignedOf_body (envelope : Json) : (unsignedOf envelope).item "body" = envelope.item "body" :=
  item_pick envelope (by simp)

theorem unsigned_body (algorithm keyId body : Json) :
    (dict [("algorithm", algorithm), ("key_id", keyId), ("body", body)]).item "body" = body :=
  item_of_get? (by rw [get?_dict]; rfl)

theorem envelope_body (algorithm keyId body signature : Json) :
    (dict [("algorithm", algorithm), ("key_id", keyId), ("body", body), ("signature", signature)]).item "body" = body :=
  item_of_get? (by rw [get?_dict]; rfl)

/-- What the verification of an envelope establishes. -/
structure Verified (pk : Packages) (domain : Bytes) (envelope : Json) (public_ : String) (keyId : Json)
    (kind : String) (key message signature : Bytes) : Prop where
  algorithm : envelope.item "algorithm" = .str "Ed25519"
  signer : envelope.item "key_id" = keyId
  isDict : (envelope.item "body").isDict = true
  kindOf : (envelope.item "body").item "kind" = .str kind
  loaded : unhex public_ = some key
  signed : envelope.item "signature" = .str (hex signature)
  covered : signingBytes pk domain (unsignedOf envelope) = .ok message
  verifies : pk.verify key message signature = true

theorem require_ok {b : Bool} {message : String} {u : Unit} (h : require b message = .ok u) : b = true := by
  unfold require at h
  split_ifs at h with hb
  · exact hb
  · cases h

/-- The members of a dictionary with checked keys stand under those keys. -/
theorem exactKeys_members {v : Json} {fields : List String} {u : Unit} (hv : v.WF)
    (h : exactKeys v fields [] = .ok u) : ∃ ms, v = .obj ms ∧ ∀ m ∈ ms, m.1 ∈ fields ∧ v.item m.1 = m.2 := by
  unfold exactKeys at h
  split at h
  · next ms =>
    have hr := require_ok h
    simp only [Bool.and_eq_true, List.all_eq_true, Bool.or_eq_true, List.contains_iff_mem, List.not_mem_nil,
      or_false] at hr
    exact ⟨ms, rfl, fun m hm => ⟨hr.2 m hm, item_of_mem hv.1 hm⟩⟩
  · cases h

/-- A dictionary with checked keys is free of floats when the values under them are. -/
theorem exactKeys_floatless {v : Json} {fields : List String} {u : Unit} (hv : v.WF)
    (h : exactKeys v fields [] = .ok u) (hf : ∀ k ∈ fields, Floatless (v.item k)) : Floatless v := by
  obtain ⟨ms, rfl, hms⟩ := exactKeys_members hv h
  refine (floatlessMembers_iff ms).2 fun m hm => ?_
  obtain ⟨hk, hm'⟩ := hms m hm
  exact hm' ▸ hf m.1 hk

theorem digestHex_ok {value : Json} {n : ℕ} {s : String} (h : digestHex value n = .ok s) : value = .str s := by
  unfold digestHex at h
  split at h
  · split_ifs at h
    · cases h
      rfl
    · cases h
  · cases h

theorem sub_ok {v x : Json} {k : String} (h : sub v k = .ok x) : v.item k = x := by
  cases v with
  | obj ms =>
    simp only [sub] at h
    split at h
    · next hl =>
      cases h
      exact item_of_get? hl
    · cases h
  | _ => cases h

theorem sub_wf {v x : Json} {k : String} (hv : v.WF) (h : sub v k = .ok x) : x.WF := sub_ok h ▸ wf_item hv k

theorem text_ok {value : Json} {s : String} (h : text value = .ok s) : value = .str s := by
  unfold text at h
  split at h
  · split_ifs at h
    · cases h
      rfl
    · cases h
  · cases h

theorem timestamp_ok {value : Json} {t : ℤ} (h : timestamp value = .ok t) : ∃ s, value = .str s := by
  unfold timestamp at h
  obtain ⟨s, hs, -⟩ := bind_ok h
  exact ⟨s, text_ok hs⟩

theorem verifyEnvelope_ok {domain : Bytes} {texts : EnvelopeTexts} {envelope body keyId : Json}
    {public_ kind : String} (h : verifyEnvelope pk domain texts envelope public_ keyId kind = .ok body) :
    body = envelope.item "body" ∧ ∃ key message signature,
      Verified pk domain envelope public_ keyId kind key message signature := by
  unfold verifyEnvelope at h
  obtain ⟨_, -, h⟩ := bind_ok h
  obtain ⟨_, halgorithm, h⟩ := bind_ok h
  obtain ⟨_, hkind, h⟩ := bind_ok h
  obtain ⟨_, -, h⟩ := bind_ok h
  obtain ⟨signature, hsignature, h⟩ := bind_ok h
  obtain ⟨message, hmessage, h⟩ := bind_ok h
  have ha := require_ok halgorithm
  have hk := require_ok hkind
  rw [Bool.and_eq_true, decide_eq_true_eq, decide_eq_true_eq] at ha
  rw [Bool.and_eq_true, decide_eq_true_eq] at hk
  split at h
  · next key raw hkey hraw =>
    obtain ⟨_, hverify, h⟩ := bind_ok h
    cases h
    refine ⟨rfl, key, message, raw, ha.1, ha.2, hk.1, hk.2, hkey, ?_, hmessage, require_ok hverify⟩
    rw [digestHex_ok hsignature, hex_of_unhex hraw]
  · cases h

end Canonical

/-! ## Sample packages -/

/-- Packages that write one value; no key verifies anything. -/
def samplePackages : Packages where
  sha256 _ := []
  normalizeNFC s := s
  floatRepr _ := []
  publicKey _ := []
  publicKeyLoads _ := false
  sign _ _ := []
  verify _ _ _ := false
  floatOf _ := 0
  rfc8785
    | .null => some (encodeUtf8 "null".toList)
    | _ => none

theorem samplePackages_canonicalizes : Canonicalizes samplePackages := by
  intro v raw s w raw' h _ _ h'
  cases v with
  | null =>
    cases w with
    | null => exact Option.some.inj (h'.symm.trans h)
    | _ => cases h'
  | _ => cases h

theorem samplePackages_reads : ReadsBack samplePackages := by
  intro v raw hv hf h
  cases v with
  | null =>
    cases h
    exact ⟨"null".toList, decodeUtf8_encodeUtf8 _, by decide⟩
  | _ => cases h

end VapEvidence.Incident
