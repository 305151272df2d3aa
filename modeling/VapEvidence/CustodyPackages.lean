import VapEvidence.CustodySafety
import VapEvidence.JsonSizes

set_option autoImplicit false

/-!
# Packages fit

A package of evidence that belongs to a request is always made, and has room to
spare below the collector's limit.
-/
namespace VapEvidence

/-- What is documented of the library functions: NFC keeps ASCII text, and the lengths of
    SHA-256 digests and Ed25519 signatures. -/
structure Platform.Standard (py : Platform) : Prop where
  ascii : ∀ s : String, (∀ c ∈ s.toList, c.toNat < 128) → py.normalizeNFC s = s
  digest : ∀ raw, (py.sha256 raw).length = 32
  signature : ∀ key message, (py.sign key message).length = 64

namespace Payment
open Json Authorization Custody

/-! ## Hexadecimal text -/

theorem hexDigit_lower : ∀ n < 16, isLowerHex (hexDigit n) = true ∧ plainChar (hexDigit n) = true := by decide

theorem mem_hex {b : Bytes} {c : Char} (h : c ∈ (hex b).toList) : isLowerHex c = true ∧ plainChar c = true := by
  rw [hex, String.toList_ofList] at h
  obtain ⟨x, -, hx⟩ := List.mem_flatMap.1 h
  have hlt := x.toNat_lt
  simp only [hexByte, List.mem_cons, List.not_mem_nil, or_false] at hx
  rcases hx with rfl | rfl
  · exact hexDigit_lower _ (by omega)
  · exact hexDigit_lower _ (by omega)

theorem hex_plain (b : Bytes) : (hex b).toList.all plainChar = true :=
  List.all_eq_true.2 fun _ h => (mem_hex h).2

theorem plain_ascii {s : String} (h : s.toList.all plainChar = true) : ∀ c ∈ s.toList, c.toNat < 128 := by
  intro c hc
  have := List.all_eq_true.1 h c hc
  simp only [plainChar, Bool.and_eq_true, decide_eq_true_eq] at this
  exact this.1.1.2

theorem textSize_hex (b : Bytes) : textSize (hex b) = 2 * b.length + 2 := by
  rw [textSize_plain (hex_plain b), hex_length]

section Standard
variable {py : Platform} {b : JsonBounds}

theorem bytesDigest_length (hpy : py.Standard) (raw : Bytes) : (bytesDigest py raw).length = 71 := by
  rw [bytesDigest, String.length_append, hex_length, hpy.digest]
  rfl

theorem bytesDigest_plain (py : Platform) (raw : Bytes) : (bytesDigest py raw).toList.all plainChar = true := by
  rw [bytesDigest, String.toList_append, List.all_append, hex_plain, Bool.and_true]
  decide

theorem hashText_bytesDigest (hpy : py.Standard) (raw : Bytes) : hashText (bytesDigest py raw) = true := by
  have hall : (hex (py.sha256 raw)).toList.all isLowerHex = true :=
    List.all_eq_true.2 fun _ h => (mem_hex h).1
  have hsplit : (bytesDigest py raw).toList = "sha256:".toList ++ (hex (py.sha256 raw)).toList := by
    rw [bytesDigest, String.toList_append]
  have hdrop : (bytesDigest py raw).toList.drop 7 = (hex (py.sha256 raw)).toList := by
    rw [hsplit]
    rfl
  have hprefix : "sha256:".toList.isPrefixOf (bytesDigest py raw).toList = true := by
    rw [hsplit]
    exact List.isPrefixOf_iff_prefix.2 (List.prefix_append _ _)
  rw [hashText, hprefix, bytesDigest_length hpy, hdrop, hall]
  rfl

theorem checkString_plain (hpy : py.Standard) {d : ℕ} {s : String} (hd : d ≤ b.depth) (hl : s.length ≤ b.string)
    (h : s.toList.all plainChar = true) : checkString py b d s = .ok () :=
  checkString_ok hd hl (hpy.ascii s (plain_ascii h))

theorem checkValue_plainStr (hpy : py.Standard) {d : ℕ} {s : String} (hd : d ≤ b.depth) (hl : s.length ≤ b.string)
    (h : s.toList.all plainChar = true) : checkValue py b d (.str s) = .ok () := by
  rw [checkValue]
  exact checkString_plain hpy hd hl h

end Standard

/-! ## Wider bounds -/

structure Wider (b b' : JsonBounds) : Prop where
  depth : b.depth ≤ b'.depth
  string : b.string ≤ b'.string
  list : b.list ≤ b'.list
  dict : b.dict ≤ b'.dict
  document : b.document ≤ b'.document

section Wider
variable {py : Platform} {b b' : JsonBounds}

theorem checkString_wider (hw : Wider b b') {d : ℕ} {s : String} (h : checkString py b d s = .ok ()) :
    checkString py b' d s = .ok () := by
  unfold checkString at h
  split_ifs at h with hd hs
  rw [not_or] at hs
  exact checkString_ok ((not_lt.1 hd).trans hw.depth) ((not_lt.1 hs.1).trans hw.string) (not_not.1 hs.2)

mutual
theorem checkValue_wider (hw : Wider b b') : ∀ (d : ℕ) (v : Json), checkValue py b d v = .ok () → checkValue py b' d v = .ok ()
  | d, .null, h => by
    rw [checkValue] at h ⊢
    split_ifs at h with hd
    exact if_neg (not_lt.2 ((not_lt.1 hd).trans hw.depth))
  | d, .bool _, h => by
    rw [checkValue] at h ⊢
    split_ifs at h with hd
    exact if_neg (not_lt.2 ((not_lt.1 hd).trans hw.depth))
  | d, .int n, h => by
    rw [checkValue] at h ⊢
    split_ifs at h with hd hn
    rw [if_neg (not_lt.2 ((not_lt.1 hd).trans hw.depth)), if_neg hn]
  | _, .float _, h => by
    rw [checkValue] at h
    split_ifs at h
  | d, .str s, h => by
    rw [checkValue] at h ⊢
    exact checkString_wider hw h
  | d, .arr xs, h => by
    rw [checkValue] at h ⊢
    split_ifs at h with hd hl
    rw [if_neg (not_lt.2 ((not_lt.1 hd).trans hw.depth)), if_neg (not_lt.2 ((not_lt.1 hl).trans hw.list))]
    exact checkElems_wider hw _ xs h
  | d, .obj ms, h => by
    rw [checkValue] at h ⊢
    split_ifs at h with hd hl
    rw [if_neg (not_lt.2 ((not_lt.1 hd).trans hw.depth)), if_neg (not_lt.2 ((not_lt.1 hl).trans hw.dict))]
    exact checkMembers_wider hw _ ms h
theorem checkElems_wider (hw : Wider b b') : ∀ (d : ℕ) (xs : List Json), checkElems py b d xs = .ok () →
    checkElems py b' d xs = .ok ()
  | _, [], _ => rfl
  | d, x :: xs, h => by
    rw [checkElems] at h ⊢
    obtain ⟨_, hx, h⟩ := bind_ok h
    rw [checkValue_wider hw d x hx]
    exact checkElems_wider hw d xs h
theorem checkMembers_wider (hw : Wider b b') : ∀ (d : ℕ) (ms : List (String × Json)), checkMembers py b d ms = .ok () →
    checkMembers py b' d ms = .ok ()
  | _, [], _ => rfl
  | d, (k, x) :: ms, h => by
    rw [checkMembers] at h ⊢
    obtain ⟨_, hk, h⟩ := bind_ok h
    obtain ⟨_, hx, h⟩ := bind_ok h
    rw [checkString_wider hw hk, checkValue_wider hw d x hx]
    exact checkMembers_wider hw d ms h
end

theorem canonicalJson_wider (hw : Wider b b') {v : Json} {raw : Bytes} (h : canonicalJson py b v = .ok raw) :
    canonicalJson py b' v = .ok raw := by
  obtain ⟨hc, rfl, hl⟩ := canonicalJson_ok py b h
  exact canonicalJson_eq (checkValue_wider hw 0 v hc) (hl.trans hw.document)

end Wider

theorem collector_wider : Wider runtimeBounds collectorBounds := by constructor <;> decide

/-! ## Making a package -/

section Making
variable {py : Platform}

theorem raw_length (r : Request py) : 0 < r.raw.length ∧ r.raw.length ≤ maxEvidenceBytes :=
  ⟨canonicalJson_pos py runtimeBounds r.wf r.canonical_json, (canonicalJson_ok py runtimeBounds r.canonical_json).2.2⟩

theorem context_encodes (r : Request py) : ∃ raw, encode py (pick contextFields r.json) = .ok raw := by
  obtain ⟨-, item, hl, -, -, ⟨c, hc⟩, -⟩ := requestBytes_ok r.ok
  obtain rfl : r.json = item := Except.ok.inj (r.load_raw.symm.trans hl)
  obtain ⟨_, hread, -⟩ := bind_ok hc
  cases hraw : canonical py (pick contextFields r.json) with
  | error e =>
    rw [hraw] at hread
    cases hread
  | ok raw => exact ⟨raw, canonicalJson_wider collector_wider hraw⟩

theorem kind_plain (kind : Kind) : kind.text.toList.all plainChar = true ∧ kind.text.length ≤ 16 ∧
    kind.phase.toList.all plainChar = true ∧ kind.phase.length ≤ 9 := by
  cases kind <;> decide

/-- A dictionary of plain texts and small numbers is inside the bounds of a subset. -/
theorem checkMember_plain {b : JsonBounds} (hpy : py.Standard) {d : ℕ} {k : String} {v : Json} (hd : d ≤ b.depth)
    (hk : k.toList.all plainChar = true) (hl : k.length ≤ b.string)
    (hv : (∃ s, v = .str s ∧ s.toList.all plainChar = true ∧ s.length ≤ b.string) ∨
      ∃ n : ℤ, v = .int n ∧ n.natAbs ≤ maxInteger) :
    checkString py b d k = .ok () ∧ checkValue py b d v = .ok () := by
  refine ⟨checkString_plain hpy hd hl hk, ?_⟩
  rcases hv with ⟨s, rfl, hs, hsl⟩ | ⟨n, rfl, hn⟩
  · exact checkValue_plainStr hpy hd hsl hs
  · exact checkValue_int hd hn

section Value
variable (r : Request py) {contextDigest : String} (kind : Kind) {evidence : Bytes}

theorem packageValue_checks (hpy : py.Standard) (hc : contextDigest.toList.all plainChar = true)
    (hcl : contextDigest.length = 71) (hl : evidence.length ≤ maxEvidenceBytes) :
    checkValue py collectorBounds 0 (packageValue r contextDigest kind evidence) = .ok () := by
  obtain ⟨-, hraw⟩ := raw_length r
  obtain ⟨hkt, hkl, hpt, hpl⟩ := kind_plain kind
  have hhex {b : Bytes} (h : b.length ≤ maxEvidenceBytes) : (hex b).length ≤ collectorBounds.string := by
    rw [hex_length]
    change _ ≤ 524288
    change _ ≤ 65536 at h
    omega
  have hdig (raw : Bytes) : (bytesDigest py raw).length ≤ collectorBounds.string := by
    rw [bytesDigest_length hpy]
    decide
  refine checkValue_dict (by decide) (by simp [collectorBounds]) fun p hp => ?_
  simp only [List.mem_cons, List.not_mem_nil, or_false] at hp
  rcases hp with rfl | rfl | rfl | rfl | rfl | rfl | rfl | rfl | rfl
  · exact checkMember_plain (k := "schema") hpy (by decide) (by decide) (by decide) (.inl ⟨_, rfl, by decide, by decide⟩)
  · exact checkMember_plain (k := "request_bytes") hpy (by decide) (by decide) (by decide) (.inl ⟨_, rfl, hex_plain _, hhex hraw⟩)
  · exact checkMember_plain (k := "request_digest") hpy (by decide) (by decide) (by decide) (.inl ⟨_, rfl, bytesDigest_plain py _, hdig _⟩)
  · refine checkMember_plain (k := "context_digest") hpy (by decide) (by decide) (by decide) (.inl ⟨_, rfl, hc, ?_⟩)
    rw [hcl]
    decide
  · exact checkMember_plain (k := "kind") hpy (by decide) (by decide) (by decide) (.inl ⟨_, rfl, hkt, hkl.trans (by decide)⟩)
  · exact checkMember_plain (k := "phase") hpy (by decide) (by decide) (by decide) (.inl ⟨_, rfl, hpt, hpl.trans (by decide)⟩)
  · exact checkMember_plain (k := "evidence_bytes") hpy (by decide) (by decide) (by decide) (.inl ⟨_, rfl, hex_plain _, hhex hl⟩)
  · exact checkMember_plain (k := "evidence_digest") hpy (by decide) (by decide) (by decide) (.inl ⟨_, rfl, bytesDigest_plain py _, hdig _⟩)
  · refine checkMember_plain (k := "evidence_length") hpy (by decide) (by decide) (by decide) (.inr ⟨_, rfl, ?_⟩)
    change _ ≤ 65536 at hl
    change _ ≤ 9007199254740991
    omega

/-- The size of a package: two hexadecimal texts and less than a kilobyte. -/
theorem packageValue_size (hpy : py.Standard) (hc : contextDigest.toList.all plainChar = true)
    (hcl : contextDigest.length = 71) (hl : evidence.length ≤ maxEvidenceBytes) :
    size py.floatRepr (packageValue r contextDigest kind evidence) ≤ 2 * r.raw.length + 2 * evidence.length + 600 := by
  obtain ⟨hkt, hkl, hpt, hpl⟩ := kind_plain kind
  have hlen : size py.floatRepr (.int evidence.length) ≤ 6 := by
    refine size_int_le (k := 5) (by decide) ?_
    change _ ≤ 65536 at hl
    simp only [Int.natAbs_natCast]
    omega
  have hkeys : textSize "schema" = 8 ∧ textSize "request_bytes" = 15 ∧ textSize "request_digest" = 16 ∧
      textSize "context_digest" = 16 ∧ textSize "kind" = 6 ∧ textSize "phase" = 7 ∧ textSize "evidence_bytes" = 16 ∧
      textSize "evidence_digest" = 17 ∧ textSize "evidence_length" = 17 ∧ textSize packageSchema = 41 := by
    refine ⟨?_, ?_, ?_, ?_, ?_, ?_, ?_, ?_, ?_, ?_⟩ <;> exact textSize_plain (by decide)
  obtain ⟨k1, k2, k3, k4, k5, k6, k7, k8, k9, k10⟩ := hkeys
  refine (size_dict_le _).trans ?_
  simp only [List.map_cons, List.map_nil, List.sum_cons, List.sum_nil, memberSize, size_str, Request.digest, textSize_hex,
    textSize_plain (bytesDigest_plain py _), bytesDigest_length hpy, textSize_plain hc, hcl, textSize_plain hkt,
    textSize_plain hpt, k1, k2, k3, k4, k5, k6, k7, k8, k9, k10]
  omega

end Value

theorem packageValue_items (r : Request py) (contextDigest : String) (kind : Kind) (evidence : Bytes) :
    let package := packageValue r contextDigest kind evidence
    package.item "schema" = .str packageSchema ∧ package.item "request_bytes" = .str (hex r.raw) ∧
      package.item "request_digest" = .str r.digest ∧ package.item "context_digest" = .str contextDigest ∧
      package.item "kind" = .str kind.text ∧ package.item "phase" = .str kind.phase ∧
      package.item "evidence_bytes" = .str (hex evidence) ∧
      package.item "evidence_digest" = .str (bytesDigest py evidence) ∧
      package.item "evidence_length" = .int evidence.length := by
  refine ⟨?_, ?_, ?_, ?_, ?_, ?_, ?_, ?_, ?_⟩ <;>
    exact item_of_get? (by simp [packageValue, get?_dict, lookup_cons_ite])

theorem kindOf_text (kind : Kind) : kindOf (.str kind.text) = some kind := by cases kind <;> decide

theorem packageValue_ok (hpy : py.Standard) {r : Request py} {context : Bytes} {kind : Kind} {evidence packed : Bytes}
    (hp : encode py (packageValue r (bytesDigest py context) kind evidence) = .ok packed) :
    packageOk py packed (packageValue r (bytesDigest py context) kind evidence) = true := by
  obtain ⟨h1, -, h3, h4, h5, h6, -, h8, h9⟩ := packageValue_items r (bytesDigest py context) kind evidence
  have hfields : (packageValue r (bytesDigest py context) kind evidence).hasFields packageFields = true := by
    rw [packageValue, hasFields_dict]
    simp [packageFields]
  have hinteger : integerOk (.int (evidence.length : ℤ)) = true := by
    have hget : (packageValue r (bytesDigest py context) kind evidence).get? "evidence_length" =
        some (.int (evidence.length : ℤ)) := by
      simp [packageValue, get?_dict]
    have hle := canonicalJson_int py collectorBounds hp hget
    simp only [integerOk, Bool.and_eq_true, decide_eq_true_eq]
    omega
  simp only [packageOk, hfields, hp, h1, h3, h4, h5, h6, h8, h9, kindOf_text, hinteger, hashOk, Request.digest,
    hashText_bytesDigest hpy, Option.any_some, decide_true, Bool.and_self]

/-- Evidence of a size that belongs to the request is packed, and the package is small. -/
theorem makePackage_eq (hpy : py.Standard) {r : Request py} {kind : Kind} {evidence : Bytes} {body : Json}
    (h0 : 0 < evidence.length) (hl : evidence.length ≤ maxEvidenceBytes) (hbody : load py evidence = .ok body)
    (hb : evidenceBinding r (.str kind.text) body = .ok ()) : ∃ package, makePackage r kind evidence = .ok package := by
  obtain ⟨context, hcontext⟩ := context_encodes r
  obtain ⟨hr0, hrl⟩ := raw_length r
  have hc := bytesDigest_plain py context
  have hcl := bytesDigest_length hpy context
  have hsize := packageValue_size r kind hpy hc hcl hl
  have hp := canonicalJson_eq (packageValue_checks r kind hpy hc hcl hl) (hsize.trans ?_)
  swap
  · change _ ≤ 65536 at hrl hl
    change _ ≤ 524288
    omega
  generalize hpacked : encodeUtf8 (dumps py.floatRepr false (packageValue r (bytesDigest py context) kind evidence)) =
    packed at hp
  have hdec : decode py packed = .ok (packageValue r (bytesDigest py context) kind evidence) :=
    loadJson_canonicalJson py collectorBounds (packageValue_wf r _ _ _) hp
  obtain ⟨-, h2, h3, h4, h5, -, h7, h8, h9⟩ := packageValue_items r (bytesDigest py context) kind evidence
  have hraw : hexBytes maxEvidenceBytes (.str (hex r.raw)) = .ok r.raw := hexBytes_of_length hr0 hrl
  have hev : hexBytes maxEvidenceBytes (.str (hex evidence)) = .ok evidence := hexBytes_of_length h0 hl
  have hfields : (contextFields.all fun f => r.json.item f = (pick contextFields r.json).item f) = true :=
    List.all_eq_true.2 fun f hf => decide_eq_true (item_pick r.json hf).symm
  have hvalid : validatePackage py packed (pick contextFields r.json) =
      .ok (packageValue r (bytesDigest py context) kind evidence) := by
    simp only [validatePackage, hdec, packageValue_ok hpy hp, h2, h3, h4, h5, h7, h8, h9, hraw, hev, hfields,
      r.readRequest_raw, encodeDigest, hcontext, hbody, hb, require, decide_true, Bool.and_self, if_true, bind,
      Except.bind, pure, Except.pure]
  refine ⟨packed, ?_⟩
  have hp' : encode py (packageValue r (bytesDigest py context) kind evidence) = .ok packed := hp
  simp only [makePackage, h0, hl, hp', hvalid, encodeDigest, hcontext, require, decide_true, Bool.and_self, if_true,
    bind, Except.bind, pure, Except.pure]

theorem hexBytes_length {maximum : ℕ} {v : Json} {raw : Bytes} (h : hexBytes maximum v = .ok raw) :
    0 < raw.length ∧ raw.length ≤ maximum := by
  obtain rfl := hexBytes_ok h
  unfold hexBytes at h
  dsimp only at h
  split_ifs at h with hl
  rw [hex_length] at hl
  omega

theorem kindOf_some {v : Json} {kind : Kind} (h : kindOf v = some kind) : v = .str kind.text :=
  of_decide_eq_true (List.find?_some h :)

/-- What a validated package is: the package of a request in the context and of evidence that belongs to it. -/
theorem validatePackage_eq {raw : Bytes} {context package : Json} (h : validatePackage py raw context = .ok package) :
    ∃ (r : Request py) (kind : Kind) (evidence : Bytes) (contextDigest : String),
      package = packageValue r contextDigest kind evidence ∧ encode py package = .ok raw ∧
        (contextFields.all fun f => r.json.item f = context.item f) = true ∧
        encodeDigest py context = .ok contextDigest ∧ 0 < evidence.length ∧ evidence.length ≤ maxEvidenceBytes := by
  have hw := loadJson_wf py collectorBounds (validatePackage_decode h)
  obtain ⟨value, -, h⟩ := bind_ok h
  obtain ⟨_, hok, h⟩ := bind_ok h
  obtain ⟨rawRequest, hraw, h⟩ := bind_ok h
  obtain ⟨r, hr, h⟩ := bind_ok h
  obtain ⟨_, hcontext, h⟩ := bind_ok h
  obtain ⟨contextDigest, hdigest, h⟩ := bind_ok h
  obtain ⟨_, hcd, h⟩ := bind_ok h
  obtain ⟨evidence, hevidence, h⟩ := bind_ok h
  obtain ⟨_, horiginal, h⟩ := bind_ok h
  obtain ⟨body, hbody, h⟩ := bind_ok h
  obtain ⟨_, hbinding, h⟩ := bind_ok h
  cases h
  have hok := require_ok.1 hok
  simp only [packageOk, Bool.and_eq_true, decide_eq_true_eq] at hok
  obtain ⟨⟨⟨⟨⟨⟨⟨hfields, hschema⟩, hencode⟩, hkind⟩, -⟩, -⟩, -⟩, -⟩ := hok
  obtain ⟨kind, hk, hphase⟩ := (Option.any_eq_true _ _).1 hkind
  have hcontext := require_ok.1 hcontext
  have hcd := of_decide_eq_true (require_ok.1 hcd)
  have horiginal := require_ok.1 horiginal
  simp only [Bool.and_eq_true, decide_eq_true_eq] at hcontext horiginal
  obtain ⟨hpos, hle⟩ := hexBytes_length hevidence
  refine ⟨r, kind, evidence, contextDigest, ?_, hencode, hcontext.1, hdigest, hpos, hle⟩
  refine (eq_pick hw hfields).trans ?_
  have hphase := of_decide_eq_true hphase
  simp only [pick, packageFields, List.map_cons, List.map_nil, packageValue, hschema, hexBytes_ok hraw, readRequest_ok hr,
    hcontext.2, hcd, kindOf_some hk, hphase, hexBytes_ok hevidence, horiginal.1, horiginal.2]

end Making
end Payment
end VapEvidence
