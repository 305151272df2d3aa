import VapEvidence.RecheckArchive

set_option autoImplicit false

/-!
# The archive grammar is the one that is emitted

Encoded files parse to themselves, and bytes that parse are the encoding of what they
parse to: every field, name and content has one place and one value.
-/
namespace VapEvidence.Recheck
open Json Incident Fields

/-! ## Paths -/

@[simp] theorem kitRequire_ok {c : Bool} {message : String} : kitRequire c message = .ok () ↔ c = true := by
  cases c <;> simp [kitRequire]

theorem pathBytes_ok {name : String} {raw : Bytes} (h : pathBytes name = .ok raw) :
    raw = asciiBytes name ∧ (name.toList.all fun c => c.toNat < 128) = true ∧ raw ≠ [] ∧ raw.length ≤ 240 := by
  obtain ⟨_, hascii, h⟩ := bind_ok h
  obtain ⟨_, hsafe, h⟩ := bind_ok h
  obtain ⟨_, hpath, h⟩ := bind_ok h
  cases h
  have hsafe := kitRequire_ok.1 hsafe
  have hpath := kitRequire_ok.1 hpath
  simp only [Bool.not_eq_true', Bool.or_eq_false_iff, decide_eq_false_iff_not] at hsafe hpath
  refine ⟨rfl, kitRequire_ok.1 hascii, hpath.1.1.1.1.1.1, ?_⟩
  rw [asciiBytes, List.length_map, String.length_toList]
  exact not_lt.1 hsafe.1.1.1.2

theorem decodeAscii_asciiBytes {s : String} (h : (s.toList.all fun c => c.toNat < 128) = true) :
    decodeAscii (asciiBytes s) = some s := by
  have hc := List.all_eq_true.1 h
  have hb (c : Char) (hm : c ∈ s.toList) : (UInt8.ofNat c.toNat).toNat = c.toNat := by
    have := of_decide_eq_true (hc c hm)
    rw [UInt8.toNat_ofNat']
    omega
  have hall : (asciiBytes s).all (· < 128) = true := by
    refine List.all_eq_true.2 fun b hm => decide_eq_true ?_
    obtain ⟨c, hcm, rfl⟩ := List.mem_map.1 hm
    have hlt := of_decide_eq_true (hc c hcm)
    refine UInt8.lt_iff_toNat_lt.2 ?_
    rw [hb c hcm]
    exact hlt
  have hmap : (asciiBytes s).map (fun b => Char.ofNat b.toNat) = s.toList := by
    rw [asciiBytes, List.map_map]
    refine (List.map_congr_left fun c hm => ?_).trans (List.map_id _)
    rw [Function.comp_apply, hb c hm, Char.ofNat_toNat, id]
  rw [decodeAscii, if_pos hall, hmap, String.ofList_toList]

theorem asciiBytes_of_decode {raw : Bytes} {s : String} (h : decodeAscii raw = some s) : asciiBytes s = raw := by
  unfold decodeAscii at h
  split_ifs at h with hall
  cases h
  rw [asciiBytes, String.toList_ofList, List.map_map]
  refine (List.map_congr_left fun b hm => ?_).trans (List.map_id _)
  have hlt : b.toNat < 128 := UInt8.lt_iff_toNat_lt.1 (of_decide_eq_true (List.all_eq_true.1 hall b hm))
  have hchar : (Char.ofNat b.toNat).toNat = b.toNat := by
    rw [Char.ofNat, dif_pos (Or.inl (by omega))]
    rfl
  rw [Function.comp_apply, hchar, id]
  apply UInt8.toNat_inj.1
  rw [UInt8.toNat_ofNat']
  omega

/-! ## Records and slices -/

theorem slice_length {raw : Bytes} {i j : ℕ} (h : j ≤ raw.length) : (slice raw i j).length = j - i := by
  rw [slice, List.length_take, List.length_drop]
  omega

/-- Slices that meet make one slice. -/
theorem slice_append {raw : Bytes} {i j k : ℕ} (hij : i ≤ j) (hjk : j ≤ k) :
    slice raw i j ++ slice raw j k = slice raw i k := by
  have hj : raw.drop j = (raw.drop i).drop (j - i) := by
    rw [List.drop_drop]
    congr 1
    omega
  have hk : k - i = (j - i) + (k - j) := by omega
  rw [slice, slice, slice, hj, hk, List.take_add]

theorem slice_self (raw : Bytes) (i : ℕ) : slice raw i i = [] := by
  rw [slice, Nat.sub_self, List.take_zero]

theorem slice_all {raw : Bytes} {i : ℕ} : slice raw i raw.length = raw.drop i := by
  rw [slice, List.take_of_length_le]
  rw [List.length_drop]

theorem slice_of_drop {raw x r : Bytes} {i : ℕ} (h : raw.drop i = x ++ r) : slice raw i (i + x.length) = x := by
  rw [slice, h, Nat.add_sub_cancel_left, List.take_left]

theorem drop_of_drop {raw x r : Bytes} {i : ℕ} (h : raw.drop i = x ++ r) : raw.drop (i + x.length) = r := by
  rw [← List.drop_drop, h, List.drop_left]

theorem unpackRecord_pack {raw signature r : Bytes} {offset : ℕ} {ws vs : List ℕ} (hs : signature.length = 4)
    (hf : Fits ws vs) (h : raw.drop offset = packRecord signature ws vs ++ r) :
    unpackRecord ws raw offset = (signature, vs) := by
  rw [packRecord, List.append_assoc] at h
  have hdrop := drop_of_drop h
  rw [hs] at hdrop
  rw [unpackRecord, hdrop, h, unpack_pack hf, ← hs, List.take_left]

theorem length_packRecord {signature : Bytes} {ws vs : List ℕ} (hs : signature.length = 4)
    (hl : vs.length = ws.length) : (packRecord signature ws vs).length = 4 + ws.sum := by
  rw [packRecord, List.length_append, hs, length_pack hl]

theorem slice_of_unpack {raw signature : Bytes} (offset : ℕ) (ws : List ℕ) {vs : List ℕ}
    (hl : offset + (4 + ws.sum) ≤ raw.length) (h : unpackRecord ws raw offset = (signature, vs)) :
    slice raw offset (offset + (4 + ws.sum)) = packRecord signature ws vs := by
  obtain ⟨rfl, rfl⟩ := Prod.mk.inj h
  have hrest : ws.sum ≤ (raw.drop (offset + 4)).length := by
    rw [List.length_drop]
    omega
  rw [slice, Nat.add_sub_cancel_left, packRecord, pack_unpack hrest, List.take_add, List.drop_drop]

/-! ## The layout of an archive -/

def Member.file (m : Member) : String × Bytes := (m.name, m.content)

/-- What the central directory says of a member at an offset. -/
def Member.entry (m : Member) (offset : ℕ) : Entry := ⟨m.name, m.raw, crc32 m.content, m.content.length, offset⟩

def entriesOf : List Member → ℕ → List Entry
  | [], _ => []
  | m :: ms, offset => m.entry offset :: entriesOf ms (offset + m.extent)

def localParts (ms : List Member) : Bytes := ms.flatMap fun m => localRecord m.raw m.content

def centralParts : List Member → ℕ → Bytes
  | [], _ => []
  | m :: ms, offset => centralRecord m.raw m.content offset ++ centralParts ms (offset + m.extent)

def Entry.record (e : Entry) : Bytes :=
  packRecord centralSignature centralWidths [unixVersion, version, 0, 0, 0, dosDate, e.crc, e.size, e.size,
    e.nameBytes.length, 0, 0, 0, 0, fileAttributes, e.localOffset] ++ e.nameBytes

theorem length_localRecord (m : Member) : (localRecord m.raw m.content).length = m.extent := by
  have hl : ([version, 0, 0, 0, dosDate, crc32 m.content, m.content.length, m.content.length, m.raw.length, 0] :
      List ℕ).length = localWidths.length := rfl
  rw [localRecord, List.length_append, List.length_append, length_packRecord rfl hl]
  rfl

theorem length_centralRecord (m : Member) (offset : ℕ) : (centralRecord m.raw m.content offset).length = m.central := by
  have hl : ([unixVersion, version, 0, 0, 0, dosDate, crc32 m.content, m.content.length, m.content.length,
      m.raw.length, 0, 0, 0, 0, fileAttributes, offset] : List ℕ).length = centralWidths.length := rfl
  rw [centralRecord, List.length_append, length_packRecord rfl hl]
  rfl

theorem length_localParts (ms : List Member) : (localParts ms).length = (ms.map Member.extent).sum := by
  induction ms with
  | nil => rfl
  | cons m ms ih =>
    rw [localParts, List.flatMap_cons, List.length_append, length_localRecord, List.map_cons, List.sum_cons, ← ih]
    rfl

theorem length_centralParts (ms : List Member) (offset : ℕ) :
    (centralParts ms offset).length = (ms.map Member.central).sum := by
  induction ms generalizing offset with
  | nil => rfl
  | cons m ms ih => rw [centralParts, List.length_append, length_centralRecord, ih, List.map_cons, List.sum_cons]

theorem length_entriesOf (ms : List Member) (offset : ℕ) : (entriesOf ms offset).length = ms.length := by
  induction ms generalizing offset with
  | nil => rfl
  | cons m ms ih => rw [entriesOf, List.length_cons, ih, List.length_cons]

theorem names_entriesOf (ms : List Member) (offset : ℕ) :
    (entriesOf ms offset).map Entry.name = ms.map Member.name := by
  induction ms generalizing offset with
  | nil => rfl
  | cons m ms ih => rw [entriesOf, List.map_cons, ih, List.map_cons, Member.entry]

theorem records_entriesOf (ms : List Member) (offset : ℕ) :
    (entriesOf ms offset).flatMap Entry.record = centralParts ms offset := by
  induction ms generalizing offset with
  | nil => rfl
  | cons m ms ih =>
    rw [entriesOf, List.flatMap_cons, ih, centralParts]
    rfl

theorem encodeMembers_ok {ms : List Member} {offset last : ℕ} {locals centrals : Bytes}
    (h : encodeMembers ms offset = .ok (locals, centrals, last)) :
    (∀ m ∈ ms, m.content.length ≤ maxMember) ∧ locals = localParts ms ∧ centrals = centralParts ms offset ∧
      last = offset + (ms.map Member.extent).sum := by
  induction ms generalizing offset locals centrals with
  | nil =>
    cases h
    exact ⟨fun m hm => (by cases hm), rfl, rfl, rfl⟩
  | cons m ms ih =>
    obtain ⟨_, hsize, h⟩ := bind_ok h
    obtain ⟨⟨locals', centrals', last'⟩, hrest, h⟩ := bind_ok h
    cases h
    obtain ⟨hsizes, rfl, rfl, rfl⟩ := ih hrest
    refine ⟨List.forall_mem_cons.2 ⟨of_decide_eq_true (kitRequire_ok.1 hsize), hsizes⟩, rfl, rfl, ?_⟩
    rw [List.map_cons, List.sum_cons, Nat.add_assoc]

theorem encodeMembers_eq {ms : List Member} (h : ∀ m ∈ ms, m.content.length ≤ maxMember) (offset : ℕ) :
    encodeMembers ms offset = .ok (localParts ms, centralParts ms offset, offset + (ms.map Member.extent).sum) := by
  induction ms generalizing offset with
  | nil => rfl
  | cons m ms ih =>
    obtain ⟨hm, hms⟩ := List.forall_mem_cons.1 h
    rw [encodeMembers, kitRequire, decide_eq_true hm, ih hms, List.map_cons, List.sum_cons, ← Nat.add_assoc]
    rfl

/-! ## What an accepted archive says -/

section Accepted
variable {raw : Bytes}

theorem readCentral_ok {stop cursor aggregate : ℕ} {entries : List Entry} {e : Entry} {cursor' aggregate' : ℕ}
    (hstop : stop ≤ raw.length) (h : readCentral raw stop cursor aggregate entries = .ok (e, cursor', aggregate')) :
    cursor ≤ cursor' ∧ cursor' ≤ stop ∧ slice raw cursor cursor' = e.record ∧ pathBytes e.name = .ok e.nameBytes ∧
      e.size ≤ maxMember ∧ e.name ∉ entries.map Entry.name ∧
      aggregate' = (if e.name = manifestName then aggregate else aggregate + e.size) ∧
      (e.name = manifestName ∨ aggregate' ≤ maxPayload) := by
  obtain ⟨_, hroom, h⟩ := bind_ok h
  have hroom := of_decide_eq_true (kitRequire_ok.1 hroom)
  split at h
  · next signature madeBy needed flags compression dosTime date crc compressedSize size nameLength extraLength
      commentLength diskStart internal external localOffset hunpack =>
    obtain ⟨_, hfields, hrest⟩ := bind_ok h
    clear h
    obtain ⟨_, hsize, hrest'⟩ := bind_ok hrest
    clear hrest
    obtain ⟨_, hname, h⟩ := bind_ok hrest'
    clear hrest'
    have hfields := kitRequire_ok.1 hfields
    have hsize := kitRequire_ok.1 hsize
    have hname := of_decide_eq_true (kitRequire_ok.1 hname)
    simp only [Bool.and_eq_true, decide_eq_true_eq] at hfields hsize
    obtain ⟨⟨⟨⟨⟨⟨⟨⟨⟨⟨⟨rfl, rfl⟩, rfl⟩, rfl⟩, rfl⟩, rfl⟩, rfl⟩, rfl⟩, rfl⟩, rfl⟩, rfl⟩, rfl⟩ := hfields
    obtain ⟨⟨rfl, hmember⟩, -⟩ := hsize
    dsimp only at h
    split at h
    · cases h
    next name hdecode =>
    obtain ⟨rawName, hpath, hrest⟩ := bind_ok h
    obtain ⟨_, hnew, hrest'⟩ := bind_ok hrest
    obtain ⟨_, hlimit, hlast⟩ := bind_ok hrest'
    cases hlast
    have hnew := kitRequire_ok.1 hnew
    have hlimit := kitRequire_ok.1 hlimit
    simp only [Bool.and_eq_true, Bool.or_eq_true, decide_eq_true_eq] at hnew hlimit
    have hnameLength : (slice raw (cursor + centralSize) (cursor + centralSize + nameLength)).length = nameLength := by
      rw [slice_length (hname.trans hstop)]
      omega
    have hheader := slice_of_unpack cursor centralWidths (hroom.trans hstop) hunpack
    refine ⟨Nat.le_add_right_of_le (Nat.le_add_right _ _), hname, ?_, ?_, hmember, hnew.1, rfl, hlimit⟩
    · rw [← slice_append (Nat.le_add_right cursor centralSize) (Nat.le_add_right _ nameLength), Entry.record, hnameLength]
      exact congrArg (· ++ _) hheader
    · rw [hpath, (pathBytes_ok hpath).1, asciiBytes_of_decode hdecode]
  · cases h

/-- The central directory, once read, is the records of the entries, which are named apart. -/
theorem readDirectory_ok {stop : ℕ} (hstop : stop ≤ raw.length) {count cursor aggregate : ℕ} {entries all : List Entry}
    {last : ℕ} (h : readDirectory raw stop count cursor aggregate entries = .ok (all, last)) (hcursor : cursor ≤ stop)
    (hnodup : (entries.map Entry.name).Nodup) (haggregate : aggregate ≤ maxPayload) :
    ∃ new, all = entries ++ new ∧ new.length = count ∧ cursor ≤ last ∧ last ≤ stop ∧
      slice raw cursor last = new.flatMap Entry.record ∧ (all.map Entry.name).Nodup ∧
      (∀ e ∈ new, pathBytes e.name = .ok e.nameBytes ∧ e.size ≤ maxMember) ∧
      aggregate + (new.map fun e => if e.name = manifestName then 0 else e.size).sum ≤ maxPayload := by
  induction count generalizing cursor aggregate entries with
  | zero =>
    cases h
    exact ⟨[], (List.append_nil _).symm, rfl, Nat.le_refl _, hcursor, slice_self _ _, hnodup,
      fun e he => (by cases he), haggregate⟩
  | succ count ih =>
    obtain ⟨⟨e, next, aggregate'⟩, hread, h⟩ := bind_ok h
    obtain ⟨hle, hnext, hslice, hpath, hsize, hnew, hagg, hlimit⟩ := readCentral_ok hstop hread
    have hnodup' : ((entries ++ [e]).map Entry.name).Nodup := by
      rw [List.map_append, List.map_singleton]
      refine List.Nodup.append hnodup (List.nodup_singleton _) ?_
      exact List.disjoint_singleton.2 hnew
    have hle' : aggregate' ≤ maxPayload := by
      rcases hlimit with hmanifest | hlimit
      · rw [hagg, if_pos hmanifest]
        exact haggregate
      · exact hlimit
    obtain ⟨new, rfl, hlength, hcursor', hlast, hslice', hnodup'', hnew', hsum⟩ := ih h hnext hnodup' hle'
    refine ⟨e :: new, by rw [List.append_assoc, List.singleton_append], by rw [List.length_cons, hlength],
      hle.trans hcursor', hlast, ?_, hnodup'', List.forall_mem_cons.2 ⟨⟨hpath, hsize⟩, hnew'⟩, ?_⟩
    · rw [← slice_append hle hcursor', hslice, hslice', List.flatMap_cons]
    · rw [List.map_cons, List.sum_cons]
      split_ifs at hagg ⊢ <;> omega

theorem readLocal_ok {stop cursor : ℕ} {e : Entry} {content : Bytes} {cursor' : ℕ} (hstop : stop ≤ raw.length)
    (h : readLocal raw stop cursor e = .ok (content, cursor')) :
    e = (⟨e.name, e.nameBytes, content⟩ : Member).entry cursor ∧ cursor' ≤ stop ∧
      cursor' = cursor + (⟨e.name, e.nameBytes, content⟩ : Member).extent ∧
      slice raw cursor cursor' = localRecord e.nameBytes content := by
  obtain ⟨_, hroom, h⟩ := bind_ok h
  have hroom := kitRequire_ok.1 hroom
  simp only [Bool.and_eq_true, decide_eq_true_eq] at hroom
  obtain ⟨hoffset, hroom⟩ := hroom
  split at h
  · next signature needed flags compression dosTime date localCrc compressedSize size nameLength extraLength hunpack =>
    obtain ⟨_, hfields, h⟩ := bind_ok h
    obtain ⟨_, hname, h⟩ := bind_ok h
    obtain ⟨_, hcrc, h⟩ := bind_ok h
    cases h
    have hfields := kitRequire_ok.1 hfields
    have hname := kitRequire_ok.1 hname
    have hcrc := of_decide_eq_true (kitRequire_ok.1 hcrc)
    simp only [Bool.and_eq_true, decide_eq_true_eq] at hfields hname
    obtain ⟨⟨⟨⟨⟨⟨⟨⟨⟨⟨rfl, rfl⟩, rfl⟩, rfl⟩, rfl⟩, rfl⟩, rfl⟩, rfl⟩, hsize⟩, rfl⟩, rfl⟩ := hfields
    obtain ⟨hend, hname⟩ := hname
    have hcontent : (slice raw (cursor + localSize + e.nameBytes.length)
        (cursor + localSize + e.nameBytes.length + e.size)).length = e.size := by
      rw [slice_length (hend.trans hstop)]
      omega
    have hheader := slice_of_unpack cursor localWidths (hroom.trans hstop) hunpack
    refine ⟨?_, hend, ?_, ?_⟩
    · rw [Member.entry, hcrc, hcontent, ← hoffset]
    · simp only [Member.extent, hcontent]
      omega
    · rw [← slice_append (Nat.le_add_right_of_le (Nat.le_add_right cursor localSize))
        (Nat.le_add_right (cursor + localSize + e.nameBytes.length) e.size),
        ← slice_append (Nat.le_add_right cursor localSize) (Nat.le_add_right _ e.nameBytes.length), hname, localRecord,
        hcontent, hcrc]
      rw [hsize] at hheader
      exact congrArg (fun x => x ++ e.nameBytes ++ _) hheader
  · cases h

/-- The members, once read, are laid end to end and agree with the entries. -/
theorem readMembers_ok {stop : ℕ} (hstop : stop ≤ raw.length) {entries : List Entry} {cursor last : ℕ}
    {files all : Files} (h : readMembers raw stop entries cursor files = .ok (all, last)) (hcursor : cursor ≤ stop) :
    ∃ ms, entries = entriesOf ms cursor ∧ all = files ++ ms.map Member.file ∧ last ≤ stop ∧
      last = cursor + (ms.map Member.extent).sum ∧ slice raw cursor last = localParts ms := by
  induction entries generalizing cursor files with
  | nil =>
    cases h
    exact ⟨[], rfl, (List.append_nil _).symm, hcursor, rfl, slice_self _ _⟩
  | cons e entries ih =>
    obtain ⟨⟨content, next⟩, hread, h⟩ := bind_ok h
    obtain ⟨he, hnext, heq, hslice⟩ := readLocal_ok hstop hread
    obtain ⟨ms, hentries, hall, hlast, hsum, hslice'⟩ := ih h hnext
    refine ⟨⟨e.name, e.nameBytes, content⟩ :: ms, ?_, ?_, hlast, ?_, ?_⟩
    · rw [entriesOf, ← he, ← heq, ← hentries]
    · rw [hall, List.append_assoc, List.singleton_append, List.map_cons, Member.file]
    · rw [hsum, heq, List.map_cons, List.sum_cons, Nat.add_assoc]
    · have hle : cursor ≤ next := by omega
      rw [← slice_append hle (k := last) (by omega), hslice, hslice', localParts, localParts, List.flatMap_cons]

end Accepted

/-! ## What emitted records read as -/

section Emitted
variable {raw : Bytes}

theorem crc32_lt (content : Bytes) : crc32 content < 256 ^ 4 :=
  UInt32.toNat_lt _

theorem readCentral_eq (stop aggregate : ℕ) {cursor offset : ℕ} {entries : List Entry} {m : Member} {r : Bytes}
    (hdrop : raw.drop cursor = centralRecord m.raw m.content offset ++ r) (hroom : cursor + m.central ≤ stop)
    (hpath : pathBytes m.name = .ok m.raw) (hsize : m.content.length ≤ maxMember) (hoffset : offset < 256 ^ 4)
    (hname : m.name ∉ entries.map Entry.name) (hfold : casefold m.name ∉ entries.map fun e => casefold e.name)
    (hlimit : m.name = manifestName ∨ aggregate + m.content.length ≤ maxPayload) :
    readCentral raw stop cursor aggregate entries = .ok (m.entry offset, cursor + m.central,
      if m.name = manifestName then aggregate else aggregate + m.content.length) := by
  obtain ⟨hraw, hascii, hne, hlength⟩ := pathBytes_ok hpath
  have hmember : m.content.length < 256 ^ 4 := hsize.trans_lt (by decide)
  have hfits : Fits centralWidths [unixVersion, version, 0, 0, 0, dosDate, crc32 m.content, m.content.length,
      m.content.length, m.raw.length, 0, 0, 0, 0, fileAttributes, offset] := by
    have hnameLength : m.raw.length < 256 ^ 2 := hlength.trans_lt (by decide)
    refine .cons (by decide) (.cons (by decide) (.cons (by decide) (.cons (by decide) (.cons (by decide)
      (.cons (by decide) (.cons (crc32_lt _) (.cons hmember (.cons hmember (.cons hnameLength ?_)))))))))
    exact .cons (by decide) (.cons (by decide) (.cons (by decide) (.cons (by decide) (.cons (by decide)
      (.cons hoffset .nil)))))
  have hheader : (packRecord centralSignature centralWidths [unixVersion, version, 0, 0, 0, dosDate, crc32 m.content,
      m.content.length, m.content.length, m.raw.length, 0, 0, 0, 0, fileAttributes, offset]).length = centralSize := by
    exact length_packRecord rfl rfl
  rw [centralRecord, List.append_assoc] at hdrop
  have hunpack := unpackRecord_pack (by rfl) hfits hdrop
  have hrest := drop_of_drop hdrop
  rw [hheader] at hrest
  have hslice := slice_of_drop hrest
  have hdecode : decodeAscii m.raw = some m.name := hraw ▸ decodeAscii_asciiBytes hascii
  have hpos : m.raw.length ≠ 0 := fun h => hne (List.length_eq_zero_iff.1 h)
  have hstop : cursor + centralSize + m.raw.length ≤ stop := by
    rw [Member.central] at hroom
    omega
  have hcursor : cursor + centralSize ≤ stop := by omega
  have hif : (m.name = manifestName ∨
      (if m.name = manifestName then aggregate else aggregate + m.content.length) ≤ maxPayload) := by
    refine hlimit.imp_right fun h => ?_
    split_ifs
    · omega
    · exact h
  have hifd : (decide (m.name = manifestName) ||
      decide ((if m.name = manifestName then aggregate else aggregate + m.content.length) ≤ maxPayload)) = true := by
    rw [Bool.or_eq_true, decide_eq_true_eq, decide_eq_true_eq]
    exact hif
  simp only [readCentral, hunpack, hslice, hdecode, hpath, hcursor, hstop,
    hsize, hname, hfold, hpos, hifd, kitRequire, decide_true, Bool.and_self, if_true, ne_eq, not_false_eq_true, bind,
    Except.bind]
  rw [Member.entry, Member.central, Nat.add_assoc]
  rfl

theorem readLocal_eq (stop : ℕ) {cursor : ℕ} {m : Member} {r : Bytes}
    (hdrop : raw.drop cursor = localRecord m.raw m.content ++ r) (hroom : cursor + m.extent ≤ stop)
    (hpath : pathBytes m.name = .ok m.raw) (hsize : m.content.length ≤ maxMember) :
    readLocal raw stop cursor (m.entry cursor) = .ok (m.content, cursor + m.extent) := by
  obtain ⟨-, -, -, hlength⟩ := pathBytes_ok hpath
  have hfits : Fits localWidths [version, 0, 0, 0, dosDate, crc32 m.content, m.content.length, m.content.length,
      m.raw.length, 0] := by
    have hmember : m.content.length < 256 ^ 4 := hsize.trans_lt (by decide)
    have hnameLength : m.raw.length < 256 ^ 2 := hlength.trans_lt (by decide)
    exact .cons (by decide) (.cons (by decide) (.cons (by decide) (.cons (by decide) (.cons (by decide)
      (.cons (crc32_lt _) (.cons hmember (.cons hmember (.cons hnameLength (.cons (by decide) .nil)))))))))
  have hheader : (packRecord localSignature localWidths [version, 0, 0, 0, dosDate, crc32 m.content, m.content.length,
      m.content.length, m.raw.length, 0]).length = localSize := by
    exact length_packRecord rfl rfl
  rw [localRecord, List.append_assoc, List.append_assoc] at hdrop
  have hunpack := unpackRecord_pack (by rfl) hfits hdrop
  have hnames := drop_of_drop hdrop
  rw [hheader] at hnames
  have hcontents := drop_of_drop hnames
  have hname := slice_of_drop hnames
  have hcontent := slice_of_drop hcontents
  have hextent : cursor + m.extent = cursor + localSize + m.raw.length + m.content.length := by
    rw [Member.extent]
    omega
  have hstop : cursor + localSize + m.raw.length + m.content.length ≤ stop := hextent ▸ hroom
  have hcursor : cursor + localSize ≤ stop := by omega
  simp only [readLocal, Member.entry, hunpack, hname, hcontent,
    hstop, hcursor, hextent, kitRequire, decide_true, Bool.and_self, if_true, bind, Except.bind]
  rfl

theorem readMembers_eq (stop : ℕ) (files : Files) {ms : List Member} (hms : ∀ m ∈ ms, pathBytes m.name = .ok m.raw ∧
      m.content.length ≤ maxMember) {cursor : ℕ} {r : Bytes}
    (hdrop : raw.drop cursor = localParts ms ++ r) (hroom : cursor + (ms.map Member.extent).sum ≤ stop) :
    readMembers raw stop (entriesOf ms cursor) cursor files =
      .ok (files ++ ms.map Member.file, cursor + (ms.map Member.extent).sum) := by
  induction ms generalizing cursor files with
  | nil =>
    rw [entriesOf, readMembers, List.map_nil, List.append_nil]
    rfl
  | cons m ms ih =>
    obtain ⟨⟨hpath, hsize⟩, hrest⟩ := List.forall_mem_cons.1 hms
    rw [List.map_cons, List.sum_cons] at hroom
    rw [localParts, List.flatMap_cons, List.append_assoc] at hdrop
    have hread := readLocal_eq stop hdrop (by omega) hpath hsize
    have hnext := drop_of_drop hdrop
    rw [length_localRecord] at hnext
    have hih := ih (files ++ [m.file]) hrest hnext (by omega)
    rw [entriesOf, readMembers, hread]
    change readMembers raw stop (entriesOf ms (cursor + m.extent)) (cursor + m.extent) (files ++ [m.file]) = _
    rw [hih, List.append_assoc, List.singleton_append, List.map_cons, List.map_cons, List.sum_cons, Nat.add_assoc]

/-- The sizes that count towards the payload. -/
def payloadSize (ms : List Member) : ℕ :=
  (ms.map fun m => if m.name = manifestName then 0 else m.content.length).sum

theorem readDirectory_eq (stop aggregate offset : ℕ) (entries : List Entry) {ms : List Member}
    (hms : ∀ m ∈ ms, pathBytes m.name = .ok m.raw ∧ m.content.length ≤ maxMember) {cursor : ℕ} {r : Bytes}
    (hdrop : raw.drop cursor = centralParts ms offset ++ r) (hroom : cursor + (ms.map Member.central).sum ≤ stop)
    (hoffset : offset + (ms.map Member.extent).sum < 256 ^ 4)
    (hnames : (entries.map Entry.name ++ ms.map Member.name).Nodup)
    (hfolds : ((entries.map fun e => casefold e.name) ++ ms.map fun m => casefold m.name).Nodup)
    (hpayload : aggregate + payloadSize ms ≤ maxPayload) :
    readDirectory raw stop ms.length cursor aggregate entries =
      .ok (entries ++ entriesOf ms offset, cursor + (ms.map Member.central).sum) := by
  induction ms generalizing cursor aggregate offset entries with
  | nil =>
    rw [entriesOf, List.append_nil]
    rfl
  | cons m ms ih =>
    obtain ⟨⟨hpath, hsize⟩, hrest⟩ := List.forall_mem_cons.1 hms
    rw [List.map_cons, List.sum_cons] at hroom hoffset
    rw [List.map_cons] at hnames hfolds
    rw [payloadSize, List.map_cons, List.sum_cons] at hpayload
    change aggregate + (_ + payloadSize ms) ≤ _ at hpayload
    rw [centralParts, List.append_assoc] at hdrop
    have hname : m.name ∉ entries.map Entry.name := fun hm =>
      (List.nodup_append.1 hnames).2.2 _ hm _ List.mem_cons_self rfl
    have hfold : casefold m.name ∉ entries.map fun e => casefold e.name := fun hm =>
      (List.nodup_append.1 hfolds).2.2 _ hm _ List.mem_cons_self rfl
    have hlimit : m.name = manifestName ∨ aggregate + m.content.length ≤ maxPayload := by
      by_cases hm : m.name = manifestName
      · exact .inl hm
      · rw [if_neg hm] at hpayload
        exact .inr (by omega)
    have hread := readCentral_eq stop aggregate hdrop (by omega) hpath hsize (by omega) hname hfold hlimit
    have hnext := drop_of_drop hdrop
    rw [length_centralRecord] at hnext
    have hnames' : ((entries ++ [m.entry offset]).map Entry.name ++ ms.map Member.name).Nodup := by
      rw [List.map_append, List.append_assoc]
      exact hnames
    have hfolds' : (((entries ++ [m.entry offset]).map fun e => casefold e.name) ++
        ms.map fun m => casefold m.name).Nodup := by
      rw [List.map_append, List.append_assoc]
      exact hfolds
    have hih := ih (if m.name = manifestName then aggregate else aggregate + m.content.length) (offset + m.extent)
      (entries ++ [m.entry offset]) hrest hnext (by omega) (by omega) hnames' hfolds' (by
        split_ifs at hpayload ⊢ <;> omega)
    rw [List.length_cons, readDirectory, hread]
    change readDirectory raw stop ms.length (cursor + m.central) _ (entries ++ [m.entry offset]) = _
    rw [hih, List.append_assoc, List.singleton_append, entriesOf, List.map_cons, List.sum_cons, Nat.add_assoc]

end Emitted

/-! ## Round trips -/

/-- The bytes of an archive with these members. -/
def archiveOf (ms : List Member) : Bytes :=
  localParts ms ++ centralParts ms 0 ++
    endRecord ms.length (ms.map Member.central).sum (ms.map Member.extent).sum

/-- Members that stay inside every limit of the format. -/
structure Bounded (ms : List Member) : Prop where
  member : ∀ m ∈ ms, pathBytes m.name = .ok m.raw ∧ m.content.length ≤ maxMember
  count : ms.length ≤ maxMembers
  central : (ms.map Member.central).sum ≤ maxCentral
  total : (ms.map Member.extent).sum + (ms.map Member.central).sum + endSize ≤ maxArchive

theorem length_endRecord (count size offset : ℕ) : (endRecord count size offset).length = endSize :=
  length_packRecord rfl rfl

theorem length_archiveOf (ms : List Member) :
    (archiveOf ms).length = (ms.map Member.extent).sum + (ms.map Member.central).sum + endSize := by
  rw [archiveOf, List.length_append, List.length_append, length_localParts, length_centralParts, length_endRecord]

/-- Encoded members parse to their files. -/
theorem parseZip_archiveOf {paths : List String} {expected : Finset String} {ms : List Member}
    (hinventory : inventory paths = .ok expected) (h : Bounded ms)
    (hsorted : ms.map Member.name = sortNames (ms.map Member.name)) (hnames : (ms.map Member.name).Nodup)
    (hfolds : (ms.map fun m => casefold m.name).Nodup)
    (hset : (ms.map Member.name).toFinset = insert manifestName expected) (hpayload : payloadSize ms ≤ maxPayload) :
    parseZip paths (archiveOf ms) = .ok (ms.map Member.file) := by
  have hlength := length_archiveOf ms
  have htotal := h.total
  have hcentral := h.central
  have hcount := h.count
  cases ms with
  | nil => exact absurd (hset ▸ Finset.mem_insert_self _ _ : manifestName ∈ ([] : List String).toFinset) (by simp)
  | cons m rest =>
    generalize hms : m :: rest = ms at *
    have hpos : 0 < ms.length := by rw [← hms]; exact Nat.succ_pos _
    have hextents : localSize ≤ (ms.map Member.extent).sum := by
      rw [← hms, List.map_cons, List.sum_cons, Member.extent]
      omega
    have hcentrals : 0 < (ms.map Member.central).sum := by
      rw [← hms, List.map_cons, List.sum_cons, Member.central]
      have : centralSize = 46 := rfl
      omega
    have hstart : (archiveOf ms).length - endSize = (ms.map Member.extent).sum + (ms.map Member.central).sum := by omega
    have hlocals : (archiveOf ms).drop 0 = localParts ms ++ (centralParts ms 0 ++
        endRecord ms.length (ms.map Member.central).sum (ms.map Member.extent).sum) := by
      rw [List.drop_zero, archiveOf, List.append_assoc]
    have hdirectory := drop_of_drop hlocals
    rw [length_localParts, Nat.zero_add] at hdirectory
    have hend := drop_of_drop hdirectory
    rw [length_centralParts] at hend
    have hfits : Fits endWidths [0, 0, ms.length, ms.length, (ms.map Member.central).sum, (ms.map Member.extent).sum, 0] := by
      have h1 : ms.length < 256 ^ 2 := hcount.trans_lt (by decide)
      have h2 : (ms.map Member.central).sum < 256 ^ 4 := hcentral.trans_lt (by decide)
      have h3 : (ms.map Member.extent).sum < 256 ^ 4 :=
        (show (ms.map Member.extent).sum ≤ maxArchive by omega).trans_lt (by decide)
      exact .cons (by decide) (.cons (by decide) (.cons h1 (.cons h1 (.cons h2 (.cons h3 (.cons (by decide) .nil))))))
    have hending := unpackRecord_pack (by rfl) hfits (hend.trans (List.append_nil _).symm)
    have hread := readDirectory_eq ((ms.map Member.extent).sum + (ms.map Member.central).sum) 0 0 [] h.member hdirectory
      le_rfl (by rw [Nat.zero_add]; exact (show (ms.map Member.extent).sum ≤ maxArchive by omega).trans_lt (by decide))
      hnames hfolds (by rw [Nat.zero_add]; exact hpayload)
    have hmembers := readMembers_eq (ms.map Member.extent).sum [] h.member hlocals (by omega)
    rw [List.nil_append] at hread hmembers
    have hroom : endSize ≤ (archiveOf ms).length := by omega
    have horder := decide_eq_true hsorted
    simp only [parseZip, hroom, hstart, hending, hcount, hpos, hcentrals, hcentral, hextents, hread, names_entriesOf,
      hinventory, hset, hmembers, horder, Nat.zero_add, kitRequire, decide_true, Bool.and_self, if_true, bind, Except.bind]
    rfl

theorem sum_payload_entriesOf (ms : List Member) (offset : ℕ) :
    ((entriesOf ms offset).map fun e => if e.name = manifestName then 0 else e.size).sum = payloadSize ms := by
  induction ms generalizing offset with
  | nil => rfl
  | cons m ms ih =>
    rw [entriesOf, List.map_cons, List.sum_cons, ih, payloadSize, payloadSize, List.map_cons, List.sum_cons]
    rfl

theorem members_entriesOf {P : String → Bytes → ℕ → Prop} {ms : List Member} {offset : ℕ}
    (h : ∀ e ∈ entriesOf ms offset, P e.name e.nameBytes e.size) :
    ∀ m ∈ ms, P m.name m.raw m.content.length := by
  induction ms generalizing offset with
  | nil => exact fun m hm => (by cases hm)
  | cons m ms ih =>
    rw [entriesOf] at h
    obtain ⟨hm, hrest⟩ := List.forall_mem_cons.1 h
    exact List.forall_mem_cons.2 ⟨hm, ih hrest⟩

/-- Bytes that parse are the archive of some members, in the order of their names. -/
theorem parseZip_ok {paths : List String} {raw : Bytes} {files : Files} (h : parseZip paths raw = .ok files)
    (hlength : raw.length ≤ maxArchive) : ∃ expected ms, inventory paths = .ok expected ∧ Bounded ms ∧
      ms.map Member.name = sortNames (ms.map Member.name) ∧ (ms.map Member.name).Nodup ∧
      (ms.map Member.name).toFinset = insert manifestName expected ∧ payloadSize ms ≤ maxPayload ∧
      raw = archiveOf ms ∧ files = ms.map Member.file := by
  obtain ⟨_, hroom, hrest⟩ := bind_ok h
  clear h
  have hroom := of_decide_eq_true (kitRequire_ok.1 hroom)
  split at hrest
  · next signature disk centralDisk onDisk count size centralOffset comment hunpack =>
    obtain ⟨_, hending, h⟩ := bind_ok hrest
    clear hrest
    obtain ⟨_, hbounds, hrest⟩ := bind_ok h
    clear h
    obtain ⟨⟨entries, cursor⟩, hdirectory, h⟩ := bind_ok hrest
    clear hrest
    obtain ⟨_, hsorted, hrest⟩ := bind_ok h
    clear h
    obtain ⟨expected, hinventory, h⟩ := bind_ok hrest
    clear hrest
    obtain ⟨_, hset, hrest⟩ := bind_ok h
    clear h
    obtain ⟨⟨all, last⟩, hmembers, h⟩ := bind_ok hrest
    clear hrest
    obtain ⟨_, hlast, hall⟩ := bind_ok h
    clear h
    cases hall
    have hending := kitRequire_ok.1 hending
    have hbounds := kitRequire_ok.1 hbounds
    have horder := kitRequire_ok.1 hsorted
    clear hsorted
    have hset := of_decide_eq_true (kitRequire_ok.1 hset)
    have hlast := of_decide_eq_true (kitRequire_ok.1 hlast)
    simp only [Bool.and_eq_true, decide_eq_true_eq] at hending hbounds horder
    obtain ⟨⟨⟨⟨⟨⟨rfl, rfl⟩, rfl⟩, rfl⟩, hpos⟩, hcount⟩, rfl⟩ := hending
    obtain ⟨⟨⟨hsizepos, hsize⟩, hsum⟩, hlocal⟩ := hbounds
    obtain ⟨hcursor, hsorted⟩ := horder
    subst hcursor
    have hstop : centralOffset + size ≤ raw.length := by omega
    obtain ⟨new, hnew, hnewLength, -, -, hcentral, hnodup, hentries, hpayload⟩ :=
      readDirectory_ok hstop hdirectory (Nat.le_add_right _ _) List.nodup_nil (Nat.zero_le _)
    rw [List.nil_append] at hnew
    subst hnew
    obtain ⟨ms, hms, hfiles, -, hextents, hlocals⟩ :=
      readMembers_ok ((Nat.le_add_right _ size).trans hstop) hmembers (Nat.zero_le _)
    rw [List.nil_append] at hfiles
    rw [Nat.zero_add] at hextents
    subst hms
    rw [records_entriesOf] at hcentral
    rw [length_entriesOf] at hnewLength
    rw [names_entriesOf] at hsorted hnodup hset
    rw [sum_payload_entriesOf, Nat.zero_add] at hpayload
    have hcentralSize : size = (ms.map Member.central).sum := by
      have := congrArg List.length hcentral
      rw [slice_length hstop, length_centralParts] at this
      omega
    have hend := slice_of_unpack (raw.length - endSize) endWidths
      (show raw.length - endSize + endSize ≤ raw.length by omega) hunpack
    rw [show raw.length - endSize + (4 + endWidths.sum) = raw.length by change raw.length - endSize + endSize = _; omega]
      at hend
    have hraw : raw = archiveOf ms := by
      have hall : slice raw 0 raw.length = raw := by rw [slice_all, List.drop_zero]
      rw [← hall, ← slice_append (Nat.zero_le (raw.length - endSize)) (Nat.sub_le _ _),
        ← slice_append (Nat.zero_le centralOffset) (show centralOffset ≤ raw.length - endSize by omega), ← hsum, hcentral,
        hsum, hend, ← hlast, hlocals, archiveOf, endRecord, ← hnewLength, ← hcentralSize, ← hextents, hlast]
    refine ⟨expected, ms, hinventory, ⟨fun m hm => ?_, hnewLength ▸ hcount, hcentralSize ▸ hsize, ?_⟩, hsorted, hnodup,
      hset, hpayload, hraw, hfiles⟩
    · exact members_entriesOf (P := fun name raw size => pathBytes name = .ok raw ∧ size ≤ maxMember) hentries m hm
    · rw [← length_archiveOf, ← hraw]
      exact hlength
  · cases hrest

/-! ## Files and members -/

theorem sortedMembers_ok {files : Files} {ms : List Member} (h : sortedMembers files = .ok ms) :
    ms.map Member.name = sortNames files.names ∧
      ∀ m ∈ ms, pathBytes m.name = .ok m.raw ∧ m.content = files.content m.name := by
  have hall := mapM_ok h
  have hone {name : String} {m : Member} (h : (do return (⟨name, ← pathBytes name, files.content name⟩ : Member)) =
      (.ok m : Kit Member)) : m.name = name ∧ pathBytes m.name = .ok m.raw ∧ m.content = files.content m.name := by
    obtain ⟨raw, hraw, h⟩ := bind_ok h
    cases h
    exact ⟨rfl, hraw, rfl⟩
  generalize sortNames files.names = names at hall
  clear h
  induction hall with
  | nil => exact ⟨rfl, fun m hm => (by cases hm)⟩
  | cons hm _ ih =>
    obtain ⟨hname, hpath⟩ := hone hm
    exact ⟨by rw [List.map_cons, hname, ih.1], List.forall_mem_cons.2 ⟨hpath, ih.2⟩⟩

theorem content_of_mem {files : Files} (hnodup : files.names.Nodup) {p : String × Bytes} (hp : p ∈ files) :
    files.content p.1 = p.2 := by
  rw [Files.content, Json.lookup_of_mem hnodup hp]
  rfl

theorem files_eq {files : Files} (hnodup : files.names.Nodup) :
    files.names.map (fun name => (name, files.content name)) = files := by
  rw [Files.names, List.map_map]
  refine (List.map_congr_left fun p hp => ?_).trans (List.map_id _)
  rw [Function.comp_apply, content_of_mem hnodup hp, id]

theorem perm_sortNames (names : List String) : (sortNames names).Perm names := List.mergeSort_perm names _

/-- The members of a dictionary hold its files. -/
theorem sortedMembers_perm {files : Files} {ms : List Member} (hnodup : files.names.Nodup)
    (h : sortedMembers files = .ok ms) : (ms.map Member.file).Perm files := by
  obtain ⟨hnames, hms⟩ := sortedMembers_ok h
  have hfiles : ms.map Member.file = (ms.map Member.name).map fun name => (name, files.content name) := by
    rw [List.map_map]
    exact List.map_congr_left fun m hm => by rw [Member.file, (hms m hm).2]; rfl
  have hperm := (perm_sortNames files.names).map fun name => (name, files.content name)
  rw [files_eq hnodup, ← hnames, ← hfiles] at hperm
  exact hperm

/-- Files that stand in order have their own members. -/
theorem sortedMembers_eq {ms : List Member} (hsorted : ms.map Member.name = sortNames (ms.map Member.name))
    (hnodup : (ms.map Member.name).Nodup) (hms : ∀ m ∈ ms, pathBytes m.name = .ok m.raw) :
    sortedMembers (ms.map Member.file) = .ok ms := by
  have hnames : Files.names (ms.map Member.file) = ms.map Member.name := by
    rw [Files.names, List.map_map]
    rfl
  rw [sortedMembers, hnames, ← hsorted]
  refine mapM_eq (List.forall₂_map_left_iff.2 (List.forall₂_same.2 fun m hm => ?_))
  have hcontent : Files.content (ms.map Member.file) m.name = m.content :=
    content_of_mem (p := m.file) (hnames ▸ hnodup) (List.mem_map_of_mem hm)
  rw [hms m hm, hcontent]
  rfl

theorem encodeZip_ok {files : Files} {raw : Bytes} (h : encodeZip files = .ok raw) :
    ∃ ms, sortedMembers files = .ok ms ∧ Bounded ms ∧ raw = archiveOf ms := by
  obtain ⟨ms, hms, hrest⟩ := bind_ok h
  obtain ⟨_, hlimits, hrest'⟩ := bind_ok hrest
  obtain ⟨⟨locals, centrals, offset⟩, hmembers, hraw⟩ := bind_ok hrest'
  cases hraw
  have hlimits := kitRequire_ok.1 hlimits
  simp only [Bool.and_eq_true, decide_eq_true_eq] at hlimits
  obtain ⟨hsizes, rfl, rfl, rfl⟩ := encodeMembers_ok hmembers
  refine ⟨ms, hms, ⟨fun m hm => ⟨((sortedMembers_ok hms).2 m hm).1, hsizes m hm⟩, hlimits.1.1, hlimits.1.2, hlimits.2⟩, ?_⟩
  rw [archiveOf, Nat.zero_add]

theorem encodeZip_eq {files : Files} {ms : List Member} (hms : sortedMembers files = .ok ms) (h : Bounded ms) :
    encodeZip files = .ok (archiveOf ms) := by
  have hmembers := encodeMembers_eq (fun m hm => (h.member m hm).2) 0
  simp only [encodeZip, hms, h.count, h.central, h.total, hmembers, kitRequire, decide_true, Bool.and_self, if_true, bind,
    Except.bind]
  rw [archiveOf, Nat.zero_add]
  rfl

end VapEvidence.Recheck
