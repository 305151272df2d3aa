import Mathlib.Data.Finset.Lattice.Lemmas
import VapEvidence.IncidentEnvelopes
import VapEvidence.RecheckRoundTrip

set_option autoImplicit false

/-!
# Archives carry exactly their payload

Over a fixed inventory, building and inspecting an archive are inverse to each other, and
the archives that are accepted are those that are emitted.
-/
namespace VapEvidence.Recheck
open Json Incident

/-! ## The inventory and the payload -/

theorem foldPaths_ok {paths folded : List String} (h : foldPaths paths folded = .ok ()) :
    (paths.map casefold).Nodup ∧ ∀ p ∈ paths, casefold p ∉ folded := by
  induction paths generalizing folded with
  | nil => exact ⟨List.nodup_nil, fun p hp => (by cases hp)⟩
  | cons name rest ih =>
    obtain ⟨_, -, hrest⟩ := bind_ok h
    obtain ⟨_, hnew, hrest'⟩ := bind_ok hrest
    have hnew := of_decide_eq_true (kitRequire_ok.1 hnew)
    obtain ⟨hnodup, hfolded⟩ := ih hrest'
    refine ⟨List.nodup_cons.2 ⟨fun hm => ?_, hnodup⟩, List.forall_mem_cons.2 ⟨hnew, fun p hp hm => ?_⟩⟩
    · obtain ⟨p, hp, heq⟩ := List.mem_map.1 hm
      exact hfolded p hp (heq ▸ List.mem_cons_self)
    · exact hfolded p hp (List.mem_cons_of_mem _ hm)

theorem inventory_ok {paths : List String} {expected : Finset String} (h : inventory paths = .ok expected) :
    expected = paths.toFinset ∧ manifestName ∉ paths ∧ (paths.map casefold).Nodup := by
  obtain ⟨_, hbounds, hrest⟩ := bind_ok h
  obtain ⟨⟨⟩, hfold, hpaths⟩ := bind_ok hrest
  cases hpaths
  have hbounds := kitRequire_ok.1 hbounds
  simp only [Bool.not_eq_true', Bool.or_eq_false_iff, decide_eq_false_iff_not] at hbounds
  exact ⟨rfl, hbounds.1.1, (foldPaths_ok hfold).1⟩

/-- The total size of the files other than the manifest. -/
def payloadTotal (files : Files) : ℕ :=
  (files.map fun p => if p.1 = manifestName then 0 else p.2.length).sum

theorem ownedMembers_ok {payload : Files} {total sum : ℕ} (h : ownedMembers payload total = .ok sum)
    (hm : manifestName ∉ payload.names) : sum = total + payloadTotal payload := by
  induction payload generalizing total with
  | nil =>
    cases h
    rfl
  | cons p rest ih =>
    obtain ⟨name, value⟩ := p
    obtain ⟨_, -, hrest⟩ := bind_ok h
    obtain ⟨_, -, hrest'⟩ := bind_ok hrest
    obtain ⟨hne, hm⟩ := List.ne_and_not_mem_of_not_mem_cons hm
    have hsum := ih hrest' hm
    rw [payloadTotal, List.map_cons, List.sum_cons, if_neg (Ne.symm hne), ← Nat.add_assoc]
    exact hsum

/-- Files that an archive over the inventory may hold. -/
structure Admissible (paths : List String) (files : Files) : Prop where
  nodup : files.names.Nodup
  inventory : ∃ expected, inventory paths = .ok expected ∧ files.names.toFinset = insert manifestName expected
  payload : payloadTotal files ≤ maxPayload

theorem ownedPayload_ok {paths : List String} {payload : Files} {total : ℕ} (hnodup : payload.names.Nodup)
    (h : ownedPayload paths payload = .ok total) (content : Bytes) :
    manifestName ∉ payload.names ∧ Admissible paths (payload ++ [(manifestName, content)]) := by
  obtain ⟨_, -, hrest⟩ := bind_ok h
  obtain ⟨expected, hinventory, hrest'⟩ := bind_ok hrest
  obtain ⟨_, hset, hmembers⟩ := bind_ok hrest'
  obtain ⟨sum, hsum, hlimit⟩ := bind_ok hmembers
  obtain ⟨_, hlimit, htotal⟩ := bind_ok hlimit
  cases htotal
  have hset := of_decide_eq_true (kitRequire_ok.1 hset)
  have hlimit := of_decide_eq_true (kitRequire_ok.1 hlimit)
  obtain ⟨rfl, hmanifest, -⟩ := inventory_ok hinventory
  have hnames : Files.names (payload ++ [(manifestName, content)]) = payload.names ++ [manifestName] := by
    rw [Files.names, List.map_append]
    rfl
  have hnot : manifestName ∉ payload.names := by
    rwa [← List.mem_toFinset, hset, List.mem_toFinset]
  refine ⟨hnot, ?_, ⟨_, hinventory, ?_⟩, ?_⟩
  · rw [hnames]
    exact hnodup.append (List.nodup_singleton _) (List.disjoint_singleton.2 hnot)
  · rw [hnames, List.toFinset_append, hset, Finset.insert_eq, Finset.union_comm]
    rfl
  · rw [ownedMembers_ok hsum hnot, Nat.zero_add] at hlimit
    have hlast : payloadTotal [(manifestName, content)] = 0 := by
      rw [payloadTotal, List.map_singleton, List.sum_singleton, if_pos rfl]
    rw [payloadTotal, List.map_append, List.sum_append]
    change payloadTotal payload + payloadTotal [(manifestName, content)] ≤ _
    rwa [hlast]

/-! ## The grammar -/

theorem payloadTotal_files (ms : List Member) : payloadTotal (ms.map Member.file) = payloadSize ms := by
  rw [payloadTotal, payloadSize, List.map_map]
  rfl

theorem names_files (ms : List Member) : Files.names (ms.map Member.file) = ms.map Member.name := by
  rw [Files.names, List.map_map]
  rfl

/-- No two names of admissible files fold to one. -/
theorem Admissible.folds {paths : List String} {files : Files} (h : Admissible paths files)
    (hfold : ∀ p ∈ paths, casefold p ≠ casefold manifestName) : (files.names.map casefold).Nodup := by
  obtain ⟨expected, hinventory, hset⟩ := h.inventory
  obtain ⟨rfl, hmanifest, hnodup⟩ := inventory_ok hinventory
  have hperm : files.names.Perm (manifestName :: paths) := by
    refine (List.perm_ext_iff_of_nodup h.nodup (List.nodup_cons.2 ⟨hmanifest, hnodup.of_map⟩)).2 fun name => ?_
    rw [← List.mem_toFinset, hset, ← List.toFinset_cons, List.mem_toFinset]
  refine (hperm.map casefold).nodup_iff.2 (List.nodup_cons.2 ⟨fun hm => ?_, hnodup⟩)
  obtain ⟨p, hp, heq⟩ := List.mem_map.1 hm
  exact hfold p hp heq

theorem pairwise_sortNames (names : List String) : (sortNames names).Pairwise (· ≤ ·) := by
  refine (@List.pairwise_mergeSort _ (fun a b => decide (a ≤ b)) ?_ ?_ names).imp fun h => of_decide_eq_true h
  · intro a b c hab hbc
    exact decide_eq_true ((of_decide_eq_true hab).trans (of_decide_eq_true hbc))
  · intro a b
    simpa using le_total a b

theorem sortNames_idem (names : List String) : sortNames (sortNames names) = sortNames names :=
  List.mergeSort_of_pairwise ((pairwise_sortNames names).imp fun h => decide_eq_true h)

/-- Encoded files parse to themselves. -/
theorem parseZip_encodeZip {paths : List String} {files : Files} {raw : Bytes} (h : Admissible paths files)
    (hfold : ∀ p ∈ paths, casefold p ≠ casefold manifestName) (hraw : encodeZip files = .ok raw) :
    ∃ parsed, parseZip paths raw = .ok parsed ∧ parsed.Perm files ∧ raw.length ≤ maxArchive ∧ 0 < raw.length := by
  obtain ⟨ms, hms, hbounded, rfl⟩ := encodeZip_ok hraw
  obtain ⟨hsorted, -⟩ := sortedMembers_ok hms
  have hperm := sortedMembers_perm h.nodup hms
  have hnames : (ms.map Member.name).Perm files.names := hsorted ▸ perm_sortNames files.names
  obtain ⟨expected, hinventory, hset⟩ := h.inventory
  have hfolds : (ms.map fun m => casefold m.name).Nodup := by
    have := (hnames.map casefold).nodup_iff.2 (h.folds hfold)
    rwa [List.map_map] at this
  have hpayload : payloadSize ms ≤ maxPayload := by
    rw [← payloadTotal_files, payloadTotal, (hperm.map _).sum_nat]
    exact h.payload
  have hparse := parseZip_archiveOf hinventory hbounded (by rw [hsorted, sortNames_idem]) (hnames.nodup_iff.2 h.nodup)
    hfolds ((List.toFinset_eq_of_perm _ _ hnames).trans hset) hpayload
  have hlength := length_archiveOf ms
  refine ⟨_, hparse, hperm, hlength ▸ hbounded.total, ?_⟩
  rw [hlength]
  exact Nat.lt_of_lt_of_le (by decide : 0 < endSize) (Nat.le_add_left _ _)

/-- Bytes that parse are the encoding of what they parse to. -/
theorem encodeZip_parseZip {paths : List String} {raw : Bytes} {files : Files} (hlength : raw.length ≤ maxArchive)
    (h : parseZip paths raw = .ok files) : Admissible paths files ∧ encodeZip files = .ok raw := by
  obtain ⟨expected, ms, hinventory, hbounded, hsorted, hnodup, hset, hpayload, rfl, rfl⟩ := parseZip_ok h hlength
  refine ⟨⟨?_, ⟨expected, hinventory, ?_⟩, ?_⟩, ?_⟩
  · rwa [names_files]
  · rwa [names_files]
  · rwa [payloadTotal_files]
  · exact encodeZip_eq (sortedMembers_eq hsorted hnodup fun m hm => (hbounded.member m hm).1) hbounded

/-! ## The manifest -/

/-- Integers that `int` reads back from their text. -/
def Short (n : ℤ) : Prop := ((dumpInt n).dropWhile (· = '-')).length ≤ 4300

theorem short_size {n : ℕ} (h : n ≤ maxMember) : Short n := by
  have hd := (Nat.length_toDigits_le_iff (b := 10) (k := 7) (by decide) (by decide)).2
    (show n < 10 ^ 7 from lt_of_le_of_lt h (by decide))
  have hdrop := (List.dropWhile_sublist (fun c : Char => decide (c = '-')) (l := dumpInt n)).length_le
  have hdump : dumpInt (n : ℤ) = Nat.toDigits 10 n := by
    rw [dumpInt, if_neg (by omega)]
    rfl
  rw [hdump] at hdrop
  rw [Short, hdump]
  omega

section Manifest
variable (pk : Packages)

theorem manifest_plain {files : Files} (h : ∀ name ∈ files.names, (files.content name).length ≤ maxMember) :
    Plain Short (manifest pk files) := by
  refine plain_dict fun p hp => ?_
  simp only [List.mem_cons, List.not_mem_nil, or_false] at hp
  rcases hp with rfl | rfl | rfl | rfl
  · trivial
  · trivial
  · refine plain_dict fun q hq => ?_
    simp only [List.mem_cons, List.not_mem_nil, or_false] at hq
    rcases hq with rfl | rfl | rfl | rfl <;> trivial
  · refine (plainList_iff _).2 fun x hx => ?_
    obtain ⟨name, hname, rfl⟩ := List.mem_map.1 hx
    refine plain_dict fun q hq => ?_
    simp only [List.mem_cons, List.not_mem_nil, or_false] at hq
    rcases hq with rfl | rfl | rfl
    · trivial
    · trivial
    · exact short_size (h name ((perm_sortNames _).mem_iff.1 hname))

/-- The manifest's own bytes are read back. -/
theorem strictJson_jsonBytes {files : Files} {raw : Bytes}
    (h : ∀ name ∈ files.names, (files.content name).length ≤ maxMember) (hlength : raw.length ≤ maxJson)
    (hraw : jsonBytes pk (manifest pk files) = .ok raw) : strictJson pk raw = .ok (manifest pk files) := by
  have hplain := manifest_plain pk h
  unfold jsonBytes at hraw
  split at hraw
  · cases hraw
  next _ hbounded =>
  obtain ⟨ms, hms⟩ : ∃ ms, manifest pk files = .obj ms := ⟨_, rfl⟩
  rw [hms] at hplain hraw hbounded ⊢
  have hloads : loads (kitHooks pk) (dumps pk.floatRepr true (.obj ms) ++ ['\n']) = .ok (.obj ms) := by
    refine loads_dumps_line (kitHooks pk) pk.floatRepr true Short (fun n hn => ?_) (fun ms hms => uniquePairs_sorted _ ms hms)
      ms hplain
    change limitedInt (dumpInt n) = _
    have hn : ((dumpInt n).dropWhile (· = '-')).length ≤ 4300 := hn
    rw [limitedInt, if_pos hn, intToken_dumpInt]
  have hutf := Except.ok.inj hraw
  rw [strictJson, ← hutf, decodeUtf8_encodeUtf8, hutf, decide_eq_true hlength]
  simp only [kitRequire, if_true, hloads, hbounded, bind, Except.bind]

/-- Dictionaries with the same entries have the same manifest. -/
theorem manifest_perm {files files' : Files} (hnodup : files.names.Nodup) (h : files'.Perm files) :
    manifest pk files' = manifest pk files := by
  have hnames : (files'.names).Perm files.names := h.map Prod.fst
  have hnodup' := hnames.nodup_iff.2 hnodup
  have hsort : sortNames files'.names = sortNames files.names := by
    refine List.Perm.eq_of_pairwise (fun a b _ _ hab hba => ?_) (pairwise_sortNames _) (pairwise_sortNames _)
      ((perm_sortNames _).trans (hnames.trans (perm_sortNames _).symm))
    exact le_antisymm hab hba
  have hcontent (name : String) (hn : name ∈ files.names) : files'.content name = files.content name := by
    obtain ⟨p, hp, rfl⟩ := List.mem_map.1 hn
    rw [content_of_mem hnodup hp, content_of_mem hnodup' (h.mem_iff.2 hp)]
  have hentries : ∀ name ∈ sortNames files.names, files'.content name = files.content name := fun name hn =>
    hcontent name ((perm_sortNames _).mem_iff.1 hn)
  rw [manifest, manifest, hsort, List.map_congr_left fun name hn => by rw [hentries name hn]]

/-! ## Building and inspecting -/

variable {pk}

theorem buildArchive_ok {paths : List String} {destination : Option Bytes} {payload : Files} {report : BuildReport}
    {archive : Bytes} (h : buildArchive pk paths destination payload = .ok (report, archive)) :
    ∃ total bytes, ownedPayload paths payload = .ok total ∧ jsonBytes pk (manifest pk payload) = .ok bytes ∧
      encodeZip (payload ++ [(manifestName, bytes)]) = .ok archive ∧ report.archiveSha256 = sha256Hex pk archive := by
  obtain ⟨total, htotal, hrest⟩ := bind_ok h
  obtain ⟨bytes, hbytes, hrest'⟩ := bind_ok hrest
  obtain ⟨raw, hraw, hlast⟩ := bind_ok hrest'
  cases destination with
  | some old => cases hlast
  | none =>
    cases hlast
    exact ⟨total, bytes, htotal, hbytes, hraw, rfl⟩

theorem filter_payload {payload : Files} (h : manifestName ∉ payload.names) {bytes : Bytes} :
    (payload ++ [(manifestName, bytes)]).filter (fun m => m.1 ≠ manifestName) = payload := by
  have hkeep : payload.filter (fun m => m.1 ≠ manifestName) = payload := by
    refine List.filter_eq_self.2 fun p hp => decide_eq_true fun heq => ?_
    exact h (heq ▸ List.mem_map_of_mem hp)
  rw [List.filter_append, hkeep, List.filter_singleton]
  simp

/-- What was archived is what an inspection of the archive returns. -/
theorem inspectArchive_built (hdigest : ∀ raw, (pk.sha256 raw).length = 32) {paths : List String}
    (hfold : ∀ p ∈ paths, casefold p ≠ casefold manifestName) {payload : Files} (hnodup : payload.names.Nodup)
    {report : BuildReport} {archive : Bytes} (h : buildArchive pk paths none payload = .ok (report, archive)) :
    ∃ x, inspectArchive pk paths (some archive) report.archiveSha256 = .ok x ∧ x.files.Perm payload ∧
      x.manifest = manifest pk payload := by
  obtain ⟨total, bytes, howned, hbytes, hencode, hsha⟩ := buildArchive_ok h
  obtain ⟨hmanifest, hadmissible⟩ := ownedPayload_ok hnodup howned bytes
  obtain ⟨parsed, hparse, hperm, hlength, hpos⟩ := parseZip_encodeZip hadmissible hfold hencode
  have hparsedNodup : parsed.names.Nodup := (hperm.map Prod.fst).nodup_iff.2 hadmissible.nodup
  have hmember : (manifestName, bytes) ∈ parsed := hperm.mem_iff.2 (List.mem_append_right _ List.mem_cons_self)
  have hcontent : parsed.content manifestName = bytes := content_of_mem hparsedNodup hmember
  have hrest := hperm.filter fun m => m.1 ≠ manifestName
  rw [filter_payload hmanifest] at hrest
  -- every member is within the limit that the reader of the manifest has
  obtain ⟨ms, hms, hbounded, -⟩ := encodeZip_ok hencode
  have hsizes : ∀ p ∈ payload ++ [(manifestName, bytes)], p.2.length ≤ maxMember := by
    intro p hp
    obtain ⟨m, hm, rfl⟩ := List.mem_map.1 ((sortedMembers_perm hadmissible.nodup hms).mem_iff.2 hp)
    exact (hbounded.member m hm).2
  have hpayloadSizes : ∀ name ∈ payload.names, (payload.content name).length ≤ maxMember := by
    intro name hname
    obtain ⟨p, hp, rfl⟩ := List.mem_map.1 hname
    rw [content_of_mem hnodup hp]
    exact hsizes p (List.mem_append_left _ hp)
  have hstrict : strictJson pk bytes = .ok (manifest pk payload) :=
    strictJson_jsonBytes pk hpayloadSizes (hsizes _ (List.mem_append_right _ List.mem_cons_self)) hbytes
  have hexpected := manifest_perm pk hnodup hrest
  have hread : readArchive (some archive) = .ok archive := by
    rw [readArchive, decide_eq_true hpos, decide_eq_true hlength]
    rfl
  have hhex : (sha256Hex pk archive).length = 64 ∧ (sha256Hex pk archive).toList.all isLowerHex = true := by
    refine ⟨by rw [sha256Hex, hex_length, hdigest], List.all_eq_true.2 fun c hc => ?_⟩
    rw [sha256Hex, hex, String.toList_ofList] at hc
    obtain ⟨b, -, hb⟩ := List.mem_flatMap.1 hc
    have hlt := b.toNat_lt
    have hdigits : ∀ n < 16, isLowerHex (hexDigit n) = true := by decide
    simp only [hexByte, List.mem_cons, List.not_mem_nil, or_false] at hb
    rcases hb with rfl | rfl
    · exact hdigits _ (by omega)
    · exact hdigits _ (by omega)
  refine ⟨⟨manifest pk payload, parsed.filter fun m => m.1 ≠ manifestName, sha256Hex pk archive, sha256Hex pk bytes⟩,
    ?_, hrest, rfl⟩
  simp only [inspectArchive, hsha, hhex.1, hhex.2, hread, hparse, hcontent, hstrict, hexpected, hbytes,
    kitRequire, decide_true, Bool.and_self, if_true, bind, Except.bind]
  rfl

/-- Payloads that share an archive are the same dictionary. -/
theorem buildArchive_injective {paths : List String} (hfold : ∀ p ∈ paths, casefold p ≠ casefold manifestName)
    {a b : Files} (ha : a.names.Nodup) (hb : b.names.Nodup) {ra rb : BuildReport} {archive : Bytes}
    (hra : buildArchive pk paths none a = .ok (ra, archive)) (hrb : buildArchive pk paths none b = .ok (rb, archive)) :
    a.Perm b := by
  have parsed {payload : Files} (hnodup : payload.names.Nodup) {report : BuildReport}
      (h : buildArchive pk paths none payload = .ok (report, archive)) :
      ∃ files, parseZip paths archive = .ok files ∧ (files.filter fun m => m.1 ≠ manifestName).Perm payload := by
    obtain ⟨total, bytes, howned, -, hencode, -⟩ := buildArchive_ok h
    obtain ⟨hmanifest, hadmissible⟩ := ownedPayload_ok hnodup howned bytes
    obtain ⟨files, hparse, hperm, -, -⟩ := parseZip_encodeZip hadmissible hfold hencode
    have hrest := hperm.filter fun m => m.1 ≠ manifestName
    rw [filter_payload hmanifest] at hrest
    exact ⟨files, hparse, hrest⟩
  obtain ⟨files, hparse, hperm⟩ := parsed ha hra
  obtain ⟨files', hparse', hperm'⟩ := parsed hb hrb
  obtain rfl := Except.ok.inj (hparse.symm.trans hparse')
  exact hperm.symm.trans hperm'

/-- Over every fixed inventory none of whose paths folds to the manifest's: encoding and parsing are inverse,
    the archives accepted are those emitted, and an archive that was built shows its own payload. -/
theorem archives_exact (hdigest : ∀ raw, (pk.sha256 raw).length = 32) (paths : List String)
    (hfold : ∀ p ∈ paths, casefold p ≠ casefold manifestName) :
    (∀ payload total bytes raw, (Files.names payload).Nodup → ownedPayload paths payload = .ok total →
      encodeZip (payload ++ [(manifestName, bytes)]) = .ok raw →
        ∃ files, parseZip paths raw = .ok files ∧ files.Perm (payload ++ [(manifestName, bytes)])) ∧
    (∀ raw files, raw.length ≤ maxArchive → parseZip paths raw = .ok files → encodeZip files = .ok raw) ∧
    (∀ raw, raw.length ≤ maxArchive →
      ((∃ files, parseZip paths raw = .ok files) ↔ ∃ files, Admissible paths files ∧ encodeZip files = .ok raw)) ∧
    (∀ payload report archive, (Files.names payload).Nodup →
      buildArchive pk paths none payload = .ok (report, archive) →
        ∃ x, inspectArchive pk paths (some archive) report.archiveSha256 = .ok x ∧ x.files.Perm payload) ∧
    ∀ a b ra rb archive, (Files.names a).Nodup → (Files.names b).Nodup →
      buildArchive pk paths none a = .ok (ra, archive) → buildArchive pk paths none b = .ok (rb, archive) →
        List.Perm a b := by
  refine ⟨fun payload total bytes raw hnodup howned hraw => ?_, fun raw files hlength h => ?_, fun raw hlength => ⟨?_, ?_⟩,
    fun payload report archive hnodup h => ?_, fun a b ra rb archive ha hb hra hrb => ?_⟩
  · obtain ⟨files, hparse, hperm, -, -⟩ := parseZip_encodeZip (ownedPayload_ok hnodup howned bytes).2 hfold hraw
    exact ⟨files, hparse, hperm⟩
  · exact (encodeZip_parseZip hlength h).2
  · rintro ⟨files, h⟩
    exact ⟨files, encodeZip_parseZip hlength h⟩
  · rintro ⟨files, hadmissible, hraw⟩
    obtain ⟨parsed, hparse, -⟩ := parseZip_encodeZip hadmissible hfold hraw
    exact ⟨parsed, hparse⟩
  · obtain ⟨x, hx, hperm, -⟩ := inspectArchive_built hdigest hfold hnodup h
    exact ⟨x, hx, hperm⟩
  · exact buildArchive_injective hfold ha hb hra hrb

end Manifest

/-! ## A small instance -/

def samplePaths : List String := ["evidence/provenance.json"]

def samplePayload : Files := [("evidence/provenance.json", [1, 2, 3])]

def sampleMembers : List Member :=
  [⟨"evidence/provenance.json", asciiBytes "evidence/provenance.json", [1, 2, 3]⟩,
    ⟨"manifest.json", asciiBytes "manifest.json", [123, 125]⟩]

theorem sampleMembers_bounded : Bounded sampleMembers :=
  ⟨by decide +kernel, by decide +kernel, by decide +kernel, by decide +kernel⟩

theorem sample_archives_exact : ∃ files, parseZip samplePaths (archiveOf sampleMembers) = .ok files ∧
    files.Perm (samplePayload ++ [(manifestName, [123, 125])]) := by
  have hsorted : sampleMembers.map Member.name = sortNames (sampleMembers.map Member.name) :=
    (List.mergeSort_of_pairwise (by decide)).symm
  have hmembers := sortedMembers_eq hsorted (by decide) fun m hm => (sampleMembers_bounded.member m hm).1
  have hencode := encodeZip_eq hmembers sampleMembers_bounded
  have hexact := @archives_exact { samplePackages with sha256 := fun _ => List.replicate 32 0 } (fun _ => rfl) samplePaths
    (by decide +kernel)
  exact hexact.1 samplePayload 3 [123, 125] _ (by decide) (by decide +kernel) hencode

end VapEvidence.Recheck
