import VapEvidence.Delimited
import VapEvidence.EditorRoundTrip
import VapEvidence.PublicationDecisions
import VapEvidence.PublicationHtml

set_option autoImplicit false

/-!
# What the bytes of an article determine

The escapes of `render_html` keep every shown text apart from the template, so equal
bytes are the article of one document, one revision, one list of blocks and one list of
disclosed activities.
-/
namespace VapEvidence.Publication
open Json Incident Delimited

/-! ## Escapes -/

/-- The characters that are shown as references. -/
def referenced : List Char := ['&', '<', '>', '"', '\'', '\r']

/-- The characters that no shown text holds: those of markup, the quotes and the carriage return. -/
def markup : List Char := ['<', '>', '"', '\'', '\r']

/-- `_escaped_text` of a character -/
def textChar (c : Char) : List Char := (escapeChar c).flatMap fun d => if d = '\r' then "&#13;".toList else [d]

/-- The characters of a shown text. -/
def shown (s : String) : List Char := s.toList.flatMap textChar

theorem escapeChar_plain {c : Char} (h : c ∉ ['&', '<', '>', '"', '\'']) : escapeChar c = [c] := by
  simp only [List.mem_cons, List.not_mem_nil, or_false, not_or] at h
  obtain ⟨ha, hl, hg, hq, hs⟩ := h
  unfold escapeChar
  split
  · exact absurd rfl ha
  · exact absurd rfl hl
  · exact absurd rfl hg
  · exact absurd rfl hq
  · exact if_neg fun hn => hs (Char.ext (UInt32.toNat_inj.1 hn))

theorem textChar_plain {c : Char} (h : c ∉ referenced) : textChar c = [c] := by
  have hplain : c ∉ ['&', '<', '>', '"', '\''] := fun hc => h (by
    simp only [referenced, List.mem_cons, List.not_mem_nil, or_false] at hc ⊢
    tauto)
  have hr : c ≠ '\r' := fun hc => h (by simp [referenced, hc])
  rw [textChar, escapeChar_plain hplain, List.flatMap_singleton, if_neg hr]

theorem textChar_referenced : ∀ c ∈ referenced, ∃ t, textChar c = '&' :: t ∧ ∀ d ∈ t, d ∉ referenced := by
  simp only [referenced, List.forall_mem_cons]
  refine ⟨⟨"amp;".toList, rfl, ?_⟩, ⟨"lt;".toList, rfl, ?_⟩, ⟨"gt;".toList, rfl, ?_⟩, ⟨"quot;".toList, rfl, ?_⟩,
    ⟨"#x27;".toList, rfl, ?_⟩, ⟨"#13;".toList, rfl, ?_⟩, fun _ h => absurd h List.not_mem_nil⟩
  all_goals exact Delimited.forall_mem_of_all (by decide)

theorem referenced_prefixFree : ∀ a ∈ referenced, ∀ b ∈ referenced, textChar a <+: textChar b → a = b :=
  Delimited.forall_mem_pair_of_all (by decide +kernel)

theorem textChar_nonempty (c : Char) : textChar c ≠ [] := by
  intro hc
  by_cases hr : c ∈ referenced
  · obtain ⟨u, hu, -⟩ := textChar_referenced c hr
    rw [hu] at hc
    cases hc
  · rw [textChar_plain hr] at hc
    cases hc

theorem textChar_prefixFree : PrefixFree (fun _ => True) textChar := by
  refine ⟨fun c _ => textChar_nonempty c, fun a b _ _ s t h => ?_⟩
  by_cases ha : a ∈ referenced
  · by_cases hb : b ∈ referenced
    · rcases List.prefix_or_prefix_of_prefix (List.prefix_append _ s) (h ▸ List.prefix_append _ t) with hab | hba
      · exact referenced_prefixFree a ha b hb hab
      · exact (referenced_prefixFree b hb a ha hba).symm
    · obtain ⟨u, hu, -⟩ := textChar_referenced a ha
      rw [hu, textChar_plain hb] at h
      exact absurd ((List.cons.inj h).1 ▸ List.mem_cons_self) hb
  · by_cases hb : b ∈ referenced
    · obtain ⟨u, hu, -⟩ := textChar_referenced b hb
      rw [hu, textChar_plain ha] at h
      exact absurd ((List.cons.inj h).1.symm ▸ List.mem_cons_self) ha
    · rw [textChar_plain ha, textChar_plain hb] at h
      exact (List.cons.inj h).1

theorem textChar_safe (c : Char) : ∀ d ∈ textChar c, d ∉ markup := by
  intro d hd hbad
  have hd' : d ∈ referenced := List.mem_cons_of_mem _ hbad
  by_cases hc : c ∈ referenced
  · obtain ⟨t, ht, hplain⟩ := textChar_referenced c hc
    rw [ht] at hd
    rcases List.mem_cons.1 hd with rfl | hd
    · simp [markup] at hbad
    · exact hplain d hd hd'
  · rw [textChar_plain hc, List.mem_singleton] at hd
    exact hc (hd ▸ hd')

/-- No shown text holds a character of markup, a quote or a carriage return. -/
theorem shown_safe (s : String) : ∀ d ∈ shown s, d ∉ markup := by
  intro d hd
  obtain ⟨c, -, hc⟩ := List.mem_flatMap.1 hd
  exact textChar_safe c d hc

theorem not_mem_shown {d : Char} (h : d ∈ markup) (s : String) : d ∉ shown s := fun hd => shown_safe s d hd h

theorem shown_injective {s t : String} (h : shown s = shown t) : s = t :=
  String.toList_injective (textChar_prefixFree.flatMap_injective (fun _ _ => trivial) (fun _ _ => trivial) h)

theorem escapedText_toList (s : String) : (escapedText s).toList = shown s := by
  rw [escapedText, String.toList_ofList, escape, String.toList_ofList (l := s.toList.flatMap escapeChar),
    List.flatMap_assoc]
  rfl

theorem escapeChar_return {c : Char} (h : c ≠ '\r') : '\r' ∉ escapeChar c := by
  by_cases hc : c ∈ ['&', '<', '>', '"', '\'']
  · have hescaped : ∀ c ∈ ['&', '<', '>', '"', '\''], '\r' ∉ escapeChar c :=
      Delimited.forall_mem_of_all (by decide)
    exact hescaped c hc
  · rw [escapeChar_plain hc, List.mem_singleton]
    exact fun hr => h hr.symm

/-- Without a carriage return the two escapes are one. -/
theorem escape_toList {s : String} (h : '\r' ∉ s.toList) : (escape s).toList = shown s := by
  rw [escape, String.toList_ofList, shown]
  refine List.flatMap_congr fun c hc => ?_
  have hreturn : '\r' ∉ escapeChar c := escapeChar_return fun he => h (he ▸ hc)
  have hsame : ∀ d ∈ escapeChar c, (if d = '\r' then "&#13;".toList else [d]) = [d] :=
    fun d hd => if_neg fun (he : d = '\r') => hreturn (he ▸ hd)
  rw [textChar, List.flatMap_congr hsame, List.flatMap_singleton']

/-! ## Pieces -/

/-- A piece of an article: of the fixed template, or what it shows of a text. -/
inductive Piece
  | fixed (s : String)
  | text (s : String)

def Piece.html : Piece → String
  | .fixed s => s
  | .text s => s

/-- The label of a block. -/
def labelOf (blockId : String) : String := String.ofList (blockId.toList.map fun c => if c = '_' || c = '-' then ' ' else c)

def sectionPieces (block : String × String) : List Piece :=
  [.fixed "<section class=\"content-block\" data-block-id=\"", .text (escape block.1), .fixed "\">\n<h2>",
    .text (escape (labelOf block.1)), .fixed "</h2>\n<p class=\"block-text\">", .text (escapedText block.2),
    .fixed "</p>\n</section>"]

def listingPieces : List (String × String) → List Piece
  | [] => []
  | [block] => sectionPieces block
  | block :: blocks => sectionPieces block ++ .fixed "\n" :: listingPieces blocks

/-- The pieces of the article of a view with its notice. -/
def articlePieces (view : View) (notice : String) : List Piece :=
  [.fixed htmlHead, .text (escape view.documentId), .fixed htmlTitled, .text (escape view.documentId),
    .fixed htmlIdentified, .text (escape view.revisionId), .fixed htmlRevised] ++ listingPieces view.blocks ++
    [.fixed htmlListed, .text (escapedText notice), .fixed htmlNoticed]

def charsOf (pieces : List Piece) : List Char := pieces.flatMap fun p => p.html.toList

theorem charsOf_append (ps qs : List Piece) : charsOf (ps ++ qs) = charsOf ps ++ charsOf qs := List.flatMap_append

theorem charsOf_cons (p : Piece) (ps : List Piece) : charsOf (p :: ps) = p.html.toList ++ charsOf ps := List.flatMap_cons

theorem section_pieces (block : String × String) : (sectionHtml block).toList = charsOf (sectionPieces block) := by
  delta sectionHtml
  simp only [sectionPieces, labelOf, charsOf, List.flatMap_cons, List.flatMap_nil, List.append_nil, Piece.html,
    String.toList_append, List.append_assoc]

theorem listing_pieces (blocks : List (String × String)) :
    (String.intercalate "\n" (blocks.map sectionHtml)).toList = charsOf (listingPieces blocks) := by
  induction blocks with
  | nil => rfl
  | cons block blocks ih =>
    cases blocks with
    | nil => rw [List.map_singleton, String.intercalate_singleton, section_pieces, listingPieces]
    | cons next blocks =>
      have hstep : listingPieces (block :: next :: blocks) =
          sectionPieces block ++ .fixed "\n" :: listingPieces (next :: blocks) := rfl
      rw [List.map_cons, List.map_cons, String.intercalate_cons_cons, ← List.map_cons, String.toList_append,
        String.toList_append, ih, section_pieces, hstep, charsOf_append, charsOf_cons, List.append_assoc]
      rfl

theorem article_pieces (view : View) (notice : String) :
    (articleHtml view notice).toList = charsOf (articlePieces view notice) := by
  rw [articlePieces, charsOf_append, charsOf_append, ← listing_pieces]
  delta articleHtml
  simp only [charsOf, List.flatMap_cons, List.flatMap_nil, List.append_nil, Piece.html, String.toList_append,
    List.append_assoc]

/-! ## Views that are rendered -/

/-- No identifier of a view holds a carriage return. -/
structure Identified (view : View) : Prop where
  document : '\r' ∉ view.documentId.toList
  revision : '\r' ∉ view.revisionId.toList
  blocks : ∀ block ∈ view.blocks, '\r' ∉ block.1.toList

theorem identifier_plain {value : Json} {s : String} (h : identifier value = .ok s) : value = .str s ∧ '\r' ∉ s.toList := by
  unfold identifier at h
  split at h
  · split_ifs at h with hs
    · cases h
      refine ⟨rfl, fun hr => ?_⟩
      revert hs hr
      generalize s.toList = cs
      intro hs hr
      cases cs with
      | nil => cases hs
      | cons c cs =>
        simp only [isIdentifier, Bool.and_eq_true, List.all_eq_true] at hs
        rcases List.mem_cons.1 hr with rfl | hr
        · exact absurd hs.1.1 (by decide)
        · exact absurd (hs.1.2 _ hr) (by decide)
    · cases h
  · cases h

theorem documentBlocks_plain {seen : List String} {blocks parsed : List (String × String)}
    (h : documentBlocks seen (blocks.map blockJson) = .ok parsed) : ∀ block ∈ blocks, '\r' ∉ block.1.toList := by
  induction blocks generalizing seen parsed with
  | nil => exact fun _ hb => absurd hb List.not_mem_nil
  | cons block blocks ih =>
    rw [List.map_cons, documentBlocks] at h
    obtain ⟨_, -, h⟩ := bind_ok h
    obtain ⟨id, hid, h⟩ := bind_ok h
    iterate 2 obtain ⟨_, -, h⟩ := bind_ok h
    obtain ⟨rest, hrest, -⟩ := bind_ok h
    obtain ⟨hvalue, hplain⟩ := identifier_plain hid
    have hitem : (blockJson block).item "block_id" = .str block.1 := item_dict (by simp) (by simp)
    rw [hitem] at hvalue
    rw [List.forall_mem_cons]
    exact ⟨Json.str.inj hvalue ▸ hplain, ih hrest⟩

/-- What a rendered view is, and the bytes it is rendered to. -/
theorem renderHtml_ok {pk : Packages} {view : View} {disclosure : Json} {html : Bytes}
    (h : renderHtml pk view disclosure = .ok html) : Identified view ∧ view.blocks ≠ [] ∧
      ∃ notice, disclosureText disclosure = .ok notice ∧ html = encodeUtf8 (articleHtml view notice).toList := by
  unfold renderHtml at h
  obtain ⟨_, hview, h⟩ := bind_ok h
  obtain ⟨notice, hnotice, h⟩ := bind_ok h
  obtain ⟨_, -, h⟩ := bind_ok h
  have hhtml := (Except.ok.inj h).symm
  unfold checkView at hview
  obtain ⟨_, hdocument, hview⟩ := bind_ok hview
  obtain ⟨_, hrevision, hview⟩ := bind_ok hview
  obtain ⟨_, hblocks, -⟩ := bind_ok hview
  have hd := identifier_plain hdocument
  have hr := identifier_plain hrevision
  have hitem : (stateJson view.documentId view.blocks).item "blocks" = .arr (view.blocks.map blockJson) :=
    item_dict (by simp) (by simp)
  unfold checkDocument at hblocks
  iterate 2 obtain ⟨_, -, hblocks⟩ := bind_ok hblocks
  rw [hitem] at hblocks
  obtain ⟨_, hcount, hblocks⟩ := bind_ok hblocks
  have hcount := Incident.require_ok hcount
  refine ⟨⟨Json.str.inj hd.1 ▸ hd.2, Json.str.inj hr.1 ▸ hr.2, documentBlocks_plain hblocks⟩, fun hnil => ?_, notice, hnotice, hhtml⟩
  rw [hnil] at hcount
  cases hcount

/-! ## Safe pieces -/

theorem labelOf_plain {s : String} (h : '\r' ∉ s.toList) : '\r' ∉ (labelOf s).toList := by
  rw [labelOf, String.toList_ofList]
  intro hm
  obtain ⟨c, hc, he⟩ := List.mem_map.1 hm
  split_ifs at he
  · cases he
  · exact h (he ▸ hc)

theorem section_text {block : String × String} (h : '\r' ∉ block.1.toList) {s : String}
    (hs : .text s ∈ sectionPieces block) : ∃ t, s.toList = shown t := by
  simp only [sectionPieces, List.mem_cons, Piece.text.injEq, reduceCtorEq, false_or, List.not_mem_nil, or_false] at hs
  rcases hs with rfl | rfl | rfl
  · exact ⟨_, escape_toList h⟩
  · exact ⟨_, escape_toList (labelOf_plain h)⟩
  · exact ⟨_, escapedText_toList _⟩

theorem listing_text {blocks : List (String × String)} (h : ∀ block ∈ blocks, '\r' ∉ block.1.toList) {s : String}
    (hs : .text s ∈ listingPieces blocks) : ∃ t, s.toList = shown t := by
  induction blocks with
  | nil => cases hs
  | cons block blocks ih =>
    rw [List.forall_mem_cons] at h
    cases blocks with
    | nil => exact section_text h.1 hs
    | cons next blocks =>
      rw [listingPieces, List.mem_append, List.mem_cons] at hs
      · rcases hs with hs | hs | hs
        · exact section_text h.1 hs
        · cases hs
        · exact ih h.2 hs
      · exact fun he => (by cases he)

/-- What an article shows of a text between two pieces of the template is a shown text. -/
theorem article_text {view : View} (h : Identified view) {notice s : String}
    (hs : .text s ∈ articlePieces view notice) : ∃ t, s.toList = shown t := by
  simp only [articlePieces, List.mem_append, List.mem_cons, Piece.text.injEq, reduceCtorEq, false_or, List.not_mem_nil,
    or_false] at hs
  rcases hs with ((rfl | rfl | rfl) | hs) | rfl
  · exact ⟨_, escape_toList h.document⟩
  · exact ⟨_, escape_toList h.document⟩
  · exact ⟨_, escape_toList h.revision⟩
  · exact listing_text h.blocks hs
  · exact ⟨_, escapedText_toList _⟩

/-- A byte below 128 is a character of the text. -/
theorem mem_encodeUtf8 {s : List Char} {b : UInt8} (h : b ∈ encodeUtf8 s) (hb : b.toNat < 128) :
    ∃ c ∈ s, c.toNat = b.toNat := by
  obtain ⟨c, hc, hm⟩ := List.mem_flatMap.1 h
  refine ⟨c, hc, ?_⟩
  have hge (m : ℕ) (h₀ : 128 ≤ m) (h₁ : m < 256) : UInt8.ofNat m ≠ b := by
    rintro rfl
    rw [UInt8.toNat_ofNat', Nat.mod_eq_of_lt h₁] at hb
    omega
  unfold String.utf8EncodeChar at hm
  dsimp only at hm
  split_ifs at hm with h₁ <;>
    simp only [List.mem_cons, List.not_mem_nil, or_false] at hm
  · rw [hm, UInt8.toNat_ofNat', Nat.mod_eq_of_lt (by omega)]
    rfl
  · rcases hm with hm | hm <;> exact absurd hm.symm (hge _ (by omega) (by omega))
  · rcases hm with hm | hm | hm <;> exact absurd hm.symm (hge _ (by omega) (by omega))
  · rcases hm with hm | hm | hm | hm <;> exact absurd hm.symm (hge _ (by omega) (by omega))

/-! ## Reading an article -/

/-- A shown text ends at the first character of markup. -/
theorem text_cut {d : Char} (hd : d ∈ markup) {a b : String} {s t : List Char} (h : shown a ++ d :: s = shown b ++ d :: t) :
    a = b ∧ s = t := by
  obtain ⟨hab, hst⟩ := cut_unique (not_mem_shown hd a) (not_mem_shown hd b) h
  exact ⟨shown_injective hab, hst⟩

theorem section_cut {block block' : String × String} {s t : List Char} (h : '\r' ∉ block.1.toList)
    (h' : '\r' ∉ block'.1.toList) (he : charsOf (sectionPieces block) ++ s = charsOf (sectionPieces block') ++ t) :
    block = block' ∧ s = t := by
  obtain ⟨t₁, hquote⟩ : ∃ u, "\">\n<h2>".toList = '"' :: u := ⟨_, rfl⟩
  obtain ⟨t₂, hlabel⟩ : ∃ u, "</h2>\n<p class=\"block-text\">".toList = '<' :: u := ⟨_, rfl⟩
  obtain ⟨t₃, htext⟩ : ∃ u, "</p>\n</section>".toList = '<' :: u := ⟨_, rfl⟩
  simp only [sectionPieces, charsOf, List.flatMap_cons, List.flatMap_nil, List.append_nil, Piece.html, List.append_assoc,
    escape_toList h, escape_toList h', escape_toList (labelOf_plain h), escape_toList (labelOf_plain h'),
    escapedText_toList, hquote, hlabel, htext, List.cons_append] at he
  have hidentified := text_cut (by simp [markup]) (List.append_cancel_left he)
  have hlabelled := text_cut (by simp [markup]) (List.append_cancel_left hidentified.2)
  have hread := text_cut (by simp [markup]) (List.append_cancel_left hlabelled.2)
  exact ⟨Prod.ext hidentified.1 hread.1, List.append_cancel_left hread.2⟩

/-- Each section behind a newline. -/
def lined (blocks : List (String × String)) : List Char := blocks.flatMap fun b => '\n' :: charsOf (sectionPieces b)

theorem lined_listing {blocks : List (String × String)} (h : blocks ≠ []) :
    '\n' :: charsOf (listingPieces blocks) = lined blocks := by
  induction blocks with
  | nil => exact absurd rfl h
  | cons block blocks ih =>
    cases blocks with
    | nil => rw [lined, List.flatMap_singleton, listingPieces]
    | cons next blocks =>
      have hstep : listingPieces (block :: next :: blocks) =
          sectionPieces block ++ .fixed "\n" :: listingPieces (next :: blocks) := rfl
      have hnext := ih (List.cons_ne_nil _ _)
      rw [lined] at hnext ⊢
      rw [hstep, charsOf_append, charsOf_cons, List.flatMap_cons, ← hnext]
      rfl

theorem lined_append {blocks : List (String × String)} (h : blocks ≠ []) (s : List Char) :
    '\n' :: (charsOf (listingPieces blocks) ++ s) = lined blocks ++ s := by
  rw [← lined_listing h, List.cons_append]

theorem section_starts (block : String × String) : ∃ t, charsOf (sectionPieces block) = '<' :: 's' :: t := ⟨_, rfl⟩

/-- A listing is cut where something follows that is no section. -/
theorem lined_cut {blocks blocks' : List (String × String)} {s t : List Char}
    (h : ∀ block ∈ blocks, '\r' ∉ block.1.toList) (h' : ∀ block ∈ blocks', '\r' ∉ block.1.toList)
    (he : lined blocks ++ '\n' :: '<' :: '/' :: s = lined blocks' ++ '\n' :: '<' :: '/' :: t) :
    blocks = blocks' ∧ s = t := by
  induction blocks generalizing blocks' with
  | nil =>
    cases blocks' with
    | nil => exact ⟨rfl, by simpa [lined] using he⟩
    | cons block' blocks' =>
      obtain ⟨u, hu⟩ := section_starts block'
      simp [lined, hu] at he
  | cons block blocks ih =>
    cases blocks' with
    | nil =>
      obtain ⟨u, hu⟩ := section_starts block
      simp [lined, hu] at he
    | cons block' blocks' =>
      rw [List.forall_mem_cons] at h h'
      simp only [lined, List.flatMap_cons, List.cons_append, List.append_assoc, List.cons.injEq, true_and] at he
      obtain ⟨rfl, htail⟩ := section_cut h.1 h'.1 he
      obtain ⟨rfl, rfl⟩ := ih h.2 h'.2 htail
      exact ⟨rfl, rfl⟩

theorem starts_titled : ∃ t, htmlTitled.toList = '<' :: t := by
  delta htmlTitled
  simp only [String.toList_append]
  exact ⟨_, rfl⟩

theorem starts_identified : ∃ t, htmlIdentified.toList = '<' :: t := ⟨_, rfl⟩

theorem starts_revised : ∃ t, htmlRevised.toList = '<' :: t := by
  delta htmlRevised
  simp only [String.toList_append]
  exact ⟨_, rfl⟩

theorem starts_listed : ∃ t, htmlListed.toList = '\n' :: '<' :: '/' :: t := by
  delta htmlListed
  simp only [String.toList_append]
  exact ⟨_, rfl⟩

theorem starts_noticed : ∃ t, htmlNoticed.toList = '<' :: t := by
  delta htmlNoticed
  simp only [String.toList_append]
  exact ⟨_, rfl⟩

theorem article_cut {view view' : View} {notice notice' : String} (h : Identified view) (h' : Identified view')
    (hne : view.blocks ≠ []) (hne' : view'.blocks ≠ [])
    (he : charsOf (articlePieces view notice) = charsOf (articlePieces view' notice')) :
    view.documentId = view'.documentId ∧ view.revisionId = view'.revisionId ∧ view.blocks = view'.blocks ∧
      notice = notice' := by
  obtain ⟨t₁, htitled⟩ := starts_titled
  obtain ⟨t₂, hidentified⟩ := starts_identified
  obtain ⟨t₃, hrevised⟩ := starts_revised
  obtain ⟨t₄, hlisted⟩ := starts_listed
  obtain ⟨t₅, hnoticed⟩ := starts_noticed
  rw [articlePieces, articlePieces] at he
  simp only [charsOf_append, charsOf_cons, Piece.html, List.append_assoc, escape_toList h.document, escape_toList h.revision,
    escape_toList h'.document, escape_toList h'.revision, escapedText_toList, htitled, hidentified, hrevised, hlisted,
    hnoticed, List.cons_append] at he
  have htop := text_cut (by simp [markup]) (List.append_cancel_left he)
  have hdocument := text_cut (by simp [markup]) (List.append_cancel_left htop.2)
  have hrevision := text_cut (by simp [markup]) (List.append_cancel_left hdocument.2)
  have hlisting := congrArg ('\n' :: ·) (List.append_cancel_left (List.append_cancel_left hrevision.2))
  rw [lined_append hne, lined_append hne'] at hlisting
  have hblocks := lined_cut h.blocks h'.blocks hlisting
  have hnotice := text_cut (by simp [markup]) (List.append_cancel_left hblocks.2)
  exact ⟨htop.1, hrevision.1, hblocks.1, hnotice.1⟩

/-! ## The notice -/

theorem spaced_injective : ∀ a ∈ aiActivities, ∀ b ∈ aiActivities, spaced a = spaced b → a = b := by decide +kernel

theorem none_declared : ∀ a ∈ aiActivities, (spaced a).toList ≠ "none declared".toList := by decide +kernel

theorem spaced_comma : ∀ a ∈ aiActivities, ',' ∉ (spaced a).toList := by decide +kernel

theorem map_spaced_injective {xs ys : List String} (hx : ∀ a ∈ xs, a ∈ aiActivities) (hy : ∀ a ∈ ys, a ∈ aiActivities)
    (h : xs.map spaced = ys.map spaced) : xs = ys := by
  induction xs generalizing ys with
  | nil => exact (List.map_eq_nil_iff.1 h.symm).symm
  | cons x xs ih =>
    cases ys with
    | nil => cases h
    | cons y ys =>
      rw [List.forall_mem_cons] at hx hy
      obtain ⟨hhead, htail⟩ := List.cons.inj h
      rw [spaced_injective x hx.1 y hy.1 hhead, ih hx.2 hy.2 htail]

/-- The labels of a notice. -/
def labelsOf (items : List String) : String :=
  if items.isEmpty then "none declared" else String.intercalate ", " (items.map spaced)

theorem labels_cons (x : String) (xs : List String) :
    (labelsOf (x :: xs)).toList = chain (',' :: [' ']) (spaced x).toList ((xs.map spaced).map String.toList) := by
  change (String.intercalate ", " ((x :: xs).map spaced)).toList = _
  rw [List.map_cons, toList_intercalate]
  rfl

theorem labels_injective {xs ys : List String} (hx : ∀ a ∈ xs, a ∈ aiActivities) (hy : ∀ a ∈ ys, a ∈ aiActivities)
    (h : labelsOf xs = labelsOf ys) : xs = ys := by
  have hcomma {zs : List String} (hz : ∀ a ∈ zs, a ∈ aiActivities) : ∀ w ∈ (zs.map spaced).map String.toList, ',' ∉ w := by
    intro w hw
    rw [List.map_map] at hw
    obtain ⟨a, ha, rfl⟩ := List.mem_map.1 hw
    exact spaced_comma a (hz a ha)
  have hnone {y : String} {ys : List String} (hy : ∀ a ∈ y :: ys, a ∈ aiActivities) : labelsOf [] ≠ labelsOf (y :: ys) := by
    intro h
    have hchain := congrArg String.toList h
    have hempty : (labelsOf []).toList = chain (',' :: [' ']) "none declared".toList [] := (List.append_nil _).symm
    rw [labels_cons, hempty] at hchain
    obtain ⟨hfirst, -⟩ := chain_injective (by simp) (hcomma hy) hchain
    exact none_declared y (hy y List.mem_cons_self) hfirst.symm
  cases xs with
  | nil =>
    cases ys with
    | nil => rfl
    | cons y ys => exact absurd h (hnone hy)
  | cons x xs =>
    cases ys with
    | nil => exact absurd h.symm (hnone hx)
    | cons y ys =>
      have hchain := congrArg String.toList h
      rw [labels_cons, labels_cons] at hchain
      obtain ⟨hhead, htail⟩ := chain_injective (hcomma hx) (hcomma hy) hchain
      have hmap : ((x :: xs).map spaced).map String.toList = ((y :: ys).map spaced).map String.toList := by
        simp only [List.map_cons, hhead, htail]
      exact map_spaced_injective hx hy (List.map_injective_iff.2 (fun _ _ he => String.toList_injective he) hmap)

theorem disclosureText_ok {disclosure : Json} {notice : String} (h : disclosureText disclosure = .ok notice) :
    ∃ items, disclosure.item "activities" = .arr (items.map .str) ∧ (∀ a ∈ items, a ∈ aiActivities) ∧
      notice = "Synthetic local publication pilot. Declared simulated AI activities: " ++ labelsOf items ++ ". " ++
        "Coverage is limited to this recorded local editing session. This editor invokes no external AI model. " ++
        "The origin of imported content and activity outside this session is unknown; this disclosure does not " ++
        "establish human-only authorship or complete AI provenance." := by
  unfold disclosureText at h
  obtain ⟨_, -, h⟩ := bind_ok h
  obtain ⟨items, hitems, h⟩ := bind_ok h
  obtain ⟨_, -, h⟩ := bind_ok h
  obtain ⟨hfound, hall, -⟩ := disclosedActivities_ok hitems
  exact ⟨items, stringItems_some hfound, hall, (Except.ok.inj h).symm⟩

/-- A notice determines the activities that it declares. -/
theorem disclosureText_binds {disclosure disclosure' : Json} {notice : String} (h : disclosureText disclosure = .ok notice)
    (h' : disclosureText disclosure' = .ok notice) : disclosure.item "activities" = disclosure'.item "activities" := by
  obtain ⟨items, hitem, hall, hnotice⟩ := disclosureText_ok h
  obtain ⟨items', hitem', hall', hnotice'⟩ := disclosureText_ok h'
  have hsame := hnotice.symm.trans hnotice'
  iterate 4 rw [String.append_left_inj] at hsame
  rw [String.append_right_inj] at hsame
  rw [hitem, hitem', labels_injective hall hall' hsame]

/-! ## The article -/

/-- Equal bytes show one document, revision and list of blocks and declare the same activities; and
    between the pieces of the template no byte is one of markup, of a quote or of a carriage return. -/
theorem render_html_binds (pk : Packages) :
    (∀ view disclosure view' disclosure' html, renderHtml pk view disclosure = .ok html →
      renderHtml pk view' disclosure' = .ok html →
      view.documentId = view'.documentId ∧ view.revisionId = view'.revisionId ∧ view.blocks = view'.blocks ∧
        disclosure.item "activities" = disclosure'.item "activities") ∧
    ∀ view disclosure html, renderHtml pk view disclosure = .ok html → ∃ notice,
      disclosureText disclosure = .ok notice ∧
        html = (articlePieces view notice).flatMap (fun p => encodeUtf8 p.html.toList) ∧
        ∀ s, .text s ∈ articlePieces view notice → ∀ b ∈ encodeUtf8 s.toList, ∀ c ∈ markup, b.toNat ≠ c.toNat := by
  refine ⟨fun view disclosure view' disclosure' html h h' => ?_, fun view disclosure html h => ?_⟩
  · obtain ⟨hid, hne, notice, hnotice, hhtml⟩ := renderHtml_ok h
    obtain ⟨hid', hne', notice', hnotice', hhtml'⟩ := renderHtml_ok h'
    have hchars := encodeUtf8_injective (hhtml.symm.trans hhtml')
    rw [article_pieces, article_pieces] at hchars
    obtain ⟨hd, hr, hb, rfl⟩ := article_cut hid hid' hne hne' hchars
    exact ⟨hd, hr, hb, disclosureText_binds hnotice hnotice'⟩
  · obtain ⟨hid, -, notice, hnotice, hhtml⟩ := renderHtml_ok h
    refine ⟨notice, hnotice, ?_, fun s hs b hb c hc he => ?_⟩
    · rw [hhtml, article_pieces, charsOf, encodeUtf8, List.flatMap_assoc]
      rfl
    · obtain ⟨t, ht⟩ := article_text hid hs
      rw [ht] at hb
      have hascii : ∀ c ∈ markup, c.toNat < 128 := by simp [markup]
      obtain ⟨d, hd, hn⟩ := mem_encodeUtf8 hb (he ▸ hascii c hc)
      obtain rfl : d = c := Char.ext (UInt32.toNat_inj.1 (hn.trans he))
      exact shown_safe t d hd hc

/-! ## A small instance -/

open Assessor (sampleWriter zeros sampleTime)

def sampleView : View where
  documentId := "d"
  revisionId := "r"
  blocks := [("b", "<\r")]
  observedActivities := []
  adopted := []
  sourceSha256 := zeros 64
  lineageSha256 := zeros 64
  observedAt := sampleTime

/-- The same article, of a snapshot with another digest. -/
def otherView : View := { sampleView with lineageSha256 := zeros 63 ++ "1" }

def sampleDisclosure : Json :=
  dict [("activities", .arr [.str "generation"]), ("scope", .str "recorded_local_session_only")]

theorem renderHtml_accepts {pk : Packages} {view : View} {disclosure : Json} {notice : String}
    (hview : checkView pk view = .ok ()) (hnotice : disclosureText disclosure = .ok notice)
    (hlength : (encodeUtf8 (articleHtml view notice).toList).length ≤ maxHtml) :
    renderHtml pk view disclosure = .ok (encodeUtf8 (articleHtml view notice).toList) := by
  unfold renderHtml
  rw [hview, hnotice]
  dsimp only [bind, Except.bind]
  rw [decide_eq_true hlength]
  rfl

theorem length_textChar_le (c : Char) : (textChar c).length ≤ 6 := by
  by_cases hc : c ∈ referenced
  · exact Delimited.forall_mem_of_all (by decide : (referenced.all fun c => decide ((textChar c).length ≤ 6)) = true) c hc
  · rw [textChar_plain hc, List.length_singleton]
    omega

theorem length_escapedText_le (s : String) : (escapedText s).length ≤ 6 * s.length := by
  rw [← String.length_toList, escapedText_toList, shown, ← String.length_toList]
  generalize s.toList = cs
  induction cs with
  | nil => exact Nat.le_refl _
  | cons c cs ih =>
    have hc := length_textChar_le c
    rw [List.flatMap_cons, List.length_append, List.length_cons]
    omega

/-- Fixed texts of lines of at most 120 characters. -/
theorem length_line_le {s : String} {cs : List Char} {k : ℕ} (hs : s.length ≤ 120 * k) (hcs : cs.length ≤ 120) :
    (s ++ String.ofList cs).length ≤ 120 * (k + 1) := by
  rw [String.length_append, String.length_ofList]
  omega

theorem length_first_le {cs : List Char} (hcs : cs.length ≤ 120) : (String.ofList cs).length ≤ 120 * 1 :=
  String.length_ofList.trans_le hcs

theorem htmlHead_length : htmlHead.length ≤ 120 * 8 := by
  delta htmlHead
  iterate 7 refine length_line_le ?_ (by decide)
  exact length_first_le (by decide)

theorem htmlTitled_length : htmlTitled.length ≤ 120 * 30 := by
  delta htmlTitled
  iterate 29 refine length_line_le ?_ (by decide)
  exact length_first_le (by decide)

theorem htmlIdentified_length : htmlIdentified.length ≤ 120 * 1 := length_first_le (by decide)

theorem htmlRevised_length : htmlRevised.length ≤ 120 * 3 := by
  delta htmlRevised
  iterate 2 refine length_line_le ?_ (by decide)
  exact length_first_le (by decide)

theorem htmlListed_length : htmlListed.length ≤ 120 * 5 := by
  delta htmlListed
  iterate 4 refine length_line_le ?_ (by decide)
  exact length_first_le (by decide)

theorem htmlNoticed_length : htmlNoticed.length ≤ 120 * 7 := by
  delta htmlNoticed
  iterate 6 refine length_line_le ?_ (by decide)
  exact length_first_le (by decide)

theorem sampleDisclosure_text : ∃ notice, disclosureText sampleDisclosure = .ok notice ∧ notice.length ≤ 120 * 6 := by
  have hitems : disclosedActivities (sampleDisclosure.item "activities") = .ok ["generation"] := by decide +kernel
  have hfields : exact sampleDisclosure ["activities", "scope"] = .ok () := by decide +kernel
  have hscope : Incident.require (sampleDisclosure.item "scope" = .str "recorded_local_session_only")
      "Unsupported disclosure scope" = .ok () := by decide +kernel
  unfold disclosureText
  rw [hfields, hitems, hscope]
  refine ⟨_, rfl, ?_⟩
  iterate 4 refine length_line_le ?_ (by decide)
  rw [String.length_append]
  exact Nat.add_le_add (length_first_le (by decide)) (by decide +kernel)

theorem sampleArticle_length {notice : String} (h : notice.length ≤ 120 * 6) :
    (articleHtml sampleView notice).length ≤ 20000 := by
  have hid : (escape sampleView.documentId).length ≤ 6 := by decide +kernel
  have hrev : (escape sampleView.revisionId).length ≤ 6 := by decide +kernel
  have hblocks : (String.intercalate "\n" (sampleView.blocks.map sectionHtml)).length ≤ 400 := by decide +kernel
  have hnotice := length_escapedText_le notice
  have h₁ := htmlHead_length
  have h₂ := htmlTitled_length
  have h₃ := htmlIdentified_length
  have h₄ := htmlRevised_length
  have h₅ := htmlListed_length
  have h₆ := htmlNoticed_length
  delta articleHtml
  simp only [String.length_append]
  omega

theorem sample_render_html_binds : ∃ html, renderHtml sampleWriter sampleView sampleDisclosure = .ok html ∧
    renderHtml sampleWriter otherView sampleDisclosure = .ok html ∧ sampleView.blocks = otherView.blocks ∧ ∃ notice, disclosureText sampleDisclosure = .ok notice ∧
      html = (articlePieces sampleView notice).flatMap (fun p => encodeUtf8 p.html.toList) := by
  obtain ⟨notice, hnotice, hlength⟩ := sampleDisclosure_text
  have hbytes : (encodeUtf8 (articleHtml sampleView notice).toList).length ≤ maxHtml := by
    refine (length_encodeUtf8_le _).trans ?_
    have harticle := sampleArticle_length hlength
    rw [String.length_toList, maxHtml]
    omega
  have hfirst : renderHtml sampleWriter sampleView sampleDisclosure =
      .ok (encodeUtf8 (articleHtml sampleView notice).toList) := renderHtml_accepts (by decide +kernel) hnotice hbytes
  have hsecond : renderHtml sampleWriter otherView sampleDisclosure =
      .ok (encodeUtf8 (articleHtml sampleView notice).toList) := renderHtml_accepts (by decide +kernel) hnotice hbytes
  obtain ⟨notice', hnotice', hhtml, -⟩ := (render_html_binds sampleWriter).2 _ _ _ hfirst
  obtain ⟨-, -, hblocks, -⟩ := (render_html_binds sampleWriter).1 _ _ _ _ _ hfirst hsecond
  exact ⟨_, hfirst, hsecond, hblocks, notice', hnotice', hhtml⟩

end VapEvidence.Publication
