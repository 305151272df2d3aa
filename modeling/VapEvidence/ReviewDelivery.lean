import VapEvidence.ReviewCommon

set_option autoImplicit false

/-!
# The tables of the review report

`delivery.py` of the incident review report: how recorded names and values are shown in
the cells of a Markdown table, and what a reader recovers from a row.
-/
namespace VapEvidence.Review
open Json Delimited

/-! ## Texts -/

/-- A character of `string.punctuation` -/
def isPunctuation (c : Char) : Bool :=
  (33 ≤ c.toNat && c.toNat ≤ 47) || (58 ≤ c.toNat && c.toNat ≤ 64) || (91 ≤ c.toNat && c.toNat ≤ 96) ||
    (123 ≤ c.toNat && c.toNat ≤ 126)

/-- A control character, a line separator or a mark of text direction. -/
def isHidden (c : Char) : Bool :=
  c.toNat < 32 || c.toNat = 127 || (0x2028 ≤ c.toNat && c.toNat ≤ 0x202e) || (0x2066 ≤ c.toNat && c.toNat ≤ 0x2069)

/-- `"&#" + str(n) + ";"` -/
def characterReference (n : ℕ) : List Char := '&' :: '#' :: (Nat.toDigits 10 n ++ [';'])

/-- `format(n, "04x")` of four digits -/
def hexFour (n : ℕ) : List Char := [hexDigit (n / 4096), hexDigit (n / 256 % 16), hexDigit (n / 16 % 16), hexDigit (n % 16)]

/-- `_escape` of a character -/
def escapeCharacter (c : Char) : List Char :=
  if c = '\r' then characterReference 92 ++ ['r']
  else if c = '\n' then characterReference 92 ++ ['n']
  else if c = '\t' then characterReference 92 ++ ['t']
  else if isHidden c then characterReference 92 ++ 'u' :: hexFour c.toNat
  else if isPunctuation c then characterReference c.toNat
  else [c]

/-- `_escape` -/
def escape (s : List Char) : String := String.ofList (s.flatMap escapeCharacter)

/-- `text.rstrip("\n")` -/
def stripNewlines (s : List Char) : List Char := (s.reverse.dropWhile (· = '\n')).reverse

/-- `_value` -/
def value (rt : Runtime) (v : Json) : Run String := do return escape (stripNewlines (← jsonText rt v))

/-! ## Cells -/

/-- What a cell of a table may hold. -/
def OneCell (s : List Char) : Prop := '|' ∉ s ∧ '\n' ∉ s ∧ '\r' ∉ s

theorem OneCell.append {s t : List Char} (hs : OneCell s) (ht : OneCell t) : OneCell (s ++ t) := by
  obtain ⟨hb, hn, hr⟩ := hs
  obtain ⟨hb', hn', hr'⟩ := ht
  simp only [OneCell, List.mem_append, not_or]
  exact ⟨⟨hb, hb'⟩, ⟨hn, hn'⟩, ⟨hr, hr'⟩⟩

theorem oneCell_cons {c : Char} {s : List Char} (hc : c ∉ ['|', '\n', '\r']) (hs : OneCell s) : OneCell (c :: s) := by
  simp only [List.mem_cons, List.not_mem_nil, or_false, not_or] at hc
  obtain ⟨hb, hn, hr⟩ := hs
  simp only [OneCell, List.mem_cons, not_or]
  exact ⟨⟨Ne.symm hc.1, hb⟩, ⟨Ne.symm hc.2.1, hn⟩, ⟨Ne.symm hc.2.2, hr⟩⟩

theorem oneCell_nil : OneCell [] := ⟨List.not_mem_nil, List.not_mem_nil, List.not_mem_nil⟩

theorem oneCell_digits (n : ℕ) : OneCell (Nat.toDigits 10 n) := by
  have hdigit (c : Char) (hc : c.isDigit = false) : c ∉ Nat.toDigits 10 n := fun h => by
    have hd := toDigits_isDigit n c h
    rw [hc] at hd
    cases hd
  exact ⟨hdigit _ (by decide), hdigit _ (by decide), hdigit _ (by decide)⟩

/-! ## Tables -/

/-- `letter + str(n).zfill(4)` -/
def numbered (letter : Char) (n : ℕ) : String :=
  String.ofList (letter :: (List.replicate (4 - (Nat.toDigits 10 n).length) '0' ++ Nat.toDigits 10 n))

theorem numbered_oneCell {letter : Char} (h : letter ∉ ['|', '\n', '\r']) (n : ℕ) : OneCell (numbered letter n).toList := by
  have hzeros (k : ℕ) : OneCell (List.replicate k '0') := by
    refine ⟨?_, ?_, ?_⟩ <;> exact fun hm => absurd (List.eq_of_mem_replicate hm) (by decide)
  rw [numbered, String.toList_ofList]
  exact oneCell_cons h ((hzeros _).append (oneCell_digits n))

/-- `_Sources`: the names of the files and places that have been referred to. -/
structure Sources where
  entries : List (Source × String)
  files : List ((String × String) × String)
  named : ∀ e ∈ entries, OneCell e.2.toList

def Sources.new : Sources := ⟨[], [], fun _ h => absurd h List.not_mem_nil⟩

/-- `_Sources.add` -/
def Sources.add (s : Sources) (source : Source) : String × Sources :=
  let file := (source.file, source.sha256)
  let files := if (s.files.lookup file).isSome then s.files else s.files ++ [(file, numbered 'F' (s.files.length + 1))]
  match s.entries.lookup source with
  | some name => (name, { s with files })
  | none =>
    let name := numbered 'S' (s.entries.length + 1)
    (name, {
      entries := s.entries ++ [(source, name)]
      files
      named := by
        rw [List.forall_mem_append, List.forall_mem_singleton]
        exact ⟨s.named, numbered_oneCell (by decide) _⟩ })

theorem Sources.add_oneCell (s : Sources) (source : Source) : OneCell (s.add source).1.toList := by
  unfold Sources.add
  dsimp only
  split
  · next name hname =>
    obtain ⟨l₁, l₂, hl, -⟩ := List.lookup_eq_some_iff.1 hname
    exact s.named (source, name) (by simp [hl])
  · exact numbered_oneCell (by decide) _

/-- One line of a table. -/
def tableRow (cells : List String) : String := "| " ++ String.intercalate " | " cells ++ " |"

/-- `_table` -/
def table (lines headings : List String) (rows : List (List String)) : List String :=
  lines ++ [tableRow headings, tableRow (headings.map fun _ => "---")] ++ rows.map tableRow ++ [""]

/-- A recorded fact. -/
structure Fact where
  name : String
  value : Json
  source : Source

/-- The headings of a table of facts. -/
structure Labels where
  field : String
  value : String
  source : String

section
variable (rt : Runtime)

/-- The rows of `_facts`. -/
def factRows : List Fact → Sources → Run (List (List String) × Sources)
  | [], sources => .ok ([], sources)
  | fact :: facts, sources => do
    let shown ← value rt fact.value
    let (name, sources) := sources.add fact.source
    let (rows, sources) ← factRows facts sources
    return ([escape fact.name.toList, shown, name] :: rows, sources)

/-- `_facts` -/
def facts (lines : List String) (recorded : List Fact) (labels : Labels) (sources : Sources) :
    Run (List String × Sources) := do
  let (rows, sources) ← factRows rt recorded sources
  return (table lines [labels.field, labels.value, labels.source] rows, sources)

end

/-! ## Inert texts -/

/-- A text whose only punctuation is in complete references and that has no line end. -/
inductive Inert : List Char → Prop
  | nil : Inert []
  | plain {c : Char} {s : List Char} : isPunctuation c = false → c ≠ '\n' → c ≠ '\r' → Inert s → Inert (c :: s)
  | reference {n : ℕ} {s : List Char} : Inert s → Inert (characterReference n ++ s)

theorem Inert.append {s t : List Char} (hs : Inert s) (ht : Inert t) : Inert (s ++ t) := by
  induction hs with
  | nil => exact ht
  | plain hp hn hr _ ih => exact .plain hp hn hr ih
  | reference _ ih =>
    rw [List.append_assoc]
    exact .reference ih

theorem hexFour_plain (n : ℕ) (hn : n < 65536) : Inert (hexFour n) := by
  have hdigit : ∀ d < 16, isPunctuation (hexDigit d) = false ∧ hexDigit d ≠ '\n' ∧ hexDigit d ≠ '\r' := by decide
  have hplain {d : ℕ} (hd : d < 16) {s : List Char} (h : Inert s) : Inert (hexDigit d :: s) :=
    .plain (hdigit d hd).1 (hdigit d hd).2.1 (hdigit d hd).2.2 h
  exact hplain (by omega) (hplain (by omega) (hplain (by omega) (hplain (by omega) .nil)))

theorem escapeCharacter_inert (c : Char) : Inert (escapeCharacter c) := by
  unfold escapeCharacter
  split_ifs with hr hn ht hh hp
  · exact .reference (.plain (by decide) (by decide) (by decide) .nil)
  · exact .reference (.plain (by decide) (by decide) (by decide) .nil)
  · exact .reference (.plain (by decide) (by decide) (by decide) .nil)
  · refine .reference (.plain (by decide) (by decide) (by decide) (hexFour_plain _ ?_))
    simp only [isHidden, Bool.or_eq_true, Bool.and_eq_true, decide_eq_true_eq] at hh
    omega
  · have h := Inert.reference (n := c.toNat) .nil
    rwa [List.append_nil] at h
  · exact .plain (Bool.eq_false_iff.2 hp) hn hr .nil

theorem escape_inert (s : List Char) : Inert (escape s).toList := by
  rw [escape, String.toList_ofList]
  induction s with
  | nil => exact .nil
  | cons c s ih => exact (escapeCharacter_inert c).append ih

theorem Inert.oneCell {s : List Char} (h : Inert s) : OneCell s := by
  induction h with
  | nil => exact oneCell_nil
  | plain hp hn hr _ ih =>
    refine oneCell_cons ?_ ih
    simp only [List.mem_cons, List.not_mem_nil, or_false, not_or]
    refine ⟨?_, hn, hr⟩
    rintro rfl
    cases hp
  | reference _ ih =>
    refine (oneCell_cons (by simp) (oneCell_cons (by simp) ((oneCell_digits _).append ?_))).append ih
    exact oneCell_cons (by simp) oneCell_nil

/-! ## Values -/

theorem escapeCharacter_ascii {c : Char} (h : isAsciiText c = true) :
    escapeCharacter c = if isPunctuation c then characterReference c.toNat else [c] := by
  rw [isAsciiText, Bool.and_eq_true, decide_eq_true_eq, decide_eq_true_eq] at h
  have hne (d : Char) (hd : d.toNat < 32) : c ≠ d := by
    rintro rfl
    omega
  have hhidden : ¬ isHidden c = true := by
    simp only [isHidden, Bool.or_eq_true, Bool.and_eq_true, decide_eq_true_eq]
    omega
  rw [escapeCharacter, if_neg (hne _ (by decide)), if_neg (hne _ (by decide)), if_neg (hne _ (by decide)), if_neg hhidden]

theorem toDigits_injective {m n : ℕ} (h : Nat.toDigits 10 m = Nat.toDigits 10 n) : m = n := by
  rw [← @Nat.ofDigitChars_ten_toDigits m, h, Nat.ofDigitChars_ten_toDigits]

theorem reference_cut {m n : ℕ} {s t : List Char} (h : characterReference m ++ s = characterReference n ++ t) : m = n := by
  simp only [characterReference, List.cons_append, List.append_assoc, List.nil_append, List.cons.injEq, true_and] at h
  have hdigit (k : ℕ) : ';' ∉ Nat.toDigits 10 k := fun hm => absurd (toDigits_isDigit k _ hm) (by decide)
  exact toDigits_injective (cut_unique (hdigit m) (hdigit n) h).1

theorem escapeCharacter_prefixFree : PrefixFree (fun c => isAsciiText c = true) escapeCharacter := by
  refine ⟨fun c hc h => ?_, fun a b ha hb s t h => ?_⟩
  · rw [escapeCharacter_ascii hc] at h
    split_ifs at h
    all_goals cases h
  · have hamp (d : Char) (hd : ¬ isPunctuation d = true) : d ≠ '&' := by
      rintro rfl
      exact hd rfl
    rw [escapeCharacter_ascii ha, escapeCharacter_ascii hb] at h
    split_ifs at h with hpa hpb hpb
    · exact Char.ext (UInt32.toNat_inj.1 (reference_cut h))
    · exact absurd (List.cons.inj h).1.symm (hamp b hpb)
    · exact absurd (List.cons.inj h).1 (hamp a hpa)
    · exact (List.cons.inj h).1

mutual
theorem bounded_finite : ∀ (v : Json) (depth : ℕ) (u : Unit), bounded depth v = .ok u → Finite v
  | .null, _, _, _ => trivial
  | .bool _, _, _, _ => trivial
  | .int _, _, _, _ => trivial
  | .str _, _, _, _ => trivial
  | .float b, depth, u, h => by
    rw [bounded] at h
    obtain ⟨_, -, h⟩ := bind_ok h
    exact require_ok h
  | .arr xs, depth, u, h => by
    rw [bounded] at h
    obtain ⟨_, -, h⟩ := bind_ok h
    obtain ⟨_, -, h⟩ := bind_ok h
    exact boundedElems_finite xs _ u h
  | .obj ms, depth, u, h => by
    rw [bounded] at h
    obtain ⟨_, -, h⟩ := bind_ok h
    obtain ⟨_, -, h⟩ := bind_ok h
    exact boundedMembers_finite ms _ u h
theorem boundedElems_finite : ∀ (xs : List Json) (depth : ℕ) (u : Unit), boundedElems depth xs = .ok u → FiniteElems xs
  | [], _, _, _ => trivial
  | x :: xs, depth, u, h => by
    rw [boundedElems] at h
    obtain ⟨_, hx, h⟩ := bind_ok h
    exact ⟨bounded_finite x _ _ hx, boundedElems_finite xs _ u h⟩
theorem boundedMembers_finite : ∀ (ms : List (String × Json)) (depth : ℕ) (u : Unit),
    boundedMembers depth ms = .ok u → FiniteMembers ms
  | [], _, _, _ => trivial
  | (k, x) :: ms, depth, u, h => by
    rw [boundedMembers] at h
    obtain ⟨_, -, h⟩ := bind_ok h
    obtain ⟨_, hx, h⟩ := bind_ok h
    exact ⟨bounded_finite x _ _ hx, boundedMembers_finite ms _ u h⟩
end

theorem stripNewlines_line {s : List Char} (h : '\n' ∉ s) : stripNewlines (s ++ ['\n']) = s := by
  have hdrop : s.reverse.dropWhile (· = '\n') = s.reverse := by
    cases hr : s.reverse with
    | nil => rfl
    | cons c t =>
      have hc : c ≠ '\n' := by
        rintro rfl
        exact h (List.mem_reverse.1 (hr ▸ List.mem_cons_self))
      rw [List.dropWhile_cons_of_neg (by simpa using hc)]
  rw [stripNewlines, List.reverse_append, List.reverse_singleton, List.singleton_append,
    List.dropWhile_cons_of_pos (by simp), hdrop, List.reverse_reverse]

section
variable {rt : Runtime} (hrepr : ReprReads rt.floatRepr rt.floatOf)
include hrepr

/-- What is shown of a value within the bounds: the references of its text. -/
theorem value_ok {v : Json} {s : String} : value rt v = .ok s ↔
    (∃ u, bounded 0 v = .ok u) ∧ convertible v = true ∧ s = escape (dumps rt.floatRepr true v) := by
  have hstrip {u : Unit} (hb : bounded 0 v = .ok u) : stripNewlines (dumps rt.floatRepr true v ++ ['\n']) = dumps rt.floatRepr true v :=
    stripNewlines_line fun hn => absurd (dumps_isAsciiText hrepr v (bounded_finite v 0 _ hb) _ hn) (by decide)
  constructor
  · intro h
    obtain ⟨text, htext, h⟩ := bind_ok h
    unfold jsonText at htext
    split at htext
    · cases htext
    · next u hb =>
      split_ifs at htext with hc
      cases htext
      rw [hstrip hb] at h
      exact ⟨⟨u, hb⟩, hc, (Except.ok.inj h).symm⟩
  · rintro ⟨⟨u, hb⟩, hc, rfl⟩
    rw [value, jsonText, hb]
    dsimp only
    rw [if_pos hc]
    change Except.ok (escape (stripNewlines _)) = _
    rw [hstrip hb]

theorem value_injective {v w : Json} {s : String} (hv : value rt v = .ok s) (hw : value rt w = .ok s) : v = w := by
  obtain ⟨⟨u, hbv⟩, -, rfl⟩ := (value_ok hrepr).1 hv
  obtain ⟨⟨u', hbw⟩, -, he⟩ := (value_ok hrepr).1 hw
  have hfv := bounded_finite v 0 _ hbv
  have hfw := bounded_finite w 0 _ hbw
  have hchars := congrArg String.toList he
  rw [escape, escape, String.toList_ofList, String.toList_ofList] at hchars
  exact dumps_injective hrepr true hfv hfw (escapeCharacter_prefixFree.flatMap_injective (dumps_isAsciiText hrepr v hfv)
    (dumps_isAsciiText hrepr w hfw) hchars)

theorem value_inert {v : Json} {s : String} (h : value rt v = .ok s) : Inert s.toList := by
  obtain ⟨-, -, rfl⟩ := (value_ok hrepr).1 h
  exact escape_inert _

end

/-! ## Rows -/

/-- A line that reads as these cells: on one line, and between its bars exactly the cells, each with a
    space on both sides. -/
def Reads (line : String) (cells : List String) : Prop :=
  '\n' ∉ line.toList ∧ '\r' ∉ line.toList ∧
    line.toList.splitOn '|' = [] :: (cells.map (fun c => ' ' :: (c.toList ++ [' '])) ++ [[]])

theorem splitOn_barred {parts : List (List Char)} (h : ∀ w ∈ parts, '|' ∉ w) :
    (parts.flatMap fun w => w ++ ['|']).splitOn '|' = parts ++ [[]] := by
  induction parts with
  | nil => rfl
  | cons w parts ih =>
    rw [List.forall_mem_cons] at h
    rw [List.flatMap_cons, List.append_assoc, List.singleton_append, List.splitOn_append_cons_self_of_not_mem h.1, ih h.2,
      List.cons_append]

theorem intercalate_barred (c : String) (cs : List String) :
    ' ' :: ((String.intercalate " | " (c :: cs)).toList ++ [' ', '|']) =
      ((c :: cs).map fun c => ' ' :: (c.toList ++ [' '])).flatMap fun w => w ++ ['|'] := by
  induction cs generalizing c with
  | nil => rw [String.intercalate_singleton, List.map_singleton, List.flatMap_singleton, List.cons_append, List.append_assoc]; rfl
  | cons d cs ih =>
    have hnext := ih d
    rw [List.map_cons, List.flatMap_cons, ← hnext, String.intercalate_cons_cons, String.toList_append, String.toList_append]
    have hsep : " | ".toList = [' ', '|', ' '] := rfl
    simp only [hsep, List.cons_append, List.append_assoc, List.nil_append]

theorem tableRow_toList (c : String) (cs : List String) : (tableRow (c :: cs)).toList =
    '|' :: ((c :: cs).map fun c => ' ' :: (c.toList ++ [' '])).flatMap fun w => w ++ ['|'] := by
  rw [← intercalate_barred, tableRow, String.toList_append, String.toList_append]
  rfl

/-- A row of cells reads as these cells. -/
theorem tableRow_reads {cells : List String} (hne : cells ≠ []) (h : ∀ c ∈ cells, OneCell c.toList) :
    Reads (tableRow cells) cells := by
  obtain ⟨c, cs, rfl⟩ := List.exists_cons_of_ne_nil hne
  have hpart : ∀ w ∈ (c :: cs).map fun c => ' ' :: (c.toList ++ [' ']), OneCell w := by
    intro w hw
    obtain ⟨d, hd, rfl⟩ := List.mem_map.1 hw
    exact oneCell_cons (by simp) ((h d hd).append (oneCell_cons (by simp) oneCell_nil))
  have hend {d : Char} (hd : d ≠ '|') (hw : ∀ w ∈ (c :: cs).map fun c => ' ' :: (c.toList ++ [' ']), d ∉ w) :
      d ∉ (tableRow (c :: cs)).toList := by
    rw [tableRow_toList]
    simp only [List.mem_cons, List.mem_flatMap, List.mem_append, List.not_mem_nil, or_false, not_or, not_exists, not_and]
    refine ⟨hd, fun w hm => ⟨hw w hm, hd⟩⟩
  refine ⟨hend (by decide) fun w hw => (hpart w hw).2.1, hend (by decide) fun w hw => (hpart w hw).2.2, ?_⟩
  have hsplit := splitOn_barred fun w hw => (hpart w hw).1
  rw [tableRow_toList, ← List.nil_append ('|' :: _), List.splitOn_append_cons_self_of_not_mem List.not_mem_nil, hsplit]

section
variable {rt : Runtime} (hrepr : ReprReads rt.floatRepr rt.floatOf)
include hrepr

theorem factRows_read {recorded : List Fact} {sources sources' : Sources} {rows : List (List String)}
    (h : factRows rt recorded sources = .ok (rows, sources')) : List.Forall₂ (fun fact row => ∃ shown name,
      value rt fact.value = .ok shown ∧ row = [escape fact.name.toList, shown, name] ∧ Reads (tableRow row) row)
      recorded rows := by
  induction recorded generalizing sources rows with
  | nil =>
    cases h
    exact .nil
  | cons fact recorded ih =>
    rw [factRows] at h
    obtain ⟨shown, hshown, h⟩ := bind_ok h
    dsimp only at h
    obtain ⟨⟨rest, last⟩, hrest, h⟩ := bind_ok h
    cases h
    refine .cons ⟨shown, _, hshown, rfl, tableRow_reads (List.cons_ne_nil _ _) ?_⟩ (ih hrest)
    simp only [List.forall_mem_cons]
    exact ⟨(escape_inert _).oneCell, (value_inert hrepr hshown).oneCell, sources.add_oneCell _,
      fun _ h => absurd h List.not_mem_nil⟩

/-- What is shown of a value holds no line end and no punctuation outside complete references and
    determines the value; so rows of texts without bars and line ends, and those of recorded facts, are
    on one line each with one cell for each heading. -/
theorem value_presents :
    (∀ v, (∃ s, value rt v = .ok s) ↔ (∃ u, bounded 0 v = .ok u) ∧ convertible v = true) ∧
    (∀ v s, value rt v = .ok s → Inert s.toList) ∧
    (∀ v w s, value rt v = .ok s → value rt w = .ok s → v = w) ∧
    (∀ lines headings rows, headings ≠ [] →
      (∀ row ∈ rows, row.length = headings.length ∧ ∀ c ∈ row, OneCell c.toList) → ∀ row ∈ rows,
        tableRow row ∈ table lines headings rows ∧ Reads (tableRow row) row ∧ row.length = headings.length) ∧
    ∀ lines recorded labels sources lines' sources', facts rt lines recorded labels sources = .ok (lines', sources') →
      ∃ rows, lines' = table lines [labels.field, labels.value, labels.source] rows ∧
        List.Forall₂ (fun fact row => ∃ shown name, value rt fact.value = .ok shown ∧
          row = [escape fact.name.toList, shown, name] ∧ Reads (tableRow row) row) recorded rows := by
  refine ⟨fun v => ⟨?_, ?_⟩, fun v s h => value_inert hrepr h, fun v w s hv hw => value_injective hrepr hv hw, ?_, ?_⟩
  · rintro ⟨s, h⟩
    obtain ⟨hb, hc, -⟩ := (value_ok hrepr).1 h
    exact ⟨hb, hc⟩
  · rintro ⟨hb, hc⟩
    exact ⟨_, (value_ok hrepr).2 ⟨hb, hc, rfl⟩⟩
  · intro lines headings rows hne hrows row hrow
    obtain ⟨hlength, hcells⟩ := hrows row hrow
    have hrowne : row ≠ [] := by
      rintro rfl
      exact hne (List.length_eq_zero_iff.1 hlength.symm)
    refine ⟨?_, tableRow_reads hrowne hcells, hlength⟩
    rw [table]
    exact List.mem_append_left _ (List.mem_append_right _ (List.mem_map_of_mem hrow))
  · intro lines recorded labels sources lines' sources' h
    obtain ⟨⟨rows, last⟩, hrows, h⟩ := bind_ok h
    cases h
    exact ⟨rows, rfl, factRows_read hrepr hrows⟩

end

/-! ## A small instance -/

/-- A runtime that writes a float by its bits, as `repr` does for zero. -/
def sampleRuntime : Runtime where
  sha256 _ := []
  floatRepr b := Nat.toDigits 10 b.toNat ++ ['.', '0']
  floatOf t := UInt64.ofNat (Nat.ofDigitChars 10 (t.takeWhile Char.isDigit) 0)

theorem sampleRuntime_reads : ReprReads sampleRuntime.floatRepr sampleRuntime.floatOf where
  reads b _ := by
    change UInt64.ofNat (Nat.ofDigitChars 10 ((Nat.toDigits 10 b.toNat ++ ['.', '0']).takeWhile Char.isDigit) 0) = b
    rw [List.takeWhile_append_of_pos (toDigits_isDigit b.toNat), List.takeWhile_cons_of_neg (by decide), List.append_nil,
      Nat.ofDigitChars_ten_toDigits, UInt64.ofNat_toNat]
  number b _ := by
    refine List.all_eq_true.2 fun c hc => ?_
    rcases List.mem_append.1 hc with hc | hc
    · rw [isNumberChar, toDigits_isDigit _ c hc, Bool.true_or]
    · have hmark : ∀ c ∈ ['.', '0'], isNumberChar c = true := Delimited.forall_mem_of_all (by decide)
      exact hmark c hc
  marked b _ := ⟨'.', List.mem_append_right _ List.mem_cons_self, Or.inl rfl⟩

def sampleValue : Json := .arr [.float 0, .str "null", .null, .int 1, .arr [], .obj []]

theorem sample_value_presents : ∃ s, value sampleRuntime sampleValue = .ok s ∧ Inert s.toList ∧
    ∀ w, value sampleRuntime w = .ok s → w = sampleValue := by
  obtain ⟨hshown, hinert, hbinds, -⟩ := value_presents sampleRuntime_reads
  obtain ⟨s, hs⟩ := (hshown sampleValue).2 ⟨⟨(), by decide +kernel⟩, by decide +kernel⟩
  exact ⟨s, hs, hinert _ _ hs, fun w hw => hbinds _ _ _ hw hs⟩

end VapEvidence.Review
