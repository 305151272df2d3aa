import VapEvidence.ReviewDelivery

set_option autoImplicit false

/-!
# Frames and their pointers

`projection.py` of the incident review report: the pointers of recorded fields, what they
resolve to, and the walk to an assessor frame.
-/
namespace VapEvidence.Review
open Json Delimited

/-! ## Paths -/

/-- A key of an object or an index of a list. -/
inductive Token
  | key (name : String)
  | index (n : ℕ)
  deriving DecidableEq

/-- `str(part)` -/
def Token.text : Token → List Char
  | .key name => name.toList
  | .index n => Nat.toDigits 10 n

/-- The element under a token. -/
def step (value : Json) (token : Token) : Option Json :=
  match value, token with
  | .obj ms, .key name => ms.lookup name
  | .arr xs, .index n => xs[n]?
  | _, _ => none

/-- The element at a path. -/
def elementAt (value : Json) (path : List Token) : Option Json := path.foldlM step value

/-- `part.replace("~", "~0").replace("/", "~1")` -/
def escapePart (part : List Char) : List Char :=
  (part.flatMap fun c => if c = '~' then ['~', '0'] else [c]).flatMap fun c => if c = '/' then ['~', '1'] else [c]

/-- The pointer of a path: its escaped tokens, each behind a slash. -/
def pointerOf (path : List Token) : List Char := path.flatMap fun token => '/' :: escapePart token.text

/-! ## Frames -/

/-- `_Sources` over the owned archive files; what it keeps of a parsed file is a function of the file. -/
structure Archive where
  rt : Runtime
  files : Files

/-- `_Sources.document` -/
def Archive.document (a : Archive) (file : String) : Run Json := do
  let _ ← reference a.rt a.files file ""
  match a.files.lookup file with
  | some raw => strictJson a.rt raw
  | none => .error "Source reference is outside the captured evidence"

/-- `_Sources.value` -/
def Archive.value (a : Archive) (file : String) (pointer : List Char) : Run Json := do
  resolvePointer (← a.document file) (String.ofList pointer)

/-- `_Sources.reference` -/
def Archive.reference (a : Archive) (file : String) (pointer : List Char) : Run Source := do
  let _ ← a.value file pointer
  let identity ← Review.reference a.rt a.files file ""
  return { identity with pointer := String.ofList pointer }

/-- `_Sources.fact` -/
def Archive.fact (a : Archive) (file : String) (pointer : List Char) (name : String) : Run Fact := do
  let value ← a.value file pointer
  return { name, value, source := ← a.reference file pointer }

/-- `absence_reason` -/
inductive Absence
  | missingField
  | nullContainer
  deriving DecidableEq

/-- What a frame shows: its facts, or why there is none. -/
inductive Availability
  | recorded (evidenceIntegrity assessments findings : Fact)
  | frameNotRecorded (absence : Absence)

/-- A frame of the report. -/
structure Frame where
  operationIndex : ℕ
  phase : String
  source : Source
  availability : Availability

/-- The loop of `_frame`: the value reached, the pointer to it and why the path goes no further. -/
def walk : List Token → Json → List Char → Run (Json × List Char × Option Absence)
  | [], current, pointer => .ok (current, pointer, none)
  | token :: path, current, pointer =>
    match current with
    | .null => .ok (.null, pointer, some .nullContainer)
    | .obj ms =>
      match step (.obj ms) token with
      | none => .ok (.obj ms, pointer, some .missingField)
      | some value => walk path value (pointer ++ '/' :: escapePart token.text)
    | .arr xs =>
      match step (.arr xs) token with
      | none => .error "An assessor frame path traverses an unsupported value"
      | some value => walk path value (pointer ++ '/' :: escapePart token.text)
    | _ => .error "An assessor frame path traverses an unsupported value"

/-- `_frame` -/
def frame (a : Archive) (file : String) (path : List Token) (operationIndex : ℕ) (phase : String) : Run Frame := do
  let (current, pointer, absent) ← walk path (← a.document file) []
  match absent.orElse (fun _ => if current = .null then some .nullContainer else none) with
  | some absence => return ⟨operationIndex, phase, ← a.reference file pointer, .frameNotRecorded absence⟩
  | none => do
    require current.isDict "A recorded assessor frame must be an object"
    let source ← a.reference file pointer
    let evidenceIntegrity ← a.fact file (pointer ++ "/evidence_integrity".toList) "evidence_integrity"
    let assessments ← a.fact file (pointer ++ "/assessments".toList) "assessments"
    let findings ← a.fact file (pointer ++ "/findings".toList) "findings"
    return ⟨operationIndex, phase, source, .recorded evidenceIntegrity assessments findings⟩

/-! ## Escapes -/

def escapeTilde (part : List Char) : List Char := part.flatMap fun c => if c = '~' then ['~', '0'] else [c]

/-- `_escape` of a character. -/
def escapeOne (c : Char) : List Char := if c = '~' then ['~', '0'] else if c = '/' then ['~', '1'] else [c]

theorem escapePart_eq (part : List Char) : escapePart part = part.flatMap escapeOne := by
  rw [escapePart, List.flatMap_assoc]
  refine List.flatMap_congr fun c _ => ?_
  by_cases ht : c = '~'
  · rw [ht]
    rfl
  · rw [if_neg ht, escapeOne, if_neg ht, List.flatMap_singleton]

theorem escapePart_cons (c : Char) (part : List Char) : escapePart (c :: part) = escapeOne c ++ escapePart part := by
  rw [escapePart_eq, escapePart_eq, List.flatMap_cons]

theorem slash_escapePart (part : List Char) : '/' ∉ escapePart part := by
  induction part with
  | nil => exact List.not_mem_nil
  | cons c part ih =>
    rw [escapePart_cons, List.mem_append, escapeOne]
    rintro (h | h)
    · split_ifs at h with ht hs
      · revert h
        decide
      · revert h
        decide
      · exact hs (List.mem_singleton.1 h).symm
    · exact ih h

theorem badEscape_escapePart (part : List Char) : badEscape (escapePart part) = false := by
  induction part with
  | nil => rfl
  | cons c part ih =>
    rw [escapePart_cons, escapeOne]
    split_ifs with ht hs
    · exact ih
    · exact ih
    · rw [List.singleton_append, badEscape, ih, Bool.or_false, decide_eq_false ht]
      · rintro s rfl
        exact absurd rfl ht
      · rintro s rfl
        exact absurd rfl ht

theorem replaceTilde_plain {c : Char} (h : c ≠ '~') (mark : Char) (new s : List Char) :
    replaceTilde mark new (c :: s) = c :: replaceTilde mark new s := by
  rw [replaceTilde]
  rintro d t rfl
  exact absurd rfl h

theorem unescape_slash (part : List Char) : replaceTilde '1' ['/'] (escapePart part) = escapeTilde part := by
  induction part with
  | nil => rfl
  | cons c part ih =>
    rw [escapePart_cons, escapeTilde, List.flatMap_cons, ← escapeTilde, ← ih, escapeOne]
    by_cases ht : c = '~'
    · rw [if_pos ht, if_pos ht, List.cons_append, List.cons_append, List.nil_append, replaceTilde, if_neg (by decide),
        replaceTilde_plain (by decide)]
      rfl
    · rw [if_neg ht, if_neg ht]
      by_cases hs : c = '/'
      · rw [if_pos hs, List.cons_append, List.cons_append, List.nil_append, replaceTilde, if_pos rfl, hs]
      · rw [if_neg hs, List.singleton_append, replaceTilde_plain ht, List.singleton_append]

theorem unescape_tilde (part : List Char) : replaceTilde '0' ['~'] (escapeTilde part) = part := by
  induction part with
  | nil => rfl
  | cons c part ih =>
    rw [escapeTilde, List.flatMap_cons, ← escapeTilde]
    by_cases ht : c = '~'
    · rw [if_pos ht, List.cons_append, List.cons_append, List.nil_append, replaceTilde, if_pos rfl, ih, ht]
      rfl
    · rw [if_neg ht, List.singleton_append, replaceTilde_plain ht, ih]

/-- Unescaping gives the token back. -/
theorem unescape_escapePart (part : List Char) : unescapePart (escapePart part) = part := by
  rw [unescapePart, unescape_slash, unescape_tilde]

theorem escapePart_injective {a b : List Char} (h : escapePart a = escapePart b) : a = b := by
  rw [← unescape_escapePart a, h, unescape_escapePart]

/-! ## Resolving -/

theorem splitSlash_pointer (token : Token) (path : List Token) :
    splitSlash (escapePart token.text ++ pointerOf path) = (token :: path).map fun t => escapePart t.text := by
  induction path generalizing token with
  | nil => exact (congrArg splitSlash (List.append_nil _)).trans (List.splitOn_eq_singleton (slash_escapePart _))
  | cons next path ih =>
    rw [pointerOf, List.flatMap_cons, ← pointerOf, List.cons_append, splitSlash,
      List.splitOn_append_cons_self_of_not_mem (slash_escapePart _), ← splitSlash, ih next, List.map_cons, List.map_cons, List.map_cons]

theorem isIndex_toDigits (n : ℕ) : isIndex (Nat.toDigits 10 n) = true := by
  rcases Nat.eq_zero_or_pos n with rfl | hn
  · decide
  · obtain ⟨d, ds, hd, h0⟩ := toDigits_head n hn
    have hdigit := toDigits_isDigit n
    rw [hd, List.forall_mem_cons] at hdigit
    obtain ⟨hfirst, hrest⟩ := hdigit
    rw [hd, isIndex, Bool.and_eq_true, Bool.and_eq_true, decide_eq_true_eq, decide_eq_true_eq, List.all_eq_true]
    · rw [Char.isDigit_iff_toNat] at hfirst
      have hne : d.toNat ≠ 48 := fun he => h0 (Char.ext (UInt32.toNat_inj.1 he))
      have hzero : '0'.toNat = 48 := rfl
      have hone : '1'.toNat = 49 := rfl
      refine ⟨⟨?_, ?_⟩, hrest⟩
      · change '1'.toNat ≤ d.toNat
        omega
      · exact hfirst.2
    · rintro rfl -
      exact h0 rfl

theorem resolvePart_escaped (value : Json) (part : List Char) : resolvePart value (escapePart part) =
    match value with
    | .obj ms =>
      match ms.lookup (String.ofList part) with
      | some x => .ok x
      | none => .error "JSON Pointer refers to a missing field"
    | .arr xs =>
      if !isIndex part || 6 < part.length then .error "JSON Pointer refers to a missing index"
      else
        match xs[Nat.ofDigitChars 10 part 0]? with
        | some x => .ok x
        | none => .error "JSON Pointer refers to a missing index"
    | _ => .error "JSON Pointer traverses a scalar" := by
  unfold resolvePart
  rw [badEscape_escapePart, unescape_escapePart]
  rfl

/-- The token of an element leads to it. -/
theorem resolvePart_step {value element : Json} {token : Token} (h : step value token = some element)
    (hindex : ∀ n, token = .index n → n < 10 ^ 6) : resolvePart value (escapePart token.text) = .ok element := by
  rw [resolvePart_escaped]
  cases value with
  | obj ms =>
    cases token with
    | key name =>
      change ms.lookup name = some element at h
      dsimp only [Token.text]
      rw [String.ofList_toList, h]
    | index n => cases h
  | arr xs =>
    cases token with
    | key name => cases h
    | index n =>
      change xs[n]? = some element at h
      have hlength : (Nat.toDigits 10 n).length ≤ 6 :=
        (Nat.length_toDigits_le_iff (by decide) (by decide)).2 (hindex n rfl)
      have hgood : (!isIndex (Token.index n).text || decide (6 < (Token.index n).text.length)) = false := by
        change (!isIndex (Nat.toDigits 10 n) || decide (6 < (Nat.toDigits 10 n).length)) = false
        rw [isIndex_toDigits, decide_eq_false (Nat.not_lt.2 hlength)]
        rfl
      have hvalue : Nat.ofDigitChars 10 (Token.index n).text 0 = n := Nat.ofDigitChars_ten_toDigits
      dsimp only
      rw [hgood, if_neg Bool.false_ne_true, hvalue, h]
  | _ => cases token <;> cases h

/-- No index of the path has more than six digits. -/
def ShortIndices (path : List Token) : Prop := ∀ n, Token.index n ∈ path → n < 10 ^ 6

theorem resolveParts {value element : Json} {path : List Token} (h : elementAt value path = some element)
    (hindex : ShortIndices path) : (path.map fun t => escapePart t.text).foldlM resolvePart value = .ok element := by
  induction path generalizing value with
  | nil =>
    cases h
    rfl
  | cons token path ih =>
    rw [elementAt, List.foldlM_cons] at h
    obtain ⟨next, hstep, hrest⟩ := Option.bind_eq_some_iff.1 h
    rw [List.map_cons, List.foldlM_cons, resolvePart_step hstep fun n hn => hindex n (hn ▸ List.mem_cons_self)]
    exact ih hrest fun n hn => hindex n (List.mem_cons_of_mem _ hn)

/-- The pointer of an element resolves to it. -/
theorem resolvePointer_element {value element : Json} {path : List Token} (h : elementAt value path = some element)
    (hlength : (pointerOf path).length ≤ 2048) (hindex : ShortIndices path) :
    resolvePointer value (String.ofList (pointerOf path)) = .ok element := by
  unfold resolvePointer
  rw [String.toList_ofList, String.length_ofList]
  cases path with
  | nil =>
    cases h
    rfl
  | cons token path =>
    have hparts := resolveParts h hindex
    rw [← splitSlash_pointer] at hparts
    rw [pointerOf, List.flatMap_cons, ← pointerOf, List.cons_append] at hlength ⊢
    dsimp only
    rw [decide_eq_true hlength]
    exact hparts

/-- Equal pointers spell out the same tokens. -/
theorem pointerOf_texts {p q : List Token} (h : pointerOf p = pointerOf q) :
    p.map Token.text = q.map Token.text := by
  cases p with
  | nil =>
    cases q with
    | nil => rfl
    | cons u q => cases h
  | cons t p =>
    cases q with
    | nil => cases h
    | cons u q =>
      have htail : escapePart t.text ++ pointerOf p = escapePart u.text ++ pointerOf q := (List.cons.inj h).2
      have hsplit := congrArg splitSlash htail
      rw [splitSlash_pointer, splitSlash_pointer] at hsplit
      refine List.map_injective_iff.2 (fun _ _ he => escapePart_injective he) ?_
      rw [List.map_map, List.map_map]
      exact hsplit

theorem step_text {value x y : Json} {t u : Token} (ht : step value t = some x) (hu : step value u = some y)
    (h : t.text = u.text) : t = u := by
  cases t with
  | key a =>
    cases u with
    | key b => rw [String.toList_injective h]
    | index n => cases value <;> first | cases ht | cases hu
  | index m =>
    cases u with
    | key b => cases value <;> first | cases ht | cases hu
    | index n => rw [toDigits_injective h]

/-- Different paths to elements of one document have different pointers. -/
theorem pointerOf_injective {value x y : Json} {p q : List Token} (hp : elementAt value p = some x)
    (hq : elementAt value q = some y) (h : pointerOf p = pointerOf q) : p = q := by
  have htexts := pointerOf_texts h
  clear h
  induction p generalizing value q with
  | nil => exact (List.map_eq_nil_iff.1 htexts.symm).symm
  | cons t p ih =>
    cases q with
    | nil => cases htexts
    | cons u q =>
      rw [elementAt, List.foldlM_cons] at hp hq
      obtain ⟨next, hstep, hrest⟩ := Option.bind_eq_some_iff.1 hp
      obtain ⟨next', hstep', hrest'⟩ := Option.bind_eq_some_iff.1 hq
      obtain ⟨htext, htail⟩ := List.cons.inj htexts
      obtain rfl := step_text hstep hstep' htext
      obtain rfl := Option.some.inj (hstep.symm.trans hstep')
      rw [ih hrest hrest' htail]

/-! ## The walk -/

/-- The longest prefix of a path that exists in a document, with the element there. -/
structure Longest (document : Json) (path p : List Token) (value : Json) : Prop where
  start : p <+: path
  reached : elementAt document p = some value
  stops : ∀ q, q <+: path → (elementAt document q).isSome → q <+: p

theorem elementAt_cons (value : Json) (token : Token) (path : List Token) :
    elementAt value (token :: path) = (step value token).bind fun next => elementAt next path := List.foldlM_cons

theorem Longest.nil {value : Json} {token : Token} {path : List Token} (h : step value token = none) :
    Longest value (token :: path) [] value := by
  refine ⟨List.nil_prefix, rfl, fun q hq hs => ?_⟩
  cases q with
  | nil => exact List.prefix_rfl
  | cons t q =>
    rw [elementAt_cons, (List.cons_prefix_cons.1 hq).1, h] at hs
    cases hs

theorem Longest.cons {value next element : Json} {token : Token} {path p : List Token} (h : step value token = some next)
    (hp : Longest next path p element) : Longest value (token :: path) (token :: p) element := by
  refine ⟨List.cons_prefix_cons.2 ⟨rfl, hp.start⟩, ?_, fun q hq hs => ?_⟩
  · rw [elementAt_cons, h]
    exact hp.reached
  · cases q with
    | nil => exact List.nil_prefix
    | cons t q =>
      obtain ⟨rfl, hrest⟩ := List.cons_prefix_cons.1 hq
      rw [elementAt_cons, h] at hs
      exact List.cons_prefix_cons.2 ⟨rfl, hp.stops q hrest hs⟩

/-- Why a path stops at an element that has no next one. -/
def stopAt : Json → Run Absence
  | .null => .ok .nullContainer
  | .obj _ => .ok .missingField
  | _ => .error "An assessor frame path traverses an unsupported value"

/-- The walk ends at the longest existing prefix. -/
theorem walk_longest (path : List Token) (current : Json) (pointer : List Char) : ∃ p value,
    Longest current path p value ∧ walk path current pointer =
      if p = path then .ok (value, pointer ++ pointerOf p, none)
      else (stopAt value).map fun absence => (value, pointer ++ pointerOf p, some absence) := by
  induction path generalizing current pointer with
  | nil =>
    refine ⟨[], current, ⟨List.prefix_rfl, rfl, fun q hq _ => hq⟩, ?_⟩
    rw [if_pos rfl, walk]
    exact congrArg (fun s => Except.ok (current, s, none)) (List.append_nil pointer).symm
  | cons token path ih =>
    cases hs : step current token with
    | none =>
      refine ⟨[], current, Longest.nil hs, ?_⟩
      have happend : pointer ++ pointerOf [] = pointer := List.append_nil pointer
      rw [if_neg (List.cons_ne_nil _ _).symm, happend]
      cases current with
      | obj ms =>
        rw [walk, hs]
        rfl
      | arr xs =>
        rw [walk, hs]
        rfl
      | _ => rfl
    | some next =>
      obtain ⟨p, value, hp, hwalk⟩ := ih next (pointer ++ '/' :: escapePart token.text)
      refine ⟨token :: p, value, Longest.cons hs hp, ?_⟩
      have hstep : walk (token :: path) current pointer = walk path next (pointer ++ '/' :: escapePart token.text) := by
        cases current with
        | obj ms => rw [walk, hs]
        | arr xs => rw [walk, hs]
        | _ => cases token <;> cases hs
      have happend : pointer ++ '/' :: escapePart token.text ++ pointerOf p = pointer ++ pointerOf (token :: p) := by
        rw [List.append_assoc]
        rfl
      rw [hstep, hwalk, happend]
      by_cases hpath : p = path
      · rw [if_pos hpath, if_pos (congrArg _ hpath)]
      · rw [if_neg hpath, if_neg fun h => hpath (List.cons.inj h).2]

/-! ## Documents -/

theorem boundedElems_mem {xs : List Json} {depth : ℕ} {u : Unit} (h : boundedElems depth xs = .ok u) :
    ∀ x ∈ xs, ∃ u, bounded depth x = .ok u := by
  induction xs with
  | nil => exact fun _ hx => absurd hx List.not_mem_nil
  | cons x xs ih =>
    rw [boundedElems] at h
    obtain ⟨u, hx, h⟩ := bind_ok h
    rw [List.forall_mem_cons]
    exact ⟨⟨u, hx⟩, ih h⟩

theorem boundedMembers_mem {ms : List (String × Json)} {depth : ℕ} {u : Unit} (h : boundedMembers depth ms = .ok u) :
    ∀ m ∈ ms, ∃ u, bounded depth m.2 = .ok u := by
  induction ms with
  | nil => exact fun _ hm => absurd hm List.not_mem_nil
  | cons m ms ih =>
    rw [boundedMembers] at h
    obtain ⟨_, -, h⟩ := bind_ok h
    obtain ⟨u, hm, h⟩ := bind_ok h
    rw [List.forall_mem_cons]
    exact ⟨⟨u, hm⟩, ih h⟩

theorem bounded_step {value next : Json} {token : Token} {depth : ℕ} {u : Unit} (hb : bounded depth value = .ok u)
    (h : step value token = some next) : (∃ u, bounded (depth + 1) next = .ok u) ∧ ∀ n, token = .index n → n < 10 ^ 6 := by
  cases value with
  | obj ms =>
    cases token with
    | key name =>
      rw [bounded] at hb
      obtain ⟨_, -, hb⟩ := bind_ok hb
      obtain ⟨_, -, hb⟩ := bind_ok hb
      obtain ⟨l₁, l₂, hl, -⟩ := List.lookup_eq_some_iff.1 h
      exact ⟨boundedMembers_mem hb (name, next) (by simp [hl]), fun n hn => by cases hn⟩
    | index n => cases h
  | arr xs =>
    cases token with
    | key name => cases h
    | index n =>
      rw [bounded] at hb
      obtain ⟨_, -, hb⟩ := bind_ok hb
      obtain ⟨_, hlength, hb⟩ := bind_ok hb
      have hlength : xs.length ≤ 10000 := of_decide_eq_true (require_ok hlength)
      obtain ⟨hn, hnext⟩ := List.getElem?_eq_some_iff.1 h
      refine ⟨boundedElems_mem hb next (hnext ▸ List.getElem_mem hn), fun m hm => ?_⟩
      cases hm
      omega
  | _ => cases token <;> cases h

/-- In a document of the presentation no index has more than six digits. -/
theorem bounded_shortIndices {value element : Json} {path : List Token} {depth : ℕ} {u : Unit}
    (hb : bounded depth value = .ok u) (h : elementAt value path = some element) : ShortIndices path := by
  induction path generalizing value depth u with
  | nil => exact fun n hn => absurd hn List.not_mem_nil
  | cons token path ih =>
    rw [elementAt_cons] at h
    obtain ⟨next, hstep, hrest⟩ := Option.bind_eq_some_iff.1 h
    obtain ⟨⟨u', hnext⟩, hindex⟩ := bounded_step hb hstep
    intro n hn
    rcases List.mem_cons.1 hn with hn | hn
    · exact hindex n hn.symm
    · exact ih hnext hrest n hn

theorem resolvePointer_long {value element : Json} {pointer : List Char}
    (h : resolvePointer value (String.ofList pointer) = .ok element) : pointer.length ≤ 2048 := by
  unfold resolvePointer at h
  rw [String.toList_ofList, String.length_ofList] at h
  cases pointer with
  | nil => exact Nat.zero_le _
  | cons c s =>
    dsimp only at h
    split_ifs at h with hc
    rw [Bool.and_eq_true, decide_eq_true_eq] at hc
    exact hc.1

theorem elementAt_append (value : Json) (p q : List Token) :
    elementAt value (p ++ q) = (elementAt value p).bind fun next => elementAt next q := List.foldlM_append

theorem resolvePointer_key {value : Json} {ms : List (String × Json)} {path : List Token} (name : String)
    (h : elementAt value path = some (.obj ms)) (hindex : ShortIndices path) :
    (∃ x, resolvePointer value (String.ofList (pointerOf (path ++ [.key name]))) = .ok x) ↔
      (ms.lookup name).isSome ∧ (pointerOf (path ++ [.key name])).length ≤ 2048 := by
  constructor
  · rintro ⟨x, hx⟩
    have hlength := resolvePointer_long hx
    refine ⟨?_, hlength⟩
    have hparts : ((path ++ [Token.key name]).map fun t => escapePart t.text).foldlM resolvePart value = .ok x := by
      obtain ⟨token, rest, hcons⟩ := List.exists_cons_of_ne_nil (List.append_ne_nil_of_right_ne_nil path (List.cons_ne_nil (Token.key name) []))
      rw [hcons] at hx hlength ⊢
      unfold resolvePointer at hx
      rw [String.toList_ofList, String.length_ofList] at hx
      rw [← splitSlash_pointer]
      rw [pointerOf, List.flatMap_cons, ← pointerOf, List.cons_append] at hx hlength
      dsimp only at hx
      rwa [decide_eq_true hlength] at hx
    rw [List.map_append, List.foldlM_append, resolveParts h hindex] at hparts
    obtain ⟨last, hlast, hfield⟩ := bind_ok hparts
    obtain rfl := Except.ok.inj hlast
    rw [List.map_singleton, List.foldlM_cons] at hfield
    obtain ⟨y, hy, -⟩ := bind_ok hfield
    rw [resolvePart_escaped] at hy
    dsimp only [Token.text] at hy
    rw [String.ofList_toList] at hy
    cases hlookup : ms.lookup name with
    | none =>
      rw [hlookup] at hy
      cases hy
    | some z => rfl
  · rintro ⟨hsome, hlength⟩
    obtain ⟨x, hx⟩ := Option.isSome_iff_exists.1 hsome
    refine ⟨x, resolvePointer_element ?_ hlength fun n hn => ?_⟩
    · rw [elementAt_append, h]
      exact (Option.bind_eq_some_iff.2 ⟨x, hx, rfl⟩ : (step (.obj ms) (.key name)).bind some = some x)
    · rcases List.mem_append.1 hn with hn | hn
      · exact hindex n hn
      · cases List.mem_singleton.1 hn

theorem document_ok {a : Archive} {file : String} {document : Json} (h : a.document file = .ok document) :
    ∃ raw, reference a.rt a.files file "" = .ok ⟨file, sha256Hex a.rt raw, ""⟩ ∧ a.files.lookup file = some raw ∧
      ∃ u, bounded 0 document = .ok u := by
  obtain ⟨identity, hidentity, h⟩ := bind_ok h
  cases hraw : a.files.lookup file with
  | none =>
    rw [hraw] at h
    cases h
  | some raw =>
    rw [hraw] at h
    refine ⟨raw, ?_, rfl, ?_⟩
    · rw [hidentity]
      unfold reference at hidentity
      obtain ⟨_, -, hidentity⟩ := bind_ok hidentity
      obtain ⟨_, -, hidentity⟩ := bind_ok hidentity
      rw [hraw] at hidentity
      obtain ⟨_, -, hidentity⟩ := bind_ok hidentity
      obtain ⟨_, -, hidentity⟩ := bind_ok hidentity
      exact congrArg Except.ok (Except.ok.inj hidentity).symm
    · unfold strictJson at h
      obtain ⟨_, -, h⟩ := bind_ok h
      split at h
      · cases h
      · split at h
        · cases h
        · split at h
          · cases h
          · next u hb =>
            cases h
            exact ⟨u, hb⟩

/-! ## Frames of a document -/

section
variable {a : Archive} {file : String} {document : Json} (hdoc : a.document file = .ok document)
include hdoc

theorem value_ok_iff {pointer : List Char} {x : Json} :
    a.value file pointer = .ok x ↔ resolvePointer document (String.ofList pointer) = .ok x := by
  rw [Archive.value, hdoc]
  rfl

/-- A reference names the file, its digest and the pointer, when the pointer resolves. -/
theorem reference_ok_iff {pointer : List Char} {source : Source} : a.reference file pointer = .ok source ↔
    (∃ x, resolvePointer document (String.ofList pointer) = .ok x) ∧ ∃ raw, a.files.lookup file = some raw ∧
      source = ⟨file, sha256Hex a.rt raw, String.ofList pointer⟩ := by
  obtain ⟨raw, hidentity, hraw, -⟩ := document_ok hdoc
  constructor
  · intro h
    obtain ⟨x, hx, h⟩ := bind_ok h
    obtain ⟨identity, hi, h⟩ := bind_ok h
    obtain rfl := Except.ok.inj (hidentity.symm.trans hi)
    exact ⟨⟨x, (value_ok_iff hdoc).1 hx⟩, raw, hraw, (Except.ok.inj h).symm⟩
  · rintro ⟨⟨x, hx⟩, raw', hraw', rfl⟩
    obtain rfl := Option.some.inj (hraw.symm.trans hraw')
    rw [Archive.reference, (value_ok_iff hdoc).2 hx, hidentity]
    rfl

theorem fact_ok_iff {pointer : List Char} {name : String} :
    (∃ f, a.fact file pointer name = .ok f) ↔ ∃ x, resolvePointer document (String.ofList pointer) = .ok x := by
  constructor
  · rintro ⟨f, h⟩
    obtain ⟨x, hx, -⟩ := bind_ok h
    exact ⟨x, (value_ok_iff hdoc).1 hx⟩
  · rintro ⟨x, hx⟩
    obtain ⟨raw, -, hraw, -⟩ := document_ok hdoc
    refine ⟨⟨name, x, ⟨file, sha256Hex a.rt raw, String.ofList pointer⟩⟩, ?_⟩
    rw [Archive.fact, (value_ok_iff hdoc).2 hx, (reference_ok_iff hdoc).2 ⟨⟨x, hx⟩, raw, hraw, rfl⟩]
    rfl

/-- The pointer of an element can be referred to when it is short enough. -/
theorem reference_element {p : List Token} {value : Json} (h : elementAt document p = some value) :
    (∃ source, a.reference file (pointerOf p) = .ok source) ↔ (pointerOf p).length ≤ 2048 := by
  obtain ⟨raw, -, hraw, u, hb⟩ := document_ok hdoc
  constructor
  · rintro ⟨source, hs⟩
    obtain ⟨⟨x, hx⟩, -⟩ := (reference_ok_iff hdoc).1 hs
    exact resolvePointer_long hx
  · intro hlength
    exact ⟨_, (reference_ok_iff hdoc).2 ⟨⟨value, resolvePointer_element h hlength (bounded_shortIndices hb h)⟩, raw, hraw, rfl⟩⟩

end

/-- What `_frame` does where its path stops. -/
def frameAt (a : Archive) (file : String) (value : Json) (pointer : List Char) (whole : Bool) (operationIndex : ℕ)
    (phase : String) : Run Frame := do
  if whole && value ≠ .null then
    require value.isDict "A recorded assessor frame must be an object"
    let source ← a.reference file pointer
    let evidenceIntegrity ← a.fact file (pointer ++ "/evidence_integrity".toList) "evidence_integrity"
    let assessments ← a.fact file (pointer ++ "/assessments".toList) "assessments"
    let findings ← a.fact file (pointer ++ "/findings".toList) "findings"
    return ⟨operationIndex, phase, source, .recorded evidenceIntegrity assessments findings⟩
  else
    let absence ← stopAt value
    return ⟨operationIndex, phase, ← a.reference file pointer, .frameNotRecorded absence⟩

theorem frame_stops {a : Archive} {file : String} {document : Json} (hdoc : a.document file = .ok document)
    (path : List Token) (operationIndex : ℕ) (phase : String) : ∃ p value, Longest document path p value ∧
      frame a file path operationIndex phase = frameAt a file value (pointerOf p) (p = path) operationIndex phase := by
  obtain ⟨p, value, hp, hwalk⟩ := walk_longest path document []
  refine ⟨p, value, hp, ?_⟩
  unfold frame frameAt
  rw [hdoc]
  dsimp only [bind, Except.bind]
  rw [hwalk, List.nil_append]
  by_cases hpath : p = path
  · rw [if_pos hpath, decide_eq_true hpath]
    by_cases hnull : value = .null
    · rw [hnull]
      rfl
    · have hwhole : (true && decide (value ≠ .null)) = true := by rw [Bool.true_and, decide_eq_true hnull]
      rw [hwhole]
      dsimp only
      rw [if_neg hnull]
      rfl
  · rw [if_neg hpath, decide_eq_false hpath, Bool.false_and]
    cases value <;> rfl

/-- The fields of an assessor frame. -/
def frameFields : List String := ["evidence_integrity", "assessments", "findings"]

theorem pointerOf_field {path : List Token} : ∀ name ∈ frameFields,
    pointerOf (path ++ [.key name]) = pointerOf path ++ '/' :: name.toList := by
  have hplain : ∀ name ∈ frameFields, escapePart name.toList = name.toList := by decide +kernel
  intro name hname
  rw [pointerOf, List.flatMap_append, ← pointerOf, List.flatMap_singleton]
  exact congrArg (fun part => pointerOf path ++ '/' :: part) (hplain name hname)

section
variable {a : Archive} {file : String} {document : Json} (hdoc : a.document file = .ok document)
include hdoc

theorem field_ok_iff {p : List Token} {ms : List (String × Json)} (h : elementAt document p = some (.obj ms)) :
    ∀ name ∈ frameFields, (∃ f, a.fact file (pointerOf p ++ '/' :: name.toList) name = .ok f) ↔
      (ms.lookup name).isSome ∧ (pointerOf (p ++ [.key name])).length ≤ 2048 := by
  obtain ⟨raw, -, -, u, hb⟩ := document_ok hdoc
  intro name hname
  rw [fact_ok_iff hdoc, ← pointerOf_field name hname]
  exact resolvePointer_key name h (bounded_shortIndices hb h)

end

/-- What `_frame` reports of the place where a path stops. -/
def Reports (a : Archive) (file : String) (p path : List Token) (value : Json) (f : Frame) : Prop :=
  (∃ raw, a.files.lookup file = some raw ∧ f.source = ⟨file, sha256Hex a.rt raw, String.ofList (pointerOf p)⟩) ∧
    ((∃ e s t, f.availability = .recorded e s t) ↔ p = path ∧ value.isDict) ∧
    (f.availability = .frameNotRecorded .missingField ↔ p ≠ path ∧ value.isDict) ∧
    (f.availability = .frameNotRecorded .nullContainer ↔ value = .null)

theorem frameAt_reports {a : Archive} {file : String} {document value : Json} {p path : List Token} {operationIndex : ℕ}
    {phase : String} {f : Frame} (hdoc : a.document file = .ok document)
    (h : frameAt a file value (pointerOf p) (p = path) operationIndex phase = .ok f) :
    Reports a file p path value f ∧ f.operationIndex = operationIndex ∧ f.phase = phase := by
  have hsource {source : Source} (hs : a.reference file (pointerOf p) = .ok source) :
      ∃ raw, a.files.lookup file = some raw ∧ source = ⟨file, sha256Hex a.rt raw, String.ofList (pointerOf p)⟩ :=
    ((reference_ok_iff hdoc).1 hs).2
  unfold frameAt at h
  split_ifs at h with hwhole
  · rw [Bool.and_eq_true, decide_eq_true_eq, decide_eq_true_eq] at hwhole
    obtain ⟨_, hdict, h⟩ := bind_ok h
    obtain ⟨source, hs, h⟩ := bind_ok h
    obtain ⟨e, -, h⟩ := bind_ok h
    obtain ⟨s, -, h⟩ := bind_ok h
    obtain ⟨t, -, h⟩ := bind_ok h
    have hdict := require_ok hdict
    obtain rfl := Except.ok.inj h
    refine ⟨⟨hsource hs, ⟨fun _ => ⟨hwhole.1, hdict⟩, fun _ => ⟨e, s, t, rfl⟩⟩, ⟨fun hf => ?_, fun hp => absurd hwhole.1 hp.1⟩,
      ⟨fun hf => ?_, fun hn => absurd hn hwhole.2⟩⟩, rfl, rfl⟩
    · cases hf
    · cases hf
  · obtain ⟨absence, habsence, h⟩ := bind_ok h
    obtain ⟨source, hs, h⟩ := bind_ok h
    obtain rfl := Except.ok.inj h
    rw [Bool.and_eq_true, decide_eq_true_eq, decide_eq_true_eq] at hwhole
    cases value with
    | null =>
      cases habsence
      refine ⟨⟨hsource hs, ⟨fun hr => ?_, fun hp => ?_⟩, ⟨fun hf => ?_, fun hp => ?_⟩, ⟨fun _ => rfl, fun _ => rfl⟩⟩, rfl, rfl⟩
      · obtain ⟨e, s, t, he⟩ := hr
        cases he
      · cases hp.2
      · cases hf
      · cases hp.2
    | obj ms =>
      cases habsence
      have hpath : p ≠ path := fun hp => hwhole ⟨hp, fun hn => by cases hn⟩
      refine ⟨⟨hsource hs, ⟨fun hr => ?_, fun hp => absurd hp.1 hpath⟩, ⟨fun _ => ⟨hpath, rfl⟩, fun _ => rfl⟩,
        ⟨fun hf => ?_, fun hn => ?_⟩⟩, rfl, rfl⟩
      · obtain ⟨e, s, t, he⟩ := hr
        cases he
      · cases hf
      · cases hn
    | _ => cases habsence

/-- When `_frame` returns: where the path stops is null or an object that misses the next key, or the
    path ends at an object with the fields of a frame; and the pointers are short enough. -/
def Framed (p path : List Token) (value : Json) : Prop :=
  (pointerOf p).length ≤ 2048 ∧ (value = .null ∨ value.isDict ∧ (p ≠ path ∨
    ∀ name ∈ frameFields, (value.members.lookup name).isSome ∧ (pointerOf (p ++ [.key name])).length ≤ 2048))

theorem frameAt_absent {a : Archive} {file : String} {document value : Json} {p : List Token} {operationIndex : ℕ}
    {phase : String} {whole : Bool} {absence : Absence} (hdoc : a.document file = .ok document)
    (hp : elementAt document p = some value) (hwhole : (whole && decide (value ≠ .null)) = false)
    (hstop : stopAt value = .ok absence) :
    (∃ f, frameAt a file value (pointerOf p) whole operationIndex phase = .ok f) ↔ (pointerOf p).length ≤ 2048 := by
  have hframe : frameAt a file value (pointerOf p) whole operationIndex phase =
      (a.reference file (pointerOf p)).map fun source => ⟨operationIndex, phase, source, .frameNotRecorded absence⟩ := by
    unfold frameAt
    rw [hwhole, if_neg Bool.false_ne_true, hstop]
    cases a.reference file (pointerOf p) <;> rfl
  rw [hframe, ← reference_element hdoc hp]
  cases a.reference file (pointerOf p) with
  | error e => simp [Except.map]
  | ok source => simp [Except.map]

theorem frameAt_whole {a : Archive} {file : String} {document : Json} {ms : List (String × Json)} {p : List Token}
    {operationIndex : ℕ} {phase : String} (hdoc : a.document file = .ok document)
    (hp : elementAt document p = some (.obj ms)) :
    (∃ f, frameAt a file (.obj ms) (pointerOf p) true operationIndex phase = .ok f) ↔ (pointerOf p).length ≤ 2048 ∧
      ∀ name ∈ frameFields, (ms.lookup name).isSome ∧ (pointerOf (p ++ [.key name])).length ≤ 2048 := by
  have hfields := field_ok_iff hdoc hp
  rw [← reference_element hdoc hp]
  constructor
  · rintro ⟨f, h⟩
    obtain ⟨_, -, h⟩ := bind_ok h
    obtain ⟨source, hs, h⟩ := bind_ok h
    obtain ⟨e, he, h⟩ := bind_ok h
    obtain ⟨s, hassessments, h⟩ := bind_ok h
    obtain ⟨t, ht, -⟩ := bind_ok h
    refine ⟨⟨source, hs⟩, ?_⟩
    simp only [frameFields, List.forall_mem_cons] at hfields ⊢
    exact ⟨hfields.1.1 ⟨e, he⟩, hfields.2.1.1 ⟨s, hassessments⟩, hfields.2.2.1.1 ⟨t, ht⟩, fun _ h => absurd h List.not_mem_nil⟩
  · rintro ⟨⟨source, hs⟩, hall⟩
    simp only [frameFields, List.forall_mem_cons] at hfields hall
    obtain ⟨e, he⟩ := hfields.1.2 hall.1
    obtain ⟨s, hassessments⟩ := hfields.2.1.2 hall.2.1
    obtain ⟨t, ht⟩ := hfields.2.2.1.2 hall.2.2.1
    refine ⟨⟨operationIndex, phase, source, .recorded e s t⟩, ?_⟩
    have he : a.fact file (pointerOf p ++ "/evidence_integrity".toList) "evidence_integrity" = .ok e := he
    have hassessments : a.fact file (pointerOf p ++ "/assessments".toList) "assessments" = .ok s := hassessments
    have ht : a.fact file (pointerOf p ++ "/findings".toList) "findings" = .ok t := ht
    unfold frameAt
    rw [hs, he, hassessments, ht]
    rfl

theorem frameAt_returns {a : Archive} {file : String} {document value : Json} {p path : List Token} {operationIndex : ℕ}
    {phase : String} (hdoc : a.document file = .ok document) (hp : elementAt document p = some value) :
    (∃ f, frameAt a file value (pointerOf p) (p = path) operationIndex phase = .ok f) ↔ Framed p path value := by
  have hother (hnull : value ≠ .null) (hdict : value.isDict = false) (hstop : ∃ e, stopAt value = .error e) :
      (∃ f, frameAt a file value (pointerOf p) (p = path) operationIndex phase = .ok f) ↔ Framed p path value := by
    constructor
    · rintro ⟨f, h⟩
      unfold frameAt at h
      split_ifs at h
      · obtain ⟨_, hd, -⟩ := bind_ok h
        rw [hdict] at hd
        cases hd
      · obtain ⟨e, he⟩ := hstop
        rw [he] at h
        cases h
    · rintro ⟨-, hn | ⟨hd, -⟩⟩
      · exact absurd hn hnull
      · rw [hdict] at hd
        cases hd
  cases value with
  | null =>
    rw [frameAt_absent hdoc hp (Bool.and_false _) rfl]
    exact ⟨fun h => ⟨h, Or.inl rfl⟩, fun h => h.1⟩
  | obj ms =>
    by_cases hpath : p = path
    · rw [decide_eq_true hpath, frameAt_whole hdoc hp]
      constructor
      · rintro ⟨hlength, hall⟩
        exact ⟨hlength, Or.inr ⟨rfl, Or.inr hall⟩⟩
      · rintro ⟨hlength, hn | ⟨-, hne | hall⟩⟩
        · cases hn
        · exact absurd hpath hne
        · exact ⟨hlength, hall⟩
    · rw [decide_eq_false hpath, frameAt_absent hdoc hp (Bool.false_and _) rfl]
      exact ⟨fun h => ⟨h, Or.inr ⟨rfl, Or.inl hpath⟩⟩, fun h => h.1⟩
  | _ => exact hother (fun h => by cases h) rfl ⟨_, rfl⟩

/-- The pointer of an element resolves to it, and spells out its path; different paths of one document
    have different pointers. A frame reports the place where its path stops: the facts there when the
    whole path leads to an object, or else why the longest existing prefix goes no further. -/
theorem pointers_and_frames :
    (∀ document path element, elementAt document path = some element → (pointerOf path).length ≤ 2048 →
      ShortIndices path → resolvePointer document (String.ofList (pointerOf path)) = .ok element) ∧
    (∀ p q, pointerOf p = pointerOf q → p.map Token.text = q.map Token.text) ∧
    (∀ document p q x y, elementAt document p = some x → elementAt document q = some y → pointerOf p = pointerOf q → p = q) ∧
    ∀ a file document path operationIndex phase, Archive.document a file = .ok document → ∃ p value,
      Longest document path p value ∧
        (∀ f, frame a file path operationIndex phase = .ok f →
          Reports a file p path value f ∧ f.operationIndex = operationIndex ∧ f.phase = phase) ∧
        ((∃ f, frame a file path operationIndex phase = .ok f) ↔ Framed p path value) := by
  refine ⟨fun _ _ _ h hlength hindex => resolvePointer_element h hlength hindex, fun _ _ h => pointerOf_texts h,
    fun _ _ _ _ _ hp hq h => pointerOf_injective hp hq h, fun a file document path operationIndex phase hdoc => ?_⟩
  obtain ⟨p, value, hlongest, hframe⟩ := frame_stops hdoc path operationIndex phase
  refine ⟨p, value, hlongest, fun f hf => ?_, ?_⟩
  · rw [hframe] at hf
    exact frameAt_reports hdoc hf
  · rw [hframe]
    exact frameAt_returns hdoc hlongest.reached

/-! ## A small instance -/

def sampleArchive : Archive := ⟨sampleRuntime, [("evidence/a.json", encodeUtf8 "\x7b\"a\":\x7b\"~/\":null\x7d,\"b\":1\x7d".toList)]⟩

def sampleDocument : Json := .obj [("a", .obj [("~/", .null)]), ("b", .int 1)]

theorem sampleArchive_document : sampleArchive.document "evidence/a.json" = .ok sampleDocument := by decide +kernel

def samplePath : List Token := [.key "a", .key "~/"]

theorem sample_pointers_and_frames : resolvePointer sampleDocument (String.ofList (pointerOf samplePath)) = .ok .null ∧
    ∃ p value, Longest sampleDocument samplePath p value ∧
      ((∃ f, frame sampleArchive "evidence/a.json" samplePath 0 "erasure" = .ok f) ↔ Framed p samplePath value) := by
  obtain ⟨hresolve, -, -, hframe⟩ := pointers_and_frames
  obtain ⟨p, value, hlongest, -, hreturns⟩ := hframe _ _ _ samplePath 0 "erasure" sampleArchive_document
  refine ⟨hresolve _ _ _ (by decide +kernel) (by decide +kernel) fun n hn => ?_, p, value, hlongest, hreturns⟩
  simp [samplePath] at hn

/-- A path through a number is refused, and a key that is spelled like an index has its pointer. -/
theorem scalar_frame : sampleArchive.document "evidence/a.json" = .ok sampleDocument ∧
    frame sampleArchive "evidence/a.json" [.key "b", .key "x"] 0 "erasure" =
      .error "An assessor frame path traverses an unsupported value" ∧
    [Token.key "0"] ≠ [Token.index 0] ∧ pointerOf [.key "0"] = pointerOf [.index 0] := by
  refine ⟨sampleArchive_document, ?_, by decide, by decide +kernel⟩
  unfold frame
  rw [sampleArchive_document]
  rfl

end VapEvidence.Review
