import Mathlib.Data.List.Perm.Subperm
import Mathlib.Tactic.IntervalCases
import VapEvidence.PackDecision
import VapEvidence.VerifyNode

set_option autoImplicit false

/-!
# What the Node verifier accepts

Each function of `verify_node.mjs` decides its part of `Accepted`, the one the
Python verifier decides.
-/
namespace VapEvidence.Evidence
open Json

namespace Node

/-! ## Values -/

/-- An object with as many keys as the fields, each of them a field, has exactly the fields. -/
theorem exactObject_judges {value : Json} (hw : value.WF) {fields : List String} (hn : fields.Nodup)
    (label : String) : Judges (exactObject value fields label) (value.hasFields fields = true) () := by
  cases value with
  | obj ms =>
    have hkeys : (ms.map Prod.fst).Nodup := hw.1.imp fun h => h.ne
    refine (require_judges _ _).congr ?_
    simp only [hasFields, Bool.and_eq_true, decide_eq_true_eq, List.all_eq_true, List.contains_iff_mem,
      List.mem_map, forall_exists_index, and_imp, forall_apply_eq_imp_iff₂]
    constructor
    · rintro ⟨hl, hsub⟩
      have hperm := (List.subperm_of_subset hkeys (show ms.map Prod.fst ⊆ fields from fun k hk => by
        obtain ⟨m, hm, rfl⟩ := List.mem_map.1 hk
        exact hsub m hm)).perm_of_length_le hl.ge
      exact ⟨hsub, fun f hf => List.mem_map.1 (hperm.mem_iff.2 hf)⟩
    · rintro ⟨hsub, hall⟩
      refine ⟨((List.perm_ext_iff_of_nodup hkeys hn).2 fun k => ⟨fun hk => ?_, fun hk => ?_⟩).length_eq, hsub⟩
      · obtain ⟨m, hm, rfl⟩ := List.mem_map.1 hk
        exact hsub m hm
      · exact List.mem_map.2 (hall k hk)
  | _ => exact (refuse_judges _ ()).congr (by simp [hasFields])

theorem printable_judges (value : Json) (label : String) :
    Judges (lift (printable value label true)) (IsText value) () :=
  (lift_judges (printable_decides value label true)).congr (by simp [IsText])

theorem integer_judges (value : Json) {minimum maximum : ℤ} (hmin : -maxSafeInteger ≤ minimum)
    (hmax : maximum ≤ maxSafeInteger) (label : String) :
    Judges (integer value minimum maximum label) (IsCount minimum maximum value) () := by
  cases value with
  | int n =>
    refine (require_judges _ _).congr ?_
    simp only [isSafeInteger, Bool.and_eq_true, decide_eq_true_eq, IsCount, Json.int.injEq, exists_eq_left']
    omega
  | _ => exact (refuse_judges _ ()).congr (by simp [IsCount])

theorem equal_judges (value expected : Json) (label : String) :
    Judges (equal value expected label) (value = expected) () :=
  (require_judges _ _).congr decide_eq_true_iff

theorem lowerHex_printable {c : Char} (h : isLowerHex c = true) : isPrintable c = true := by
  have hle {a b : Char} : a ≤ b ↔ a.toNat ≤ b.toNat := Iff.rfl
  simp only [isLowerHex, isPrintable, decide_eq_true_eq, hle] at h ⊢
  have h₀ : ('0' : Char).toNat = 48 := rfl
  have h₉ : ('9' : Char).toNat = 57 := rfl
  have ha : ('a' : Char).toNat = 97 := rfl
  have hf : ('f' : Char).toNat = 102 := rfl
  omega

theorem digest_judges (value : Json) (label : String) :
    Judges (digest value label) (IsDigest value) () := by
  cases value with
  | str s =>
    refine (require_judges _ _).congr ?_
    have hall : (!s.toList.any fun c => !isLowerHex c) = true ↔ s.toList.all isLowerHex = true := by
      simp [List.all_eq_true]
    rw [Bool.and_eq_true, decide_eq_true_eq, hall]
    simp only [IsDigest, Json.str.injEq, exists_eq_left']
    refine and_congr_left fun h => ?_
    rw [units_ascii (List.all_eq_true.2 fun c hc => lowerHex_printable (List.all_eq_true.1 h c hc)),
      String.length_toList]
  | _ => exact (refuse_judges _ ()).congr (by simp [IsDigest])

theorem base64Bytes_judges (value : Json) {size : ℕ} (hsize : 0 < size) (label : String) :
    Judges (base64Bytes value size label) (IsBase64 size value) (rawOf value) := by
  cases value with
  | str s =>
    have h : Judges (base64Bytes (.str s) size label) _ (rawOf (.str s)) :=
      (require_judges _ _).bind fun _ => (require_judges _ _).bind fun _ => Decides.pure _
    refine h.congr ?_
    rw [isBase64_str]
    simp only [Bool.and_eq_true, decide_eq_true_eq, and_true]
    constructor
    · rintro ⟨-, hl, he⟩
      exact ⟨_, he, hl⟩
    · rintro ⟨raw, he, hl⟩
      rw [← he, Base64.decodeLoose_encode]
      refine ⟨fun hnil => ?_, hl, rfl⟩
      rw [Base64.encode_eq_nil hnil] at hl
      exact absurd hl (by simpa using hsize.ne)
  | _ => exact (refuse_judges _ _).congr (iff_of_false id (by rintro ⟨_, h, -⟩; cases h))

/-! ## Times -/

theorem fits_units {ts s : List Char} (h : fits ts s = true) (ht : ts.all isPrintable = true) :
    units s = ts.length := by
  induction ts generalizing s with
  | nil =>
    cases s with
    | nil => rfl
    | cons c s => cases h
  | cons t ts ih =>
    cases s with
    | nil => cases h
    | cons c s =>
      rw [List.all_cons, Bool.and_eq_true] at ht
      rw [fits, Bool.and_eq_true] at h
      have hc : isPrintable c = true := by
        by_cases htd : t = 'd'
        · have hd : 48 ≤ c.toNat ∧ c.toNat ≤ 57 := Char.isDigit_iff_toNat.1 (by simpa [htd] using h.1)
          simp only [isPrintable, decide_eq_true_eq]
          omega
        · rw [show c = t by simpa [htd] using h.1]
          exact ht.1
      have hunits := ih h.2 ht.2
      simp only [isPrintable, decide_eq_true_eq] at hc
      simp only [units, List.map_cons, List.sum_cons, List.length_cons] at hunits ⊢
      rw [if_pos (by omega), hunits]
      omega

theorem days_eq (year : ℕ) {month : ℕ} (h : 1 ≤ month ∧ month ≤ 12) :
    (days (year % 4 = 0 && (year % 100 ≠ 0 || year % 400 = 0))).getD (month - 1) 0 = daysInMonth year month := by
  change (days (isLeap year)).getD (month - 1) 0 = daysInMonth year month
  rw [daysInMonth]
  obtain ⟨h₁, h₂⟩ := h
  generalize isLeap year = leap
  interval_cases month <;> rfl

/-- The calendar check of the source is that of `datetime`. -/
theorem real_iff (year month day hour minute second : ℕ) :
    (!(year < 1 || month < 1 || month > 12 || day < 1 ||
      day > (days (year % 4 = 0 && (year % 100 ≠ 0 || year % 400 = 0))).getD (month - 1) 0 ||
      hour > 23 || minute > 59 || second > 59)) = true ↔ RealTime year month day hour minute second := by
  by_cases h : 1 ≤ month ∧ month ≤ 12
  · rw [days_eq year h]
    simp only [Bool.not_eq_true', Bool.or_eq_false_iff, decide_eq_false_iff_not, RealTime]
    omega
  · simp only [Bool.not_eq_true', Bool.or_eq_false_iff, decide_eq_false_iff_not, RealTime]
    omega

theorem timestamp_judges (value : Json) (label : String) :
    Judges (timestamp value label) (IsTime value) () := by
  cases value with
  | str s =>
    have h : Judges (timestamp (.str s) label) _ () :=
      (require_judges _ _).bind fun _ => (require_judges _ _).bind fun _ => require_judges _ _
    refine h.congr ?_
    rw [real_iff]
    simp only [decide_eq_true_eq, IsTime, timeOf, strptime]
    constructor
    · rintro ⟨-, hf, hreal⟩
      rw [if_pos hf]
      change (if h : RealTime _ _ _ _ _ _ then _ else none).isSome = true
      rw [dif_pos hreal]
      rfl
    · intro hs
      by_cases hf : fits template s.toList = true
      · refine ⟨fits_units hf (by decide), hf, ?_⟩
        rw [if_pos hf] at hs
        by_contra hreal
        change (if h : RealTime _ _ _ _ _ _ then _ else none).isSome = true at hs
        rw [dif_neg hreal] at hs
        cases hs
      · rw [if_neg hf] at hs
        cases hs
  | _ => exact (refuse_judges _ _).congr (by simp [IsTime, timeOf])

/-- Texts of times compare as the times. -/
theorem lessText_iff {a b : Json} (ha : IsTime a) (hb : IsTime b) :
    lessText a b = true ↔ instant a < instant b := by
  cases a with
  | str s =>
    cases b with
    | str t =>
      obtain ⟨x, hx⟩ := Option.isSome_iff_exists.1 ha
      obtain ⟨y, hy⟩ := Option.isSome_iff_exists.1 hb
      rw [instant, instant, hx, hy, lessText, decide_eq_true_eq]
      exact (strptime_lt_iff hx hy).symm
    | _ => cases hb
  | _ => cases ha

theorem not_lessText_iff {a b : Json} (ha : IsTime a) (hb : IsTime b) :
    (!lessText a b) = true ↔ instant b ≤ instant a := by
  rw [Bool.not_eq_true', ← Bool.not_eq_true, lessText_iff ha hb, not_lt]

theorem window_iff {scope event : Json} (hscope : ScopeShape scope) (he : IsTime (event.item "timestamp")) :
    (!(lessText (event.item "timestamp") (scope.item "window_start") ||
      lessText (scope.item "window_end") (event.item "timestamp"))) = true ↔
    instant (scope.item "window_start") ≤ instant (event.item "timestamp") ∧
      instant (event.item "timestamp") ≤ instant (scope.item "window_end") := by
  rw [Bool.not_or, Bool.and_eq_true, not_lessText_iff he hscope.start, not_lessText_iff hscope.stop he]

/-! ## Shapes -/

theorem texts_judges {v : Json} {fields keys : List String} (h : v.hasFields fields = true)
    (hk : ∀ k ∈ keys, k ∈ fields) (label : String → String) :
    Judges (keys.forM fun key => do lift (printable (← sub v key) (label key) true))
      (∀ k ∈ keys, IsText (v.item k)) () :=
  Decides.forM fun k hmem => sub_judges h (hk k hmem) (printable_judges _ _)

theorem types_iff (types : Json) : (isList types && (items types).length = eventTypes.length &&
    ((items types).zip eventTypes).all fun p => p.1 = .str p.2) = true ↔ types = .arr (eventTypes.map .str) := by
  cases types with
  | arr xs =>
    rw [isList, items, Bool.true_and, Bool.and_eq_true, decide_eq_true_eq, Json.arr.injEq]
    constructor
    · rintro ⟨hl, hall⟩
      obtain ⟨a, b, rfl⟩ := List.length_eq_two.1 hl
      simpa [eventTypes] using hall
    · rintro rfl
      simp [eventTypes]
  | _ => simp [isList]

theorem validateScope_judges {scope : Json} (hw : scope.WF) :
    Judges (validateScope scope) (ScopeShape scope) () := by
  have h : Judges (validateScope scope) _ () :=
    (exactObject_judges hw (by decide) "scope").bind fun hf =>
    (texts_judges hf (by decide) _).bind fun _ =>
    sub_judges hf (by decide) <| (timestamp_judges _ _).bind fun hstart =>
    sub_judges hf (by decide) <| (timestamp_judges _ _).bind fun hstop =>
    sub_judges hf (by decide) <| sub_judges hf (by decide) <|
    ((require_judges _ _).congr (not_lessText_iff hstop hstart)).bind fun _ =>
    sub_judges hf (by decide) <| ((require_judges _ _).congr (types_iff _)).bind fun _ =>
    sub_judges hf (by decide) <| (integer_judges _ (by decide) (by decide) _).bind fun _ =>
    sub_judges hf (by decide) <| equal_judges _ _ _
  exact h.congr ⟨fun ⟨h₁, h₂, h₃, h₄, h₅, h₆, h₇, h₈⟩ => ⟨h₁, h₂, h₃, h₄, h₅, h₆, h₈, h₇⟩,
    fun ⟨h₁, h₂, h₃, h₄, h₅, h₆, h₇, h₈⟩ => ⟨h₁, h₂, h₃, h₄, h₅, h₆, h₈, h₇⟩⟩

theorem validateProvenance_judges {p : Json} (hw : p.WF) (attempt : Bool) (label : String) :
    Judges (validateProvenance p attempt label)
      ((if attempt then AttemptShape p else OutcomeShape p) ∧ ∀ k ∈ provenanceTexts, IsText (p.item k)) () := by
  cases attempt with
  | true =>
    have h : Judges (validateProvenance p true label) _ () :=
      (exactObject_judges hw (by decide) _).bind fun hf =>
      sub_judges hf (by decide) <| (digest_judges _ _).bind fun _ =>
      sub_judges hf (by decide) <| (exactObject_judges (wf_item hw _) (by decide) _).bind fun hc =>
      sub_judges hf (by decide) <| sub_judges hc (by decide) <| (printable_judges _ _).bind fun _ =>
      texts_judges hf (by decide) _
    refine h.congr ?_
    rw [if_pos rfl]
    exact ⟨fun ⟨h₁, h₂, h₃, h₄, h₅⟩ => ⟨⟨h₁, h₂, h₃, h₄⟩, h₅⟩, fun ⟨⟨h₁, h₂, h₃, h₄⟩, h₅⟩ => ⟨h₁, h₂, h₃, h₄, h₅⟩⟩
  | false =>
    have h : Judges (validateProvenance p false label) _ () :=
      (exactObject_judges hw (by decide) _).bind fun hf =>
      sub_judges hf (by decide) <| (require_judges _ _).bind fun _ =>
      sub_judges hf (by decide) <| (printable_judges _ _).bind fun _ =>
      sub_judges hf (by decide) <| (require_judges _ _).bind fun _ =>
      texts_judges hf (by decide) _
    refine h.congr ?_
    rw [if_neg (by decide)]
    simp only [List.any_eq_true, decide_eq_true_eq, Bool.or_eq_true, review_iff]
    exact ⟨fun ⟨h₁, h₂, h₃, h₄, h₅⟩ => ⟨⟨h₁, h₂, h₃, h₄⟩, h₅⟩, fun ⟨⟨h₁, h₂, h₃, h₄⟩, h₅⟩ => ⟨h₁, h₂, h₃, h₄, h₅⟩⟩

theorem validateEvent_judges {event : Json} (hw : event.WF) (index : ℕ) :
    Judges (validateEvent event index) (EventShape event) () := by
  have h : Judges (validateEvent event index) _ () :=
    (exactObject_judges hw (by decide) _).bind fun hf =>
    sub_judges hf (by decide) <| (equal_judges _ _ _).bind fun _ =>
    (texts_judges hf (by decide) _).bind fun _ =>
    sub_judges hf (by decide) <| (integer_judges _ (by decide) (by decide) _).bind fun _ =>
    sub_judges hf (by decide) <| (require_judges _ _).bind fun _ =>
    sub_judges hf (by decide) <| (timestamp_judges _ _).bind fun _ =>
    sub_judges hf (by decide) <| (digest_judges _ _).bind fun _ =>
    sub_judges hf (by decide) <| (base64Bytes_judges _ (by decide) _).bind fun _ =>
    sub_judges hf (by decide) <| validateProvenance_judges (wf_item hw _) _ _
  refine h.congr ?_
  rw [kinds_iff]
  exact ⟨fun ⟨h₁, h₂, h₃, h₄, h₅, h₆, h₇, h₈, h₉, h₁₀⟩ => ⟨h₁, h₂, h₅, h₃, h₄, h₆, h₇, h₈, h₉, h₁₀⟩,
    fun ⟨h₁, h₂, h₃, h₄, h₅, h₆, h₇, h₈, h₉, h₁₀⟩ => ⟨h₁, h₂, h₄, h₅, h₃, h₆, h₇, h₈, h₉, h₁₀⟩⟩

theorem validateEvents_judges (index : ℕ) {events : List Json} (hw : ∀ e ∈ events, e.WF) :
    Judges (validateEvents index events) (∀ e ∈ events, EventShape e) () := by
  induction events generalizing index with
  | nil => exact (Decides.pure ()).congr (by simp)
  | cons e events ih =>
    have h : Judges (validateEvents index (e :: events)) _ () :=
      (validateEvent_judges (hw e (by simp)) index).bind fun _ =>
        ih (index + 1) fun f hf => hw f (List.mem_cons_of_mem _ hf)
    exact h.congr (by simp)

theorem validateRecord_judges {record : Json} (hw : record.WF) (field : String) {kind : String}
    (hk : Printable kind ∧ kind ≠ "") : Judges (validateRecord record field kind)
      (RecordShape record ∧ record.item "record_type" = .str kind) () := by
  have h : Judges (validateRecord record field kind) _ () :=
    (exactObject_judges hw (by decide) _).bind fun hf =>
    sub_judges hf (by decide) <| (equal_judges _ _ _).bind fun _ =>
    sub_judges hf (by decide) <| (printable_judges _ _).bind fun _ =>
    sub_judges hf (by decide) <| (digest_judges _ _).bind fun _ =>
    sub_judges hf (by decide) <| (digest_judges _ _).bind fun _ =>
    sub_judges hf (by decide) <| (integer_judges _ (by decide) (by decide) _).bind fun _ =>
    sub_judges hf (by decide) <| (timestamp_judges _ _).bind fun _ =>
    sub_judges hf (by decide) <| (base64Bytes_judges _ (by decide) _).bind fun _ => Decides.pure ()
  exact h.congr ⟨fun ⟨h₁, h₂, h₃, h₄, h₅, h₆, h₇, h₈, _⟩ => ⟨⟨h₁, ⟨kind, h₂, hk⟩, h₃, h₄, h₅, h₆, h₇, h₈⟩, h₂⟩,
    fun ⟨⟨h₁, _, h₃, h₄, h₅, h₆, h₇, h₈⟩, h₂⟩ => ⟨h₁, h₂, h₃, h₄, h₅, h₆, h₇, h₈, trivial⟩⟩

theorem validatePack_judges {pack : Json} (hw : pack.WF) : Judges (validatePack pack)
    (PackShape pack ∧ ∀ r ∈ roleRecords, (pack.item r.1).item "record_type" = .str r.2.2) () := by
  have h : Judges (validatePack pack) _ () :=
    (exactObject_judges hw (by decide) "pack").bind fun hf =>
    sub_judges hf (by decide) <| (equal_judges _ _ _).bind fun _ =>
    sub_judges hf (by decide) <| (equal_judges _ _ _).bind fun _ =>
    sub_judges hf (by decide) <| (equal_judges _ _ _).bind fun _ =>
    sub_judges hf (by decide) <| (equal_judges _ _ _).bind fun _ =>
    sub_judges hf (by decide) <| (validateScope_judges (wf_item hw _)).bind fun _ =>
    sub_judges hf (by decide) <| (digest_judges _ _).bind fun _ =>
    sub_judges hf (by decide) <| (require_judges _ _).bind fun _ =>
    (validateEvents_judges 0 (wf_items (wf_item hw _))).bind fun _ =>
    sub_judges hf (by decide) <| (exactObject_judges (wf_item hw _) (by decide) _).bind fun hm =>
    sub_judges hm (by decide) <| (equal_judges _ _ _).bind fun _ =>
    sub_judges hm (by decide) <| (digest_judges _ _).bind fun _ =>
    Decides.forM fun r (hr : r ∈ roleRecords) =>
      sub_judges hf (by revert r; decide) <|
        validateRecord_judges (wf_item hw _) _ (by revert r; simp only [Printable]; decide)
  refine h.congr ?_
  simp only [Bool.and_eq_true, Bool.not_eq_true', decide_eq_false_iff_not, not_lt, and_assoc]
  constructor
  · rintro ⟨h₁, h₂, h₃, h₄, h₅, h₆, h₇, h₈, h₉, h₁₀, h₁₁, h₁₂, h₁₃, h₁₄, h₁₅⟩
    exact ⟨⟨h₁, h₂, h₃, h₄, h₅, h₆, h₇, h₈, h₉, h₁₀, h₁₁, h₁₂, h₁₃, h₁₄, fun r hr => (h₁₅ r hr).1⟩,
      fun r hr => (h₁₅ r hr).2⟩
  · rintro ⟨⟨h₁, h₂, h₃, h₄, h₅, h₆, h₇, h₈, h₉, h₁₀, h₁₁, h₁₂, h₁₃, h₁₄, h₁₅⟩, h₁₆⟩
    exact ⟨h₁, h₂, h₃, h₄, h₅, h₆, h₇, h₈, h₉, h₁₀, h₁₁, h₁₂, h₁₃, h₁₄, fun r hr => ⟨h₁₅ r hr, h₁₆ r hr⟩⟩

/-- The loop over the roles: each entry has its shape and differs from those before it. -/
def RolesFrom (roles : Json) (ids : List Json) (keys : List Bytes) : List String → Prop
  | [] => True
  | role :: rest => RoleShape (roles.item role) ∧ (roles.item role).item "key_id" ∉ ids ∧
      rawOf ((roles.item role).item "public_key") ∉ keys ∧
      RolesFrom roles ((roles.item role).item "key_id" :: ids) (rawOf ((roles.item role).item "public_key") :: keys) rest

theorem rolesFrom_iff (roles : Json) (ids : List Json) (keys : List Bytes) (names : List String) :
    RolesFrom roles ids keys names ↔ (∀ r ∈ names, RoleShape (roles.item r)) ∧
      (names.Pairwise fun r r' => RolesDiffer (roles.item r) (roles.item r')) ∧
      ∀ r ∈ names, (roles.item r).item "key_id" ∉ ids ∧ rawOf ((roles.item r).item "public_key") ∉ keys := by
  induction names generalizing ids keys with
  | nil => simp [RolesFrom]
  | cons role names ih =>
    have hcons {a b : Json} {p q : Bytes} : (b ∉ a :: ids ∧ q ∉ p :: keys) ↔
        (a ≠ b ∧ p ≠ q) ∧ b ∉ ids ∧ q ∉ keys := by
      rw [List.mem_cons, List.mem_cons, not_or, not_or, and_and_and_comm, eq_comm, @eq_comm _ q]
    simp only [RolesFrom, ih, List.forall_mem_cons, List.pairwise_cons, hcons, RolesDiffer, forall_and]
    constructor
    · rintro ⟨hs, hid, hkey, hall, hpair, ⟨hd, hd'⟩, hids, hkeys⟩
      exact ⟨⟨hs, hall⟩, ⟨⟨hd, hd'⟩, hpair⟩, ⟨hid, hids⟩, hkey, hkeys⟩
    · rintro ⟨⟨hs, hall⟩, ⟨⟨hd, hd'⟩, hpair⟩, ⟨hid, hids⟩, hkey, hkeys⟩
      exact ⟨hs, hid, hkey, hall, hpair, ⟨hd, hd'⟩, hids, hkeys⟩

theorem mem_map_hex {raw : Bytes} {keys : List Bytes} : hex raw ∈ keys.map hex ↔ raw ∈ keys :=
  List.mem_map_of_injective hex_injective

theorem validateRoles_judges {roles : Json} (hw : roles.WF) (hr : roles.hasFields roleNames = true)
    (ids : List Json) (keys : List Bytes) (publicKeys : List (String × Bytes)) {names : List String}
    (hnames : ∀ r ∈ names, r ∈ roleNames) :
    Judges (validateRoles roles ids (keys.map hex) publicKeys names) (RolesFrom roles ids keys names)
      ((names.map fun r => (r, rawOf ((roles.item r).item "public_key"))).reverse ++ publicKeys) := by
  induction names generalizing ids keys publicKeys with
  | nil => exact Decides.pure publicKeys
  | cons role names ih =>
    have hrest := ih ((roles.item role).item "key_id" :: ids) (rawOf ((roles.item role).item "public_key") :: keys)
      ((role, rawOf ((roles.item role).item "public_key")) :: publicKeys)
      fun r h => hnames r (List.mem_cons_of_mem _ h)
    have h : Judges (validateRoles roles ids (keys.map hex) publicKeys (role :: names)) _ _ :=
      sub_judges hr (hnames role (by simp)) <|
      (exactObject_judges (wf_item hw _) (by decide) _).bind fun hf =>
      sub_judges hf (by decide) <| (printable_judges _ _).bind fun _ =>
      sub_judges hf (by decide) <| (base64Bytes_judges _ (by decide) _).bind fun _ =>
      (require_judges _ _).bind fun _ => hrest
    refine (h.congr ?_).value fun _ => ?_
    · simp only [RolesFrom, RoleShape, Bool.not_eq_true', Bool.or_eq_false_iff, decide_eq_false_iff_not, mem_map_hex,
        and_assoc]
    · rw [List.map_cons, List.reverse_cons, List.append_assoc]
      rfl

theorem validateTrust_judges {trust : Json} (hw : trust.WF) :
    Judges (validateTrust trust) (TrustShape trust) (roleKeys trust) := by
  have h : Judges (validateTrust trust) _ (roleKeys trust) :=
    (exactObject_judges hw (by decide) "trust").bind fun hf =>
    sub_judges hf (by decide) <| (equal_judges _ _ _).bind fun _ =>
    sub_judges hf (by decide) <| (equal_judges _ _ _).bind fun _ =>
    sub_judges hf (by decide) <| (digest_judges _ _).bind fun _ =>
    sub_judges hf (by decide) <| (exactObject_judges (wf_item hw _) (by decide) _).bind fun hr =>
    validateRoles_judges (wf_item hw _) hr [] [] [] fun r (h : r ∈ roleNames) => h
  refine h.congr ?_
  rw [trustShape_iff]
  simp only [rolesFrom_iff, List.not_mem_nil, not_false_eq_true, and_self, implies_true, and_true]

/-! ## The phases of `verifyPack` -/

section Verify
variable (py : Platform)

theorem commitment_ok {v : Json} (h : Subset 0 v) : commitment py v = .ok (digestOf py v) := by
  rw [commitment, (lift_judges (node_canonical_decides py v)).accepts h]
  rfl

theorem leafDigests_ok {events : List Json} (h : ∀ e ∈ events, Subset 0 e) :
    leafDigests py events = .ok (events.map fun e => (merkleHash py).leaf (canonBytes py e)) := by
  induction events with
  | nil => rfl
  | cons e events ih =>
    have hrest := ih fun f hf => h f (List.mem_cons_of_mem _ hf)
    rw [leafDigests] at hrest ⊢
    rw [List.mapM_cons, (lift_judges (node_canonical_decides py e)).accepts (h e (by simp)), hrest]
    rfl

/-- A range of leaf digests has the root of the tree over that part of the list. -/
theorem subtree_eq (ds : List Bytes) {first stop : ℕ} (h : first ≤ stop) (hs : stop ≤ ds.length) :
    subtree py (ds.map (merkleHash py).leaf) first stop =
      (merkleHash py).root (.ofList ((ds.drop first).take (stop - first))) := by
  generalize hleaves : ds.map (merkleHash py).leaf = leaves
  fun_induction subtree py leaves first stop with
  | case1 first stop h₀ =>
    rw [h₀, List.take_zero, Merkle.Tree.ofList_nil]
    rfl
  | case2 first stop h₀ h₁ =>
    have hlt : first < ds.length := by omega
    rw [h₁, List.drop_eq_getElem_cons hlt, List.take_succ_cons, List.take_zero, Merkle.Tree.ofList_singleton,
      ← hleaves, List.getD_eq_getElem?_getD, List.getElem?_map, List.getElem?_eq_getElem hlt]
    rfl
  | case3 first stop h₀ h₁ split ihl ihr =>
    have hsplit : split = Merkle.splitPoint (stop - first) := splitLoop_one (by omega)
    have hlt := Merkle.splitPoint_lt (show 2 ≤ stop - first by omega)
    have hlen : ((ds.drop first).take (stop - first)).length = stop - first := by
      rw [List.length_take, List.length_drop]
      omega
    rw [(merkleHash py).root_split (by omega), hlen, ← hsplit, List.take_take, List.drop_take, List.drop_drop,
      ihl (by omega) (by omega), ihr (by omega) hs, Nat.add_sub_cancel_left, Nat.min_eq_left (by omega),
      show stop - first - split = stop - (first + split) by omega]
    rfl

theorem merkleRoot_ok {events : List Json} (h : ∀ e ∈ events, Subset 0 e) :
    merkleRoot py events = .ok (rootOf py events) := by
  rw [merkleRoot, leafDigests_ok py h]
  have := subtree_eq py (events.map (canonBytes py)) (Nat.zero_le _) le_rfl
  rw [List.drop_zero, Nat.sub_zero, List.take_length, List.map_map, List.length_map] at this
  simp only [bind, Except.bind, List.length_map, rootOf, ← this]
  rfl

theorem verifySignature_judges {v : Json} (hs : Subset 0 v) (hb : IsBase64 64 (v.item "signature")) (key : Bytes)
    (label : String) : Judges (verifySignature py (without ["signature"] v) (v.item "signature") key label)
      (SignedBy py key v) () := by
  have h : Judges (verifySignature py (without ["signature"] v) (v.item "signature") key label) _ () :=
    (base64Bytes_judges _ (by decide) _).bind fun _ => (require_judges _ _).bind fun _ =>
    Decides.known ((lift_judges (node_canonical_decides py _)).accepts (subset_without ["signature"] hs)) <|
    require_judges _ _
  exact h.congr (and_iff_right hb)

theorem signedEvent_judges {trust : Json} (ht : TrustShape trust) {event : Json} (he : EventShape event)
    (hs : Subset 0 event) : Judges (signedEvent py trust (roleKey trust "producer") event)
      (SignedEvent py trust event) () := by
  have hf := he.fields
  have h : Judges (signedEvent py trust (roleKey trust "producer") event) _ () :=
    sub_judges hf (by decide) <| sub_judges ht.fields (by decide) <| sub_judges ht.roles (by decide) <|
    sub_judges (ht.role "producer" (by decide)).1 (by decide) <| (equal_judges _ _ _).bind fun _ =>
    sub_judges hf (by decide) <|
    Decides.known (commitment_ok py (subset_without ["payload_hash", "signature"] hs)) <|
    (equal_judges _ _ _).bind fun _ =>
    sub_judges hf (by decide) <| verifySignature_judges py hs he.signature _ "event"
  exact h.congr ⟨fun ⟨h₁, h₂, h₃⟩ => ⟨h₁, h₂, h₃⟩, fun ⟨h₁, h₂, h₃⟩ => ⟨h₁, h₂, h₃⟩⟩

theorem lessText_empty (v : Json) : lessText v (.str "") = false := by
  cases v with
  | str s => exact decide_eq_false (List.not_lt_nil s.toList)
  | _ => rfl

/-- A text stands for the time before an event: the time of the event before it, or at first the
    empty text, which no text is below, for the start of the window. -/
def Stands (start time : DateTime) (text : Json) : Prop :=
  (IsTime text ∧ instant text = time) ∨ (text = .str "" ∧ time = start)

theorem Stands.not_lessText {start time : DateTime} {text v : Json} (h : Stands start time text) (hv : IsTime v)
    (hs : start ≤ instant v) : (!lessText v text) = true ↔ time ≤ instant v := by
  rcases h with ⟨ht, rfl⟩ | ⟨rfl, rfl⟩
  · exact not_lessText_iff hv ht
  · rw [lessText_empty]
    exact iff_of_true rfl hs

theorem sequenced_judges {scope : Json} (hscope : ScopeShape scope) (index : ℕ) (seen : List Json)
    {previous : DateTime} {text : Json} (ht : Stands (instant (scope.item "window_start")) previous text)
    {events : List Json} (he : ∀ e ∈ events, EventShape e) :
    Judges (sequenced scope index seen text events) (SequencedFrom scope (index + 1) seen previous events) () := by
  induction events generalizing index seen previous text with
  | nil => exact Decides.pure ()
  | cons e events ih =>
    have hf := (he e (by simp)).fields
    have htime := (he e (by simp)).time
    have hrest := ih (index + 1) (e.item "event_id" :: seen) (Or.inl ⟨htime, rfl⟩)
      fun f hmem => he f (List.mem_cons_of_mem _ hmem)
    have h : Judges (sequenced scope index seen text (e :: events)) _ () :=
      sub_judges hf (by decide) <| (require_judges _ _).bind fun _ =>
      sub_judges hf (by decide) <| (equal_judges _ _ _).bind fun _ =>
      sub_judges hf (by decide) <| sub_judges hscope.fields (by decide) <| (equal_judges _ _ _).bind fun _ =>
      sub_judges hf (by decide) <| sub_judges hscope.fields (by decide) <| (equal_judges _ _ _).bind fun _ =>
      sub_judges hf (by decide) <| sub_judges hscope.fields (by decide) <| sub_judges hscope.fields (by decide) <|
      ((require_judges _ _).congr (window_iff hscope htime)).bind fun hwindow =>
      ((require_judges _ _).congr (ht.not_lessText htime hwindow.1)).bind fun _ => hrest
    refine h.congr ?_
    simp only [SequencedFrom, decide_eq_true_eq]
    constructor
    · rintro ⟨h₁, h₂, h₃, h₄, ⟨h₅, h₆⟩, h₇, h₈⟩
      exact ⟨by exact_mod_cast h₂, h₁, ⟨h₃, h₄⟩, ⟨h₅, h₆, h₇⟩, h₈⟩
    · rintro ⟨h₂, h₁, ⟨h₃, h₄⟩, ⟨h₅, h₆, h₇⟩, h₈⟩
      exact ⟨h₁, by exact_mod_cast h₂, h₃, h₄, ⟨h₅, h₆⟩, h₇, h₈⟩

theorem roleRecord_judges {pack trust : Json} (hp : PackShape pack) (ht : TrustShape trust) (hs : Subset 0 pack)
    {r : String × String × String} (hr : r ∈ roleRecords)
    (hkind : (pack.item r.1).item "record_type" = .str r.2.2) :
    Judges (roleRecord py pack trust (roleKeys trust) (rootOf py (items (pack.item "events")))
      (digestOf py (pack.item "scope")) (items (pack.item "events")).length r.1 r.2.1)
      (RecordBinds py pack trust r.1 r.2.1 r.2.2) () := by
  have hfield := roleRecords_names r hr
  have hrec := hp.records r hr
  have hf := hrec.fields
  have hsub : Subset 0 (pack.item r.1) := subset_mono (Nat.zero_le _) _ (subset_item hp.fields hfield.1 hs)
  have hkey : keyOf (roleKeys trust) r.2.1 = roleKey trust r.2.1 := by
    rw [keyOf, lookup_roleKeys trust hfield.2]
    rfl
  have hsig := verifySignature_judges py hsub hrec.signature (keyOf (roleKeys trust) r.2.1) r.1
  have h : Judges (roleRecord py pack trust (roleKeys trust) (rootOf py (items (pack.item "events")))
      (digestOf py (pack.item "scope")) (items (pack.item "events")).length r.1 r.2.1) _ () :=
    sub_judges hp.fields hfield.1 <|
    sub_judges hf (by decide) <| sub_judges ht.fields (by decide) <| sub_judges ht.roles hfield.2 <|
    sub_judges (ht.role _ hfield.2).1 (by decide) <| (equal_judges _ _ _).bind fun _ =>
    sub_judges hf (by decide) <| hsig.bind fun _ =>
    sub_judges hf (by decide) <| (equal_judges _ _ _).bind fun _ =>
    sub_judges hf (by decide) <| (equal_judges _ _ _).bind fun _ =>
    sub_judges hf (by decide) <| (equal_judges _ _ _).bind fun _ =>
    sub_judges hf (by decide) <| sub_judges hp.fields (by decide) <| sub_judges hp.scope.fields (by decide) <|
    (require_judges _ _).congr (not_lessText_iff hrec.issued hp.scope.stop)
  refine h.congr ?_
  rw [hkey]
  exact ⟨fun ⟨h₁, h₂, h₃, h₄, h₅, h₆⟩ => ⟨hkind, h₁, h₃, h₄, h₅, h₆, h₂⟩,
    fun ⟨_, h₁, h₃, h₄, h₅, h₆, h₂⟩ => ⟨h₁, h₂, h₃, h₄, h₅, h₆⟩⟩

end Verify

/-! ## The groups -/

def groupsOf (events : List Json) : Groups := ⟨groupOf true events, groupOf false events⟩

theorem groupsOf_after (earlier : List Json) (event : Json) : groupsOf (earlier ++ [event]) =
    if isAttempt event then
      ⟨groupOf true earlier ++ [(attemptId event, event.item "sequence_no")], groupOf false earlier⟩
    else ⟨groupOf true earlier, groupOf false earlier ++ [(attemptId event, event.item "sequence_no")]⟩ := by
  cases ha : isAttempt event <;> simp [groupsOf, groupOf, List.filter_append, ha]

theorem groupEvent_judges (earlier : List Json) {event : Json} (he : EventShape event) :
    Judges (groupEvent (groupsOf earlier) event) (entry event ∉ earlier.map entry)
      (groupsOf (earlier ++ [event])) := by
  have hid : "attempt_id" ∈ if isAttempt event then attemptFields else outcomeFields := by
    split_ifs <;> decide
  have hf := he.fields
  have hnew : attemptId event ∉ (groupOf (isAttempt event) earlier).map Prod.fst ↔ entry event ∉ earlier.map entry :=
    not_congr mem_groupOf_ids
  rw [groupsOf_after, groupEvent]
  refine sub_judges hf (by decide) ?_
  dsimp only
  refine sub_judges hf (by decide) <| sub_judges he.provenance_fields hid ?_
  by_cases ha : event.item "event_type" = .str attemptType
  · have hat : isAttempt event = true := decide_eq_true ha
    rw [hat] at hnew
    simp only [if_pos ha, if_pos hat]
    exact Decides.congr (((require_judges _ _).congr (decide_eq_true_iff.trans hnew)).bind fun _ =>
      sub_judges hf (by decide) <| Decides.pure _) (iff_of_eq (and_true _))
  · have hat : ¬isAttempt event = true := fun h => ha (of_decide_eq_true h)
    rw [Bool.not_eq_true] at hat
    rw [hat] at hnew
    simp only [if_neg ha, hat]
    exact Decides.congr (((require_judges _ _).congr (decide_eq_true_iff.trans hnew)).bind fun _ =>
      sub_judges hf (by decide) <| Decides.pure _) (iff_of_eq (and_true _))

theorem groupEvents_judges (earlier : List Json) {events : List Json} (he : ∀ e ∈ events, EventShape e) :
    Judges (groupEvents (groupsOf earlier) events)
      ((events.map entry).Nodup ∧ ∀ e ∈ events, entry e ∉ earlier.map entry) (groupsOf (earlier ++ events)) := by
  induction events generalizing earlier with
  | nil => exact ((Decides.pure _).congr (by simp)).value fun _ => by rw [List.append_nil]
  | cons e events ih =>
    have h : Judges (groupEvents (groupsOf earlier) (e :: events)) _ _ :=
      (groupEvent_judges earlier (he e (by simp))).bind fun _ =>
        ih (earlier ++ [e]) fun f hf => he f (List.mem_cons_of_mem _ hf)
    refine (h.congr ?_).value fun _ => by rw [List.append_assoc]; rfl
    simp only [List.map_append, List.map_cons, List.map_nil, List.mem_append, List.mem_singleton, not_or,
      List.nodup_cons, List.forall_mem_cons, forall_and, List.mem_map, not_exists, not_and]
    constructor
    · rintro ⟨hnew, hnodup, hall, hne⟩
      exact ⟨⟨hne, hnodup⟩, hnew, hall⟩
    · rintro ⟨⟨hne, hnodup⟩, hnew, hall⟩
      exact ⟨hnew, hnodup, hall, hne⟩

theorem answered_judges (outcomes attempts : List (Json × Json)) : Judges (answered outcomes attempts)
    (∀ q ∈ attempts, ∃ later, outcomes.lookup q.1 = some later ∧ lessOrEqual later q.2 = false) () := by
  refine Decides.forM fun q _ => ?_
  obtain ⟨id, sequence⟩ := q
  dsimp only
  cases outcomes.lookup id with
  | none => exact Decides.congr (refuse_judges _ ()) (by simp)
  | some later => exact Decides.congr (require_judges _ _) (by simp)

/-- Every attempt has an outcome after it. -/
def AnsweredLater (events : List Json) : Prop :=
  ∀ a ∈ events, isAttempt a = true → ∃ earlier e later, events = earlier ++ e :: later ∧ a ∈ earlier ∧
    isAttempt e = false ∧ attemptId e = attemptId a

theorem answered_iff {scope : Json} {events : List Json} (hseq : Sequenced scope events)
    (he : ∀ e ∈ events, EventShape e) (hnodup : (events.map entry).Nodup) :
    (∀ q ∈ groupOf true events, ∃ later, (groupOf false events).lookup q.1 = some later ∧
      lessOrEqual later q.2 = false) ↔ AnsweredLater events := by
  have hless {a e : Json} (ha : a ∈ events) (hmem : e ∈ events) :
      lessOrEqual (e.item "sequence_no") (a.item "sequence_no") = false ↔
        ∃ earlier later, events = earlier ++ e :: later ∧ a ∈ earlier := by
    obtain ⟨m, hm, -⟩ := (he a ha).sequence
    obtain ⟨n, hn, -⟩ := (he e hmem).sequence
    rw [← hseq.before_iff ha hmem hm hn, hm, hn, lessOrEqual, decide_eq_false_iff_not, not_le]
  have hlookup {id later : Json} : (groupOf false events).lookup id = some later ↔
      ∃ e ∈ events, isAttempt e = false ∧ attemptId e = id ∧ e.item "sequence_no" = later := by
    rw [← mem_groupOf]
    refine ⟨fun h => ?_, fun h => lookup_of_mem (groupOf_ids_nodup hnodup) h⟩
    obtain ⟨l₁, l₂, hl, -⟩ := List.lookup_eq_some_iff.1 h
    rw [hl]
    simp
  constructor
  · intro h a ha hat
    obtain ⟨later, hl, hle⟩ := h (attemptId a, a.item "sequence_no") (mem_groupOf.2 ⟨a, ha, hat, rfl, rfl⟩)
    obtain ⟨e, hmem, hout, hid, rfl⟩ := hlookup.1 hl
    obtain ⟨earlier, rest, hs, hin⟩ := (hless ha hmem).1 hle
    exact ⟨earlier, e, rest, hs, hin, hout, hid⟩
  · rintro h ⟨id, n⟩ hq
    obtain ⟨a, ha, hat, rfl, rfl⟩ := mem_groupOf.1 hq
    obtain ⟨earlier, e, rest, hs, hin, hout, hid⟩ := h a ha hat
    have hmem : e ∈ events := by simp [hs]
    exact ⟨_, hlookup.2 ⟨e, hmem, hout, hid, rfl⟩, (hless ha hmem).2 ⟨earlier, rest, hs, hin⟩⟩

/-- What the groups are checked for is the bijection. -/
theorem bijection_groups {scope : Json} {events : List Json} (hseq : Sequenced scope events)
    (he : ∀ e ∈ events, EventShape e) (count : Json) : Bijection events count ↔
      (events.map entry).Nodup ∧ ((groupOf true events).length = (groupOf false events).length ∧
        Json.int (groupOf true events).length = count) ∧
        ∀ q ∈ groupOf true events, ∃ later, (groupOf false events).lookup q.1 = some later ∧
          lessOrEqual later q.2 = false := by
  have hcount : (groupOf true events).length = (events.filter isAttempt).length := by
    simp [groupOf]
  have hback (h : AnsweredLater events) (id : Json) (hid : (true, id) ∈ events.map entry) :
      (false, id) ∈ events.map entry := by
    obtain ⟨a, ha, hat, rfl⟩ := mem_entries.1 hid
    obtain ⟨earlier, e, later, rfl, -, hout, heq⟩ := h a ha hat
    exact mem_entries.2 ⟨e, by simp, hout, heq⟩
  constructor
  · rintro ⟨honce, hbefore, hanswered, hc⟩
    have hlater : AnsweredLater events := by
      intro a ha hat
      obtain ⟨e, hmem, hout, hid⟩ := hanswered a ha hat
      obtain ⟨earlier, later, hs⟩ := List.append_of_mem hmem
      obtain ⟨b, hb, hbat, hbid⟩ := hbefore earlier e later hs hout
      have hab : b = a := List.inj_on_of_nodup_map honce (by rw [hs]; exact List.mem_append_left _ hb) ha
        (Prod.ext (hbat.trans hat.symm) (hbid.trans hid))
      exact ⟨earlier, e, later, hs, hab ▸ hb, hout, hid⟩
    refine ⟨honce, ⟨(groupOf_subset_length honce (hback hlater)).2 fun id hid => ?_, ?_⟩,
      (answered_iff hseq he honce).2 hlater⟩
    · obtain ⟨e, hmem, hout, rfl⟩ := mem_entries.1 hid
      obtain ⟨earlier, later, rfl⟩ := List.append_of_mem hmem
      obtain ⟨b, hb, hbat, hbid⟩ := hbefore earlier e later rfl hout
      exact mem_entries.2 ⟨b, List.mem_append_left _ hb, hbat, hbid⟩
    · rw [hc, hcount]
  · rintro ⟨honce, ⟨hlen, hc⟩, hall⟩
    have hlater := (answered_iff hseq he honce).1 hall
    have hattempts := (groupOf_subset_length honce (hback hlater)).1 hlen
    refine ⟨honce, fun earlier e later hs hout => ?_, fun a ha hat => ?_, by rw [← hc, hcount]⟩
    · have hmem : e ∈ events := by simp [hs]
      obtain ⟨a, ha, hat, hid⟩ := mem_entries.1 (hattempts _ (mem_entries.2 ⟨e, hmem, hout, rfl⟩))
      obtain ⟨earlier', e', later', hs', hin, hout', hid'⟩ := hlater a ha hat
      have hee : e' = e := List.inj_on_of_nodup_map honce (by simp [hs']) hmem
        (Prod.ext (hout'.trans hout.symm) (hid'.trans hid))
      have hnd := List.Nodup.of_map entry honce
      rw [hs, List.nodup_middle, List.nodup_cons, List.mem_append, not_or] at hnd
      rw [hs, hee] at hs'
      obtain ⟨rfl, -, -⟩ := (List.append_cons_inj_of_notMem hnd.1.1 hnd.1.2).1 hs'
      exact ⟨a, hin, hat, hid⟩
    · obtain ⟨earlier, e, later, rfl, -, hout, hid⟩ := hlater a ha hat
      exact ⟨e, by simp, hout, hid⟩

/-! ## `verifyPack` -/

/-- `verifyPack` accepts what `verify_pack` accepts, and refuses the rest. -/
theorem verifyPack_judges (py : Platform) {pack trust : Json} (hpw : pack.WF) (htw : trust.WF) :
    Judges (verifyPack py pack trust) (Accepted py pack trust) checkNames := by
  have h : Judges (verifyPack py pack trust) _ checkNames :=
    (lift_judges (node_canonical_decides py pack)).bind fun hpack =>
    (lift_judges (node_canonical_decides py trust)).bind fun htrust =>
    (validatePack_judges hpw).bind fun ⟨hp, hkinds⟩ => (validateTrust_judges htw).bind fun hts =>
    have hsub (k : String) (hk : k ∈ packFields) : Subset 0 (pack.item k) :=
      subset_mono (Nat.zero_le _) _ (subset_item hp.fields hk hpack)
    have hevents (e : Json) (he : e ∈ items (pack.item "events")) : Subset 0 e :=
      subset_mono (Nat.zero_le _) _ (subset_items (hsub "events" (by decide)) e he)
    sub_judges hp.fields (by decide) <| Decides.known (commitment_ok py (hsub "scope" (by decide))) <|
    sub_judges hp.fields (by decide) <| (equal_judges _ _ _).bind fun _ =>
    sub_judges hts.fields (by decide) <| (equal_judges _ _ _).bind fun _ =>
    sub_judges hp.fields (by decide) <|
    (Decides.forM fun e he => signedEvent_judges py hts (hp.events e he) (hevents e he)).bind fun _ =>
    ((sequenced_judges hp.scope 0 [] (Or.inr ⟨rfl, rfl⟩) hp.events).congr (sequenced_iff _ _)).bind fun hseq =>
    Decides.known (merkleRoot_ok py hevents) <|
    sub_judges hp.fields (by decide) <| sub_judges hp.merkle (by decide) <| (equal_judges _ _ _).bind fun _ =>
    (Decides.forM fun r hr => roleRecord_judges py hp hts hpack hr (hkinds r hr)).bind fun _ =>
    (groupEvents_judges [] hp.events).bind fun _ =>
    sub_judges hp.scope.fields (by decide) <| (require_judges _ _).bind fun _ =>
    (answered_judges _ _).bind fun _ => Decides.pure checkNames
  refine h.congr ?_
  simp only [and_true, List.map_nil, List.not_mem_nil, not_false_eq_true, implies_true, List.nil_append, Bool.not_eq_true',
    Bool.or_eq_false_iff, decide_eq_false_iff_not, ne_eq, not_not]
  constructor
  · rintro ⟨h₁, h₂, ⟨h₃, h₄⟩, h₅, h₆, h₇, h₈, h₉, h₁₀, h₁₁, h₁₂⟩
    exact ⟨h₁, h₂, h₃, h₅, ⟨h₆, h₇⟩, h₈, h₉, h₁₀, h₁₁, (bijection_groups h₉ h₃.events _).2 h₁₂⟩
  · rintro ⟨h₁, h₂, h₃, h₅, ⟨h₆, h₇⟩, h₈, h₉, h₁₀, h₁₁, h₁₂⟩
    exact ⟨h₁, h₂, ⟨h₃, fun r hr => (h₁₁ r hr).typed⟩, h₅, h₆, h₇, h₈, h₉, h₁₀, h₁₁,
      (bijection_groups h₉ h₃.events _).1 h₁₂⟩

end Node
end VapEvidence.Evidence
