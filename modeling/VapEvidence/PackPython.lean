import VapEvidence.PackDecision
import VapEvidence.VerifyPython

set_option autoImplicit false

/-!
# What the Python verifier accepts

Each function of `verify_python.py` decides its part of `Accepted`, and so never
raises anything but `VerificationError`.
-/
namespace VapEvidence.Evidence
open Json

namespace Python

theorem shape_judges (value : Json) (fields : List String) (label : String) :
    Judges (shape value fields label) (value.hasFields fields = true) () := require_judges _ _

theorem string_judges (value : Json) (label : String) : Judges (string value label) (IsText value) () := by
  cases value with
  | str s =>
    refine (require_judges _ _).congr ?_
    simp only [IsText, Printable, Bool.and_eq_true, decide_eq_true_eq, Json.str.injEq, exists_eq_left', ne_eq,
      ← String.length_eq_zero_iff, Nat.pos_iff_ne_zero]
    tauto
  | _ => exact (refuse_judges _ ()).congr (by simp [IsText])

theorem count_judges (value : Json) (low high : ℤ) (label : String) :
    Judges (count value low high label) (IsCount low high value) () := by
  cases value with
  | int n => exact (require_judges _ _).congr (by simp [IsCount])
  | _ => exact (refuse_judges _ ()).congr (by simp [IsCount])

theorem hexDigest_judges (value : Json) (label : String) :
    Judges (hexDigest value label) (IsDigest value) () := by
  cases value with
  | str s => exact (require_judges _ _).congr (by simp [IsDigest])
  | _ => exact (refuse_judges _ ()).congr (by simp [IsDigest])

theorem base64_judges (value : Json) (size : ℕ) (label : String) :
    Judges (base64 value size label) (IsBase64 size value) (rawOf value) := by
  cases value with
  | str s =>
    cases hd : Base64.decodeStrict s.toList with
    | none =>
      simp only [base64, hd]
      refine (refuse_judges _ _).congr (iff_of_false id ?_)
      rw [isBase64_str]
      rintro ⟨raw, hs, -⟩
      rw [← hs, Base64.decodeStrict_encode] at hd
      cases hd
    | some raw =>
      simp only [base64, hd]
      have h : Judges (require (raw.length = size && Base64.encode raw = s.toList) _ >>= fun _ => .ok raw) _ raw :=
        (require_judges _ (label ++ " has the wrong length or noncanonical base64")).bind fun _ => Decides.pure raw
      refine (h.congr ?_).value ?_
      · rw [isBase64_str]
        simp only [Bool.and_eq_true, decide_eq_true_eq, and_true]
        constructor
        · rintro ⟨hl, he⟩
          exact ⟨raw, he, hl⟩
        · rintro ⟨raw', he, hl⟩
          rw [← he, Base64.decodeStrict_encode] at hd
          cases hd
          exact ⟨hl, he⟩
      · rw [isBase64_str]
        rintro ⟨raw', he, -⟩
        rw [← he, Base64.decodeStrict_encode] at hd
        cases hd
        rw [rawOf, ← he, Base64.decodeLoose_encode]
  | _ => exact (refuse_judges _ _).congr (iff_of_false id (by rintro ⟨_, h, -⟩; cases h))

theorem timestamp_judges (value : Json) (label : String) :
    Judges (timestamp value label) (IsTime value) (instant value) := by
  cases value with
  | str s =>
    by_cases hf : fits template s.toList = true
    · cases ht : strptime s.toList with
      | none =>
        simp only [timestamp, hf, if_true, ht]
        exact (refuse_judges _ _).congr (by simp [IsTime, timeOf, ht])
      | some t =>
        simp only [timestamp, hf, if_true, ht]
        exact ((Decides.pure t).congr (by simp [IsTime, timeOf, ht])).value fun _ => by simp [instant, timeOf, ht]
    · have ht : strptime s.toList = none := if_neg hf
      simp only [timestamp, hf]
      exact (refuse_judges _ _).congr (by simp [IsTime, timeOf, ht])
  | _ => exact (refuse_judges _ _).congr (by simp [IsTime, timeOf])

/-- The loop over the text fields of an object. -/
theorem texts_judges {v : Json} {fields keys : List String} (h : v.hasFields fields = true)
    (hk : ∀ k ∈ keys, k ∈ fields) (label : String → String) :
    Judges (keys.forM fun key => do string (← sub v key) (label key)) (∀ k ∈ keys, IsText (v.item k)) () :=
  Decides.forM fun k hmem => sub_judges h (hk k hmem) (string_judges _ _)

theorem validateScope_judges (scope : Json) : Judges (validateScope scope) (ScopeShape scope)
    (instant (scope.item "window_start"), instant (scope.item "window_end")) := by
  have h : Judges (validateScope scope) _ _ :=
    (shape_judges scope scopeFields "scope").bind fun hf =>
    (texts_judges hf (by decide) _).bind fun _ =>
    sub_judges hf (by decide) <| (timestamp_judges _ _).bind fun _ =>
    sub_judges hf (by decide) <| (timestamp_judges _ _).bind fun _ =>
    (require_judges _ _).bind fun _ =>
    sub_judges hf (by decide) <| (require_judges _ _).bind fun _ =>
    sub_judges hf (by decide) <| (require_judges _ _).bind fun _ =>
    sub_judges hf (by decide) <| (count_judges _ _ _ _).bind fun _ => Decides.pure _
  refine h.congr ?_
  simp only [decide_eq_true_eq, and_true]
  exact ⟨fun ⟨h₁, h₂, h₃, h₄, h₅, h₆, h₇, h₈⟩ => ⟨h₁, h₂, h₃, h₄, h₅, h₆, h₇, h₈⟩,
    fun ⟨h₁, h₂, h₃, h₄, h₅, h₆, h₇, h₈⟩ => ⟨h₁, h₂, h₃, h₄, h₅, h₆, h₇, h₈⟩⟩

theorem validateProvenance_judges (p : Json) (attempt : Bool) : Judges (validateProvenance p attempt)
    ((if attempt then AttemptShape p else OutcomeShape p) ∧ ∀ k ∈ provenanceTexts, IsText (p.item k)) () := by
  cases attempt with
  | true =>
    have h : Judges (validateProvenance p true) _ _ :=
      (shape_judges p attemptFields "provenance").bind fun hf =>
      (texts_judges hf (by decide) _).bind fun _ =>
      sub_judges hf (by decide) <| (hexDigest_judges _ _).bind fun _ =>
      sub_judges hf (by decide) <| (shape_judges _ _ _).bind fun hc =>
      sub_judges hf (by decide) <| sub_judges hc (by decide) <| string_judges _ _
    refine h.congr ?_
    rw [if_pos rfl]
    exact ⟨fun ⟨h₁, h₂, h₃, h₄, h₅⟩ => ⟨⟨h₁, h₃, h₄, h₅⟩, h₂⟩, fun ⟨⟨h₁, h₃, h₄, h₅⟩, h₂⟩ => ⟨h₁, h₂, h₃, h₄, h₅⟩⟩
  | false =>
    have h : Judges (validateProvenance p false) _ _ :=
      (shape_judges p outcomeFields "provenance").bind fun hf =>
      (texts_judges hf (by decide) _).bind fun _ =>
      sub_judges hf (by decide) <| (require_judges _ _).bind fun _ =>
      sub_judges hf (by decide) <| (string_judges _ _).bind fun _ =>
      sub_judges hf (by decide) <| require_judges _ _
    refine h.congr ?_
    rw [if_neg (by decide)]
    simp only [List.any_eq_true, decide_eq_true_eq, Bool.or_eq_true, review_iff]
    exact ⟨fun ⟨h₁, h₂, h₃, h₄, h₅⟩ => ⟨⟨h₁, h₃, h₄, h₅⟩, h₂⟩, fun ⟨⟨h₁, h₃, h₄, h₅⟩, h₂⟩ => ⟨h₁, h₂, h₃, h₄, h₅⟩⟩

theorem validateEvent_judges (event : Json) : Judges (validateEvent event) (EventShape event) () := by
  have h : Judges (validateEvent event) _ _ :=
    (shape_judges event eventFields "event").bind fun hf =>
    sub_judges hf (by decide) <| (require_judges _ _).bind fun _ =>
    sub_judges hf (by decide) <| (require_judges _ _).bind fun _ =>
    (texts_judges hf (by decide) _).bind fun _ =>
    sub_judges hf (by decide) <| (count_judges _ _ _ _).bind fun _ =>
    sub_judges hf (by decide) <| (timestamp_judges _ _).bind fun _ =>
    sub_judges hf (by decide) <| (hexDigest_judges _ _).bind fun _ =>
    sub_judges hf (by decide) <| (base64_judges _ _ _).bind fun _ =>
    sub_judges hf (by decide) <| validateProvenance_judges _ _
  refine h.congr ?_
  rw [kinds_iff, decide_eq_true_eq]
  exact ⟨fun ⟨h₁, h₂, h₃, h₄, h₅, h₆, h₇, h₈, h₉, h₁₀⟩ => ⟨h₁, h₂, h₃, h₄, h₅, h₆, h₇, h₈, h₉, h₁₀⟩,
    fun ⟨h₁, h₂, h₃, h₄, h₅, h₆, h₇, h₈, h₉, h₁₀⟩ => ⟨h₁, h₂, h₃, h₄, h₅, h₆, h₇, h₈, h₉, h₁₀⟩⟩

theorem validateRecord_judges (record : Json) (field : String) :
    Judges (validateRecord record field) (RecordShape record) () := by
  have h : Judges (validateRecord record field) _ _ :=
    (shape_judges record recordFields field).bind fun hf =>
    sub_judges hf (by decide) <| (string_judges _ _).bind fun _ =>
    sub_judges hf (by decide) <| (string_judges _ _).bind fun _ =>
    sub_judges hf (by decide) <| (hexDigest_judges _ _).bind fun _ =>
    sub_judges hf (by decide) <| (hexDigest_judges _ _).bind fun _ =>
    sub_judges hf (by decide) <| (count_judges _ _ _ _).bind fun _ =>
    sub_judges hf (by decide) <| (timestamp_judges _ _).bind fun _ =>
    sub_judges hf (by decide) <| (base64_judges _ _ _).bind fun _ => Decides.pure ()
  refine h.congr ?_
  exact ⟨fun ⟨h₁, h₂, h₃, h₄, h₅, h₆, h₇, h₈, _⟩ => ⟨h₁, h₂, h₃, h₄, h₅, h₆, h₇, h₈⟩,
    fun ⟨h₁, h₂, h₃, h₄, h₅, h₆, h₇, h₈⟩ => ⟨h₁, h₂, h₃, h₄, h₅, h₆, h₇, h₈, trivial⟩⟩

theorem validatePack_judges (pack : Json) : Judges (validatePack pack) (PackShape pack)
    (instant ((pack.item "scope").item "window_start"), instant ((pack.item "scope").item "window_end")) := by
  have h : Judges (validatePack pack) _ _ :=
    (shape_judges pack packFields "pack").bind fun hf =>
    sub_judges hf (by decide) <| (require_judges _ _).bind fun _ =>
    sub_judges hf (by decide) <| (require_judges _ _).bind fun _ =>
    sub_judges hf (by decide) <| (require_judges _ _).bind fun _ =>
    sub_judges hf (by decide) <| (require_judges _ _).bind fun _ =>
    sub_judges hf (by decide) <| (validateScope_judges _).bind fun _ =>
    sub_judges hf (by decide) <| (hexDigest_judges _ _).bind fun _ =>
    sub_judges hf (by decide) <| (require_judges _ _).bind fun _ =>
    (Decides.forM fun e _ => validateEvent_judges e).bind fun _ =>
    sub_judges hf (by decide) <| (shape_judges _ _ _).bind fun hm =>
    sub_judges hm (by decide) <| (require_judges _ _).bind fun _ =>
    sub_judges hm (by decide) <| (hexDigest_judges _ _).bind fun _ =>
    (Decides.forM fun r (hr : r ∈ roleRecords) =>
      sub_judges hf (by revert r; decide) <| validateRecord_judges _ _).bind fun _ => Decides.pure _
  refine h.congr ?_
  simp only [decide_eq_true_eq, Bool.and_eq_true, and_assoc]
  constructor
  · rintro ⟨h₁, h₂, h₃, h₄, h₅, h₆, h₇, h₈, h₉, h₁₀, h₁₁, h₁₂, h₁₃, h₁₄, h₁₅, -⟩
    exact ⟨h₁, h₂, h₃, h₄, h₅, h₆, h₇, h₈, h₉, h₁₀, h₁₁, h₁₂, h₁₃, h₁₄, h₁₅⟩
  · rintro ⟨h₁, h₂, h₃, h₄, h₅, h₆, h₇, h₈, h₉, h₁₀, h₁₁, h₁₂, h₁₃, h₁₄, h₁₅⟩
    exact ⟨h₁, h₂, h₃, h₄, h₅, h₆, h₇, h₈, h₉, h₁₀, h₁₁, h₁₂, h₁₃, h₁₄, h₁₅, trivial⟩

/-- The loop over the roles: each entry has its shape and differs from those before it. -/
def RolesFrom (keys : List Bytes) (ids : List Json) : List (String × Json) → Prop
  | [] => True
  | (_, config) :: rest => RoleShape config ∧ config.item "key_id" ∉ ids ∧
      rawOf (config.item "public_key") ∉ keys ∧
      RolesFrom (keys ++ [rawOf (config.item "public_key")]) (ids ++ [config.item "key_id"]) rest

theorem validateRoles_judges (keys : List (String × Bytes)) (ids : List Json) (ms : List (String × Json)) :
    Judges (validateRoles keys ids ms) (RolesFrom (keys.map Prod.snd) ids ms)
      (keys ++ ms.map fun m => (m.1, rawOf (m.2.item "public_key"))) := by
  induction ms generalizing keys ids with
  | nil => exact (Decides.pure keys).value fun _ => (List.append_nil keys).symm
  | cons m ms ih =>
    obtain ⟨role, config⟩ := m
    have h : Judges (validateRoles keys ids ((role, config) :: ms)) _ _ :=
      (shape_judges config ["key_id", "public_key"] "trust role").bind fun hf =>
      sub_judges hf (by decide) <| (string_judges _ _).bind fun _ =>
      sub_judges hf (by decide) <| (base64_judges _ _ _).bind fun _ =>
      (require_judges _ _).bind fun _ => ih (keys ++ [(role, rawOf (config.item "public_key"))]) _
    refine (h.congr ?_).value fun _ => by rw [List.append_assoc]; rfl
    simp only [RolesFrom, RoleShape, Bool.and_eq_true, decide_eq_true_eq, List.map_append, List.map_cons,
      List.map_nil, and_assoc]

theorem validateTrust_judges {trust : Json} (hw : trust.WF) :
    Judges (validateTrust trust) (TrustShape trust) (roleKeys trust) := by
  have h : Judges (validateTrust trust) _ _ :=
    (shape_judges trust trustFields "trust").bind fun hf =>
    sub_judges hf (by decide) <| sub_judges hf (by decide) <| (require_judges _ _).bind fun _ =>
    sub_judges hf (by decide) <| (hexDigest_judges _ _).bind fun _ =>
    sub_judges hf (by decide) <| (shape_judges _ _ _).bind fun hr =>
    ((validateRoles_judges [] [] _).congr (by rw [roles_members (wf_item hw _) hr])).value
      fun _ => by rw [roles_members (wf_item hw _) hr]
  refine h.congr ?_
  rw [trustShape_iff]
  simp only [Bool.and_eq_true, decide_eq_true_eq, RolesFrom, RolesDiffer, roleNames, and_assoc]
  simp
  tauto

/-! ## The phases of `verify_pack` -/

section Verify
variable (py : Platform)

theorem digest_ok {v : Json} (h : Subset 0 v) : digest py v = .ok (digestOf py v) := by
  rw [digest, (lift_judges (canonical_decides py v)).accepts h]
  rfl

theorem tree_ok {events : List Json} (h : ∀ e ∈ events, Subset 0 e) :
    tree py events = .ok ((merkleHash py).root (.ofList (events.map (canonBytes py)))) := by
  fun_induction tree py events with
  | case1 =>
    rw [List.map_nil, Merkle.Tree.ofList_nil]
    rfl
  | case2 leaf =>
    rw [(lift_judges (canonical_decides py leaf)).accepts (h leaf (by simp)), List.map_singleton,
      Merkle.Tree.ofList_singleton]
    rfl
  | case3 a b rest split ih₁ ih₂ =>
    have hsplit : Merkle.splitPoint ((a :: b :: rest).map (canonBytes py)).length = split := by
      rw [List.length_map]
      exact (shift_bitLength (by simp)).symm
    rw [(merkleHash py).root_split (show 2 ≤ ((a :: b :: rest).map (canonBytes py)).length by simp), hsplit,
      ← List.map_take, ← List.map_drop, ih₁ fun e he => h e (List.mem_of_mem_take he),
      ih₂ fun e he => h e (List.mem_of_mem_drop he)]
    rfl

theorem signature_judges {v : Json} {fields : List String} (hf : v.hasFields fields = true)
    (hk : "signature" ∈ fields) (hs : Subset 0 v) (hb : IsBase64 64 (v.item "signature")) (key : Bytes)
    (label : String) : Judges (signature py v key label) (SignedBy py key v) () := by
  have h : Judges (signature py v key label) _ _ :=
    sub_judges hf hk <| (base64_judges _ _ _).bind fun _ =>
    Decides.known ((lift_judges (canonical_decides py _)).accepts (subset_without ["signature"] hs)) <|
    require_judges _ _
  refine h.congr ?_
  rw [Bool.and_eq_true]
  exact and_iff_right hb

theorem signedEvent_judges {trust : Json} (ht : TrustShape trust) {event : Json} (he : EventShape event)
    (hs : Subset 0 event) : Judges (signedEvent py (trust.item "roles") (.ok (roleKey trust "producer")) event)
      (SignedEvent py trust event) () := by
  have hf := he.fields
  have h : Judges (signedEvent py (trust.item "roles") (.ok (roleKey trust "producer")) event) _ () :=
    sub_judges hf (by decide) <| sub_judges ht.roles (by decide) <|
    sub_judges (ht.role "producer" (by decide)).1 (by decide) <| (require_judges _ _).bind fun _ =>
    sub_judges hf (by decide) <|
    Decides.known (digest_ok py (subset_without ["payload_hash", "signature"] hs)) <|
    (require_judges _ _).bind fun _ =>
    Decides.known rfl <| signature_judges py hf (by decide) hs he.signature _ "event"
  refine h.congr ?_
  simp only [decide_eq_true_eq]
  exact ⟨fun ⟨h₁, h₂, h₃⟩ => ⟨h₁, h₂, h₃⟩, fun ⟨h₁, h₂, h₃⟩ => ⟨h₁, h₂, h₃⟩⟩

theorem sequenced_judges {scope : Json} (hscope : ScopeShape scope) (n : ℕ) (seen : List Json)
    (previous : DateTime) {events : List Json} (he : ∀ e ∈ events, EventShape e) :
    Judges (sequenced scope (instant (scope.item "window_start")) (instant (scope.item "window_end")) n seen
      previous events) (SequencedFrom scope n seen previous events) () := by
  induction events generalizing n seen previous with
  | nil => exact Decides.pure ()
  | cons e events ih =>
    have hf := (he e (by simp)).fields
    have hrest := ih (n + 1) (e.item "event_id" :: seen) (instant (e.item "timestamp"))
      fun f hmem => he f (List.mem_cons_of_mem _ hmem)
    have h : Judges (sequenced scope _ _ n seen previous (e :: events)) _ () :=
      sub_judges hf (by decide) <| (require_judges _ _).bind fun _ =>
      sub_judges hf (by decide) <| (require_judges _ _).bind fun _ =>
      sub_judges hf (by decide) <| sub_judges hscope.fields (by decide) <|
      sub_judges hf (by decide) <| sub_judges hscope.fields (by decide) <| (require_judges _ _).bind fun _ =>
      sub_judges hf (by decide) <| (timestamp_judges _ _).bind fun _ =>
      (require_judges _ _).bind fun _ => hrest
    refine h.congr ?_
    have htime := (he e (by simp)).time
    simp only [SequencedFrom, Bool.and_eq_true, decide_eq_true_eq, htime, true_and, and_assoc]

theorem roleReceipt_judges {pack trust : Json} (hp : PackShape pack) (ht : TrustShape trust)
    (hs : Subset 0 pack) {r : String × String × String} (hr : r ∈ roleRecords) :
    Judges (roleReceipt py pack (trust.item "roles") (roleKeys trust) (rootOf py (items (pack.item "events")))
      (digestOf py (pack.item "scope")) (items (pack.item "events")).length
      (instant ((pack.item "scope").item "window_end")) r.1 r.2.1 r.2.2)
      (RecordBinds py pack trust r.1 r.2.1 r.2.2) () := by
  have hfield := roleRecords_names r hr
  have hrec := hp.records r hr
  have hf := hrec.fields
  have hsub : Subset 0 (pack.item r.1) := subset_mono (Nat.zero_le _) _ (subset_item hp.fields hfield.1 hs)
  have h : Judges (roleReceipt py pack (trust.item "roles") (roleKeys trust)
      (rootOf py (items (pack.item "events"))) (digestOf py (pack.item "scope")) (items (pack.item "events")).length
      (instant ((pack.item "scope").item "window_end")) r.1 r.2.1 r.2.2) _ () :=
    sub_judges hp.fields hfield.1 <|
    sub_judges hf (by decide) <| sub_judges hf (by decide) <| sub_judges ht.roles hfield.2 <|
    sub_judges (ht.role _ hfield.2).1 (by decide) <| (require_judges _ _).bind fun _ =>
    sub_judges hf (by decide) <| sub_judges hf (by decide) <| sub_judges hf (by decide) <|
    (require_judges _ _).bind fun _ =>
    sub_judges hf (by decide) <| (timestamp_judges _ _).bind fun _ => (require_judges _ _).bind fun _ =>
    Decides.known (show keyOf (roleKeys trust) r.2.1 = .ok (roleKey trust r.2.1) by
      rw [keyOf, lookup_roleKeys trust hfield.2]) <|
    signature_judges py hf (by decide) hsub hrec.signature _ r.1
  refine h.congr ?_
  simp only [Bool.and_eq_true, decide_eq_true_eq, and_assoc]
  exact ⟨fun ⟨h₁, h₂, h₃, h₄, h₅, _, h₆, h₇⟩ => ⟨h₁, h₂, h₃, h₄, h₅, h₆, h₇⟩,
    fun ⟨h₁, h₂, h₃, h₄, h₅, h₆, h₇⟩ => ⟨h₁, h₂, h₃, h₄, h₅, hrec.issued, h₆, h₇⟩⟩

end Verify

/-! ## The pairs -/

def kindOf (attempt : Bool) : Json := .str (if attempt then attemptType else outcomeType)

theorem kind_event {event : Json} (h : EventShape event) : event.item "event_type" = kindOf (isAttempt event) := by
  obtain ⟨k, hk, he⟩ := h.kind
  simp only [eventTypes, List.mem_cons, List.not_mem_nil, or_false] at hk
  rcases hk with rfl | rfl
  · rw [isAttempt, he]
    rfl
  · rw [isAttempt, he]
    rfl

theorem kindOf_injective : Function.Injective kindOf := by
  intro a b h
  revert a b
  decide

/-- The table after an event. -/
def pairAfter (pairs : Pairs) (event : Json) : Pairs :=
  setPair (attemptId event) ((pairs.lookup (attemptId event)).getD [] ++
    [(event.item "event_type", event.item "sequence_no")]) pairs

/-- The kinds seen under an identifier. -/
def kindsOf (pairs : Pairs) (id : Json) : List Json := ((pairs.lookup id).getD []).map Prod.fst

theorem lookup_cons_pair (id k : Json) (p : List (Json × Json)) (pairs : Pairs) :
    ((k, p) :: pairs).lookup id = if id = k then some p else pairs.lookup id := by
  by_cases h : id = k
  · simp [h]
  · simp [List.lookup_cons, beq_false_of_ne h, h]

theorem lookup_setPair (id : Json) (pair : List (Json × Json)) (pairs : Pairs) (id' : Json) :
    (setPair id pair pairs).lookup id' = if id' = id then some pair else pairs.lookup id' := by
  induction pairs with
  | nil => simp [setPair, lookup_cons_pair]
  | cons q pairs ih =>
    obtain ⟨k, p⟩ := q
    rw [setPair]
    by_cases hk : k = id
    · rw [if_pos hk, lookup_cons_pair, lookup_cons_pair, hk]
      split_ifs <;> rfl
    · rw [if_neg hk, lookup_cons_pair, lookup_cons_pair, ih]
      split_ifs with h₁ h₂ <;> simp_all

theorem keys_setPair (id : Json) (pair : List (Json × Json)) (pairs : Pairs) :
    (setPair id pair pairs).map Prod.fst =
      if id ∈ pairs.map Prod.fst then pairs.map Prod.fst else pairs.map Prod.fst ++ [id] := by
  induction pairs with
  | nil => simp [setPair]
  | cons q pairs ih =>
    obtain ⟨k, p⟩ := q
    rw [setPair]
    by_cases hk : k = id
    · simp [hk]
    · rw [if_neg hk, List.map_cons, ih]
      by_cases hm : id ∈ pairs.map Prod.fst
      · simp [hm]
      · simp [hm, Ne.symm hk]

/-- The table holds, for each identifier, the kinds of the entries with it. -/
structure Tracks (pairs : Pairs) (seen : List (Bool × Json)) : Prop where
  keys : (pairs.map Prod.fst).Nodup
  key : ∀ id, id ∈ pairs.map Prod.fst ↔ ∃ b, (b, id) ∈ seen
  kinds : ∀ id k, k ∈ kindsOf pairs id ↔ ∃ b, (b, id) ∈ seen ∧ k = kindOf b

theorem tracks_nil : Tracks [] [] := ⟨by simp, by simp, by simp [kindsOf]⟩

theorem Tracks.mem {pairs : Pairs} {seen : List (Bool × Json)} (h : Tracks pairs seen) (b : Bool) (id : Json) :
    kindOf b ∈ kindsOf pairs id ↔ (b, id) ∈ seen := by
  rw [h.kinds]
  exact ⟨fun ⟨c, hc, he⟩ => kindOf_injective he ▸ hc, fun hb => ⟨b, hb, rfl⟩⟩

theorem Tracks.after {pairs : Pairs} {seen : List (Bool × Json)} (h : Tracks pairs seen) {event : Json}
    (he : EventShape event) : Tracks (pairAfter pairs event) (seen ++ [entry event]) := by
  have hmem {b : Bool} {id : Json} : (b, id) ∈ seen ++ [entry event] ↔
      (b, id) ∈ seen ∨ (b = isAttempt event ∧ id = attemptId event) := by
    rw [List.mem_append, List.mem_singleton, entry, Prod.mk.injEq]
  refine ⟨?_, fun id => ?_, fun id k => ?_⟩
  · rw [pairAfter, keys_setPair]
    split_ifs with hm
    · exact h.keys
    · exact List.nodup_append.2 ⟨h.keys, List.nodup_singleton _, fun x hx y hy => by
        rw [List.mem_singleton] at hy
        rintro rfl
        exact hm (hy ▸ hx)⟩
  · have hkeys : id ∈ (pairAfter pairs event).map Prod.fst ↔ id ∈ pairs.map Prod.fst ∨ id = attemptId event := by
      rw [pairAfter, keys_setPair]
      split_ifs with hm
      · exact ⟨Or.inl, fun h => h.elim (fun h => h) fun h => h ▸ hm⟩
      · simp
    rw [hkeys, h.key]
    simp only [hmem, exists_or]
    simp
  · have hkinds : k ∈ kindsOf (pairAfter pairs event) id ↔
        k ∈ kindsOf pairs id ∨ (id = attemptId event ∧ k = event.item "event_type") := by
      rw [kindsOf, pairAfter, lookup_setPair]
      split_ifs with hid
      · simp [kindsOf, hid]
      · simp [kindsOf, hid]
    rw [hkinds, h.kinds, kind_event he]
    simp only [hmem]
    constructor
    · rintro (⟨b, hb, hk⟩ | ⟨hid, hk⟩)
      · exact ⟨b, Or.inl hb, hk⟩
      · exact ⟨_, Or.inr ⟨rfl, hid⟩, hk⟩
    · rintro ⟨b, hb | ⟨rfl, hid⟩, hk⟩
      · exact Or.inl ⟨b, hb, hk⟩
      · exact Or.inr ⟨hid, hk⟩

theorem pairEvent_judges {pairs : Pairs} {seen : List (Bool × Json)} (h : Tracks pairs seen) {event : Json}
    (he : EventShape event) : Judges (pairEvent pairs event)
      (entry event ∉ seen ∧ (isAttempt event = false → (true, attemptId event) ∈ seen)) (pairAfter pairs event) := by
  have hp := he.provenance_fields
  have hid : "attempt_id" ∈ if isAttempt event then attemptFields else outcomeFields := by
    split_ifs <;> decide
  have hf := he.fields
  have hkind := kind_event he
  have hnew : (event.item "event_type" ∉ kindsOf pairs (attemptId event)) ↔ entry event ∉ seen := by
    rw [hkind, h.mem]
    rfl
  have hattempt := h.mem true (attemptId event)
  have hreq := (require_judges _ "duplicate attempt or outcome for an attempt ID").congr
    (decide_eq_true_iff.trans hnew)
  cases ha : isAttempt event with
  | true =>
    rw [ha] at hkind
    have hne : ¬event.item "event_type" = .str outcomeType := by rw [hkind]; decide
    have hrun : Judges (pairEvent pairs event) (entry event ∉ seen ∧ True) (pairAfter pairs event) := by
      rw [pairEvent]
      refine sub_judges hf (by decide) <| sub_judges hp hid <| sub_judges hf (by decide) <| hreq.bind fun _ => ?_
      rw [if_neg hne]
      exact sub_judges hf (by decide) <| Decides.pure _
    exact hrun.congr (by simp)
  | false =>
    rw [ha] at hkind
    have hrun : Judges (pairEvent pairs event)
        (entry event ∉ seen ∧ (true, attemptId event) ∈ seen ∧ True) (pairAfter pairs event) := by
      rw [pairEvent]
      refine sub_judges hf (by decide) <| sub_judges hp hid <| sub_judges hf (by decide) <| hreq.bind fun _ => ?_
      have hout : event.item "event_type" = .str outcomeType := hkind
      simp only [if_pos hout]
      exact ((require_judges _ _).congr (decide_eq_true_iff.trans hattempt)).bind fun _ =>
        sub_judges hf (by decide) <| Decides.pure _
    exact hrun.congr (by simp)

theorem pairEvents_judges {pairs : Pairs} {seen : List (Bool × Json)} (h : Tracks pairs seen) {events : List Json}
    (he : ∀ e ∈ events, EventShape e) :
    Judges (pairEvents pairs events) (PairsFrom seen events) (events.foldl pairAfter pairs) := by
  induction events generalizing pairs seen with
  | nil => exact Decides.pure pairs
  | cons e events ih =>
    have hrun : Judges (pairEvents pairs (e :: events)) _ _ :=
      (pairEvent_judges h (he e (by simp))).bind fun _ =>
        ih (h.after (he e (by simp))) fun f hf => he f (List.mem_cons_of_mem _ hf)
    exact hrun.congr (by rw [PairsFrom, and_assoc])

theorem Tracks.run {pairs : Pairs} {seen : List (Bool × Json)} (h : Tracks pairs seen) {events : List Json}
    (he : ∀ e ∈ events, EventShape e) : Tracks (events.foldl pairAfter pairs) (seen ++ events.map entry) := by
  induction events generalizing pairs seen with
  | nil => simpa using h
  | cons e events ih =>
    have := ih (h.after (he e (by simp))) fun f hf => he f (List.mem_cons_of_mem _ hf)
    rwa [List.append_assoc] at this

/-- A pair is complete when both kinds were seen. -/
theorem isComplete_iff {pairs : Pairs} {seen : List (Bool × Json)} (h : Tracks pairs seen)
    {q : Json × List (Json × Json)} (hq : q ∈ pairs) :
    isComplete q.2 = true ↔ (true, q.1) ∈ seen ∧ (false, q.1) ∈ seen := by
  have hkinds : kindsOf pairs q.1 = q.2.map Prod.fst := by
    rw [kindsOf, lookup_of_mem h.keys hq]
    rfl
  have hall : (q.2.map Prod.fst).all (fun k => eventTypes.any fun t => k = .str t) = true := by
    rw [List.all_eq_true]
    intro k hk
    rw [← hkinds, h.kinds] at hk
    obtain ⟨b, -, rfl⟩ := hk
    cases b <;> decide
  rw [isComplete, hall, Bool.and_true, ← h.mem, ← h.mem, hkinds]
  simp [eventTypes, kindOf]

/-- The last check of the pairs. -/
theorem complete_iff {pairs : Pairs} {events : List Json} (h : Tracks pairs (events.map entry))
    (hp : PairsFrom [] events) (count : Json) :
    (count = .int pairs.length ∧ pairs.all (fun p => isComplete p.2) = true) ↔
      (∀ id, (true, id) ∈ events.map entry → (false, id) ∈ events.map entry) ∧
        count = .int (attemptIds events).length := by
  obtain ⟨hnodup, -, hbefore⟩ := (pairsFrom_iff [] events).1 hp
  have hkey (id : Json) : id ∈ pairs.map Prod.fst ↔ (true, id) ∈ events.map entry := by
    rw [h.key]
    refine ⟨fun ⟨b, hb⟩ => ?_, fun ht => ⟨true, ht⟩⟩
    cases b with
    | true => exact hb
    | false =>
      obtain ⟨e, he, hout, rfl⟩ := mem_entries.1 hb
      obtain ⟨earlier, later, rfl⟩ := List.append_of_mem he
      have := hbefore earlier e later rfl hout
      rw [List.nil_append] at this
      rw [List.map_append]
      exact List.mem_append_left _ this
  have hlen : pairs.length = (attemptIds events).length := by
    have hperm : (pairs.map Prod.fst).Perm (attemptIds events) :=
      (List.perm_ext_iff_of_nodup h.keys (attemptIds_nodup hnodup)).2 fun id => by
        rw [hkey, mem_attemptIds]
    rw [← hperm.length_eq, List.length_map]
  rw [hlen, and_comm, List.all_eq_true]
  refine and_congr_left fun _ => ⟨fun hall id hid => ?_, fun hall q hq => ?_⟩
  · obtain ⟨q, hq, rfl⟩ := List.mem_map.1 ((hkey id).2 hid)
    exact ((isComplete_iff h hq).1 (hall q hq)).2
  · have hid := (hkey q.1).1 (List.mem_map_of_mem hq)
    exact (isComplete_iff h hq).2 ⟨hid, hall _ hid⟩

/-! ## `verify_pack` -/

section Verify
variable (py : Platform)

theorem validateShape_judges {pack trust : Json} (ht : trust.WF) :
    Judges (validateShape pack trust) (Subset 0 pack ∧ Subset 0 trust ∧ PackShape pack ∧ TrustShape trust)
      ((instant ((pack.item "scope").item "window_start"), instant ((pack.item "scope").item "window_end")),
        roleKeys trust) := by
  have h : Judges (validateShape pack trust) _ _ :=
    (lift_judges (subset_decides 0 pack)).bind fun _ => (lift_judges (subset_decides 0 trust)).bind fun _ =>
    (validatePack_judges pack).bind fun _ => (validateTrust_judges ht).bind fun _ => Decides.pure _
  exact h.congr (by simp only [and_true])

/-- `verify_pack` accepts what the pack and the trust file must hold, and refuses the rest. -/
theorem verifyPack_judges {pack trust : Json} (ht : trust.WF) :
    Judges (verifyPack py pack trust) (Accepted py pack trust) checkNames := by
  have h : Judges (verifyPack py pack trust) _ checkNames :=
    (validateShape_judges ht).bind fun ⟨hpack, htrust, hp, hts⟩ =>
    have hsub (k : String) (hk : k ∈ packFields) : Subset 0 (pack.item k) :=
      subset_mono (Nat.zero_le _) _ (subset_item hp.fields hk hpack)
    have hevents (e : Json) (he : e ∈ items (pack.item "events")) : Subset 0 e :=
      subset_mono (Nat.zero_le _) _ (subset_items (hsub "events" (by decide)) e he)
    sub_judges hp.fields (by decide) <| sub_judges hp.fields (by decide) <|
    sub_judges hts.fields (by decide) <| Decides.known (digest_ok py (hsub "scope" (by decide))) <|
    sub_judges hp.fields (by decide) <| sub_judges hts.fields (by decide) <|
    (require_judges _ _).bind fun _ =>
    (Decides.forM fun e he => by
      rw [show keyOf (roleKeys trust) "producer" = .ok (roleKey trust "producer") from rfl]
      exact signedEvent_judges py hts (hp.events e he) (hevents e he)).bind fun _ =>
    ((sequenced_judges hp.scope 1 [] _ hp.events).congr (sequenced_iff _ _)).bind fun _ =>
    Decides.known (tree_ok py hevents) <|
    sub_judges hp.fields (by decide) <| sub_judges hp.merkle (by decide) <| (require_judges _ _).bind fun _ =>
    (Decides.forM fun r hr => roleReceipt_judges py hp hts hpack hr).bind fun _ =>
    (pairEvents_judges tracks_nil hp.events).bind fun hpairs =>
    sub_judges hp.scope.fields (by decide) <|
    ((require_judges _ _).congr (Bool.and_eq_true_iff.trans ((and_congr_left' decide_eq_true_iff).trans
      (complete_iff (tracks_nil.run hp.events) hpairs _)))).bind fun _ =>
    Decides.pure checkNames
  refine h.congr ?_
  simp only [Bool.and_eq_true, decide_eq_true_eq, and_true]
  constructor
  · rintro ⟨⟨h₁, h₂, h₃, h₄⟩, ⟨h₅, h₆⟩, h₇, h₈, h₉, h₁₀, h₁₁, h₁₂, h₁₃⟩
    exact ⟨h₁, h₂, h₃, h₄, ⟨h₅, h₆.symm⟩, h₇, h₈, h₉, h₁₀, (bijection_iff _ _).2 ⟨h₁₁, h₁₂, h₁₃⟩⟩
  · rintro ⟨h₁, h₂, h₃, h₄, ⟨h₅, h₆⟩, h₇, h₈, h₉, h₁₀, h₁₁⟩
    exact ⟨⟨h₁, h₂, h₃, h₄⟩, ⟨h₅, h₆.symm⟩, h₇, h₈, h₉, h₁₀, (bijection_iff _ _).1 h₁₁⟩

end Verify
end Python
end VapEvidence.Evidence
