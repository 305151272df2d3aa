import Mathlib.Data.List.Nodup
import Mathlib.Data.List.Perm.Subperm
import VapEvidence.EvidencePack

set_option autoImplicit false

/-!
# Deciding the parts of a pack

What both verifiers rest on: steps that decide a condition or none, the domain of
the parts of a value, and the loops over the events as conditions on a list.
-/
namespace VapEvidence.Evidence
open Json

abbrev Judges {α : Type} (m : Run α) (P : Prop) (a : α) : Prop := Decides Raised.isVerification m P a

theorem require_judges (c : Bool) (message : String) : Judges (require c message) (c = true) () := by
  cases c
  · exact (Decides.error trivial ()).congr (by simp)
  · exact (Decides.pure ()).congr (by simp)

theorem lift_judges {α : Type} {m : Except String α} {P : Prop} {a : α} (h : Checks m P a) :
    Judges (lift m) P a := h.mapError _ fun _ _ => trivial

theorem refuse_judges {α : Type} (message : String) (a : α) :
    Judges (.error (.verification message)) False a := Decides.error trivial a

theorem sub_item {v : Json} {fields : List String} (h : v.hasFields fields = true) {k : String}
    (hk : k ∈ fields) : sub v k = .ok (v.item k) := by
  rw [sub, get?_of_hasFields h, if_pos hk]

/-- A subscript whose key is there does not decide anything. -/
theorem sub_judges {α : Type} {v : Json} {fields : List String} (h : v.hasFields fields = true) {k : String}
    (hk : k ∈ fields) {f : Json → Run α} {P : Prop} {a : α} (hf : Judges (f (v.item k)) P a) :
    Judges (sub v k >>= f) P a := Decides.known (sub_item h hk) hf

theorem roles_members {roles : Json} (hw : roles.WF) (h : roles.hasFields roleNames = true) :
    roles.members = [("anchor", roles.item "anchor"), ("observer", roles.item "observer"),
      ("producer", roles.item "producer")] := by
  have hsorted : SortedKeys [("anchor", roles.item "anchor"), ("observer", roles.item "observer"),
      ("producer", roles.item "producer")] := by
    change ["anchor", "observer", "producer"].Pairwise (· < ·)
    decide
  have hd : roles = dict [("anchor", roles.item "anchor"), ("observer", roles.item "observer"),
      ("producer", roles.item "producer")] := by
    refine ext_get? hw (dict_wf ?_) (Exists.intro _ (hasFields_obj h).choose_spec.1) ⟨_, rfl⟩ fun k => ?_
    · simp [wf_item hw]
    · rw [get?_of_hasFields h, get?_dict]
      simp only [List.reverse_cons, List.reverse_nil, List.nil_append, List.cons_append, lookup_cons_ite, roleNames,
        List.mem_cons, List.not_mem_nil, or_false, List.lookup_nil]
      split_ifs <;> simp_all
  rw [dict_sorted hsorted] at hd
  exact congrArg members hd

/-- The role keys of a trust file. -/
def roleKeys (trust : Json) : List (String × Bytes) :=
  [("anchor", roleKey trust "anchor"), ("observer", roleKey trust "observer"), ("producer", roleKey trust "producer")]

theorem lookup_roleKeys (trust : Json) {role : String} (h : role ∈ roleNames) :
    (roleKeys trust).lookup role = some (roleKey trust role) := by
  simp only [roleNames, List.mem_cons, List.not_mem_nil, or_false] at h
  rcases h with rfl | rfl | rfl <;> rfl

theorem roleRecords_names : ∀ r ∈ roleRecords, r.1 ∈ packFields ∧ r.2.1 ∈ roleNames := by decide

/-- A role entry has a key identifier and a public key. -/
def RoleShape (config : Json) : Prop :=
  config.hasFields ["key_id", "public_key"] = true ∧ IsText (config.item "key_id") ∧
    IsBase64 32 (config.item "public_key")

/-- Two role entries share neither. -/
def RolesDiffer (a b : Json) : Prop :=
  a.item "key_id" ≠ b.item "key_id" ∧ rawOf (a.item "public_key") ≠ rawOf (b.item "public_key")

theorem trustShape_iff {trust : Json} : TrustShape trust ↔
    trust.hasFields trustFields = true ∧ trust.item "contract_id" = .str contractId ∧
    trust.item "trust_version" = .str "demo-trust/1" ∧ IsDigest (trust.item "scope_commitment") ∧
    (trust.item "roles").hasFields roleNames = true ∧
    (∀ r ∈ roleNames, RoleShape ((trust.item "roles").item r)) ∧
    roleNames.Pairwise fun r r' => RolesDiffer ((trust.item "roles").item r) ((trust.item "roles").item r') :=
  ⟨fun ⟨h₁, h₂, h₃, h₄, h₅, h₆, h₇⟩ => ⟨h₁, h₂, h₃, h₄, h₅, h₆, h₇⟩,
    fun ⟨h₁, h₂, h₃, h₄, h₅, h₆, h₇⟩ => ⟨h₁, h₂, h₃, h₄, h₅, h₆, h₇⟩⟩

theorem isBase64_str {size : ℕ} {s : String} :
    IsBase64 size (.str s) ↔ ∃ raw, Base64.encode raw = s.toList ∧ raw.length = size := by
  constructor
  · rintro ⟨raw, hs, hl⟩
    cases hs
    exact ⟨raw, by rw [String.toList_ofList], hl⟩
  · rintro ⟨raw, hs, hl⟩
    exact ⟨raw, by rw [hs, String.ofList_toList], hl⟩

theorem review_iff (review : Json) : (review = .bool true ∨ review = .bool false) ↔ ∃ b, review = .bool b := by
  rw [Bool.exists_bool, or_comm]

theorem kinds_iff (kind : Json) :
    (eventTypes.any fun k => kind = .str k) = true ↔ ∃ k ∈ eventTypes, kind = .str k := by
  simp only [List.any_eq_true, decide_eq_true_eq]

/-! ## The domain of the parts -/

theorem subset_item {d : ℕ} {v : Json} {fields : List String} (h : v.hasFields fields = true) {k : String}
    (hk : k ∈ fields) (hs : Subset d v) : Subset (d + 1) (v.item k) := by
  obtain ⟨ms, rfl, -⟩ := hasFields_obj h
  have hg := get?_of_hasFields h k
  rw [if_pos hk] at hg
  exact ((subsetMembers_iff _ _).1 hs.2 _ (mem_of_lookup hg)).2

theorem subset_items {d : ℕ} {v : Json} (hs : Subset d v) : ∀ x ∈ items v, Subset (d + 1) x := by
  cases v with
  | arr xs => exact (subsetElems_iff _ _).1 hs.2
  | _ => exact fun x hx => absurd hx List.not_mem_nil

theorem subset_without {d : ℕ} {v : Json} (keys : List String) (hs : Subset d v) :
    Subset d (without keys v) := by
  cases v with
  | obj ms =>
    refine ⟨hs.1, (subsetMembers_iff _ _).2 fun m hm => ?_⟩
    exact (subsetMembers_iff _ _).1 hs.2 m (List.mem_filter.1 hm).1
  | _ => exact hs

theorem wf_items {v : Json} (h : v.WF) : ∀ x ∈ items v, x.WF := by
  cases v with
  | arr xs => exact (wfList_iff xs).1 h
  | _ => exact fun x hx => absurd hx List.not_mem_nil

/-! ## The sequence -/

/-- The sequence from a number, the identifiers seen and the time before it. -/
def SequencedFrom (scope : Json) : ℕ → List Json → DateTime → List Json → Prop
  | _, _, _, [] => True
  | n, seen, previous, event :: rest =>
    event.item "sequence_no" = .int n ∧ event.item "event_id" ∉ seen ∧
      (event.item "chain_id" = scope.item "chain_id" ∧ event.item "policy_id" = scope.item "policy_id") ∧
      (instant (scope.item "window_start") ≤ instant (event.item "timestamp") ∧
        instant (event.item "timestamp") ≤ instant (scope.item "window_end") ∧
        previous ≤ instant (event.item "timestamp")) ∧
      SequencedFrom scope (n + 1) (event.item "event_id" :: seen) (instant (event.item "timestamp")) rest

theorem sequencedFrom_iff (scope : Json) (n : ℕ) (seen : List Json) (previous : DateTime) (events : List Json) :
    SequencedFrom scope n seen previous events ↔
      (∀ i, ∀ h : i < events.length, (events.get ⟨i, h⟩).item "sequence_no" = .int (n + i : ℕ)) ∧
      (events.map fun e => e.item "event_id").Nodup ∧ (∀ e ∈ events, e.item "event_id" ∉ seen) ∧
      (∀ e ∈ events, e.item "chain_id" = scope.item "chain_id" ∧ e.item "policy_id" = scope.item "policy_id") ∧
      (∀ e ∈ events, instant (scope.item "window_start") ≤ instant (e.item "timestamp") ∧
        instant (e.item "timestamp") ≤ instant (scope.item "window_end")) ∧
      (∀ e ∈ events, previous ≤ instant (e.item "timestamp")) ∧
      events.Pairwise fun e f => instant (e.item "timestamp") ≤ instant (f.item "timestamp") := by
  induction events generalizing n seen previous with
  | nil => simp [SequencedFrom]
  | cons e events ih =>
    rw [SequencedFrom, ih]
    simp only [List.map_cons, List.nodup_cons, List.forall_mem_cons, List.pairwise_cons]
    constructor
    · rintro ⟨hn, hseen, hchain, ⟨hstart, hstop, hprev⟩, hnums, hnodup, hids, hchains, hwindow, htimes, hpair⟩
      refine ⟨?_, ⟨?_, hnodup⟩, ⟨hseen, fun f hf => List.not_mem_of_not_mem_cons (hids f hf)⟩, ⟨hchain, hchains⟩,
        ⟨⟨hstart, hstop⟩, hwindow⟩, ⟨hprev, fun f hf => hprev.trans (htimes f hf)⟩, htimes, hpair⟩
      · intro i hi
        cases i with
        | zero => exact hn
        | succ i =>
          have := hnums i (Nat.lt_of_succ_lt_succ hi)
          rw [show n + 1 + i = n + (i + 1) by omega] at this
          exact this
      · intro hm
        obtain ⟨f, hf, he⟩ := List.mem_map.1 hm
        exact List.ne_of_not_mem_cons (hids f hf) he
    · rintro ⟨hnums, ⟨hnot, hnodup⟩, ⟨hseen, hids⟩, ⟨hchain, hchains⟩, ⟨⟨hstart, hstop⟩, hwindow⟩,
        ⟨hprev, -⟩, htimes, hpair⟩
      refine ⟨hnums 0 (Nat.succ_pos _), hseen, hchain, ⟨hstart, hstop, hprev⟩, ?_, hnodup, ?_, hchains, hwindow,
        htimes, hpair⟩
      · intro i hi
        have := hnums (i + 1) (Nat.succ_lt_succ hi)
        rw [show n + (i + 1) = n + 1 + i by omega] at this
        exact this
      · intro f hf
        exact List.not_mem_cons_of_ne_of_not_mem (fun he => hnot (he ▸ List.mem_map_of_mem hf)) (hids f hf)

/-- From the start of the window the loop checks the whole sequence. -/
theorem sequenced_iff (scope : Json) (events : List Json) :
    SequencedFrom scope 1 [] (instant (scope.item "window_start")) events ↔ Sequenced scope events := by
  rw [sequencedFrom_iff]
  constructor
  · rintro ⟨hnums, hnodup, -, hchain, hwindow, -, hpair⟩
    refine ⟨fun i h => ?_, hnodup, hchain, hwindow, hpair⟩
    rw [hnums i h, Nat.add_comm]
    rfl
  · rintro ⟨hnums, hnodup, hchain, hwindow, hpair⟩
    refine ⟨fun i h => ?_, hnodup, by simp, hchain, hwindow, fun e he => (hwindow e he).1, hpair⟩
    rw [hnums i h, Nat.add_comm]
    rfl

/-- Numbers tell which of two events comes first. -/
theorem Sequenced.before_iff {scope : Json} {events : List Json} (h : Sequenced scope events) {a e : Json}
    (ha : a ∈ events) (he : e ∈ events) {m n : ℤ} (hm : a.item "sequence_no" = .int m)
    (hn : e.item "sequence_no" = .int n) : m < n ↔ ∃ earlier later, events = earlier ++ e :: later ∧ a ∈ earlier := by
  have hat (earlier later : List Json) (f : Json) (hs : events = earlier ++ f :: later) :
      f.item "sequence_no" = .int (earlier.length + 1) := by
    subst hs
    simpa using h.number earlier.length (by simp)
  constructor
  · intro hlt
    obtain ⟨before, after, hs⟩ := List.append_of_mem ha
    obtain ⟨earlier, later, hs'⟩ := List.append_of_mem he
    refine ⟨earlier, later, hs', ?_⟩
    have h₁ := Json.int.inj (hm.symm.trans (hat _ _ _ hs))
    have h₂ := Json.int.inj (hn.symm.trans (hat _ _ _ hs'))
    obtain ⟨mid, hmid⟩ := @List.prefix_of_prefix_length_le _ (before ++ [a]) earlier events
      ⟨after, by rw [hs]; simp⟩ ⟨e :: later, hs'.symm⟩ (by simp; omega)
    rw [← hmid]
    simp
  · rintro ⟨earlier, later, hs, hmem⟩
    obtain ⟨before, after, rfl⟩ := List.append_of_mem hmem
    have h₁ := Json.int.inj (hm.symm.trans (hat before (after ++ e :: later) a (by rw [hs]; simp)))
    have h₂ := Json.int.inj (hn.symm.trans (hat _ later e hs))
    simp only [List.length_append, List.length_cons] at h₂
    omega

/-! ## Attempts and outcomes -/

theorem EventShape.provenance_fields {event : Json} (h : EventShape event) : (event.item "provenance").hasFields
    (if isAttempt event then attemptFields else outcomeFields) = true := by
  have hp := h.provenance
  split_ifs at hp ⊢ with ha
  · exact hp.fields
  · exact hp.fields

def entry (event : Json) : Bool × Json := (isAttempt event, attemptId event)

/-- The events repeat no entry, and every outcome has its attempt among the entries before it. -/
def PairsFrom (seen : List (Bool × Json)) : List Json → Prop
  | [] => True
  | event :: rest => entry event ∉ seen ∧ (isAttempt event = false → (true, attemptId event) ∈ seen) ∧
      PairsFrom (seen ++ [entry event]) rest

theorem pairsFrom_iff (seen : List (Bool × Json)) (events : List Json) : PairsFrom seen events ↔
    (events.map entry).Nodup ∧ (∀ e ∈ events, entry e ∉ seen) ∧
      ∀ earlier e later, events = earlier ++ e :: later → isAttempt e = false →
        (true, attemptId e) ∈ seen ++ earlier.map entry := by
  induction events generalizing seen with
  | nil => simp [PairsFrom]
  | cons e events ih =>
    rw [PairsFrom, ih]
    simp only [List.map_cons, List.nodup_cons, List.forall_mem_cons]
    constructor
    · rintro ⟨hnew, hbefore, hnodup, hseen, hall⟩
      refine ⟨⟨fun hm => ?_, hnodup⟩, ⟨hnew, fun f hf => ?_⟩, fun earlier f later he hout => ?_⟩
      · obtain ⟨f, hf, he⟩ := List.mem_map.1 hm
        exact hseen f hf (by simp [he])
      · exact fun hm => hseen f hf (List.mem_append_left _ hm)
      · cases earlier with
        | nil =>
          cases he
          simpa using hbefore hout
        | cons a earlier =>
          obtain ⟨rfl, rfl⟩ := List.cons.inj he
          simpa using hall earlier f later rfl hout
    · rintro ⟨⟨hnot, hnodup⟩, ⟨hnew, hseen⟩, hall⟩
      refine ⟨hnew, fun hout => by simpa using hall [] e events rfl hout, hnodup, fun f hf hm => ?_,
        fun earlier f later he hout => ?_⟩
      · rcases List.mem_append.1 hm with hm | hm
        · exact hseen f hf hm
        · rw [List.mem_singleton] at hm
          exact hnot (hm ▸ List.mem_map_of_mem hf)
      · have := hall (e :: earlier) f later (by rw [he]; rfl) hout
        simpa using this

theorem mem_entries {events : List Json} {b : Bool} {id : Json} :
    (b, id) ∈ events.map entry ↔ ∃ e ∈ events, isAttempt e = b ∧ attemptId e = id := by
  simp only [List.mem_map, entry, Prod.mk.injEq]

/-- The attempts, or the outcomes, of the events: each identifier with its sequence number. -/
def groupOf (attempt : Bool) (events : List Json) : List (Json × Json) :=
  (events.filter fun e => isAttempt e = attempt).map fun e => (attemptId e, e.item "sequence_no")

theorem mem_groupOf {attempt : Bool} {events : List Json} {id n : Json} :
    (id, n) ∈ groupOf attempt events ↔
      ∃ e ∈ events, isAttempt e = attempt ∧ attemptId e = id ∧ e.item "sequence_no" = n := by
  simp [groupOf, and_assoc]

theorem mem_groupOf_ids {attempt : Bool} {events : List Json} {id : Json} :
    id ∈ (groupOf attempt events).map Prod.fst ↔ (attempt, id) ∈ events.map entry := by
  rw [mem_entries]
  simp [groupOf, and_assoc]

theorem groupOf_ids_nodup {attempt : Bool} {events : List Json} (h : (events.map entry).Nodup) :
    ((groupOf attempt events).map Prod.fst).Nodup := by
  rw [groupOf, List.map_map]
  refine List.Nodup.map_on (fun e he f hf hid => ?_) ((List.Nodup.of_map entry h).filter _)
  simp only [List.mem_filter, decide_eq_true_eq] at he hf
  exact List.inj_on_of_nodup_map h he.1 hf.1 (Prod.ext (he.2.trans hf.2.symm) hid)

theorem groupOf_subset_length {events : List Json} (hnodup : (events.map entry).Nodup)
    (h : ∀ id, (true, id) ∈ events.map entry → (false, id) ∈ events.map entry) :
    (groupOf true events).length = (groupOf false events).length ↔
      ∀ id, (false, id) ∈ events.map entry → (true, id) ∈ events.map entry := by
  have hsub : (groupOf true events).map Prod.fst ⊆ (groupOf false events).map Prod.fst := fun id hid =>
    mem_groupOf_ids.2 (h id (mem_groupOf_ids.1 hid))
  have hperm := List.subperm_of_subset (groupOf_ids_nodup hnodup) hsub
  constructor
  · intro hl id hid
    have := hperm.perm_of_length_le (by simp [hl])
    exact mem_groupOf_ids.1 (this.mem_iff.2 (mem_groupOf_ids.2 hid))
  · intro hback
    have := hperm.antisymm (List.subperm_of_subset (groupOf_ids_nodup hnodup) fun id hid =>
      mem_groupOf_ids.2 (hback id (mem_groupOf_ids.1 hid)))
    simpa using this.length_eq

/-- The identifiers of the attempts, in order. -/
def attemptIds (events : List Json) : List Json := (events.filter isAttempt).map attemptId

theorem mem_attemptIds {events : List Json} {id : Json} :
    id ∈ attemptIds events ↔ (true, id) ∈ events.map entry := by
  rw [mem_entries, attemptIds]
  simp only [List.mem_map, List.mem_filter]
  exact ⟨fun ⟨e, ⟨he, ha⟩, hid⟩ => ⟨e, he, ha, hid⟩, fun ⟨e, he, ha, hid⟩ => ⟨e, ⟨he, ha⟩, hid⟩⟩

theorem attemptIds_nodup {events : List Json} (h : (events.map entry).Nodup) : (attemptIds events).Nodup := by
  induction events with
  | nil => simp [attemptIds]
  | cons e events ih =>
    rw [List.map_cons, List.nodup_cons] at h
    rw [attemptIds, List.filter_cons]
    split_ifs with ha
    · rw [List.map_cons, List.nodup_cons]
      refine ⟨fun hm => h.1 ?_, ih h.2⟩
      rw [entry, ha]
      exact mem_attemptIds.1 hm
    · exact ih h.2

/-- Once the loop has passed, what is left to check is the count and the outcomes. -/
theorem bijection_iff (events : List Json) (count : Json) : Bijection events count ↔
    PairsFrom [] events ∧ (∀ id, (true, id) ∈ events.map entry → (false, id) ∈ events.map entry) ∧
      count = .int (attemptIds events).length := by
  have hlen : (attemptIds events).length = (events.filter isAttempt).length := by rw [attemptIds, List.length_map]
  rw [pairsFrom_iff, hlen]
  simp only [List.nil_append, List.not_mem_nil, not_false_eq_true, implies_true, true_and, mem_entries]
  constructor
  · rintro ⟨honce, hbefore, hanswered, hcount⟩
    refine ⟨⟨honce, hbefore⟩, ?_, hcount⟩
    rintro id ⟨a, ha, hattempt, rfl⟩
    exact hanswered a ha hattempt
  · rintro ⟨⟨honce, hbefore⟩, hanswered, hcount⟩
    exact ⟨honce, hbefore, fun a ha hattempt => hanswered _ ⟨a, ha, hattempt, rfl⟩, hcount⟩

/-- A bijection has as many outcomes as attempts. -/
theorem Bijection.length {events : List Json} {count : Json} (h : Bijection events count) :
    ∃ n : ℕ, count = .int n ∧ events.length = 2 * n := by
  have hanswered (id : Json) (hid : (true, id) ∈ events.map entry) : (false, id) ∈ events.map entry := by
    obtain ⟨a, ha, hat, rfl⟩ := mem_entries.1 hid
    exact mem_entries.2 (h.answered a ha hat)
  have hbefore (id : Json) (hid : (false, id) ∈ events.map entry) : (true, id) ∈ events.map entry := by
    obtain ⟨e, he, hout, rfl⟩ := mem_entries.1 hid
    obtain ⟨earlier, later, rfl⟩ := List.append_of_mem he
    obtain ⟨a, ha, hat, haid⟩ := h.before earlier e later rfl hout
    exact mem_entries.2 ⟨a, List.mem_append_left _ ha, hat, haid⟩
  have hlen := (groupOf_subset_length h.once hanswered).2 hbefore
  have hsplit := List.length_eq_length_filter_add (l := events) isAttempt
  have hattempts : (events.filter fun e => isAttempt e) = events.filter isAttempt := rfl
  simp only [groupOf, List.length_map, Bool.decide_eq_true, Bool.decide_eq_false, hattempts] at hlen
  exact ⟨_, h.count, by omega⟩

end VapEvidence.Evidence
