import Mathlib.Data.List.Dedup
import Mathlib.Data.List.GetD
import Mathlib.Data.List.Nodup
import Mathlib.Data.List.Perm.Basic
import VapEvidence.ScopeIsolation

set_option autoImplicit false

/-!
# Complete delivery of an anchored batch

The result INT-008 of the core pass is about positions: the events of a verified delivery
are the anchored index itself, each entry once.
-/
namespace VapEvidence.Scope
open Json Recording
open Incident (Packages Raised Run inputError sub sha256Hex)

/-! ## Equality of values -/

theorem equal_str {v : Json} {s : String} (h : equal v (.str s) = true) : v = .str s := by
  cases v with
  | str t =>
    rw [equal] at h
    rw [eq_of_beq h]
  | _ => simp [equal, numberParts] at h

theorem equal_self_str (s : String) : equal (.str s) (.str s) = true := by
  rw [equal]
  exact beq_self_eq_true s

theorem equalMembers_lookup {ms ns : List (String × Json)} (h : equalMembers ms ns = true) (k : String) {y : Json}
    (hk : ns.lookup k = some y) : ∃ x, ms.lookup k = some x ∧ equal x y = true := by
  induction ms generalizing ns with
  | nil =>
    cases ns with
    | nil => cases hk
    | cons n ns => simp [equalMembers] at h
  | cons m ms ih =>
    obtain ⟨j, x⟩ := m
    cases ns with
    | nil => cases hk
    | cons n ns =>
      obtain ⟨l, z⟩ := n
      rw [equalMembers, Bool.and_eq_true, Bool.and_eq_true] at h
      obtain ⟨⟨hjl, hxz⟩, hrest⟩ := h
      obtain rfl := eq_of_beq hjl
      rw [lookup_cons_ite] at hk ⊢
      split_ifs at hk ⊢ with hkj
      · obtain rfl := Option.some.inj hk
        exact ⟨x, rfl, hxz⟩
      · exact ih hrest hk

/-- A value that equals a dictionary has its texts. -/
theorem equal_item {v w : Json} (h : equal v w = true) {k s : String} (hk : w.get? k = some (.str s)) :
    v.item k = .str s := by
  cases w with
  | obj ns =>
    cases v with
    | obj ms =>
      rw [equal] at h
      obtain ⟨x, hx, hxs⟩ := equalMembers_lookup h k hk
      rw [item_of_get? (v := .obj ms) hx, equal_str hxs]
    | _ => simp [equal, numberParts] at h
  | _ => cases hk

theorem allOf_true {parts : List (Run Bool)} (h : allOf parts = .ok true) : ∀ part ∈ parts, part = .ok true := by
  induction parts with
  | nil => exact fun _ hm => (by cases hm)
  | cons part parts ih =>
    obtain ⟨b, hb, h⟩ := bind_ok h
    cases b with
    | false => cases h
    | true =>
      intro q hq
      rcases List.mem_cons.1 hq with rfl | hq
      · exact hb
      · exact ih h q hq

theorem allOf_of_all {parts : List (Run Bool)} (h : ∀ part ∈ parts, part = .ok true) : allOf parts = .ok true := by
  induction parts with
  | nil => rfl
  | cons part parts ih =>
    rw [allOf, h part List.mem_cons_self, ih fun q hq => h q (List.mem_cons_of_mem _ hq)]
    rfl

theorem distinct_le (xs : List Json) : distinct xs ≤ xs.length := by
  induction xs with
  | nil => exact Nat.le_refl 0
  | cons x xs ih =>
    rw [distinct, List.length_cons]
    split_ifs
    · omega
    · omega

/-- As many different values as there are: no two are equal. -/
theorem pairwise_of_distinct {xs : List Json} (h : distinct xs = xs.length) : xs.Pairwise fun x y => equal x y = false := by
  induction xs with
  | nil => exact .nil
  | cons x xs ih =>
    have hle := distinct_le xs
    rw [distinct, List.length_cons] at h
    split_ifs at h with hany
    · omega
    · refine .cons (fun y hy => ?_) (ih (by omega))
      by_contra hne
      exact hany (List.any_eq_true.2 ⟨y, hy, by simpa using hne⟩)

/-! ## The index -/

section Core
variable {pk : Packages} {ev : Evaluation}

/-- What `index_ok` says of the index. -/
structure Indexed (b : Batch) : Prop where
  length : b.index.length = b.size
  ids : b.ids = b.index.map fun entry => entry.item "event_id"
  hashable : b.ids.all Scope.hashable = true
  distinct : b.ids.Pairwise fun x y => equal x y = false

theorem mapM_sub {k : String} {l xs : List Json} (h : l.mapM (fun v => sub v k) = .ok xs) : xs = l.map fun v => v.item k := by
  have hall := mapM_ok h
  clear h
  induction hall with
  | nil => rfl
  | cons hab _ ih => rw [List.map_cons, ← ih, Incident.sub_ok hab]

theorem readBatch_ids {b : Batch} (h : readBatch ev = .ok b) : b.ids = b.index.map fun entry => entry.item "event_id" := by
  obtain ⟨_, -, h⟩ := bind_ok h
  obtain ⟨anchor, -, h⟩ := bind_ok h
  obtain ⟨body, -, h⟩ := bind_ok h
  obtain ⟨batch, -, h⟩ := bind_ok h
  obtain ⟨count, -, h⟩ := bind_ok h
  obtain ⟨size, -, h⟩ := bind_ok h
  obtain ⟨value, -, h⟩ := bind_ok h
  obtain ⟨index, -, h⟩ := bind_ok h
  obtain ⟨ids, hids, h⟩ := bind_ok h
  cases h
  exact mapM_sub hids

theorem asSet_ok {values : List Json} {u : Unit} (h : asSet values = .ok u) : values.all hashable = true := by
  unfold asSet at h
  split_ifs at h with hall
  exact hall

theorem indexGood_indexed {b : Batch} (hids : b.ids = b.index.map fun entry => entry.item "event_id")
    (h : indexGood pk ev b = .ok true) : Indexed b := by
  have hall := allOf_true h
  have hlength := hall _ List.mem_cons_self
  have hset := hall _ (List.mem_cons_of_mem _ List.mem_cons_self)
  obtain ⟨u, hu, hset⟩ := bind_ok hset
  have hlen : b.index.length = b.size := of_decide_eq_true (Except.ok.inj hlength)
  have hdistinct : distinct b.ids = b.size := of_decide_eq_true (Except.ok.inj hset)
  refine ⟨hlen, hids, asSet_ok hu, pairwise_of_distinct ?_⟩
  rw [hdistinct, ← hlen, hids, List.length_map]

/-! ## What the core pass reads -/

theorem yields_put {c : Check} {b : Bool} {log : List Entry} (h : Yields (put c) b log) :
    b = decide (c.result = .verified) ∧ log = [.crypto c] := by
  obtain ⟨_, _, _, hrecord, hb, rfl⟩ := yields_bind.1 h
  obtain ⟨rfl, rfl⟩ := yields_pure.1 hb
  rw [yields_record.1 hrecord]
  exact ⟨rfl, rfl⟩

theorem stateOf_verified (b : Bool) : decide (stateOf b = .verified) = b := by cases b <;> decide

theorem yields_test {check reason : String} {condition b : Bool} {evidence : List String} {log : List Entry}
    (h : Yields (test check condition reason evidence) b log) : b = condition := by
  rw [(yields_put h).1, stateOf_verified]

/-- What the anchor phase read. -/
structure AnchoredFrom (pk : Packages) (ev : Evaluation) (a : Anchored) : Prop where
  policy : readPolicy ev = .ok a.policy
  batch : readBatch ev = .ok a.toBatch
  indexed : a.indexOk = true → indexGood pk ev a.toBatch = .ok true

theorem anchored_yields {a : Anchored} {log : List Entry} (h : Yields (anchored pk ev) a log) : AnchoredFrom pk ev a := by
  obtain ⟨policy, _, _, hpolicy, h, -⟩ := yields_bind.1 h
  obtain ⟨pinned, _, _, -, h, -⟩ := yields_bind.1 h
  obtain ⟨policyOk, _, _, -, h, -⟩ := yields_bind.1 h
  obtain ⟨signedOk, _, _, -, h, -⟩ := yields_bind.1 h
  obtain ⟨b, _, _, hb, h, -⟩ := yields_bind.1 h
  obtain ⟨good, _, _, hgood, h, -⟩ := yields_bind.1 h
  obtain ⟨goodOk, _, _, htest, h, -⟩ := yields_bind.1 h
  obtain ⟨anchorDigest, _, _, -, h, -⟩ := yields_bind.1 h
  obtain ⟨receiptOk, _, _, -, h, -⟩ := yields_bind.1 h
  obtain ⟨rfl, -⟩ := yields_pure.1 h
  refine ⟨(yields_lift.1 hpolicy).1, (yields_lift.1 hb).1, fun hindex => ?_⟩
  rw [Bool.and_eq_true] at hindex
  obtain rfl := (yields_test htest).symm.trans hindex.1
  exact (yields_lift.1 hgood).1

/-- What one round of the loop over the events read of an event. -/
structure Delivers (pk : Packages) (a : Anchored) (event : Json) (d : Delivered) : Prop where
  body : ∃ envelope, sub event "signed" = .ok envelope ∧ sub envelope "body" = .ok d.body
  eventId : d.body.item "event_id" = .str d.eventId
  texts : ∀ k ∈ ["event_id", "source_id", "event_type"], ∃ s, d.body.item k = .str s
  index : ∃ v, sub event "index" = .ok v ∧ natural v maxItems = .ok d.index
  included : included pk a d.body event d.index = .ok d.proofOk

theorem stringValue_ok {v : Json} {name s : String} (h : stringValue v name = .ok s) : v = .str s := by
  unfold stringValue at h
  split at h
  · split_ifs at h
    · cases h
      rfl
    · cases h
  · cases h

theorem deliver_yields {a : Anchored} {pos : ℕ} {event : Json} {d : Delivered} {log : List Entry}
    (h : Yields (deliver pk ev a pos event) d log) : Delivers pk a event d := by
  obtain ⟨envelope, _, _, henvelope, h, -⟩ := yields_bind.1 h
  obtain ⟨body, _, _, hbody, h, -⟩ := yields_bind.1 h
  obtain ⟨_, _, _, -, h, -⟩ := yields_bind.1 h
  obtain ⟨_, _, _, htexts, h, -⟩ := yields_bind.1 h
  obtain ⟨signedOk, _, _, -, h, -⟩ := yields_bind.1 h
  obtain ⟨keyId, _, _, -, h, -⟩ := yields_bind.1 h
  obtain ⟨authorized, _, _, -, h, -⟩ := yields_bind.1 h
  obtain ⟨hashed, _, _, -, h, -⟩ := yields_bind.1 h
  obtain ⟨hashOk, _, _, -, h, -⟩ := yields_bind.1 h
  obtain ⟨v, _, _, hv, h, -⟩ := yields_bind.1 h
  obtain ⟨index, _, _, hindex, h, -⟩ := yields_bind.1 h
  obtain ⟨ok, _, _, hok, h, -⟩ := yields_bind.1 h
  obtain ⟨proofOk, _, _, hproof, h, -⟩ := yields_bind.1 h
  obtain ⟨rfl, -⟩ := yields_pure.1 h
  have hincluded : included pk a body event index = .ok proofOk := by
    rw [(yields_put hproof).1]
    change _ = Except.ok (decide (stateOf ok = .verified))
    rw [stateOf_verified]
    exact (yields_lift.1 hok).1
  have hall : ∀ k ∈ ["event_id", "source_id", "event_type"], ∃ s, body.item k = .str s := by
    intro k hk
    obtain ⟨value, hvalue, hfirst⟩ := bind_ok (forM_ok (yields_lift.1 htexts).1 k hk)
    obtain ⟨s, hs, -⟩ := bind_ok hfirst
    exact ⟨s, by rw [Incident.sub_ok hvalue, stringValue_ok hs]⟩
  obtain ⟨name, hname⟩ := hall "event_id" List.mem_cons_self
  refine ⟨⟨envelope, (yields_lift.1 henvelope).1, (yields_lift.1 hbody).1⟩, ?_, hall,
    ⟨v, (yields_lift.1 hv).1, (yields_lift.1 hindex).1⟩, hincluded⟩
  rw [textAt, hname]
  rfl

/-- What the core pass is made of. -/
structure CoreFrom (pk : Packages) (ev : Evaluation) (c : Core) : Prop where
  anchored : AnchoredFrom pk ev c.toAnchored
  events : List.Forall₂ (Delivers pk c.toAnchored) (elems (ev.p.item "events")) c.events
  requirements : ∃ crypto anchoring, requirements c.toAnchored c.events crypto anchoring = .ok c.requirements

theorem core_yields {c : Core} {log : List Entry} (h : Yields (core pk ev) c log) : CoreFrom pk ev c := by
  obtain ⟨⟨⟨a, events, proofs, anchoring⟩, seen⟩, _, _, hbody, h, -⟩ := yields_bind.1 h
  obtain ⟨reqs, _, _, hreqs, h, -⟩ := yields_bind.1 h
  obtain ⟨rfl, -⟩ := yields_pure.1 h
  have hbody := (yields_listen.1 hbody).1
  obtain ⟨⟨a', first⟩, _, _, ha, hbody, -⟩ := yields_bind.1 hbody
  obtain ⟨events', _, _, hevents, hbody, -⟩ := yields_bind.1 hbody
  obtain ⟨supplied, _, _, -, hbody, -⟩ := yields_bind.1 hbody
  obtain ⟨proofs', _, _, -, hbody, -⟩ := yields_bind.1 hbody
  obtain ⟨heq, -⟩ := yields_pure.1 hbody
  cases heq
  refine ⟨anchored_yields (yields_listen.1 ha).1, ?_, _, _, (yields_lift.1 hreqs).1⟩
  have hall := each_values hevents
  rw [← List.zipIdx_map_fst 0 (elems (ev.p.item "events")), List.forall₂_map_left_iff]
  exact hall.imp fun e d hd => deliver_yields hd.choose_spec

/-! ## The result INT-008 -/

/-- The result of the requirement with this name. -/
def resultOf (c : Core) (name : String) : Option State :=
  (c.requirements.find? fun r => r.check = name).map Check.result

theorem int008_result {c : Core} {crypto anchoring : List Check}
    (h : requirements c.toAnchored c.events crypto anchoring = .ok c.requirements) :
    ∃ b, complete c.toAnchored c.events = .ok b ∧ (resultOf c "INT-008" = some .verified ↔
      c.indexOk = true ∧ c.anchorOk = true ∧ b = true ∧
        ∀ e ∈ c.events, e.hashOk = true ∧ e.sigOk = true ∧ e.proofOk = true) := by
  obtain ⟨b, hb, h⟩ := bind_ok h
  refine ⟨b, hb, ?_⟩
  have hresult : resultOf c "INT-008" = some (if c.indexOk && c.anchorOk then
      if b && !(c.events.all Delivered.hashOk && c.events.all Delivered.sigOk && c.events.all Delivered.proofOk) then
        .indeterminate
      else stateOf b
    else .indeterminate) := by
    rw [resultOf, ← Except.ok.inj h]
    rfl
  have hflags : (c.events.all Delivered.hashOk && c.events.all Delivered.sigOk && c.events.all Delivered.proofOk) = true ↔
      ∀ e ∈ c.events, e.hashOk = true ∧ e.sigOk = true ∧ e.proofOk = true := by
    rw [Bool.and_eq_true, Bool.and_eq_true, List.all_eq_true, List.all_eq_true, List.all_eq_true]
    exact ⟨fun hall e he => ⟨hall.1.1 e he, hall.1.2 e he, hall.2 e he⟩,
      fun hall => ⟨⟨fun e he => (hall e he).1, fun e he => (hall e he).2.1⟩, fun e he => (hall e he).2.2⟩⟩
  rw [hresult, ← hflags]
  generalize (c.events.all Delivered.hashOk && c.events.all Delivered.sigOk && c.events.all Delivered.proofOk) = flags
  cases c.indexOk <;> cases c.anchorOk <;> cases b <;> cases flags <;> decide

/-- The index has the identity of the event at the position that the event claims. -/
structure Occupies (pk : Packages) (a : Anchored) (e : Delivered) : Prop where
  bound : e.index < a.index.length
  eventId : (a.index.getD e.index .null).item "event_id" = .str e.eventId
  source : (a.index.getD e.index .null).item "source_id" = .str (textAt e.body "source_id")
  type : (a.index.getD e.index .null).item "event_type" = .str (textAt e.body "event_type")
  leaf : ∃ leaf, leafHash pk e.body = .ok leaf ∧ (a.index.getD e.index .null).item "leaf_hash" = .str (hex leaf)

/-- No two entries of the index have one event id. -/
theorem Indexed.eq_of_eventId {b : Batch} (h : Indexed b) {i j : ℕ} (hi : i < b.index.length) (hj : j < b.index.length)
    {s : String} (his : (b.index.getD i .null).item "event_id" = .str s)
    (hjs : (b.index.getD j .null).item "event_id" = .str s) : i = j := by
  have hget (k : ℕ) (hk : k < b.index.length) : ∃ hk' : k < b.ids.length,
      b.ids.get ⟨k, hk'⟩ = (b.index.getD k .null).item "event_id" := by
    have hlen : b.ids.length = b.index.length := by rw [h.ids, List.length_map]
    refine ⟨by omega, ?_⟩
    rw [List.getD_eq_getElem _ _ hk, List.get_eq_getElem]
    simp only [h.ids, List.getElem_map]
  obtain ⟨hi', hidi⟩ := hget i hi
  obtain ⟨hj', hidj⟩ := hget j hj
  have hpair := List.pairwise_iff_get.1 h.distinct
  rcases lt_trichotomy i j with hlt | rfl | hlt
  · have := hpair ⟨i, hi'⟩ ⟨j, hj'⟩ hlt
    rw [hidi, hidj, his, hjs, equal_self_str] at this
    cases this
  · rfl
  · have := hpair ⟨j, hj'⟩ ⟨i, hi'⟩ hlt
    rw [hidi, hidj, his, hjs, equal_self_str] at this
    cases this

/-- Events that occupy their positions are a complete delivery when the positions are those of the index,
    each once. -/
theorem complete_iff {a : Anchored} {events : List Delivered} (hidx : Indexed a.toBatch)
    (hocc : ∀ e ∈ events, Occupies pk a e) :
    complete a events = .ok true ↔ (events.map Delivered.index).Perm (List.range a.size) := by
  constructor
  · intro h
    have hall := allOf_true h
    have hlength : (events.map Delivered.eventId).length = a.size :=
      of_decide_eq_true (Except.ok.inj (hall _ List.mem_cons_self))
    have hrange := Except.ok.inj (hall _ (List.mem_cons_of_mem _ (List.mem_cons_of_mem _ List.mem_cons_self)))
    rw [Bool.and_eq_true, List.all_eq_true, List.all_eq_true] at hrange
    have hsub : List.range a.size ⊆ events.map Delivered.index := fun i hi => List.contains_iff_mem.1 (hrange.2 i hi)
    refine ((List.subperm_of_subset List.nodup_range hsub).perm_of_length_le ?_).symm
    rw [List.length_map] at hlength
    rw [List.length_map, List.length_range, hlength]
  · intro hperm
    have hlen : events.length = a.size := by
      have := hperm.length_eq
      rwa [List.length_map, List.length_range] at this
    have hnodup : (events.map Delivered.eventId).Nodup := by
      have hindices : (events.map Delivered.index).Nodup := hperm.nodup_iff.2 List.nodup_range
      refine List.Nodup.map_on (fun d hd e he hde => ?_) hindices.of_map
      have hdi := (hocc d hd).eventId
      rw [hde] at hdi
      exact List.inj_on_of_nodup_map hindices hd he
        (hidx.eq_of_eventId (hocc d hd).bound (hocc e he).bound hdi (hocc e he).eventId)
    have hids : a.ids.length = a.size := by rw [hidx.ids, List.length_map, hidx.length]
    have hmem {x : Json} (hx : x ∈ a.ids) : ∃ e ∈ events, x = .str e.eventId := by
      rw [hidx.ids] at hx
      obtain ⟨entry, hentry, rfl⟩ := List.mem_map.1 hx
      obtain ⟨i, hi, rfl⟩ := List.getElem_of_mem hentry
      have : i ∈ events.map Delivered.index := hperm.mem_iff.2 (List.mem_range.2 (hidx.length ▸ hi))
      obtain ⟨e, he, rfl⟩ := List.mem_map.1 this
      refine ⟨e, he, ?_⟩
      rw [← (hocc e he).eventId, List.getD_eq_getElem _ _ hi]
    refine allOf_of_all fun part hpart => ?_
    simp only [List.mem_cons, List.not_mem_nil, or_false] at hpart
    rcases hpart with rfl | rfl | rfl | rfl
    · rw [List.length_map, hlen]
      exact congrArg Except.ok (decide_eq_true rfl)
    · rw [hnodup.dedup, List.length_map, hlen]
      exact congrArg Except.ok (decide_eq_true rfl)
    · refine congrArg Except.ok (Bool.and_eq_true_iff.2 ⟨?_, ?_⟩)
      · exact List.all_eq_true.2 fun i hi => decide_eq_true (List.mem_range.1 (hperm.mem_iff.1 hi))
      · exact List.all_eq_true.2 fun i hi => List.contains_iff_mem.2 (hperm.mem_iff.2 hi)
    · have hset : asSet a.ids = .ok () := if_pos hidx.hashable
      rw [hset]
      refine congrArg Except.ok (Bool.and_eq_true_iff.2 ⟨?_, ?_⟩)
      · refine List.all_eq_true.2 fun s hs => List.contains_iff_mem.2 ?_
        obtain ⟨e, he, rfl⟩ := List.mem_map.1 hs
        rw [hidx.ids, ← (hocc e he).eventId, List.getD_eq_getElem _ _ (hocc e he).bound]
        exact List.mem_map.2 ⟨_, List.getElem_mem _, rfl⟩
      · refine List.all_eq_true.2 fun x hx => List.any_eq_true.2 ?_
        obtain ⟨e, he, rfl⟩ := hmem hx
        exact ⟨_, List.mem_map.2 ⟨e, he, rfl⟩, decide_eq_true rfl⟩

/-- An event whose inclusion check passes occupies its position. -/
theorem Delivers.occupies {a : Anchored} {event : Json} {d : Delivered} (h : Delivers pk a event d)
    (hok : d.proofOk = true) : Occupies pk a d := by
  have hincluded := h.included
  rw [hok] at hincluded
  have hall := allOf_true hincluded
  have hbound : d.index < a.index.length := of_decide_eq_true (Except.ok.inj (hall _ List.mem_cons_self))
  obtain ⟨leaf, hleaf, hentry⟩ := bind_ok (hall _ (List.mem_cons_of_mem _ List.mem_cons_self))
  have hequal := Except.ok.inj hentry
  obtain ⟨source, hsource⟩ := h.texts "source_id" (by simp)
  obtain ⟨type, htype⟩ := h.texts "event_type" (by simp)
  rw [h.eventId, hsource, htype] at hequal
  refine ⟨hbound, ?_, ?_, ?_, leaf, hleaf, ?_⟩
  · exact equal_item hequal (by rw [get?_dict]; rfl)
  · rw [textAt, hsource]
    exact equal_item hequal (by rw [get?_dict]; rfl)
  · rw [textAt, htype]
    exact equal_item hequal (by rw [get?_dict]; rfl)
  · exact equal_item hequal (by rw [get?_dict]; rfl)

/-- Every entry of the anchored index is delivered once, at its position, and every event passes its checks. -/
structure DeliversAll (pk : Packages) (c : Core) : Prop where
  positions : (c.events.map Delivered.index).Perm (List.range c.index.length)
  occupied : ∀ e ∈ c.events, Occupies pk c.toAnchored e
  checked : ∀ e ∈ c.events, e.hashOk = true ∧ e.sigOk = true ∧ e.proofOk = true

theorem CoreFrom.indexed {c : Core} (h : CoreFrom pk ev c) (hindex : c.indexOk = true) : Indexed c.toBatch :=
  indexGood_indexed (readBatch_ids h.anchored.batch) (h.anchored.indexed hindex)

theorem CoreFrom.occupies {c : Core} (h : CoreFrom pk ev c) {e : Delivered} (he : e ∈ c.events)
    (hok : e.proofOk = true) : Occupies pk c.toAnchored e := by
  obtain ⟨i, hi, rfl⟩ := List.getElem_of_mem he
  have hlen := h.events.length_eq
  exact (List.forall₂_iff_get.1 h.events |>.2 i (hlen ▸ hi) hi).occupies hok

theorem CoreFrom.int008 {c : Core} (h : CoreFrom pk ev c) : resultOf c "INT-008" = some .verified ↔
    c.indexOk = true ∧ c.anchorOk = true ∧ DeliversAll pk c := by
  obtain ⟨crypto, anchoring, hreqs⟩ := h.requirements
  obtain ⟨b, hb, hresult⟩ := int008_result hreqs
  rw [hresult]
  refine and_congr_right fun hindex => and_congr_right fun _ => ?_
  have hidx := h.indexed hindex
  constructor
  · rintro ⟨rfl, hflags⟩
    have hocc : ∀ e ∈ c.events, Occupies pk c.toAnchored e := fun e he => h.occupies he (hflags e he).2.2
    exact ⟨hidx.length ▸ (complete_iff hidx hocc).1 hb, hocc, hflags⟩
  · intro hall
    have := (complete_iff hidx hall.occupied).2 (hidx.length ▸ hall.positions)
    exact ⟨Except.ok.inj (hb.symm.trans this), hall.checked⟩

/-! ## Tampering with the delivery -/

/-- The packages agree on every member but the events. -/
def SameButEvents (p q : Json) : Prop := ∀ k, k ≠ "events" → p.get? k = q.get? k

/-- The canonical bytes of the body of an event. -/
def BodyBytes (pk : Packages) (event : Json) (raw : Bytes) : Prop :=
  ∃ envelope body, sub event "signed" = .ok envelope ∧ sub envelope "body" = .ok body ∧ canonical pk body = .ok raw

/-- One event omitted, delivered a second time, or replaced by one with another body. -/
inductive Tampered (pk : Packages) : List Json → List Json → Prop where
  | omits (before after : List Json) (event : Json) : Tampered pk (before ++ event :: after) (before ++ after)
  | duplicates (before after : List Json) (event : Json) (h : event ∈ before ++ after) :
      Tampered pk (before ++ after) (before ++ event :: after)
  | substitutes (before after : List Json) (event other : Json) (raw raw' : Bytes) (h : BodyBytes pk event raw)
      (h' : BodyBytes pk other raw') (hne : raw ≠ raw') :
      Tampered pk (before ++ event :: after) (before ++ other :: after)

/-- Two bodies, one of either delivery, with one leaf hash. -/
def LeafCollision (pk : Packages) (events events' : List Json) : Prop :=
  ∃ event ∈ events, ∃ event' ∈ events', ∃ raw raw', BodyBytes pk event raw ∧ BodyBytes pk event' raw' ∧ raw ≠ raw' ∧
    pk.sha256 (0 :: raw) = pk.sha256 (0 :: raw')

theorem readPolicy_policy {policy : Json} (h : readPolicy ev = .ok policy) : sub ev.p "policy" = .ok policy := by
  obtain ⟨_, -, h⟩ := bind_ok h
  obtain ⟨_, -, h⟩ := bind_ok h
  obtain ⟨_, -, h⟩ := bind_ok h
  obtain ⟨_, -, h⟩ := bind_ok h
  obtain ⟨policy', hpolicy, h⟩ := bind_ok h
  obtain ⟨_, -, h⟩ := bind_ok h
  obtain ⟨_, -, h⟩ := bind_ok h
  obtain ⟨_, -, h⟩ := bind_ok h
  obtain ⟨_, -, h⟩ := bind_ok h
  obtain ⟨_, -, h⟩ := bind_ok h
  obtain ⟨_, -, h⟩ := bind_ok h
  cases h
  exact hpolicy

/-- The anchor phase comes to the same for packages that differ in their events alone. -/
theorem anchored_agree {p q : Json} (h : SameButEvents p q) (hp : p.isDict = true) (hq : q.isDict = true) {a a' : Anchored}
    {log log' : List Entry} (ha : Yields (anchored pk { ev with p := p }) a log)
    (ha' : Yields (anchored pk { ev with p := q }) a' log') : a = a' := by
  obtain ⟨policy, _, _, hpolicy, hrest, -⟩ := yields_bind.1 ha
  obtain ⟨policy', _, _, hpolicy', hrest', -⟩ := yields_bind.1 ha'
  have hread := readPolicy_policy (yields_lift.1 hpolicy).1
  have hread' := readPolicy_policy (yields_lift.1 hpolicy').1
  dsimp only at hread hread'
  rw [sub_congr hp hq (h "policy" (by decide))] at hread
  obtain rfl := Except.ok.inj (hread.symm.trans hread')
  rw [readBatch_eq hp hq (h "anchor" (by decide)) (h "batch_index" (by decide))] at hrest
  dsimp only at hrest
  rw [item_congr (h "anchor" (by decide)), item_congr (h "anchor_receipt" (by decide))] at hrest
  exact (hrest.unique hrest').1

theorem core_anchored {c : Core} {log : List Entry} (h : Yields (core pk ev) c log) :
    ∃ left, Yields (anchored pk ev) c.toAnchored left := by
  obtain ⟨⟨⟨a, events, proofs, anchoring⟩, seen⟩, _, _, hbody, h, -⟩ := yields_bind.1 h
  obtain ⟨reqs, _, _, -, h, -⟩ := yields_bind.1 h
  obtain ⟨rfl, -⟩ := yields_pure.1 h
  obtain ⟨⟨a', first⟩, left, _, ha, hbody, -⟩ := yields_bind.1 (yields_listen.1 hbody).1
  obtain ⟨events', _, _, -, hbody, -⟩ := yields_bind.1 hbody
  obtain ⟨supplied, _, _, -, hbody, -⟩ := yields_bind.1 hbody
  obtain ⟨proofs', _, _, -, hbody, -⟩ := yields_bind.1 hbody
  obtain ⟨heq, -⟩ := yields_pure.1 hbody
  cases heq
  exact ⟨left, (yields_listen.1 ha).1⟩

/-- What an event delivers is determined by the event. -/
theorem Delivers.unique {a : Anchored} {event : Json} {d e : Delivered} (hd : Delivers pk a event d)
    (he : Delivers pk a event e) : d.index = e.index ∧ d.body = e.body := by
  obtain ⟨v, hv, hd'⟩ := hd.index
  obtain ⟨w, hw, he'⟩ := he.index
  obtain rfl := Except.ok.inj (hv.symm.trans hw)
  obtain ⟨x, hx, hdb⟩ := hd.body
  obtain ⟨y, hy, heb⟩ := he.body
  obtain rfl := Except.ok.inj (hx.symm.trans hy)
  exact ⟨Except.ok.inj (hd'.symm.trans he'), Except.ok.inj (hdb.symm.trans heb)⟩

theorem Delivers.bodyBytes {a : Anchored} {event : Json} {d : Delivered} (h : Delivers pk a event d) {raw : Bytes}
    (hraw : BodyBytes pk event raw) : canonical pk d.body = .ok raw := by
  obtain ⟨envelope, body, henvelope, hbody, hraw⟩ := hraw
  obtain ⟨envelope', henvelope', hbody'⟩ := h.body
  obtain rfl := Except.ok.inj (henvelope.symm.trans henvelope')
  obtain rfl := Except.ok.inj (hbody.symm.trans hbody')
  exact hraw

theorem forall₂_index {a : Anchored} {es : List Json} {ds ds' : List Delivered} (h : List.Forall₂ (Delivers pk a) es ds)
    (h' : List.Forall₂ (Delivers pk a) es ds') : ds.map Delivered.index = ds'.map Delivered.index := by
  induction h generalizing ds' with
  | nil =>
    cases h'
    rfl
  | cons hd _ ih =>
    cases h' with
    | cons hd' hrest =>
      rw [List.map_cons, List.map_cons, (hd.unique hd').1, ih hrest]

/-- Events at one position of the index have one body, or their leaf hashes collide. -/
theorem Occupies.collides {a : Anchored} {d e : Delivered} (hd : Occupies pk a d) (he : Occupies pk a e)
    (hindex : d.index = e.index) {raw raw' : Bytes} (hraw : canonical pk d.body = .ok raw)
    (hraw' : canonical pk e.body = .ok raw') : pk.sha256 (0 :: raw) = pk.sha256 (0 :: raw') := by
  obtain ⟨leaf, hleaf, hentry⟩ := hd.leaf
  obtain ⟨leaf', hleaf', hentry'⟩ := he.leaf
  rw [hindex] at hentry
  have heq : leaf = leaf' := hex_injective (Json.str.inj (hentry.symm.trans hentry'))
  rw [leafHash, hraw] at hleaf
  rw [leafHash, hraw'] at hleaf'
  rw [Except.ok.inj hleaf, heq, ← Except.ok.inj hleaf']

theorem forall₂_append_left {α β : Type} {R : α → β → Prop} {l₁ l₂ : List α} {r : List β} (h : List.Forall₂ R (l₁ ++ l₂) r) :
    ∃ r₁ r₂, List.Forall₂ R l₁ r₁ ∧ List.Forall₂ R l₂ r₂ ∧ r = r₁ ++ r₂ := by
  induction l₁ generalizing r with
  | nil => exact ⟨[], r, .nil, h, rfl⟩
  | cons a l₁ ih =>
    cases h with
    | cons hab h =>
      obtain ⟨r₁, r₂, h₁, h₂, rfl⟩ := ih h
      exact ⟨_ :: r₁, r₂, .cons hab h₁, h₂, rfl⟩

/-- Tampering with the events of a verified delivery is seen, or two different bodies have one leaf hash. -/
theorem tampering_seen {p q : Json} (h : SameButEvents p q) (hp : p.isDict = true) (hq : q.isDict = true) {c c' : Core}
    {log log' : List Entry} (hc : Yields (core pk { ev with p := p }) c log)
    (hc' : Yields (core pk { ev with p := q }) c' log') (hverified : resultOf c "INT-008" = some .verified)
    (htampered : Tampered pk (elems (p.item "events")) (elems (q.item "events"))) :
    resultOf c' "INT-008" ≠ some .verified ∨ LeafCollision pk (elems (p.item "events")) (elems (q.item "events")) := by
  refine or_iff_not_imp_left.2 fun hverified' => ?_
  rw [not_not] at hverified'
  obtain ⟨left, ha⟩ := core_anchored hc
  obtain ⟨left', ha'⟩ := core_anchored hc'
  have hanchored := anchored_agree h hp hq ha ha'
  obtain ⟨-, -, hall⟩ := (core_yields hc).int008.1 hverified
  obtain ⟨-, -, hall'⟩ := (core_yields hc').int008.1 hverified'
  have hevents := (core_yields hc).events
  have hevents' := (core_yields hc').events
  dsimp only at hevents hevents'
  have hindex : c.index.length = c'.index.length := by rw [hanchored]
  have hlength : (elems (p.item "events")).length = (elems (q.item "events")).length := by
    have hl := hall.positions.length_eq
    have hl' := hall'.positions.length_eq
    rw [List.length_map, List.length_range] at hl hl'
    rw [hevents.length_eq, hevents'.length_eq, hl, hl', hindex]
  have hocc := hall'.occupied
  have hpos := hall'.positions
  rw [← hanchored] at hevents' hocc
  rw [← hindex] at hpos
  generalize elems (p.item "events") = es at *
  generalize elems (q.item "events") = es' at *
  cases htampered with
  | omits before after event => simp at hlength
  | duplicates before after event h => simp at hlength
  | substitutes before after event other raw raw' hraw hraw' hne =>
    obtain ⟨ds, rest, hds, hrest, heq⟩ := forall₂_append_left hevents
    obtain ⟨ds', rest', hds', hrest', heq'⟩ := forall₂_append_left hevents'
    cases hrest with
    | @cons _ d _ tail hd htail =>
      cases hrest' with
      | @cons _ d' _ tail' hd' htail' =>
        have hmem : d ∈ c.events := by rw [heq]; simp
        have hmem' : d' ∈ c'.events := by rw [heq']; simp
        have hsame : d.index = d'.index := by
          have hsum := (hall.positions.trans hpos.symm).sum_nat
          rw [heq, heq', List.map_append, List.map_append, List.map_cons, List.map_cons, forall₂_index hds hds',
            forall₂_index htail htail', List.sum_append, List.sum_append, List.sum_cons, List.sum_cons] at hsum
          omega
        refine ⟨event, by simp, other, by simp, raw, raw', hraw, hraw', hne, ?_⟩
        exact (hall.occupied d hmem).collides (hocc d' hmem') hsame (hd.bodyBytes hraw) (hd'.bodyBytes hraw')

theorem core_isDict {c : Core} {log : List Entry} (h : Yields (core pk ev) c log) : ev.p.isDict = true := by
  obtain ⟨v, hv, -⟩ := bind_ok (core_yields h).anchored.policy
  cases hp : ev.p with
  | obj ms => rfl
  | _ =>
    rw [hp] at hv
    cases hv

/-- A package with another list of events. -/
def Evaluation.redelivered (ev : Evaluation) (q : Json) : Evaluation := { ev with p := q }

/-- With a verified index and anchor, INT-008 is verified exactly for a complete delivery, and nothing can be
    omitted, repeated or replaced in a verified one without another result or a collision. -/
theorem complete_delivery {c : Core} {log : List Entry} (h : core pk ev = .ok (c, log)) (hindex : c.indexOk = true)
    (hanchor : c.anchorOk = true) :
    (resultOf c "INT-008" = some .verified ↔ DeliversAll pk c) ∧
    (resultOf c "INT-008" = some .verified → ∀ q c' log', SameButEvents ev.p q →
      core pk (ev.redelivered q) = .ok (c', log') →
      Tampered pk (elems (ev.p.item "events")) (elems (q.item "events")) →
      resultOf c' "INT-008" ≠ some .verified ∨ LeafCollision pk (elems (ev.p.item "events")) (elems (q.item "events"))) := by
  refine ⟨?_, fun hverified q c' log' hsame hc' htampered => ?_⟩
  · rw [(core_yields h).int008]
    exact ⟨fun hall => hall.2.2, fun hall => ⟨hindex, hanchor, hall⟩⟩
  · exact @tampering_seen pk ev _ _ hsame (core_isDict h) (core_isDict hc') _ _ _ _ h hc' hverified htampered

end Core

/-! ## A small instance -/

def signature : String :=
  "00000000000000000000000000000000000000000000000000000000000000000000000000000000000000000000000000000000000000000000000000000000"

def sampleEnvelope (kind : String) (fields : List (String × Json)) : Json := dict
  [("algorithm", .str "Ed25519"), ("key_id", .str "k"), ("signature", .str signature), ("body",
    dict (fields ++ [("kind", .str kind), ("evaluation_id", .str "e"), ("policy_digest", .str zeros)]))]

def sampleIdentity : List (String × Json) := [("event_id", .str "x"), ("source_id", .str "s"), ("event_type", .str "t")]

/-- A package with one event, whose digests are all zero. -/
def sampleDelivery : Json := dict
  [("format", .str adapter),
    ("policy", dict [("adapter", .str adapter), ("event_signers", dict [("s", .arr [.str "k"])]),
      ("multiplicity", .str "exactly-one-per-obligation")]),
    ("anchor", sampleEnvelope "anchor" [("batch", dict [("event_count", .int 1), ("index_digest", .str zeros),
      ("merkle_root", .str zeros), ("first_event_id", .str "x"), ("last_event_id", .str "x"),
      ("policy_digest", .str zeros)])]),
    ("batch_index", .arr [dict (sampleIdentity ++ [("leaf_hash", .str zeros)])]),
    ("anchor_receipt", sampleEnvelope "receipt" [("target_digest", .str zeros), ("purpose", .str "anchor"),
      ("accepted_at", .int 1), ("uncertainty", .int 0), ("adapter", .str "synthetic-receipt/1")]),
    ("events", .arr [dict [("signed", sampleEnvelope "event" sampleIdentity), ("event_hash", .str zeros), ("index", .int 0),
      ("path", .arr [])]])]

def sampleEvaluation : Evaluation where
  p := sampleDelivery
  trust := dict [("evaluation_id", .str "e"), ("policy_digest", .str zeros), ("keys",
    dict [("k", dict [("roles", .arr [.str "anchor", .str "receipt", .str "event"]), ("public_key", .str zeros)])])]
  at_ := 5
  simulate := true

def verifyingPackages : Packages := { samplePackages with verify := fun _ _ _ => true }

theorem sample_complete_delivery : ∃ c log, core verifyingPackages sampleEvaluation = .ok (c, log) ∧
    resultOf c "INT-008" = some .verified ∧ DeliversAll verifyingPackages c := by
  have hcore : (core verifyingPackages sampleEvaluation).toOption.any (fun r => r.1.indexOk && r.1.anchorOk &&
    resultOf r.1 "INT-008" = some .verified) = true := by decide +kernel
  cases h : core verifyingPackages sampleEvaluation with
  | error e =>
    rw [h] at hcore
    cases hcore
  | ok r =>
    obtain ⟨c, log⟩ := r
    rw [h] at hcore
    simp only [Except.toOption, Option.any_some, Bool.and_eq_true, decide_eq_true_eq] at hcore
    obtain ⟨⟨hindex, hanchor⟩, hverified⟩ := hcore
    exact ⟨c, log, rfl, hverified, (complete_delivery h hindex hanchor).1.1 hverified⟩

end VapEvidence.Scope
