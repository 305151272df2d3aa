import VapEvidence.AuthorizationGate

set_option autoImplicit false

/-!
# Proof records recheck

A proof record written for an authorized decision gives that decision again from
its own bytes: its configuration, its evidence and its decision survive the
hexadecimal and JSON encodings, and the gate accepts its own configuration.
-/
namespace VapEvidence.Authorization
open Json Payment

/-! ## Findings -/

namespace Findings

theorem append_def (a b : Findings) : a ++ b = ⟨a.denied ++ b.denied, a.unknown ++ b.unknown⟩ := rfl

/-- Nothing is denied and nothing is unknown. -/
def Clear (f : Findings) : Prop := f.denied = [] ∧ f.unknown = []

theorem clear_append {a b : Findings} : Clear (a ++ b) ↔ Clear a ∧ Clear b := by
  simp only [Clear, append_def, List.append_eq_nil_iff]
  tauto

theorem clear_foldl (fs : List Findings) (init : Findings) :
    Clear (fs.foldl (· ++ ·) init) ↔ Clear init ∧ ∀ f ∈ fs, Clear f := by
  induction fs generalizing init with
  | nil => simp
  | cons f fs ih => rw [List.foldl_cons, ih, clear_append, List.forall_mem_cons, and_assoc]

theorem clear_all {fs : List Findings} : Clear (all fs) ↔ ∀ f ∈ fs, Clear f := by
  rw [all, clear_foldl]
  exact and_iff_right ⟨rfl, rfl⟩

theorem clear_demand {condition : Bool} {reason : String} :
    Clear (demand condition reason) ↔ condition = true := by
  cases condition <;> simp [demand, Clear, none]

theorem clear_of_verdict {f : Findings} (h : f.verdict = "AUTHORIZED") : Clear f := by
  unfold verdict at h
  split_ifs at h with hd hu
  · exact absurd h (by decide)
  · exact absurd h (by decide)
  · exact ⟨not_not.1 hd, not_not.1 hu⟩

theorem clear_unknownOf {α : Type} {x : Except String α} (h : Clear (unknownOf x)) : ∃ a, x = .ok a := by
  cases x with
  | ok a => exact ⟨a, rfl⟩
  | error e => exact absurd h.2 (by simp [unknownOf])

end Findings

section Recheck
variable {py : Platform}

/-! ## Evidence -/

def usableBytes (raw : Bytes) : Prop := 0 < raw.length ∧ raw.length ≤ 16384

/-- The evidence of a complete submission, in slot order. -/
def complete (maker checker status : Bytes) : EvidenceBytes :=
  [("maker_approval", maker), ("checker_approval", checker), ("final_status", status)]

theorem lookup_filterMap (keys : List String) (f : String → Option Bytes) (k : String) :
    (keys.filterMap fun s => (f s).map fun raw => (s, raw)).lookup k = if k ∈ keys then f k else none := by
  induction keys with
  | nil => rfl
  | cons j js ih =>
    cases hf : f j with
    | none =>
      rw [List.filterMap_cons_none (by rw [hf]; rfl), ih]
      by_cases hk : k = j
      · subst hk
        simp [hf]
      · simp [hk]
    | some raw =>
      rw [List.filterMap_cons_some (by rw [hf]; rfl)]
      by_cases hk : k = j
      · subst hk
        simp [hf]
      · simp [List.lookup_cons, beq_false_of_ne hk, hk, ih]

theorem freezeEvidence_filterMap (supplied : Supplied) : ∃ f : String → Option Bytes,
    (freezeEvidence supplied).1 = (slots.filterMap fun s => (f s).map fun raw => (s, raw)) ∧
      ∀ s raw, f s = some raw → usableBytes raw := by
  have empty : ([] : EvidenceBytes) = slots.filterMap fun s => (none : Option Bytes).map fun raw => (s, raw) := by
    decide
  cases supplied with
  | absent => exact ⟨fun _ => none, empty, fun _ _ h => by cases h⟩
  | unusable => exact ⟨fun _ => none, empty, fun _ _ h => by cases h⟩
  | items items =>
    unfold freezeEvidence
    dsimp only
    split_ifs
    · exact ⟨fun _ => none, empty, fun _ _ h => by cases h⟩
    · refine ⟨fun slot => (items.lookup slot).bind fun raw =>
        if raw.any (fun raw => 0 < raw.length && raw.length ≤ 16384) then raw else none, ?_, fun s raw h => ?_⟩
      · refine List.filterMap_congr fun slot _ => ?_
        cases hs : items.lookup slot with
        | none => simp only [hs, Option.bind_none, Option.map_none]
        | some raw =>
          simp only [hs, Option.bind_some]
          split_ifs <;> rfl
      · obtain ⟨raw', -, h⟩ := Option.bind_eq_some_iff.1 h
        split_ifs at h with hu
        subst h
        simpa [usableBytes] using hu

/-- Evidence that has every slot is complete, and each of its slots was usable. -/
theorem freezeEvidence_complete {supplied : Supplied}
    (h : ∀ slot ∈ slots, ∃ raw, (freezeEvidence supplied).1.lookup slot = some raw) :
    ∃ maker checker status, (freezeEvidence supplied).1 = complete maker checker status ∧
      usableBytes maker ∧ usableBytes checker ∧ usableBytes status := by
  obtain ⟨f, hf, hu⟩ := freezeEvidence_filterMap supplied
  have hslot : ∀ slot ∈ slots, ∃ raw, f slot = some raw := by
    intro slot hs
    obtain ⟨raw, hraw⟩ := h slot hs
    rw [hf, lookup_filterMap, if_pos hs] at hraw
    exact ⟨raw, hraw⟩
  obtain ⟨maker, hm⟩ := hslot "maker_approval" (by decide)
  obtain ⟨checker, hc⟩ := hslot "checker_approval" (by decide)
  obtain ⟨status, hs⟩ := hslot "final_status" (by decide)
  refine ⟨maker, checker, status, ?_, hu _ _ hm, hu _ _ hc, hu _ _ hs⟩
  rw [hf]
  simp [slots, approvals, complete, hm, hc, hs]

theorem hexMembers_complete (maker checker status : Bytes) :
    hexMembers (complete maker checker status) = .obj [("checker_approval", .str (hex checker)),
      ("final_status", .str (hex status)), ("maker_approval", .str (hex maker))] := by
  have h1 : "checker_approval" < "maker_approval" := by decide
  have h2 : "final_status" < "maker_approval" := by decide
  have h3 : ¬ "final_status" < "checker_approval" := by decide
  simp only [hexMembers, complete, dict, insertAll, List.map_cons, List.map_nil, List.foldl_cons,
    List.foldl_nil, insertKey, h1, h2, h3, if_true, if_false, String.reduceEq]

theorem decodedHex_hex {raw : Bytes} (h : 0 < raw.length) : decodedHex (.str (hex raw)) = .ok raw := by
  unfold decodedHex
  simp only [unhex_hex]
  cases raw with
  | nil => cases h
  | cons b bs => rfl

theorem decodeMembers_complete {maker checker status : Bytes} (hm : usableBytes maker)
    (hc : usableBytes checker) (hs : usableBytes status) :
    decodeMembers (hexMembers (complete maker checker status)).members =
      .ok [("checker_approval", checker), ("final_status", status), ("maker_approval", maker)] := by
  rw [hexMembers_complete]
  simp only [members, decodeMembers, decodedHex_hex hm.1, decodedHex_hex hc.1, decodedHex_hex hs.1]
  rfl

/-- Evidence that was frozen once freezes to itself. -/
theorem freezeEvidence_decoded {maker checker status : Bytes} (hm : usableBytes maker)
    (hc : usableBytes checker) (hs : usableBytes status) :
    freezeEvidence (.items ([("checker_approval", checker), ("final_status", status),
      ("maker_approval", maker)].map fun e => (e.1, some e.2))) = (complete maker checker status, []) := by
  have usable {raw : Bytes} (h : usableBytes raw) :
      (0 < raw.length && raw.length ≤ 16384 : Bool) = true := by
    simp only [Bool.and_eq_true, decide_eq_true_eq]
    exact h
  have hmaker : ([("checker_approval", some checker), ("final_status", some status),
      ("maker_approval", some maker)] : List (String × Option Bytes)).lookup "maker_approval" =
      some (some maker) := rfl
  have hchecker : ([("checker_approval", some checker), ("final_status", some status),
      ("maker_approval", some maker)] : List (String × Option Bytes)).lookup "checker_approval" =
      some (some checker) := rfl
  have hstatus : ([("checker_approval", some checker), ("final_status", some status),
      ("maker_approval", some maker)] : List (String × Option Bytes)).lookup "final_status" =
      some (some status) := rfl
  simp only [freezeEvidence, List.map_cons, List.map_nil]
  rw [if_neg]
  · simp only [slots, approvals, List.cons_append, List.nil_append, List.filterMap_cons, List.filterMap_nil,
      hmaker, hchecker, hstatus, Option.bind_some, Option.any_some, usable hm, usable hc, usable hs, if_true,
      Option.map_some, complete]
  · exact Bool.false_ne_true

/-! ## Configuration -/

theorem decodeMembers_hex {P : String → Bytes → Prop} (ms : List (String × Json))
    (h : ∀ m ∈ ms, ∃ raw, 0 < raw.length ∧ m.2 = .str (hex raw) ∧ P m.1 raw) :
    ∃ keys, decodeMembers ms = .ok keys ∧ (keys.map fun k => (k.1, Json.str (hex k.2))) = ms ∧
      ∀ k ∈ keys, P k.1 k.2 := by
  induction ms with
  | nil => exact ⟨[], rfl, rfl, fun _ h => by cases h⟩
  | cons m ms ih =>
    obtain ⟨id, v⟩ := m
    obtain ⟨keys, hk, he, hp⟩ := ih fun m hm => h m (List.mem_cons_of_mem _ hm)
    obtain ⟨raw, hpos, rfl, hraw⟩ := h (id, v) List.mem_cons_self
    refine ⟨(id, raw) :: keys, ?_, ?_, List.forall_mem_cons.2 ⟨hraw, hp⟩⟩
    · simp only [decodeMembers, decodedHex_hex hpos, hk]
      rfl
    · rw [List.map_cons, he]

theorem checkKeys_ok {keys : List (String × Bytes)} {u : Unit} : checkKeys py keys = .ok u ↔
    ∀ k ∈ keys, textOk (.str k.1) = true ∧ k.2.length = 32 ∧ py.publicKeyLoads k.2 = true := by
  induction keys with
  | nil => simp [checkKeys]
  | cons k keys ih =>
    rw [List.forall_mem_cons, ← ih, checkKeys]
    constructor
    · intro h
      obtain ⟨_, hs, h⟩ := bind_ok h
      obtain ⟨_, hl, h⟩ := bind_ok h
      have hs := require_ok.1 hs
      simp only [Bool.and_eq_true, decide_eq_true_eq] at hs
      exact ⟨⟨hs.1, hs.2, require_ok.1 hl⟩, h⟩
    · rintro ⟨⟨ht, hlen, hl⟩, h⟩
      simp only [ht, hlen, hl, h, require, bind, Except.bind]
      rfl

theorem checkRoles_ok {trust : TrustedKeys} {u : Unit} :
    checkRoles py trust = .ok u ↔ ∀ e ∈ trust, checkKeys py e.2 = .ok () := by
  induction trust with
  | nil => simp [checkRoles]
  | cons e trust ih =>
    rw [List.forall_mem_cons, ← ih, checkRoles]
    constructor
    · intro h
      obtain ⟨⟨⟩, hk, h⟩ := bind_ok h
      exact ⟨hk, h⟩
    · rintro ⟨hk, h⟩
      simp only [hk, h, bind, Except.bind]

/-- The accepted keys of one role. -/
def RoleKeys (py : Platform) (role : String) (v : Json) : Prop :=
  roles.contains role = true ∧ ∃ keys : List (String × Bytes), checkKeys py keys = .ok () ∧
    v = dict (keys.map fun k => (k.1, .str (hex k.2)))

theorem decodeTrust_members (ms : List (String × Json)) (h : ∀ m ∈ ms, RoleKeys py m.1 m.2) :
    ∃ trust, decodeTrust ms = .ok trust ∧ (trust.map fun e =>
        (e.1, dict (e.2.map fun k => (k.1, Json.str (hex k.2))))) = ms ∧
      (∀ e ∈ trust, roles.contains e.1 = true) ∧ ∀ e ∈ trust, checkKeys py e.2 = .ok () := by
  induction ms with
  | nil => exact ⟨[], rfl, rfl, (fun _ h => by cases h), fun _ h => by cases h⟩
  | cons m ms ih =>
    obtain ⟨role, v⟩ := m
    obtain ⟨trust, ht, he, hr, hk⟩ := ih fun m hm => h m (List.mem_cons_of_mem _ hm)
    obtain ⟨hrole, keys, hkeys, rfl⟩ := h (role, v) List.mem_cons_self
    have hall : ∀ m ∈ insertAll (keys.map fun k => (k.1, Json.str (hex k.2))) [],
        ∃ raw : Bytes, 0 < raw.length ∧ m.2 = .str (hex raw) ∧
          (textOk (.str m.1) = true ∧ raw.length = 32 ∧ py.publicKeyLoads raw = true) := by
      intro m hm
      rcases mem_insertAll hm with hm | hm
      · obtain ⟨k, hk', rfl⟩ := List.mem_map.1 hm
        have hc := checkKeys_ok.1 hkeys k hk'
        exact ⟨k.2, by rw [hc.2.1]; decide, rfl, hc⟩
      · cases hm
    obtain ⟨keys', hdec, hmap, hok⟩ := @decodeMembers_hex (fun id raw =>
      textOk (.str id) = true ∧ raw.length = 32 ∧ py.publicKeyLoads raw = true) _ hall
    refine ⟨(role, keys') :: trust, ?_, ?_, List.forall_mem_cons.2 ⟨hrole, hr⟩,
      List.forall_mem_cons.2 ⟨checkKeys_ok.2 hok, hk⟩⟩
    · simp only [dict, decodeTrust, hdec, ht]
      rfl
    · rw [List.map_cons, he, hmap]
      exact congrArg (fun v => (role, v) :: ms) (dict_sorted (sortedKeys_insertAll _ _ (by simp [SortedKeys])))

theorem trustValue_wf (trust : TrustedKeys) : (trustValue trust).WF := by
  refine dict_wf fun p hp => ?_
  obtain ⟨e, -, rfl⟩ := List.mem_map.1 hp
  refine dict_wf fun q hq => ?_
  obtain ⟨k, -, rfl⟩ := List.mem_map.1 hq
  trivial

/-- The trust manifest of a configuration is read back as itself. -/
theorem trustManifest_again {trust : TrustedKeys} {v : Json} {raw : Bytes}
    (h : trustManifest py trust = .ok v) (hraw : canonical py v = .ok raw) :
    load py raw = .ok v ∧ v.isDict = true ∧
      ∃ again, decodeTrust v.members = .ok again ∧ trustManifest py again = .ok v := by
  obtain ⟨_, hroles, h⟩ := bind_ok h
  obtain ⟨⟨⟩, hkeys, h⟩ := bind_ok h
  obtain ⟨bytes, hbytes, h⟩ := bind_ok h
  have hload := load_canonical (trustValue_wf trust) hbytes
  obtain rfl := Except.ok.inj (hload.symm.trans h)
  obtain rfl := Except.ok.inj (hbytes.symm.trans hraw)
  have hmem : ∀ m ∈ (trustValue trust).members, RoleKeys py m.1 m.2 := by
    intro m hm
    rcases mem_insertAll hm with hm | hm
    · obtain ⟨e, he, rfl⟩ := List.mem_map.1 hm
      exact ⟨List.all_eq_true.1 (require_ok.1 hroles) e he, e.2, checkRoles_ok.1 hkeys e he, rfl⟩
    · cases hm
  obtain ⟨again, hdec, hmap, hr, hk⟩ := decodeTrust_members _ hmem
  have hvalue : trustValue again = trustValue trust := by
    rw [trustValue, hmap]
    exact dict_sorted (sortedKeys_insertAll _ _ (by simp [SortedKeys]))
  refine ⟨hload, rfl, again, hdec, ?_⟩
  have hall : (again.all fun e => roles.contains e.1) = true := List.all_eq_true.2 hr
  have hchecked : checkRoles py again = .ok () := checkRoles_ok.2 hk
  simp only [trustManifest, hall, hchecked, hvalue, hbytes, hload, require, bind, Except.bind]
  rfl

theorem policyOf_again {value v : Json} {raw : Bytes} (h : policyOf py value = .ok v)
    (hraw : canonical py v = .ok raw) :
    load py raw = .ok v ∧ policyOf py v = .ok v ∧ policyOk v = true := by
  obtain ⟨bytes, -, h⟩ := bind_ok h
  obtain ⟨v', hv, h⟩ := bind_ok h
  obtain ⟨_, hok, h⟩ := bind_ok h
  obtain ⟨c, hc, h⟩ := bind_ok h
  cases h
  have hload := load_canonical (loadJson_wf py _ hv) hraw
  refine ⟨hload, ?_, require_ok.1 hok⟩
  simp only [policyOf, hraw, hload, require_ok.1 hok, hc, require, bind, Except.bind]
  rfl

theorem identityManifest_again {value v : Json} {raw : Bytes} (h : identityManifest py value = .ok v)
    (hraw : canonical py v = .ok raw) : load py raw = .ok v ∧ identityManifest py v = .ok v := by
  obtain ⟨bytes, -, h⟩ := bind_ok h
  obtain ⟨v', hv, h⟩ := bind_ok h
  split at h
  · next ms =>
    obtain ⟨_, hok, h⟩ := bind_ok h
    cases h
    have hload := load_canonical (loadJson_wf py _ hv) hraw
    refine ⟨hload, ?_⟩
    simp only [identityManifest, hraw, hload, require_ok.1 hok, require, bind, Except.bind]
    rfl
  · cases h

/-- What a gate was configured with, as it holds it. -/
structure Configured (py : Platform) (g : AuthorizedAdapter) (policy trust identities : Json) : Prop where
  accepted : ∃ value, policyOf py value = .ok policy
  keyed : ∃ keys, trustManifest py keys = .ok trust
  identified : ∃ value, identityManifest py value = .ok identities
  policyBytes : canonical py policy = .ok g.policyBytes
  trustBytes : canonical py trust = .ok g.trustBytes
  identitiesBytes : canonical py identities = .ok g.identitiesBytes
  age : (integerOk (.int g.maxStatusAgeMs) && g.maxStatusAgeMs ≠ 0) = true

theorem newAuthorizedAdapter_configured {a : Adapter} {config : GateConfig} {faultHook : Bool}
    {g : AuthorizedAdapter} (h : newAuthorizedAdapter py a config faultHook = .ok g) :
    ∃ policy trust identities, Configured py g policy trust identities := by
  obtain ⟨policy, hp, h⟩ := bind_ok h
  obtain ⟨policyBytes, hpb, h⟩ := bind_ok h
  obtain ⟨trust, ht, h⟩ := bind_ok h
  obtain ⟨trustBytes, htb, h⟩ := bind_ok h
  obtain ⟨identities, hi, h⟩ := bind_ok h
  obtain ⟨identitiesBytes, hib, h⟩ := bind_ok h
  obtain ⟨_, hage, h⟩ := bind_ok h
  cases h
  exact ⟨policy, trust, identities, ⟨_, hp⟩, ⟨_, ht⟩, ⟨_, hi⟩, hpb, htb, hib, require_ok.1 hage⟩

/-! ## The assessment of an authorized decision -/

/-- The members of a decision. -/
theorem assess_ok {r : Request py} {evidence : EvidenceBytes} {problems : List String}
    {policy trust identities : Json} {now maxStatusAge : ℤ} {decision : Json}
    (h : assess r evidence problems policy trust identities now maxStatusAge = .ok decision) :
    decision.WF ∧ decision.isDict = true ∧ decision.item "request_digest" = .str r.digest ∧
      decision.item "evaluated_at_ms" = .int now ∧
      (decision.item "verdict" = .str "AUTHORIZED" → decision.item "admitted_at_ms" = .int now ∧
        ∃ policyDigest, Findings.Clear
          (assessFindings r evidence problems policy trust identities policyDigest now maxStatusAge)) := by
  obtain ⟨policyDigest, -, h⟩ := bind_ok h
  obtain ⟨trustDigest, -, h⟩ := bind_ok h
  obtain ⟨identityDigest, -, h⟩ := bind_ok h
  cases h
  generalize hf : assessFindings r evidence problems policy trust identities policyDigest now maxStatusAge = found
  refine ⟨?_, rfl, item_of_get? (by simp [get?_dict, lookup_cons_ite]),
    item_of_get? (by simp [get?_dict, lookup_cons_ite]), fun hv => ?_⟩
  · refine dict_wf fun p hp => ?_
    simp only [List.mem_cons, List.not_mem_nil, or_false] at hp
    rcases hp with rfl | rfl | rfl | rfl | rfl | rfl | rfl | rfl | rfl | rfl
    · trivial
    · trivial
    · trivial
    · trivial
    · dsimp only
      split_ifs <;> trivial
    · refine (wfList_iff _).2 fun x hx => ?_
      obtain ⟨s, -, rfl⟩ := List.mem_map.1 hx
      trivial
    · trivial
    · trivial
    · trivial
    · refine dict_wf fun q hq => ?_
      obtain ⟨e, -, rfl⟩ := List.mem_map.1 hq
      trivial
  · have hverdict : found.verdict = "AUTHORIZED" := by
      rw [item, get?_dict] at hv
      simpa [lookup_cons_ite] using hv
    refine ⟨item_of_get? ?_, policyDigest, hf ▸ Findings.clear_of_verdict hverdict⟩
    simp [get?_dict, lookup_cons_ite, hverdict]

/-- An authorized assessment had no problem, every slot, and a moment inside the policy's window. -/
theorem assessFindings_clear {r : Request py} {evidence : EvidenceBytes} {problems : List String}
    {policy trust identities : Json} {policyDigest : String} {now maxStatusAge : ℤ}
    (h : Findings.Clear
      (assessFindings r evidence problems policy trust identities policyDigest now maxStatusAge)) :
    problems = [] ∧ (∀ slot ∈ slots, ∃ raw, evidence.lookup slot = some raw) ∧
      within policy "valid_from_ms" "valid_until_ms" now = true := by
  have hall := Findings.clear_all.1 h
  refine ⟨(hall ⟨[], problems⟩ (by simp)).2, fun slot hs => ?_, ?_⟩
  · have hslots := Findings.clear_all.1 (hall (Findings.all (slots.map fun slot =>
      unknownOf (verified py slot evidence trust now)))
      (List.mem_cons_of_mem _ (List.mem_cons_of_mem _ List.mem_cons_self)))
    obtain ⟨x, hx⟩ := Findings.clear_unknownOf (hslots _ (List.mem_map_of_mem hs))
    cases hl : evidence.lookup slot with
    | some raw => exact ⟨raw, rfl⟩
    | none =>
      rw [verified, hl] at hx
      cases hx
  · have hpolicy := Findings.clear_all.1 (hall (policyFindings r policy now)
      (List.mem_cons_of_mem _ List.mem_cons_self))
    exact Findings.clear_demand.1 (hpolicy _ (List.mem_append_left _ (List.mem_append_left _ List.mem_cons_self)))

theorem integerOk_int {n : ℤ} : integerOk (.int n) = true ↔ 0 ≤ n ∧ n ≤ maxInteger := by
  simp [integerOk]

/-- A moment inside the window of an accepted policy is an integer the records can carry. -/
theorem integerOk_within {policy : Json} {now : ℤ} (hp : policyOk policy = true)
    (h : within policy "valid_from_ms" "valid_until_ms" now = true) : integerOk (.int now) = true := by
  simp only [policyOk, Bool.and_eq_true] at hp
  obtain ⟨⟨⟨-, hfrom⟩, huntil⟩, -⟩ := hp
  have number {v : Json} (hv : integerOk v = true) : 0 ≤ v.number ∧ v.number ≤ maxInteger := by
    cases v with
    | int n => exact integerOk_int.1 hv
    | _ => cases hv
  simp only [within, Bool.and_eq_true, decide_eq_true_eq] at h
  exact integerOk_int.2 ⟨(number hfrom).1.trans h.1, h.2.le.trans (number huntil).2⟩

/-! ## The record -/

theorem proofRecord_wf (r : Request py) (policyBytes trustBytes identitiesBytes : Bytes) (maxStatusAge : ℤ)
    (evidence : EvidenceBytes) {decision : Json} (h : decision.WF) :
    (proofRecord r policyBytes trustBytes identitiesBytes maxStatusAge evidence decision).WF := by
  refine dict_wf fun p hp => ?_
  simp only [List.mem_cons, List.not_mem_nil, or_false] at hp
  rcases hp with rfl | rfl | rfl | rfl | rfl | rfl | rfl | rfl
  · trivial
  · trivial
  · trivial
  · trivial
  · trivial
  · trivial
  · refine dict_wf fun q hq => ?_
    obtain ⟨e, -, rfl⟩ := List.mem_map.1 hq
    trivial
  · exact h

section Items
variable (r : Request py) (policyBytes trustBytes identitiesBytes : Bytes) (maxStatusAge : ℤ)
  (evidence : EvidenceBytes) (decision : Json)

theorem proofRecord_items :
    let record := proofRecord r policyBytes trustBytes identitiesBytes maxStatusAge evidence decision
    record.item "schema" = .str proofSchema ∧ record.item "request_bytes" = .str (hex r.raw) ∧
      record.item "policy_bytes" = .str (hex policyBytes) ∧
      record.item "trust_manifest_bytes" = .str (hex trustBytes) ∧
      record.item "identity_manifest_bytes" = .str (hex identitiesBytes) ∧
      record.item "max_status_age_ms" = .int maxStatusAge ∧ record.item "evidence" = hexMembers evidence ∧
      record.item "decision" = decision := by
  refine ⟨?_, ?_, ?_, ?_, ?_, ?_, ?_, ?_⟩ <;> exact item_of_get? (by simp [proofRecord, get?_dict, lookup_cons_ite])

theorem hasFields_proofRecord :
    (proofRecord r policyBytes trustBytes identitiesBytes maxStatusAge evidence decision).hasFields
      recordFields = true := by
  rw [proofRecord, hasFields_dict]
  simp [recordFields]

end Items

theorem hasFields_complete (maker checker status : Bytes) :
    (hexMembers (complete maker checker status)).hasFields slots = true := by
  rw [hexMembers, hasFields_dict]
  simp [complete, slots, approvals]

/-- A record of an authorized decision rechecks to that decision. -/
theorem recheckDecision_proofRecord {g : AuthorizedAdapter} {policy trust identities : Json}
    (hg : Configured py g policy trust identities) {r : Request py} {supplied : Supplied} {now : ℤ}
    {decision : Json} {record : Bytes}
    (hd : assess r (freezeEvidence supplied).1 (freezeEvidence supplied).2 policy trust identities now
      g.maxStatusAgeMs = .ok decision)
    (hv : decision.item "verdict" = .str "AUTHORIZED")
    (hr : canonical py (proofRecord r g.policyBytes g.trustBytes g.identitiesBytes g.maxStatusAgeMs
      (freezeEvidence supplied).1 decision) = .ok record) :
    recheckDecision py record = .ok decision := by
  obtain ⟨hwf, hdict, hrequest, hevaluated, hadm⟩ := assess_ok hd
  obtain ⟨hadmitted, policyDigest, hclear⟩ := hadm hv
  obtain ⟨hproblems, hslots, hwithin⟩ := assessFindings_clear hclear
  obtain ⟨maker, checker, status, hev, hm, hc, hs⟩ := freezeEvidence_complete hslots
  rw [hev] at hd hr
  rw [hproblems] at hd
  obtain ⟨⟨_, hpolicy⟩, ⟨_, htrust⟩, ⟨_, hident⟩, hpb, htb, hib, hage⟩ := hg
  obtain ⟨hpl, hpo, hpok⟩ := policyOf_again hpolicy hpb
  obtain ⟨htl, htd, again, htdec, hto⟩ := trustManifest_again htrust htb
  obtain ⟨hil, hio⟩ := identityManifest_again hident hib
  have hload := load_canonical (proofRecord_wf r _ _ _ _ _ hwf) hr
  obtain ⟨h1, h2, h3, h4, h5, h6, h7, h8⟩ := proofRecord_items r g.policyBytes g.trustBytes g.identitiesBytes
    g.maxStatusAgeMs (complete maker checker status) decision
  have hok : recordOk py record (proofRecord r g.policyBytes g.trustBytes g.identitiesBytes g.maxStatusAgeMs
      (complete maker checker status) decision) = true := by
    simp only [Bool.and_eq_true, decide_eq_true_eq] at hage
    simp only [recordOk, hasFields_proofRecord, h1, hr, h6, h7, h8, hasFields_complete, hdict, hage.1,
      Bool.and_eq_true, decide_eq_true_eq, and_true, true_and]
    exact fun h => hage.2 (Json.int.inj h)
  have hnow : integerOk (.int now) = true := integerOk_within hpok hwithin
  have hpy : (Json.int now).pyEq (.int now) = true := pyEq_refl _
  have pos {v : Json} {raw : Bytes} (h : canonical py v = .ok raw) (hl : load py raw = .ok v) :
      decodedHex (.str (hex raw)) = .ok raw :=
    decodedHex_hex (canonicalJson_pos py runtimeBounds (loadJson_wf py _ hl) h)
  simp only [recheckDecision, hload, hok, h2, h3, h4, h5, h6, h7, h8, pos r.canonical_json r.load_raw,
    pos hpb hpl, pos htb htl, pos hib hil, r.readRequest_raw, hpl, hpo, hpb, htl, htd, htdec, hto, htb, hil, hio, hib, hevaluated, hadmitted, hnow, hpy,
    decodeMembers_complete hm hc hs, freezeEvidence_decoded hm hc hs, Json.number, hd, hv, pyEq_refl, require, bind,
    Except.bind, if_true, Bool.and_self, decide_true]
  rfl

end Recheck
end VapEvidence.Authorization
