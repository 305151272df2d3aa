import VapEvidence.AssessorReading
import VapEvidence.EditorReplay

set_option autoImplicit false

/-!
# What a verified session shows

After any calls on an editor, its snapshot verifies, and shows the last text written to each
block, the simulated AI activities that were used, and the blocks that one of them wrote last.
-/
namespace VapEvidence.Publication
open Json Incident Transaction InsertionOrder

/-- One write to a block. -/
structure Write where
  blockId : String
  text : String
  activity : String
  deriving DecidableEq

def Operation.write (o : Operation) : Write := ⟨o.blockId, o.text, o.activity⟩

/-- What the calls that have returned wrote, in their order. -/
def writesOf (done : List (EditorCall × Json)) : List Write :=
  done.filterMap fun d =>
    match d.1 with
    | .setBlock _ blockId content activity => some ⟨textOf blockId, textOf content, textOf activity⟩
    | .snapshot _ => none

/-- The last write to each block, in the order in which the blocks were first written. -/
def lastWrites (writes : List Write) : List Write := finals Write.blockId writes

/-- Readings of a clock that does not move backwards. -/
def Nondecreasing (readings : List Json) : Prop :=
  (∀ r ∈ readings, ∃ t, timestamp r = .ok t) ∧
    readings.Pairwise fun a b => ∀ s t, timestamp a = .ok s → timestamp b = .ok t → s ≤ t

/-- The view of a session is what was written in it. -/
structure Shows (pk : Packages) (view : View) (writes : List Write) : Prop where
  blocks : view.blocks = (lastWrites writes).map fun w => (w.blockId, w.text)
  sorted : view.observedActivities.Pairwise (· < ·)
  observed : ∀ a, a ∈ view.observedActivities ↔ a ∈ aiActivities ∧ ∃ w ∈ writes, w.activity = a
  adopted : (view.adopted.map fun a => (a.blockId, a.activity, a.sha256)) =
    ((lastWrites writes).filter fun w => aiActivities.contains w.activity).map fun w =>
      (w.blockId, w.activity, sha256Hex pk (encodeUtf8 w.text.toList))

section Session
variable {pk : Packages} {c : Collector pk}

theorem textOf_identifier {value : Json} {s : String} (h : identifier value = .ok s) : textOf value = s := by
  unfold identifier at h
  split at h
  · split_ifs at h
    · cases h
      rfl
    · cases h
  · cases h

theorem textOf_blockText {value : Json} {s : String} (h : blockText value = .ok s) : textOf value = s := by
  unfold blockText at h
  split at h
  · obtain ⟨_, -, h⟩ := bind_ok h
    obtain ⟨_, -, h⟩ := bind_ok h
    cases h
    rfl
  · cases h

theorem lastWrites_map (ops : List Operation) :
    lastWrites (ops.map Operation.write) = (finals Operation.blockId ops).map Operation.write :=
  finals_map Operation.write ops

theorem adoptedBlocks_eq {e : Editor} {ops : List Operation} {r : Replay} (h : Replayable c e ops r) :
    ((adoptedBlocks pk r).map fun a => (a.blockId, a.activity, a.sha256)) =
      ((lastWrites (ops.map Operation.write)).filter fun w => aiActivities.contains w.activity).map fun w =>
        (w.blockId, w.activity, sha256Hex pk (encodeUtf8 w.text.toList)) := by
  have hlookup : ∀ o ∈ finals Operation.blockId ops, r.lastWrites.lookup o.blockId = some o := by
    intro o ho
    rw [h.lastWrites]
    refine lookup_of_mem (q := (o.blockId, o)) ?_ (List.mem_map_of_mem ho)
    rw [List.map_map]
    exact @keys_finals _ _ _ Operation.blockId ops ▸ nodup_eraseDups _
  rw [adoptedBlocks, h.blocks, h.texts, lastWrites_map, List.filterMap_map, List.map_filterMap, List.filter_map,
    List.map_map, ← List.filterMap_eq_map, List.filterMap_filter]
  refine List.filterMap_congr fun o ho => ?_
  simp only [Function.comp_apply, hlookup o ho, Operation.write]
  by_cases hai : aiActivities.contains o.activity = true
  · rw [if_pos hai]
    exact (if_pos hai).symm
  · rw [if_neg hai]
    exact (if_neg hai).symm

theorem shows_of_replayable {e : Editor} {ops : List Operation} {r : Replay} (h : Replayable c e ops r)
    {documentId revisionId source lineage : String} {clock : Json} :
    Shows pk ⟨documentId, revisionId, e.blocks, r.observed.mergeSort (· ≤ ·), adoptedBlocks pk r, source, lineage, clock⟩
      (ops.map Operation.write) where
  blocks := by
    rw [h.texts, lastWrites_map, List.map_map]
    rfl
  sorted := by
    have hsorted := @List.pairwise_mergeSort _ (fun a b : String => decide (a ≤ b))
      (fun a b c hab hbc => decide_eq_true ((of_decide_eq_true hab).trans (of_decide_eq_true hbc)))
      (fun a b => by simpa using le_total a b) r.observed
    have hnodup := (List.mergeSort_perm r.observed (· ≤ ·)).nodup_iff.2 h.distinct
    exact (hsorted.and hnodup).imp fun h => lt_of_le_of_ne (of_decide_eq_true h.1) h.2
  observed a := by
    rw [List.mem_mergeSort, h.observed]
    refine and_congr_right fun _ => ⟨?_, ?_⟩
    · rintro ⟨o, ho, rfl⟩
      exact ⟨o.write, List.mem_map_of_mem ho, rfl⟩
    · rintro ⟨w, hw, rfl⟩
      obtain ⟨o, ho, rfl⟩ := List.mem_map.1 hw
      exact ⟨o, ho, rfl⟩
  adopted := adoptedBlocks_eq h

/-- What holds of an editor and of the calls that have returned. -/
def InSession (c : Collector pk) (e : Editor) (done : List (EditorCall × Json)) : Prop :=
  ∃ ops r, Replayable c e ops r ∧ ops.map Operation.write = writesOf done ∧
    ∀ t, e.lastTime = some t → ∃ d ∈ done, timestamp d.1.clock = .ok t

theorem inSession_step (hstd : pk.toPlatform.Standard) (hsig : pk.toPlatform.Signs) (hpk : WritesCompactly pk)
    {e e' : Editor} {done : List (EditorCall × Json)} {call : EditorCall} {result : Json} (h : InSession c e done)
    (hcall : (call.perform c).on e = (.ok result, e')) : InSession c e' (done ++ [(call, result)]) := by
  obtain ⟨ops, r, hreplayable, hwrites, htime⟩ := h
  have hlast : ∃ d ∈ done ++ [(call, result)], d.1 = call := ⟨(call, result), by simp, rfl⟩
  cases call with
  | setBlock clock blockId content activity =>
    obtain ⟨id, block, previous, before, after, at_, hactivity, hw⟩ := setBlock_returned hcall
    obtain ⟨r', hr'⟩ := replayable_setBlock hstd hsig hpk hreplayable hw
    refine ⟨_, r', hr', ?_, fun t ht => ?_⟩
    · rw [List.map_append, hwrites, writesOf, writesOf, List.filterMap_append]
      rw [← textOf_identifier hw.identified, ← textOf_blockText hw.plain]
      rfl
    · obtain ⟨d, hd, hcall⟩ := hlast
      refine ⟨d, hd, ?_⟩
      rw [hw.state] at ht
      rw [hcall, ← Option.some.inj ht]
      exact hw.read
  | snapshot clock =>
    obtain ⟨at_, hclock, hlater, rfl⟩ := snapshot_returned hcall
    refine ⟨ops, r, { hreplayable with time := fun t ht => ?_ }, ?_, fun t ht => ?_⟩
    · obtain ⟨u, hu, htu⟩ := hreplayable.time t ht
      exact ⟨at_, rfl, htu.trans (hlater u hu)⟩
    · rw [hwrites, writesOf, writesOf, List.filterMap_append]
      exact (List.append_nil _).symm
    · obtain ⟨d, hd, hcall⟩ := hlast
      refine ⟨d, hd, ?_⟩
      rw [hcall, ← Option.some.inj ht]
      exact hclock

theorem inSession_run (hstd : pk.toPlatform.Standard) (hsig : pk.toPlatform.Signs) (hpk : WritesCompactly pk)
    (c : Collector pk) (calls : List EditorCall) :
    InSession c (run (EditorCall.perform c) newEditor calls).1 (run (EditorCall.perform c) newEditor calls).2 :=
  run_invariant (atomic_perform c) ⟨[], _, replayable_new c, rfl, fun _ h => nomatch h⟩
    (fun _ _ _ _ _ h hcall => inSession_step hstd hsig hpk h hcall) calls

/-- A call that raises changes nothing, and what a session has written is what its verified snapshot shows. -/
theorem session_round_trip (hstd : pk.toPlatform.Standard) (hsig : pk.toPlatform.Signs) (hpk : WritesCompactly pk)
    (c : Collector pk) (calls : List EditorCall) (clock : Json)
    (hclock : Nondecreasing (calls.map EditorCall.clock ++ [clock])) :
    (∀ (call : EditorCall) (e e' : Editor) (raised : Raised), (call.perform c).on e = (.error raised, e') → e' = e) ∧
      (writesOf (run (EditorCall.perform c) newEditor calls).2 ≠ [] → ∃ result view e',
        (snapshot c clock).on (run (EditorCall.perform c) newEditor calls).1 = (.ok result, e') ∧
          verifySnapshot pk result c.publicKey c.keyId = .ok view ∧
          Shows pk view (writesOf (run (EditorCall.perform c) newEditor calls).2)) := by
  refine ⟨fun call e e' raised h => atomic_perform c call e raised e' h, fun hne => ?_⟩
  obtain ⟨ops, r, hreplayable, hwrites, htime⟩ := inSession_run hstd hsig hpk c calls
  rw [← hwrites] at hne ⊢
  have hops : ops ≠ [] := fun h => hne (h ▸ rfl)
  obtain ⟨at_, hat⟩ := hclock.1 clock (by simp)
  have hlater : ∀ last, (run (EditorCall.perform c) newEditor calls).1.lastTime = some last → last ≤ at_ := by
    intro last hlast
    obtain ⟨d, hd, hread⟩ := htime last hlast
    have hmem : d.1 ∈ calls := (run_sublist (EditorCall.perform c) newEditor calls).subset (List.mem_map_of_mem hd)
    exact (List.pairwise_append.1 hclock.2).2.2 _ (List.mem_map_of_mem hmem) clock (List.mem_singleton_self clock)
      last at_ hread hat
  obtain ⟨signature, hsnapshot⟩ := snapshot_returns hstd hsig hpk hreplayable hops hat hlater
  obtain ⟨source, lineage, -, -, hview⟩ := verifySnapshot_ok hstd hpk hreplayable hops hat hlater hsnapshot
  exact ⟨_, _, _, hsnapshot.returns, hview, shows_of_replayable hreplayable⟩

end Session
/-! ## A small instance -/

open Assessor (sampleWriter zeros sampleTime)

theorem sampleWriter_standard : sampleWriter.toPlatform.Standard where
  ascii _ _ := rfl
  digest _ := rfl
  signature _ _ := rfl

theorem sampleWriter_signs : sampleWriter.toPlatform.Signs where
  length _ h := h
  loads _ _ := rfl
  verifies _ _ _ := rfl

theorem sampleWriter_compact : WritesCompactly sampleWriter := fun _ _ _ => rfl

def sampleEditor : Collector sampleWriter :=
  ⟨"d", zeros 64, zeros 64, "k", by decide +kernel, by decide +kernel, by decide +kernel⟩

def sampleCalls : List EditorCall := [.setBlock sampleTime (.str "b") (.str "x") (.str "generation")]

theorem sample_session_round_trip : ∃ result view e',
    (snapshot sampleEditor sampleTime).on (run (EditorCall.perform sampleEditor) newEditor sampleCalls).1 = (.ok result, e') ∧
      verifySnapshot sampleWriter result (zeros 64) "k" = .ok view ∧
      Shows sampleWriter view (writesOf (run (EditorCall.perform sampleEditor) newEditor sampleCalls).2) := by
  have htime : timestamp sampleTime = .ok 63902908800000000 := by decide +kernel
  have hclock : Nondecreasing (sampleCalls.map EditorCall.clock ++ [sampleTime]) := by
    have heq : sampleCalls.map EditorCall.clock ++ [sampleTime] = [sampleTime, sampleTime] := rfl
    rw [heq]
    refine ⟨fun r hr => ?_, ?_⟩
    · simp only [List.mem_cons, List.not_mem_nil, or_false, or_self] at hr
      exact ⟨_, hr ▸ htime⟩
    · refine List.pairwise_pair.2 fun s t hs ht => ?_
      rw [hs] at ht
      exact (Except.ok.inj ht).le
  have hwrites : writesOf (run (EditorCall.perform sampleEditor) newEditor sampleCalls).2 =
      [⟨"b", "x", "generation"⟩] := by decide +kernel
  refine (session_round_trip sampleWriter_standard sampleWriter_signs sampleWriter_compact sampleEditor sampleCalls sampleTime
    hclock).2 ?_
  rw [hwrites]
  exact List.cons_ne_nil _ _

end VapEvidence.Publication
