import VapEvidence.PublicationGate

set_option autoImplicit false

/-!
# One release

What a call of `release` holds of its private stage, and what it has decided before it
links the stage to a visible name.
-/
namespace VapEvidence.Publication
open Json Incident Interleaving

/-! ## The stage of a call -/

/-- A stage that a call created and has not removed; what it has written, where that is known. -/
structure Holding where
  name : String
  file : ℕ
  written : Option Bytes

def hold (held : Option Holding) : (e : Effect) × Answer e → Option Holding
  | ⟨.createStage name, some file⟩ => some ⟨name, file, some []⟩
  | ⟨.write _ bytes, some n⟩ => held.map fun g => { g with written := g.written.map (· ++ bytes.take n) }
  | ⟨.write _ _, none⟩ => held.map fun g => { g with written := none }
  | ⟨.unlinkStage _, _⟩ => none
  | _ => held

/-- What a call holds after its effects. -/
def holding (h : History Effect Answer) : Option Holding := h.foldl hold none

theorem holding_snoc (h : History Effect Answer) (o : (e : Effect) × Answer e) :
    holding (h ++ [o]) = hold (holding h) o := by rw [holding, List.foldl_append]; rfl

/-- The effects on stages and visible names. -/
def isStaging : Effect → Prop
  | .createStage _ | .write .. | .unlinkStage _ | .link .. => True
  | _ => False

def isLink : Effect → Prop
  | .link .. => True
  | _ => False

/-- No effect on a stage or a visible name. -/
def Calm (h : History Effect Answer) : Prop := ∀ o ∈ h, ¬ isStaging o.1

/-- No call of `os.link`. -/
def Unlinked (h : History Effect Answer) : Prop := ∀ o ∈ h, ¬ isLink o.1

theorem hold_calm {held : Option Holding} {o : (e : Effect) × Answer e} (ho : ¬ isStaging o.1) : hold held o = held := by
  obtain ⟨e, r⟩ := o
  cases e <;> first | rfl | exact absurd trivial ho

theorem holding_calm {h d : History Effect Answer} (hd : Calm d) : holding (h ++ d) = holding h := by
  rw [holding, List.foldl_append]
  change d.foldl hold (holding h) = holding h
  induction d with
  | nil => rfl
  | cons o d ih =>
    rw [List.foldl_cons, hold_calm (hd o List.mem_cons_self)]
    exact ih fun o ho => hd o (List.mem_cons_of_mem _ ho)

theorem Calm.unlinked {h : History Effect Answer} (hh : Calm h) : Unlinked h := by
  rintro ⟨e, r⟩ ho hl
  refine hh _ ho ?_
  cases e <;> trivial

theorem Unlinked.append {h d : History Effect Answer} (hh : Unlinked h) (hd : Unlinked d) : Unlinked (h ++ d) :=
  fun o ho => (List.mem_append.1 ho).elim (hh o) (hd o)

theorem Calm.append {h d : History Effect Answer} (hh : Calm h) (hd : Calm d) : Calm (h ++ d) :=
  fun o ho => (List.mem_append.1 ho).elim (hh o) (hd o)

/-! ## What stands before an effect -/

section Stages
variable (pk : Packages) (assess : Json → Json → Run Json) (c : Call)

/-- The call has captured its inputs, was admitted and then decided again at a later time. -/
structure Decision (h : History Effect Answer) where
  candidate : Json
  trust : Json
  approval : Json
  at_ : Json
  finalAt : Json
  preflight : Check
  final : Check
  inputs : ownInputs pk c.candidate c.trust c.approval = .ok (candidate, trust, approval)
  admitted : check pk assess c.config candidate trust approval at_ = .ok preflight
  decided : check pk assess c.config candidate trust approval finalAt = .ok final
  authorized : preflight.authorized = true
  confirmed : final.authorized = true
  onward : ∃ start now, timestamp at_ = .ok start ∧ timestamp finalAt = .ok now ∧ start ≤ now
  read : ⟨.clock, .ok finalAt⟩ ∈ h

/-- The request that a decision hands to the publisher. -/
def requestOf (candidate : Json) (preflight : Check) (requestId : String) : Request :=
  ⟨requestId, textOf (preflight.measurements.item "fingerprint"), encodeUtf8 (textOf (candidate.item "html")).toList,
    textOf (preflight.measurements.item "disclosure_sha256")⟩

/-- What stands behind a link of a stage to a visible name after the effects of `h`. -/
structure Creation (stage name : String) (h : History Effect Answer) extends Decision pk assess c h where
  requestId : String
  file : ℕ
  requested : identifier (preflight.measurements.item "request_id") = .ok requestId
  named : name = safeName pk requestId
  holds : holding h = some ⟨stage, file, some (requestOf candidate preflight requestId).html⟩
  first : Unlinked h

/-- What stands before an effect of a call. -/
def Allowed (h : History Effect Answer) : Effect → Prop
  | .write file _ => (∃ name written, holding h = some ⟨name, file, written⟩) ∧ Unlinked h
  | .unlinkStage name => ∃ file written, holding h = some ⟨name, file, written⟩
  | .link stage name => Nonempty (Creation pk assess c stage name h)
  | _ => True

theorem allowed_calm (e : Effect) (he : ¬ isStaging e) (h : History Effect Answer) : Allowed pk assess c h e := by
  cases e <;> first | trivial | exact absurd trivial he

end Stages

/-! ## Pieces that leave the stage alone -/

section Pieces
variable (pk : Packages) (p : LocalPublisher)

/-- The effects on the journal. -/
def isJournal : Effect → Prop
  | .lookup _ | .claim .. | .finish .. => True
  | _ => False

theorem isJournal.calm {e : Effect} (h : isJournal e) : ¬ isStaging e := by
  cases e <;> simp_all [isJournal, isStaging]

theorem perform_uses {α : Type} {A : Effect → Prop} {e : Effect} (he : A e) (read : Answer e → Option α) :
    (perform e read).Uses A := ⟨he, fun _ => trivial⟩

theorem pass_uses {A : Effect → Prop} {e : Effect} (he : A e) (passed : Answer e → Bool) : (pass e passed).Uses A :=
  ⟨he, fun _ => trivial⟩

theorem selectRow_journal (requestId : String) : (selectRow pk requestId).Uses isJournal := by
  refine (perform_uses trivial _).andThen fun found => ?_
  cases found <;> trivial

theorem currentState_journal (requestId : String) : (currentState pk requestId).Uses isJournal := by
  refine (selectRow_journal pk requestId).bind fun found => ?_
  rcases found with _ | _ | _ <;> trivial

theorem claimRow_journal (requestId fingerprint : String) (snapshot : Json) :
    (claimRow pk requestId fingerprint snapshot).Uses isJournal := by
  unfold claimRow
  refine Prog.Uses.andThen (p := .ret _) trivial fun _ => ?_
  refine Prog.Uses.andThen (p := .ret _) trivial fun serialized => ?_
  refine Prog.Uses.andThen (p := .eff _ _) ⟨trivial, fun _ => trivial⟩ fun found => ?_
  cases found with
  | some row => trivial
  | none =>
    refine (selectRow_journal pk requestId).andThen fun found => ?_
    cases found <;> trivial

theorem finishRow_journal (requestId state : String) (result : Json) :
    (finishRow pk requestId state result).Uses isJournal := by
  refine Prog.Uses.andThen (p := .ret _) trivial fun serialized => ?_
  exact Prog.Uses.andThen (p := .eff _ _) ⟨trivial, fun _ => trivial⟩ fun _ => selectRow_journal pk requestId

theorem saved_journal (result : Published) (q : Request) (state : String) :
    ((finishRow pk q.requestId state result.toJson).andThen fun row =>
      .ret (persisted pk p result q state row)).Uses isJournal :=
  (finishRow_journal pk _ _ _).andThen fun _ => trivial

theorem persist_journal (result : Published) (q : Request) (state : String) :
    (persist pk p result q state).Uses isJournal := by
  refine (saved_journal pk p _ q state).bind fun saved => ?_
  cases saved with
  | ok _ => trivial
  | error _ => exact (currentState_journal pk q.requestId).bind fun _ => trivial

theorem claimed_journal (q : Request) (result : Published) : (claimed pk p q result).Uses isJournal := by
  unfold claimed
  exact (claimRow_journal pk _ _ _).andThen fun _ => trivial

theorem existing_journal (q : Request) (result : Published) : (existing pk p q result).Uses isJournal := by
  refine (selectRow_journal pk q.requestId).andThen fun found => ?_
  cases found <;> trivial

theorem unavailable_journal (q : Request) (result : Published) : (unavailable pk q result).Uses isJournal :=
  (currentState_journal pk q.requestId).bind fun _ => trivial

theorem readback_calm (q : Request) (file : ℕ) (afterLink : Bool) :
    (readback pk p q file afterLink).Uses fun e => ¬ isStaging e := by
  refine Prog.Uses.andThen ?_ fun _ => ?_
  · cases afterLink with
    | true => exact pass_uses (fun h => h) _
    | false => trivial
  refine (pass_uses (fun h => h) _).andThen fun _ => ?_
  refine Prog.Uses.andThen ?_ fun actual => ?_
  · refine Prog.Uses.andThen (p := .ret _) trivial fun _ => ?_
    exact (perform_uses (fun h => h) _).andThen fun _ => trivial
  refine Prog.Uses.andThen (p := .ret _) trivial fun _ => ?_
  exact (perform_uses (fun h => h) _).andThen fun _ => trivial

theorem clock_calm : clock.Uses fun e => ¬ isStaging e :=
  ⟨fun h => h, fun r => by cases r <;> trivial⟩

variable (assess : Json → Json → Run Json) (c : Call)

theorem finalGate_calm (candidate trust approval at_ : Json) :
    (finalGate pk assess c candidate trust approval at_).Uses fun e => ¬ isStaging e := by
  refine Prog.Uses.andThen ?_ fun _ => clock_calm.andThen fun _ => trivial
  split_ifs
  · exact pass_uses (fun h => h) _
  · trivial

end Pieces

/-! ## What the pieces establish -/

section Facts
variable {pk : Packages} {p : LocalPublisher}

/-- A confirmed publication: the link, the readback and the row that were seen. -/
structure Confirmed (pk : Packages) (requestId : String) (h : History Effect Answer) : Prop where
  linked : ∃ stage, ⟨.link stage (safeName pk requestId), .linked⟩ ∈ h
  read : ∃ file bytes, ⟨.readArtifact (safeName pk requestId), some (file, bytes)⟩ ∈ h
  saved : ∃ stored, ⟨.lookup requestId, some (some stored)⟩ ∈ h ∧ stored.state = "local_output_confirmed"

theorem Confirmed.append {requestId : String} {h : History Effect Answer} (hc : Confirmed pk requestId h)
    (d : History Effect Answer) : Confirmed pk requestId (h ++ d) := by
  obtain ⟨⟨stage, hl⟩, ⟨file, bytes, hr⟩, stored, hs, hstate⟩ := hc
  exact ⟨⟨stage, List.mem_append_left d hl⟩, ⟨file, bytes, List.mem_append_left d hr⟩, stored,
    List.mem_append_left d hs, hstate⟩

theorem decodeRow_row {requestId : String} {stored : StoredRow} {row : Row} (h : decodeRow pk requestId stored = .ok row) :
    row.requestId = requestId ∧ row.state = stored.state := by
  unfold decodeRow at h
  obtain ⟨_, -, h⟩ := bind_ok h
  obtain ⟨_, -, h⟩ := bind_ok h
  obtain ⟨_, -, h⟩ := bind_ok h
  cases h
  exact ⟨rfl, rfl⟩

/-- A row that is returned was read. -/
theorem selectRow_reads (requestId : String) :
    Prog.Along (fun _ _ => True) (fun h r => ∀ row, r = .ok (some row) →
      ∃ stored, ⟨.lookup requestId, some (some stored)⟩ ∈ h ∧ row.state = stored.state)
      (selectRow pk requestId) [] := by
  refine Prog.Along.andThen ⟨trivial, fun found => ?_⟩
  rcases found with _ | _ | stored
  · exact fun _ h => nomatch h
  · exact fun _ h => nomatch h
  · intro row hrow
    obtain ⟨row', hdecoded, hrow⟩ := map_ok hrow
    cases hrow
    exact ⟨stored, by simp, (decodeRow_row hdecoded).2⟩

theorem ensure_ok {b : Bool} {u : Unit} (h : ensure b = .ok u) : b = true := by
  unfold ensure at h
  split_ifs at h with hb
  exact hb

theorem persisted_state {result : Published} {q : Request} {state : String} {row : Option Row} {u : Unit}
    (h : persisted pk p result q state row = .ok u) : ∃ r, row = some r ∧ r.state = state := by
  unfold persisted at h
  cases row with
  | none => cases h
  | some row =>
    obtain ⟨_, -, h⟩ := bind_ok h
    obtain ⟨_, hrow, h⟩ := bind_ok h
    have hr := ensure_ok hrow
    rw [Bool.and_eq_true, decide_eq_true_eq, decide_eq_true_eq] at hr
    exact ⟨row, rfl, hr.2⟩

/-- A result that was saved is read back in its state. -/
theorem saved_reads (result : Published) (q : Request) (state : String) :
    Prog.Along (fun _ _ => True) (fun h r => ∀ u, r = .ok u →
      ∃ stored, ⟨.lookup q.requestId, some (some stored)⟩ ∈ h ∧ stored.state = state)
      ((finishRow pk q.requestId state result.toJson).andThen fun row => .ret (persisted pk p result q state row)) [] := by
  have hread : Prog.Along (fun _ _ => True) (fun h r => ∀ row, r = .ok (some row) →
      ∃ stored, ⟨.lookup q.requestId, some (some stored)⟩ ∈ h ∧ row.state = stored.state)
      (finishRow pk q.requestId state result.toJson) [] := by
    refine Prog.Along.andThen ?_
    cases encoded pk result.toJson with
    | error e => exact fun _ h => nomatch h
    | ok serialized =>
      refine Prog.Along.andThen ⟨trivial, fun committed => ?_⟩
      cases committed with
      | error e => exact fun _ h => nomatch h
      | ok _ =>
        refine (Prog.Along.piece (fun _ _ _ => trivial) (selectRow_journal pk q.requestId) _).mono ?_
        rintro h r ⟨d, rfl, hd, -⟩ row rfl
        obtain ⟨stored, hs, hstate⟩ := (selectRow_reads q.requestId).path hd row rfl
        exact ⟨stored, List.mem_append_right _ hs, hstate⟩
  refine Prog.Along.andThen (hread.mono fun h x hx => ?_)
  cases x with
  | error e => exact fun _ h => nomatch h
  | ok row =>
    intro u hu
    obtain ⟨row, rfl, hstate⟩ := persisted_state hu
    obtain ⟨stored, hs, hsame⟩ := hx row rfl
    exact ⟨stored, hs, hsame.symm.trans hstate⟩

/-- A result keeps its state only where it was saved. -/
theorem persist_reads (result : Published) (q : Request) (state : String) :
    Prog.Along (fun _ _ => True) (fun h r => r.state ≠ "OUTCOME_UNKNOWN" → r.state = result.state ∧
      ∃ stored, ⟨.lookup q.requestId, some (some stored)⟩ ∈ h ∧ stored.state = state)
      (persist pk p result q state) [] := by
  refine Prog.Along.after (fun _ _ _ => trivial) (saved_journal pk p { result with journalState := state } q state) ?_
  intro saved d hd _
  cases saved with
  | ok u =>
    obtain ⟨stored, hs, hstate⟩ := (saved_reads _ q state).path hd u rfl
    exact fun _ => ⟨rfl, stored, hs, hstate⟩
  | error e =>
    refine Prog.Along.after (fun _ _ _ => trivial) (currentState_journal pk q.requestId) fun found d' _ _ => ?_
    exact fun h => absurd rfl h

/-- A receipt is issued only after the visible file was read. -/
theorem readback_reads (q : Request) (file : ℕ) (afterLink : Bool) :
    Prog.Along (fun _ _ => True) (fun h r => ∀ receipt, r = .ok receipt →
      ∃ found bytes, ⟨.readArtifact (safeName pk q.requestId), some (found, bytes)⟩ ∈ h)
      (readback pk p q file afterLink) [] := by
  have hread : ∀ h, Prog.Along (fun _ _ => True) (fun h' r => ∀ actual, r = .ok actual →
      ∃ found bytes, ⟨.readArtifact (safeName pk q.requestId), some (found, bytes)⟩ ∈ h')
      (readArtifact pk (safeName pk q.requestId) file) h := by
    intro h
    refine Prog.Along.andThen ?_
    cases ensure (isSafeName (safeName pk q.requestId)) with
    | error e => exact fun _ h => nomatch h
    | ok _ =>
      refine Prog.Along.andThen ⟨trivial, fun found => ?_⟩
      rcases found with _ | ⟨found, bytes⟩
      · exact fun _ h => nomatch h
      · exact fun _ _ => ⟨found, bytes, by simp⟩
  refine Prog.Along.after_andThen (A := fun _ => True) (fun _ _ _ => trivial) ?_ ?_ (fun _ _ _ _ h => nomatch h)
  · cases afterLink with
    | true => exact pass_uses trivial _
    | false => trivial
  intro _ d _ _
  refine Prog.Along.after_andThen (A := fun _ => True) (fun _ _ _ => trivial) (pass_uses trivial _) ?_
    (fun _ _ _ _ h => nomatch h)
  intro _ d' _ _
  refine Prog.Along.andThen ((hread _).mono fun h actual hactual => ?_)
  cases actual with
  | error e => exact fun _ h => nomatch h
  | ok actual =>
    obtain ⟨found, bytes, hm⟩ := hactual actual rfl
    refine Prog.Along.andThen ?_
    cases ensure (actual = (sha256Hex pk q.html, q.html.length)) with
    | error e => exact fun _ h => nomatch h
    | ok _ =>
      refine Prog.Along.after_andThen (A := fun _ => True) (fun _ _ _ => trivial) (perform_uses trivial _) ?_
        (fun _ _ _ _ h => nomatch h)
      exact fun observedAt d'' _ _ _ _ => ⟨found, bytes, List.mem_append_left _ hm⟩

end Facts

/-! ## The call -/

section Calls
variable {pk : Packages} {assess : Json → Json → Run Json} {c : Call}

variable (pk assess c) in
/-- Every effect of the rest of the call is allowed, and at a return `Q` holds. -/
abbrev Guarded {α : Type} (Q : History Effect Answer → α → Prop) (q : Program α) (h : History Effect Answer) : Prop :=
  Prog.Along (Allowed pk assess c) Q q h

/-- A piece that leaves the stage alone, with what follows it. -/
theorem Guarded.after {α β : Type} {Q : History Effect Answer → β → Prop} {q : Program α}
    (hq : q.Uses fun e => ¬ isStaging e) {f : α → Program β} {h : History Effect Answer}
    (hf : ∀ a d, Prog.Path q d (.ret a) → Calm d → Guarded pk assess c Q (f a) (h ++ d)) :
    Guarded pk assess c Q (q >>= f) h :=
  Prog.Along.after (allowed_calm pk assess c) hq hf

theorem Guarded.after_andThen {α β : Type} {Q : History Effect Answer → Run β → Prop} {q : Program (Run α)}
    (hq : q.Uses fun e => ¬ isStaging e) {f : α → Program (Run β)} {h : History Effect Answer}
    (hok : ∀ a d, Prog.Path q d (.ret (.ok a)) → Calm d → Guarded pk assess c Q (f a) (h ++ d))
    (herr : ∀ e d, Calm d → Q (h ++ d) (.error e)) : Guarded pk assess c Q (q.andThen f) h :=
  Prog.Along.after_andThen (allowed_calm pk assess c) hq hok herr

theorem isJournal_calm {α : Type} {q : Program α} (hq : q.Uses isJournal) : q.Uses fun e => ¬ isStaging e :=
  hq.mono fun _ he => he.calm

/-- A piece on the journal alone, with what it establishes. -/
theorem journal_guarded {α : Type} {Q : History Effect Answer → α → Prop} {q : Program α} (hq : q.Uses isJournal)
    {h : History Effect Answer} (hQ : ∀ a d, Prog.Path q d (.ret a) → Calm d → Q (h ++ d) a) : Guarded pk assess c Q q h := by
  refine (Prog.Along.piece (allowed_calm pk assess c) (isJournal_calm hq) h).mono ?_
  rintro h' a ⟨d, rfl, hd, hall⟩
  exact hQ a d hd hall

/-- The call still holds a stage, and has linked nothing. -/
def Holds (stage : String) (file : ℕ) (h : History Effect Answer) : Prop :=
  (∃ written, holding h = some ⟨stage, file, written⟩) ∧ Unlinked h

/-- The call holds a stage with known bytes, and has linked nothing. -/
def HoldsBytes (stage : String) (file : ℕ) (bytes : Bytes) (h : History Effect Answer) : Prop :=
  holding h = some ⟨stage, file, some bytes⟩ ∧ Unlinked h

theorem HoldsBytes.holds {stage : String} {file : ℕ} {bytes : Bytes} {h : History Effect Answer}
    (hh : HoldsBytes stage file bytes h) : Holds stage file h := ⟨⟨_, hh.1⟩, hh.2⟩

theorem HoldsBytes.calm {stage : String} {file : ℕ} {bytes : Bytes} {h d : History Effect Answer}
    (hh : HoldsBytes stage file bytes h) (hd : Calm d) : HoldsBytes stage file bytes (h ++ d) :=
  ⟨(holding_calm hd).trans hh.1, hh.2.append hd.unlinked⟩

theorem Holds.calm {stage : String} {file : ℕ} {h d : History Effect Answer} (hh : Holds stage file h) (hd : Calm d) :
    Holds stage file (h ++ d) :=
  ⟨hh.1.imp fun _ hw => (holding_calm hd).trans hw, hh.2.append hd.unlinked⟩

/-- Writing a stage ends with all its bytes written, or raises. -/
theorem writeStage_guarded {stage : String} {file : ℕ} (bytes : Bytes) :
    ∀ {done : Bytes} {h : History Effect Answer}, HoldsBytes stage file done h →
      Guarded pk assess c (fun h r => Holds stage file h ∧ (∀ u, r = .ok u → HoldsBytes stage file (done ++ bytes) h))
        (writeStage file bytes) h := by
  induction hn : bytes.length using Nat.strong_induction_on generalizing bytes with
  | _ n ih =>
    intro done h hh
    subst hn
    cases bytes with
    | nil =>
      rw [writeStage]
      exact ⟨hh.holds, fun _ _ => by rwa [List.append_nil]⟩
    | cons b bs =>
      rw [writeStage]
      refine ⟨⟨⟨stage, some done, hh.1⟩, hh.2⟩, fun r => ?_⟩
      have hun : Unlinked (h ++ [⟨.write file (b :: bs), r⟩]) := hh.2.append (by simp [Unlinked, isLink])
      rcases r with _ | _ | n
      · refine ⟨⟨⟨none, ?_⟩, hun⟩, fun _ h => (by cases h)⟩
        rw [holding_snoc, hh.1]
        rfl
      · refine ⟨⟨⟨some (done ++ []), ?_⟩, hun⟩, fun _ h => (by cases h)⟩
        rw [holding_snoc, hh.1]
        rfl
      · have hnext : HoldsBytes stage file (done ++ b :: bs.take n) (h ++ [⟨.write file (b :: bs), some (n + 1)⟩]) := by
          refine ⟨?_, hun⟩
          rw [holding_snoc, hh.1]
          rfl
        refine (ih (bs.drop n).length ?_ (bs.drop n) rfl hnext).mono fun h' r hr => ⟨hr.1, fun u hu => ?_⟩
        · simp only [List.length_drop, List.length_cons]
          omega
        · have := hr.2 u hu
          rwa [List.append_assoc, List.cons_append, List.take_append_drop] at this

/-- A stage that is established holds the bytes. -/
theorem fillStage_guarded {stage : String} {file : ℕ} {html : Bytes} {h : History Effect Answer}
    (hh : HoldsBytes stage file [] h) :
    Guarded pk assess c (fun h r => Holds stage file h ∧ (∀ u, r = .ok u → HoldsBytes stage file html h))
      (fillStage file html) h := by
  refine Prog.Along.bind (Prog.Along.andThen ((writeStage_guarded html hh).mono fun h' written hw => ?_))
  rw [List.nil_append] at hw
  have hclose : ∀ {d : History Effect Answer} {before : Run Unit}, Holds stage file d →
      (∀ u, before = .ok u → HoldsBytes stage file html d) →
      Guarded pk assess c (fun h r => Holds stage file h ∧ (∀ u, r = .ok u → HoldsBytes stage file html h))
        (closeStage file before) d := by
    intro d before hd hbefore
    refine Guarded.after (pass_uses (fun h => h) _) fun closed d' _ hc => ?_
    cases before with
    | error e => exact ⟨hd.calm hc, fun _ h => nomatch h⟩
    | ok u => exact ⟨hd.calm hc, fun _ _ => (hbefore u rfl).calm hc⟩
  cases written with
  | error e => exact hclose hw.1 fun _ h => nomatch h
  | ok u =>
    refine ⟨trivial, fun sealed => ?_⟩
    have hcalm : Calm [(⟨.sealStage file, sealed⟩ : (e : Effect) × Answer e)] := by simp [Calm, isStaging]
    cases sealed with
    | false => exact hclose (hw.1.calm hcalm) fun _ h => nomatch h
    | true => exact hclose (hw.1.calm hcalm) fun _ _ => (hw.2 u rfl).calm hcalm

/-- A stage that was created is held, and holds the bytes when it is established. -/
theorem establishStage_guarded (stage : String) {html : Bytes} {h : History Effect Answer} (hh : Unlinked h) :
    Guarded pk assess c (fun h r => (r.1 = true → ∃ file, Holds stage file h) ∧
        ∀ file, r.2 = some file → r.1 = true ∧ HoldsBytes stage file html h)
      (establishStage stage html) h := by
  refine ⟨trivial, fun r => ?_⟩
  cases r with
  | none => exact ⟨fun h => (nomatch h), fun _ h => nomatch h⟩
  | some file =>
    have hstart : HoldsBytes stage file [] (h ++ [⟨.createStage stage, some file⟩]) :=
      ⟨by rw [holding_snoc]; rfl, hh.append (by simp [Unlinked, isLink])⟩
    refine Prog.Along.bind (Prog.Along.andThen ((fillStage_guarded hstart).mono fun h' filled hf => ?_))
    cases filled with
    | error e => exact ⟨fun _ => ⟨file, hf.1⟩, fun _ h => nomatch h⟩
    | ok u =>
      refine ⟨trivial, fun synced => ?_⟩
      have hcalm : Calm [(⟨.syncDirectory .staging, synced⟩ : (e : Effect) × Answer e)] := by simp [Calm, isStaging]
      cases synced with
      | false => exact ⟨fun _ => ⟨file, hf.1.calm hcalm⟩, fun _ h => nomatch h⟩
      | true =>
        refine ⟨fun _ => ⟨file, hf.1.calm hcalm⟩, ?_⟩
        rintro _ ⟨⟩
        exact ⟨rfl, (hf.2 u rfl).calm hcalm⟩

/-- The call still holds its stage. -/
def Keeps (stage : String) (h : History Effect Answer) : Prop :=
  ∃ file written, holding h = some ⟨stage, file, written⟩

theorem Keeps.calm {stage : String} {h d : History Effect Answer} (hh : Keeps stage h) (hd : Calm d) :
    Keeps stage (h ++ d) := by
  obtain ⟨file, written, hw⟩ := hh
  exact ⟨file, written, (holding_calm hd).trans hw⟩

theorem Holds.keeps {stage : String} {file : ℕ} {h : History Effect Answer} (hh : Holds stage file h) : Keeps stage h :=
  ⟨file, hh.1⟩

variable {p : LocalPublisher} {q : Request} {stage : String} {h : History Effect Answer}

variable (pk) in
/-- A result that claims a confirmed output has one behind it. -/
def Honest (requestId : String) (h : History Effect Answer) (result : Published) : Prop :=
  result.state = "LOCAL_OUTPUT_CONFIRMED" → Confirmed pk requestId h

theorem Honest.of_ne {requestId : String} {result : Published} (hs : result.state ≠ "LOCAL_OUTPUT_CONFIRMED") :
    Honest pk requestId h result := fun hc => absurd hc hs

theorem Honest.append {requestId : String} {result : Published} (hr : Honest pk requestId h result)
    (d : History Effect Answer) : Honest pk requestId (h ++ d) result := fun hc => (hr hc).append d

theorem unknown_unconfirmed : "OUTCOME_UNKNOWN" ≠ "LOCAL_OUTPUT_CONFIRMED" := by decide

theorem blocked_unconfirmed {state : String} (h : state = "BLOCKED_WITHOUT_PUBLICATION") :
    state ≠ "LOCAL_OUTPUT_CONFIRMED" := by
  rw [h]
  decide

/-- Persisting a result that is not a confirmation. -/
theorem persist_guarded {result : Published} {state : String} (hstate : result.state ≠ "LOCAL_OUTPUT_CONFIRMED")
    (hkeeps : Keeps stage h) :
    Guarded pk assess c (fun h r => Keeps stage h ∧ Honest pk q.requestId h r) (persist pk p result q state) h := by
  refine journal_guarded (persist_journal pk p result q state) fun r d hd hcalm => ⟨hkeeps.calm hcalm, ?_⟩
  refine Honest.of_ne fun hc => hstate ?_
  rw [← ((persist_reads result q state).path hd (by rw [hc]; decide)).1, hc]

theorem publishLinked_guarded {result : Published} {file : ℕ} {afterLink : Bool}
    (hstate : result.state = "BLOCKED_WITHOUT_PUBLICATION") (hkeeps : Keeps stage h)
    (hcreation : Nonempty (Creation pk assess c stage (safeName pk q.requestId) h)) :
    Guarded pk assess c (fun h r => Keeps stage h ∧ Honest pk q.requestId h r)
      (publishLinked pk p q result stage file afterLink) h := by
  refine ⟨hcreation, fun r => ?_⟩
  have hlinked : Keeps stage (h ++ [⟨.link stage (safeName pk q.requestId), r⟩]) := by
    obtain ⟨file, written, hw⟩ := hkeeps
    exact ⟨file, written, by rw [holding_snoc, hw]; rfl⟩
  cases r with
  | «exists» => exact persist_guarded (blocked_unconfirmed hstate) hlinked
  | failed => exact persist_guarded unknown_unconfirmed hlinked
  | linked =>
    refine Guarded.after (readback_calm pk p q file afterLink) fun read d hread hd => ?_
    cases read with
    | error e => exact persist_guarded unknown_unconfirmed (hlinked.calm hd)
    | ok receipt =>
      obtain ⟨found, bytes, hfound⟩ := (readback_reads q file afterLink).path hread receipt rfl
      refine journal_guarded (persist_journal pk p _ q _) fun r d' hd' hcalm => ⟨(hlinked.calm hd).calm hcalm, fun hc => ?_⟩
      obtain ⟨-, stored, hs, hsaved⟩ := (persist_reads _ q _).path hd' (by rw [hc]; decide)
      exact ⟨⟨stage, by simp⟩, ⟨found, bytes, List.mem_append_left d' (List.mem_append_right _ hfound)⟩, stored,
        List.mem_append_right _ hs, hsaved⟩

theorem replay_state {result replayed : Published} {row : Row} {fingerprint : String} {snapshot : Json}
    (h : replay pk result row fingerprint snapshot = .ok replayed) : replayed.state ≠ "LOCAL_OUTPUT_CONFIRMED" := by
  unfold replay at h
  obtain ⟨matches_, -, h⟩ := bind_ok h
  split_ifs at h
  · cases h
    exact show "REPLAY_NO_PUBLICATION" ≠ _ by decide
  · cases h
    exact show "REQUEST_ID_CONFLICT" ≠ _ by decide

theorem claimed_unconfirmed {result : Published} {d : History Effect Answer} {replayed : Published}
    (h : Prog.Path (claimed pk p q result) d (.ret (.ok (some replayed)))) :
    replayed.state ≠ "LOCAL_OUTPUT_CONFIRMED" := by
  have hall : Prog.Along (fun _ _ => True) (fun _ r => ∀ replayed, r = .ok (some replayed) →
      replayed.state ≠ "LOCAL_OUTPUT_CONFIRMED") (claimed pk p q result) [] := by
    unfold claimed
    refine Prog.Along.after_andThen (A := isJournal) (fun _ _ _ => trivial) (claimRow_journal pk _ _ _) ?_
      (fun _ _ _ _ h => nomatch h)
    rintro ⟨status, row⟩ d - - replayed hr
    obtain ⟨found, -, hr⟩ := bind_ok hr
    cases found with
    | none => cases hr
    | some row =>
      obtain ⟨r, hreplay, hr⟩ := bind_ok hr
      cases hr
      exact replay_state hreplay
  exact hall.path h replayed rfl

theorem existing_unconfirmed {result : Published} {d : History Effect Answer} {replayed : Published}
    (h : Prog.Path (existing pk p q result) d (.ret (.ok (some replayed)))) :
    replayed.state ≠ "LOCAL_OUTPUT_CONFIRMED" := by
  have hall : Prog.Along (fun _ _ => True) (fun _ r => ∀ replayed, r = .ok (some replayed) →
      replayed.state ≠ "LOCAL_OUTPUT_CONFIRMED") (existing pk p q result) [] := by
    refine Prog.Along.after_andThen (A := isJournal) (fun _ _ _ => trivial) (selectRow_journal pk _) ?_
      (fun _ _ _ _ h => nomatch h)
    intro found d _ _
    cases found with
    | none => exact fun _ h => nomatch h
    | some row =>
      intro replayed hr
      obtain ⟨_, -, hr⟩ := bind_ok hr
      obtain ⟨_, -, hr⟩ := bind_ok hr
      obtain ⟨r, hreplay, hr⟩ := bind_ok hr
      cases hr
      exact replay_state hreplay
  exact hall.path h replayed rfl

variable {σ : Type} {gate : Program (Run σ)} {permitted : σ → Bool}

variable (pk assess c) in
/-- A gate that leaves the stage alone and permits a link only behind a decision of the call. -/
structure Gates (gate : Program (Run σ)) (permitted : σ → Bool) (q : Request) : Prop where
  calm : gate.Uses fun e => ¬ isStaging e
  decides : ∀ {stage : String} {file : ℕ} {h d : History Effect Answer} {checked : σ},
    Prog.Path gate d (.ret (.ok checked)) → permitted checked = true → HoldsBytes stage file q.html (h ++ d) →
      Nonempty (Creation pk assess c stage (safeName pk q.requestId) (h ++ d))

theorem publishClaimed_guarded (hgate : Gates pk assess c gate permitted q) {result : Published} {file : ℕ}
    {afterLink : Bool} (hstate : result.state = "BLOCKED_WITHOUT_PUBLICATION") (hholds : HoldsBytes stage file q.html h) :
    Guarded pk assess c (fun h r => Keeps stage h ∧ Honest pk q.requestId h r.result)
      (publishClaimed pk p gate permitted q result stage file afterLink) h := by
  refine Guarded.after hgate.calm fun checked d hchecked hd => ?_
  have hkeeps := (hholds.calm hd).holds.keeps
  cases checked with
  | error e => exact Prog.Along.bind ((persist_guarded unknown_unconfirmed hkeeps).mono fun _ _ h => h)
  | ok checked =>
    dsimp only
    split_ifs with hpermitted
    · exact Prog.Along.bind ((publishLinked_guarded hstate hkeeps
        (hgate.decides hchecked hpermitted (hholds.calm hd))).mono fun _ _ h => h)
    · refine Prog.Along.bind (Prog.Along.mono (persist_guarded ?_ hkeeps) fun _ _ h => h)
      exact blocked_unconfirmed hstate

theorem publishStaged_guarded (hgate : Gates pk assess c gate permitted q) {result : Published} {file : ℕ}
    {afterLink : Bool} (hstate : result.state = "BLOCKED_WITHOUT_PUBLICATION") (hholds : HoldsBytes stage file q.html h) :
    Guarded pk assess c (fun h r => Keeps stage h ∧ Honest pk q.requestId h r.result)
      (publishStaged pk p gate permitted q result stage file afterLink) h := by
  unfold publishStaged
  refine Guarded.after (isJournal_calm (claimed_journal pk p q result)) fun found d hfound hd => ?_
  have hkeeps := (hholds.calm hd).holds.keeps
  rcases found with e | _ | replayed
  · refine Guarded.after (isJournal_calm (currentState_journal pk q.requestId)) fun state d' _ hd' => ?_
    exact ⟨hkeeps.calm hd', Honest.of_ne (blocked_unconfirmed hstate)⟩
  · exact publishClaimed_guarded hgate hstate (hholds.calm hd)
  · exact ⟨hkeeps, Honest.of_ne (claimed_unconfirmed hfound)⟩

theorem publishInside_guarded (hgate : Gates pk assess c gate permitted q) {result : Published} {afterLink : Bool}
    (hstate : result.state = "BLOCKED_WITHOUT_PUBLICATION") (hun : Unlinked h) :
    Guarded pk assess c (fun h r => (r.2 = true → Keeps stage h) ∧ Honest pk q.requestId h r.1.result)
      (publishInside pk p gate permitted q result stage afterLink) h := by
  unfold publishInside
  refine Prog.Along.bind ((establishStage_guarded stage hun).mono fun h' established he => ?_)
  obtain ⟨created, file⟩ := established
  cases file with
  | none =>
    refine ⟨fun hc => ?_, Honest.of_ne (blocked_unconfirmed hstate)⟩
    obtain ⟨file, hholds⟩ := he.1 hc
    exact hholds.keeps
  | some file =>
    obtain ⟨-, hholds⟩ := he.2 file rfl
    exact Prog.Along.bind ((publishStaged_guarded hgate hstate hholds).mono fun _ _ ho => ⟨fun _ => ho.1, ho.2⟩)

theorem unavailable_honest {result : Published} {d : History Effect Answer} {found : Published} {h : History Effect Answer}
    (hfound : Prog.Path (unavailable pk q result) d (.ret found)) : Honest pk q.requestId h found := by
  have hall : Prog.Along (fun _ _ => True) (fun _ r => r.state ≠ "LOCAL_OUTPUT_CONFIRMED")
      (unavailable pk q result) [] := by
    refine Prog.Along.after (fun _ _ _ => trivial) (currentState_journal pk q.requestId) fun _ _ _ _ => ?_
    change (if result.attempted then "OUTCOME_UNKNOWN" else "BLOCKED_WITHOUT_PUBLICATION") ≠ "LOCAL_OUTPUT_CONFIRMED"
    split_ifs <;> decide
  exact Honest.of_ne (hall.path hfound)

theorem withDirectories_guarded (hgate : Gates pk assess c gate permitted q) {result : Published} {afterLink : Bool}
    (hstate : result.state = "BLOCKED_WITHOUT_PUBLICATION") (hun : Unlinked h) :
    Guarded pk assess c (fun h r => (r.2 = true → Keeps stage h) ∧ Honest pk q.requestId h r.1.result)
      (withDirectories pk p gate permitted q result stage afterLink) h := by
  unfold withDirectories
  have hfail : ∀ h : History Effect Answer, Guarded pk assess c
      (fun h (r : Outcome σ × Bool) => (r.2 = true → Keeps stage h) ∧ Honest pk q.requestId h r.1.result)
      (do return (⟨← unavailable pk q result, none⟩, false)) h := fun h =>
    Guarded.after (isJournal_calm (unavailable_journal pk q result)) fun found d hfound _ =>
      ⟨fun h => (nomatch h), unavailable_honest hfound⟩
  refine ⟨trivial, fun opened => ?_⟩
  cases opened with
  | false => exact hfail _
  | true =>
    refine ⟨trivial, fun opened => ?_⟩
    cases opened with
    | false => exact ⟨trivial, fun _ => hfail _⟩
    | true =>
      have hopened : Unlinked (h ++ [⟨.openDirectory .staging, true⟩] ++ [⟨.openDirectory .visible, true⟩]) :=
        (hun.append (by simp [Unlinked, isLink])).append (by simp [Unlinked, isLink])
      refine Prog.Along.bind ((publishInside_guarded hgate hstate hopened).mono fun h' r hr => ?_)
      obtain ⟨outcome, created⟩ := r
      refine ⟨trivial, fun left => ⟨trivial, fun left' => ?_⟩⟩
      have hcalm : Calm [(⟨.closeDirectory .visible, left⟩ : (e : Effect) × Answer e)] := by simp [Calm, isStaging]
      have hcalm' : Calm [(⟨.closeDirectory .staging, left'⟩ : (e : Effect) × Answer e)] := by simp [Calm, isStaging]
      have hkeeps := fun hc => ((hr.1 hc).calm hcalm).calm hcalm'
      dsimp only
      split_ifs
      · exact ⟨hkeeps, (hr.2.append _).append _⟩
      · exact Guarded.after (isJournal_calm (unavailable_journal pk q _)) fun found d hfound hd =>
          ⟨fun hc => (hkeeps hc).calm hd, unavailable_honest hfound⟩

theorem cleanup_guarded (hkeeps : Keeps stage h) :
    Guarded pk assess c (fun h' _ => ∃ d, h' = h ++ d) (cleanup stage) h := by
  refine ⟨trivial, fun opened => ?_⟩
  cases opened with
  | false => exact ⟨_, rfl⟩
  | true =>
    have hcalm : Calm [(⟨.openDirectory .staging, true⟩ : (e : Effect) × Answer e)] := by simp [Calm, isStaging]
    refine ⟨hkeeps.calm hcalm, fun removed => ?_⟩
    cases removed with
    | false => exact ⟨trivial, fun _ => ⟨_, by rw [List.append_assoc, List.append_assoc]⟩⟩
    | true =>
      exact ⟨trivial, fun _ => ⟨trivial, fun _ => ⟨_, by rw [List.append_assoc, List.append_assoc, List.append_assoc]⟩⟩⟩

theorem publishRequest_guarded (hgate : Gates pk assess c gate permitted q) {afterLink : Bool} (hun : Unlinked h) :
    Guarded pk assess c (fun h r => Honest pk q.requestId h r.result)
      (publishRequest pk p gate permitted q afterLink) h := by
  unfold publishRequest
  refine Guarded.after (isJournal_calm (existing_journal pk p q _)) fun found d hfound hd => ?_
  rcases found with e | _ | replayed
  · exact Honest.of_ne (blocked_unconfirmed rfl)
  · refine ⟨trivial, fun token => ?_⟩
    have hfresh : Unlinked (h ++ d ++ [⟨.fresh, token⟩]) := (hun.append hd.unlinked).append (by simp [Unlinked, isLink])
    refine Prog.Along.bind ((withDirectories_guarded hgate rfl hfresh).mono fun h' r hr => ?_)
    obtain ⟨outcome, created⟩ := r
    cases created with
    | false => exact hr.2
    | true =>
      refine Prog.Along.bind ((cleanup_guarded (hr.1 rfl)).mono ?_)
      rintro _ _ ⟨d', rfl⟩
      exact hr.2.append d'
  · exact Honest.of_ne (existing_unconfirmed hfound)

theorem publish_guarded {requestId : Json} {fingerprint disclosureSha256 : String} {html : Bytes} {afterLink : Bool}
    (hgate : ∀ id, identifier requestId = .ok id →
      Gates pk assess c gate permitted ⟨id, fingerprint, html, disclosureSha256⟩) (hun : Unlinked h) :
    Guarded pk assess c (fun h r => ∀ outcome, r = .ok outcome → ∃ id, identifier requestId = .ok id ∧
      Honest pk id h outcome.result) (publish pk p gate permitted requestId fingerprint html disclosureSha256 afterLink) h := by
  refine Prog.Along.andThen ?_
  cases hid : identifier requestId with
  | error e => exact fun _ h => nomatch h
  | ok id =>
    refine Prog.Along.andThen ?_
    cases storeHex (.str fingerprint) with
    | error e => exact fun _ h => nomatch h
    | ok _ =>
      refine Prog.Along.andThen ?_
      cases storeHex (.str disclosureSha256) with
      | error e => exact fun _ h => nomatch h
      | ok _ =>
        refine Prog.Along.andThen ?_
        cases Incident.require (html.length ≤ maxHtml) "Publisher requires immutable bytes within the 1 MiB limit" with
        | error e => exact fun _ h => nomatch h
        | ok _ =>
          refine Prog.Along.bind ((publishRequest_guarded (hgate id hid) hun).mono fun h' outcome ho => ?_)
          rintro _ ⟨⟩
          exact ⟨id, rfl, ho⟩

/-! ## The gate of a release -/

/-- The gate authorizes only where it has checked at a time that it read, not before the admission. -/
theorem finalGate_decides (candidate trust approval at_ : Json) :
    Prog.Along (fun _ _ => True) (fun h r => ∀ checked, r = .ok checked → checked.authorized = true →
      ∃ finalAt, ⟨.clock, .ok finalAt⟩ ∈ h ∧ check pk assess c.config candidate trust approval finalAt = .ok checked ∧
        ∃ start now, timestamp at_ = .ok start ∧ timestamp finalAt = .ok now ∧ start ≤ now)
      (finalGate pk assess c candidate trust approval at_) [] := by
  refine Prog.Along.after_andThen (A := fun _ => True) (fun _ _ _ => trivial) ?_ ?_ (fun _ _ _ _ h => nomatch h)
  · split_ifs
    · exact pass_uses trivial _
    · trivial
  intro _ d _ _
  refine Prog.Along.andThen ⟨trivial, fun r => ?_⟩
  cases r with
  | error e => exact fun _ h => nomatch h
  | ok finalAt =>
    intro checked hchecked hauthorized
    obtain ⟨result, hresult, hchecked⟩ := bind_ok hchecked
    obtain ⟨now, hnow, hchecked⟩ := bind_ok hchecked
    obtain ⟨start, hstart, hchecked⟩ := bind_ok hchecked
    split_ifs at hchecked with hlt
    · cases hchecked
      cases hauthorized
    · cases hchecked
      exact ⟨finalAt, by simp, hresult, start, now, hstart, hnow, not_lt.1 hlt⟩

theorem gates_of_finalGate {candidate trust approval at_ : Json} {preflight : Check} {requestId : String}
    (hinputs : ownInputs pk c.candidate c.trust c.approval = .ok (candidate, trust, approval))
    (hadmitted : check pk assess c.config candidate trust approval at_ = .ok preflight)
    (hauthorized : preflight.authorized = true)
    (hid : identifier (preflight.measurements.item "request_id") = .ok requestId) :
    Gates pk assess c (finalGate pk assess c candidate trust approval at_) Check.authorized
      (requestOf candidate preflight requestId) where
  calm := finalGate_calm pk assess c candidate trust approval at_
  decides := by
    intro stage file h d checked hpath hpermitted hholds
    obtain ⟨finalAt, hread, hcheck, honward⟩ := (finalGate_decides candidate trust approval at_).path hpath checked rfl
      hpermitted
    exact ⟨{
      candidate, trust, approval, at_, finalAt, preflight, final := checked, inputs := hinputs, admitted := hadmitted
      decided := hcheck, authorized := hauthorized, confirmed := hpermitted, onward := honward
      read := List.mem_append_right h hread, requestId, file, requested := hid, named := rfl, holds := hholds.1
      first := hholds.2 }⟩

/-! ## The report of a release -/

theorem toJson_state (result : Published) : result.toJson.item "state" = .str result.state := by
  unfold Published.toJson
  exact item_of_get? (by rw [get?_dict]; rfl)

theorem publishedState_ok {result : Published} {x : String × Bool} (h : publishedState result.toJson = .ok x) :
    x.1 = result.state := by
  unfold publishedState at h
  obtain ⟨_, -, h⟩ := bind_ok h
  obtain ⟨state, hstate, h⟩ := bind_ok h
  rw [toJson_state] at hstate
  cases hstate
  split at h
  · next s attempted hfind _ =>
    cases h
    have hs := List.find?_some hfind
    exact (Json.str.inj (of_decide_eq_true hs)).symm
  · cases h

variable (pk) in
/-- A report that claims a confirmed output has one behind it, for the request that was admitted. -/
def Truthful (h : History Effect Answer) (r : Run Report) : Prop :=
  ∀ report, r = .ok report → report.state = "LOCAL_OUTPUT_CONFIRMED" →
    ∃ preflight id, report.preflight = some preflight ∧
      identifier (preflight.measurements.item "request_id") = .ok id ∧ Confirmed pk id h

theorem truthful_error (h : History Effect Answer) (e : Raised) : Truthful pk h (.error e) := fun _ h => nomatch h

theorem truthful_ne {report : Report} (hs : report.state ≠ "LOCAL_OUTPUT_CONFIRMED") : Truthful pk h (.ok report) := by
  rintro _ ⟨⟩ hc
  exact absurd hc hs

theorem truthful_uncertain (report : Report) (reason : Reason) (h : History Effect Answer) :
    Truthful pk h (.ok (uncertain report reason)) := truthful_ne unknown_unconfirmed

theorem settle_guarded {preflight : Check} {report : Report} {result : Published} {id : String}
    (hpreflight : report.preflight = some preflight)
    (hid : identifier (preflight.measurements.item "request_id") = .ok id) (hresult : Honest pk id h result) :
    Guarded pk assess c (Truthful pk) (settle pk c preflight report result.toJson) h := by
  unfold settle
  cases hstate : publishedState result.toJson with
  | error e =>
    cases e with
    | input message => exact truthful_uncertain _ _ _
    | _ => exact truthful_error _ _
  | ok x =>
    obtain ⟨state, attempted⟩ := x
    have hsame : state = result.state := publishedState_ok hstate
    dsimp only
    cases sub result.toJson "reason" with
    | error e => exact truthful_error _ _
    | ok reason =>
      refine ⟨trivial, fun now => ?_⟩
      rcases now with (message | message | _) | postAt
      · exact truthful_uncertain _ _ _
      · exact truthful_uncertain _ _ _
      · exact truthful_error _ _
      · dsimp only
        split
        · exact truthful_uncertain _ _ _
        · exact truthful_error _ _
        · next settled hsettled =>
          have hkept : settled.state = state ∧ settled.preflight = some preflight := by
            obtain ⟨_, -, hsettled⟩ := bind_ok hsettled
            split_ifs at hsettled
            · obtain ⟨receipt, -, hsettled⟩ := bind_ok hsettled
              cases hsettled
              exact ⟨rfl, hpreflight⟩
            · cases hsettled
              exact ⟨rfl, hpreflight⟩
          rintro _ ⟨⟩ hc
          refine ⟨preflight, id, hkept.2, hid, (hresult ?_).append _⟩
          rw [← hsame, ← hkept.1, hc]

/-- The result that a local publisher hands back. -/
theorem publishing_guarded {requestId : Json} {fingerprint disclosureSha256 : String} {html : Bytes}
    {gate : Program (Run Check)} (hgate : ∀ id, identifier requestId = .ok id →
      Gates pk assess c gate Check.authorized ⟨id, fingerprint, html, disclosureSha256⟩) (hun : Unlinked h) :
    Guarded pk assess c (fun h x => ∀ json, x.1 = .ok json → ∃ (result : Published) (id : String),
      json = result.toJson ∧ identifier requestId = .ok id ∧ Honest pk id h result)
      (c.publisher.publishing pk requestId fingerprint html disclosureSha256 gate) h := by
  refine Prog.Along.bind ((publish_guarded hgate hun).mono fun h' published hp => ?_)
  cases published with
  | error e => cases e <;> exact fun _ h => nomatch h
  | ok outcome =>
    obtain ⟨id, hid, hhonest⟩ := hp outcome rfl
    rintro _ ⟨⟩
    exact ⟨outcome.result, id, rfl, hid, hhonest⟩

theorem publishChecked_guarded {candidate trust approval : Json} {preflight : Check} {report : Report}
    (hinputs : ownInputs pk c.candidate c.trust c.approval = .ok (candidate, trust, approval))
    (hadmitted : check pk assess c.config candidate trust approval preflight.at_ = .ok preflight)
    (hauthorized : preflight.authorized = true) (hpreflight : report.preflight = some preflight) (hun : Unlinked h) :
    Guarded pk assess c (Truthful pk)
      (publishChecked pk assess c (c.publisher.publishing pk) candidate trust approval preflight report) h := by
  unfold publishChecked
  refine Guarded.after_andThen ?_ ?_ (fun e d _ => truthful_error _ e)
  · split_ifs
    · exact pass_uses (fun h => h) _
    · trivial
  intro _ d _ hd
  refine Prog.Along.bind ((publishing_guarded (fun id hid => gates_of_finalGate hinputs hadmitted hauthorized hid)
    (hun.append hd.unlinked)).mono fun h' published hp => ?_)
  obtain ⟨published, final⟩ := published
  rcases published with (message | message | _) | json
  · exact truthful_uncertain _ _ _
  · exact truthful_uncertain _ _ _
  · exact truthful_error _ _
  · obtain ⟨result, id, rfl, hid, hhonest⟩ := hp json rfl
    exact settle_guarded hpreflight hid hhonest

theorem check_at {candidate trust approval at_ : Json} {result : Check} {config : GateConfig}
    (h : check pk assess config candidate trust approval at_ = .ok result) : result.at_ = at_ := by
  have hdenied : ∀ {e : Raised} {m f : Json}, denied at_ e m f = .ok result → result.at_ = at_ := by
    intro e m f h
    unfold denied at h
    split at h
    · cases h
    · cases h
      rfl
  unfold check at h
  split at h
  · exact hdenied h
  · split at h
    · exact hdenied h
    · split at h
      · exact hdenied h
      · cases h
        rfl

variable (pk assess c) in
/-- Every effect of a release is allowed, and its report is truthful. -/
theorem release_guarded : Guarded pk assess c (Truthful pk) (release pk assess c) [] := by
  refine Prog.Along.andThen ⟨trivial, fun now => ?_⟩
  cases now with
  | error e => exact truthful_error _ _
  | ok at_ =>
    dsimp only [Prog.Along]
    cases hinputs : ownInputs pk c.candidate c.trust c.approval with
    | error e =>
      cases e with
      | input message => exact truthful_ne (blocked_unconfirmed rfl)
      | _ => exact truthful_error _ _
    | ok inputs =>
      obtain ⟨candidate, trust, approval⟩ := inputs
      dsimp only
      refine Prog.Along.andThen ?_
      cases hcheck : check pk assess c.config candidate trust approval at_ with
      | error e => exact truthful_error _ _
      | ok preflight =>
        dsimp only [Prog.Along]
        split
        · exact truthful_ne (blocked_unconfirmed rfl)
        · next hauthorized =>
          split
          · exact truthful_ne (blocked_unconfirmed rfl)
          · refine publishChecked_guarded hinputs ?_ (by simpa using hauthorized) rfl (by simp [Unlinked, isLink])
            rw [check_at hcheck]
            exact hcheck

end Calls
end VapEvidence.Publication
