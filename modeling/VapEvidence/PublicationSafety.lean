import VapEvidence.PublicationDecisions

set_option autoImplicit false

/-!
# Published files

Any number of releases on one root that nothing else writes. A stage belongs to the call
that created it until that call removes it, so what becomes visible is what its call
wrote, and it stays.
-/
namespace VapEvidence.Publication
open Json Incident Interleaving

/-! ## The root -/

/-- A publisher's root: the journal, the names of the private and of the visible directory with their
    files, and the contents of files. -/
structure Root where
  journal : Journal
  staged : String → Option ℕ
  visible : String → Option ℕ
  content : ℕ → Bytes

def Root.empty : Root := ⟨fun _ => none, fun _ => none, fun _ => none, fun _ => []⟩

/-- A file that has no name. -/
def Root.Unused (s : Root) (file : ℕ) : Prop := ∀ name, s.staged name ≠ some file ∧ s.visible name ≠ some file

variable {pk : Packages}

variable (pk) in
/-- How the root answers. A transaction takes place or not, and one that took place may go unacknowledged;
    a write that raises may have written a part; a link that raises may have been made. -/
def act (s : Root) : (e : Effect) → Root → Answer e → Prop
  | .lookup requestId, t, r => t = s ∧ (r = none ∨ r = some (s.journal requestId))
  | .claim requestId fingerprint serialized, t, r =>
    (t = s ∧ ∃ e, r = .error e) ∨
      (∃ row, claimIntent pk requestId fingerprint serialized s.journal = .ok (.inl row) ∧ t = s ∧ r = .ok (some row)) ∨
      ∃ journal, claimIntent pk requestId fingerprint serialized s.journal = .ok (.inr journal) ∧
        t = { s with journal } ∧ (r = .ok none ∨ ∃ e, r = .error e)
  | .finish requestId state serialized, t, r =>
    (t = s ∧ ∃ e, r = .error e) ∨
      ∃ journal, setTerminal pk requestId state serialized s.journal = .ok journal ∧ t = { s with journal } ∧
        (r = .ok () ∨ ∃ e, r = .error e)
  | .createStage name, t, r =>
    (t = s ∧ r = none) ∨ ∃ file, s.Unused file ∧ s.staged name = none ∧ r = some file ∧
      t = { s with staged := Function.update s.staged name (some file), content := Function.update s.content file [] }
  | .write file bytes, t, r =>
    ∃ n, n ≤ bytes.length ∧ (r = none ∨ r = some n) ∧
      t = { s with content := Function.update s.content file (s.content file ++ bytes.take n) }
  | .link stage name, t, r =>
    (t = s ∧ (r = .failed ∨ r = .exists ∧ s.visible name ≠ none)) ∨
      ∃ file, s.staged stage = some file ∧ s.visible name = none ∧ (r = .linked ∨ r = .failed) ∧
        t = { s with visible := Function.update s.visible name (some file) }
  | .readArtifact name, t, r =>
    t = s ∧ (r = none ∨ ∃ file, s.visible name = some file ∧ r = some (file, s.content file))
  | .unlinkStage name, t, _ => t = s ∨ t = { s with staged := Function.update s.staged name none }
  | _, t, _ => t = s

variable (pk) in
/-- The effects of calls; nothing else writes the root. -/
def semantics : Semantics Root Effect Answer where
  exec _ s e t r := act pk s e t r
  env s t := t = s

abbrev PublicationWorld : Type := World (Root × Log Effect Answer) Effect Answer Call (Run Report)

/-- Steps of any number of releases on one root. -/
abbrev Released (pk : Packages) (assess : Json → Json → Run Json) : PublicationWorld → PublicationWorld → Prop :=
  Interleaving.Run (semantics pk).logged (fun _ _ => True) (release pk assess)

/-- A world that any releases on an empty root lead to. -/
def Reachable (pk : Packages) (assess : Json → Json → Run Json) (w : PublicationWorld) : Prop :=
  Released pk assess (World.initial (Root.empty, [])) w

/-! ## Stages belong to their calls -/

section Owned
variable {assess : Json → Json → Run Json} {s t : Root} {log : Log Effect Answer} {i : ℕ} {e : Effect} {r : Answer e}

/-- What the calls hold, as the root has it. -/
structure Owned (s : Root) (log : Log Effect Answer) : Prop where
  staged : ∀ {i g}, holding (history i log) = some g → s.staged g.name = some g.file
  written : ∀ {i g b}, holding (history i log) = some g → g.written = some b → s.content g.file = b
  apart : ∀ {i j g g'}, holding (history i log) = some g → holding (history j log) = some g' → g.name = g'.name → i = j
  single : ∀ {n m file}, s.staged n = some file → s.staged m = some file → n = m
  linked : ∀ {n file i g}, s.visible n = some file → holding (history i log) = some g → g.file = file →
    ¬ Unlinked (history i log)

theorem Owned.same_file (ho : Owned s log) {i j : ℕ} {g g' : Holding} (hg : holding (history i log) = some g)
    (hg' : holding (history j log) = some g') (hf : g.file = g'.file) : i = j :=
  ho.apart hg hg' (ho.single (ho.staged hg) (by rw [hf]; exact ho.staged hg'))

theorem history_snoc (j i : ℕ) (log : Log Effect Answer) (o : (e : Effect) × Answer e) :
    history j (log ++ [(i, o)]) = if i = j then history j log ++ [o] else history j log := by
  rw [history_append, history_cons, history_nil]
  split_ifs <;> simp

theorem unlinked_history {j i : ℕ} {o : (e : Effect) × Answer e} (h : Unlinked (history j (log ++ [(i, o)]))) :
    Unlinked (history j log) := by
  rw [history_append] at h
  exact fun x hx => h x (List.mem_append_left _ hx)

/-- What a call holds after an effect of another, or after its own. -/
theorem holding_history {j i : ℕ} {o : (e : Effect) × Answer e} {g : Holding}
    (h : holding (history j (log ++ [(i, o)])) = some g) :
    (i ≠ j ∧ holding (history j log) = some g) ∨ (i = j ∧ hold (holding (history i log)) o = some g) := by
  rw [history_snoc] at h
  split_ifs at h with hij
  · subst hij
    rw [holding_snoc] at h
    exact .inr ⟨rfl, h⟩
  · exact .inl ⟨hij, h⟩

/-- An effect that changes neither names nor contents, nor what its call holds. -/
theorem Owned.quiet (ho : Owned s log) {o : (e : Effect) × Answer e} (hstaged : t.staged = s.staged)
    (hvisible : t.visible = s.visible) (hcontent : t.content = s.content) (hold_ : ∀ held, hold held o = held) :
    Owned t (log ++ [(i, o)]) := by
  have hsame : ∀ {j g}, holding (history j (log ++ [(i, o)])) = some g → holding (history j log) = some g := by
    intro j g hg
    rcases holding_history hg with ⟨-, hp⟩ | ⟨rfl, hp⟩
    · exact hp
    · rwa [hold_] at hp
  constructor
  · intro j g hg
    rw [hstaged]
    exact ho.staged (hsame hg)
  · intro j g b hg hb
    rw [hcontent]
    exact ho.written (hsame hg) hb
  · exact fun hg hg' hn => ho.apart (hsame hg) (hsame hg') hn
  · rw [hstaged]
    exact ho.single
  · rw [hvisible]
    exact fun hv hg hf hu => ho.linked hv (hsame hg) hf (unlinked_history hu)

theorem update_some {α β : Type} [DecidableEq α] {f : α → Option β} {a n : α} {b b' : β}
    (h : Function.update f a (some b) n = some b') : (n = a ∧ b' = b) ∨ (n ≠ a ∧ f n = some b') := by
  by_cases hn : n = a
  · subst hn
    rw [Function.update_self] at h
    exact .inl ⟨rfl, (Option.some.inj h).symm⟩
  · rw [Function.update_of_ne hn] at h
    exact .inr ⟨hn, h⟩

theorem Owned.create (ho : Owned s log) {name : String} {file : ℕ} (hunused : s.Unused file) (hfree : s.staged name = none) :
    Owned { s with staged := Function.update s.staged name (some file), content := Function.update s.content file [] }
      (log ++ [(i, ⟨.createStage name, some file⟩)]) := by
  have hname : ∀ {j g}, holding (history j log) = some g → g.name ≠ name := by
    intro j g hg hn
    have := ho.staged hg
    rw [hn, hfree] at this
    cases this
  have hfile : ∀ {j g}, holding (history j log) = some g → g.file ≠ file := by
    intro j g hg hf
    exact (hunused g.name).1 (by rw [← hf]; exact ho.staged hg)
  have hnew : ∀ {j g}, holding (history j (log ++ [(i, ⟨.createStage name, some file⟩)])) = some g →
      holding (history j log) = some g ∨ (i = j ∧ g = ⟨name, file, some []⟩) := by
    intro j g hg
    rcases holding_history hg with ⟨-, hp⟩ | ⟨hij, hp⟩
    · exact .inl hp
    · exact .inr ⟨hij, (Option.some.inj hp).symm⟩
  constructor
  · intro j g hg
    change Function.update s.staged name (some file) g.name = some g.file
    rcases hnew hg with hp | ⟨-, rfl⟩
    · rw [Function.update_of_ne (hname hp)]
      exact ho.staged hp
    · exact Function.update_self ..
  · intro j g b hg hb
    change Function.update s.content file [] g.file = b
    rcases hnew hg with hp | ⟨-, rfl⟩
    · rw [Function.update_of_ne (hfile hp)]
      exact ho.written hp hb
    · cases hb
      exact Function.update_self ..
  · intro j k g g' hg hg' hn
    rcases hnew hg with hp | ⟨rfl, rfl⟩ <;> rcases hnew hg' with hp' | ⟨rfl, rfl⟩
    · exact ho.apart hp hp' hn
    · exact absurd hn (hname hp)
    · exact absurd hn.symm (hname hp')
    · rfl
  · intro n m f hn hm
    rcases update_some hn with ⟨rfl, rfl⟩ | ⟨-, hn'⟩ <;> rcases update_some hm with ⟨rfl, hf⟩ | ⟨-, hm'⟩
    · rfl
    · exact absurd hm' (hunused m).1
    · subst hf
      exact absurd hn' (hunused n).1
    · exact ho.single hn' hm'
  · intro n f j g hv hg hf hu
    rcases hnew hg with hp | ⟨-, rfl⟩
    · exact ho.linked hv hp hf (unlinked_history hu)
    · subst hf
      exact (hunused n).2 hv

theorem Owned.write (ho : Owned s log) {file n : ℕ} {bytes : Bytes} {r : Option ℕ} {name : String}
    {before : Option Bytes} (hheld : holding (history i log) = some ⟨name, file, before⟩) (hr : r = none ∨ r = some n) :
    Owned { s with content := Function.update s.content file (s.content file ++ bytes.take n) }
      (log ++ [(i, ⟨.write file bytes, r⟩)]) := by
  have hnew : ∀ {j g}, holding (history j (log ++ [(i, ⟨.write file bytes, r⟩)])) = some g →
      (i ≠ j ∧ holding (history j log) = some g) ∨ (i = j ∧ g.name = name ∧ g.file = file ∧
        ∀ b, g.written = some b → ∃ b', before = some b' ∧ b = b' ++ bytes.take n) := by
    intro j g hg
    rcases holding_history hg with hp | ⟨hij, hp⟩
    · exact .inl hp
    · refine .inr ⟨hij, ?_⟩
      rw [hheld] at hp
      rcases hr with rfl | rfl
      · obtain rfl := Option.some.inj hp
        exact ⟨rfl, rfl, fun b hb => nomatch hb⟩
      · obtain rfl := Option.some.inj hp
        refine ⟨rfl, rfl, fun b hb => ?_⟩
        obtain ⟨b', hb', rfl⟩ := Option.map_eq_some_iff.1 hb
        exact ⟨b', hb', rfl⟩
  have hold_ : ∀ {j g}, holding (history j (log ++ [(i, ⟨.write file bytes, r⟩)])) = some g →
      ∃ g', holding (history j log) = some g' ∧ g'.name = g.name ∧ g'.file = g.file := by
    intro j g hg
    rcases hnew hg with ⟨-, hp⟩ | ⟨rfl, hn, hf, -⟩
    · exact ⟨g, hp, rfl, rfl⟩
    · exact ⟨_, hheld, hn.symm, hf.symm⟩
  constructor
  · intro j g hg
    obtain ⟨g', hg', hn, hf⟩ := hold_ hg
    rw [← hn, ← hf]
    exact ho.staged hg'
  · intro j g b hg hb
    change Function.update s.content file (s.content file ++ bytes.take n) g.file = b
    rcases hnew hg with ⟨hij, hp⟩ | ⟨-, -, hf, hbytes⟩
    · rw [Function.update_of_ne fun hf => hij (ho.same_file hheld hp hf.symm)]
      exact ho.written hp hb
    · obtain ⟨b', hb', rfl⟩ := hbytes b hb
      rw [hf, Function.update_self, ho.written hheld hb']
  · intro j k g g' hg hg' hn
    obtain ⟨_, hp, hname, -⟩ := hold_ hg
    obtain ⟨_, hp', hname', -⟩ := hold_ hg'
    exact ho.apart hp hp' (hname.trans (hn.trans hname'.symm))
  · exact ho.single
  · intro n f j g hv hg hf hu
    obtain ⟨_, hp, -, hfile⟩ := hold_ hg
    exact ho.linked hv hp (hfile.trans hf) (unlinked_history hu)

theorem Owned.link (ho : Owned s log) {stage name : String} {file : ℕ} {r : LinkAnswer} {written : Option Bytes}
    (hheld : holding (history i log) = some ⟨stage, file, written⟩) :
    Owned { s with visible := Function.update s.visible name (some file) } (log ++ [(i, ⟨.link stage name, r⟩)]) := by
  have hsame : ∀ {j g}, holding (history j (log ++ [(i, ⟨.link stage name, r⟩)])) = some g →
      holding (history j log) = some g := by
    intro j g hg
    rcases holding_history hg with ⟨-, hp⟩ | ⟨rfl, hp⟩ <;> exact hp
  refine ⟨fun hg => ho.staged (hsame hg), fun hg hb => ho.written (hsame hg) hb,
    fun hg hg' hn => ho.apart (hsame hg) (hsame hg') hn, ho.single, ?_⟩
  intro n f j g hv hg hf hu
  rcases update_some hv with ⟨-, rfl⟩ | ⟨-, hv⟩
  · obtain rfl := ho.same_file hheld (hsame hg) hf.symm
    refine hu ⟨.link stage name, r⟩ ?_ trivial
    rw [history_snoc, if_pos rfl]
    exact List.mem_append_right _ List.mem_cons_self
  · exact ho.linked hv (hsame hg) hf (unlinked_history hu)

theorem Owned.unlink (ho : Owned s log) {name : String} {r : Bool} {file : ℕ} {written : Option Bytes}
    (hheld : holding (history i log) = some ⟨name, file, written⟩)
    (ht : t = s ∨ t = { s with staged := Function.update s.staged name none }) :
    Owned t (log ++ [(i, ⟨.unlinkStage name, r⟩)]) := by
  have hsame : ∀ {j g}, holding (history j (log ++ [(i, ⟨.unlinkStage name, r⟩)])) = some g →
      holding (history j log) = some g ∧ g.name ≠ name := by
    intro j g hg
    rcases holding_history hg with ⟨hij, hp⟩ | ⟨-, hp⟩
    · exact ⟨hp, fun hn => hij (ho.apart hheld hp hn.symm)⟩
    · cases hp
  have hstaged : ∀ {n f}, t.staged n = some f → s.staged n = some f := by
    intro n f hn
    rcases ht with rfl | rfl
    · exact hn
    · by_cases h : n = name
      · subst h
        simp at hn
      · simpa only [Function.update_of_ne h] using hn
  have hrest : t.visible = s.visible ∧ t.content = s.content := by rcases ht with rfl | rfl <;> exact ⟨rfl, rfl⟩
  constructor
  · intro j g hg
    obtain ⟨hp, hn⟩ := hsame hg
    rcases ht with rfl | rfl
    · exact ho.staged hp
    · simpa only [Function.update_of_ne hn] using ho.staged hp
  · intro j g b hg hb
    rw [hrest.2]
    exact ho.written (hsame hg).1 hb
  · exact fun hg hg' hn => ho.apart (hsame hg).1 (hsame hg').1 hn
  · exact fun hn hm => ho.single (hstaged hn) (hstaged hm)
  · rw [hrest.1]
    exact fun hv hg hf hu => ho.linked hv (hsame hg).1 hf (unlinked_history hu)

/-- What a call holds stays its own through every effect that calls are allowed. -/
theorem owned_step (ho : Owned s log) (ha : ∃ c, Allowed pk assess c (history i log) e) (hx : act pk s e t r) :
    Owned t (log ++ [(i, ⟨e, r⟩)]) := by
  obtain ⟨c, ha⟩ := ha
  cases e with
  | claim requestId fingerprint serialized =>
    rcases hx with ⟨rfl, -⟩ | ⟨row, -, rfl, -⟩ | ⟨journal, -, rfl, -⟩ <;> exact ho.quiet rfl rfl rfl fun _ => rfl
  | finish requestId state serialized =>
    rcases hx with ⟨rfl, -⟩ | ⟨journal, -, rfl, -⟩ <;> exact ho.quiet rfl rfl rfl fun _ => rfl
  | createStage name =>
    rcases hx with ⟨rfl, rfl⟩ | ⟨file, hunused, hfree, rfl, rfl⟩
    · exact ho.quiet rfl rfl rfl fun _ => rfl
    · exact ho.create hunused hfree
  | write file bytes =>
    obtain ⟨⟨name, before, hheld⟩, -⟩ := ha
    obtain ⟨n, -, hr, rfl⟩ := hx
    exact ho.write hheld hr
  | link stage name =>
    rcases hx with ⟨rfl, -⟩ | ⟨file, hstaged, -, -, rfl⟩
    · exact ho.quiet rfl rfl rfl fun _ => rfl
    · obtain ⟨a⟩ := ha
      have hfile := ho.staged a.holds
      rw [hstaged] at hfile
      cases hfile
      exact ho.link a.holds
  | unlinkStage name =>
    obtain ⟨file, written, hheld⟩ := ha
    exact ho.unlink hheld hx
  | lookup requestId =>
    obtain ⟨rfl, -⟩ := hx
    exact ho.quiet rfl rfl rfl fun _ => rfl
  | readArtifact name =>
    obtain ⟨rfl, -⟩ := hx
    exact ho.quiet rfl rfl rfl fun _ => rfl
  | _ =>
    obtain rfl : t = s := hx
    exact ho.quiet rfl rfl rfl fun _ => rfl

/-- What is visible stays, with its contents. -/
def Grows (s t : Root) : Prop :=
  ∀ {name file}, s.visible name = some file → t.visible name = some file ∧ t.content file = s.content file

theorem grows_step (ho : Owned s log) (ha : ∃ c, Allowed pk assess c (history i log) e) (hx : act pk s e t r) :
    Grows s t := by
  obtain ⟨c, ha⟩ := ha
  intro n f hv
  cases e with
  | claim requestId fingerprint serialized =>
    rcases hx with ⟨rfl, -⟩ | ⟨row, -, rfl, -⟩ | ⟨journal, -, rfl, -⟩ <;> exact ⟨hv, rfl⟩
  | finish requestId state serialized =>
    rcases hx with ⟨rfl, -⟩ | ⟨journal, -, rfl, -⟩ <;> exact ⟨hv, rfl⟩
  | createStage name =>
    rcases hx with ⟨rfl, rfl⟩ | ⟨file, hunused, -, rfl, rfl⟩
    · exact ⟨hv, rfl⟩
    · refine ⟨hv, Function.update_of_ne ?_ ..⟩
      rintro rfl
      exact (hunused n).2 hv
  | write file bytes =>
    obtain ⟨⟨name, before, hheld⟩, hun⟩ := ha
    obtain ⟨k, -, -, rfl⟩ := hx
    refine ⟨hv, Function.update_of_ne ?_ ..⟩
    rintro rfl
    exact ho.linked hv hheld rfl hun
  | link stage name =>
    rcases hx with ⟨rfl, -⟩ | ⟨file, -, hfree, -, rfl⟩
    · exact ⟨hv, rfl⟩
    · refine ⟨(Function.update_of_ne ?_ ..).trans hv, rfl⟩
      rintro rfl
      rw [hfree] at hv
      cases hv
  | unlinkStage name => rcases hx with rfl | rfl <;> exact ⟨hv, rfl⟩
  | lookup requestId =>
    obtain ⟨rfl, -⟩ := hx
    exact ⟨hv, rfl⟩
  | readArtifact name =>
    obtain ⟨rfl, -⟩ := hx
    exact ⟨hv, rfl⟩
  | _ =>
    obtain rfl : t = s := hx
    exact ⟨hv, rfl⟩

end Owned

/-! ## What the log says of the root -/

section Logged
variable {assess : Json → Json → Run Json} {s t : Root} {log : Log Effect Answer} {i : ℕ} {e : Effect} {r : Answer e}

/-- A visible file with the bytes that its call had staged when it linked it. -/
structure Linked (s : Root) (before : History Effect Answer) (stage name : String) (file : ℕ) (bytes : Bytes) : Prop where
  held : holding before = some ⟨stage, file, some bytes⟩
  visible : s.visible name = some file
  content : s.content file = bytes

theorem Linked.grows {before : History Effect Answer} {stage name : String} {file : ℕ} {bytes : Bytes}
    (hl : Linked s before stage name file bytes) (hg : Grows s t) : Linked t before stage name file bytes := by
  obtain ⟨hv, hc⟩ := hg hl.visible
  exact ⟨hl.held, hv, hc.trans hl.content⟩

/-- What the entries of the log say of the root. -/
structure Recorded (s : Root) (log : Log Effect Answer) : Prop where
  owned : Owned s log
  created : ∀ {name file}, s.visible name = some file → ∃ before i stage r after bytes,
    log = before ++ (i, ⟨.link stage name, r⟩) :: after ∧ Linked s (history i before) stage name file bytes
  linked : ∀ {before i stage name after}, log = before ++ (i, ⟨.link stage name, .linked⟩) :: after →
    ∃ file bytes, Linked s (history i before) stage name file bytes
  read : ∀ {i name file bytes}, (i, ⟨.readArtifact name, some (file, bytes)⟩) ∈ log →
    s.visible name = some file ∧ s.content file = bytes
  saved : ∀ {i requestId stored}, (i, ⟨.lookup requestId, some (some stored)⟩) ∈ log → stored.state ≠ intent →
    s.journal requestId = some stored

theorem setTerminal_written {requestId state : String} {serialized : List Char} {journal journal' : Journal}
    (h : setTerminal pk requestId state serialized journal = .ok journal') :
    ∃ stored, journal requestId = some stored ∧ stored.state = intent ∧ journal' =
      Function.update journal requestId (some { stored with state := state, result := some serialized }) := by
  unfold setTerminal at h
  split at h
  · cases h
  · next stored hstored =>
    obtain ⟨row, hrow, h⟩ := bind_ok h
    obtain ⟨_, hintent, h⟩ := bind_ok h
    cases h
    exact ⟨stored, hstored, (decodeRow_row hrow).2.symm.trans (of_decide_eq_true (ensure_ok hintent)), rfl⟩

theorem claimIntent_inserted {requestId fingerprint : String} {serialized : List Char} {journal journal' : Journal}
    (h : claimIntent pk requestId fingerprint serialized journal = .ok (.inr journal')) :
    journal requestId = none ∧
      journal' = Function.update journal requestId (some ⟨fingerprint, intent, serialized, none⟩) := by
  unfold claimIntent at h
  split at h
  · obtain ⟨row, -, h⟩ := bind_ok h
    cases h
  · next hnone =>
    cases h
    exact ⟨hnone, rfl⟩

/-- A row that is no longer an intent is final. -/
theorem final_step {requestId : String} {stored : StoredRow} (hx : act pk s e t r)
    (hs : s.journal requestId = some stored) (hfinal : stored.state ≠ intent) : t.journal requestId = some stored := by
  cases e with
  | claim rid fingerprint serialized =>
    rcases hx with ⟨rfl, -⟩ | ⟨row, -, rfl, -⟩ | ⟨journal, hclaim, rfl, -⟩
    · exact hs
    · exact hs
    · obtain ⟨hnone, rfl⟩ := claimIntent_inserted hclaim
      refine (Function.update_of_ne ?_ ..).trans hs
      rintro rfl
      rw [hnone] at hs
      cases hs
  | finish rid state serialized =>
    rcases hx with ⟨rfl, -⟩ | ⟨journal, hset, rfl, -⟩
    · exact hs
    · obtain ⟨old, hold_, hintent, rfl⟩ := setTerminal_written hset
      refine (Function.update_of_ne ?_ ..).trans hs
      rintro rfl
      rw [hold_] at hs
      cases hs
      exact hfinal hintent
  | createStage name =>
    rcases hx with ⟨rfl, -⟩ | ⟨file, -, -, -, rfl⟩ <;> exact hs
  | write file bytes =>
    obtain ⟨n, -, -, rfl⟩ := hx
    exact hs
  | link stage name =>
    rcases hx with ⟨rfl, -⟩ | ⟨file, -, -, -, rfl⟩ <;> exact hs
  | unlinkStage name => rcases hx with rfl | rfl <;> exact hs
  | lookup rid =>
    obtain ⟨rfl, -⟩ := hx
    exact hs
  | readArtifact name =>
    obtain ⟨rfl, -⟩ := hx
    exact hs
  | _ =>
    obtain rfl : t = s := hx
    exact hs

/-- A name that an effect makes visible is linked by it, with the bytes its call holds. -/
theorem created_step (ho : Owned s log) (ha : ∃ c, Allowed pk assess c (history i log) e) (hx : act pk s e t r)
    {name : String} {file : ℕ} (hv : t.visible name = some file) : s.visible name = some file ∨
      ∃ stage r' bytes, (⟨e, r⟩ : (e : Effect) × Answer e) = ⟨.link stage name, r'⟩ ∧
        Linked t (history i log) stage name file bytes := by
  obtain ⟨c, ha⟩ := ha
  cases e with
  | claim requestId fingerprint serialized =>
    rcases hx with ⟨rfl, -⟩ | ⟨row, -, rfl, -⟩ | ⟨journal, -, rfl, -⟩ <;> exact .inl hv
  | finish requestId state serialized =>
    rcases hx with ⟨rfl, -⟩ | ⟨journal, -, rfl, -⟩ <;> exact .inl hv
  | createStage _ => rcases hx with ⟨rfl, -⟩ | ⟨_, -, -, -, rfl⟩ <;> exact .inl hv
  | write _ _ =>
    obtain ⟨_, -, -, rfl⟩ := hx
    exact .inl hv
  | link stage n =>
    rcases hx with ⟨rfl, -⟩ | ⟨found, hstaged, -, -, rfl⟩
    · exact .inl hv
    · rcases update_some hv with ⟨rfl, rfl⟩ | ⟨-, hv'⟩
      · obtain ⟨a⟩ := ha
        have hfile := ho.staged a.holds
        rw [hstaged] at hfile
        cases hfile
        exact .inr ⟨stage, r, _, rfl, a.holds, hv, ho.written a.holds rfl⟩
      · exact .inl hv'
  | unlinkStage _ => rcases hx with rfl | rfl <;> exact .inl hv
  | lookup _ =>
    obtain ⟨rfl, -⟩ := hx
    exact .inl hv
  | readArtifact _ =>
    obtain ⟨rfl, -⟩ := hx
    exact .inl hv
  | _ =>
    obtain rfl : t = s := hx
    exact .inl hv

theorem eq_snoc {α : Type} {before after log : List α} {m n : α} (h : log ++ [n] = before ++ m :: after) :
    (after = [] ∧ log = before ∧ n = m) ∨ ∃ rest, after = rest ++ [n] ∧ log = before ++ m :: rest := by
  rcases List.eq_nil_or_concat after with rfl | ⟨rest, last, rfl⟩
  · obtain ⟨h₁, h₂⟩ := List.append_inj' h rfl
    exact .inl ⟨rfl, h₁, (List.cons.inj h₂).1⟩
  · rw [List.concat_eq_append, ← List.cons_append, ← List.append_assoc] at h
    obtain ⟨h₁, h₂⟩ := List.append_inj' h rfl
    exact .inr ⟨rest, by rw [List.concat_eq_append, (List.cons.inj h₂).1], h₁⟩

theorem recorded_step (hrec : Recorded s log) (ha : ∃ c, Allowed pk assess c (history i log) e) (hx : act pk s e t r) :
    Recorded t (log ++ [(i, ⟨e, r⟩)]) := by
  have hgrows : Grows s t := grows_step hrec.owned ha hx
  refine ⟨owned_step hrec.owned ha hx, ?_, ?_, ?_, ?_⟩
  · intro name file hv
    rcases created_step hrec.owned ha hx hv with hv' | ⟨stage, r', bytes, he, hlinked⟩
    · obtain ⟨before, j, stage, r', after, bytes, rfl, hlinked⟩ := hrec.created hv'
      exact ⟨before, j, stage, r', after ++ [(i, ⟨e, r⟩)], bytes, by simp, hlinked.grows hgrows⟩
    · exact ⟨log, i, stage, r', [], bytes, by rw [he], hlinked⟩
  · intro before j stage name after hlog
    rcases eq_snoc hlog with ⟨-, rfl, hlast⟩ | ⟨rest, -, hrest⟩
    · cases hlast
      have hv : ∃ file, t.visible name = some file ∧ s.visible name = none := by
        rcases hx with ⟨-, h | ⟨h, -⟩⟩ | ⟨file, -, hfree, -, rfl⟩
        · cases h
        · cases h
        · exact ⟨file, Function.update_self .., hfree⟩
      obtain ⟨file, hv, hfree⟩ := hv
      rcases created_step hrec.owned ha hx hv with hv' | ⟨stage', r', bytes, he, hlinked⟩
      · rw [hfree] at hv'
        cases hv'
      · cases he
        exact ⟨file, bytes, hlinked⟩
    · obtain ⟨file, bytes, hlinked⟩ := hrec.linked hrest
      exact ⟨file, bytes, hlinked.grows hgrows⟩
  · intro j name file bytes hm
    rcases List.mem_append.1 hm with hm | hm
    · obtain ⟨hv, hc⟩ := hrec.read hm
      obtain ⟨hv', hc'⟩ := hgrows hv
      exact ⟨hv', hc'.trans hc⟩
    · cases List.mem_singleton.1 hm
      rcases hx with ⟨rfl, h | ⟨found, hv, h⟩⟩
      · cases h
      · cases h
        exact ⟨hv, rfl⟩
  · intro j requestId stored hm hfinal
    rcases List.mem_append.1 hm with hm | hm
    · exact final_step hx (hrec.saved hm hfinal) hfinal
    · cases List.mem_singleton.1 hm
      rcases hx with ⟨rfl, h | h⟩
      · cases h
      · exact (Option.some.inj h).symm

theorem owned_empty : Owned Root.empty [] := by
  have hnone : ∀ {i g}, holding (history i ([] : Log Effect Answer)) ≠ some g := fun h => nomatch h
  constructor
  · intro i g h
    exact absurd h hnone
  · intro i g b h
    exact absurd h hnone
  · intro i j g g' h
    exact absurd h hnone
  · intro n m file h
    cases h
  · intro n file i g h
    cases h

theorem recorded_empty : Recorded Root.empty [] where
  owned := owned_empty
  created h := nomatch h
  linked h := absurd h (by simp)
  read h := nomatch h
  saved h := nomatch h

end Logged

/-! ## The theorem -/

section Runs
variable {assess : Json → Json → Run Json} {w w' : PublicationWorld}

theorem recorded_run (h : Reachable pk assess w) : Recorded w.shared.1 w.shared.2 := by
  refine inv_along (I := Recorded) (fun c => release_guarded pk assess c) recorded_step ?_ .refl recorded_empty h
  intro s t log hrec he
  obtain rfl : t = s := he
  exact hrec

/-- What is visible in a reachable world stays so, with its contents, whatever calls do. -/
theorem grows_run (h : Reachable pk assess w) (hs : Released pk assess w w') : Grows w.shared.1 w'.shared.1 := by
  have hall : Recorded w'.shared.1 w'.shared.2 ∧ Grows w.shared.1 w'.shared.1 := by
    refine inv_along (I := fun s log => Recorded s log ∧ Grows w.shared.1 s) (fun c => release_guarded pk assess c)
      ?_ ?_ h ⟨recorded_run h, fun hv => ⟨hv, rfl⟩⟩ hs
    · intro i s log e t r hrec ha hx
      refine ⟨recorded_step hrec.1 ha hx, fun hv => ?_⟩
      obtain ⟨hv', hc⟩ := hrec.2 hv
      obtain ⟨hv'', hc'⟩ := grows_step hrec.1.owned ha hx hv'
      exact ⟨hv'', hc'.trans hc⟩
    · intro s t log hrec he
      obtain rfl : t = s := he
      exact hrec
  intro name file hv
  exact hall.2 hv

/-- Every link stands behind a decision of its call that establishes what it publishes. -/
theorem link_established (hpk : Canonicalizes pk) (h : Reachable pk assess w) {before after : Log Effect Answer} {i : ℕ}
    {stage name : String} {r : LinkAnswer} (hlog : w.shared.2 = before ++ (i, ⟨.link stage name, r⟩) :: after) :
    ∃ c, (w.procs i).call = some c ∧
      ∃ a : Creation pk assess c stage name (history i before), Established a := by
  obtain ⟨c, hc, ⟨a⟩⟩ := occurs_run (release_guarded pk assess) h hlog
  exact ⟨c, hc, a, a.established hpk⟩

variable (pk assess) in
/-- A visible file with the link that made it: its call, the request it is for, and the bytes that the
    call's decision established. -/
def Made (w : PublicationWorld) (i : ℕ) (requestId name : String) (file : ℕ) : Prop :=
  ∃ before after stage r c, ∃ a : Creation pk assess c stage name (history i before),
    w.shared.2 = before ++ (i, ⟨.link stage name, r⟩) :: after ∧ (w.procs i).call = some c ∧
      a.requestId = requestId ∧ name = safeName pk requestId ∧ w.shared.1.content file = a.html ∧ Established a

theorem made_of_linked (hpk : Canonicalizes pk) (h : Reachable pk assess w) {before after : Log Effect Answer} {i : ℕ}
    {stage name : String} {r : LinkAnswer} {file : ℕ} {bytes : Bytes}
    (hlog : w.shared.2 = before ++ (i, ⟨.link stage name, r⟩) :: after)
    (hl : Linked w.shared.1 (history i before) stage name file bytes) : ∃ requestId, Made pk assess w i requestId name file := by
  obtain ⟨c, hc, a, ha⟩ := link_established hpk h hlog
  refine ⟨a.requestId, before, after, stage, r, c, a, hlog, hc, rfl, a.named, ?_, ha⟩
  have hheld := a.holds.symm.trans hl.held
  simp only [Option.some.injEq, Holding.mk.injEq] at hheld
  exact hl.content.trans hheld.2.2.symm

/-- The acknowledged links to the visible name of a request. -/
def links (pk : Packages) (requestId : String) : ℕ × ((e : Effect) × Answer e) → Bool
  | (_, ⟨.link _ name, .linked⟩) => name = safeName pk requestId
  | _ => false

/-- What holds of any releases on one root. -/
structure OneOutput (pk : Packages) (assess : Json → Json → Run Json) (w : PublicationWorld) : Prop where
  /-- A link for a request succeeds at most once. -/
  once : ∀ requestId, w.shared.2.countP (links pk requestId) ≤ 1
  /-- No visible file is overwritten or removed, in any continuation. -/
  lasting : ∀ {w' name file}, Released pk assess w w' → w.shared.1.visible name = some file →
    w'.shared.1.visible name = some file ∧ w'.shared.1.content file = w.shared.1.content file
  /-- Every visible file was made by a call for a request, under that request's name. -/
  created : ∀ {name file}, w.shared.1.visible name = some file → ∃ i requestId, Made pk assess w i requestId name file
  /-- A confirmed report has its file and its persisted row. -/
  confirmed : ∀ {i c report}, w.procs i = .live c (.ret (.ok report)) → report.state = "LOCAL_OUTPUT_CONFIRMED" →
    ∃ preflight requestId file stored, report.preflight = some preflight ∧
      preflight.measurements.item "request_id" = .str requestId ∧
      w.shared.1.visible (safeName pk requestId) = some file ∧
      (∃ requestId', Made pk assess w i requestId' (safeName pk requestId) file) ∧
      w.shared.1.journal requestId = some stored ∧ stored.state = "local_output_confirmed"

theorem linked_once (h : Reachable pk assess w) (requestId : String) : w.shared.2.countP (links pk requestId) ≤ 1 := by
  refine once_run (links pk) (fun s id => s.visible (safeName pk id) = none) ?_ ?_ ?_ h requestId
  · intro i s e t r id hx hl
    cases e with
    | link stage name =>
      cases r with
      | linked =>
        obtain rfl : name = safeName pk id := of_decide_eq_true hl
        rcases hx with ⟨-, h | ⟨h, -⟩⟩ | ⟨file, -, hfree, -, rfl⟩
        · cases h
        · cases h
        · refine ⟨hfree, ?_⟩
          dsimp only
          rw [Function.update_self]
          exact Option.some_ne_none file
      | _ => cases hl
    | _ => cases hl
  · intro i s e t r id hx ht
    cases e with
    | claim _ _ _ => rcases hx with ⟨rfl, -⟩ | ⟨_, -, rfl, -⟩ | ⟨_, -, rfl, -⟩ <;> exact ht
    | finish _ _ _ => rcases hx with ⟨rfl, -⟩ | ⟨_, -, rfl, -⟩ <;> exact ht
    | createStage _ => rcases hx with ⟨rfl, -⟩ | ⟨_, -, -, -, rfl⟩ <;> exact ht
    | write _ _ =>
      obtain ⟨_, -, -, rfl⟩ := hx
      exact ht
    | link stage name =>
      rcases hx with ⟨rfl, -⟩ | ⟨file, -, hfree, -, rfl⟩
      · exact ht
      · by_cases hn : safeName pk id = name
        · exact hn ▸ hfree
        · dsimp only at ht
          rwa [Function.update_of_ne hn] at ht
    | unlinkStage _ => rcases hx with rfl | rfl <;> exact ht
    | lookup _ => exact hx.1 ▸ ht
    | readArtifact _ => exact hx.1 ▸ ht
    | _ =>
      obtain rfl : t = s := hx
      exact ht
  · intro s t id he ht
    obtain rfl : t = s := he
    exact ht

def sampleCall : Call where
  config := ⟨.null, "policy", "1", "", .null, .null, "collector", "reviewer", "", "publisher"⟩
  candidate := .null
  trust := .null
  approval := .null
  publisher := ⟨"local", "", "", "publisher"⟩
  afterSnapshot := false
  beforePublish := false

end Runs
end VapEvidence.Publication
