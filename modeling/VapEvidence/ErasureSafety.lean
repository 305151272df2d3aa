import VapEvidence.ErasureProvider
import VapEvidence.IncidentEnvelopes

set_option autoImplicit false

/-!
# One removal for each request

What `delete` has done before it calls `os.unlink` and when it returns, and from it
what holds of any number of calls on one journal.
-/
namespace VapEvidence.Erasure
open Json Incident Interleaving

def isUnlink : Effect → Prop
  | .unlink _ => True
  | _ => False

def isStat : Effect → Prop
  | .statFile _ | .lstat _ | .fstatDirectory => True
  | _ => False

/-- No call of `os.unlink`. -/
def Quiet (h : History Effect Answer) : Prop := ∀ o ∈ h, ¬ isUnlink o.1

theorem Quiet.append {h d : History Effect Answer} (hh : Quiet h) (hd : Quiet d) : Quiet (h ++ d) :=
  fun o ho => (List.mem_append.1 ho).elim (hh o) (hd o)

/-- What stands behind the call of `os.unlink` after the effects of `h`. -/
structure Authorisation (pk : Packages) (c : Call) (name : String) (h : History Effect Answer) where
  owned : Json
  context : TaskContext
  before : History Effect Answer
  measuring : History Effect Answer
  identity : Option (List ℤ)
  finalAt : Json
  unlinkedAt : Json
  current : TaskContext
  checking : History Effect Answer
  captured : capture pk c.task = .ok owned
  historical : historicalContext pk owned c.pins = .ok context
  object : objectName pk context.manifest = .ok name
  digested : ∃ task, capture pk owned = .ok task ∧ digest pk task = .ok context.taskSha256
  split : h = before ++ measuring ++ [⟨.clock, some unlinkedAt⟩] ++ checking
  intent : ⟨.claim c.pins context.requestId context.taskSha256 owned, .ok none⟩ ∈ before
  measured : Prog.Path (measure pk name) measuring (.ret (.ok (expected context.manifest, identity)))
  timely : checkTime c finalAt unlinkedAt = .ok unlinkedAt
  accepted : validateTask pk owned c.pins unlinkedAt = .ok current
  checked : ∀ o ∈ checking, isStat o.1
  first : Quiet h

/-- States of results that promise nothing was removed by their call. -/
def inert : List String := ["REPLAY_NO_ACTION", "REQUEST_ID_CONFLICT", "BLOCKED", "ACKNOWLEDGED_ONLY"]

theorem unknown_not_inert : "OUTCOME_UNKNOWN" ∉ inert := by decide

theorem confirmed_not_inert : "LOCAL_UNLINK_CONFIRMED" ∉ inert := by decide

/-- What a result of a request says of its call's effects. -/
structure Truthful (c : Call) (requestId : String) (h : History Effect Answer) (result : Result) : Prop where
  confirmed : result.state = "LOCAL_UNLINK_CONFIRMED" →
    ⟨.finish c.pins requestId "LOCAL_UNLINK_CONFIRMED" result.toJson, .ok ()⟩ ∈ h
  idle : result.state ∈ inert → Quiet h
  untouched : result.attempted = false → Quiet h

/-! ## Pieces without a removal -/

section Pieces
variable (pk : Packages) (c : Call)

theorem perform_uses {α : Type} {A : Effect → Prop} {e : Effect} (he : A e) (read : Answer e → Option α) :
    (perform e read).Uses A := ⟨he, fun _ => trivial⟩

theorem attempt_uses {A : Effect → Prop} {e : Effect} (he : A e) (done : Answer e → Bool) :
    (attempt e done).Uses A := perform_uses he _

theorem hook_uses {A : Effect → Prop} {e : Effect} (he : A e) (given : Bool) (done : Answer e → Bool) :
    (hook given e done).Uses A := by
  unfold hook
  split_ifs
  · exact attempt_uses he done
  · trivial

theorem get_quiet (requestId : String) : (get pk c requestId).Uses fun e => ¬ isUnlink e := by
  refine (perform_uses (fun h => h) _).andThen fun r => ?_
  cases r <;> trivial

theorem currentState_quiet (requestId : String) : (currentState pk c requestId).Uses fun e => ¬ isUnlink e := by
  refine (get_quiet pk c requestId).bind fun r => ?_
  rcases r with _ | _ | _ <;> trivial

theorem replayIfClaimed_quiet (result : Result) (context : TaskContext) :
    (replayIfClaimed pk c result context).Uses fun e => ¬ isUnlink e := by
  refine (get_quiet pk c context.requestId).bind fun r => ?_
  rcases r with _ | _ | _ <;> trivial

theorem time_uses {A : Effect → Prop} (hA : A .clock) (earliest : Json) : (time c earliest).Uses A :=
  (perform_uses hA _).andThen fun _ => trivial

theorem currentTask_uses {A : Effect → Prop} (hA : A .clock) (owned earliest : Json) :
    (currentTask pk c owned earliest).Uses A := (time_uses c hA earliest).andThen fun _ => trivial

theorem readAll_quiet (n : ℕ) : ∀ (total : ℕ) (chunks : Bytes), maxObject + 1 - total = n →
    (readAll total chunks).Uses fun e => ¬ isUnlink e := by
  induction n using Nat.strong_induction_on with
  | _ n ih =>
    intro total chunks hn
    rw [readAll]
    refine ⟨fun h => h, fun r => ?_⟩
    cases r with
    | none => trivial
    | some chunk =>
      dsimp only
      split_ifs with hc hm
      · trivial
      · trivial
      · have hpos := List.length_pos_of_ne_nil hc
        exact ih _ (by omega) _ _ rfl

theorem measure_quiet (name : String) : (measure pk name).Uses fun e => ¬ isUnlink e := by
  have hopened : (measureOpened pk name).Uses fun e => ¬ isUnlink e := by
    refine (perform_uses (fun h => h) _).andThen fun before => ?_
    refine Prog.Uses.andThen (p := ensure _) trivial fun _ => ?_
    refine (readAll_quiet _ 0 [] rfl).andThen fun content => ?_
    refine (perform_uses (fun h => h) _).andThen fun after => ?_
    refine Prog.Uses.andThen (p := ensure _) trivial fun _ => ?_
    refine (perform_uses (fun h => h) _).andThen fun current => ?_
    exact Prog.Uses.andThen (p := ensure _) trivial fun _ => trivial
  refine ⟨fun h => h, fun r => ?_⟩
  cases r with
  | notFound => trivial
  | failed => trivial
  | descriptor =>
    refine hopened.bind fun result => ?_
    refine (attempt_uses (fun h => h) _).bind fun closed => ?_
    cases closed <;> trivial

theorem checkNamespace_stats : (checkNamespace c).Uses isStat := by
  refine (perform_uses trivial _).andThen fun root => ?_
  refine Prog.Uses.andThen (p := ensure _) trivial fun _ => ?_
  refine (perform_uses trivial _).andThen fun space => ?_
  refine Prog.Uses.andThen (p := ensure _) trivial fun _ => ?_
  exact (perform_uses trivial _).andThen fun opened => trivial

theorem isStat.quiet {e : Effect} (h : isStat e) : ¬ isUnlink e := by
  cases e <;> simp_all [isStat, isUnlink]

theorem enterDirectory_quiet : (enterDirectory c).Uses fun e => ¬ isUnlink e := by
  refine (perform_uses (fun h => h) _).andThen fun info => ?_
  split_ifs
  · trivial
  · exact (attempt_uses (fun h => h) _).andThen fun _ => trivial

theorem afterRemoval_quiet (context : TaskContext) (name : String) (measurement unlinkedAt : Json) :
    (afterRemoval pk c context name measurement unlinkedAt).Uses fun e => ¬ isUnlink e := by
  refine (hook_uses (fun h => h) _ _).andThen fun _ => ?_
  refine (attempt_uses (fun h => h) _).andThen fun _ => ?_
  refine (measure_quiet pk name).andThen fun ⟨absence, _⟩ => ?_
  refine Prog.Uses.andThen (p := ensure _) trivial fun _ => ?_
  refine ((checkNamespace_stats c).mono fun _ => isStat.quiet).andThen fun _ => ?_
  exact (time_uses c (fun h => h) _).andThen fun _ => trivial

end Pieces

/-! ## One call -/

section Calls
variable (pk : Packages) (c : Call)

/-- What stands before an effect of a call. -/
def Allowed (h : History Effect Answer) : Effect → Prop
  | .unlink name => Nonempty (Authorisation pk c name h)
  | _ => True

theorem allowed_quiet (e : Effect) (he : ¬ isUnlink e) (h : History Effect Answer) : Allowed pk c h e := by
  cases e <;> simp_all [Allowed, isUnlink]

theorem finishRow_quiet (context : TaskContext) (state : String) (result : Json) :
    (finishRow pk c context state result).Uses fun e => ¬ isUnlink e := by
  refine Prog.Uses.andThen (p := .ret _) trivial fun _ => ?_
  refine Prog.Uses.andThen (p := ensure _) trivial fun _ => ?_
  refine (Prog.Uses.single fun h => h).andThen fun _ => ?_
  refine (get_quiet pk c context.requestId).andThen fun row => ?_
  cases row <;> trivial

/-- A row comes back from `_finish` only after the commit. -/
theorem finishRow_commits (context : TaskContext) (state : String) (result : Json) :
    Prog.Along (fun _ _ => True)
      (fun h r => ∀ row, r = .ok row → ⟨.finish c.pins context.requestId state result, .ok ()⟩ ∈ h)
      (finishRow pk c context state result) [] := by
  unfold finishRow ensure
  refine Prog.Along.andThen ?_
  cases validateResult result with
  | error e => exact fun _ h => nomatch h
  | ok _ =>
    refine Prog.Along.andThen ?_
    split_ifs
    · refine ⟨trivial, fun r => ?_⟩
      cases r with
      | error e => exact fun _ h => nomatch h
      | ok _ =>
        refine Prog.Along.after_andThen (fun _ _ _ => trivial) (get_quiet pk c context.requestId) ?_ ?_
        · intro row d _ _
          cases row with
          | none => exact fun _ h => nomatch h
          | some row => exact fun _ _ => by simp
        · exact fun _ _ _ _ h => nomatch h
    · exact fun _ h => nomatch h

/-- `_claim` says CLAIMED only where it inserted the intent. -/
theorem claimRow_inserts (context : TaskContext) (owned : Json) :
    Prog.Along (fun _ _ => True)
      (fun h r => ∀ row, r = .ok ("CLAIMED", row) →
        ⟨.claim c.pins context.requestId context.taskSha256 owned, .ok none⟩ ∈ h)
      (claimRow pk c context owned) [] := by
  unfold claimRow ensure
  refine Prog.Along.andThen ?_
  cases historicalContext pk owned c.pins with
  | error e => exact fun _ h => nomatch h
  | ok own =>
    refine Prog.Along.andThen ?_
    split_ifs
    · refine ⟨trivial, fun r => ?_⟩
      cases r with
      | error e => exact fun _ h => nomatch h
      | ok found =>
        cases found with
        | some row =>
          intro row' h
          simp only [Except.ok.injEq, Prod.mk.injEq] at h
          split_ifs at h <;> simp at h
        | none =>
          refine Prog.Along.after_andThen (fun _ _ _ => trivial) (get_quiet pk c context.requestId) ?_ ?_
          · intro row d _ _
            cases row with
            | none => exact fun _ h => nomatch h
            | some row => exact fun _ _ => by simp
          · exact fun _ _ _ _ h => nomatch h
    · exact fun _ h => nomatch h

theorem claimRow_quiet (context : TaskContext) (owned : Json) :
    (claimRow pk c context owned).Uses fun e => ¬ isUnlink e := by
  refine Prog.Uses.andThen (p := .ret _) trivial fun own => ?_
  refine Prog.Uses.andThen (p := ensure _) trivial fun _ => ?_
  refine (Prog.Uses.single fun h => h).andThen fun found => ?_
  cases found with
  | some row => trivial
  | none =>
    refine (get_quiet pk c context.requestId).andThen fun row => ?_
    cases row <;> trivial

theorem saved_quiet (result : Result) (context : TaskContext) :
    ((finishRow pk c context result.state result.toJson).andThen fun row =>
      .ret (persisted pk c result context row)).Uses fun e => ¬ isUnlink e :=
  (finishRow_quiet pk c context _ _).andThen fun _ => trivial

theorem saved_commits (result : Result) (context : TaskContext) :
    Prog.Along (fun _ _ => True)
      (fun h r => ∀ u, r = .ok u → ⟨.finish c.pins context.requestId result.state result.toJson, .ok ()⟩ ∈ h)
      ((finishRow pk c context result.state result.toJson).andThen fun row =>
        .ret (persisted pk c result context row)) [] := by
  refine (Prog.Along.checked ((finishRow_commits pk c context _ _).mono fun h x hx row => hx row)).mono ?_
  intro h r hr u hu
  obtain ⟨row, hrow, -⟩ := hr u hu
  exact hrow

variable {pk c}

/-- What `_persist` needs of a result, and what it keeps of one. -/
theorem persist_along {result : Result} {context : TaskContext} {h : History Effect Answer}
    (huntouched : result.attempted = false → Quiet h) (hidle : result.state ∈ inert → Quiet h) :
    Prog.Along (Allowed pk c) (Truthful c context.requestId) (persist pk c result context) h := by
  unfold persist
  generalize hr : { result with journalState := result.state } = settled
  have hstate : settled.state = result.state := hr ▸ rfl
  have hattempted : settled.attempted = result.attempted := hr ▸ rfl
  refine Prog.Along.after (allowed_quiet pk c) (saved_quiet pk c settled context) fun saved d hd hquiet => ?_
  rw [← hattempted] at huntouched
  rw [← hstate] at hidle
  clear hr
  cases saved with
  | error e =>
    refine Prog.Along.after (allowed_quiet pk c) (currentState_quiet pk c _) fun state d' _ hquiet' => ?_
    refine Truthful.mk (fun hs => ?_) (fun hs => ?_) (fun ha => ((huntouched ha).append hquiet).append hquiet')
    · exact absurd (show "OUTCOME_UNKNOWN" = "LOCAL_UNLINK_CONFIRMED" from hs) (by decide)
    · exact absurd hs unknown_not_inert
  | ok _ =>
    refine Truthful.mk (fun hs => ?_) (fun hs => (hidle hs).append hquiet) (fun ha => (huntouched ha).append hquiet)
    have hcommit := (saved_commits pk c settled context).path hd () rfl
    rw [hs] at hcommit
    exact List.mem_append_right h hcommit

theorem checkTime_value {earliest value at_ : Json} (h : checkTime c earliest value = .ok at_) : at_ = value := by
  unfold checkTime at h
  obtain ⟨_, -, h⟩ := bind_ok h
  obtain ⟨_, -, h⟩ := bind_ok h
  obtain ⟨_, -, h⟩ := bind_ok h
  obtain ⟨_, -, h⟩ := bind_ok h
  obtain ⟨_, -, h⟩ := bind_ok h
  cases h
  rfl

/-- A time of the last authorization check was read from the clock and accepted. -/
theorem currentTask_accepts (owned earliest : Json) :
    Prog.Along (fun _ _ => True)
      (fun h r => ∀ at_, r = .ok at_ → h = [⟨.clock, some at_⟩] ∧ checkTime c earliest at_ = .ok at_ ∧
        ∃ current, validateTask pk owned c.pins at_ = .ok current)
      (currentTask pk c owned earliest) [] := by
  refine Prog.Along.andThen (Prog.Along.andThen ⟨trivial, fun value => ?_⟩)
  cases value with
  | none => exact fun _ h => nomatch h
  | some value =>
    simp only [Prog.Along]
    cases htime : checkTime c earliest value with
    | error e => exact fun _ h => nomatch h
    | ok at_ =>
      obtain rfl := checkTime_value htime
      intro at' h
      cases hcurrent : validateTask pk owned c.pins at_ with
      | error e =>
        rw [hcurrent] at h
        cases h
      | ok current =>
        rw [hcurrent] at h
        cases h
        exact ⟨rfl, htime, current, hcurrent⟩

/-- The last checks succeed only with everything that the removal needs. -/
theorem finalCheck_along {owned : Json} {context : TaskContext} {name : String} {identity : Option (List ℤ)}
    {acknowledgedAt : Json} {h : History Effect Answer} (hquiet : Quiet h) (hcapture : capture pk c.task = .ok owned)
    (hcontext : historicalContext pk owned c.pins = .ok context) (hname : objectName pk context.manifest = .ok name)
    (hclaim : ⟨.claim c.pins context.requestId context.taskSha256 owned, .ok none⟩ ∈ h) :
    Prog.Along (Allowed pk c) (fun h r => Quiet h ∧ ∀ at_, r = .ok at_ → Nonempty (Authorisation pk c name h))
      (finalCheck pk c owned context name identity acknowledgedAt) h := by
  have hstats : ∀ e, isStat e → ∀ h, Allowed pk c h e := fun e he h => allowed_quiet pk c e he.quiet h
  refine Prog.Along.after_andThen (allowed_quiet pk c) (currentTask_uses pk c (fun h => h) _ _) ?_ ?_
  · intro finalAt d₁ _ q₁
    refine Prog.Along.after_andThen (allowed_quiet pk c) (measure_quiet pk name) ?_ ?_
    · rintro ⟨measured, finalIdentity⟩ d₂ hmeasure q₂
      have hq₂ := (hquiet.append q₁).append q₂
      unfold ensure
      refine Prog.Along.andThen ?_
      split_ifs with hmatch
      · refine Prog.Along.after_andThen (allowed_quiet pk c) (currentTask_uses pk c (fun h => h) _ _) ?_ ?_
        · intro unlinkedAt d₃ htask q₃
          obtain ⟨rfl, htime, current, haccepted⟩ := (currentTask_accepts owned finalAt).path htask unlinkedAt rfl
          rw [Bool.and_eq_true, decide_eq_true_eq, decide_eq_true_eq] at hmatch
          obtain ⟨rfl, rfl⟩ := hmatch
          refine (Prog.Along.piece hstats ?_ _).mono ?_
          · refine (perform_uses trivial _).andThen fun seen => ?_
            exact Prog.Uses.andThen (p := .ret _) trivial fun _ => (checkNamespace_stats c).andThen fun _ => trivial
          · rintro _ r ⟨d₄, rfl, -, hstat⟩
            have hq₄ := (hq₂.append q₃).append fun o ho => (hstat o ho).quiet
            exact ⟨hq₄, fun _ _ => ⟨{
              owned, context, before := h ++ d₁, measuring := d₂, identity := finalIdentity, finalAt, unlinkedAt
              current, checking := d₄, captured := hcapture, historical := hcontext, object := hname
              digested := historicalContext_sha256 hcontext, split := rfl
              intent := List.mem_append_left d₁ hclaim, measured := hmeasure, timely := htime
              accepted := haccepted, checked := hstat, first := hq₄ }⟩⟩
        · exact fun e d hd => ⟨hq₂.append hd, fun _ h => nomatch h⟩
      · exact ⟨hq₂, fun _ h => nomatch h⟩
    · exact fun e d hd => ⟨(hquiet.append q₁).append hd, fun _ h => nomatch h⟩
  · exact fun e d hd => ⟨hquiet.append hd, fun _ h => nomatch h⟩

/-- The calls on a row that this call claimed. -/
theorem claimed_along {owned : Json} {context : TaskContext} {name : String} {measurement proposedAt : Json}
    {identity : Option (List ℤ)} {h : History Effect Answer} (hquiet : Quiet h)
    (hcapture : capture pk c.task = .ok owned) (hcontext : historicalContext pk owned c.pins = .ok context)
    (hname : objectName pk context.manifest = .ok name)
    (hclaim : ⟨.claim c.pins context.requestId context.taskSha256 owned, .ok none⟩ ∈ h) :
    Prog.Along (Allowed pk c) (Truthful c context.requestId)
      (claimed pk c owned context name measurement identity proposedAt) h := by
  unfold claimed
  refine Prog.Along.after (allowed_quiet pk c)
    ((time_uses c (fun h => h) _).andThen (f := fun _ => .ret _) fun _ => trivial) fun acked d₁ _ q₁ => ?_
  have hq₁ := hquiet.append q₁
  cases acked with
  | error e => exact persist_along (fun _ => hq₁) (fun _ => hq₁)
  | ok acked =>
    obtain ⟨acknowledgedAt, ack⟩ := acked
    dsimp only
    split_ifs
    · exact persist_along (fun _ => hq₁) (fun _ => hq₁)
    refine Prog.Along.after (allowed_quiet pk c) (hook_uses (fun h => h) _ _) fun hooked d₂ _ q₂ => ?_
    have hq₂ := hq₁.append q₂
    cases hooked with
    | error e => exact persist_along (fun _ => hq₂) (fun _ => hq₂)
    | ok _ =>
      refine Prog.Along.bind ((finalCheck_along hq₂ hcapture hcontext hname
        (List.mem_append_left _ (List.mem_append_left _ hclaim))).mono ?_)
      rintro h' checked ⟨hq₃, hchecked⟩
      cases checked with
      | error e => exact persist_along (fun _ => hq₃) (fun _ => hq₃)
      | ok unlinkedAt =>
        refine ⟨hchecked unlinkedAt rfl, fun removed => ?_⟩
        have hfinish : ∀ d outcome, Prog.Along (Allowed pk c) (Truthful c context.requestId)
            (finishRemoval pk c { blocked with journalState := intent, acknowledgement := ack, attempted := true }
              context outcome) d := by
          intro d outcome
          rcases outcome with _ | ⟨receipt, attestation⟩
          · exact persist_along (fun ha => nomatch ha) (fun hs => absurd hs unknown_not_inert)
          · exact persist_along (fun ha => nomatch ha) (fun hs => absurd hs confirmed_not_inert)
        cases removed with
        | false => exact hfinish _ (.error .other)
        | true =>
          exact Prog.Along.after (allowed_quiet pk c) (afterRemoval_quiet pk c context name measurement unlinkedAt)
            fun outcome d _ _ => hfinish _ _

theorem replay_state (result : Result) (row : Row) (fingerprint : String) :
    (replay result row fingerprint).state ∈ inert := by
  unfold replay
  split_ifs <;> simp [inert]

theorem inert_unconfirmed {s : String} (h : s ∈ inert) : s ≠ "LOCAL_UNLINK_CONFIRMED" := by
  rintro rfl
  exact confirmed_not_inert h

theorem truthful_inert {requestId : String} {result : Result} {h : History Effect Answer} (hq : Quiet h)
    (hs : result.state ∈ inert) : Truthful c requestId h result :=
  ⟨fun h => absurd h (inert_unconfirmed hs), fun _ => hq, fun _ => hq⟩

theorem truthful_blocked {requestId : String} {result : Result} {h : History Effect Answer} (hq : Quiet h)
    (hs : result.state = "BLOCKED") : Truthful c requestId h result :=
  truthful_inert hq (by rw [hs]; decide)

theorem checkClaim_claimed {context : TaskContext} {status : String} {row : Row}
    (h : checkClaim pk c context status row = .ok none) : status = "CLAIMED" := by
  unfold checkClaim at h
  obtain ⟨_, -, h⟩ := bind_ok h
  obtain ⟨_, -, h⟩ := bind_ok h
  obtain ⟨_, -, h⟩ := bind_ok h
  by_contra hs
  dsimp only at h
  rw [if_neg hs] at h
  obtain ⟨_, -, h⟩ := bind_ok h
  cases h

theorem refuse_along {reason : String} {context : TaskContext} {h : History Effect Answer} (hq : Quiet h) :
    Prog.Along (Allowed pk c) (Truthful c context.requestId) (refuse pk c reason context) h := by
  refine Prog.Along.bind ?_
  unfold replayIfClaimed
  refine Prog.Along.after (allowed_quiet pk c) (get_quiet pk c context.requestId) fun found d _ hd => ?_
  rcases found with _ | _ | row
  · exact truthful_blocked (hq.append hd) rfl
  · exact truthful_blocked (hq.append hd) rfl
  · exact truthful_inert (hq.append hd) (replay_state _ _ _)

/-- Everything inside the open directory. -/
theorem inDirectory_along {owned : Json} {context : TaskContext} {name : String} {proposedAt : Json}
    {h : History Effect Answer} (hquiet : Quiet h) (hcapture : capture pk c.task = .ok owned)
    (hcontext : historicalContext pk owned c.pins = .ok context) (hname : objectName pk context.manifest = .ok name) :
    Prog.Along (Allowed pk c) (Truthful c context.requestId) (inDirectory pk c owned context name proposedAt) h := by
  refine Prog.Along.after (allowed_quiet pk c) (measure_quiet pk name) fun measured d₁ _ q₁ => ?_
  have hq₁ := hquiet.append q₁
  cases measured with
  | error e => exact refuse_along hq₁
  | ok measured =>
    obtain ⟨measurement, identity⟩ := measured
    dsimp only
    split_ifs
    · exact refuse_along hq₁
    refine Prog.Along.after (allowed_quiet pk c)
      ((claimRow_quiet pk c context owned).andThen (f := fun _ => .ret _) fun _ => trivial) fun row d₂ hrow q₂ => ?_
    have hq₂ := hq₁.append q₂
    rcases row with _ | _ | row
    · refine Prog.Along.after (allowed_quiet pk c) (currentState_quiet pk c _) fun state d _ hd => ?_
      exact truthful_blocked (hq₂.append hd) rfl
    · have hclaim : ⟨.claim c.pins context.requestId context.taskSha256 owned, .ok none⟩ ∈ d₂ := by
        have hinserts : Prog.Along (fun _ _ => True)
            (fun h r => ∀ a, r = .ok a → a.1 = "CLAIMED" →
              ⟨.claim c.pins context.requestId context.taskSha256 owned, .ok none⟩ ∈ h)
            (claimRow pk c context owned) [] :=
          (claimRow_inserts pk c context owned).mono fun h r hr a ha hs => hr a.2 (by rw [ha, ← hs])
        obtain ⟨⟨status, row⟩, hstatus, hchecked⟩ := (Prog.Along.checked hinserts).path hrow none rfl
        exact hstatus (checkClaim_claimed hchecked)
      exact claimed_along hq₂ hcapture hcontext hname (List.mem_append_right _ hclaim)
    · exact truthful_inert hq₂ (replay_state _ _ _)

theorem unavailable_along {result : Result} {context : TaskContext} {h : History Effect Answer}
    (hresult : result.attempted = false → Quiet h) :
    Prog.Along (Allowed pk c) (Truthful c context.requestId) (unavailable pk c result context) h := by
  refine Prog.Along.after (allowed_quiet pk c) (currentState_quiet pk c _) fun state d _ hd => ?_
  refine Truthful.mk (fun hs => absurd hs ?_) (fun hs => ?_) (fun ha => (hresult ha).append hd)
  · dsimp only
    split_ifs <;> decide
  · cases ha : result.attempted with
    | false => exact (hresult ha).append hd
    | true => exact absurd hs (by simpa [ha] using unknown_not_inert)

theorem withDirectory_along {context : TaskContext} {body : Program Result} {h : History Effect Answer}
    (hquiet : Quiet h)
    (hbody : ∀ h, Quiet h → Prog.Along (Allowed pk c) (Truthful c context.requestId) body h) :
    Prog.Along (Allowed pk c) (Truthful c context.requestId) (withDirectory pk c context body) h := by
  refine Prog.Along.after (allowed_quiet pk c) (enterDirectory_quiet c) fun entered d _ hd => ?_
  cases entered with
  | error e => exact unavailable_along fun _ => hquiet.append hd
  | ok _ =>
    refine Prog.Along.bind ((hbody _ (hquiet.append hd)).mono fun h' result hresult => ?_)
    refine Prog.Along.after (allowed_quiet pk c) (attempt_uses (fun h => h) _) fun closed d' _ hd' => ?_
    cases closed with
    | error e => exact unavailable_along fun ha => (hresult.untouched ha).append hd'
    | ok _ =>
      exact ⟨fun hs => List.mem_append_left _ (hresult.confirmed hs), fun hs => (hresult.idle hs).append hd',
        fun ha => (hresult.untouched ha).append hd'⟩

variable (pk c)

/-- The request that a call's task is for, when the call gets to its first effect. -/
def Call.requestId : Option String := (prepare pk c).toOption.map fun prepared => prepared.2.1.requestId

/-- What `delete` has done when it returns or raises. -/
def Outcome (h : History Effect Answer) : Run Result → Prop
  | .error _ => Quiet h
  | .ok result => ∃ requestId, c.requestId pk = some requestId ∧ Truthful c requestId h result

theorem delete_along : Prog.Along (Allowed pk c) (Outcome pk c) (delete pk c) [] := by
  have hnil : Quiet [] := by simp [Quiet]
  unfold delete
  cases hprepare : prepare pk c with
  | error e => exact hnil
  | ok prepared =>
    obtain ⟨owned, context, name⟩ := prepared
    have hrequest : c.requestId pk = some context.requestId := by rw [Call.requestId, hprepare]; rfl
    unfold prepare at hprepare
    obtain ⟨owned', hcapture, hprepare⟩ := bind_ok hprepare
    obtain ⟨context', hcontext, hprepare⟩ := bind_ok hprepare
    obtain ⟨_, -, hprepare⟩ := bind_ok hprepare
    obtain ⟨name', hname, hprepare⟩ := bind_ok hprepare
    cases hprepare
    have hdone : ∀ {h result}, Truthful c context.requestId h result → Outcome pk c h (.ok result) :=
      fun h => ⟨_, hrequest, h⟩
    refine Prog.Along.bind ?_
    unfold replayIfClaimed
    refine Prog.Along.after (allowed_quiet pk c) (get_quiet pk c context.requestId) fun found d₁ _ q₁ => ?_
    rcases found with _ | _ | row
    · exact hdone (truthful_blocked q₁ rfl)
    · refine Prog.Along.after (allowed_quiet pk c) (currentTask_uses pk c (fun h => h) _ _) fun proposed d₂ _ q₂ => ?_
      have hq₂ := (hnil.append q₁).append q₂
      cases proposed with
      | error e => exact hdone (truthful_blocked hq₂ rfl)
      | ok proposedAt =>
        refine Prog.Along.bind ((withDirectory_along hq₂ fun h hq => ?_).mono fun _ _ => hdone)
        exact inDirectory_along hq hcapture hcontext hname
    · exact hdone (truthful_inert q₁ (replay_state _ _ _))

end Calls

/-! ## The journal -/

section Journal
variable {pk : Packages}

/-- No row disappears and no row with a result changes. -/
structure Settles (s t : Journal) : Prop where
  absent : ∀ requestId, t requestId = none → s requestId = none
  terminal : ∀ requestId stored, s requestId = some stored → stored.state ≠ intent → t requestId = some stored

theorem Settles.refl (s : Journal) : Settles s s := ⟨fun _ h => h, fun _ _ h _ => h⟩

theorem Settles.trans {s t u : Journal} (hst : Settles s t) (htu : Settles t u) : Settles s u :=
  ⟨fun r h => hst.absent r (htu.absent r h), fun r row h ht => htu.terminal r row (hst.terminal r row h ht) ht⟩

/-- A write to a row that is absent or an intent. -/
theorem Settles.update {s : Journal} {requestId : String} (row : StoredRow)
    (h : ∀ stored, s requestId = some stored → stored.state = intent) :
    Settles s (Function.update s requestId (some row)) := by
  constructor
  · intro r hr
    by_cases hr' : r = requestId
    · subst r
      simp at hr
    · rwa [Function.update_of_ne hr'] at hr
  · intro r stored hs hstate
    by_cases hr' : r = requestId
    · subst r
      exact absurd (h stored hs) hstate
    · rwa [Function.update_of_ne hr']

theorem exec_settles {i : ℕ} {s t : Journal} {e : Effect} {r : Answer e} (h : exec pk i s e t r) : Settles s t := by
  cases e with
  | lookup requestId =>
    rw [h.1]
    exact .refl s
  | claim pins requestId fingerprint snapshot =>
    rcases h with ⟨rfl, -⟩ | ⟨row, -, rfl, -⟩ | ⟨hinsert, -⟩
    · exact .refl _
    · exact .refl _
    · obtain ⟨hnone, text, rfl⟩ := claimIntent_inserted hinsert
      exact .update _ fun stored hs => by rw [hnone] at hs; cases hs
  | finish pins requestId state result =>
    rcases h with ⟨rfl, -⟩ | ⟨hset, -⟩
    · exact .refl _
    · obtain ⟨stored, text, hstored, hintent, -, rfl⟩ := setTerminal_ok hset
      refine .update _ fun stored' hs => ?_
      rw [hstored] at hs
      cases hs
      exact hintent
  | _ =>
    obtain rfl : t = s := h
    exact .refl _

/-- The commit of an intent that `_claim` learned of. -/
def inserts (requestId : String) : ℕ × ((e : Effect) × Answer e) → Bool
  | (_, ⟨.claim _ r _ _, .ok none⟩) => r = requestId
  | _ => false

theorem inserts_exec {requestId : String} {i : ℕ} {s t : Journal} {e : Effect} {r : Answer e}
    (h : exec pk i s e t r) (hi : inserts requestId (i, ⟨e, r⟩)) : s requestId = none ∧ t requestId ≠ none := by
  cases e with
  | claim pins rid fingerprint snapshot =>
    rcases r with _ | _ | row
    · cases hi
    · obtain rfl : rid = requestId := by simpa [inserts] using hi
      rcases h with ⟨-, e, he⟩ | ⟨row, -, -, he⟩ | ⟨hinsert, -⟩
      · cases he
      · cases he
      · obtain ⟨hnone, text, rfl⟩ := claimIntent_inserted hinsert
        exact ⟨hnone, by simp⟩
    · cases hi
  | _ => cases hi

/-- What the log of all calls says of the journal. -/
structure Kept (pk : Packages) (s : Journal) (log : Log Effect Answer) : Prop where
  finished : ∀ {i pins requestId state result}, (i, ⟨.finish pins requestId state result, .ok ()⟩) ∈ log →
    state ≠ intent → ∃ stored text, s requestId = some stored ∧ stored.state = state ∧
      canonicalText pk result = .ok text ∧ stored.result = some text

theorem kept_exec {i : ℕ} {s t : Journal} {log : Log Effect Answer} {e : Effect} {r : Answer e}
    (hk : Kept pk s log) (h : exec pk i s e t r) : Kept pk t (log ++ [(i, ⟨e, r⟩)]) := by
  have hsettles := exec_settles h
  constructor
  · intro j pins requestId state result hm hstate
    rcases List.mem_append.1 hm with hm | hm
    · obtain ⟨stored, text, hs, hst, htext, hresult⟩ := hk.finished hm hstate
      exact ⟨stored, text, hsettles.terminal _ _ hs (hst ▸ hstate), hst, htext, hresult⟩
    · rw [List.mem_singleton] at hm
      cases hm
      rcases h with ⟨-, e, he⟩ | ⟨hset, -⟩
      · cases he
      · obtain ⟨stored, text, hstored, -, htext, rfl⟩ := setTerminal_ok hset
        exact ⟨_, text, Function.update_self .., rfl, htext, rfl⟩

theorem kept_run {w : DeletionWorld} (h : Reachable pk w) : Kept pk w.shared.1 w.shared.2 := by
  refine inv_run (I := Kept pk) ⟨fun hm => absurd hm (by simp)⟩ kept_exec ?_ h
  rintro s t log hk rfl
  exact hk

/-- The intent of a request is committed at most once. -/
theorem inserted_once {w : DeletionWorld} (h : Reachable pk w) (requestId : String) :
    w.shared.2.countP (inserts requestId) ≤ 1 := by
  have hinserts : ∀ {i s e t r k}, exec pk i s e t r → inserts k (i, ⟨e, r⟩) → s k = none ∧ t k ≠ none :=
    fun h hi => inserts_exec h hi
  have habsent : ∀ {s e t r k}, exec pk 0 s e t r → t k = none → s k = none := fun h => (exec_settles h).absent _
  exact once_run inserts (fun s r => s r = none) hinserts habsent (fun h hn => h ▸ hn) h requestId

end Journal

/-! ## The system -/

/-- A call of `os.unlink` for a request. -/
def removes (pk : Packages) (w : DeletionWorld) (requestId : String) (m : ℕ × ((e : Effect) × Answer e)) : Bool :=
  match m.2.1 with
  | .unlink _ => (w.procs m.1).call.any fun c => c.requestId pk = some requestId
  | _ => false

/-- What holds of any calls of `delete` on one journal. -/
structure OneShot (pk : Packages) (w : DeletionWorld) : Prop where
  /-- `os.unlink` is entered at most once for a request. -/
  once : ∀ requestId, w.shared.2.countP (removes pk w requestId) ≤ 1
  authorised : ∀ {before after i name r}, w.shared.2 = before ++ (i, ⟨.unlink name, r⟩) :: after →
    ∃ c, (w.procs i).call = some c ∧ Nonempty (Authorisation pk c name (history i before))
  settled : ∀ {w'}, Interleaving.Run (semantics pk).logged (fun _ _ => True) (delete pk) w w' →
    ∀ requestId stored, w.shared.1 requestId = some stored → stored.state ∈ terminal →
      w'.shared.1 requestId = some stored
  confirmed : ∀ {i c result}, w.procs i = .live c (.ret (.ok result)) → result.state = "LOCAL_UNLINK_CONFIRMED" →
    ∃ requestId stored text, c.requestId pk = some requestId ∧ w.shared.1 requestId = some stored ∧
      stored.state = "LOCAL_UNLINK_CONFIRMED" ∧ canonicalText pk result.toJson = .ok text ∧ stored.result = some text
  idle : ∀ {i c result}, w.procs i = .live c (.ret (.ok result)) → result.state ∈ inert →
    ∀ m ∈ w.shared.2, m.1 = i → ¬ isUnlink m.2.1

theorem Call.requestId_eq {pk : Packages} {c : Call} {owned : Json} {context : TaskContext} {requestId : String}
    (hcapture : capture pk c.task = .ok owned) (hcontext : historicalContext pk owned c.pins = .ok context)
    (h : c.requestId pk = some requestId) : context.requestId = requestId := by
  unfold Call.requestId at h
  cases hprepare : prepare pk c with
  | error e =>
    rw [hprepare] at h
    cases h
  | ok prepared =>
    rw [hprepare] at h
    unfold prepare at hprepare
    obtain ⟨owned', hcapture', hprepare⟩ := bind_ok hprepare
    obtain ⟨context', hcontext', hprepare⟩ := bind_ok hprepare
    obtain ⟨_, -, hprepare⟩ := bind_ok hprepare
    obtain ⟨name', hname, hprepare⟩ := bind_ok hprepare
    cases hprepare
    rw [hcapture] at hcapture'
    cases hcapture'
    rw [hcontext] at hcontext'
    cases hcontext'
    exact Option.some.inj h

/-- The call that removes for a request is the one that inserted its intent. -/
theorem Authorisation.inserted {pk : Packages} {c : Call} {name : String} {i : ℕ} {log : Log Effect Answer}
    (auth : Authorisation pk c name (history i log)) {requestId : String} (h : c.requestId pk = some requestId) :
    ∃ o, (i, o) ∈ log ∧ inserts requestId (i, o) := by
  obtain rfl := Call.requestId_eq auth.captured auth.historical h
  refine ⟨⟨.claim c.pins auth.context.requestId auth.context.taskSha256 auth.owned, .ok none⟩, ?_, by simp [inserts]⟩
  have hbefore : ∀ o ∈ auth.before, o ∈ history i log := fun o ho => by
    rw [auth.split]
    exact List.mem_append_left _ (List.mem_append_left _ (List.mem_append_left _ ho))
  exact mem_history.1 (hbefore _ auth.intent)

theorem removes_unlink {pk : Packages} {w : DeletionWorld} {requestId : String}
    {m : ℕ × ((e : Effect) × Answer e)} (h : removes pk w requestId m) :
    ∃ name r c, m = (m.1, ⟨.unlink name, r⟩) ∧ (w.procs m.1).call = some c ∧ c.requestId pk = some requestId := by
  obtain ⟨i, e, r⟩ := m
  cases e with
  | unlink name =>
    obtain ⟨c, hc, hr⟩ := (Option.any_eq_true _ _).1 h
    exact ⟨name, r, c, rfl, hc, of_decide_eq_true hr⟩
  | _ => cases h

def sampleCall : Call where
  pins := .null
  secret := ""
  identities _ := (0, 0)
  task := .null
  beforeUnlink := false
  afterUnlink := false
  acknowledgeOnly := false

end VapEvidence.Erasure
