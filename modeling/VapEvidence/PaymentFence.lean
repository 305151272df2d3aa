import VapEvidence.Fence
import VapEvidence.CollectionStore
import VapEvidence.JournalSafety
import VapEvidence.PaymentConservation

set_option autoImplicit false

/-!
# The generation that fences the payment stores

Providers and adapters of any generation start on the stores while calls claim and payments are
applied. Each store is a fenced store: its metadata row holds the current generation, and new
rows carry it in their requests.
-/
namespace VapEvidence.Payment
open Json Custody Interleaving

/-! ## Generations -/

structure Generation where
  epoch : ℤ
  configuration : String
  deriving DecidableEq

/-- An epoch has one configuration, so generations of one epoch are equal or unrelated. -/
instance : PartialOrder Generation where
  le a b := a = b ∨ a.epoch < b.epoch
  le_refl a := .inl rfl
  le_trans a b c hab hbc := by
    rcases hab with rfl | hab
    · exact hbc
    · rcases hbc with rfl | hbc
      · exact .inr hab
      · exact .inr (hab.trans hbc)
  le_antisymm a b hab hba := by
    rcases hab with rfl | hab
    · rfl
    · rcases hba with rfl | hba
      · rfl
      · omega

theorem Generation.le_iff {a b : Generation} :
    a ≤ b ↔ a.epoch ≤ b.epoch ∧ (a.epoch = b.epoch → a.configuration = b.configuration) := by
  constructor
  · intro h
    rcases h with rfl | h
    · exact ⟨le_refl _, fun _ => rfl⟩
    · exact ⟨h.le, fun he => by omega⟩
  · rintro ⟨hle, heq⟩
    rcases lt_or_eq_of_le hle with hlt | he
    · exact .inr hlt
    · refine .inl ?_
      cases a
      cases b
      rw [Generation.mk.injEq]
      exact ⟨he, heq he⟩

section Generations
variable {py : Platform}

variable (py) in
/-- The generation that a metadata row holds. -/
def generationOf (metadata : Option Metadata) : Option Generation := do
  let text ← metadata.bind Metadata.generation
  let v ← (loadJsonText py runtimeBounds text).toOption
  return ⟨(v.item "recovery_epoch").number, (v.item "configuration_digest").text⟩

theorem item_configuration (epoch : ℤ) (configuration : String) :
    (generationValue epoch configuration).item "configuration_digest" = .str configuration :=
  item_of_get? (by simp [generationValue, get?_dict])

/-- `_current_generation` passes for the generation that the store holds and for no other. -/
theorem currentGeneration_ok {metadata : Option Metadata} {epoch : ℤ} {configuration : String}
    (h : currentGeneration py metadata epoch configuration = .ok ()) :
    generationOf py metadata = some ⟨epoch, configuration⟩ := by
  unfold currentGeneration at h
  rw [generationOf]
  cases hm : metadata.bind Metadata.generation with
  | none =>
    rw [hm] at h
    change require (decide (Json.null = generationValue epoch configuration)) _ = _ at h
    exact absurd (of_decide_eq_true (require_ok.1 h)) (by rintro ⟨⟩)
  | some text =>
    rw [hm] at h
    obtain ⟨current, hcurrent, h⟩ := bind_ok h
    obtain rfl := of_decide_eq_true (require_ok.1 h)
    rw [Option.bind_eq_bind, Option.bind_some, hcurrent]
    change some (Generation.mk _ _) = _
    rw [item_generationValue, item_configuration]
    rfl

theorem generationOf_written {identity text : String} {epoch : ℤ} {configuration : String}
    (h : canonicalText py (generationValue epoch configuration) = .ok text) :
    generationOf py (some ⟨identity, some text⟩) = some ⟨epoch, configuration⟩ := by
  rw [generationOf, Option.bind_some, Option.bind_eq_bind, Option.bind_some,
    loadJsonText_canonicalText (generationValue_wf epoch configuration) h]
  change some (Generation.mk _ _) = _
  rw [item_generationValue, item_configuration]
  rfl

/-- A start leaves its own generation behind, and none above it is there before. -/
theorem storeMeta_generation {expected : Json} {epoch : ℤ} {configuration : String}
    {row : Option Metadata} {m : Metadata} (h : storeMeta py expected epoch configuration row = .ok m) :
    generationOf py (some m) = some ⟨epoch, configuration⟩ ∧
      ∀ g, generationOf py row = some g → g ≤ ⟨epoch, configuration⟩ := by
  cases row with
  | none =>
    obtain ⟨encoded, -, h⟩ := bind_ok h
    obtain ⟨text, htext, h⟩ := bind_ok h
    cases h
    exact ⟨generationOf_written htext, fun g hg => by cases hg⟩
  | some row =>
    obtain ⟨encoded, -, h⟩ := bind_ok h
    obtain ⟨_, -, h⟩ := bind_ok h
    obtain ⟨identity, generation⟩ := row
    cases generation with
    | none => cases h
    | some text =>
      obtain ⟨previous, hprevious, h⟩ := bind_ok h
      obtain ⟨_, hreq, h⟩ := bind_ok h
      have hold : generationOf py (some ⟨identity, some text⟩) =
          some ⟨(previous.item "recovery_epoch").number, (previous.item "configuration_digest").text⟩ := by
        rw [generationOf, Option.bind_some, Option.bind_eq_bind, Option.bind_some, hprevious]
        rfl
      have hreq := of_decide_eq_true (require_ok.1 hreq)
      rw [not_or, not_and, not_not] at hreq
      obtain ⟨hge, hsame⟩ := hreq
      split_ifs at h with hlt
      · obtain ⟨text', htext, h⟩ := bind_ok h
        cases h
        refine ⟨generationOf_written htext, fun g hg => .inr ?_⟩
        obtain rfl := Option.some.inj (hold.symm.trans hg)
        exact hlt
      · cases h
        have heq : epoch = (previous.item "recovery_epoch").number := by omega
        have hconf := hsame heq
        rw [hold, ← hconf, ← heq]
        refine ⟨rfl, fun g hg => .inl ?_⟩
        rw [← Option.some.inj hg]
        rfl

/-- The request of a row names the generation. -/
def Carries (py : Platform) (row : Identity) (g : Generation) : Prop :=
  ∃ r : Request py, row.requestBytes = r.raw ∧ r.json.item "recovery_epoch" = .int g.epoch ∧
    r.json.item "configuration_digest" = .str g.configuration

theorem checkGeneration_carries {r : Request py} {context : Json} {epoch : ℤ} {configuration : String}
    (h : checkGeneration r.json context epoch configuration = .ok ()) (scope : String) :
    Carries py (r.identity scope) ⟨epoch, configuration⟩ := by
  have h := require_ok.1 h
  simp only [Bool.and_eq_true, decide_eq_true_eq] at h
  exact ⟨r, rfl, h.1.2, h.2⟩

/-! ## The steps of the running instances -/

inductive Store where
  | provider
  | journal

def ProviderConfig.generation (config : ProviderConfig) : Generation :=
  ⟨config.recoveryEpoch, config.configurationDigest⟩

def Adapter.generation (a : Adapter) : Generation := ⟨a.recoveryEpoch, a.configurationDigest⟩

variable (py) in
def fence : Store → Services → Fence.State Generation Identity
  | .provider, s => ⟨generationOf py s.provider.metadata, s.providers.map ProviderConfig.generation,
      s.provider.payments.rows.map PaymentRow.identity⟩
  | .journal, s => ⟨generationOf py s.journal.metadata, s.adapters.map Adapter.generation,
      s.journal.dispatches.rows.map Dispatch.identity⟩

variable (py) in
/-- A start, a delivery, a message of some client or an effect of a call, on any network. -/
inductive Turn (s : Services) : Services → Prop where
  | environment {t : Services} (h : Environment py s t) : Turn s t
  | message (m : ℕ × Bytes) : Turn s { s with sent := s.sent ++ [m] }
  | effect {i : ℕ} {e : Effect py} {t : Services} {res : e.Result} (claimant : Claimant s e)
      (h : exposed i s e t res) : Turn s t

variable (py) in
abbrev Turns : Services → Services → Prop := Relation.ReflTransGen (Turn py)

/-- What the calls on a journal do are such turns. -/
theorem journal_turns {w : JournalWorld py} (h : JournalReachable py w) :
    Turns py .initial w.shared.services := by
  induction h with
  | refl => exact .refl
  | @tail v w hrun hstep ih =>
    cases hstep with
    | spawn i c free ok => exact ih
    | run i at_eff done =>
      obtain ⟨hinv, hlive⟩ := journal_inv hrun
      have huses := residual_run (P := fun c p => p.Uses (Scoped c)) uses_body (fun r h => h.2 r) hrun at_eff
      exact ih.tail (.effect (hinv.claimant (hlive i _ _ at_eff) huses.1) done.1)
    | environment done => exact ih.tail (.environment done.1)
    | crash i running => exact ih

/-- A payment that is created was checked against the generation of the store. -/
theorem applyPayment_fenced {config : ProviderConfig} {r : Request py} {now : ℤ} {s s' : ProviderStore}
    {receipt : Bytes} (h : applyPayment py config r now s = .ok ((receipt, true), s')) :
    generationOf py s.metadata = some config.generation ∧
      ∀ scope, Carries py (r.identity scope) config.generation := by
  obtain ⟨scope, -, h⟩ := bind_ok h
  obtain ⟨existing, -, h⟩ := bind_ok h
  cases existing with
  | some row => cases h
  | none =>
    obtain ⟨_, hcurrent, h⟩ := bind_ok h
    obtain ⟨_, hchecked, h⟩ := bind_ok h
    exact ⟨currentGeneration_ok (check_ok.1 hcurrent), checkGeneration_carries (check_ok.1 hchecked)⟩

/-- A start pins the store to the instance and leaves its generation behind. -/
theorem initializeProvider_pins {config config' : ProviderConfig} {s s' : ProviderStore}
    (h : initializeProvider py config s = .ok (config', s')) :
    (generationOf py s'.metadata = some config'.generation ∧
      ∀ g, generationOf py s.metadata = some g → g ≤ config'.generation) ∧
    (config'.context.WF ∧ config'.initialBalances.WF ∧ ∃ m, s'.metadata = some m ∧
      canonicalText py (providerIdentity py config' config'.context config'.initialBalances) = .ok m.identity ∧
      ∀ old, s.metadata = some old → old.identity = m.identity) ∧
    s'.payments = s.payments := by
  obtain ⟨context, hcontext, h⟩ := bind_ok h
  obtain ⟨_, -, h⟩ := bind_ok h
  obtain ⟨_, -, h⟩ := bind_ok h
  obtain ⟨_, -, h⟩ := bind_ok h
  obtain ⟨_, -, h⟩ := bind_ok h
  obtain ⟨balances, hbalances, h⟩ := bind_ok h
  obtain ⟨_, -, h⟩ := bind_ok h
  obtain ⟨metadata, hmeta, h⟩ := bind_ok h
  cases h
  have hmeta := check_ok.1 hmeta
  obtain ⟨_, -, hbalances⟩ := bind_ok (check_ok.1 hbalances)
  obtain ⟨hid, hold⟩ := storeMeta_ok hmeta
  exact ⟨storeMeta_generation hmeta, ⟨(validateContext_ok (check_ok.1 hcontext)).1,
    loadJson_wf py _ hbalances, metadata, rfl, hid, hold⟩, rfl⟩

/-- So was a claim that is created. -/
theorem claim_fenced {a : Adapter} {r : Request py} {admitting : ℤ → Journal → Except Failure Journal}
    {now : ℤ} {j j' : Journal} {row : Dispatch} (h : claim a r admitting now j = .ok ((row, true), j')) :
    generationOf py j.metadata = some a.generation ∧
      ∀ scope, Carries py (r.identity scope) a.generation := by
  obtain ⟨existing, -, h⟩ := bind_ok h
  cases existing with
  | some row => cases h
  | none =>
    obtain ⟨_, hcurrent, h⟩ := bind_ok h
    obtain ⟨_, hchecked, h⟩ := bind_ok h
    exact ⟨currentGeneration_ok (check_ok.1 hcurrent), checkGeneration_carries (check_ok.1 hchecked)⟩

theorem claim_unchanged {a : Adapter} {r : Request py} {admitting : ℤ → Journal → Except Failure Journal}
    {now : ℤ} {j j' : Journal} {row : Dispatch} (h : claim a r admitting now j = .ok ((row, false), j')) :
    j' = j := by
  obtain ⟨existing, -, h⟩ := bind_ok h
  cases existing with
  | some row =>
    cases h
    rfl
  | none =>
    obtain ⟨_, -, h⟩ := bind_ok h
    obtain ⟨_, -, h⟩ := bind_ok h
    obtain ⟨_, -, h⟩ := bind_ok h
    obtain ⟨_, -, h⟩ := bind_ok h
    obtain ⟨_, -, h⟩ := bind_ok h
    obtain ⟨_, -, h⟩ := bind_ok h
    cases h

theorem doPost_scoped {config : ProviderConfig} {raw : Bytes} {now : ℤ} {s s' : ProviderStore} {receipt : Bytes}
    (h : doPost py config raw now s = .ok (receipt, s')) :
    ∃ r : Request py, r.raw = raw ∧ checkScope r.json config.context = .ok () ∧
      ∃ created, applyPayment py config r now s = .ok ((receipt, created), s') := by
  obtain ⟨r, hr, h⟩ := bind_ok h
  obtain ⟨⟨⟩, hscope, h⟩ := bind_ok h
  obtain ⟨⟨⟨receipt', created⟩, s''⟩, happ, h⟩ := bind_ok h
  cases h
  exact ⟨r, readRequest_ok (check_ok.1 hr), check_ok.1 hscope, created, happ⟩

theorem environment_fenced {s t : Services} (h : Environment py s t) (store : Store) :
    fence py store t = fence py store s ∨ Fence.Step (Carries py) (fence py store s) (fence py store t) := by
  cases h with
  | @adapter _ _ _ _ _ _ _ _ a j made opened =>
    obtain ⟨m, hm, h⟩ := bind_ok opened
    cases h
    cases store with
    | provider => exact .inl rfl
    | journal =>
      obtain ⟨hnew, hrises⟩ := storeMeta_generation (check_ok.1 hm)
      refine .inr ?_
      rw [fence, fence, hnew]
      exact .start a.generation hrises
  | authorized known made => cases store <;> exact .inl rfl
  | collected known made opened =>
    rw [initializeLocal_ok opened]
    cases store <;> exact .inl rfl
  | @provider config config' p started =>
    cases store with
    | journal => exact .inl rfl
    | provider =>
      obtain ⟨⟨hnew, hrises⟩, -, hrows⟩ := initializeProvider_pins started
      refine .inr ?_
      rw [fence, fence, hnew, hrows]
      exact .start config'.generation hrises
  | @deliver m config now receipt p sent serving processed =>
    cases store with
    | journal => exact .inl rfl
    | provider =>
      obtain ⟨r, -, -, created, h⟩ := doPost_scoped processed
      rcases applyPayment_ok h with ⟨-, rfl, -⟩ | ⟨rfl, c, -⟩
      · exact .inl rfl
      · obtain ⟨hcurrent, hcarries⟩ := applyPayment_fenced h
        refine .inr ?_
        rw [fence, fence, c.metadata, c.payments, List.map_append]
        exact .insert (List.mem_map_of_mem serving) hcurrent (hcarries c.scope)
  | lookup => cases store <;> exact .inl rfl
  | collector => cases store <;> exact .inl rfl
  | collection => cases store <;> exact .inl rfl

theorem store_identities {a : Adapter} {r : Request py} {status : Status} {receipt : Bytes} {now : ℤ}
    {j j' : Journal} {row : Dispatch} (h : storeReceipt a r status receipt now j = .ok (row, j')) :
    j'.metadata = j.metadata ∧
      j'.dispatches.rows.map Dispatch.identity = j.dispatches.rows.map Dispatch.identity := by
  obtain ⟨d, -, -, ⟨o, -, -, -, rfl⟩ | ⟨-, -, -, hrows, hj⟩⟩ := storeReceipt_ok h
  · exact ⟨rfl, rfl⟩
  · refine ⟨by rw [hj], ?_⟩
    rw [hrows, List.map_map]
    exact List.map_congr_left fun d _ => observeRow_identity _ _ _

theorem effect_fenced {i : ℕ} {s t : Services} {e : Effect py} {res : e.Result} (claimant : Claimant s e)
    (h : exposed i s e t res) (store : Store) :
    fence py store t = fence py store s ∨ Fence.Step (Carries py) (fence py store s) (fence py store t) := by
  cases e with
  | claim a r admission =>
    obtain ⟨now, hook, j, hends, rfl⟩ := h
    cases store with
    | provider => exact .inl rfl
    | journal =>
      rcases ends_cases hends with ⟨rfl, -⟩ | ⟨⟨row, created⟩, htx, -⟩
      · exact .inl rfl
      · have hkeep (j₁ : Journal) (hj₁ : callback py admission hook r now s.journal = .ok j₁) :
            j₁.dispatches = s.journal.dispatches := by rw [(callback_ok hj₁).1]
        rcases claim_ok htx hkeep with ⟨-, rfl, -⟩ | ⟨rfl, rfl, -, hrows, j₁, hj₁, hj⟩
        · exact .inl rfl
        · obtain ⟨hcurrent, hcarries⟩ := claim_fenced htx
          have hmeta : j.metadata = s.journal.metadata := by rw [hj, (callback_ok hj₁).1]
          refine .inr ?_
          rw [fence, fence, hmeta, hrows, List.map_append]
          exact .insert (List.mem_map_of_mem claimant.1) hcurrent (hcarries a.scope)
  | store a r status receipt =>
    obtain ⟨now, j, hends, rfl⟩ := h
    refine .inl ?_
    rcases ends_cases hends with ⟨rfl, -⟩ | ⟨row, htx, -⟩
    · cases store <;> rfl
    · obtain ⟨hmeta, hrows⟩ := store_identities htx
      cases store with
      | provider => rfl
      | journal => rw [fence, fence, hmeta, hrows]
  | persist c r package observed stage =>
    obtain ⟨now, j, hends, rfl⟩ := h
    refine .inl ?_
    rcases ends_cases hends with ⟨rfl, -⟩ | ⟨⟨⟩, htx, -⟩
    · cases store <;> rfl
    · obtain ⟨j', hp, he⟩ := map_ok htx
      obtain rfl : j' = j := congrArg Prod.snd he
      obtain ⟨_, _, _, -, -, -, -, -, -, -, hframe⟩ := persist_ok hp
      rw [hframe]
      cases store <;> rfl
  | post | get | refuse | collect =>
    obtain rfl : t = _ := h
    exact .inl (by cases store <;> rfl)
  | answer | readback | hook | nonce =>
    obtain rfl : t = s := h
    exact .inl rfl
  | read | authorization | custody =>
    obtain ⟨rfl, -⟩ := h
    exact .inl rfl

theorem turn_fenced (store : Store) : Fence.Fenced (Carries py) (Turn py) (fence py store) := by
  intro s t h
  cases h with
  | environment h => exact environment_fenced h store
  | message m => exact .inl (by cases store <;> rfl)
  | effect claimant h => exact effect_fenced claimant h store

/-! ## The rows that every instance finds -/

variable (py) in
/-- The instances of a provider store share its identity, and one of them wrote each payment. -/
structure ProviderInv (s : Services) : Prop where
  providers : ∀ config ∈ s.providers, config.context.WF ∧ config.initialBalances.WF ∧
    ∃ m, s.provider.metadata = some m ∧
      canonicalText py (providerIdentity py config config.context config.initialBalances) = .ok m.identity
  payments : ∀ p ∈ s.provider.payments.rows, ∃ config ∈ s.providers, ∃ scope, ∃ r : Request py,
    checkScope r.json config.context = .ok () ∧ scopeOf py config.context = .ok scope ∧
      p.identity = r.identity scope

/-- What every run keeps of the two stores. -/
structure StoresInv (py : Platform) (s : Services) : Prop where
  journal : JournalInv py s
  provider : ProviderInv py s

theorem ProviderInv.of_same {s t : Services} (h : ProviderInv py s) (hs : t.provider = s.provider)
    (hc : t.providers = s.providers) : ProviderInv py t where
  providers := by rw [hc, hs]; exact h.providers
  payments := by rw [hc, hs]; exact h.payments

theorem exposed_provider {i : ℕ} {s t : Services} {e : Effect py} {res : e.Result} (h : exposed i s e t res) :
    t.provider = s.provider ∧ t.providers = s.providers := by
  cases e with
  | claim | store | persist =>
    obtain ⟨_, _, rest⟩ := h
    grind
  | post | get | refuse | collect =>
    obtain rfl : t = _ := h
    exact ⟨rfl, rfl⟩
  | answer | readback | hook | nonce =>
    obtain rfl : t = s := h
    exact ⟨rfl, rfl⟩
  | read | authorization | custody =>
    obtain ⟨rfl, -⟩ := h
    exact ⟨rfl, rfl⟩

theorem provider_environment {s t : Services} (h : ProviderInv py s) (he : Environment py s t) :
    ProviderInv py t := by
  cases he with
  | @provider config config' p started =>
    obtain ⟨-, ⟨hw, hb, m, hm, hid, hold⟩, hrows⟩ := initializeProvider_pins started
    refine ⟨List.forall_mem_cons.2 ⟨⟨hw, hb, m, hm, hid⟩, fun c hc => ?_⟩, fun row hrow => ?_⟩
    · obtain ⟨hw', hb', old, hold', hid'⟩ := h.providers c hc
      exact ⟨hw', hb', m, hm, by rw [hid', hold old hold']⟩
    · obtain ⟨c, hc, rest⟩ := h.payments row (hrows ▸ hrow)
      exact ⟨c, List.mem_cons_of_mem _ hc, rest⟩
  | @deliver m config now receipt p sent serving processed =>
    obtain ⟨r, hr, hscope, created, happ⟩ := doPost_scoped processed
    rcases applyPayment_ok happ with ⟨-, rfl, -⟩ | ⟨-, c, hc⟩
    · exact h.of_same rfl rfl
    · refine ⟨by rw [c.metadata]; exact h.providers, fun row hrow => ?_⟩
      rw [c.payments] at hrow
      rcases List.mem_append.1 hrow with hrow | hrow
      · exact h.payments row hrow
      · obtain rfl := List.mem_singleton.1 hrow
        exact ⟨config, serving, c.scope, r, hscope, hc, rfl⟩
  | _ => exact h.of_same rfl rfl

theorem turn_inv {s t : Services} (h : StoresInv py s) (ht : Turn py s t) : StoresInv py t := by
  cases ht with
  | environment he => exact ⟨inv_environment h.journal he, provider_environment h.provider he⟩
  | message m =>
    exact ⟨h.journal.of_rows rfl rfl rfl rfl fun d hd => ⟨d, hd, rfl⟩, h.provider.of_same rfl rfl⟩
  | effect claimant hx =>
    obtain ⟨hs, hc⟩ := exposed_provider hx
    exact ⟨inv_exposed h.journal claimant hx, h.provider.of_same hs hc⟩

theorem turns_inv {s t : Services} (h : StoresInv py s) (ht : Turns py s t) : StoresInv py t := by
  induction ht with
  | refl => exact h
  | tail _ hstep ih => exact turn_inv ih hstep

theorem stores_empty : StoresInv py .initial :=
  ⟨inv_empty, ⟨fun _ h => (by cases h), fun _ h => (by cases h)⟩⟩

/-- The instances of a provider store serve one context. -/
theorem ProviderInv.context_eq {s : Services} (h : ProviderInv py s) {a b : ProviderConfig}
    (ha : a ∈ s.providers) (hb : b ∈ s.providers) : a.context = b.context := by
  obtain ⟨hwa, hba, m, hm, hid⟩ := h.providers a ha
  obtain ⟨hwb, hbb, m', hm', hid'⟩ := h.providers b hb
  obtain rfl := Option.some.inj (hm.symm.trans hm')
  have hj := canonicalText_injective (providerIdentity_wf a hwa hba) (providerIdentity_wf b hwb hbb) hid hid'
  have context (c : ProviderConfig) :
      (providerIdentity py c c.context c.initialBalances).item "context" = c.context :=
    item_of_get? (by simp [providerIdentity, get?_dict, lookup_cons_ite])
  rw [← context a, hj, context b]

/-- A request of a stored payment is answered with the stored receipt. -/
theorem applyPayment_stored {config : ProviderConfig} {r : Request py} {scope : String} {s : ProviderStore}
    {row : PaymentRow} (hscope : scopeOf py config.context = .ok scope) (hrow : row ∈ s.payments.rows)
    (hid : row.identity = r.identity scope) (now : ℤ) :
    applyPayment py config r now s = .ok ((row.receipt, false), s) := by
  simp only [applyPayment, hscope, find_of_identity s.payments hrow hid, check, Except.mapError, bind,
    Except.bind]
  rfl

/-- So every instance answers the bytes of a stored payment, whatever its generation. -/
theorem ProviderInv.replays {s : Services} (h : ProviderInv py s) {config : ProviderConfig}
    (hc : config ∈ s.providers) {row : PaymentRow} (hrow : row ∈ s.provider.payments.rows) (now : ℤ) :
    doPost py config row.identity.requestBytes now s.provider = .ok (row.receipt, s.provider) := by
  obtain ⟨config', hc', scope, r, hscope, hs, hid⟩ := h.payments row hrow
  rw [h.context_eq hc' hc] at hscope hs
  have hraw : row.identity.requestBytes = r.raw := congrArg Identity.requestBytes hid
  simp only [doPost, hraw, Request.readRequest_raw, hscope, applyPayment_stored hs hrow hid now, check,
    Except.mapError, bind, Except.bind]
  rfl


/-! ## The fence -/

end Generations

end VapEvidence.Payment
