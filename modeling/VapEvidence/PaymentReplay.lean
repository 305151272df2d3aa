import VapEvidence.CustodyHistory
import VapEvidence.PaymentFence
import VapEvidence.UrlEncoded
import Mathlib.Data.List.TakeWhile

set_option autoImplicit false

/-!
# Replays, lookups and conflicts of a stored payment

A payment that was applied is answered with its receipt for good, both to its own bytes and to
a lookup of its identities; a request that takes one of these identities for other bytes is
refused on both ways.
-/
namespace VapEvidence.Payment
open Json Custody Interleaving UrlEncoded

section Lookups
variable (py : Platform)

/-- `urlsplit` of a target in origin form: the path, the query and the fragment. -/
def splitTarget (target : List Char) : List Char × List Char × List Char :=
  let url := target.takeWhile (· ≠ '#')
  (url.takeWhile (· ≠ '?'), (url.dropWhile (· ≠ '?')).drop 1, (target.dropWhile (· ≠ '#')).drop 1)

/-- `do_GET` of an authenticated client: a receipt with status 200, or the status of an error. -/
def doGet (config : ProviderConfig) (target : List Char) (s : ProviderStore) :
    Except Failure (Except ℕ Bytes) :=
  let (path, query, fragment) := splitTarget target
  if path ≠ "/payments".toList ∨ fragment ≠ [] then .ok (.error 404)
  else
    match parseQs 3 query with
    | .error _ => .ok (.error 400)
    | .ok query =>
      match lookupPayment py config query s with
      | .error (.value _) => .ok (.error 400)
      | answer => answer

variable {py}

def lookupFields (r : Request py) : List (String × String) :=
  [("operation_id", r.operationId), ("idempotency_key", r.idempotencyKey), ("request_digest", r.digest)]

/-- The target of the lookup that `Adapter.reconcile` makes. -/
def lookupTarget (r : Request py) : List Char := "/payments?".toList ++ urlencode (lookupFields r)

theorem splitTarget_query {path query : List Char} (hp : '?' ∉ path) (hp' : '#' ∉ path) (hq : '#' ∉ query) :
    splitTarget (path ++ '?' :: query) = (path, query, []) := by
  have hfragment : ∀ c ∈ path ++ '?' :: query, decide (c ≠ '#') = true := by
    intro c hc
    rw [decide_eq_true_eq]
    rintro rfl
    rcases List.mem_append.1 hc with hc | hc
    · exact hp' hc
    · rcases List.mem_cons.1 hc with hc | hc
      · exact absurd hc (by decide)
      · exact hq hc
  have hpath : ∀ c ∈ path, decide (c ≠ '?') = true := by
    intro c hc
    rw [decide_eq_true_eq]
    rintro rfl
    exact hp hc
  unfold splitTarget
  dsimp only
  rw [List.takeWhile_eq_self_iff.2 hfragment, List.dropWhile_eq_nil_iff.2 hfragment]
  simp only [List.takeWhile_append_of_pos hpath, List.dropWhile_append_of_pos hpath, List.takeWhile_cons,
    List.dropWhile_cons, ne_eq, not_true_eq_false, decide_false, Bool.false_eq_true, if_false, List.append_nil,
    List.drop_nil, List.drop_one, List.tail_cons]

/-- The provider reads the identities that the adapter wrote, whatever their characters. -/
theorem doGet_lookupTarget (config : ProviderConfig) (r : Request py) (s : ProviderStore)
    {answer : Except ℕ Bytes} (h : lookupPayment py config (lookupQuery r) s = .ok answer) :
    doGet py config (lookupTarget r) s = .ok answer := by
  have hsplit : splitTarget (lookupTarget r) = ("/payments".toList, urlencode (lookupFields r), []) :=
    @splitTarget_query "/payments".toList _ (by decide) (by decide) (not_mem_urlencode _)
  have hread := @parseQs_urlencode (lookupFields r) 3 (by simp [lookupFields]) (by simp [lookupFields])
    (by simp [lookupFields])
  unfold doGet
  rw [hsplit]
  dsimp only
  have hquery : (lookupFields r).map (fun f => (f.1, [f.2])) = lookupQuery r := rfl
  rw [if_neg (by simp), hread, hquery]
  dsimp only
  rw [h]

/-! ## The rows that share an identity -/

theorem requestFields_text (r : Request py) :
    textOk (.str r.operationId) = true ∧ textOk (.str r.idempotencyKey) = true := by
  obtain ⟨-, -, ho⟩ := r.fields_ok
  simp only [requestFieldsOk, Bool.and_eq_true, List.all_cons] at ho
  have text {name : String} (h : textOk (r.json.item name) = true) : textOk (.str (r.field name)) = true := by
    rw [text_of_textOk h] at h
    exact h
  exact ⟨text ho.1.1.1.1.1.1, text ho.1.1.1.1.1.2.1⟩

variable {α : Type} {key : α → Identity}

/-- The condition of `_find`, for a request or a lookup of its identities. -/
def shares (key : α → Identity) (scope operation idempotency : String) (row : α) : Bool :=
  (key row).scope = scope && ((key row).operationId = operation || (key row).idempotencyKey = idempotency)

/-- The row of a request is the only one that `_find` selects. -/
theorem shares_own (t : Table key Identity.Clash) {row : α} {r : Request py} {scope : String} (hrow : row ∈ t.rows)
    (hid : key row = r.identity scope) : t.rows.filter (shares key scope r.operationId r.idempotencyKey) = [row] := by
  have hfind := find_of_identity t hrow hid
  unfold find at hfind
  split at hfind
  · cases hfind
  · next x hx =>
    split_ifs at hfind
    obtain rfl := Option.some.inj (Except.ok.inj hfind)
    exact hx
  · cases hfind

/-- `_find` refuses other bytes that share an identity with a row. -/
theorem find_conflict {rows : List α} {row : α} {r : Request py} {scope : String} (hrow : row ∈ rows)
    (hshares : shares key scope r.operationId r.idempotencyKey row = true) (hraw : (key row).requestBytes ≠ r.raw) :
    find key rows scope r = .error "immutable_request_identity_conflict" := by
  have hmem : row ∈ rows.filter (shares key scope r.operationId r.idempotencyKey) :=
    List.mem_filter.2 ⟨hrow, hshares⟩
  unfold find
  split
  · next hnil =>
    change rows.filter (shares key scope r.operationId r.idempotencyKey) = [] at hnil
    rw [hnil] at hmem
    cases hmem
  · next x hx =>
    change rows.filter (shares key scope r.operationId r.idempotencyKey) = [x] at hx
    rw [hx] at hmem
    obtain rfl := List.mem_singleton.1 hmem
    exact if_neg fun h => hraw h.2.2
  · rfl

theorem lookupPayment_shared {config : ProviderConfig} {r : Request py} {scope : String} {s : ProviderStore}
    (hpy : py.Standard) (hscope : scopeOf py config.context = .ok scope) :
    lookupPayment py config (lookupQuery r) s =
      match s.payments.rows.filter (shares PaymentRow.identity scope r.operationId r.idempotencyKey) with
      | [] => .ok (.error 404)
      | [row] =>
        if row.identity.operationId = r.operationId ∧ row.identity.idempotencyKey = r.idempotencyKey ∧
            row.identity.requestDigest = r.digest then .ok (.ok row.receipt)
        else .ok (.error 409)
      | _ => .ok (.error 409) := by
  obtain ⟨hop, hkey⟩ := requestFields_text r
  have hdigest : hashText r.digest = true := hashText_bytesDigest hpy r.raw
  have h₁ : (lookupQuery r).lookup "operation_id" = some [r.operationId] := rfl
  have h₂ : (lookupQuery r).lookup "idempotency_key" = some [r.idempotencyKey] := by simp [lookupQuery, List.lookup_cons]
  have h₃ : (lookupQuery r).lookup "request_digest" = some [r.digest] := by simp [lookupQuery, List.lookup_cons]
  have h₄ : (lookupQuery r).length = 3 := rfl
  unfold lookupPayment
  rw [h₁, h₂, h₃, h₄]
  simp only [hop, hkey, hdigest, and_self, if_true, hscope, check, Except.mapError, bind, Except.bind]
  rfl

/-- A lookup of a stored payment gives its receipt. -/
theorem lookup_stored {config : ProviderConfig} {r : Request py} {scope : String} {s : ProviderStore}
    {row : PaymentRow} (hpy : py.Standard) (hscope : scopeOf py config.context = .ok scope)
    (hrow : row ∈ s.payments.rows) (hid : row.identity = r.identity scope) :
    lookupPayment py config (lookupQuery r) s = .ok (.ok row.receipt) := by
  rw [lookupPayment_shared hpy hscope, shares_own s.payments hrow hid]
  dsimp only
  rw [hid]
  exact if_pos ⟨rfl, rfl, rfl⟩

/-- A lookup that shares an identity with the payment of another request is refused. -/
theorem lookup_conflict {config : ProviderConfig} {r : Request py} {scope : String} {s : ProviderStore}
    {row : PaymentRow} (hpy : py.Standard) (hscope : scopeOf py config.context = .ok scope)
    (hrow : row ∈ s.payments.rows)
    (hshares : shares PaymentRow.identity scope r.operationId r.idempotencyKey row = true)
    (hother : ¬ (row.identity.operationId = r.operationId ∧ row.identity.idempotencyKey = r.idempotencyKey ∧
      row.identity.requestDigest = r.digest)) :
    lookupPayment py config (lookupQuery r) s = .ok (.error 409) := by
  have hmem : row ∈ s.payments.rows.filter (shares PaymentRow.identity scope r.operationId r.idempotencyKey) :=
    List.mem_filter.2 ⟨hrow, hshares⟩
  rw [lookupPayment_shared hpy hscope]
  split
  · next hnil =>
    rw [hnil] at hmem
    cases hmem
  · next x hx =>
    rw [hx] at hmem
    obtain rfl := List.mem_singleton.1 hmem
    exact if_neg hother
  · rfl

theorem applyPayment_conflict {config : ProviderConfig} {r : Request py} {scope : String} {s : ProviderStore}
    {row : PaymentRow} (hscope : scopeOf py config.context = .ok scope) (hrow : row ∈ s.payments.rows)
    (hshares : shares PaymentRow.identity scope r.operationId r.idempotencyKey row = true)
    (hraw : row.identity.requestBytes ≠ r.raw) (now : ℤ) :
    applyPayment py config r now s = .error (.value "immutable_request_identity_conflict") := by
  simp only [applyPayment, hscope, find_conflict hrow hshares hraw, check, Except.mapError, bind, Except.bind]

theorem doPost_applied {config : ProviderConfig} {r : Request py} {s p : ProviderStore} {now : ℤ}
    {receipt : Bytes} {created : Bool} (hscope : checkScope r.json config.context = .ok ())
    (h : applyPayment py config r now s = .ok ((receipt, created), p)) :
    doPost py config r.raw now s = .ok (receipt, p) := by
  simp only [doPost, Request.readRequest_raw, hscope, h, check, Except.mapError, bind, Except.bind]
  rfl

theorem doPost_conflict {config : ProviderConfig} {r : Request py} {s : ProviderStore} {now : ℤ}
    (hscope : checkScope r.json config.context = .ok ())
    (h : applyPayment py config r now s = .error (.value "immutable_request_identity_conflict")) :
    doPost py config r.raw now s = .error (.value "immutable_request_identity_conflict") := by
  simp only [doPost, Request.readRequest_raw, hscope, h, check, Except.mapError, bind, Except.bind]

/-! ## Runs -/

theorem turns_grow {s t : Services} (h : Turns py s t) : Grows s t := by
  induction h with
  | refl => exact Grows.refl _
  | tail _ hstep ih =>
    refine ih.trans ?_
    cases hstep with
    | environment he => exact grows_environment he
    | message m => exact { Grows.refl _ with sent := List.subset_append_left _ _ }
    | effect claimant hx => exact grows_exposed hx

/-- What a provider answers is the receipt of a row that it stored. -/
theorem applyPayment_row {config : ProviderConfig} {r : Request py} {now : ℤ} {s s' : ProviderStore}
    {receipt : Bytes} {created : Bool} (h : applyPayment py config r now s = .ok ((receipt, created), s')) :
    ∃ row ∈ s'.payments.rows, row.receipt = receipt ∧ row.identity.requestBytes = r.raw := by
  rcases applyPayment_ok h with ⟨-, rfl, hrow⟩ | ⟨-, c, -⟩
  · exact hrow
  · exact ⟨c.row, c.mem, rfl, rfl⟩

theorem bytesDigest_inj {a b : Bytes} (h : bytesDigest py a = bytesDigest py b) : py.sha256 a = py.sha256 b :=
  hex_injective (String.append_right_inj _ |>.1 h)

/-- After a provider answered the bytes of a request, every instance at every later time answers them
    with the same receipt and without a change, and a lookup of the request's identities with that
    receipt; a request that shares an identity but not the bytes is refused on both ways. -/
theorem payment_replayed (hpy : py.Standard) {s t : Services} (hs : Turns py .initial s) {m : ℕ × Bytes}
    (sent : m ∈ s.sent) {first : ProviderConfig} (serving : first ∈ s.providers) {t₀ : ℤ} {receipt : Bytes}
    {p : ProviderStore} (applied : doPost py first m.2 t₀ s.provider = .ok (receipt, p))
    (ht : Turns py { s with provider := p, wire := s.wire ++ [receipt] } t) {config : ProviderConfig}
    (hc : config ∈ t.providers) :
    ∃ r : Request py, r.raw = m.2 ∧
      (∀ now, applyPayment py config r now t.provider = .ok ((receipt, false), t.provider) ∧
        doPost py config m.2 now t.provider = .ok (receipt, t.provider)) ∧
      doGet py config (lookupTarget r) t.provider = .ok (.ok receipt) ∧
      ∀ r' : Request py, (r'.operationId = r.operationId ∨ r'.idempotencyKey = r.idempotencyKey) →
        r'.raw ≠ r.raw →
        (∀ now, applyPayment py config r' now t.provider =
            .error (.value "immutable_request_identity_conflict") ∧
          (checkScope r'.json config.context = .ok () → doPost py config r'.raw now t.provider =
            .error (.value "immutable_request_identity_conflict"))) ∧
        ((r'.operationId = r.operationId → r'.idempotencyKey = r.idempotencyKey →
            py.sha256 r'.raw ≠ py.sha256 r.raw) →
          doGet py config (lookupTarget r') t.provider = .ok (.error 409)) := by
  obtain ⟨r, hr, -, created, happ⟩ := doPost_scoped applied
  obtain ⟨row, hrow, hreceipt, hraw⟩ := applyPayment_row happ
  have hafter : Turns py .initial { s with provider := p, wire := s.wire ++ [receipt] } :=
    hs.tail (.environment (.deliver sent serving applied))
  have hinv := (turns_inv stores_empty (hafter.trans ht)).provider
  have hrow : row ∈ t.provider.payments.rows := (turns_grow ht).payments hrow
  obtain ⟨config', hc', scope, r', -, hscope, hid⟩ := hinv.payments row hrow
  obtain rfl : r = r' := Request.ext_raw (hraw.symm.trans (congrArg Identity.requestBytes hid))
  rw [hinv.context_eq hc' hc] at hscope
  have shared {r' : Request py} (h : r'.operationId = r.operationId ∨ r'.idempotencyKey = r.idempotencyKey) :
      shares PaymentRow.identity scope r'.operationId r'.idempotencyKey row = true := by
    rw [shares, hid]
    simp only [Request.identity, decide_true, Bool.true_and, Bool.or_eq_true]
    exact h.imp (fun h => decide_eq_true h.symm) fun h => decide_eq_true h.symm
  refine ⟨r, hr, fun now => ⟨?_, ?_⟩, ?_, fun r' hshare hne => ⟨fun now => ?_, fun hsha => ?_⟩⟩
  · rw [applyPayment_stored hscope hrow hid now, hreceipt]
  · rw [← hr, ← hraw, hinv.replays hc hrow now, hreceipt]
  · rw [← hreceipt]
    exact doGet_lookupTarget config r t.provider (lookup_stored hpy hscope hrow hid)
  · have happly := applyPayment_conflict hscope hrow (shared hshare) (fun h => hne (h.symm.trans hraw)) now
    exact ⟨happly, fun hchecked => doPost_conflict hchecked happly⟩
  · refine doGet_lookupTarget config r' t.provider (lookup_conflict hpy hscope hrow (shared hshare) ?_)
    rw [hid]
    rintro ⟨hop, hkey, hdigest⟩
    exact hsha hop.symm hkey.symm (bytesDigest_inj hdigest).symm

/-- On an empty store a payment of unknown accounts is applied as failed. -/
theorem applyPayment_unknown {config : ProviderConfig} {r : Request py} {scope identity generation : String}
    {balances : Table BalanceRow.account (· = ·)} {now : ℤ} {receipt : Bytes}
    (hscope : scopeOf py config.context = .ok scope)
    (htext : canonicalText py (generationValue config.recoveryEpoch config.configurationDigest) = .ok generation)
    (hgeneration : checkGeneration r.json config.context config.recoveryEpoch config.configurationDigest = .ok ())
    (hunknown : ∀ b ∈ balances.rows, b.account ≠ r.field "source_account" ∧ b.account ≠ r.field "beneficiary")
    (hreceipt : signedReceipt py config.privateKey config.providerId r .failed (some "unknown_account") now =
      .ok receipt) :
    ∃ p, applyPayment py config r now ⟨some ⟨identity, some generation⟩, balances, .empty, .empty⟩ =
      .ok ((receipt, true), p) := by
  have hload := loadJsonText_canonicalText (generationValue_wf _ _) htext
  obtain ⟨payments, hpayments⟩ := Table.insert_isSome (t := (.empty : Table PaymentRow.identity Identity.Clash))
    (a := ⟨r.identity scope, .failed, receipt⟩) fun b hb => (by cases hb)
  refine ⟨⟨some ⟨identity, some generation⟩, balances, payments, .empty⟩, ?_⟩
  have hnone : find PaymentRow.identity ([] : List PaymentRow) scope r = .ok none := rfl
  have hbalances : balancesOf r ⟨some ⟨identity, some generation⟩, balances, .empty, .empty⟩ = [] := by
    rw [balancesOf, List.map_eq_nil_iff, List.filter_eq_nil_iff]
    intro b hb
    simpa using hunknown b hb
  have hreason : failureReason r [] = some "unknown_account" := rfl
  simp only [applyPayment, hscope, Table.empty_rows, hnone, currentGeneration, Option.bind_some, hload, require,
    hgeneration, hbalances, hreason, hreceipt, hpayments, integrity, commitProvider, check, Except.mapError, bind, Except.bind,
    decide_true, if_true, Option.isSome_some, reduceCtorEq, if_false, List.all_nil]
  rfl

end Lookups
def sampleBank : ProviderConfig := { sampleProvider with initialBalances := dict [("carol", .str "0")] }

def sampleRefusal : Json :=
  dict [("schema", .str receiptSchema), ("provider_id", .str sampleBank.providerId),
    ("request_digest", .str sampleDigest), ("request", sampleRequest.json), ("status", .str "failed"),
    ("failure_reason", .str "unknown_account"), ("effect_id", .null), ("recorded_at_ms", .int 1)]

theorem sampleBank_applies : ∃ s receipt p, ∃ r : Request samplePlatform,
    initializeProvider samplePlatform sampleBank .empty = .ok (sampleBank, s) ∧
      doPost samplePlatform sampleBank r.raw 1 s = .ok (receipt, p) := by
  obtain ⟨prepared, hprepared⟩ := sampleRequest_prepared
  let r : Request samplePlatform := ⟨sampleRequest.json, prepared.raw, sampleRequest.wf, (prepare_ok hprepared).1⟩
  have hscope : scopeOf samplePlatform sampleContext = .ok sampleDigest := (newAdapter_ok sampleAdapter_made).2
  have htext := @canonicalText_eq samplePlatform (generationValue 1 sampleDigest) (by decide +kernel) (by decide +kernel)
  have hstart := @initializeProvider_fresh samplePlatform sampleBank _ _ _ sampleContext_valid (by decide +kernel)
    (by decide +kernel) rfl (by decide +kernel) (dict_wf (by simp [Json.WF]))
    (canonical_eq (by decide +kernel) (by decide +kernel)) (by decide +kernel)
    (canonicalText_eq (by decide +kernel) (by decide +kernel)) htext
  have hpayload : receiptPayload samplePlatform r sampleBank.providerId .failed (some "unknown_account") 1 =
      sampleRefusal := by
    have hdigest : r.digest = sampleDigest := sample_bytesDigest _
    rw [receiptPayload, hdigest]
    rfl
  have hreceipt : signedReceipt samplePlatform sampleBank.privateKey sampleBank.providerId r .failed
      (some "unknown_account") 1 = canonical samplePlatform (envelope sampleRefusal (List.replicate 64 0)) := by
    have hmessage := @canonical_eq samplePlatform sampleRefusal (by decide +kernel) (by decide +kernel)
    simp only [signedReceipt, hpayload, hmessage, bind, Except.bind]
    rfl
  rw [@canonical_eq samplePlatform (envelope sampleRefusal (List.replicate 64 0)) (by decide +kernel)
    (by decide +kernel)] at hreceipt
  have hgeneration : checkGeneration sampleRequest.json sampleBank.context sampleBank.recoveryEpoch
      sampleBank.configurationDigest = .ok () := by decide +kernel
  have hunknown : ∀ b ∈ (sampleBank.initialBalances.members.foldl seedBalance .empty).rows,
      b.account ≠ (sampleRequest.json.item "source_account").text ∧
        b.account ≠ (sampleRequest.json.item "beneficiary").text := by decide +kernel
  obtain ⟨p, hp⟩ := @applyPayment_unknown samplePlatform sampleBank r _ _ _ _ _ _ hscope htext hgeneration
    hunknown hreceipt
  have hchecked : checkScope sampleRequest.json sampleBank.context = .ok () := by decide +kernel
  exact ⟨_, _, p, r, hstart, doPost_applied hchecked hp⟩

/-- A payment of unknown accounts is applied, and its refusal replayed. -/
theorem sample_payment_replayed : ∃ s receipt p, ∃ r : Request samplePlatform,
    doPost samplePlatform sampleBank r.raw 1 s = .ok (receipt, p) ∧
      doPost samplePlatform sampleBank r.raw 2 p = .ok (receipt, p) := by
  obtain ⟨s, receipt, p, r, hstart, happlied⟩ := sampleBank_applies
  have hs : Turns samplePlatform .initial
      { Services.initial with provider := s, providers := [sampleBank], sent := [(0, r.raw)] } :=
    (Relation.ReflTransGen.single (.environment (.provider hstart))).tail (.message (0, r.raw))
  obtain ⟨r', hr', hreplay, -⟩ := payment_replayed samplePlatform_standard hs List.mem_cons_self List.mem_cons_self
    happlied .refl List.mem_cons_self
  exact ⟨s, receipt, p, r, happlied, (hreplay 2).2⟩

end VapEvidence.Payment
