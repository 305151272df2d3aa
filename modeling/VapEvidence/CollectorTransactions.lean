import VapEvidence.CollectorReceipts
import VapEvidence.ListExtends

set_option autoImplicit false

/-!
# Transactions of the collector

What the transaction of an intent may do to the store, what it must do for an intent that is stored
or new, and what is refused.
-/
namespace VapEvidence.Collector.Metadata
open Json Incident Transaction Interleaving

section Transactions
variable {pk : Packages} (server : Server pk) {s t : Store} {now body intent receipt : Json} {uuid d : String} {drop : Bool}

theorem atomic_insertRow (drop : Bool) (r : Row) (receipt : Json) : Atomic (insertRow drop r receipt) := by
  refine Atomic.bind reads_get fun s => ?_
  cases s.collections.insert r with
  | none => exact (reads_perform _).atomic
  | some collections =>
    cases drop with
    | true => exact (reads_perform _).atomic
    | false => exact atomic_set _ _

theorem atomic_acceptTransaction (drop : Bool) (now : Json) (uuid : String) (intent body : Json) :
    Atomic (acceptTransaction server drop now uuid intent body) := by
  refine Atomic.bind (reads_perform _) fun d => Atomic.bind reads_get fun s => Atomic.bind (reads_perform _) fun _ =>
    Atomic.bind (reads_perform _) fun found => ?_
  cases found with
  | none => exact Atomic.bind (reads_perform _) fun receipt => Atomic.bind (reads_perform _) fun r => atomic_insertRow drop r receipt
  | some f => exact ((reads_perform _).bind fun _ => reads_pure _).atomic

theorem insertRow_returned {r : Row} {a : Json × Bool} (h : (insertRow drop r receipt).on s = (.ok a, t)) :
    a = (receipt, true) ∧ t.identityJson = s.identityJson ∧ t.collections.rows = s.collections.rows ++ [r] := by
  rw [insertRow, on_get_bind] at h
  cases hi : s.collections.insert r with
  | none =>
    rw [hi] at h
    cases h
  | some collections =>
    rw [hi] at h
    cases drop with
    | true => cases h
    | false =>
      cases h
      exact ⟨rfl, rfl, (Table.insert_some hi).1⟩

/-- What the transaction of an intent may do: refuse it, return the receipt that is stored, or store a new row. -/
theorem acceptTransaction_cases {answer : Run (Json × Bool)}
    (h : (acceptTransaction server drop now uuid intent body).on s = (answer, t)) :
    ((∃ e, answer = .error e) ∧ t = s) ∨
    (∃ d f, digest pk intent = .ok d ∧ find server now s body = .ok (some f) ∧ answer = .ok (f.receipt, false) ∧ t = s) ∨
    ∃ d receipt r, digest pk intent = .ok d ∧ find server now s body = .ok none ∧
      signControl pk (receiptBody body d now uuid) server.secret server.collectorKeyId = .ok receipt ∧
      rowOf pk body d intent receipt = .ok r ∧ answer = .ok (receipt, true) ∧
      t.identityJson = s.identityJson ∧ t.collections.rows = s.collections.rows ++ [r] := by
  cases answer with
  | error e => exact .inl ⟨⟨e, rfl⟩, atomic_acceptTransaction server drop now uuid intent body s e t h⟩
  | ok a =>
    obtain ⟨d, hd, h⟩ := perform_returned h
    rw [on_get_bind] at h
    obtain ⟨_, -, h⟩ := perform_returned h
    obtain ⟨found, hfound, h⟩ := perform_returned h
    cases found with
    | some f =>
      obtain ⟨_, -, h⟩ := perform_returned h
      cases h
      exact .inr (.inl ⟨d, f, hd, hfound, rfl, rfl⟩)
    | none =>
      obtain ⟨receipt, hreceipt, h⟩ := perform_returned h
      obtain ⟨r, hr, h⟩ := perform_returned h
      obtain ⟨rfl, hidentity, hrows⟩ := insertRow_returned h
      exact .inr (.inr ⟨d, receipt, r, hd, hfound, hreceipt, hr, rfl, hidentity, hrows⟩)

/-! ## Finding -/

theorem find_none (h : find server now s body = .ok none) {r : Row} (hr : r ∈ s.collections.rows) :
    sameCollection body r = false ∧ sameRequest body r = false := by
  unfold find at h
  split at h
  · next hnil =>
    have := List.filter_eq_nil_iff.1 hnil r hr
    rwa [Bool.not_eq_true, Bool.or_eq_false_iff] at this
  · next r' _ =>
    obtain ⟨f, -, hf⟩ := map_ok h
    cases hf
  · cases h

theorem find_some {f : Found} (h : find server now s body = .ok (some f)) :
    ∃ r ∈ s.collections.rows, row server now r = .ok f := by
  unfold find at h
  split at h
  · cases h
  · next r hone =>
    obtain ⟨f', hf, hsome⟩ := map_ok h
    cases hsome
    have hm : r ∈ s.collections.rows.filter fun r => sameCollection body r || sameRequest body r := by
      rw [hone]
      exact List.mem_cons_self
    exact ⟨r, (List.mem_filter.1 hm).1, hf⟩
  · cases h

/-- A row that agrees on a key is what is found, or there is a conflict. -/
theorem find_row {r : Row} (hr : r ∈ s.collections.rows) (h : (sameCollection body r || sameRequest body r) = true) :
    find server now s body = (row server now r).map some ∨ find server now s body = .error (.input conflict) := by
  have hm : r ∈ s.collections.rows.filter fun r => sameCollection body r || sameRequest body r := List.mem_filter.2 ⟨hr, h⟩
  unfold find
  split
  · next hnil =>
    rw [hnil] at hm
    cases hm
  · next r' hone =>
    rw [hone] at hm
    obtain rfl := List.mem_singleton.1 hm
    exact .inl rfl
  · exact .inr rfl

theorem clash_symm (a b : String × String) (h : clash a b) : clash b a := h.imp Eq.symm Eq.symm

/-- A row that agrees on both keys is the only one. -/
theorem find_both {r : Row} (hr : r ∈ s.collections.rows) (hc : sameCollection body r = true) (hq : sameRequest body r = true) :
    find server now s body = (row server now r).map some := by
  have hc' := of_decide_eq_true hc
  have hq' := of_decide_eq_true hq
  have hall (b : Row) (hb : b ∈ s.collections.rows.filter fun r => sameCollection body r || sameRequest body r) : b = r := by
    obtain ⟨hb, hmatch⟩ := List.mem_filter.1 hb
    refine s.collections.eq_of_clash clash_symm hb hr ?_
    rcases (Bool.or_eq_true _ _).mp hmatch with h | h
    · exact .inl (Json.str.inj ((of_decide_eq_true h).symm.trans hc'))
    · exact .inr (Json.str.inj ((of_decide_eq_true h).symm.trans hq'))
  have hm : r ∈ s.collections.rows.filter fun r => sameCollection body r || sameRequest body r :=
    List.mem_filter.2 ⟨hr, by rw [hc, hq]; rfl⟩
  have hlength := length_le_one_of_pairwise (s.collections.unique.filter fun r => sameCollection body r || sameRequest body r)
    fun a ha b hb hne => hne (by rw [hall a ha, hall b hb]; exact .inl rfl)
  unfold find
  split
  · next hnil =>
    rw [hnil] at hm
    cases hm
  · next r' hone =>
    rw [hone] at hm
    obtain rfl := List.mem_singleton.1 hm
    rfl
  · next hnil hone =>
    cases hrows : s.collections.rows.filter fun r => sameCollection body r || sameRequest body r with
    | nil => exact absurd hrows hnil
    | cons a rest =>
      rw [hrows] at hlength
      obtain rfl : rest = [] := List.eq_nil_of_length_eq_zero (by simpa using hlength)
      exact absurd hrows (hone a)

/-! ## Rows that are read back -/

/-- A row that agrees on one key, or on both with another digest. -/
def Disagrees (r : Row) (body requestDigest : Json) : Prop :=
  sameCollection body r ≠ sameRequest body r ∨
    (sameCollection body r = true ∧ sameRequest body r = true ∧ requestDigest ≠ .str r.requestSha256)

theorem not_answers {r : Row} {body requestDigest : Json} (h : Disagrees r body requestDigest) :
    Found.answers ⟨r.collectionId, r.requestId, r.requestSha256, intent, receipt⟩ body requestDigest = false := by
  change (sameCollection body r && sameRequest body r && decide (requestDigest = .str r.requestSha256)) = false
  rcases h with h | ⟨-, -, h⟩
  · cases hc : sameCollection body r <;> cases hq : sameRequest body r <;> simp_all
  · rw [decide_eq_false h, Bool.and_false]

theorem disagrees_found {r : Row} {body requestDigest : Json} (h : Disagrees r body requestDigest) :
    (sameCollection body r || sameRequest body r) = true := by
  rcases h with h | ⟨h, -, -⟩
  · cases hc : sameCollection body r <;> cases hq : sameRequest body r <;> simp_all
  · rw [h, Bool.true_or]

variable {clock u : ℤ}

theorem checkIdentity_ok (message : String) (h : storedIdentity pk s = .ok server.identity) :
    checkIdentity server message s = .ok () := by
  rw [checkIdentity, h]
  exact require_true (decide_eq_true rfl)

/-- An intent that a row answers gets the receipt of the row. -/
theorem acceptTransaction_answered {r : Row} {intent' : Json} (hidentity : storedIdentity pk s = .ok server.identity)
    (hr : r ∈ s.collections.rows) (h : Readable server clock r intent' receipt) (hnow : timestamp now = .ok u) (hu : clock ≤ u)
    (hc : sameCollection body r = true) (hq : sameRequest body r = true) (hd : digest pk intent = .ok r.requestSha256) :
    (acceptTransaction server drop now uuid intent body).on s = (.ok (receipt, false), s) := by
  have hfind : find server now s body = .ok (some ⟨r.collectionId, r.requestId, r.requestSha256, intent', receipt⟩) := by
    rw [find_both server hr hc hq, h.row now u hnow hu]
    rfl
  have hanswers : Found.answers ⟨r.collectionId, r.requestId, r.requestSha256, intent', receipt⟩ body
      (.str r.requestSha256) = true := by
    change (sameCollection body r && sameRequest body r && decide (_ = _)) = true
    rw [hc, hq, decide_eq_true rfl]
    rfl
  have hcheck := checkIdentity_ok server changed hidentity
  rw [acceptTransaction, on_perform_bind hd, on_get_bind, on_perform_bind hcheck, on_perform_bind hfind, acceptFound,
    on_perform_bind (require_true hanswers), on_pure]

/-- An intent that is stored gets its receipt again. -/
theorem acceptTransaction_stored {r : Row} (hidentity : storedIdentity pk s = .ok server.identity)
    (hr : r ∈ s.collections.rows) (h : Readable server clock r intent receipt) (hnow : timestamp now = .ok u) (hu : clock ≤ u) :
    (acceptTransaction server drop now uuid intent (intent.item "body")).on s = (.ok (receipt, false), s) :=
  acceptTransaction_answered server hidentity hr h hnow hu (decide_eq_true h.collection) (decide_eq_true h.request) h.digest

/-- A row that disagrees is a conflict. -/
theorem acceptTransaction_conflict {r : Row} (hidentity : storedIdentity pk s = .ok server.identity)
    (hr : r ∈ s.collections.rows) {intent' : Json} (h : Readable server clock r intent' receipt)
    (hnow : timestamp now = .ok u) (hu : clock ≤ u) (hd : digest pk intent = .ok d) (hdis : Disagrees r body (.str d)) :
    (acceptTransaction server drop now uuid intent body).on s = (.error (.input conflict), s) := by
  have hcheck := checkIdentity_ok server changed hidentity
  rw [acceptTransaction, on_perform_bind hd, on_get_bind, on_perform_bind hcheck]
  rcases find_row server hr (disagrees_found hdis) with hfind | hfind
  · rw [h.row now u hnow hu] at hfind
    rw [on_perform_bind hfind]
    refine on_perform_error ?_ _ s
    rw [not_answers hdis]
    rfl
  · exact on_perform_error hfind _ s

theorem lookupTransaction_conflict {r : Row} (hidentity : storedIdentity pk s = .ok server.identity)
    (hr : r ∈ s.collections.rows) (h : Readable server clock r intent receipt) (hnow : timestamp now = .ok u) (hu : clock ≤ u)
    (hdis : Disagrees r body (body.item "request_sha256")) :
    lookupTransaction server now s body = .error (.input conflict) := by
  have hcheck := checkIdentity_ok server changed hidentity
  rw [lookupTransaction, hcheck]
  rcases find_row server hr (disagrees_found hdis) with hfind | hfind
  · rw [hfind, h.row now u hnow hu]
    simp only [Except.map, Option.all_some, not_answers hdis, bind, Except.bind]
    rfl
  · rw [hfind]
    rfl

/-- What a lookup finds is the row that it asks for. -/
theorem lookupTransaction_ok {found : Option Found} (h : lookupTransaction server now s body = .ok found) :
    find server now s body = .ok found ∧ ∀ f, found = some f → f.answers body (body.item "request_sha256") = true := by
  obtain ⟨_, -, h⟩ := bind_ok h
  obtain ⟨found', hfound, h⟩ := bind_ok h
  obtain ⟨_, hall, h⟩ := bind_ok h
  cases h
  refine ⟨hfound, fun f hf => ?_⟩
  have hall := Incident.require_ok hall
  rw [hf, Option.all_some] at hall
  exact hall

end Transactions

/-! ## New stores and new rows -/

section Fresh
variable {pk : Packages} (server : Server pk)

theorem server_identity_small (hsig : pk.toPlatform.Signs) : Small pk server.identity 1 13874 := by
  obtain ⟨key, -, hlength, hpublic⟩ := server_key server
  have hhex {s : String} (h : s.length = 2 * 32) : s.length ≤ maxString := h.le.trans (by decide)
  refine (@Small.dict _ _ 0 1538 identityFields rfl (by decide) (by decide) (by simp [identityFields]) ?_).mono
    (by decide) (by decide)
  simp only [List.forall_mem_cons]
  refine ⟨Short.small ⟨_, rfl, by decide⟩, Short.small ⟨_, rfl, (controlText_ok server.named).2⟩,
    Short.small ⟨_, rfl, hhex (controlHex_ok server.gatewayKey).2.1⟩,
    Short.small ⟨_, rfl, (controlText_ok server.gatewayNamed).2⟩, Short.small ⟨_, rfl, hhex ?_⟩,
    Short.small ⟨_, rfl, (controlText_ok server.keyNamed).2⟩, Short.small ⟨_, rfl, ?_⟩, fun _ h => (List.not_mem_nil h).elim⟩
  · rw [hpublic, hex_length, hsig.length key hlength]
  · obtain ⟨s, hs, -⟩ := bind_ok server.bound
    obtain ⟨heq, hle⟩ := controlText_ok hs
    rwa [Json.str.inj heq]

/-- A store can always be started. -/
theorem initializeStore_ok (hsig : pk.toPlatform.Signs) (hpk : WritesCompactly pk) (hread : ReadsBack pk) :
    ∃ s, initializeStore server none = .ok s := by
  have hcaptured := (server_identity_small server hsig).captured hpk (by decide) (by decide)
  obtain ⟨text, htext⟩ := canonicalText_captured hcaptured
  have hwf : server.identity.WF := dict_wf (by simp [WF])
  obtain ⟨key, -, hlength, hpublic⟩ := server_key server
  have hfields : server.identity.hasFields identityFields = true := by
    rw [Server.identity, hasFields_dict]
    exact ⟨by simp [identityFields], by simp [identityFields]⟩
  have hformat : server.identity.item "format" = .str "collector-pilot-store/0.1" := item_dict (by simp) (by simp)
  have hnamed : server.identity.item "collector_id" = .str server.collectorId := item_dict (by simp) (by simp)
  have hgatewayNamed : server.identity.item "gateway_key_id" = .str server.gatewayKeyId := item_dict (by simp) (by simp)
  have hkeyNamed : server.identity.item "collector_key_id" = .str server.collectorKeyId := item_dict (by simp) (by simp)
  have hgateway : server.identity.item "gateway_public" = .str server.gatewayPublic := item_dict (by simp) (by simp)
  have hcollector : server.identity.item "collector_public" = .str server.collectorPublic := item_dict (by simp) (by simp)
  have hendpoint : server.identity.item "endpoint" = .str server.endpoint := item_dict (by simp) (by simp)
  have hhex : controlHex (.str server.collectorPublic) 32 = .ok server.collectorPublic := by
    rw [hpublic]
    exact controlHex_hex (hsig.length key hlength)
  have hstored : storedIdentity pk ⟨text, 0, 0, .empty⟩ = .ok server.identity := by
    simp only [storedIdentity, decodeText_captured hread hwf hcaptured htext, exact, hfields, hformat, hnamed, hgatewayNamed,
      hkeyNamed, hgateway, hcollector, hendpoint, server.named, server.gatewayNamed, server.keyNamed, server.gatewayKey,
      hhex, server.bound, Incident.require, decide_true, if_true, bind, Except.bind, pure, Except.pure]
  refine ⟨⟨text, 0, 0, .empty⟩, ?_⟩
  simp only [initializeStore, htext, checkIdentity_ok server _ hstored, bind, Except.bind, pure, Except.pure]

/-- An accepted intent that agrees with no row is stored. -/
theorem acceptTransaction_fresh (hstd : pk.toPlatform.Standard) (hsig : pk.toPlatform.Signs) (hpk : WritesCompactly pk)
    (hread : ReadsBack pk) {s : Store} {intent body now : Json} {uuid : String} {created t : ℤ}
    (hidentity : storedIdentity pk s = .ok server.identity)
    (hfresh : ∀ r ∈ s.collections.rows, sameCollection body r = false ∧ sameRequest body r = false)
    (ha : Accepted server intent body) (hcreated : timestamp (body.item "created_at") = .ok created)
    (hnow : timestamp now = .ok t) (hle : created ≤ t) (huuid : isUuid uuid) :
    ∃ receipt s', (acceptTransaction server false now uuid intent body).on s = (.ok (receipt, true), s') ∧
      ∃ b, verifyReceipt pk receipt intent server.collectorPublic server.collectorKeyId now = .ok b := by
  obtain ⟨hbody, hcaptured, -, -⟩ := verifyControl_ok hread ha.wf ha.verified
  obtain ⟨raw, -, hraw, -⟩ := capture_ok hcaptured
  have hd : digest pk intent = .ok (sha256Hex pk raw) := by
    rw [digest, hraw]
    rfl
  obtain ⟨receipt, hsign, -, hreceipt, -, hverifies⟩ := receipt_ok server hstd hsig hpk hread ha hd hcreated hnow hle huuid
  obtain ⟨intentText, hintentText⟩ := canonicalText_captured hcaptured
  obtain ⟨receiptText, hreceiptText⟩ := canonicalText_captured hreceipt
  obtain ⟨r, hr, hkey⟩ : ∃ r, rowOf pk body (sha256Hex pk raw) intent receipt = .ok r ∧
      r.key = (textOf (body.item "collection_id"), textOf (body.item "request_id")) := by
    refine ⟨_, by rw [rowOf, hintentText, hreceiptText]; rfl, rfl⟩
  obtain ⟨-, hid, -⟩ := validateIntent_ok hread (hbody ▸ wf_item ha.wf "body") ha.valid
  obtain ⟨collectorId, requestId, id, -, hrequest, hcollection, -, -, -⟩ := identity_ok hid
  obtain ⟨collections, hinsert⟩ : ∃ collections, s.collections.insert r = some collections := by
    refine Table.insert_isSome fun b hb hclash => ?_
    rw [hkey, hrequest, hcollection] at hclash
    obtain ⟨hc, hq⟩ := hfresh b hb
    rcases hclash with hclash | hclash
    · rw [sameCollection, hcollection, decide_eq_false_iff_not] at hc
      exact hc (congrArg Json.str hclash.symm)
    · rw [sameRequest, hrequest, decide_eq_false_iff_not] at hq
      exact hq (congrArg Json.str hclash.symm)
  have hfind : find server now s body = .ok none := by
    have hnil : (s.collections.rows.filter fun r => sameCollection body r || sameRequest body r) = [] := by
      refine List.filter_eq_nil_iff.2 fun b hb => ?_
      rw [(hfresh b hb).1, (hfresh b hb).2]
      exact Bool.false_ne_true
    simp only [find, hnil]
  have hcheck := checkIdentity_ok server changed hidentity
  refine ⟨receipt, { s with collections := collections }, ?_, hverifies now t hnow le_rfl⟩
  rw [acceptTransaction, on_perform_bind hd, on_get_bind, on_perform_bind hcheck, on_perform_bind hfind, acceptFound,
    on_perform_bind hsign, on_perform_bind hr, insertRow, on_get_bind, hinsert]
  rfl

end Fresh
end VapEvidence.Collector.Metadata
