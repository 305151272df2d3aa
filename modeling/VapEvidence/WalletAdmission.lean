import VapEvidence.EvidenceVerdicts
import VapEvidence.PaymentConservation
import VapEvidence.WalletEvidence

set_option autoImplicit false

/-!
# What an admitted wallet bundle establishes

Admission needs all four claims to be valid, and a check that is skipped for the shape of a
record leaves another one that fails. So each record of an admitted bundle verifies, and all
comparisons between them hold.
-/
namespace VapEvidence.Wallet
open Json
open PaymentEvidence (Check Verdict Trust Passes passes_append passes_cons verdictOf verdictOf_valid elements agree
  decimalValue oneOf)

section Checks
variable {py : Platform}

/-! ## Single checks -/

theorem passes_option {α : Type} {o : Option α} {a : α} {f : α → List Check} (ho : o = some a)
    (h : Passes (o.toList.flatMap f)) : Passes (f a) := by
  subst ho
  simpa using h

theorem passes_if {c : Prop} [Decidable c] {checks : List Check} (hc : c)
    (h : Passes (if c then checks else [])) : Passes checks := by
  rwa [if_pos hc] at h

theorem passes_map {α : Type} {xs : List α} {f : α → Check} :
    Passes (xs.map f) ↔ ∀ x ∈ xs, (f x).Passes := List.forall_mem_map

theorem passes_agree {a b : Json} {fields : List String} {before after : String} :
    Passes (agree a b fields before after) ↔ ∀ f ∈ fields, a.item f = b.item f := by
  rw [agree, passes_map]
  exact forall₂_congr fun f _ => decide_eq_true_iff

theorem passes_require {b : Bool} {reason : String} : (Check.require b reason).Passes ↔ b = true := Iff.rfl

theorem passes_available {b : Bool} {reason : String} : (Check.available b reason).Passes ↔ b = true := Iff.rfl

theorem passes_one {c : Check} : Passes [c] ↔ c.Passes := List.forall_mem_singleton

theorem int_of_integerOk {v : Json} (h : integerOk v = true) : v = .int v.number := by
  cases v <;> first | rfl | cases h

/-- A time lies in the half-open window that two fields of a record span. -/
def Within (body : Json) (start stop : String) (t : ℤ) : Prop :=
  ∃ first last, body.item start = .int first ∧ body.item stop = .int last ∧ first ≤ t ∧ t < last

theorem window_passes {body : Json} {start stop label : String} {t : ℤ}
    (h : Passes (window body start stop t label)) : Within body start stop t := by
  rw [window, passes_cons, passes_require] at h
  obtain ⟨hvalid, h⟩ := h
  have hin := passes_require.1 (passes_one.1 (passes_if hvalid h))
  simp only [Bool.and_eq_true, decide_eq_true_eq] at hvalid hin
  exact ⟨_, _, int_of_integerOk hvalid.1.1, int_of_integerOk hvalid.1.2, hin⟩

theorem window_shape {body : Json} {start stop label : String} {t : ℤ}
    (h : Passes (window body start stop t label)) :
    integerOk (body.item start) = true ∧ integerOk (body.item stop) = true := by
  rw [window, passes_cons, passes_require] at h
  obtain ⟨hvalid, -⟩ := h
  simp only [Bool.and_eq_true] at hvalid
  exact hvalid.1

/-- A record was made at most `maxAge` before. -/
def Fresh (body : Json) (start : String) (maxAge t : ℤ) : Prop :=
  ∃ made, body.item start = .int made ∧ made ≤ t ∧ t - made ≤ maxAge

theorem fresh_passes {body : Json} {start label : String} {t maxAge : ℤ}
    (h : Passes (fresh body start t maxAge label)) : Fresh body start maxAge t := by
  rw [fresh, passes_cons, passes_require] at h
  obtain ⟨hint, h⟩ := h
  have hin := passes_available.1 (passes_one.1 (passes_if hint h))
  simp only [Bool.and_eq_true, decide_eq_true_eq] at hin
  exact ⟨_, int_of_integerOk hint, hin⟩

theorem fresh_shape {body : Json} {start label : String} {t maxAge : ℤ}
    (h : Passes (fresh body start t maxAge label)) : integerOk (body.item start) = true := by
  rw [fresh, passes_cons, passes_require] at h
  exact h.1

theorem not_listed {v list : Json} (h : listed v list = false) : v ∉ elements list := by
  intro hv
  have htrue : listed v list = true := List.any_eq_true.2 ⟨v, hv, pyEq_refl v⟩
  rw [h] at htrue
  cases htrue

theorem listed_text {s : String} {list : Json} (h : listed (.str s) list = true) : .str s ∈ elements list := by
  obtain ⟨x, hx, he⟩ := List.any_eq_true.1 h
  rwa [pyEq_str he] at hx

/-! ## Records -/

/-- The payload of a record of a bundle. -/
def payloadOf (bundle : Json) (record : Record) : Json :=
  ((bundle.item "evidence").item record.name).item "payload"

variable (py) in
/-- The record bears a signature under the key that the caller trusts for its role and that it names. -/
structure SignedBy (trust : Trust) (bundle : Json) (record : Record) (publicKey : Bytes) : Prop where
  envelope : envelopeOk ((bundle.item "evidence").item record.name) = true
  encoding : Payment.signatureOk (((bundle.item "evidence").item record.name).item "signature") = true
  trusted : trustedKey trust record (((bundle.item "evidence").item record.name).item "key_id") = some publicKey
  verifies : py.verify publicKey (signedBytes py ((bundle.item "evidence").item record.name))
    ((unhex (((bundle.item "evidence").item record.name).item "signature").text).getD []) = true

variable (py) in
/-- The record verifies, and is one of its kind for the run of the bundle. -/
structure Verified (trust : Trust) (bundle : Json) (record : Record) : Prop where
  signed : ∃ publicKey, SignedBy py trust bundle record publicKey
  fields : (payloadOf bundle record).hasFields (record.fields ++ ["kind", "run_id"]) = true
  kind : (payloadOf bundle record).item "kind" = .str record.name
  run : (payloadOf bundle record).item "run_id" = bundle.item "run_id"

theorem readRecord_found {trust : Trust} {bundle body : Json} {record : Record} {publicKey : Bytes}
    (h : (readRecord py trust (bundle.item "evidence") record).2 = some (body, publicKey)) :
    body = payloadOf bundle record ∧ SignedBy py trust bundle record publicKey := by
  unfold readRecord at h
  dsimp only at h
  split_ifs at h with hnull henv hsig
  split at h
  · cases h
  · next key hkey =>
    split_ifs at h with hverify
    cases h
    simp only [Bool.not_eq_true', Bool.not_eq_false] at henv hsig hverify
    exact ⟨rfl, henv, hsig, hkey, hverify⟩

/-- What `_body` asks of a record holds, so the record is verified and its body is in use. -/
theorem bodyChecks_passes {trust : Trust} {bundle : Json} {record : Record}
    (h : Passes (bodyChecks py (viewOf py trust bundle) record)) :
    Verified py trust bundle record ∧
      (viewOf py trust bundle).body record = some (payloadOf bundle record) := by
  unfold bodyChecks at h
  cases hf : (viewOf py trust bundle).found record with
  | none =>
    rw [hf] at h
    exact absurd (passes_available.1 (passes_one.1 h)) (by decide)
  | some found =>
    obtain ⟨body, publicKey⟩ := found
    obtain ⟨rfl, hsigned⟩ := readRecord_found hf
    rw [hf, Option.map_some] at h
    dsimp only at h
    rw [passes_cons] at h
    obtain ⟨-, h⟩ := h
    split_ifs at h with hfields
    · exact absurd (passes_require.1 (passes_one.1 h)) (by decide)
    · rw [passes_cons, passes_one, passes_require, passes_require, decide_eq_true_iff, decide_eq_true_iff] at h
      simp only [Bool.not_eq_true', Bool.not_eq_false] at hfields
      refine ⟨⟨⟨publicKey, hsigned⟩, hfields, h.1, h.2⟩, ?_⟩
      rw [View.body, hf, Option.map_some]
      exact Option.filter_some_pos hfields

/-! ## Authorization -/

theorem policyChecks_pass {op p : Json} {at_ : ℤ} (h : Passes (policyChecks py op at_ p)) :
    op.item "policy_digest" = .str (digest py p) ∧ Within p "valid_from" "valid_until" at_ := by
  simp only [policyChecks, passes_cons, passes_append, passes_require, decide_eq_true_iff] at h
  exact ⟨h.1, window_passes h.2.2⟩

theorem approvalChecks_pass {op a : Json} {at_ : ℤ} (h : Passes (approvalChecks py op at_ a)) :
    a.item "operation_digest" = .str (digest py op) ∧ a.item "policy_digest" = op.item "policy_digest" ∧
      Within a "issued_at" "expires_at" at_ ∧ integerOk (a.item "issued_at") = true := by
  simp only [approvalChecks, passes_cons, passes_append, passes_require, decide_eq_true_iff] at h
  obtain ⟨⟨-, hop, hpolicy, -⟩, hwindow⟩ := h
  exact ⟨hop, hpolicy, window_passes hwindow, (window_shape hwindow).1⟩

/-- What a revocation snapshot says of the approval and the credential of an operation. -/
structure Unrevoked (py : Platform) (op a r : Json) (at_ maxAge : ℤ) : Prop where
  times : integerOk (r.item "checked_at") = true ∧ integerOk (r.item "valid_until") = true
  operation : r.item "operation_digest" = .str (digest py op)
  policy : r.item "policy_digest" = op.item "policy_digest"
  approval : r.item "approval_digest" = .str (digest py a)
  after : ∃ issued checked, a.item "issued_at" = .int issued ∧ r.item "checked_at" = .int checked ∧ issued ≤ checked
  fresh : Fresh r "checked_at" maxAge at_
  unexpired : Within r "checked_at" "valid_until" at_
  credentials : textsOk (r.item "revoked_credentials") = true ∧
    op.item "credential_id" ∉ elements (r.item "revoked_credentials")
  approvals : textsOk (r.item "revoked_approvals") = true ∧
    a.item "approval_id" ∉ elements (r.item "revoked_approvals")

theorem isList_of_textsOk {v : Json} (h : textsOk v = true) : isList v = true := by
  cases v <;> first | rfl | cases h

theorem revocationChecks_pass {op a r : Json} {at_ maxAge : ℤ} (hint : integerOk (a.item "issued_at") = true)
    (h : Passes (revocationChecks py op at_ maxAge (some a) r)) : Unrevoked py op a r at_ maxAge := by
  simp only [revocationChecks, Option.toList_some, List.flatMap_singleton, snapshotChecks, passes_cons, passes_append,
    passes_require, decide_eq_true_iff, List.map_cons, List.map_nil] at h
  obtain ⟨⟨⟨⟨⟨⟨⟨⟨-, hop, hpolicy, -⟩, happroval, hafter⟩, hfresh⟩, htimed, -⟩, hexpiry⟩, hcred, happ, -⟩, hc⟩, ha⟩ := h
  have hfresh := fresh_passes hfresh
  have htimed' := htimed
  simp only [Bool.and_eq_true, decide_eq_true_eq] at htimed'
  have hchecked := int_of_integerOk htimed'.1.2
  have hafter := passes_if (by rw [htimed'.1.2, hint]; rfl) hafter
  have hexpiry := passes_available.1 (passes_one.1 (passes_if htimed hexpiry))
  have hc := passes_require.1 (passes_one.1 (passes_if (isList_of_textsOk hcred) hc))
  have ha := passes_require.1 (passes_one.1 (passes_if (isList_of_textsOk happ) ha))
  rw [Bool.not_eq_true'] at hc ha
  rw [passes_one, passes_require, decide_eq_true_iff] at hafter
  refine ⟨⟨htimed'.1.2, htimed'.1.1⟩, hop, hpolicy, happroval, ⟨_, _, int_of_integerOk hint, hchecked, hafter⟩, hfresh, ?_,
    ⟨hcred, not_listed hc⟩, happ, not_listed ha⟩
  obtain ⟨made, hmade, hle, -⟩ := hfresh
  exact ⟨made, _, hmade, int_of_integerOk htimed'.1.1, hle, of_decide_eq_true hexpiry⟩

/-- The gate was recorded and the other routes were blocked. -/
structure Controlled (py : Platform) (op control : Json) (at_ maxAge : ℤ) : Prop where
  time : integerOk (control.item "observed_at") = true
  operation : control.item "operation_digest" = .str (digest py op)
  deployment : ∀ f ∈ ["workload_id", "deployment_digest"], control.item f = op.item f
  fresh : Fresh control "observed_at" maxAge at_
  named : (control.item "routes").hasFields ["approved_gate", "direct_signer", "deployment_signer"] = true
  routes : ∀ route ∈ [("approved_gate", "recorded"), ("direct_signer", "blocked"), ("deployment_signer", "blocked")],
    (control.item "routes").item route.1 = .str route.2

theorem controlChecks_pass {op control : Json} {at_ maxAge : ℤ}
    (h : Passes (controlChecks py op at_ maxAge control)) : Controlled py op control at_ maxAge := by
  simp only [controlChecks, passes_cons, passes_append, passes_require, decide_eq_true_iff, passes_agree] at h
  obtain ⟨hop, ⟨⟨hagree, -⟩, hfresh⟩, hroutes⟩ := h
  unfold routeChecks at hroutes
  split_ifs at hroutes with hnamed
  · exact absurd (passes_available.1 (passes_one.1 hroutes)) (by decide)
  · rw [passes_map] at hroutes
    simp only [Bool.not_eq_true', Bool.not_eq_false] at hnamed
    refine ⟨fresh_shape hfresh, hop, hagree, fresh_passes hfresh, hnamed, fun route hroute => ?_⟩
    have hpass := hroutes route hroute
    split_ifs at hpass
    · exact absurd (passes_available.1 hpass) (by decide)
    · exact of_decide_eq_true (passes_require.1 hpass)

/-! ## Execution -/

/-- What an execution says of the operation and of the records before it. -/
structure Executed (py : Platform) (op p a r control e : Json) (at_ maxAge executed : ℤ) : Prop where
  time : e.item "observed_at" = .int executed ∧ executed ≤ at_
  operationBound : e.item "operation_digest" = .str (digest py op)
  policyBound : e.item "policy_digest" = op.item "policy_digest"
  approvalBound : e.item "approval_digest" = .str (digest py a)
  revocationBound : e.item "revocation_digest" = .str (digest py r)
  controlBound : e.item "control_digest" = .str (digest py control)
  actual : digest py (e.item "actual_operation") = digest py op
  payload : .str (bytesDigest py (hexBytes (e.item "signing_payload"))) = op.item "signing_payload_digest"
  state : oneOf ["signed", "broadcast", "included"] (e.item "state") = true
  policyWindow : Within p "valid_from" "valid_until" executed
  approvalWindow : Within a "issued_at" "expires_at" executed
  unexpired : Within r "checked_at" "valid_until" executed
  revocationFresh : Fresh r "checked_at" maxAge executed
  controlFresh : Fresh control "observed_at" maxAge executed

theorem boundChecks_pass {v : View} {e body : Json} {record : Record} {field : String}
    (hbody : v.body record = some body) (h : Passes (boundChecks py v e record field)) :
    e.item field = .str (digest py body) := by
  rw [boundChecks, passes_cons, hbody] at h
  exact of_decide_eq_true (passes_require.1 (passes_one.1 h.2))

theorem actualChecks_pass {op e : Json} (h : Passes (actualChecks py op e)) :
    digest py (e.item "actual_operation") = digest py op := by
  unfold actualChecks at h
  split at h
  · exact absurd (passes_require.1 (passes_one.1 h)) (by decide)
  · exact of_decide_eq_true (passes_require.1 (passes_one.1 h))

/-- The windows of the earlier records at the time of an execution. -/
theorem executionTimes_pass {v : View} {p a r control e : Json} {at_ maxAge : ℤ} (hp : v.body .policy = some p)
    (ha : v.body .approval = some a) (hr : v.body .finalRevocation = some r)
    (hc : v.body .controlObservation = some control) (hrt : integerOk (r.item "checked_at") = true)
    (hru : integerOk (r.item "valid_until") = true) (hct : integerOk (control.item "observed_at") = true)
    (h : Passes (executionTimes v at_ maxAge e)) :
    (e.item "observed_at").number ≤ at_ ∧ Within p "valid_from" "valid_until" (e.item "observed_at").number ∧
      Within a "issued_at" "expires_at" (e.item "observed_at").number ∧
      Within r "checked_at" "valid_until" (e.item "observed_at").number ∧
      Fresh r "checked_at" maxAge (e.item "observed_at").number ∧
      Fresh control "observed_at" maxAge (e.item "observed_at").number := by
  simp only [executionTimes, passes_cons, passes_append, passes_available, decide_eq_true_iff] at h
  obtain ⟨hat, ⟨⟨hrev, hcon⟩, hpol⟩, happ⟩ := h
  have hrev := passes_option hr hrev
  have hrev := passes_if (by rw [hrt, hru]; rfl) hrev
  have hcon := passes_option hc hcon
  have hcon := passes_if hct hcon
  have hpol := passes_option hp hpol
  have happ := passes_option ha happ
  simp only [passes_cons, passes_require, passes_available, Bool.and_eq_true, decide_eq_true_iff] at hrev hcon
  exact ⟨hat, window_passes hpol, window_passes happ, ⟨_, _, int_of_integerOk hrt, int_of_integerOk hru, hrev.1⟩,
    ⟨_, int_of_integerOk hrt, hrev.1.1, hrev.2.1⟩, ⟨_, int_of_integerOk hct, hcon.1, hcon.2.1⟩⟩

theorem executionChecks_pass {v : View} {p a r control e : Json} {at_ maxAge : ℤ} (hp : v.body .policy = some p)
    (ha : v.body .approval = some a) (hr : v.body .finalRevocation = some r)
    (hc : v.body .controlObservation = some control) (hu : Unrevoked py v.operation a r at_ maxAge)
    (hct : Controlled py v.operation control at_ maxAge) (h : Passes (executionChecks py v at_ maxAge e)) :
    integerOk (e.item "observed_at") = true ∧
      ∃ executed, Executed py v.operation p a r control e at_ maxAge executed := by
  simp only [executionChecks, passes_cons, passes_append, passes_require, passes_available, decide_eq_true_iff] at h
  obtain ⟨⟨⟨⟨⟨⟨⟨⟨⟨hop, hpolicy, -⟩, happroval⟩, hrevocation⟩, hcontrol⟩, hactual⟩, hhex, -⟩, hpayload⟩,
    -, hstate, hint, -⟩, htimes⟩ := h
  have hpayload := passes_require.1 (passes_one.1 (passes_if hhex hpayload))
  obtain ⟨hle, hpw, haw, hrw, hrf, hcf⟩ := executionTimes_pass hp ha hr hc hu.times.1 hu.times.2 hct.time
    (passes_if hint htimes)
  exact ⟨hint, _, ⟨int_of_integerOk hint, hle⟩, hop, hpolicy, boundChecks_pass ha happroval,
    boundChecks_pass hr hrevocation, boundChecks_pass hc hcontrol, actualChecks_pass hactual,
    of_decide_eq_true hpayload, hstate, hpw, haw, hrw, hrf, hcf⟩

/-! ## Chain -/

/-- Two decimal texts of one number are one text. -/
theorem decimal_unique {v w : Json} (hv : decimalOk v = true) (hw : decimalOk w = true)
    (h : decimalValue v = decimalValue w) : v = w := by
  cases v with
  | str s =>
    cases w with
    | str t =>
      simp only [decimalOk, Bool.and_eq_true] at hv hw
      rw [String.toList_inj.1 (Payment.decimalDigits_injective hv.1 hw.1 h)]
    | _ => cases hw
  | _ => cases hv

/-- The state was observed in the very block that includes the transaction. -/
theorem inclusionChecks_pass {b : Json} (hcontext : contextOk b = true) (h : Passes (inclusionChecks b)) :
    b.item "block_number" = b.item "transaction_block_number" ∧
      b.item "block_hash" = b.item "transaction_block_hash" ∧ inclusionOk b = true := by
  unfold inclusionChecks at h
  by_cases hnone : (["transaction_hash", "transaction_block_number", "transaction_block_hash"].all
      fun f => b.item f = .null) = true
  · rw [if_pos hnone] at h
    exact absurd (passes_available.1 (passes_one.1 h)) (by decide)
  · rw [if_neg hnone, passes_cons, passes_require] at h
    obtain ⟨hinclusion, h⟩ := h
    have h := passes_if (by rw [hcontext, hinclusion]; rfl) h
    have hnumber : decimalOk (b.item "block_number") = true := by
      rw [contextOk, Bool.and_eq_true] at hcontext
      exact hcontext.1
    have hnumber' : decimalOk (b.item "transaction_block_number") = true := by
      simp only [inclusionOk, Bool.and_eq_true] at hinclusion
      exact hinclusion.1.2
    rw [blockChecks, passes_cons, passes_require, decide_eq_true_iff] at h
    obtain ⟨hle, h⟩ := h
    split_ifs at h with hsame hlater
    · exact ⟨hsame, of_decide_eq_true (passes_require.1 (passes_one.1 h)), hinclusion⟩
    · exact absurd (passes_available.1 (passes_one.1 h)) (by decide)
    · exact absurd (decimal_unique hnumber hnumber' (by omega)) hsame

/-- What a chain observation says of the operation and of its execution. -/
structure Observed (py : Platform) (op p e b : Json) (at_ : ℤ) : Prop where
  time : ∃ executed observed, e.item "observed_at" = .int executed ∧ b.item "observed_at" = .int observed ∧
    executed ≤ observed ∧ observed ≤ at_
  operationBound : b.item "operation_digest" = .str (digest py op)
  wallet : ∀ f ∈ ["chain_id", "wallet"], b.item f = op.item f
  executionBound : b.item "execution_digest" = .str (digest py e)
  submitted : oneOf ["broadcast", "included"] (e.item "state") = true
  blocks : contextOk b = true ∧ inclusionOk b = true
  number : b.item "block_number" = b.item "transaction_block_number"
  hash : b.item "block_hash" = b.item "transaction_block_hash"
  finality : b.item "finality" = .str "finalized" ∨
    b.item "finality" = .str "observed_block" ∧ p.item "required_finality" = .str "observed_block"
  action : op.item "action" ≠ .str "transfer"
  code : b.item "delegation_code" = .str (requestedCode op)

theorem chainTimes_pass {e b : Json} {at_ : ℤ} (hint : integerOk (e.item "observed_at") = true)
    (hb : integerOk (b.item "observed_at") = true) (h : Passes (chainTimes at_ (some e) b)) :
    ∃ executed observed, e.item "observed_at" = .int executed ∧ b.item "observed_at" = .int observed ∧
      executed ≤ observed ∧ observed ≤ at_ := by
  rw [chainTimes, passes_cons, passes_available, decide_eq_true_iff] at h
  obtain ⟨hat, h⟩ := h
  have h := passes_option rfl h
  have h := passes_if hint h
  exact ⟨_, _, int_of_integerOk hint, int_of_integerOk hb,
    of_decide_eq_true (passes_require.1 (passes_one.1 h)), hat⟩

theorem codeChecks_pass {op b : Json} (hhex : hexOk (b.item "delegation_code") = true)
    (h : Passes (codeChecks op b)) :
    op.item "action" ≠ .str "transfer" ∧ b.item "delegation_code" = .str (requestedCode op) := by
  unfold codeChecks at h
  split_ifs at h with htransfer
  · exact absurd (passes_available.1 (passes_one.1 h)) (by decide)
  · exact ⟨htransfer, of_decide_eq_true (passes_require.1 (passes_one.1 h))⟩

theorem chainChecks_pass {v : View} {trust : Trust} {p e b : Json} {at_ : ℤ} (hp : v.body .policy = some p)
    (he : v.body .execution = some e) (hint : integerOk (e.item "observed_at") = true)
    (h : Passes (chainChecks py v trust at_ b)) : Observed py v.operation p e b at_ ∧
      (v.found .chainObservation).any (fun found => !(otherKeys trust).contains found.2) = true := by
  simp only [chainChecks, passes_cons, passes_append, passes_require, passes_available, decide_eq_true_iff,
    passes_agree] at h
  obtain ⟨⟨⟨⟨⟨⟨⟨⟨⟨⟨hkey, hop, -⟩, hagree⟩, htime, -⟩, htimes⟩, -⟩, hsubmission⟩, hcontext, -, -, hhex, -⟩, hfinality⟩,
    hinclusion⟩, hcode⟩ := h
  have hsubmission := passes_option he hsubmission
  simp only [submissionChecks, passes_cons, passes_require, passes_available, decide_eq_true_iff] at hsubmission
  rw [he] at htimes
  rw [hp, finalityChecks, passes_one, passes_available, Bool.or_eq_true, Bool.and_eq_true, decide_eq_true_iff,
    decide_eq_true_iff, decide_eq_true_iff] at hfinality
  obtain ⟨hnumber, hhash, hincluded⟩ := inclusionChecks_pass hcontext hinclusion
  obtain ⟨haction, hcode⟩ := codeChecks_pass hhex hcode
  refine ⟨⟨chainTimes_pass hint htime (passes_if htime htimes), hop, hagree, hsubmission.1,
    hsubmission.2.1, ⟨hcontext, hincluded⟩, hnumber, hhash, hfinality, haction, hcode⟩, ?_⟩
  rwa [Option.any_map] at hkey

/-! ## Bundles that are read -/

theorem require_mono {d d' : ℕ} {message : String} (hle : d' ≤ d)
    (h : require (decide (d ≤ 64)) message = .ok ()) : require (decide (d' ≤ 64)) message = .ok () :=
  require_ok.2 (decide_eq_true (hle.trans (of_decide_eq_true (require_ok.1 h))))

mutual
theorem jsonValue_plain : ∀ (d : ℕ) (v : Json), jsonValue py d v = .ok () → WF v → Plain (fun _ => True) v
  | _, .null, _, _ => trivial
  | _, .bool _, _, _ => trivial
  | _, .int _, _, _ => trivial
  | _, .float _, h, _ => by
    obtain ⟨-, -, h⟩ := bind_ok h
    cases h
  | _, .str _, _, _ => trivial
  | d, .arr xs, h, hw => by
    obtain ⟨-, -, h⟩ := bind_ok h
    exact jsonElems_plain (d + 1) xs h hw
  | d, .obj ms, h, hw => by
    obtain ⟨-, -, h⟩ := bind_ok h
    exact ⟨hw.1, jsonMembers_plain (d + 1) ms h hw.2⟩
theorem jsonElems_plain : ∀ (d : ℕ) (xs : List Json), jsonElems py d xs = .ok () → WFList xs →
    PlainList (fun _ => True) xs
  | _, [], _, _ => trivial
  | d, x :: xs, h, hw => by
    obtain ⟨_, hx, h⟩ := bind_ok h
    exact ⟨jsonValue_plain d x hx hw.1, jsonElems_plain d xs h hw.2⟩
theorem jsonMembers_plain : ∀ (d : ℕ) (ms : List (String × Json)), jsonMembers py d ms = .ok () → WFMembers ms →
    PlainMembers (fun _ => True) ms
  | _, [], _, _ => trivial
  | d, (k, x) :: ms, h, hw => by
    obtain ⟨-, -, h⟩ := bind_ok h
    obtain ⟨-, -, h⟩ := bind_ok h
    obtain ⟨_, hx, h⟩ := bind_ok h
    exact ⟨jsonValue_plain d x hx hw.1, jsonMembers_plain d ms h hw.2⟩
end

mutual
theorem jsonValue_mono {d d' : ℕ} (hle : d' ≤ d) : ∀ v : Json, jsonValue py d v = .ok () → jsonValue py d' v = .ok ()
  | .null, h => require_mono hle h
  | .bool _, h => require_mono hle h
  | .int _, h => by
    obtain ⟨_, hd, h⟩ := bind_ok h
    rwa [jsonValue, require_mono hle hd]
  | .float _, h => by
    obtain ⟨-, -, h⟩ := bind_ok h
    cases h
  | .str _, h => by
    obtain ⟨_, hd, h⟩ := bind_ok h
    rwa [jsonValue, require_mono hle hd]
  | .arr xs, h => by
    obtain ⟨_, hd, h⟩ := bind_ok h
    rw [jsonValue, require_mono hle hd]
    exact jsonElems_mono (Nat.succ_le_succ hle) xs h
  | .obj ms, h => by
    obtain ⟨_, hd, h⟩ := bind_ok h
    rw [jsonValue, require_mono hle hd]
    exact jsonMembers_mono (Nat.succ_le_succ hle) ms h
theorem jsonElems_mono {d d' : ℕ} (hle : d' ≤ d) : ∀ xs : List Json, jsonElems py d xs = .ok () →
    jsonElems py d' xs = .ok ()
  | [], _ => rfl
  | x :: xs, h => by
    obtain ⟨_, hx, h⟩ := bind_ok h
    rw [jsonElems, jsonValue_mono hle x hx]
    exact jsonElems_mono hle xs h
theorem jsonMembers_mono {d d' : ℕ} (hle : d' ≤ d) : ∀ ms : List (String × Json), jsonMembers py d ms = .ok () →
    jsonMembers py d' ms = .ok ()
  | [], _ => rfl
  | (k, x) :: ms, h => by
    obtain ⟨_, hd, h⟩ := bind_ok h
    obtain ⟨_, hk, h⟩ := bind_ok h
    obtain ⟨_, hx, h⟩ := bind_ok h
    rw [jsonMembers, require_mono hle hd, hk, jsonValue_mono hle x hx]
    exact jsonMembers_mono hle ms h
end

theorem jsonMembers_lookup {d : ℕ} {k : String} : ∀ {ms : List (String × Json)} {x : Json},
    jsonMembers py d ms = .ok () → ms.lookup k = some x → jsonValue py d x = .ok ()
  | (l, y) :: ms, x, h, hx => by
    obtain ⟨_, -, h⟩ := bind_ok h
    obtain ⟨_, -, h⟩ := bind_ok h
    obtain ⟨_, hy, h⟩ := bind_ok h
    by_cases hk : k == l
    · rw [List.lookup_cons, hk] at hx
      cases hx
      exact hy
    · rw [List.lookup_cons, eq_false_of_ne_true hk] at hx
      exact jsonMembers_lookup h hx

/-- Every part of a value that is written canonically has a digest. -/
theorem canonicalJson_item {v : Json} {raw : Bytes} (k : String) (h : canonicalJson py v = .ok raw) :
    ∃ part, canonicalJson py (v.item k) = .ok part ∧ digest py (v.item k) = bytesDigest py part := by
  obtain ⟨_, hv, -⟩ := bind_ok h
  have hitem : jsonValue py 0 (v.item k) = .ok () := by
    cases v with
    | obj ms =>
      obtain ⟨-, -, hms⟩ := bind_ok hv
      cases hx : ms.lookup k with
      | none =>
        rw [item, get?, members, hx]
        rfl
      | some x =>
        rw [item, get?, members, hx]
        exact jsonValue_mono (Nat.zero_le 1) x (jsonMembers_lookup hms hx)
    | _ => rfl
  refine ⟨_, ?_, rfl⟩
  rw [canonicalJson, hitem]
  rfl

/-- What is written canonically is read back as it was. -/
theorem loadJson_canonicalJson {v : Json} {raw : Bytes} (hv : v.WF) (h : canonicalJson py v = .ok raw) :
    loadJson py raw = .ok v := by
  have hcanonical := h
  obtain ⟨_, hc, h⟩ := bind_ok h
  cases h
  have hp := jsonValue_plain 0 v hc hv
  have hloads : loads PaymentEvidence.evidenceHooks (dumps py.floatRepr false v) = .ok v :=
    loads_dumps PaymentEvidence.evidenceHooks py.floatRepr false (fun _ => True)
      (fun n _ => by simp [PaymentEvidence.evidenceHooks, intToken_dumpInt])
      (fun ms hms => uniquePairs_sorted _ ms hms) v hp
  rw [loadJson, decodeText_dumps py _ v hp]
  dsimp only
  rw [hloads]
  change (canonicalJson py v >>= _) = _
  rw [hcanonical]
  rfl

theorem readBundle_ok {bundle read : Json} (hw : bundle.WF) (h : readBundle py bundle = .ok read) :
    read = bundle ∧ validateOperation (bundle.item "operation") = .ok () := by
  obtain ⟨raw, hraw, h⟩ := bind_ok h
  obtain ⟨value, hvalue, h⟩ := bind_ok h
  obtain ⟨-, -, h⟩ := bind_ok h
  obtain ⟨-, -, h⟩ := bind_ok h
  obtain ⟨-, -, h⟩ := bind_ok h
  obtain ⟨⟨⟩, hop, h⟩ := bind_ok h
  cases h
  obtain rfl := Except.ok.inj (hvalue.symm.trans (loadJson_canonicalJson hw hraw))
  exact ⟨rfl, hop⟩

/-- A bundle of the right shape is read as it is. -/
theorem readBundle_self {bundle : Json} (hw : bundle.WF) (hvalue : jsonValue py 0 bundle = .ok ())
    (hfields : bundle.hasFields ["schema", "synthetic", "run_id", "operation", "evidence"] = true)
    (hscope : (bundle.item "schema" = .str bundleSchema && bundle.item "synthetic" = .bool true &&
      textOk (bundle.item "run_id")) = true)
    (hkeys : ((bundle.item "evidence").isDict &&
      (bundle.item "evidence").keys.all fun k => (records.map Record.name).contains k) = true)
    (hop : validateOperation (bundle.item "operation") = .ok ()) : readBundle py bundle = .ok bundle := by
  have hcanonical : canonicalJson py bundle = .ok (encodeUtf8 (dumps py.floatRepr false bundle)) := by
    rw [canonicalJson, hvalue]
    rfl
  simp only [readBundle, hcanonical, loadJson_canonicalJson hw hcanonical, require, hfields, hscope, hkeys, hop,
    if_true, Bind.bind, Except.bind, pure, Except.pure]

theorem validateOperation_action {op : Json} (h : validateOperation op = .ok ()) :
    oneOf ["transfer", "delegate", "clear_delegation"] (op.item "action") = true := by
  obtain ⟨-, -, h⟩ := bind_ok h
  obtain ⟨-, -, h⟩ := bind_ok h
  obtain ⟨-, -, h⟩ := bind_ok h
  obtain ⟨-, -, h⟩ := bind_ok h
  obtain ⟨-, -, h⟩ := bind_ok h
  obtain ⟨-, -, h⟩ := bind_ok h
  obtain ⟨-, -, h⟩ := bind_ok h
  obtain ⟨-, -, h⟩ := bind_ok h
  obtain ⟨_, haction, -⟩ := bind_ok h
  exact require_ok.1 haction

/-! ## Admission -/

/-- The policy and the approval are those of the operation, and in force. -/
structure Approved (py : Platform) (op p a : Json) (at_ : ℤ) : Prop where
  policy : op.item "policy_digest" = .str (digest py p)
  operation : a.item "operation_digest" = .str (digest py op)
  approvalPolicy : a.item "policy_digest" = op.item "policy_digest"
  policyWindow : Within p "valid_from" "valid_until" at_
  approvalWindow : Within a "issued_at" "expires_at" at_

variable (py) in
/-- Everything that an admitted bundle establishes at the caller's time, under the caller's trust. -/
structure Admitted (trust : Trust) (at_ maxAge : ℤ) (bundle : Json) : Prop where
  action : oneOf ["delegate", "clear_delegation"] ((bundle.item "operation").item "action") = true
  verified : ∀ record, Verified py trust bundle record
  approved : Approved py (bundle.item "operation") (payloadOf bundle .policy) (payloadOf bundle .approval) at_
  unrevoked : Unrevoked py (bundle.item "operation") (payloadOf bundle .approval)
    (payloadOf bundle .finalRevocation) at_ maxAge
  controlled : Controlled py (bundle.item "operation") (payloadOf bundle .controlObservation) at_ maxAge
  executed : ∃ executed, Executed py (bundle.item "operation") (payloadOf bundle .policy)
    (payloadOf bundle .approval) (payloadOf bundle .finalRevocation) (payloadOf bundle .controlObservation)
    (payloadOf bundle .execution) at_ maxAge executed
  observed : Observed py (bundle.item "operation") (payloadOf bundle .policy) (payloadOf bundle .execution)
    (payloadOf bundle .chainObservation) at_
  observer : ∃ publicKey, SignedBy py trust bundle .chainObservation publicKey ∧
    ∀ role ∈ trust, role.1 ≠ "chain_observer" → ∀ key ∈ role.2, key.2 ≠ publicKey

theorem not_otherKeys {trust : Trust} {publicKey : Bytes} (h : publicKey ∉ otherKeys trust) :
    ∀ role ∈ trust, role.1 ≠ "chain_observer" → ∀ key ∈ role.2, key.2 ≠ publicKey := by
  rintro role hrole hname key hkey rfl
  exact h (List.mem_flatMap.2 ⟨role, List.mem_filter.2 ⟨hrole, decide_eq_true hname⟩, List.mem_map_of_mem hkey⟩)

/-- The first four records of a view. -/
structure Bodies (v : View) (p a r control : Json) : Prop where
  policy : v.body .policy = some p
  approval : v.body .approval = some a
  revocation : v.body .finalRevocation = some r
  control : v.body .controlObservation = some control

/-- The authorization claim holds only if its four records do, and agree. -/
theorem authorization_pass {trust : Trust} {bundle : Json} {at_ maxAge : ℤ}
    (h : Passes (authorization py (viewOf py trust bundle) at_ maxAge)) :
    (∀ record ∈ [Record.policy, .approval, .finalRevocation, .controlObservation], Verified py trust bundle record) ∧
      Bodies (viewOf py trust bundle) (payloadOf bundle .policy) (payloadOf bundle .approval)
        (payloadOf bundle .finalRevocation) (payloadOf bundle .controlObservation) ∧
      Approved py (bundle.item "operation") (payloadOf bundle .policy) (payloadOf bundle .approval) at_ ∧
      Unrevoked py (bundle.item "operation") (payloadOf bundle .approval) (payloadOf bundle .finalRevocation) at_ maxAge ∧
      Controlled py (bundle.item "operation") (payloadOf bundle .controlObservation) at_ maxAge := by
  simp only [authorization, passes_append] at h
  obtain ⟨⟨⟨⟨⟨⟨⟨hp, ha⟩, hr⟩, hc⟩, hpolicy⟩, happroval⟩, hrevocation⟩, hcontrol⟩ := h
  obtain ⟨hpv, hp⟩ := bodyChecks_passes hp
  obtain ⟨hav, ha⟩ := bodyChecks_passes ha
  obtain ⟨hrv, hr⟩ := bodyChecks_passes hr
  obtain ⟨hcv, hc⟩ := bodyChecks_passes hc
  obtain ⟨hdigest, hpw⟩ := policyChecks_pass (passes_option hp hpolicy)
  obtain ⟨hoperation, hagree, haw, hissued⟩ := approvalChecks_pass (passes_option ha happroval)
  have hrevocation := passes_option hr hrevocation
  rw [ha] at hrevocation
  refine ⟨?_, ⟨hp, ha, hr, hc⟩, ⟨hdigest, hoperation, hagree, hpw, haw⟩,
    revocationChecks_pass hissued hrevocation, controlChecks_pass (passes_option hc hcontrol)⟩
  simp only [List.forall_mem_cons]
  exact ⟨hpv, hav, hrv, hcv, fun _ h => (List.not_mem_nil h).elim⟩

theorem execution_pass {trust : Trust} {bundle p a r control : Json} {at_ maxAge : ℤ}
    (hb : Bodies (viewOf py trust bundle) p a r control)
    (hu : Unrevoked py (bundle.item "operation") a r at_ maxAge)
    (hc : Controlled py (bundle.item "operation") control at_ maxAge)
    (h : Passes (execution py (viewOf py trust bundle) at_ maxAge)) :
    Verified py trust bundle .execution ∧
      (viewOf py trust bundle).body .execution = some (payloadOf bundle .execution) ∧
      integerOk ((payloadOf bundle .execution).item "observed_at") = true ∧
      ∃ executed, Executed py (bundle.item "operation") p a r control (payloadOf bundle .execution) at_ maxAge
        executed := by
  rw [execution, passes_append] at h
  obtain ⟨hverified, hbody⟩ := bodyChecks_passes h.1
  have hexecuted := executionChecks_pass hb.policy hb.approval hb.revocation hb.control hu hc
    (passes_option hbody h.2)
  exact ⟨hverified, hbody, hexecuted⟩

theorem chain_pass {trust : Trust} {bundle p e : Json} {at_ : ℤ}
    (hp : (viewOf py trust bundle).body .policy = some p) (he : (viewOf py trust bundle).body .execution = some e)
    (hint : integerOk (e.item "observed_at") = true)
    (h : Passes (chain py (viewOf py trust bundle) trust at_)) :
    Verified py trust bundle .chainObservation ∧
      Observed py (bundle.item "operation") p e (payloadOf bundle .chainObservation) at_ ∧
      ∃ publicKey, SignedBy py trust bundle .chainObservation publicKey ∧
        ∀ role ∈ trust, role.1 ≠ "chain_observer" → ∀ key ∈ role.2, key.2 ≠ publicKey := by
  rw [chain, passes_append] at h
  obtain ⟨hverified, hbody⟩ := bodyChecks_passes h.1
  obtain ⟨hobserved, hkey⟩ := chainChecks_pass hp he hint (passes_option hbody h.2)
  obtain ⟨⟨body, publicKey⟩, hfound, hkey⟩ := (Option.any_eq_true _ _).1 hkey
  simp only [Bool.not_eq_true', List.contains_eq_mem, decide_eq_false_iff_not] at hkey
  exact ⟨hverified, hobserved, publicKey, (readRecord_found hfound).2, not_otherKeys hkey⟩

theorem admissionDecision_allow {claims : Claim → PaymentEvidence.ClaimResult}
    (h : admissionDecision claims = .allow) (c : Claim) : (claims c).verdict = .valid := by
  unfold admissionDecision at h
  split_ifs at h with hall
  simp only [List.all_cons, List.all_nil, Bool.and_true, Bool.and_eq_true, decide_eq_true_eq] at hall
  obtain ⟨hi, ha, he, hd⟩ := hall
  cases c <;> assumption

/-- The action of an operation of the right shape whose delegation was observed. -/
theorem delegation_action {op : Json} (h : validateOperation op = .ok ()) (hne : op.item "action" ≠ .str "transfer") :
    oneOf ["delegate", "clear_delegation"] (op.item "action") = true := by
  have haction := validateOperation_action h
  rw [oneOf, List.any_cons, Bool.or_eq_true, decide_eq_true_iff] at haction
  exact haction.resolve_left hne

theorem verifyBundle_read {bundle read : Json} {trust : Trust} {at_ maxAge : ℤ} (htrust : checkTrust py trust = .ok ())
    (hat : integerOk (.int at_) = true) (hage : (integerOk (.int maxAge) && maxAge ≠ 0) = true)
    (hread : readBundle py bundle = .ok read) :
    verifyBundle py bundle trust at_ maxAge = .ok (assess py trust at_ maxAge read) := by
  have htimes : (integerOk (.int at_) && integerOk (.int maxAge) && maxAge ≠ 0) = true := by
    rw [Bool.and_assoc, hat, hage]
    rfl
  simp only [verifyBundle, htrust, require, htimes, hread, if_true, Bind.bind, Except.bind, pure, Except.pure]

/-- A bundle is admitted only if its six records verify, agree on one operation at its times, and show the
    delegation that it requests. -/
theorem admitted_of_allow {bundle : Json} {trust : Trust} {at_ maxAge : ℤ} {report : Report} (hw : bundle.WF)
    (h : verifyBundle py bundle trust at_ maxAge = .ok report) (hallow : report.admission = .allow) :
    Admitted py trust at_ maxAge bundle := by
  obtain ⟨-, -, h⟩ := bind_ok h
  obtain ⟨-, -, h⟩ := bind_ok h
  cases hread : readBundle py bundle with
  | error message =>
    rw [hread] at h
    cases h
    cases hallow
  | ok read =>
    rw [hread] at h
    cases h
    obtain ⟨rfl, hop⟩ := readBundle_ok hw hread
    have hpass (c : Claim) : Passes (claimChecks py trust at_ maxAge read c) :=
      verdictOf_valid.1 (admissionDecision_allow hallow c)
    obtain ⟨hverified, hbodies, happroved, hunrevoked, hcontrolled⟩ := authorization_pass (hpass .authorization)
    obtain ⟨hev, he, hint, hexecuted⟩ := execution_pass hbodies hunrevoked hcontrolled (hpass .executionMatch)
    obtain ⟨hbv, hobserved, hobserver⟩ := chain_pass hbodies.policy he hint (hpass .delegationState)
    refine ⟨delegation_action hop hobserved.action, fun record => ?_, happroved, hunrevoked, hcontrolled, hexecuted,
      hobserved, hobserver⟩
    cases record with
    | execution => exact hev
    | chainObservation => exact hbv
    | policy | approval | finalRevocation | controlObservation => exact hverified _ (by decide)

end Checks

/-! ## A small instance -/

open PaymentEvidence (sampleHash)

def sampleBlock : String := "0x0000000000000000000000000000000000000000000000000000000000000000"
def sampleOperation : Json := .obj
  [("action", .str "clear_delegation"), ("actor_id", .str "a"), ("amount", .str "0"), ("asset", .str "native"),
    ("calldata", .str "0x"), ("chain_id", .str "1"), ("credential_id", .str "c"),
    ("delegation_target", .str zeroAddress), ("deployment_digest", .str sampleHash),
    ("destination", .str zeroAddress), ("nonce", .str "7"), ("operation_id", .str "o"),
    ("policy_digest", .str sampleHash), ("signing_payload_digest", .str sampleHash), ("wallet", .str zeroAddress),
    ("workload_id", .str "w")]

def samplePayload : Record → Json
  | .policy => .obj
    [("actor_id", .str "a"), ("allowed_actions", .arr [.str "clear_delegation"]),
      ("allowed_assets", .arr [.str "native"]), ("allowed_chains", .arr [.str "1"]),
      ("allowed_delegation_targets", .arr [.str zeroAddress]), ("allowed_destinations", .arr [.str zeroAddress]),
      ("allowed_wallets", .arr [.str zeroAddress]), ("credential_id", .str "c"),
      ("deployment_digest", .str sampleHash), ("kind", .str "policy"), ("max_amount", .str "0"),
      ("policy_id", .str "p"), ("required_finality", .str "observed_block"),
      ("required_routes", .arr (routeNames.map .str)), ("run_id", .str "r"), ("valid_from", .int 0),
      ("valid_until", .int 9), ("version", .str "1"), ("workload_id", .str "w")]
  | .approval => .obj
    [("actor_id", .str "a"), ("approval_id", .str "v"), ("approver_id", .str "u"), ("credential_id", .str "c"),
      ("expires_at", .int 9), ("issued_at", .int 1), ("kind", .str "approval"), ("operation_digest", .str sampleHash),
      ("policy_digest", .str sampleHash), ("run_id", .str "r")]
  | .finalRevocation => .obj
    [("approval_digest", .str sampleHash), ("checked_at", .int 2), ("kind", .str "final_revocation"),
      ("operation_digest", .str sampleHash), ("policy_digest", .str sampleHash), ("revoked_approvals", .arr []),
      ("revoked_credentials", .arr []), ("run_id", .str "r"), ("snapshot_id", .str "s"), ("valid_until", .int 9)]
  | .controlObservation => .obj
    [("deployment_digest", .str sampleHash), ("kind", .str "control_observation"), ("observation_boundary", .str "b"),
      ("observed_at", .int 2), ("operation_digest", .str sampleHash),
      ("routes", .obj [("approved_gate", .str "recorded"), ("deployment_signer", .str "blocked"),
        ("direct_signer", .str "blocked")]), ("run_id", .str "r"), ("workload_id", .str "w")]
  | .execution => .obj
    [("actual_operation", sampleOperation), ("approval_digest", .str sampleHash), ("control_digest", .str sampleHash),
      ("kind", .str "execution"), ("observed_at", .int 3), ("operation_digest", .str sampleHash),
      ("policy_digest", .str sampleHash), ("revocation_digest", .str sampleHash), ("run_id", .str "r"),
      ("signing_payload", .str "0x"), ("state", .str "included")]
  | .chainObservation => .obj
    [("block_hash", .str sampleBlock), ("block_number", .str "8"), ("chain_id", .str "1"),
      ("delegation_code", .str "0x"), ("execution_digest", .str sampleHash), ("finality", .str "finalized"),
      ("kind", .str "chain_observation"), ("observed_at", .int 4), ("operation_digest", .str sampleHash),
      ("receipt_status", .str "success"), ("run_id", .str "r"), ("transaction_block_hash", .str sampleBlock),
      ("transaction_block_number", .str "8"), ("transaction_hash", .str sampleBlock), ("wallet", .str zeroAddress)]

def sampleSignature : String :=
  "00000000000000000000000000000000000000000000000000000000000000000000000000000000000000000000000000000000000000000000000000000000"

def sampleEnvelope (record : Record) : Json :=
  .obj [("key_id", .str "k"), ("payload", samplePayload record), ("signature", .str sampleSignature)]

def sampleBundle : Json := .obj
  [("evidence", .obj [("approval", sampleEnvelope .approval), ("chain_observation", sampleEnvelope .chainObservation),
      ("control_observation", sampleEnvelope .controlObservation), ("execution", sampleEnvelope .execution),
      ("final_revocation", sampleEnvelope .finalRevocation), ("policy", sampleEnvelope .policy)]),
    ("operation", sampleOperation), ("run_id", .str "r"), ("schema", .str bundleSchema), ("synthetic", .bool true)]

/-- The chain observer has a key of its own. -/
def sampleTrust : Trust :=
  records.map fun record => (record.role, [("k", List.replicate 32 (if record = .chainObservation then 1 else 0))])

theorem sampleBundle_wf : sampleBundle.WF := by
  simp only [sampleBundle, sampleEnvelope, samplePayload, sampleOperation, routeNames, WF, WFList, WFMembers, SortedKeys,
    List.map_cons, List.map_nil,
    and_true, true_and]
  decide +kernel

theorem sampleBundle_read : readBundle Payment.samplePlatform sampleBundle = .ok sampleBundle :=
  readBundle_self sampleBundle_wf (by decide +kernel) (by decide +kernel) (by decide +kernel) (by decide +kernel)
    (by decide +kernel)

theorem sampleBundle_allowed :
    (assess Payment.samplePlatform sampleTrust 5 9 sampleBundle).admission = .allow := by
  have hverdicts (c : Claim) :
      verdictOf (claimChecks Payment.samplePlatform sampleTrust 5 9 sampleBundle c) = .valid := by
    cases c <;> decide +kernel
  simp only [assess, admissionDecision, PaymentEvidence.claimResult, hverdicts]
  rfl

theorem sample_admitted_of_allow : ∃ report, verifyBundle Payment.samplePlatform sampleBundle sampleTrust 5 9 = .ok report ∧
    report.admission = .allow ∧ Admitted Payment.samplePlatform sampleTrust 5 9 sampleBundle := by
  have htrust : checkTrust Payment.samplePlatform sampleTrust = .ok () := by decide +kernel
  have hreport := @verifyBundle_read _ _ _ _ 5 9 htrust (by decide) (by decide) sampleBundle_read
  exact ⟨_, hreport, sampleBundle_allowed, admitted_of_allow sampleBundle_wf hreport sampleBundle_allowed⟩

end VapEvidence.Wallet
