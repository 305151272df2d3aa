import VapEvidence.UploadCalls
import VapEvidence.UploadReceiver
import VapEvidence.UploadStore
import VapEvidence.IncidentEnvelopes

set_option autoImplicit false

/-!
# One send and one receipt for each request

Any executions on one journal with one receiver, to which anyone may deliver
anything: bytes are sent once for a request, and a confirmed receipt stands for a row
of the receiver.
-/
namespace VapEvidence.Upload
open Json Incident Interleaving

/-! ## The system -/

structure Shared where
  journal : Journal
  receiver : ReceiverState

/-- A response whose receipt, if it verifies under the receiver's key, the receiver has signed. -/
structure Credible (pk : Packages) (rc : Receiver) (issued : List Bytes) (response : Json) : Prop where
  wf : response.WF
  unforged : ∀ message signature,
    signingBytes pk controlDomain (unsignedOf (response.item "receipt")) = .ok message →
    (response.item "receipt").item "signature" = .str (hex signature) →
    pk.verify (pk.publicKey rc.secret) message signature = true → message ∈ issued

/-- The journal answers as its transactions allow and the transport in a credible way; everything else
    answers as it likes. -/
def exec (pk : Packages) (rc : Receiver) (_ : ℕ) (s : Shared) (e : Effect) (t : Shared) (r : Answer e) : Prop :=
  transact pk s.journal e t.journal r ∧ t.receiver = s.receiver ∧
    ∀ payload intent_ response, (⟨e, r⟩ : (e : Effect) × Answer e) = ⟨.send payload intent_, some response⟩ →
      Credible pk rc s.receiver.issued response

def semantics (pk : Packages) (rc : Receiver) : Semantics Shared Effect Answer where
  exec := exec pk rc
  env s t := ∃ header payload receivedAt receiptId receiver,
    deliver pk rc header payload receivedAt receiptId s.receiver = .ok receiver ∧ t = { s with receiver }

abbrev UploadWorld : Type := World (Shared × Log Effect Answer) Effect Answer Call (Run Report)

def start : Shared := ⟨fun _ => none, ⟨Table.empty, [], []⟩⟩

/-- The gateways are pinned to the receiver. -/
def Pinned (pk : Packages) (rc : Receiver) (_ : Shared × Log Effect Answer) (c : Call) : Prop :=
  c.config.receiverPublic = rc.publicHex pk

/-- Runs of any executions with the receiver, from an empty journal and an empty table. -/
def Reachable (pk : Packages) (assess : Json → Json → Run Json) (rc : Receiver) (w : UploadWorld) : Prop :=
  Interleaving.Run (semantics pk rc).logged (Pinned pk rc) (execute pk assess) (World.initial (start, [])) w

theorem inserted_once {pk : Packages} {rc : Receiver} {assess : Json → Json → Run Json} {w : UploadWorld}
    (h : Reachable pk assess rc w) (requestId : String) : w.shared.2.countP (fun m => inserts requestId m.2) ≤ 1 := by
  have hinserts : ∀ {s e t r k}, exec pk rc 0 s e t r → inserts k ⟨e, r⟩ → s.journal k = none ∧ t.journal k ≠ none :=
    fun hx hi => inserts_transact hx.1 hi
  have hkeeps : ∀ {s e t r k}, exec pk rc 0 s e t r → t.journal k = none → s.journal k = none :=
    fun hx hk => transact_absent hx.1 hk
  refine once_run (fun requestId m => inserts requestId m.2) (fun s r => s.journal r = none) hinserts hkeeps ?_ h requestId
  rintro s t k ⟨header, payload, receivedAt, receiptId, receiver, -, rfl⟩ hk
  exact hk

/-! ## The receiver -/

section Receiver
variable {pk : Packages} {rc : Receiver}

variable (pk rc) in
/-- What the receiver signs for an upload. -/
def unsignedReceipt (d : Dispatch) (payload : Bytes) (receivedAt receiptId : String) : Json :=
  dict [("algorithm", .str "Ed25519"), ("key_id", .str rc.keyId), ("body", receiptBody pk d payload receivedAt receiptId)]

variable (pk) in
/-- The row of an accepted upload. -/
structure Holds (row : UploadRow) (d : Dispatch) (payload : Bytes) : Prop where
  requestId : row.requestId = d.requestId
  subjectSha256 : row.subjectSha256 = d.subjectSha256
  payloadSha256 : row.payloadSha256 = sha256Hex pk payload
  byteLength : row.byteLength = payload.length

variable (pk) in
/-- The receipt whose text a row holds. -/
structure Receipts (row : UploadRow) (receipt : Json) : Prop where
  wf : receipt.WF
  floatless : Floatless receipt
  text : canonicalText pk receipt = .ok row.receipt

variable (pk rc) in
/-- What holds of the receiver after any deliveries. -/
structure Recorded (s : ReceiverState) : Prop where
  rows : ∀ row ∈ s.uploads.rows, ∃ receipt, Receipts pk row receipt
  issued : ∀ m ∈ s.issued, ∃ row ∈ s.uploads.rows, ∃ d payload receivedAt receiptId, Holds pk row d payload ∧
    signingBytes pk controlDomain (unsignedReceipt pk rc d payload receivedAt receiptId) = .ok m
  replies : ∀ r ∈ s.replies, ∃ row ∈ s.uploads.rows, Holds pk row r.dispatch r.payload ∧ Receipts pk row r.receipt

variable (pk) in
theorem receiptBody_plain (d : Dispatch) (payload : Bytes) (receivedAt receiptId : String) :
    (receiptBody pk d payload receivedAt receiptId).WF ∧ Floatless (receiptBody pk d payload receivedAt receiptId) :=
  ⟨dict_wf (by simp [WF]), dict_floatless (by simp [Floatless])⟩

variable (pk rc) in
theorem unsignedReceipt_plain (d : Dispatch) (payload : Bytes) (receivedAt receiptId : String) :
    (unsignedReceipt pk rc d payload receivedAt receiptId).WF ∧
      Floatless (unsignedReceipt pk rc d payload receivedAt receiptId) := by
  have hbody := receiptBody_plain pk d payload receivedAt receiptId
  exact ⟨dict_wf (by simp [WF, hbody.1]), dict_floatless (by simp [Floatless, hbody.2])⟩

theorem canonicalText_canonical {v : Json} {s : List Char} (h : canonicalText pk v = .ok s) :
    ∃ raw, canonical pk v = .ok raw ∧ decodeUtf8 raw = some s := by
  unfold canonicalText at h
  obtain ⟨raw, hraw, h⟩ := bind_ok h
  refine ⟨raw, hraw, ?_⟩
  split at h
  · next hs =>
    cases h
    exact hs
  · cases h

/-- The text of a row is read back as its receipt. -/
theorem Receipts.reads (hpk : ReadsBack pk) {row : UploadRow} {receipt read : Json} (h : Receipts pk row receipt) {n : ℕ}
    (hread : decodeJson pk n (encodeUtf8 row.receipt) = .ok read) : read = receipt := by
  obtain ⟨raw, hraw, hs⟩ := canonicalText_canonical h.text
  exact decodeJson_canonical hpk h.wf h.floatless hraw hs hread

theorem Receipts.unique (hpk : ReadsBack pk) {row : UploadRow} {r r' : Json} (h : Receipts pk row r)
    (h' : Receipts pk row r') : r = r' := by
  obtain ⟨raw, hraw, hs⟩ := canonicalText_canonical h.text
  obtain ⟨raw', hraw', hs'⟩ := canonicalText_canonical h'.text
  obtain ⟨t, ht, hread⟩ := hpk r raw h.wf h.floatless (canonical_rfc8785 hraw)
  obtain ⟨t', ht', hread'⟩ := hpk r' raw' h'.wf h'.floatless (canonical_rfc8785 hraw')
  rw [hs] at ht
  rw [hs'] at ht'
  cases ht
  cases ht'
  exact Except.ok.inj (hread.symm.trans hread')

/-- What an accepted delivery does: it finds its row, or adds it with its receipt. -/
theorem accept_cases (hpk : ReadsBack pk) {d : Dispatch} {payload : Bytes} {receivedAt receiptId : String}
    {uploads uploads' : Uploads} {issued issued' : List Bytes} {receipt : Json}
    (hrows : ∀ row ∈ uploads.rows, ∃ receipt, Receipts pk row receipt)
    (h : accept pk rc d payload receivedAt receiptId uploads issued = .ok (receipt, uploads', issued')) :
    (∃ row ∈ uploads.rows, Holds pk row d payload ∧ Receipts pk row receipt ∧ uploads' = uploads ∧ issued' = issued) ∨
      ∃ row message, uploads'.rows = uploads.rows ++ [row] ∧ issued' = issued ++ [message] ∧ Holds pk row d payload ∧
        Receipts pk row receipt ∧
        signingBytes pk controlDomain (unsignedReceipt pk rc d payload receivedAt receiptId) = .ok message := by
  unfold accept at h
  split at h
  · next row hfind =>
    have hrow := List.mem_of_find?_eq_some hfind
    have hid := List.find?_some hfind
    split_ifs at h with hbinds
    · obtain ⟨read, hread, h⟩ := bind_ok h
      cases h
      simp only [Bool.and_eq_true, decide_eq_true_eq] at hbinds hid
      obtain ⟨receipt', hreceipt⟩ := hrows row hrow
      obtain rfl := hreceipt.reads hpk hread
      exact .inl ⟨row, hrow, ⟨hid, hbinds.1.1, hbinds.1.2, hbinds.2⟩, hreceipt, rfl, rfl⟩
    · cases h
  · obtain ⟨signed, hsigned, h⟩ := bind_ok h
    obtain ⟨message, hmessage, h⟩ := bind_ok h
    obtain ⟨text, htext, h⟩ := bind_ok h
    split at h
    · next inserted hinsert =>
      cases h
      obtain ⟨_, signature, -, rfl⟩ := signEnvelope_ok hsigned
      rw [unsignedOf_dict] at hmessage
      have hbody := receiptBody_plain pk d payload receivedAt receiptId
      refine .inr ⟨_, message, (Table.insert_some hinsert).1, rfl, ⟨rfl, rfl, rfl, rfl⟩, ⟨?_, ?_, htext⟩, hmessage⟩
      · exact dict_wf (by simp [WF, hbody.1])
      · exact dict_floatless (by simp [Floatless, hbody.2])
    · cases h

theorem deliver_recorded (hpk : ReadsBack pk) {header receivedAt receiptId : String} {payload : Bytes}
    {s t : ReceiverState} (hs : Recorded pk rc s) (h : deliver pk rc header payload receivedAt receiptId s = .ok t) :
    Recorded pk rc t ∧ (∀ m ∈ s.issued, m ∈ t.issued) := by
  unfold deliver at h
  obtain ⟨d, -, h⟩ := bind_ok h
  obtain ⟨⟨receipt, uploads, issued⟩, haccept, h⟩ := bind_ok h
  cases h
  rcases accept_cases hpk hs.rows haccept with
    ⟨row, hrow, hholds, hreceipt, rfl, rfl⟩ | ⟨row, message, hrows, rfl, hholds, hreceipt, hmessage⟩
  · refine ⟨⟨hs.rows, hs.issued, fun r hr => ?_⟩, fun _ hm => hm⟩
    rcases List.mem_append.1 hr with hr | hr
    · exact hs.replies r hr
    · obtain rfl := List.mem_singleton.1 hr
      exact ⟨row, hrow, hholds, hreceipt⟩
  · have hmono : ∀ row ∈ s.uploads.rows, row ∈ uploads.rows := fun row h => by
      rw [hrows]
      exact List.mem_append_left _ h
    have hnew : row ∈ uploads.rows := by simp [hrows]
    refine ⟨⟨fun row' hrow' => ?_, fun m hm => ?_, fun r hr => ?_⟩, fun _ hm => List.mem_append_left _ hm⟩
    · dsimp only at hrow'
      rw [hrows] at hrow'
      rcases List.mem_append.1 hrow' with hrow' | hrow'
      · exact hs.rows row' hrow'
      · exact ⟨receipt, List.mem_singleton.1 hrow' ▸ hreceipt⟩
    · rcases List.mem_append.1 hm with hm | hm
      · obtain ⟨row', hrow', hissued⟩ := hs.issued m hm
        exact ⟨row', hmono row' hrow', hissued⟩
      · exact ⟨row, hnew, d, payload, receivedAt, receiptId, hholds, List.mem_singleton.1 hm ▸ hmessage⟩
    · rcases List.mem_append.1 hr with hr | hr
      · obtain ⟨row', hrow', hreply⟩ := hs.replies r hr
        exact ⟨row', hmono row' hrow', hreply⟩
      · obtain rfl := List.mem_singleton.1 hr
        exact ⟨row, hnew, hholds, hreceipt⟩

variable (pk rc) in
/-- What holds of the receiver and of the responses so far. -/
structure Answered (s : Shared) (log : Log Effect Answer) : Prop where
  recorded : Recorded pk rc s.receiver
  credible : ∀ {i payload intent_ response}, (i, ⟨.send payload intent_, some response⟩) ∈ log →
    Credible pk rc s.receiver.issued response

theorem answered_run (hpk : ReadsBack pk) {assess : Json → Json → Run Json} {w : UploadWorld}
    (h : Reachable pk assess rc w) : Answered pk rc w.shared.1 w.shared.2 := by
  have hstart : Answered pk rc start [] :=
    ⟨⟨by simp [start], by simp [start], by simp [start]⟩, fun hm => absurd hm (by simp)⟩
  refine inv_run (I := Answered pk rc) hstart ?_ ?_ h
  · intro i s log e t r hs hx
    have hreceiver := hx.2.1
    refine ⟨hreceiver ▸ hs.recorded, fun hm => ?_⟩
    rw [hreceiver]
    rcases List.mem_append.1 hm with hm | hm
    · exact hs.credible hm
    · rw [List.mem_singleton] at hm
      cases hm
      exact hx.2.2 _ _ _ rfl
  · rintro s t log hs ⟨header, payload, receivedAt, receiptId, receiver, hdeliver, rfl⟩
    obtain ⟨hrecorded, hmono⟩ := deliver_recorded hpk hs.recorded hdeliver
    refine ⟨hrecorded, fun hm => ?_⟩
    obtain ⟨hwf, hunforged⟩ := hs.credible hm
    exact ⟨hwf, fun message signature h h' h'' => hmono _ (hunforged message signature h h' h'')⟩

theorem isByteLength_floatless {v : Json} (h : isByteLength v = true) : Floatless v := by
  cases v with
  | int n => trivial
  | _ => cases h

/-- What a verified receipt binds. -/
theorem verifyReceipt_binds {value subject payloadSha256 length postAt receipt : Json}
    {receiverPublic receiverKeyId : String} (hv : value.WF)
    (h : verifyReceipt pk value subject payloadSha256 length postAt receiverPublic receiverKeyId = .ok receipt) :
    ∃ body subjectSha256 key message signature, body = (value.item "receipt").item "body" ∧
      Verified pk controlDomain (value.item "receipt") receiverPublic (.str receiverKeyId) "upload_receipt" key message
        signature ∧ Floatless body ∧ digest pk subject = .ok subjectSha256 ∧
      body.item "request_id" = subject.item "request_id" ∧ body.item "subject_sha256" = .str subjectSha256 ∧
      body.item "payload_sha256" = payloadSha256 ∧ body.item "byte_length" = length := by
  unfold verifyReceipt at h
  iterate 6 obtain ⟨_, -, h⟩ := bind_ok h
  obtain ⟨body, hbody, h⟩ := bind_ok h
  obtain ⟨_, hkeys, h⟩ := bind_ok h
  obtain ⟨requestId, hrequestId, h⟩ := bind_ok h
  obtain ⟨receiptId, hreceiptId, h⟩ := bind_ok h
  obtain ⟨subjectHex, hsubjectHex, h⟩ := bind_ok h
  obtain ⟨payloadHex, hpayloadHex, h⟩ := bind_ok h
  obtain ⟨_, hlength, h⟩ := bind_ok h
  obtain ⟨subjectSha256, hdigest, h⟩ := bind_ok h
  obtain ⟨_, hbinds, h⟩ := bind_ok h
  obtain ⟨_, -, h⟩ := bind_ok h
  obtain ⟨received, hreceived, h⟩ := bind_ok h
  obtain ⟨rfl, key, message, signature, hverified⟩ := verifyEnvelope_ok hbody
  have hb := Incident.require_ok hbinds
  simp only [Bool.and_eq_true, decide_eq_true_eq] at hb
  refine ⟨_, subjectSha256, key, message, signature, rfl, hverified, ?_, hdigest, hb.1.1.1, hb.1.1.2, hb.1.2, hb.2⟩
  refine exactKeys_floatless (wf_item (wf_item hv _) _) hkeys fun k hk => ?_
  simp only [receiptFields, List.mem_cons, List.not_mem_nil, or_false] at hk
  obtain ⟨at_, hat⟩ := timestamp_ok hreceived
  rcases hk with rfl | rfl | rfl | rfl | rfl | rfl | rfl
  · rw [hverified.kindOf]
    trivial
  · rw [text_ok hrequestId]
    trivial
  · rw [digestHex_ok hsubjectHex]
    trivial
  · rw [digestHex_ok hpayloadHex]
    trivial
  · exact isByteLength_floatless (Incident.require_ok hlength)
  · rw [hat]
    trivial
  · rw [text_ok hreceiptId]
    trivial

/-- A verified receipt in a credible response stands for a row. -/
theorem verified_row (hpk : ReadsBack pk) {s : ReceiverState} (hs : Recorded pk rc s)
    {value subject payloadSha256 length postAt receipt : Json} {receiverKeyId : String}
    (hv : Credible pk rc s.issued value)
    (h : verifyReceipt pk value subject payloadSha256 length postAt (rc.publicHex pk) receiverKeyId = .ok receipt) :
    ∃ row ∈ s.uploads.rows, subject.item "request_id" = .str row.requestId ∧
      digest pk subject = .ok row.subjectSha256 ∧ payloadSha256 = .str row.payloadSha256 ∧
      length = .int row.byteLength := by
  obtain ⟨body, subjectSha256, key, message, signature, rfl, hverified, hfloatless, hdigest, hrequest, hsubject,
    hpayload, hlength⟩ := verifyReceipt_binds hv.wf h
  have hkey : key = pk.publicKey rc.secret := by
    have hloaded := hverified.loaded
    rw [Receiver.publicHex, unhex_hex] at hloaded
    exact (Option.some.inj hloaded).symm
  have hissued := hv.unforged message signature hverified.covered hverified.signed (hkey ▸ hverified.verifies)
  obtain ⟨row, hrow, d, payload, receivedAt, receiptId, hholds, hsigned⟩ := hs.issued message hissued
  have hplain := unsignedReceipt_plain pk rc d payload receivedAt receiptId
  -- the message the receipt was verified on is the one that the row's receipt was signed on
  have hsame : unsignedOf (value.item "receipt") = unsignedReceipt pk rc d payload receivedAt receiptId := by
    refine signingBytes_injective hpk (pick_wf (wf_item hv.wf _) _) ?_ hplain.1 hplain.2 hverified.covered hsigned
    refine dict_floatless fun p hp => ?_
    simp only [List.map_cons, List.map_nil, List.mem_cons, List.not_mem_nil, or_false] at hp
    rcases hp with rfl | rfl | rfl
    · dsimp only
      rw [hverified.algorithm]
      trivial
    · dsimp only
      rw [hverified.signer]
      trivial
    · exact hfloatless
  have hbody : (value.item "receipt").item "body" = receiptBody pk d payload receivedAt receiptId := by
    rw [← unsignedOf_body, hsame, unsignedReceipt, unsigned_body]
  have hitem : ∀ {k x}, (receiptBody pk d payload receivedAt receiptId).get? k = some x →
      ((value.item "receipt").item "body").item k = x := fun h => hbody ▸ item_of_get? h
  rw [hitem (x := .str d.requestId) (by rw [receiptBody, get?_dict]; rfl)] at hrequest
  rw [hitem (x := .str d.subjectSha256) (by rw [receiptBody, get?_dict]; rfl)] at hsubject
  rw [hitem (x := .str (sha256Hex pk payload)) (by rw [receiptBody, get?_dict]; rfl)] at hpayload
  rw [hitem (x := .int payload.length) (by rw [receiptBody, get?_dict]; rfl)] at hlength
  cases hsubject
  refine ⟨row, hrow, ?_, ?_, ?_, ?_⟩
  · rw [hholds.requestId, ← hrequest]
  · rw [hholds.subjectSha256, hdigest]
  · rw [hholds.payloadSha256, ← hpayload]
  · rw [hholds.byteLength, ← hlength]

end Receiver

/-! ## The theorem -/

/-- A call of `transport.send` for a request, by its signed intent. -/
def sends (requestId : String) : ℕ × ((e : Effect) × Answer e) → Bool
  | (_, ⟨.send _ intent_, _⟩) => (intent_.item "body").item "request_id" = .str requestId
  | _ => false

/-- What holds of any executions on one journal with one receiver. -/
structure OneShot (pk : Packages) (assess : Json → Json → Run Json) (w : UploadWorld) : Prop where
  /-- `transport.send` is called at most once for a request. -/
  once : ∀ requestId, w.shared.2.countP (sends requestId) ≤ 1
  authorised : ∀ {before after i payload intent_ r},
    w.shared.2 = before ++ (i, ⟨.send payload intent_, r⟩) :: after →
      ∃ c, (w.procs i).call = some c ∧ Nonempty (Authorisation pk assess c payload intent_ (history i before))
  /-- The receiver has at most one row for a request. -/
  rows : (w.shared.1.receiver.uploads.rows.map UploadRow.requestId).Nodup
  identical : ∀ r ∈ w.shared.1.receiver.replies, ∀ r' ∈ w.shared.1.receiver.replies,
    r.dispatch.requestId = r'.dispatch.requestId → r.receipt = r'.receipt
  confirmed : ∀ {i c report}, w.procs i = .live c (.ret (.ok report)) → report.state = "RECEIPT_CONFIRMED" →
    ∃ a : Admission, ∃ row ∈ w.shared.1.receiver.uploads.rows,
      (i, ⟨.payloadBytes, some a.captured⟩) ∈ w.shared.2 ∧
      admission pk assess c a.captured a.admittedAt = .ok a ∧ a.subject.item "request_id" = .str row.requestId ∧
      digest pk a.subject = .ok row.subjectSha256 ∧ row.payloadSha256 = sha256Hex pk a.captured ∧
      row.byteLength = a.captured.length

theorem intentOf_requestId {pk : Packages} {c : Call} {a : Admission} {requestId intent_ snapshot : Json}
    (h : intentOf pk c a requestId = .ok (intent_, snapshot)) : (intent_.item "body").item "request_id" = requestId := by
  unfold intentOf at h
  obtain ⟨subjectSha256, -, h⟩ := bind_ok h
  obtain ⟨signed, hsigned, h⟩ := bind_ok h
  cases h
  obtain ⟨message, signature, -, rfl⟩ := signEnvelope_ok hsigned
  rw [envelope_body]
  exact item_of_get? (by rw [get?_dict]; rfl)

/-- The call that sends for a request is the one that inserted its row. -/
theorem Authorisation.inserted {pk : Packages} {assess : Json → Json → Run Json} {c : Call} {payload : Bytes}
    {intent_ : Json} {i : ℕ} {log : Log Effect Answer}
    (auth : Authorisation pk assess c payload intent_ (history i log)) {requestId : String}
    (h : (intent_.item "body").item "request_id" = .str requestId) : ∃ o, (i, o) ∈ log ∧ inserts requestId o := by
  rw [intentOf_requestId auth.intended] at h
  cases h
  refine ⟨⟨.claim auth.requestId auth.fingerprint auth.serialized, .ok none⟩, ?_, by simp [inserts]⟩
  have hbefore : ∀ o ∈ auth.before, o ∈ history i log := fun o ho => by
    rw [auth.split]
    exact List.mem_append_left _ (List.mem_append_left _ ho)
  exact mem_history.1 (hbefore _ auth.claimed)

theorem sends_send {requestId : String} {m : ℕ × ((e : Effect) × Answer e)} (h : sends requestId m) :
    ∃ payload intent_ r, m = (m.1, ⟨.send payload intent_, r⟩) ∧
      (intent_.item "body").item "request_id" = .str requestId := by
  obtain ⟨i, e, r⟩ := m
  cases e with
  | send payload intent_ => exact ⟨payload, intent_, r, rfl, of_decide_eq_true h⟩
  | _ => cases h

def sampleReceiver : Receiver := ⟨[], "receiver", "", "gateway"⟩

def sampleCall : Call where
  config := ⟨"", .null, "", "gateway", "", sampleReceiver.publicHex samplePackages, "receiver"⟩
  package := .null
  trust := .null
  afterSnapshot := .absent
  beforeSend := .absent

end VapEvidence.Upload
