import VapEvidence.CustodyPackages

set_option autoImplicit false

/-!
# Runs of the collector's store

Processes start on one store, stop, collect packages and answer readbacks in any
order. Records are only added, and each carries the acknowledgment it was given first.
-/
namespace VapEvidence.Custody
open Json Payment

section Statements
variable {py : Platform}

/-! ## Signed statements -/

theorem signStatement_ok {key : Bytes} {payload : Json} {raw : Bytes} (hw : payload.WF)
    (h : signStatement py key payload = .ok raw) : ∃ signed, encode py payload = .ok signed ∧
      encode py (envelope payload (py.sign key (signingDomain ++ signed))) = .ok raw ∧
      decode py raw = .ok (envelope payload (py.sign key (signingDomain ++ signed))) := by
  obtain ⟨signed, hs, h⟩ := bind_ok h
  exact ⟨signed, hs, h, loadJson_canonicalJson py collectorBounds (envelope_wf hw _) h⟩

theorem verifyStatement_ok {raw key : Bytes} {payload : Json} (h : verifyStatement py raw key = .ok payload) :
    ∃ m signature, payload.WF ∧ encode py payload = .ok m ∧ py.verify key (signingDomain ++ m) signature = true ∧
      decode py raw = .ok (envelope payload signature) ∧ encode py (envelope payload signature) = .ok raw ∧
      signedParts signingDomain (encode py) (envelope payload signature) = .ok (signingDomain ++ m, signature) := by
  obtain ⟨_, -, h⟩ := bind_ok h
  obtain ⟨body, hbody, h⟩ := bind_ok h
  obtain ⟨_, hshape, h⟩ := bind_ok h
  obtain ⟨_, -, h⟩ := bind_ok h
  obtain ⟨⟨message, signature⟩, hparts, h⟩ := bind_ok h
  obtain ⟨_, hverify, h⟩ := bind_ok h
  cases h
  have hshape := require_ok.1 hshape
  simp only [Bool.and_eq_true, decide_eq_true_eq] at hshape
  obtain ⟨⟨⟨hfields, hencode⟩, -⟩, hsig⟩ := hshape
  have hw := loadJson_wf py collectorBounds hbody
  obtain ⟨m, hm, rfl, hun⟩ := signedParts_ok hparts
  have heq := eq_envelope hw hfields hsig hun
  exact ⟨m, signature, wf_item hw _, hm, require_ok.1 hverify, heq ▸ hbody, heq ▸ hencode, heq ▸ hparts⟩

variable (py) in
/-- Whatever verifies under the pinned key was signed in a statement that the collector has sent. -/
def Unforged (issued : List Bytes) (key raw : Bytes) : Prop :=
  ∀ v message signature, decode py raw = .ok v →
    signedParts signingDomain (encode py) v = .ok (message, signature) → py.verify key message signature = true →
    ∃ sent ∈ issued, ∃ w, decode py sent = .ok w ∧ signedParts signingDomain (encode py) w = .ok (message, signature)

/-- A statement that verifies and is not forged is one that was signed and sent. -/
theorem Unforged.sent {issued : List Bytes} {key raw : Bytes} {payload : Json} (h : Unforged py issued key raw)
    (hv : verifyStatement py raw key = .ok payload)
    (hi : ∀ sent ∈ issued, ∃ k p, Json.WF p ∧ signStatement py k p = .ok sent) :
    raw ∈ issued ∧ ∃ k, signStatement py k payload = .ok raw := by
  obtain ⟨m, signature, hw, hm, hverify, hdec, henc, hparts⟩ := verifyStatement_ok hv
  obtain ⟨sent, hsent, w, hw', hparts'⟩ := h _ _ _ hdec hparts hverify
  obtain ⟨k, p, hp, hsign⟩ := hi sent hsent
  obtain ⟨signed, hs, henc', hdec'⟩ := signStatement_ok hp hsign
  obtain rfl := Except.ok.inj (hw'.symm.trans hdec')
  obtain ⟨m', hm', hmessage, hsig⟩ := signedParts_ok hparts'
  obtain ⟨hpayload, hsignature⟩ := item_envelope p (py.sign k (signingDomain ++ signed))
  rw [hpayload] at hm'
  obtain rfl := Except.ok.inj (hm'.symm.trans hs)
  obtain rfl : m = m' := List.append_cancel_left hmessage
  obtain rfl := canonicalJson_injective py collectorBounds hw hp hm hs
  rw [hsignature] at hsig
  obtain rfl : py.sign k (signingDomain ++ m) = signature := by simpa [Json.text] using hsig
  obtain rfl := Except.ok.inj (henc.symm.trans henc')
  exact ⟨hsent, k, hsign⟩

variable (py) in
def ackPayload (config : CollectorConfig) (now : ℤ) (package : Json) (raw : Bytes) : Json :=
  dict ([("schema", .str ackSchema), ("collector_id", .str config.collectorId),
    ("storage_epoch", .int config.recoveryEpoch), ("recorded_at_ms", .int now)] ++ bindingMembers py package raw)

variable (py) in
def readbackPayload (config : CollectorConfig) (packageDigest nonce contextDigest : String) (now : ℤ)
    (row : Option CollectionRecord) : Json :=
  dict [("schema", .str readbackSchema), ("collector_id", .str config.collectorId),
    ("recovery_epoch", .int config.recoveryEpoch), ("nonce", .str nonce), ("observed_at_ms", .int now),
    ("state", .str (if row.isSome then "PRESENT" else "MISSING")), ("package_digest", .str packageDigest),
    ("context_digest", .str contextDigest),
    ("ack_digest", (row.map fun row => Json.str (bytesDigest py row.ackBytes)).getD .null)]

theorem ackPayload_wf {config : CollectorConfig} {now : ℤ} {package : Json} {raw : Bytes} (h : package.WF) :
    (ackPayload py config now package raw).WF := by
  refine dict_wf fun p hp => ?_
  rcases List.mem_append.1 hp with hp | hp
  · simp only [List.mem_cons, List.not_mem_nil, or_false] at hp
    rcases hp with rfl | rfl | rfl | rfl <;> trivial
  · rcases List.mem_cons.1 hp with rfl | hp
    · trivial
    · obtain ⟨f, -, rfl⟩ := List.mem_map.1 hp
      exact wf_item h f

theorem readbackPayload_wf (config : CollectorConfig) (packageDigest nonce contextDigest : String) (now : ℤ)
    (row : Option CollectionRecord) : (readbackPayload py config packageDigest nonce contextDigest now row).WF := by
  refine dict_wf fun p hp => ?_
  simp only [List.mem_cons, List.not_mem_nil, or_false] at hp
  rcases hp with rfl | rfl | rfl | rfl | rfl | rfl | rfl | rfl | rfl
  · trivial
  · trivial
  · trivial
  · trivial
  · trivial
  · trivial
  · trivial
  · trivial
  · cases row <;> trivial

theorem ackPayload_items (config : CollectorConfig) (now : ℤ) (package : Json) (raw : Bytes) :
    let payload := ackPayload py config now package raw
    payload.item "schema" = .str ackSchema ∧ payload.item "collector_id" = .str config.collectorId ∧
      payload.item "storage_epoch" = .int config.recoveryEpoch ∧ payload.item "recorded_at_ms" = .int now ∧
      ∀ m ∈ bindingMembers py package raw, payload.item m.1 = m.2 := by
  refine ⟨?_, ?_, ?_, ?_, ?_⟩
  · exact item_of_get? (by simp [ackPayload, bindingMembers, bindingFields, get?_dict, lookup_cons_ite])
  · exact item_of_get? (by simp [ackPayload, bindingMembers, bindingFields, get?_dict, lookup_cons_ite])
  · exact item_of_get? (by simp [ackPayload, bindingMembers, bindingFields, get?_dict, lookup_cons_ite])
  · exact item_of_get? (by simp [ackPayload, bindingMembers, bindingFields, get?_dict, lookup_cons_ite])
  · intro m hm
    simp only [bindingMembers, bindingFields, List.map_cons, List.map_nil, List.mem_cons, List.not_mem_nil,
      or_false] at hm
    rcases hm with rfl | rfl | rfl | rfl | rfl | rfl | rfl <;>
      exact item_of_get? (by simp [ackPayload, bindingMembers, bindingFields, get?_dict, lookup_cons_ite])

theorem readbackPayload_items (config : CollectorConfig) (packageDigest nonce contextDigest : String) (now : ℤ)
    (row : Option CollectionRecord) :
    let payload := readbackPayload py config packageDigest nonce contextDigest now row
    payload.item "schema" = .str readbackSchema ∧ payload.item "collector_id" = .str config.collectorId ∧
      payload.item "recovery_epoch" = .int config.recoveryEpoch ∧ payload.item "nonce" = .str nonce ∧
      payload.item "observed_at_ms" = .int now ∧
      payload.item "state" = .str (if row.isSome then "PRESENT" else "MISSING") ∧
      payload.item "package_digest" = .str packageDigest ∧ payload.item "context_digest" = .str contextDigest ∧
      payload.item "ack_digest" = (row.map fun row => Json.str (bytesDigest py row.ackBytes)).getD .null := by
  refine ⟨?_, ?_, ?_, ?_, ?_, ?_, ?_, ?_, ?_⟩ <;>
    exact item_of_get? (by simp [readbackPayload, get?_dict, lookup_cons_ite])

end Statements

section Transactions
variable {py : Platform}

/-! ## The two operations -/

variable (py) in
/-- The process serves the generation that the store has reached. -/
def Current (s : CollectorStore) (config : CollectorConfig) : Prop :=
  ∃ identityDigest, encodeDigest py (storeIdentity py config) = .ok identityDigest ∧
    currentGeneration py s.metadata config.recoveryEpoch identityDigest = .ok ()

theorem collect_cases {config : CollectorConfig} {raw : Bytes} {now : ℤ} {s s' : CollectorStore} {ack : Bytes}
    (h : collect py config raw now s = .ok (ack, s')) :
    ∃ package, validatePackage py raw config.context = .ok package ∧
      ((∃ old ∈ s.records.rows, old.requestDigest = (package.item "request_digest").text ∧
          old.kind = (package.item "kind").text ∧ old.packageBytes = raw ∧ ack = old.ackBytes ∧ s' = s) ∨
        (Current py s config ∧ signStatement py config.privateKey (ackPayload py config now package raw) = .ok ack ∧
          s'.records.rows = s.records.rows ++ [⟨bytesDigest py raw, (package.item "request_digest").text,
            (package.item "kind").text, raw, ack⟩] ∧ s'.metadata = s.metadata)) := by
  obtain ⟨package, hvalid, h⟩ := bind_ok h
  refine ⟨package, check_ok.1 hvalid, ?_⟩
  dsimp only at h
  split at h
  · next old hold =>
    have hkey := List.find?_some hold
    simp only [Bool.and_eq_true, decide_eq_true_eq] at hkey
    obtain ⟨hd, hk⟩ := hkey
    by_cases hr : old.packageBytes ≠ raw
    · rw [if_pos hr] at h
      cases h
    · rw [if_neg hr] at h
      cases h
      exact .inl ⟨old, List.mem_of_find?_eq_some hold, hd, hk, not_not.1 hr, rfl, rfl⟩
  · obtain ⟨identityDigest, hidentity, h⟩ := bind_ok h
    obtain ⟨_, hgeneration, h⟩ := bind_ok h
    obtain ⟨signed, hsigned, h⟩ := bind_ok h
    obtain ⟨records, hins, h⟩ := bind_ok h
    cases h
    exact .inr ⟨⟨identityDigest, check_ok.1 hidentity, check_ok.1 hgeneration⟩, check_ok.1 hsigned, (Table.insert_some (integrity_ok.1 hins)).1, rfl⟩

/-- The response that a readback sends. -/
def responseOf (signed : Bytes) (row : Option CollectionRecord) : Json :=
  dict [("readback_bytes", .str (hex signed)),
    ("ack_bytes", ((row.map CollectionRecord.ackBytes).map fun raw => Json.str (hex raw)).getD .null),
    ("package_bytes", ((row.map CollectionRecord.packageBytes).map fun raw => Json.str (hex raw)).getD .null)]

theorem responseOf_wf (signed : Bytes) (row : Option CollectionRecord) : (responseOf signed row).WF :=
  responseValue_wf (by trivial) (hexOrNull_wf _) (hexOrNull_wf _)

theorem responseOf_items (signed : Bytes) (row : Option CollectionRecord) :
    (responseOf signed row).item "readback_bytes" = .str (hex signed) ∧
      (responseOf signed row).item "ack_bytes" =
        ((row.map CollectionRecord.ackBytes).map fun raw => Json.str (hex raw)).getD .null ∧
      (responseOf signed row).item "package_bytes" =
        ((row.map CollectionRecord.packageBytes).map fun raw => Json.str (hex raw)).getD .null := by
  refine ⟨?_, ?_, ?_⟩ <;> exact item_of_get? (by simp [responseOf, get?_dict, lookup_cons_ite])

theorem readback_cases {config : CollectorConfig} {packageDigest nonce : String} {now : ℤ} {s : CollectorStore}
    {body : Bytes} (h : readback py config packageDigest nonce now s = .ok body) :
    ∃ contextDigest signed, signStatement py config.privateKey (readbackPayload py config packageDigest nonce
        contextDigest now (s.records.rows.find? fun row => row.packageDigest = packageDigest)) = .ok signed ∧
      encode py (responseOf signed (s.records.rows.find? fun row => row.packageDigest = packageDigest)) = .ok body := by
  obtain ⟨_, -, h⟩ := bind_ok h
  obtain ⟨_, -, h⟩ := bind_ok h
  obtain ⟨contextDigest, -, h⟩ := bind_ok h
  obtain ⟨signed, hsigned, h⟩ := bind_ok h
  exact ⟨contextDigest, signed, check_ok.1 hsigned, check_ok.1 h⟩

/-! ## Runs -/

/-- A collector's store, the processes that serve it, and the statements it has sent. -/
structure Collector where
  store : CollectorStore
  serving : List CollectorConfig
  issued : List Bytes

def Collector.initial : Collector := ⟨.empty, [], []⟩

variable (py) in
/-- The response carries the signed statement. -/
def Carries (response signed : Bytes) : Prop :=
  ∃ v, decode py response = .ok v ∧ v.item "readback_bytes" = .str (hex signed)

variable (py) in
/-- One step of any process: it starts, perhaps with a later epoch, it stops, it collects a package and its
    acknowledgment is sent or lost, or it answers a readback. -/
inductive CollectorStep (s : Collector) : Collector → Prop
  | start {config config' : CollectorConfig} {store : CollectorStore}
      (started : initializeCollector py config s.store = .ok (config', store)) :
      CollectorStep s { s with store, serving := config' :: s.serving }
  | stop {serving : List CollectorConfig} (left : serving ⊆ s.serving) : CollectorStep s { s with serving }
  | collect {config : CollectorConfig} {raw ack : Bytes} {now : ℕ} {store : CollectorStore} (by_ : config ∈ s.serving)
      (collected : collect py config raw now s.store = .ok (ack, store)) :
      CollectorStep s { s with store, issued := s.issued ++ [ack] }
  | lost {config : CollectorConfig} {raw ack : Bytes} {now : ℕ} {store : CollectorStore} (by_ : config ∈ s.serving)
      (collected : Custody.collect py config raw now s.store = .ok (ack, store)) : CollectorStep s { s with store }
  | refused {config : CollectorConfig} {raw : Bytes} {now : ℕ} {e : Failure} (by_ : config ∈ s.serving)
      (rejected : Custody.collect py config raw now s.store = .error e) : CollectorStep s s
  | readback {config : CollectorConfig} {packageDigest nonce : String} {now : ℕ} {body signed : Bytes}
      (by_ : config ∈ s.serving) (answered : readback py config packageDigest nonce now s.store = .ok body)
      (carries : Carries py body signed) : CollectorStep s { s with issued := s.issued ++ [signed] }

/-- Any interleaving of the processes' steps. -/
abbrev CollectorRun (py : Platform) : Collector → Collector → Prop := Relation.ReflTransGen (CollectorStep py)

def CollectorReachable (py : Platform) (s : Collector) : Prop := CollectorRun py .initial s

end Transactions

section Runs
variable {py : Platform}

/-! ## The identity and the epoch of a store -/

variable (py) in
/-- A configuration of the identity that the store was created with. -/
def Identifies (s : CollectorStore) (config : CollectorConfig) : Prop :=
  config.context.WF ∧ ∃ m, s.metadata = some m ∧ canonicalText py (storeIdentity py config) = .ok m.identity

variable (py) in
/-- The epoch that the store has reached. -/
def storageEpoch (s : CollectorStore) : Option ℤ :=
  (s.metadata.bind Metadata.generation).bind fun generation =>
    (loadJsonText py runtimeBounds generation).toOption.map fun v => (v.item "recovery_epoch").number

variable (py) in
/-- A later store has the same identity and no earlier epoch. -/
structure Advances (s t : CollectorStore) : Prop where
  identity : ∀ config, Identifies py s config → Identifies py t config
  epoch : ∀ e, storageEpoch py s = some e → ∃ e', storageEpoch py t = some e' ∧ e ≤ e'

theorem advances_of_metadata {s t : CollectorStore} (h : t.metadata = s.metadata) : Advances py s t where
  identity _ := fun ⟨hw, m, hm, hi⟩ => ⟨hw, m, h.trans hm, hi⟩
  epoch e he := by
    refine ⟨e, ?_, le_refl e⟩
    rw [storageEpoch, h]
    exact he

theorem storeIdentity_wf {config : CollectorConfig} (h : config.context.WF) : (storeIdentity py config).WF := by
  refine dict_wf fun p hp => ?_
  simp only [List.mem_cons, List.not_mem_nil, or_false] at hp
  rcases hp with rfl | rfl | rfl | rfl
  · trivial
  · exact h
  · trivial
  · trivial

theorem Identifies.same {s : CollectorStore} {a b : CollectorConfig} (ha : Identifies py s a)
    (hb : Identifies py s b) : a.context = b.context ∧ a.collectorId = b.collectorId ∧
      py.publicKey a.privateKey = py.publicKey b.privateKey := by
  obtain ⟨hwa, m, hm, hia⟩ := ha
  obtain ⟨hwb, m', hm', hib⟩ := hb
  obtain rfl := Option.some.inj (hm.symm.trans hm')
  have hj := canonicalText_injective (storeIdentity_wf hwa) (storeIdentity_wf hwb) hia hib
  have items (c : CollectorConfig) : (storeIdentity py c).item "context" = c.context ∧
      (storeIdentity py c).item "collector_id" = .str c.collectorId ∧
      (storeIdentity py c).item "public_key" = .str (hex (py.publicKey c.privateKey)) := by
    refine ⟨?_, ?_, ?_⟩ <;> exact item_of_get? (by simp [storeIdentity, get?_dict, lookup_cons_ite])
  obtain ⟨hc, hi, hk⟩ := items a
  obtain ⟨hc', hi', hk'⟩ := items b
  rw [hj] at hc hi hk
  exact ⟨hc.symm.trans hc', Json.str.inj (hi.symm.trans hi'), hex_injective (Json.str.inj (hk.symm.trans hk'))⟩

theorem loadJsonText_canonicalText {v : Json} {t : String} (hw : v.WF) (h : canonicalText py v = .ok t) :
    loadJsonText py runtimeBounds t = .ok v := by
  obtain ⟨raw, hraw, h⟩ := bind_ok h
  cases h
  obtain ⟨hc, rfl, hl⟩ := canonicalJson_ok py runtimeBounds hraw
  have hlen := (le_length_encodeUtf8 (dumps py.floatRepr false v)).trans hl
  have hloads : loads boundedHooks (dumps py.floatRepr false v) = .ok v :=
    loads_dumps boundedHooks py.floatRepr false (fun _ => True) (fun n _ => by simp [boundedHooks, intToken_dumpInt])
      (fun ms hms => uniquePairs_sorted _ ms hms) v (checkValue_plain py runtimeBounds 0 v hc hw)
  have hraw : canonicalJson py runtimeBounds v = .ok _ := hraw
  rw [loadJsonText, if_neg (not_lt.2 (by rw [String.length_ofList]; exact hlen)), String.toList_ofList]
  simp only [hloads, hraw, bind, Except.bind]
  rfl

theorem generationValue_wf (epoch : ℤ) (configuration : String) : (generationValue epoch configuration).WF := by
  refine dict_wf fun p hp => ?_
  simp only [List.mem_cons, List.not_mem_nil, or_false] at hp
  rcases hp with rfl | rfl <;> trivial

theorem item_generationValue (epoch : ℤ) (configuration : String) :
    (generationValue epoch configuration).item "recovery_epoch" = .int epoch :=
  item_of_get? (by simp [generationValue, get?_dict, lookup_cons_ite])

theorem Current.epoch {s : CollectorStore} {config : CollectorConfig} (h : Current py s config) :
    storageEpoch py s = some config.recoveryEpoch := by
  obtain ⟨identityDigest, -, h⟩ := h
  unfold currentGeneration at h
  rw [storageEpoch]
  cases hm : s.metadata.bind Metadata.generation with
  | none =>
    rw [hm] at h
    change require (decide (Json.null = generationValue config.recoveryEpoch identityDigest)) _ = _ at h
    exact absurd (of_decide_eq_true (require_ok.1 h)) (by rintro ⟨⟩)
  | some generation =>
    rw [hm] at h
    obtain ⟨current, hcurrent, h⟩ := bind_ok h
    obtain rfl := of_decide_eq_true (require_ok.1 h)
    rw [Option.bind_some, hcurrent]
    change some ((generationValue config.recoveryEpoch identityDigest).item "recovery_epoch").number = _
    rw [item_generationValue]
    rfl

theorem storeMeta_epoch {expected : Json} {epoch : ℤ} {configuration : String} {row : Option Metadata} {m : Metadata}
    (h : storeMeta py expected epoch configuration row = .ok m) {s : CollectorStore} (hs : s.metadata = row)
    {e : ℤ} (he : storageEpoch py s = some e) {t : CollectorStore} (ht : t.metadata = some m) :
    ∃ e', storageEpoch py t = some e' ∧ e ≤ e' := by
  rw [storageEpoch, hs] at he
  cases row with
  | none => cases he
  | some row =>
    obtain ⟨encoded, -, h⟩ := bind_ok h
    obtain ⟨_, -, h⟩ := bind_ok h
    cases hg : row.generation with
    | none =>
      rw [Option.bind_some, hg] at he
      cases he
    | some generation =>
      rw [hg] at h
      rw [Option.bind_some, hg, Option.bind_some] at he
      obtain ⟨previous, hprevious, h⟩ := bind_ok h
      obtain ⟨_, -, h⟩ := bind_ok h
      rw [hprevious] at he
      obtain rfl : (previous.item "recovery_epoch").number = e := Option.some.inj he
      split_ifs at h with hlt
      · obtain ⟨text, htext, h⟩ := bind_ok h
        cases h
        refine ⟨epoch, ?_, le_of_lt hlt⟩
        have hload := loadJsonText_canonicalText (generationValue_wf epoch configuration) htext
        rw [storageEpoch, ht, Option.bind_some]
        simp only [Option.bind_some, hload]
        change some ((generationValue epoch configuration).item "recovery_epoch").number = _
        rw [item_generationValue]
        rfl
      · cases h
        refine ⟨_, ?_, le_refl _⟩
        rw [storageEpoch, ht, Option.bind_some, hg, Option.bind_some, hprevious]
        rfl

/-- What a process was started with. -/
structure Configured (config : CollectorConfig) : Prop where
  collectorId : textOk (.str config.collectorId) = true
  epoch : integerOk (.int config.recoveryEpoch) = true
  key : config.privateKey.length = 32

theorem initializeCollector_advances {config config' : CollectorConfig} {s s' : CollectorStore}
    (h : initializeCollector py config s = .ok (config', s')) :
    Identifies py s' config' ∧ Configured config' ∧ Advances py s s' := by
  obtain ⟨context, hcontext, h⟩ := bind_ok h
  obtain ⟨_, -, h⟩ := bind_ok h
  obtain ⟨_, hkey, h⟩ := bind_ok h
  obtain ⟨_, hconfigured, h⟩ := bind_ok h
  obtain ⟨_, -, h⟩ := bind_ok h
  obtain ⟨metadata, hmeta, h⟩ := bind_ok h
  cases h
  have hmeta := check_ok.1 hmeta
  obtain ⟨hid, hold⟩ := storeMeta_ok hmeta
  have hw := (validateContext_ok (check_ok.1 hcontext)).1
  have hkey := of_decide_eq_true (require_ok.1 (check_ok.1 hkey))
  have hconfigured := require_ok.1 (check_ok.1 hconfigured)
  simp only [Bool.and_eq_true] at hconfigured
  refine ⟨⟨hw, metadata, rfl, hid⟩, ⟨hconfigured.1, hconfigured.2, hkey⟩, ?_, fun e he => ?_⟩
  · rintro c ⟨hcw, m, hm, hi⟩
    exact ⟨hcw, metadata, rfl, by rw [hi, hold m hm]⟩
  · exact storeMeta_epoch hmeta rfl he rfl

/-! ## What every store reached keeps -/

variable (py) in
/-- A record as it was made, with the acknowledgment that was signed for it then. -/
structure Acknowledged (s : CollectorStore) (row : CollectionRecord) (config : CollectorConfig) (now : ℕ)
    (package : Json) : Prop where
  identifies : Identifies py s config
  configured : Configured config
  epoch : ∃ e, storageEpoch py s = some e ∧ config.recoveryEpoch ≤ e
  valid : validatePackage py row.packageBytes config.context = .ok package
  packageDigest : row.packageDigest = bytesDigest py row.packageBytes
  requestDigest : row.requestDigest = (package.item "request_digest").text
  kind : row.kind = (package.item "kind").text
  signs : signStatement py config.privateKey (ackPayload py config now package row.packageBytes) = .ok row.ackBytes

variable (py) in
def Original (s : CollectorStore) (row : CollectionRecord) : Prop :=
  ∃ config now package, Acknowledged py s row config now package

variable (py) in
structure CollectorInv (s : Collector) : Prop where
  serving : ∀ config ∈ s.serving, Identifies py s.store config ∧ Configured config
  original : ∀ row ∈ s.store.records.rows, Original py s.store row
  issued : ∀ raw ∈ s.issued, (∃ row ∈ s.store.records.rows, row.ackBytes = raw) ∨
    ∃ config packageDigest nonce contextDigest now row, signStatement py config.privateKey
      (readbackPayload py config packageDigest nonce contextDigest now row) = .ok raw

theorem Original.advances {s t : CollectorStore} {row : CollectionRecord} (h : Original py s row)
    (ha : Advances py s t) : Original py t row := by
  obtain ⟨config, now, package, x⟩ := h
  obtain ⟨e, he, hle⟩ := x.epoch
  obtain ⟨e', he', hle'⟩ := ha.epoch e he
  exact ⟨config, now, package, { x with identifies := ha.identity config x.identifies, epoch := ⟨e', he', hle.trans hle'⟩ }⟩

/-- What a collection leaves: the record of the package, with the acknowledgment that was returned. -/
theorem collect_recorded {config : CollectorConfig} {raw : Bytes} {now : ℕ} {s s' : CollectorStore} {ack : Bytes}
    (h : collect py config raw now s = .ok (ack, s')) (hid : Identifies py s config) (hc : Configured config) :
    s.records.rows <+: s'.records.rows ∧ Advances py s s' ∧
      (∃ row ∈ s'.records.rows, row.packageBytes = raw ∧ row.ackBytes = ack) ∧
      ∀ row ∈ s'.records.rows, row ∈ s.records.rows ∨ Original py s' row := by
  obtain ⟨package, hvalid, ⟨old, hold, -, -, hraw, rfl, rfl⟩ | ⟨hcurrent, hsign, hrows, hmeta⟩⟩ := collect_cases h
  · exact ⟨List.prefix_rfl, advances_of_metadata rfl, ⟨old, hold, hraw, rfl⟩, fun row hrow => .inl hrow⟩
  · have hadvances : Advances py s s' := advances_of_metadata hmeta
    refine ⟨hrows ▸ List.prefix_append _ _, hadvances, ⟨⟨bytesDigest py raw, (package.item "request_digest").text,
      (package.item "kind").text, raw, ack⟩, ?_, rfl, rfl⟩, fun row hrow => ?_⟩
    · exact hrows ▸ List.mem_append_right _ List.mem_cons_self
    · rw [hrows] at hrow
      rcases List.mem_append.1 hrow with hrow | hrow
      · exact .inl hrow
      · obtain rfl := List.mem_singleton.1 hrow
        obtain ⟨e, he, hle⟩ := hadvances.epoch _ hcurrent.epoch
        exact .inr ⟨config, now, package, hadvances.identity config hid, hc, ⟨e, he, hle⟩, hvalid, rfl, rfl, rfl, hsign⟩

theorem inv_collected {s : Collector} {config : CollectorConfig} {raw ack : Bytes} {now : ℕ} {store : CollectorStore}
    (h : CollectorInv py s) (hc : config ∈ s.serving) (hr : collect py config raw now s.store = .ok (ack, store))
    {issued : List Bytes} (hi : ∀ raw ∈ issued, raw ∈ s.issued ∨ raw = ack) :
    CollectorInv py { s with store, issued } := by
  obtain ⟨hid, hconfigured⟩ := h.serving config hc
  obtain ⟨hrows, hadvances, ⟨row, hrow, -, hack⟩, horiginal⟩ := collect_recorded hr hid hconfigured
  refine ⟨fun c hc' => ?_, fun row hrow => ?_, fun raw' hraw => ?_⟩
  · exact ⟨hadvances.identity c (h.serving c hc').1, (h.serving c hc').2⟩
  · rcases horiginal row hrow with hrow | hrow
    · exact (h.original row hrow).advances hadvances
    · exact hrow
  · rcases hi raw' hraw with hraw | rfl
    · exact (h.issued raw' hraw).imp_left fun ⟨row, hrow, ha⟩ => ⟨row, hrows.subset hrow, ha⟩
    · exact .inl ⟨row, hrow, hack⟩

/-- The statement a response carries is the one that was signed for it. -/
theorem carries_signed {signed signed' body : Bytes} {row : Option CollectionRecord}
    (h : encode py (responseOf signed row) = .ok body) (hc : Carries py body signed') : signed' = signed := by
  obtain ⟨v, hv, hs⟩ := hc
  have hdec := loadJson_canonicalJson py collectorBounds (responseOf_wf signed row) h
  obtain rfl := Except.ok.inj (hv.symm.trans hdec)
  rw [(responseOf_items signed row).1] at hs
  exact (hex_injective (Json.str.inj hs)).symm

theorem records_step {s t : Collector} (hs : CollectorStep py s t) : s.store.records.rows <+: t.store.records.rows := by
  have collected {config : CollectorConfig} {raw ack : Bytes} {now : ℕ} {store : CollectorStore}
      (h : collect py config raw now s.store = .ok (ack, store)) : s.store.records.rows <+: store.records.rows := by
    obtain ⟨package, -, ⟨old, -, -, -, -, -, rfl⟩ | ⟨-, -, hrows, -⟩⟩ := collect_cases h
    · exact List.prefix_rfl
    · exact hrows ▸ List.prefix_append _ _
  cases hs with
  | start started => exact initializeCollector_ok started ▸ List.prefix_rfl
  | stop | refused | readback => exact List.prefix_rfl
  | collect by_ h => exact collected h
  | lost by_ h => exact collected h

/-- Records are only added. -/
theorem records_run {s t : Collector} (hr : CollectorRun py s t) : s.store.records.rows <+: t.store.records.rows := by
  induction hr with
  | refl => exact List.prefix_rfl
  | tail _ hstep ih => exact ih.trans (records_step hstep)

theorem inv_step {s t : Collector} (h : CollectorInv py s) (hs : CollectorStep py s t) : CollectorInv py t := by
  cases hs with
  | @start config config' store started =>
    obtain ⟨hid, hconfigured, hadvances⟩ := initializeCollector_advances started
    have hrec := initializeCollector_ok started
    refine ⟨List.forall_mem_cons.2 ⟨⟨hid, hconfigured⟩, fun c hc => ?_⟩, fun row hrow => ?_, fun raw hraw => ?_⟩
    · exact ⟨hadvances.identity c (h.serving c hc).1, (h.serving c hc).2⟩
    · exact (h.original row (hrec ▸ hrow)).advances hadvances
    · have := h.issued raw hraw
      rwa [← hrec] at this
  | stop left => exact { h with serving := fun c hc => h.serving c (left hc) }
  | collect by_ collected =>
    exact inv_collected h by_ collected fun raw hraw => (List.mem_append.1 hraw).imp_right List.mem_singleton.1
  | lost by_ collected => exact inv_collected h by_ collected fun raw hraw => .inl hraw
  | refused by_ rejected => exact h
  | @readback config packageDigest nonce now body signed by_ answered carries =>
    refine { h with issued := fun raw hraw => ?_ }
    rcases List.mem_append.1 hraw with hraw | hraw
    · exact h.issued raw hraw
    · obtain rfl := List.mem_singleton.1 hraw
      obtain ⟨contextDigest, signed', hsign, hbody⟩ := readback_cases answered
      obtain rfl := carries_signed hbody carries
      exact .inr ⟨config, packageDigest, nonce, contextDigest, now, _, hsign⟩

theorem collector_inv {s : Collector} (h : CollectorReachable py s) : CollectorInv py s := by
  induction h with
  | refl => exact ⟨fun _ h => (by cases h), fun _ h => (by cases h), fun _ h => (by cases h)⟩
  | tail _ hstep ih => exact inv_step ih hstep

/-! ## Records are unique and keep their acknowledgment -/

theorem records_unique {s : CollectorStore} {a b : CollectionRecord} (ha : a ∈ s.records.rows)
    (hb : b ∈ s.records.rows) (h : a.Clash b) : a = b :=
  s.records.eq_of_clash (fun _ _ h => h.imp Eq.symm (And.imp Eq.symm Eq.symm)) ha hb h

/-- The package of a record, collected again, gets the record's acknowledgment. -/
theorem collect_again {s : Collector} (h : CollectorInv py s) {config : CollectorConfig} (hc : config ∈ s.serving)
    {row : CollectionRecord} (hrow : row ∈ s.store.records.rows) (now : ℤ) :
    collect py config row.packageBytes now s.store = .ok (row.ackBytes, s.store) := by
  obtain ⟨origin, _, package, x⟩ := h.original row hrow
  have hvalid := x.valid
  rw [(x.identifies.same (h.serving config hc).1).1] at hvalid
  have hfind : s.store.records.rows.find? (fun old => old.requestDigest = (package.item "request_digest").text &&
      old.kind = (package.item "kind").text) = some row := by
    refine s.store.records.find?_eq (fun _ _ h => h.imp Eq.symm (And.imp Eq.symm Eq.symm)) hrow
      (by simp [x.requestDigest, x.kind]) fun b hb => .inr ?_
    simp only [Bool.and_eq_true, decide_eq_true_eq] at hb
    exact ⟨hb.1.trans x.requestDigest.symm, hb.2.trans x.kind.symm⟩
  simp only [collect, hvalid, hfind, check, Except.mapError, bind, Except.bind, ne_eq, not_true_eq_false, if_false]
  rfl

/-- Other bytes for the request and the kind of a record are refused. -/
theorem collect_conflict {s : Collector} {config : CollectorConfig} {row : CollectionRecord}
    (hrow : row ∈ s.store.records.rows) {raw : Bytes} (hne : raw ≠ row.packageBytes) {package : Json}
    (hvalid : validatePackage py raw config.context = .ok package)
    (hd : package.item "request_digest" = .str row.requestDigest) (hk : package.item "kind" = .str row.kind) (now : ℤ) :
    collect py config raw now s.store = .error (.value "original_collection_conflict") := by
  have hfind : s.store.records.rows.find? (fun old => old.requestDigest = (package.item "request_digest").text &&
      old.kind = (package.item "kind").text) = some row := by
    refine s.store.records.find?_eq (fun _ _ h => h.imp Eq.symm (And.imp Eq.symm Eq.symm)) hrow
      (by simp [hd, hk, Json.text]) fun b hb => .inr ?_
    simp only [hd, hk, Json.text, Bool.and_eq_true, decide_eq_true_eq] at hb
    exact hb
  have hne' : row.packageBytes ≠ raw := fun heq => hne heq.symm
  simp only [collect, hvalid, hfind, check, Except.mapError, bind, Except.bind, if_pos hne']

end Runs
end VapEvidence.Custody
