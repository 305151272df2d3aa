import VapEvidence.CollectionCustody
import VapEvidence.CompactJson
import VapEvidence.EditorSession
import VapEvidence.InsertionOrder

set_option autoImplicit false

/-!
# Sessions that verify

A snapshot of an editor is replayed by the verifier to the blocks that the session has written.
The invariant of a session is that its operations replay to its blocks, and that they leave
room for the checkpoint.
-/
namespace VapEvidence.Publication
open Json Incident Transaction InsertionOrder

/-! ## Single values -/

theorem hex_lower (b : Bytes) : (hex b).toList.all isLowerHex = true := by
  refine List.all_eq_true.2 fun c hc => ?_
  have h := (Payment.mem_hex hc).1
  simpa [Payment.isLowerHex, isLowerHex] using h

theorem editorHex_hex {b : Bytes} {size : ℕ} (h : 2 * b.length = size) :
    editorHex (.str (hex b)) size = .ok (hex b) := by
  rw [editorHex, hex_lower b, hex_length, decide_eq_true h]
  rfl

theorem digestHex_hex {b : Bytes} {n : ℕ} (h : b.length = n) : digestHex (.str (hex b)) n = .ok (hex b) := by
  rw [digestHex, hex_lower b, hex_length, h, decide_eq_true rfl]
  rfl

theorem isIdentifier_length {s : List Char} (h : isIdentifier s = true) : s.length ≤ 64 := by
  cases s with
  | nil => cases h
  | cons c cs =>
    simp only [isIdentifier, Bool.and_eq_true, decide_eq_true_eq] at h
    rw [List.length_cons]
    omega

theorem identifier_length {value : Json} {s : String} (h : identifier value = .ok s) : s.length ≤ 64 := by
  unfold identifier at h
  split at h
  · split_ifs at h with hs
    · cases h
      rw [← String.length_toList]
      exact isIdentifier_length hs
    · cases h
  · cases h

theorem editorKeyId_spec {s t : String} (h : editorKeyId (.str s) = .ok t) :
    s.toList.all isBlank = false ∧ s.length ≤ 256 := by
  unfold editorKeyId at h
  dsimp only at h
  split_ifs at h with hs
  · rw [Bool.and_eq_true, Bool.not_eq_true', decide_eq_true_iff] at hs
    exact hs
  · cases h

theorem text_of_editorKeyId {s t : String} (h : editorKeyId (.str s) = .ok t) : Incident.text (.str s) = .ok s := by
  obtain ⟨hblank, hlength⟩ := editorKeyId_spec h
  have hmax : s.length ≤ maxText := hlength.trans (by decide)
  rw [Incident.text, hblank, decide_eq_true hmax]
  rfl

theorem blockText_self {value : Json} {s : String} (h : blockText value = .ok s) : blockText (.str s) = .ok s := by
  unfold blockText at h
  split at h
  · obtain ⟨_, hlength, h⟩ := bind_ok h
    obtain ⟨_, hcontrol, h⟩ := bind_ok h
    cases h
    rw [blockText, hlength, hcontrol]
    rfl
  · cases h

theorem fraction_length {s rest : List Char} {n : ℕ} (h : fraction s = some (n, rest)) :
    s.length ≤ rest.length + 7 := by
  unfold fraction at h
  split at h
  · next t =>
    dsimp only at h
    split_ifs at h with hd
    cases h
    have := congrArg List.length (List.takeWhile_append_dropWhile (p := Char.isDigit) (l := t))
    rw [List.length_append] at this
    rw [List.length_cons]
    omega
  · cases h
    omega

theorem offset_length {s : List Char} {o : ℤ} (h : offset s = some o) : s.length ≤ 6 := by
  unfold offset at h
  split at h
  · decide
  · exact Nat.le_refl 6
  · cases h

/-- A timestamp is at most 32 characters long. -/
theorem timestamp_length {value : Json} {at_ : ℤ} (h : timestamp value = .ok at_) :
    ∃ s, value = .str s ∧ s.length ≤ 32 := by
  obtain ⟨s, hs, h⟩ := bind_ok h
  refine ⟨s, text_ok hs, ?_⟩
  cases hi : instantOf s.toList with
  | none =>
    rw [hi] at h
    cases h
  | some u =>
    unfold instantOf at hi
    split_ifs at hi
    split at hi
    · next micro rest _ hfraction =>
      cases ho : offset rest with
      | none =>
        rw [ho] at hi
        cases hi
      | some o =>
        have hrest := offset_length ho
        have hdrop := fraction_length hfraction
        rw [List.length_drop, String.length_toList] at hdrop
        omega
    · cases hi

/-! ## Envelopes -/

def envelopeOf (keyId : String) (body : Json) (signature : Bytes) : Json :=
  dict [("algorithm", .str "Ed25519"), ("key_id", .str keyId), ("body", body), ("signature", .str (hex signature))]

section Envelopes
variable {keyId : String} {body : Json} {signature : Bytes}

theorem envelopeOf_fields : (envelopeOf keyId body signature).hasFields ["algorithm", "key_id", "body", "signature"] =
    true := by
  rw [envelopeOf, hasFields_dict]
  exact ⟨by simp, by simp⟩

theorem envelopeOf_items : (envelopeOf keyId body signature).item "algorithm" = .str "Ed25519" ∧
    (envelopeOf keyId body signature).item "key_id" = .str keyId ∧
    (envelopeOf keyId body signature).item "body" = body ∧
    (envelopeOf keyId body signature).item "signature" = .str (hex signature) :=
  ⟨item_dict (by simp) (by simp), item_dict (by simp) (by simp), item_dict (by simp) (by simp),
    item_dict (by simp) (by simp)⟩

theorem envelopeOf_compact {n : ℕ} (h : Compact n body) : Compact (n + 1) (envelopeOf keyId body signature) := by
  refine .dict ["algorithm", "key_id", "body", "signature"] rfl (by decide) (by simp) ?_
  simp only [List.forall_mem_cons]
  exact ⟨.str n _, .str n _, h, .str n _, fun _ h => (List.not_mem_nil h).elim⟩

theorem exactKeys_envelopeOf :
    exactKeys (envelopeOf keyId body signature) ["algorithm", "key_id", "body", "signature"] [] = .ok () := by
  have hfields := @envelopeOf_fields keyId body signature
  obtain ⟨ms, hms, hkeys⟩ := hasFields_obj hfields
  rw [hms, exactKeys]
  refine require_true ?_
  rw [Bool.and_eq_true, List.all_eq_true, List.all_eq_true]
  refine ⟨fun k hk => ?_, fun m hm => ?_⟩
  · exact List.contains_iff_mem.2 ((hkeys k).2 hk)
  · rw [Bool.or_eq_true]
    exact .inl (List.contains_iff_mem.2 ((hkeys m.1).1 (List.mem_map_of_mem hm)))

theorem envelopeShape_envelopeOf {α : Type} {shape : Json → Run α} {a : α} (hkey : editorKeyId (.str keyId) = .ok keyId)
    (hsignature : signature.length = 64) (h : shape body = .ok a) :
    envelopeShape (envelopeOf keyId body signature) shape = .ok () := by
  obtain ⟨halgorithm, hkeyId, hbody, hsig⟩ := @envelopeOf_items keyId body signature
  rw [envelopeShape, exact, envelopeOf_fields, halgorithm, hkeyId, hbody, hsig, hkey, editorHex_hex (by omega), h]
  rfl

end Envelopes

section Signing
variable {pk : Packages} (c : Collector pk)

theorem collector_key : ∃ key, unhex c.secret = some key ∧ key.length = 32 ∧
    digestHex (.str c.secret) 32 = .ok c.secret ∧ c.publicKey = hex (pk.publicKey key) := by
  have h := c.keyed
  obtain ⟨s, hs, h⟩ := bind_ok h
  cases hu : unhex c.secret with
  | none =>
    rw [hu] at h
    cases h
  | some key =>
    rw [hu] at h
    have hlength : c.secret.length = 64 := by
      unfold digestHex at hs
      dsimp only at hs
      split_ifs at hs with hlower
      · rw [Bool.and_eq_true, decide_eq_true_iff] at hlower
        exact hlower.1
      · cases hs
    refine ⟨key, rfl, ?_, ?_, (Except.ok.inj h).symm⟩
    · rw [← hex_of_unhex hu, hex_length] at hlength
      omega
    · rw [hs, Json.str.inj (digestHex_ok hs)]

/-- What the collector signs verifies under its key. -/
theorem signed_verifies (hstd : pk.toPlatform.Standard) (hsig : pk.toPlatform.Signs) (hpk : WritesCompactly pk)
    {n : ℕ} {body : Json} {kind : String} (hb : Compact n body) (hn : n < maxDepth) (hd : body.isDict = true)
    (hk : body.item "kind" = .str kind) : ∃ signature : Bytes, signature.length = 64 ∧
      signMessage pk body c.secret c.keyId = .ok (envelopeOf c.keyId body signature) ∧
      verifyMessage pk (envelopeOf c.keyId body signature) c.publicKey c.keyId kind = .ok body := by
  obtain ⟨key, hkey, hlength, hsecret, hpublic⟩ := collector_key c
  have hunsigned : Compact (n + 1) (dict [("algorithm", .str "Ed25519"), ("key_id", .str c.keyId), ("body", body)]) := by
    refine .dict ["algorithm", "key_id", "body"] rfl (by decide) (by simp) ?_
    simp only [List.forall_mem_cons]
    exact ⟨.str n _, .str n _, hb, fun _ h => (List.not_mem_nil h).elim⟩
  obtain ⟨raw, hraw⟩ : ∃ raw, canonical pk (dict [("algorithm", .str "Ed25519"), ("key_id", .str c.keyId), ("body", body)]) =
      .ok raw := ⟨_, canonical_compact hpk hunsigned hn⟩
  refine ⟨pk.sign key (domain ++ raw), hstd.signature key _, ?_, ?_⟩
  · rw [signMessage, signEnvelope, hsecret, text_of_editorKeyId c.named, signingBytes, hraw, hkey]
    rfl
  · obtain ⟨halgorithm, hkeyId, hbody, hsignature⟩ := @envelopeOf_items c.keyId body (pk.sign key (domain ++ raw))
    rw [verifyMessage, verifyEnvelope, exactKeys_envelopeOf, halgorithm, hkeyId, hbody, hsignature, signingBytes,
      envelopeOf, unsignedOf_dict, hraw, hpublic, digestHex_hex (hsig.length key hlength),
      digestHex_hex (hstd.signature key _)]
    simp [unhex_hex, Incident.require, hd, hk, hsig.verifies key (domain ++ raw) hlength, Bind.bind, Except.bind, pure, Except.pure]

end Signing
/-! ## Blocks in insertion order -/

section Assign
variable {α : Type} {key : String} {value : α} {d : List (String × α)}

theorem assign_new (h : key ∉ d.map Prod.fst) : assign key value d = d ++ [(key, value)] := by
  induction d with
  | nil => rfl
  | cons p d ih =>
    obtain ⟨k, v⟩ := p
    rw [List.map_cons, List.mem_cons, not_or] at h
    rw [assign, if_neg (Ne.symm h.1), ih h.2, List.cons_append]

theorem assign_seen (hn : (d.map Prod.fst).Nodup) (h : key ∈ d.map Prod.fst) :
    assign key value d = d.map fun p => if p.1 = key then (key, value) else p := by
  induction d with
  | nil => cases h
  | cons p d ih =>
    obtain ⟨k, v⟩ := p
    rw [List.map_cons, List.nodup_cons] at hn
    rw [assign, List.map_cons]
    split_ifs with hk
    · subst hk
      refine congrArg _ ?_
      refine (List.map_id d).symm.trans (List.map_congr_left fun p hp => ?_)
      rw [if_neg]
      · rfl
      · rintro rfl
        exact hn.1 (List.mem_map.2 ⟨p, hp, rfl⟩)
    · rw [ih hn.2 ((List.mem_cons.1 h).resolve_left (Ne.symm hk))]

/-- Writing one more item keeps the last item of each key. -/
theorem assign_finals {ω : Type} {key : ω → String} (f : ω → α) (ws : List ω) (w : ω) :
    assign (key w) (f w) ((finals key ws).map fun x => (key x, f x)) =
      (finals key (ws ++ [w])).map fun x => (key x, f x) := by
  have hkeys : (((finals key ws).map fun x => (key x, f x)).map Prod.fst) = (ws.map key).eraseDups := by
    rw [List.map_map]
    exact keys_finals ws
  by_cases h : key w ∈ ws.map key
  · rw [assign_seen (hkeys ▸ nodup_eraseDups _) (hkeys ▸ List.mem_eraseDups.2 h), finals_concat_seen h, List.map_map,
      List.map_map]
    refine List.map_congr_left fun x _ => ?_
    by_cases hx : key x = key w
    · simp only [Function.comp_apply, hx, if_true]
    · simp only [Function.comp_apply, hx, if_false]
  · rw [assign_new (by rw [hkeys]; exact fun hm => h (List.mem_eraseDups.1 hm)), finals_concat_new h, List.map_append,
      List.map_singleton]

theorem keys_assign (key : String) (value : α) (d : List (String × α)) :
    (assign key value d).map Prod.fst = if key ∈ d.map Prod.fst then d.map Prod.fst else d.map Prod.fst ++ [key] := by
  induction d with
  | nil => rfl
  | cons p d ih =>
    obtain ⟨k, v⟩ := p
    rw [assign]
    by_cases hk : k = key
    · subst hk
      rw [if_pos rfl, List.map_cons, List.map_cons, if_pos List.mem_cons_self]
    · rw [if_neg hk, List.map_cons, ih, List.map_cons]
      simp only [List.mem_cons, Ne.symm hk, false_or]
      split_ifs <;> rfl

theorem mem_assign {p : String × α} (h : p ∈ assign key value d) : p = (key, value) ∨ p ∈ d := by
  induction d with
  | nil => exact .inl (List.mem_singleton.1 h)
  | cons q d ih =>
    obtain ⟨k, v⟩ := q
    rw [assign] at h
    split_ifs at h with hk
    · rcases List.mem_cons.1 h with rfl | h
      · exact .inl (hk ▸ rfl)
      · exact .inr (List.mem_cons_of_mem _ h)
    · rcases List.mem_cons.1 h with rfl | h
      · exact .inr List.mem_cons_self
      · exact (ih h).imp_right (List.mem_cons_of_mem _)

end Assign

/-- The blocks that a document may have. -/
structure Blocks (blocks : List (String × String)) : Prop where
  count : blocks.length ≤ maxBlocks
  distinct : (blocks.map Prod.fst).Nodup
  identified : ∀ b ∈ blocks, identifier (.str b.1) = .ok b.1
  plain : ∀ b ∈ blocks, blockText (.str b.2) = .ok b.2

theorem Blocks.assign {blocks : List (String × String)} {id block : String} (h : Blocks blocks)
    (hid : identifier (.str id) = .ok id) (hblock : blockText (.str block) = .ok block)
    (hroom : (blocks.lookup id).isSome = true ∨ blocks.length < maxBlocks) :
    Blocks (Publication.assign id block blocks) := by
  have hkeys := keys_assign id block blocks
  refine ⟨?_, ?_, fun b hb => ?_, fun b hb => ?_⟩
  · rw [← List.length_map (f := Prod.fst), hkeys]
    split_ifs with hm
    · rw [List.length_map]
      exact h.count
    · have hnone : blocks.lookup id = none := by
        refine List.lookup_eq_none_iff.2 fun p hp => ?_
        rw [bne_iff_ne]
        rintro rfl
        exact hm (List.mem_map_of_mem hp)
      rw [hnone] at hroom
      have := hroom.resolve_left (by simp)
      rw [List.length_append, List.length_map, List.length_singleton]
      omega
  · rw [hkeys]
    split_ifs with hm
    · exact h.distinct
    · refine List.nodup_append.2 ⟨h.distinct, List.nodup_singleton id, ?_⟩
      rintro a ha b hb rfl
      rw [List.mem_singleton] at hb
      exact hm (hb ▸ ha)
  · rcases mem_assign hb with rfl | hb
    · exact hid
    · exact h.identified b hb
  · rcases mem_assign hb with rfl | hb
    · exact hblock
    · exact h.plain b hb

theorem blockJson_compact (b : String × String) : Compact 1 (blockJson b) := by
  refine .dict ["block_id", "text"] rfl (by decide) (by simp) ?_
  simp only [List.forall_mem_cons]
  exact ⟨.str 0 _, .str 0 _, fun _ h => (List.not_mem_nil h).elim⟩

theorem stateJson_compact {documentId : String} {blocks : List (String × String)} (h : Blocks blocks) :
    Compact 3 (stateJson documentId blocks) := by
  refine .dict ["document_id", "blocks"] rfl (by decide) (by simp) ?_
  simp only [List.forall_mem_cons]
  refine ⟨.str 2 _, .arr 1 _ ?_ fun x hx => ?_, fun _ h => (List.not_mem_nil h).elim⟩
  · rw [List.length_map]
    exact h.count.trans (by decide)
  · obtain ⟨b, -, rfl⟩ := List.mem_map.1 hx
    exact blockJson_compact b

theorem documentBlocks_ok {seen : List String} {blocks : List (String × String)}
    (hd : (blocks.map Prod.fst).Nodup) (hid : ∀ b ∈ blocks, identifier (.str b.1) = .ok b.1)
    (htext : ∀ b ∈ blocks, blockText (.str b.2) = .ok b.2) (hseen : ∀ b ∈ blocks, b.1 ∉ seen) :
    documentBlocks seen (blocks.map blockJson) = .ok blocks := by
  induction blocks generalizing seen with
  | nil => rfl
  | cons b blocks ih =>
    obtain ⟨id, block⟩ := b
    rw [List.map_cons, List.nodup_cons] at hd
    have hrest := @ih (id :: seen) hd.2 (fun b hb => hid b (List.mem_cons_of_mem _ hb))
      (fun b hb => htext b (List.mem_cons_of_mem _ hb)) fun b hb hm => by
        rcases List.mem_cons.1 hm with he | hm
        · exact hd.1 (he ▸ List.mem_map.2 ⟨b, hb, rfl⟩)
        · exact hseen b (List.mem_cons_of_mem _ hb) hm
    have hfields : (blockJson (id, block)).hasFields ["block_id", "text"] = true := by
      rw [blockJson, hasFields_dict]
      exact ⟨by simp, by simp⟩
    have hitem : (blockJson (id, block)).item "block_id" = .str id := item_dict (by simp) (by simp)
    have hitem' : (blockJson (id, block)).item "text" = .str block := item_dict (by simp) (by simp)
    have hnew : seen.contains id = false := by
      rw [List.contains_eq_mem, decide_eq_false_iff_not]
      exact hseen _ List.mem_cons_self
    rw [List.map_cons, documentBlocks, exact, hfields, hitem, hitem', hid _ List.mem_cons_self,
      htext _ List.mem_cons_self]
    simp only [hnew, hrest, Bind.bind, Except.bind]
    rfl

theorem checkDocument_state {documentId : String} {blocks : List (String × String)}
    (hd : identifier (.str documentId) = .ok documentId) (h : Blocks blocks) (hne : blocks ≠ []) :
    checkDocument (stateJson documentId blocks) = .ok blocks := by
  have hfields : (stateJson documentId blocks).hasFields ["document_id", "blocks"] = true := by
    rw [stateJson, hasFields_dict]
    exact ⟨by simp, by simp⟩
  have hitem : (stateJson documentId blocks).item "document_id" = .str documentId := item_dict (by simp) (by simp)
  have hitem' : (stateJson documentId blocks).item "blocks" = .arr (blocks.map blockJson) :=
    item_dict (by simp) (by simp)
  have hcount : ((blocks.map blockJson).length ≤ maxBlocks && !(blocks.map blockJson).isEmpty) = true := by
    have hempty : blocks.isEmpty = false := List.isEmpty_eq_false_iff.2 hne
    rw [List.length_map, decide_eq_true h.count, List.isEmpty_map, hempty]
    rfl
  rw [checkDocument, exact, hfields, hitem, hitem', hd]
  simp only [hcount, documentBlocks_ok h.distinct h.identified h.plain fun b _ => List.not_mem_nil, Bind.bind, Except.bind]
  rfl

/-! ## Operations and checkpoints -/

section Bodies
variable {documentId previous before after id block label : String} {n : ℕ} {clock : Json} {at_ : ℤ}

theorem operationBody_fields :
    (operationBody documentId n previous before after id block label clock).hasFields operationFields = true := by
  rw [operationBody, hasFields_dict]
  exact ⟨by simp [operationFields], by simp [operationFields]⟩

/-- What the verifier reads of an operation's body. -/
structure OperationItems (body : Json) (documentId : String) (n : ℕ) (previous before after id block label : String)
    (clock : Json) : Prop where
  kind : body.item "kind" = .str "editor_operation"
  documentId : body.item "document_id" = .str documentId
  sequence : body.item "sequence" = .int n
  previous : body.item "previous_sha256" = .str previous
  before : body.item "before_sha256" = .str before
  after : body.item "after_sha256" = .str after
  blockId : body.item "block_id" = .str id
  text : body.item "text" = .str block
  activity : body.item "activity" = .str label
  observedAt : body.item "observed_at" = clock

theorem operationBody_items : OperationItems
    (operationBody documentId n previous before after id block label clock) documentId n previous before after id block
      label clock := by
  constructor <;> exact item_dict (by simp) (by simp)

theorem sequence_ok (h1 : 1 ≤ n) (h2 : n ≤ maxOperations) : sequence (.int n) = .ok n := by
  rw [sequence, if_pos ⟨by exact_mod_cast h1, by exact_mod_cast h2⟩]
  rfl

theorem operationShape_body (hd : identifier (.str documentId) = .ok documentId)
    (hid : identifier (.str id) = .ok id) (h1 : 1 ≤ n) (h2 : n ≤ maxOperations)
    (hprevious : editorHex (.str previous) 64 = .ok previous) (hbefore : editorHex (.str before) 64 = .ok before)
    (hafter : editorHex (.str after) 64 = .ok after) (hblock : blockText (.str block) = .ok block)
    (hlabel : activities.contains label = true) (htime : timestamp clock = .ok at_) :
    operationShape (operationBody documentId n previous before after id block label clock) =
      .ok ⟨documentId, n, previous, before, after, id, block, label, clock, at_⟩ := by
  have hitems := @operationBody_items documentId previous before after id block label n clock
  rw [operationShape, exact, operationBody_fields, hitems.kind, hitems.documentId, hitems.blockId, hitems.sequence,
    hitems.previous, hitems.before, hitems.after, hitems.text, hitems.activity, hitems.observedAt, hd, hid,
    sequence_ok h1 h2, hprevious, hbefore, hafter, hblock]
  simp only [textOf, hlabel, htime, Incident.require, Bind.bind, Except.bind, if_true, decide_true, Bool.and_true]
  rfl

theorem operationBody_compact (h2 : n ≤ maxOperations) (htime : timestamp clock = .ok at_) :
    Compact 1 (operationBody documentId n previous before after id block label clock) := by
  obtain ⟨s, rfl, -⟩ := timestamp_length htime
  have hn : (n : ℤ).natAbs ≤ maxInteger := by
    rw [Int.natAbs_natCast]
    exact h2.trans (by decide)
  refine .dict ["kind", "document_id", "sequence", "previous_sha256", "before_sha256", "after_sha256", "block_id", "text",
    "activity", "observed_at"] rfl (by decide) (by simp) ?_
  simp only [List.forall_mem_cons]
  exact ⟨.str 0 _, .str 0 _, .int 0 _ hn, .str 0 _, .str 0 _, .str 0 _, .str 0 _, .str 0 _, .str 0 _, .str 0 _,
    fun _ h => (List.not_mem_nil h).elim⟩

theorem operationBody_isDict : (operationBody documentId n previous before after id block label clock).isDict = true := rfl

variable {head : String} {document : Json}

structure CheckpointItems (body : Json) (documentId : String) (n : ℕ) (head : String) (document clock : Json) : Prop where
  kind : body.item "kind" = .str "editor_checkpoint"
  documentId : body.item "document_id" = .str documentId
  sequence : body.item "sequence" = .int n
  head : body.item "chain_head_sha256" = .str head
  document : body.item "document" = document
  observedAt : body.item "observed_at" = clock

theorem checkpointBody_items :
    CheckpointItems (checkpointBody documentId n head document clock) documentId n head document clock := by
  constructor <;> exact item_dict (by simp) (by simp)

theorem checkpointShape_body {blocks : List (String × String)} (hd : identifier (.str documentId) = .ok documentId)
    (h1 : 1 ≤ n) (h2 : n ≤ maxOperations) (hhead : editorHex (.str head) 64 = .ok head)
    (hdocument : checkDocument document = .ok blocks) (htime : timestamp clock = .ok at_) :
    checkpointShape (checkpointBody documentId n head document clock) = .ok at_ := by
  have hfields : (checkpointBody documentId n head document clock).hasFields checkpointFields = true := by
    rw [checkpointBody, hasFields_dict]
    exact ⟨by simp [checkpointFields], by simp [checkpointFields]⟩
  have hitems := @checkpointBody_items documentId n clock head document
  rw [checkpointShape, exact, hfields, hitems.kind, hitems.documentId, hitems.sequence, hitems.head, hitems.document,
    hitems.observedAt, hd, sequence_ok h1 h2, hhead, hdocument, htime]
  rfl

theorem checkpointBody_compact {m : ℕ} (h2 : n ≤ maxOperations) (hdocument : Compact m document)
    (htime : timestamp clock = .ok at_) : Compact (m + 1) (checkpointBody documentId n head document clock) := by
  obtain ⟨s, rfl, -⟩ := timestamp_length htime
  have hn : (n : ℤ).natAbs ≤ maxInteger := by
    rw [Int.natAbs_natCast]
    exact h2.trans (by decide)
  refine .dict ["kind", "document_id", "sequence", "chain_head_sha256", "document", "observed_at"] rfl (by decide)
    (by simp) ?_
  simp only [List.forall_mem_cons]
  exact ⟨.str m _, .str m _, .int m _ hn, .str m _, hdocument, .str m _, fun _ h => (List.not_mem_nil h).elim⟩

end Bodies

/-! ## Replaying -/

section Replaying
variable {pk : Packages}

theorem digest_hex (hstd : pk.toPlatform.Standard) {v : Json} {d : String} (h : digest pk v = .ok d) :
    editorHex (.str d) 64 = .ok d := by
  obtain ⟨raw, -, h⟩ := bind_ok h
  cases h
  have hlength := hstd.digest raw
  exact editorHex_hex (by omega)

theorem chainHead_hex (hstd : pk.toPlatform.Standard) {operations : List Json} {d : String}
    (h : chainHead pk operations = .ok d) : editorHex (.str d) 64 = .ok d := by
  unfold chainHead at h
  split at h
  · exact digest_hex hstd h
  · cases h
    decide +kernel

theorem replayAll_concat (documentId publicKey keyId : String) (n : ℕ) (envelopes : List Json) (envelope : Json)
    (r : Replay) : replayAll pk documentId publicKey keyId n (envelopes ++ [envelope]) r =
      (replayAll pk documentId publicKey keyId n envelopes r >>=
        replayOne pk documentId publicKey keyId (n + envelopes.length) envelope) := by
  induction envelopes generalizing n r with
  | nil =>
    rw [List.nil_append, replayAll]
    change (replayOne pk documentId publicKey keyId n envelope r >>= fun r' => .ok r') = _
    exact bind_pure _
  | cons first envelopes ih =>
    rw [List.cons_append, replayAll, replayAll, bind_assoc]
    refine congrArg _ (funext fun r' => ?_)
    rw [ih, List.length_cons, Nat.add_right_comm, Nat.add_assoc]

/-- What a replay adds for an operation. -/
def Replay.add (r : Replay) (op : Operation) (head : String) : Replay where
  blocks := assign op.blockId op.text r.blocks
  lastWrites := assign op.blockId op r.lastWrites
  previous := head
  lastTime := some op.at_
  observed := if aiActivities.contains op.activity then r.observed.insert op.activity else r.observed

theorem replayOne_eq {documentId publicKey keyId head : String} {n : ℕ} {envelope body : Json} {op : Operation}
    {r : Replay} (hverified : verifyMessage pk envelope publicKey keyId "editor_operation" = .ok body)
    (hshape : operationShape body = .ok op) (hdocument : op.documentId = documentId) (hsequence : op.sequence = n)
    (hprevious : op.previous = r.previous) (hbefore : digest pk (stateJson documentId r.blocks) = .ok op.before)
    (htime : ∀ t, r.lastTime = some t → t ≤ op.at_)
    (hroom : (r.blocks.lookup op.blockId).isSome = true ∨ r.blocks.length < maxBlocks)
    (hafter : digest pk (stateJson documentId (assign op.blockId op.text r.blocks)) = .ok op.after)
    (hhead : digest pk envelope = .ok head) :
    replayOne pk documentId publicKey keyId n envelope r = .ok (r.add op head) := by
  have hlast : (r.lastTime.all fun last => !decide (op.at_ < last)) = true := by
    cases hl : r.lastTime with
    | none => rfl
    | some t => simpa using htime t hl
  have hroom' : ((r.blocks.lookup op.blockId).isSome || decide (r.blocks.length < maxBlocks)) = true := by
    rw [Bool.or_eq_true, decide_eq_true_iff]
    exact hroom
  simp only [replayOne, hverified, hshape, hdocument, hsequence, hprevious, hbefore, hlast, hroom', hafter, hhead,
    Incident.require, Bind.bind, Except.bind, decide_true, Bool.and_true, if_true]
  rfl

end Replaying

/-! ## The invariant of a session -/

section Session
variable {pk : Packages} {c : Collector pk}

/-- The operations of an editor replay to its blocks, and leave room for a checkpoint. -/
structure Replayable (c : Collector pk) (e : Editor) (ops : List Operation) (r : Replay) : Prop where
  replayed : replayAll pk c.documentId c.publicKey c.keyId 1 e.operations ⟨[], [], genesis, none, []⟩ = .ok r
  count : ops.length = e.operations.length
  bounded : e.operations.length ≤ maxOperations
  blocks : r.blocks = e.blocks
  valid : Blocks e.blocks
  texts : e.blocks = (finals Operation.blockId ops).map fun o => (o.blockId, o.text)
  lastWrites : r.lastWrites = (finals Operation.blockId ops).map fun o => (o.blockId, o)
  head : chainHead pk e.operations = .ok r.previous
  time : ∀ t, r.lastTime = some t → ∃ u, e.lastTime = some u ∧ t ≤ u
  distinct : r.observed.Nodup
  observed : ∀ a, a ∈ r.observed ↔ a ∈ aiActivities ∧ ∃ o ∈ ops, o.activity = a
  shapes : ∀ envelope ∈ e.operations, envelopeShape envelope operationShape = .ok () ∧ Compact 2 envelope
  budget : e.operations ≠ [] → size pk.floatRepr (dict [("operations", .arr e.operations),
    ("document", stateJson c.documentId e.blocks)]) ≤ maxJson - 4096

theorem replayable_new (c : Collector pk) : Replayable c newEditor [] ⟨[], [], genesis, none, []⟩ where
  replayed := rfl
  count := rfl
  bounded := Nat.zero_le _
  blocks := rfl
  valid := ⟨Nat.zero_le _, List.nodup_nil, fun _ h => (List.not_mem_nil h).elim, fun _ h => (List.not_mem_nil h).elim⟩
  texts := rfl
  lastWrites := rfl
  head := rfl
  time _ h := nomatch h
  distinct := List.nodup_nil
  observed _ := ⟨fun h => (List.not_mem_nil h).elim, fun ⟨_, _, h, _⟩ => (List.not_mem_nil h).elim⟩
  shapes _ h := (List.not_mem_nil h).elim
  budget h := absurd rfl h

theorem Replayable.compact {e : Editor} {ops : List Operation} {r : Replay} (h : Replayable c e ops r) :
    Compact 3 (.arr e.operations) :=
  .arr 2 _ (h.bounded.trans (by decide)) fun envelope he => (h.shapes envelope he).2

theorem chainHead_concat (pk : Packages) (operations : List Json) (envelope : Json) :
    chainHead pk (operations ++ [envelope]) = digest pk envelope := by
  rw [chainHead, List.getLast?_concat]

theorem budget_compact {operations document : Json} (h : Compact 3 operations) (h' : Compact 3 document) :
    Compact 4 (dict [("operations", operations), ("document", document)]) := by
  refine .dict ["operations", "document"] rfl (by decide) (by simp) ?_
  simp only [List.forall_mem_cons]
  exact ⟨h, h', fun _ h => (List.not_mem_nil h).elim⟩

/-- The activities seen after one more operation. -/
theorem observed_add {observed : List String} {ops : List Operation} (hd : observed.Nodup)
    (h : ∀ a, a ∈ observed ↔ a ∈ aiActivities ∧ ∃ o ∈ ops, o.activity = a) (op : Operation) :
    (if aiActivities.contains op.activity then observed.insert op.activity else observed).Nodup ∧
      ∀ a, a ∈ (if aiActivities.contains op.activity then observed.insert op.activity else observed) ↔
        a ∈ aiActivities ∧ ∃ o ∈ ops ++ [op], o.activity = a := by
  have hops (a : String) : (∃ o ∈ ops ++ [op], o.activity = a) ↔ (∃ o ∈ ops, o.activity = a) ∨ op.activity = a := by
    simp only [List.mem_append, List.mem_singleton, or_and_right, exists_or, exists_eq_left]
  split_ifs with hai
  · have hai := List.contains_iff_mem.1 hai
    refine ⟨hd.insert, fun a => ?_⟩
    rw [List.mem_insert_iff, h, hops]
    constructor
    · rintro (rfl | ⟨ha, hex⟩)
      · exact ⟨hai, .inr rfl⟩
      · exact ⟨ha, .inl hex⟩
    · rintro ⟨ha, hex | rfl⟩
      · exact .inr ⟨ha, hex⟩
      · exact .inl rfl
  · refine ⟨hd, fun a => ?_⟩
    rw [h, hops]
    constructor
    · exact fun ⟨ha, hex⟩ => ⟨ha, .inl hex⟩
    · rintro ⟨ha, hex | rfl⟩
      · exact ⟨ha, hex⟩
      · exact absurd (List.contains_iff_mem.2 ha) hai

/-- What `set_block` writes is replayed. -/
theorem replayable_setBlock (hstd : pk.toPlatform.Standard) (hsig : pk.toPlatform.Signs) (hpk : WritesCompactly pk)
    {e e' : Editor} {ops : List Operation} {r : Replay} (h : Replayable c e ops r)
    {clock blockId text envelope : Json} {id block label previous before after : String} {at_ : ℤ}
    (hw : Written c clock blockId text e e' envelope id block label previous before after at_) :
    ∃ r', Replayable c e' (ops ++ [⟨c.documentId, e.operations.length + 1, previous, before, after, id, block, label, clock,
      at_⟩]) r' := by
  obtain ⟨hid, hblock, hlabel, hcount, hroom, hclock, hlater, hprevious, hbefore, hafter, hsigned, ⟨raw, hraw, hfits⟩, rfl⟩ := hw
  have hid := identifier_self hid
  have hblock := blockText_self hblock
  have hshape := operationShape_body c.identified hid (Nat.le_add_left 1 e.operations.length) hcount
    (chainHead_hex hstd hprevious) (digest_hex hstd hbefore) (digest_hex hstd hafter) hblock hlabel hclock
  have hcompact := @operationBody_compact c.documentId previous before after id block label _ clock at_ hcount hclock
  obtain ⟨signature, hlength, hsigned', hverified⟩ := signed_verifies c hstd hsig hpk hcompact (by decide)
    operationBody_isDict operationBody_items.kind
  have henv := Except.ok.inj (hsigned.symm.trans hsigned')
  have henvelope : Compact 2 envelope := henv ▸ envelopeOf_compact hcompact
  have hshapes : ∀ x ∈ e.operations ++ [envelope], envelopeShape x operationShape = .ok () ∧ Compact 2 x := by
    intro x hx
    rcases List.mem_append.1 hx with hx | hx
    · exact h.shapes x hx
    · rw [List.mem_singleton.1 hx]
      exact ⟨henv ▸ envelopeShape_envelopeOf c.named hlength hshape, henvelope⟩
  rw [← henv] at hverified
  obtain ⟨head, hhead⟩ : ∃ head, digest pk envelope = .ok head := ⟨_, digest_compact hpk henvelope (by decide)⟩
  have hvalid := h.valid.assign hid hblock hroom
  set op : Operation := ⟨c.documentId, e.operations.length + 1, previous, before, after, id, block, label, clock, at_⟩
  refine ⟨r.add op head, ?_, ?_, ?_, ?_, hvalid, ?_, ?_, ?_, ?_, ?_, ?_, ?_, ?_⟩
  · rw [replayAll_concat, h.replayed, Nat.add_comm 1]
    refine replayOne_eq hverified hshape rfl rfl ?_ ?_ ?_ ?_ ?_ hhead
    · exact Except.ok.inj (hprevious.symm.trans h.head)
    · rw [h.blocks]
      exact hbefore
    · intro t ht
      obtain ⟨u, hu, htu⟩ := h.time t ht
      exact htu.trans (hlater u hu)
    · rw [h.blocks]
      exact hroom
    · rw [h.blocks]
      exact hafter
  · rw [List.length_append, List.length_append, h.count]
    rfl
  · rw [List.length_append]
    exact hcount
  · rw [Replay.add, h.blocks]
  · dsimp only
    rw [h.texts]
    exact @assign_finals _ _ Operation.blockId Operation.text ops op
  · rw [Replay.add, h.lastWrites]
    exact @assign_finals _ _ Operation.blockId (fun o => o) ops op
  · rw [chainHead_concat]
    exact hhead
  · intro t ht
    exact ⟨at_, rfl, (Option.some.inj ht).ge⟩
  · exact (observed_add h.distinct h.observed op).1
  · exact (observed_add h.distinct h.observed op).2
  · exact hshapes
  · intro _
    have hoperations : Compact 3 (.arr (e.operations ++ [envelope])) := by
      refine .arr 2 _ ?_ fun x hx => (hshapes x hx).2
      rw [List.length_append]
      exact hcount.trans (by decide)
    rw [← canonical_length hpk (budget_compact hoperations (stateJson_compact hvalid)) (by decide) hraw]
    exact hfits

end Session
/-! ## The reserve for a checkpoint -/

section Reserve
variable {floatRepr : UInt64 → List Char}

theorem textSize_literal {s : String} {n : ℕ} (h : (s.toList.all plainChar && s.length + 2 ≤ n) = true) :
    textSize s ≤ n := by
  rw [Bool.and_eq_true, decide_eq_true_iff] at h
  rw [textSize_plain h.1]
  exact h.2

theorem editorHex_length {s t : String} {n : ℕ} (h : editorHex (.str s) n = .ok t) : s.length = n := by
  unfold editorHex at h
  dsimp only at h
  split_ifs at h with hs
  · rw [Bool.and_eq_true, decide_eq_true_iff] at hs
    exact hs.1
  · cases h

theorem checkpointBody_size {documentId head : String} {n : ℕ} {document clock : Json} {at_ : ℤ}
    (hd : identifier (.str documentId) = .ok documentId) (hn : n ≤ maxOperations)
    (hhead : editorHex (.str head) 64 = .ok head) (htime : timestamp clock = .ok at_) :
    size floatRepr (checkpointBody documentId n head document clock) ≤ size floatRepr document + 1073 := by
  obtain ⟨s, rfl, hs⟩ := timestamp_length htime
  have hdocument := textSize_le_six documentId
  have hlength := identifier_length hd
  have hchain := textSize_le_six head
  have hchain' := editorHex_length hhead
  have hclock := textSize_le_six s
  have hcount : size floatRepr (.int n) ≤ 3 := by
    refine size_int_le (by decide) ?_
    rw [Int.natAbs_natCast]
    exact lt_of_le_of_lt hn (by decide)
  have hkind : textSize "kind" + textSize "editor_checkpoint" ≤ 25 := add_le_add (textSize_literal (by decide +kernel))
    (textSize_literal (by decide +kernel) : textSize "editor_checkpoint" ≤ 19)
  have hid : textSize "document_id" ≤ 13 := textSize_literal (by decide +kernel)
  have hsequence : textSize "sequence" ≤ 10 := textSize_literal (by decide +kernel)
  have hhash : textSize "chain_head_sha256" ≤ 19 := textSize_literal (by decide +kernel)
  have hdoc : textSize "document" ≤ 10 := textSize_literal (by decide +kernel)
  have hobserved : textSize "observed_at" ≤ 13 := textSize_literal (by decide +kernel)
  refine (size_dict_le _).trans ?_
  simp only [List.map_cons, List.map_nil, List.sum_cons, List.sum_nil, memberSize, size_str]
  omega

theorem envelopeOf_size {keyId : String} {body : Json} {signature : Bytes} (hkey : keyId.length ≤ 256)
    (hsignature : signature.length = 64) :
    size floatRepr (envelopeOf keyId body signature) ≤ size floatRepr body + 1723 := by
  have hkeyId := textSize_le_six keyId
  have hhex := Payment.textSize_hex signature
  have halgorithm : textSize "algorithm" ≤ 11 := textSize_literal (by decide +kernel)
  have hname : textSize "Ed25519" ≤ 9 := textSize_literal (by decide +kernel)
  have hid : textSize "key_id" ≤ 8 := textSize_literal (by decide +kernel)
  have hbody : textSize "body" ≤ 6 := textSize_literal (by decide +kernel)
  have hsigned : textSize "signature" ≤ 11 := textSize_literal (by decide +kernel)
  rw [envelopeOf]
  refine (size_dict_le _).trans ?_
  simp only [List.map_cons, List.map_nil, List.sum_cons, List.sum_nil, memberSize, size_str]
  omega

theorem snapshotJson_size {documentId : String} {operations : List Json} {checkpoint : Json}
    (hd : identifier (.str documentId) = .ok documentId) :
    size floatRepr (snapshotJson documentId operations checkpoint) ≤
      size floatRepr (.arr operations) + size floatRepr checkpoint + 474 := by
  have hdocument := textSize_le_six documentId
  have hlength := identifier_length hd
  have hformat : textSize "format" ≤ 8 := textSize_literal (by decide +kernel)
  have hname : textSize snapshotFormat ≤ 33 := textSize_literal (by decide +kernel)
  have hid : textSize "document_id" ≤ 13 := textSize_literal (by decide +kernel)
  have hoperations : textSize "operations" ≤ 12 := textSize_literal (by decide +kernel)
  have hcheckpoint : textSize "checkpoint" ≤ 12 := textSize_literal (by decide +kernel)
  refine (size_dict_le _).trans ?_
  simp only [List.map_cons, List.map_nil, List.sum_cons, List.sum_nil, memberSize, size_str]
  omega

/-- The budget of `set_block` covers the operations and the document. -/
theorem budget_size (operations document : Json) : size floatRepr operations + size floatRepr document ≤
    size floatRepr (dict [("operations", operations), ("document", document)]) := by
  have hdict : dict [("operations", operations), ("document", document)] =
      .obj [("document", document), ("operations", operations)] := by
    have hlt : "document" < "operations" := by decide +kernel
    simp only [dict, insertAll, List.foldl_cons, List.foldl_nil, insertKey, if_pos hlt, if_neg hlt.ne]
  rw [hdict, size_obj_cons]
  simp only [List.map_cons, List.map_nil, List.sum_cons, List.sum_nil, memberSize]
  omega

end Reserve

/-! ## Snapshots -/

section Snapshots
variable {pk : Packages} {c : Collector pk}

theorem sub_dict {ps : List (String × Json)} {k : String} {v : Json} (hn : (ps.map Prod.fst).Nodup)
    (h : (k, v) ∈ ps) : sub (dict ps) k = .ok v := by
  have hl : (insertAll ps []).lookup k = some v := by
    change (dict ps).get? k = some v
    rw [get?_dict]
    refine lookup_of_mem (q := (k, v)) ?_ (List.mem_reverse.2 h)
    rw [List.map_reverse]
    exact (List.reverse_perm _).nodup_iff.2 hn
  rw [dict, sub, hl]

theorem Replayable.blocks_ne {e : Editor} {ops : List Operation} {r : Replay} (h : Replayable c e ops r) (hne : ops ≠ []) :
    e.blocks ≠ [] := by
  rw [h.texts]
  exact fun hnil => finals_ne_nil hne (List.map_eq_nil_iff.1 hnil)

theorem Replayable.operations_ne {e : Editor} {ops : List Operation} {r : Replay} (h : Replayable c e ops r)
    (hne : ops ≠ []) : 1 ≤ e.operations.length := by
  rw [← h.count]
  exact List.length_pos_iff.2 hne

theorem snapshotJson_compact {documentId : String} {operations : List Json} {checkpoint : Json}
    (h : Compact 3 (.arr operations)) (h' : Compact 5 checkpoint) :
    Compact 6 (snapshotJson documentId operations checkpoint) := by
  refine .dict ["format", "document_id", "operations", "checkpoint"] rfl (by decide) (by simp) ?_
  simp only [List.forall_mem_cons]
  exact ⟨.str 5 _, .str 5 _, h.mono (by decide), h', fun _ h => (List.not_mem_nil h).elim⟩

/-- The checkpoint of an editor whose chain ends in `head`. -/
def checkpointOf (c : Collector pk) (clock : Json) (e : Editor) (head : String) : Json :=
  checkpointBody c.documentId e.operations.length head (stateJson c.documentId e.blocks) clock

def signedSnapshot (c : Collector pk) (clock : Json) (e : Editor) (head : String) (signature : Bytes) : Json :=
  snapshotJson c.documentId e.operations (envelopeOf c.keyId (checkpointOf c clock e head) signature)

/-- A snapshot that returns, of an editor that has written. -/
structure Snapshot (c : Collector pk) (clock : Json) (e : Editor) (at_ : ℤ) (head : String) (signature : Bytes) :
    Prop where
  length : signature.length = 64
  verifies : verifyMessage pk (envelopeOf c.keyId (checkpointOf c clock e head) signature) c.publicKey c.keyId
    "editor_checkpoint" = .ok (checkpointOf c clock e head)
  compact : Compact 6 (signedSnapshot c clock e head signature)
  fits : size pk.floatRepr (signedSnapshot c clock e head signature) ≤ maxJson
  returns : (snapshot c clock).on e = (.ok (signedSnapshot c clock e head signature), { e with lastTime := some at_ })

/-- The reserve of `set_block` suffices for every checkpoint. -/
theorem signedSnapshot_fits (hstd : pk.toPlatform.Standard) {e : Editor} {ops : List Operation} {r : Replay}
    (h : Replayable c e ops r) (hne : ops ≠ []) {clock : Json} {at_ : ℤ} (hclock : timestamp clock = .ok at_)
    {signature : Bytes} (hlength : signature.length = 64) :
    size pk.floatRepr (signedSnapshot c clock e r.previous signature) ≤ maxJson := by
  have hbudget := h.budget (List.length_pos_iff.1 (h.operations_ne hne))
  have hparts := @budget_size pk.floatRepr (.arr e.operations) (stateJson c.documentId e.blocks)
  have hchecked : size pk.floatRepr (checkpointOf c clock e r.previous) ≤ _ :=
    checkpointBody_size c.identified h.bounded (chainHead_hex hstd h.head) hclock
  have henvelope := @envelopeOf_size pk.floatRepr c.keyId (checkpointOf c clock e r.previous) signature
    (editorKeyId_spec c.named).2 hlength
  refine (snapshotJson_size c.identified).trans ?_
  rw [maxJson] at *
  omega

theorem snapshot_returns (hstd : pk.toPlatform.Standard) (hsig : pk.toPlatform.Signs) (hpk : WritesCompactly pk)
    {e : Editor} {ops : List Operation} {r : Replay} (h : Replayable c e ops r) (hne : ops ≠ []) {clock : Json} {at_ : ℤ}
    (hclock : timestamp clock = .ok at_) (hlater : ∀ last, e.lastTime = some last → last ≤ at_) :
    ∃ signature, Snapshot c clock e at_ r.previous signature := by
  have hstate := @stateJson_compact c.documentId _ h.valid
  have hbody : Compact 4 (checkpointOf c clock e r.previous) := checkpointBody_compact h.bounded hstate hclock
  obtain ⟨signature, hlength, hsigned, hverified⟩ := signed_verifies c hstd hsig hpk hbody (by decide) rfl
    checkpointBody_items.kind
  have hcompact : Compact 6 (signedSnapshot c clock e r.previous signature) :=
    snapshotJson_compact h.compact (envelopeOf_compact hbody)
  have hfits := signedSnapshot_fits hstd h hne hclock hlength
  have hblocks : Incident.require (!e.blocks.isEmpty) "Cannot checkpoint an empty document" = .ok () := by
    refine require_true ?_
    rw [List.isEmpty_eq_false_iff.2 (h.blocks_ne hne)]
    rfl
  have hcanonical := canonical_compact hpk hcompact (by decide)
  have hbudget : Incident.require (decide ((encodeUtf8 (dumps pk.floatRepr false
      (signedSnapshot c clock e r.previous signature))).length ≤ maxJson))
      "Editor snapshot exceeds the bounded JSON budget" = .ok () := require_true (decide_eq_true hfits)
  refine ⟨signature, hlength, hverified, hcompact, hfits, ?_⟩
  rw [snapshot, on_get_bind, on_perform_bind hblocks, on_bind, now_returns hclock hlater]
  dsimp only
  rw [on_perform_bind h.head]
  refine (on_perform_bind hsigned _ _).trans ?_
  refine (on_perform_bind hcanonical _ _).trans ?_
  refine (on_perform_bind hbudget _ _).trans ?_
  rfl

theorem forM_succeeds {α : Type} {f : α → Run Unit} {xs : List α} (h : ∀ x ∈ xs, f x = .ok ()) : xs.forM f = .ok () := by
  induction xs with
  | nil => rfl
  | cons x xs ih =>
    change (f x >>= fun _ => xs.forM f) = .ok ()
    rw [h x List.mem_cons_self]
    exact ih fun y hy => h y (List.mem_cons_of_mem x hy)

theorem signedSnapshot_items {clock : Json} {e : Editor} {head : String} {signature : Bytes} :
    (signedSnapshot c clock e head signature).item "format" = .str snapshotFormat ∧
      (signedSnapshot c clock e head signature).item "document_id" = .str c.documentId ∧
      (signedSnapshot c clock e head signature).item "operations" = .arr e.operations ∧
      (signedSnapshot c clock e head signature).item "checkpoint" =
        envelopeOf c.keyId (checkpointOf c clock e head) signature :=
  ⟨item_dict (by simp) (by simp), item_dict (by simp) (by simp), item_dict (by simp) (by simp),
    item_dict (by simp) (by simp)⟩

theorem signedSnapshot_subs {clock : Json} {e : Editor} {head : String} {signature : Bytes} :
    sub (signedSnapshot c clock e head signature) "document_id" = .ok (.str c.documentId) ∧
      sub (signedSnapshot c clock e head signature) "operations" = .ok (.arr e.operations) ∧
      sub (signedSnapshot c clock e head signature) "checkpoint" =
        .ok (envelopeOf c.keyId (checkpointOf c clock e head) signature) :=
  ⟨sub_dict (by simp) (by simp), sub_dict (by simp) (by simp), sub_dict (by simp) (by simp)⟩

theorem checkpointOf_shape (hstd : pk.toPlatform.Standard) {e : Editor} {ops : List Operation} {r : Replay}
    (h : Replayable c e ops r) (hne : ops ≠ []) {clock : Json} {at_ : ℤ} (hclock : timestamp clock = .ok at_) :
    checkpointShape (checkpointOf c clock e r.previous) = .ok at_ :=
  checkpointShape_body c.identified (h.operations_ne hne) h.bounded (chainHead_hex hstd h.head)
    (checkDocument_state c.identified h.valid (h.blocks_ne hne)) hclock

theorem snapshotShape_signed (hstd : pk.toPlatform.Standard) {e : Editor} {ops : List Operation} {r : Replay}
    (h : Replayable c e ops r) (hne : ops ≠ []) {clock : Json} {at_ : ℤ} (hclock : timestamp clock = .ok at_)
    {signature : Bytes} (hlength : signature.length = 64) :
    snapshotShape (signedSnapshot c clock e r.previous signature) = .ok () := by
  obtain ⟨hformat, hdocument, hoperations, hcheckpoint⟩ := @signedSnapshot_items pk c clock e r.previous signature
  have hfields : (signedSnapshot c clock e r.previous signature).hasFields
      ["format", "document_id", "operations", "checkpoint"] = true := by
    rw [signedSnapshot, snapshotJson, hasFields_dict]
    exact ⟨by simp, by simp⟩
  have hcount : (decide (1 ≤ e.operations.length) && decide (e.operations.length ≤ maxOperations)) = true := by
    rw [decide_eq_true (h.operations_ne hne), decide_eq_true h.bounded]
    rfl
  rw [snapshotShape, exact, hfields, hformat, hdocument, hoperations, hcheckpoint, c.identified]
  simp only [hcount, forM_succeeds fun envelope he => (h.shapes envelope he).1,
    envelopeShape_envelopeOf c.named hlength (checkpointOf_shape hstd h hne hclock), Incident.require, decide_true, if_true,
    Bind.bind, Except.bind]

theorem checkCheckpoint_ok (hstd : pk.toPlatform.Standard) {e : Editor} {ops : List Operation} {r : Replay}
    (h : Replayable c e ops r) (hne : ops ≠ []) {clock : Json} {at_ : ℤ} (hclock : timestamp clock = .ok at_)
    (hlater : ∀ last, e.lastTime = some last → last ≤ at_) :
    checkCheckpoint c.documentId e.operations.length r (checkpointOf c clock e r.previous) = .ok () := by
  have hitems : CheckpointItems (checkpointOf c clock e r.previous) _ _ _ _ _ := checkpointBody_items
  have htime : (r.lastTime.all fun last => !decide (at_ < last)) = true := by
    cases hl : r.lastTime with
    | none => rfl
    | some t =>
      obtain ⟨u, hu, htu⟩ := h.time t hl
      simpa using htu.trans (hlater u hu)
  rw [checkCheckpoint, checkpointOf_shape hstd h hne hclock, hitems.documentId, hitems.sequence, hitems.head,
    hitems.document, h.blocks]
  simp only [pyEq_refl, htime, Incident.require, decide_true, Bool.and_true, if_true, Bind.bind, Except.bind]

/-- The view of a session: what its operations have left. -/
theorem verifySnapshot_ok (hstd : pk.toPlatform.Standard) (hpk : WritesCompactly pk)
    {e : Editor} {ops : List Operation} {r : Replay} (h : Replayable c e ops r) (hne : ops ≠ []) {clock : Json} {at_ : ℤ}
    (hclock : timestamp clock = .ok at_) (hlater : ∀ last, e.lastTime = some last → last ≤ at_)
    {signature : Bytes} (hs : Snapshot c clock e at_ r.previous signature) :
    ∃ source lineage, digest pk (stateJson c.documentId e.blocks) = .ok source ∧
      digest pk (signedSnapshot c clock e r.previous signature) = .ok lineage ∧
      verifySnapshot pk (signedSnapshot c clock e r.previous signature) c.publicKey c.keyId =
        .ok ⟨c.documentId, revision e.operations.length source, e.blocks, r.observed.mergeSort (· ≤ ·),
          adoptedBlocks pk r, source, lineage, clock⟩ := by
  obtain ⟨source, hsource⟩ : ∃ source, digest pk (stateJson c.documentId e.blocks) = .ok source :=
    ⟨_, digest_compact hpk (stateJson_compact h.valid) (by decide)⟩
  obtain ⟨lineage, hlineage⟩ : ∃ lineage, digest pk (signedSnapshot c clock e r.previous signature) = .ok lineage :=
    ⟨_, digest_compact hpk hs.compact (by decide)⟩
  have hread : decodeJson pk (encodeUtf8 (dumps pk.floatRepr false (signedSnapshot c clock e r.previous signature))) =
      .ok (signedSnapshot c clock e r.previous signature) := decodeJson_compact hpk hs.compact (by decide) hs.fits
  have hbudget : (encodeUtf8 (dumps pk.floatRepr false (signedSnapshot c clock e r.previous signature))).length ≤ maxJson :=
    hs.fits
  have hitems : CheckpointItems (checkpointOf c clock e r.previous) _ _ _ _ _ := checkpointBody_items
  obtain ⟨hdocument, hoperations, hcheckpoint⟩ := @signedSnapshot_subs pk c clock e r.previous signature
  refine ⟨source, lineage, hsource, hlineage, ?_⟩
  rw [verifySnapshot, c.named, snapshotShape_signed hstd h hne hclock hs.length,
    canonical_compact hpk hs.compact (by decide)]
  simp only [hbudget, hread, hdocument, hoperations, hcheckpoint, textOf, h.replayed, hs.verifies,
    checkCheckpoint_ok hstd h hne hclock hlater, h.blocks, hsource, hlineage, hitems.observedAt, Incident.require,
    decide_true, if_true, Bind.bind, Except.bind]
  rfl

end Snapshots

end VapEvidence.Publication
