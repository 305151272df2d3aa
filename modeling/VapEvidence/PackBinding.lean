import VapEvidence.PackPython

set_option autoImplicit false

/-!
# What an accepted pack commits to

The order of the events of an accepted pack, and that two packs accepted under one
trust file with one anchored root have one scope and one list of events, unless
two different inputs of their hashes have one digest.
-/
namespace VapEvidence.Evidence
open Json

/-! ## Canonical bytes -/

mutual
theorem plain_of_subset {d : ℕ} : ∀ {v : Json}, Subset d v → v.WF → Plain (fun _ => True) v
  | .null, _, _ => trivial
  | .bool _, _, _ => trivial
  | .int _, _, _ => trivial
  | .float _, h, _ => h
  | .str _, _, _ => trivial
  | .arr _, h, hw => plainList_of_subset h.2 hw
  | .obj _, h, hw => ⟨hw.1, plainMembers_of_subset h.2 hw.2⟩
theorem plainList_of_subset {d : ℕ} : ∀ {xs : List Json}, SubsetElems d xs → WFList xs →
    PlainList (fun _ => True) xs
  | [], _, _ => trivial
  | _ :: _, h, hw => ⟨plain_of_subset h.1 hw.1, plainList_of_subset h.2 hw.2⟩
theorem plainMembers_of_subset {d : ℕ} : ∀ {ms : List (String × Json)}, SubsetMembers d ms → WFMembers ms →
    PlainMembers (fun _ => True) ms
  | [], _, _ => trivial
  | (_, _) :: _, h, hw => ⟨plain_of_subset h.2.1 hw.1, plainMembers_of_subset h.2.2 hw.2⟩
end

section
variable (py : Platform)

/-- Canonical bytes stand for one value. -/
theorem canonBytes_injective {v w : Json} (hv : Subset 0 v ∧ v.WF) (hw : Subset 0 w ∧ w.WF)
    (h : canonBytes py v = canonBytes py w) : v = w := by
  have hloads {u : Json} (hu : Subset 0 u ∧ u.WF) : loads boundedHooks (dumps py.floatRepr true u) = .ok u :=
    loads_dumps boundedHooks py.floatRepr true (fun _ => True)
      (fun n _ => by simp [boundedHooks, intToken_dumpInt]) (fun ms hms => uniquePairs_sorted _ ms hms) u
      (plain_of_subset hu.1 hu.2)
  have ht := encodeUtf8_injective h
  have := (hloads hv).symm.trans ((congrArg (loads boundedHooks) ht).trans (hloads hw))
  exact Except.ok.inj this

theorem map_canonBytes_injective {xs ys : List Json} (hx : ∀ x ∈ xs, Subset 0 x ∧ x.WF)
    (hy : ∀ y ∈ ys, Subset 0 y ∧ y.WF) (h : xs.map (canonBytes py) = ys.map (canonBytes py)) : xs = ys := by
  induction xs generalizing ys with
  | nil => exact (List.map_eq_nil_iff.1 h.symm).symm
  | cons x xs ih =>
    cases ys with
    | nil => cases h
    | cons y ys =>
      obtain ⟨hxy, htail⟩ := List.cons.inj h
      rw [canonBytes_injective py (hx x (by simp)) (hy y (by simp)) hxy,
        ih (fun a ha => hx a (List.mem_cons_of_mem _ ha)) (fun b hb => hy b (List.mem_cons_of_mem _ hb)) htail]

/-! ## The hashes of a pack -/

/-- The bytes that SHA-256 is applied to for an input of the tree. -/
def inputBytes : Merkle.HashInput Bytes Bytes → Bytes
  | .empty => []
  | .leaf d => 0 :: d
  | .node l r => 1 :: (l ++ r)

theorem sha256_inputBytes (i : Merkle.HashInput Bytes Bytes) :
    py.sha256 (inputBytes i) = (merkleHash py).hash i := by cases i <;> rfl

/-- The inputs of SHA-256 in the check of the scope and of the root. -/
def hashed (pack : Json) : List Bytes :=
  canonBytes py (pack.item "scope") :: ((merkleHash py).inputs
    (.ofList ((items (pack.item "events")).map (canonBytes py)))).map inputBytes

/-- Two different inputs among the hashes of two packs have one digest. -/
def Collides (pack pack' : Json) : Prop :=
  ∃ a ∈ hashed py pack, ∃ b ∈ hashed py pack', a ≠ b ∧ py.sha256 a = py.sha256 b

variable {py}

theorem root_length (hlen : ∀ b, (py.sha256 b).length = 32) (t : Merkle.Tree Bytes) :
    ((merkleHash py).root t).length = 32 := by
  cases t with
  | empty => exact hlen _
  | leaf d => exact hlen _
  | node l r => exact hlen _

theorem node_length (hlen : ∀ b, (py.sha256 b).length = 32) {t : Merkle.Tree Bytes} {l r : Bytes}
    (h : .node l r ∈ (merkleHash py).inputs t) : l.length = 32 := by
  induction t with
  | empty => simp [Merkle.TreeHash.inputs] at h
  | leaf d => simp [Merkle.TreeHash.inputs] at h
  | node a b iha ihb =>
    simp only [Merkle.TreeHash.inputs, List.mem_cons, Merkle.HashInput.node.injEq, List.mem_append] at h
    rcases h with ⟨rfl, -⟩ | h | h
    · exact root_length hlen a
    · exact iha h
    · exact ihb h

theorem rootOf_pair (py : Platform) (a b : Json) : rootOf py [a, b] =
    .str (hex (py.sha256 (1 :: (py.sha256 (0 :: canonBytes py a) ++ py.sha256 (0 :: canonBytes py b))))) := by
  have hsplit : Merkle.splitPoint [canonBytes py a, canonBytes py b].length = 1 :=
    (by decide +kernel : Merkle.splitPoint 2 = 1)
  unfold rootOf
  rw [List.map_cons, List.map_cons, List.map_nil, Merkle.TreeHash.root_split _ (le_refl 2), hsplit]
  change str (hex ((merkleHash py).node ((merkleHash py).root (.ofList [canonBytes py a]))
    ((merkleHash py).root (.ofList [canonBytes py b])))) = _
  rw [Merkle.Tree.ofList_singleton, Merkle.Tree.ofList_singleton]
  rfl

/-- Different inputs of two trees are different bytes: digests have one length. -/
theorem inputBytes_injective (hlen : ∀ b, (py.sha256 b).length = 32) {s t : Merkle.Tree Bytes}
    {i j : Merkle.HashInput Bytes Bytes} (hi : i ∈ (merkleHash py).inputs s) (hj : j ∈ (merkleHash py).inputs t)
    (h : inputBytes i = inputBytes j) : i = j := by
  cases i with
  | empty => cases j with
    | empty => rfl
    | leaf e => cases h
    | node a b => cases h
  | leaf d => cases j with
    | empty => cases h
    | leaf e => rw [(List.cons.inj h).2]
    | node a b => exact absurd (List.cons.inj h).1 (by decide)
  | node l r => cases j with
    | empty => cases h
    | leaf e => exact absurd (List.cons.inj h).1 (by decide)
    | node a b =>
      obtain ⟨rfl, rfl⟩ := List.append_inj (List.cons.inj h).2 ((node_length hlen hi).trans (node_length hlen hj).symm)
      rfl

theorem Collides.of_tree (hlen : ∀ b, (py.sha256 b).length = 32) {pack pack' : Json}
    (h : (merkleHash py).Collision
      ((merkleHash py).inputs (.ofList ((items (pack.item "events")).map (canonBytes py))))
      ((merkleHash py).inputs (.ofList ((items (pack'.item "events")).map (canonBytes py))))) :
    Collides py pack pack' := by
  obtain ⟨i, hi, j, hj, hne, he⟩ := h
  refine ⟨_, List.mem_cons_of_mem _ (List.mem_map_of_mem hi), _, List.mem_cons_of_mem _ (List.mem_map_of_mem hj),
    fun hb => hne (inputBytes_injective hlen hi hj hb), ?_⟩
  rw [sha256_inputBytes, sha256_inputBytes, he]

/-- What `verify_pack` establishes of one pack. -/
structure Established (pack : Json) : Prop where
  bijection : Bijection (items (pack.item "events")) ((pack.item "scope").item "expected_attempt_count")
  count : ∃ n : ℕ, (pack.item "scope").item "expected_attempt_count" = .int n ∧
    (items (pack.item "events")).length = 2 * n
  sequence : Sequenced (pack.item "scope") (items (pack.item "events"))

theorem Accepted.established {pack trust : Json} (h : Accepted py pack trust) : Established pack :=
  ⟨h.bijection, h.bijection.length, h.sequence⟩

theorem Accepted.scope {pack trust : Json} (h : Accepted py pack trust) (hw : pack.WF) :
    Subset 0 (pack.item "scope") ∧ (pack.item "scope").WF :=
  ⟨subset_mono (Nat.zero_le _) _ (subset_item h.packShape.fields (by decide) h.packDomain), wf_item hw _⟩

theorem Accepted.event {pack trust : Json} (h : Accepted py pack trust) (hw : pack.WF) :
    ∀ e ∈ items (pack.item "events"), Subset 0 e ∧ e.WF := fun e he =>
  ⟨subset_mono (Nat.zero_le _) _ (subset_items (subset_item h.packShape.fields (by decide) h.packDomain) e he),
    wf_items (wf_item hw _) e he⟩

theorem eq_items {v : Json} (h : isList v = true) : v = .arr (items v) := by
  cases v with
  | arr xs => rfl
  | _ => cases h

/-- The pinned commitment binds the scope. -/
theorem Accepted.scope_eq {pack pack' trust : Json} (h : Accepted py pack trust) (h' : Accepted py pack' trust)
    (hw : pack.WF) (hw' : pack'.WF) : pack.item "scope" = pack'.item "scope" ∨ Collides py pack pack' := by
  have hd := h.pinned.2.symm.trans h'.pinned.2
  rw [digestOf, digestOf, Json.str.injEq] at hd
  by_cases hc : canonBytes py (pack.item "scope") = canonBytes py (pack'.item "scope")
  · exact Or.inl (canonBytes_injective py (h.scope hw) (h'.scope hw') hc)
  · exact Or.inr ⟨_, List.mem_cons_self, _, List.mem_cons_self, hc, hex_injective hd⟩

/-- The anchored root binds the events. -/
theorem Accepted.events_eq (hlen : ∀ b, (py.sha256 b).length = 32) {pack pack' trust : Json}
    (h : Accepted py pack trust) (h' : Accepted py pack' trust) (hw : pack.WF) (hw' : pack'.WF)
    (hroot : (pack.item "demo_anchor_receipt").item "merkle_root" =
      (pack'.item "demo_anchor_receipt").item "merkle_root") :
    pack.item "events" = pack'.item "events" ∨ Collides py pack pack' := by
  have hanchor : ("demo_anchor_receipt", "anchor", "DEMO_ANCHOR_RECEIPT") ∈ roleRecords := by decide
  have hr := ((h.records _ hanchor).root.symm.trans hroot).trans (h'.records _ hanchor).root
  rw [rootOf, rootOf, Json.str.injEq] at hr
  rcases Merkle.TreeHash.list_binding (hex_injective hr) with he | hc
  · refine Or.inl ?_
    rw [eq_items h.packShape.list, eq_items h'.packShape.list,
      map_canonBytes_injective py (h.event hw) (h'.event hw') he]
  · exact Or.inr (Collides.of_tree hlen hc)

/-- An accepted pack is a bijection in order, and packs accepted under one trust file with one anchored
    root have one scope and one list of events, or SHA-256 collides among their inputs. -/
theorem accepted_pack_binds (hlen : ∀ b, (py.sha256 b).length = 32) {pack trust : Json} {checks : List String}
    (hw : pack.WF) (ht : trust.WF) (h : Python.verifyPack py pack trust = .ok checks) :
    Established pack ∧ ∀ pack' checks', pack'.WF → Python.verifyPack py pack' trust = .ok checks' →
      (pack.item "demo_anchor_receipt").item "merkle_root" =
        (pack'.item "demo_anchor_receipt").item "merkle_root" →
      (pack.item "scope" = pack'.item "scope" ∧ pack.item "events" = pack'.item "events") ∨
        Collides py pack pack' := by
  have haccepted := (((Python.verifyPack_judges py ht).ok_iff checks).1 h).1
  refine ⟨haccepted.established, fun pack' checks' hw' h' hroot => ?_⟩
  have haccepted' := (((Python.verifyPack_judges py ht).ok_iff checks').1 h').1
  rcases haccepted.scope_eq haccepted' hw hw' with hscope | hc
  · exact (haccepted.events_eq hlen haccepted' hw hw' hroot).imp_left fun he => ⟨hscope, he⟩
  · exact Or.inr hc

end

/-! ## A small pack -/

def sampleRoot : String := "fcca064e11cfb3c2cecefc62ebbb6f58e79e1d508908cec6596f55b22278aa62"

def sampleCommitment : String := "fe678f663cc3ffee08acdfee6b84b4482089ba81cbc90a856ed54a3fee5b80b5"

def sampleScope : Json := .obj
  [("batch_id", .str "batch-1"), ("chain_id", .str "chain-1"),
   ("completeness_rule", .str "ATTEMPT_OUTCOME_BIJECTION"), ("expected_attempt_count", .int 1),
   ("in_scope_event_types", .arr [.str "AI_DECISION_ATTEMPT", .str "AI_DECISION_OUTCOME"]),
   ("policy_id", .str "policy-1"), ("window_end", .str "2026-01-02T00:00:00Z"),
   ("window_start", .str "2026-01-01T00:00:00Z")]

def sampleAttempt : Json := .obj
  [("chain_id", .str "chain-1"), ("contract_id", .str "vap-interop-demo/0.2.0"),
   ("event_id", .str "event-1"), ("event_type", .str "AI_DECISION_ATTEMPT"), ("issuer_id", .str "issuer-1"),
   ("key_id", .str "producer-1"), ("model_id", .str "model-1"),
   ("payload_hash", .str "ef448f334227b69f70515bfdf17b6116c67ca5b9f2bf612752503d436eb9d89b"),
   ("policy_id", .str "policy-1"),
   ("provenance", .obj
     [("action", .str "review"), ("actor", .str "model"), ("attempt_id", .str "attempt-1"),
      ("context", .obj [("jurisdiction", .str "JP")]),
      ("input_hash", .str "0000000000000000000000000000000000000000000000000000000000000000")]),
   ("sequence_no", .int 1),
   ("signature", .str "/mAL88sUbbEY+r4zY/eU6yOMz2OmQVQ7z/twbH5DGcXHk9gMG0H+17CyVZWFln828YdTKDeNByvt5abL0JV9DA=="),
   ("timestamp", .str "2026-01-01T09:00:00Z")]

def sampleOutcome : Json := .obj
  [("chain_id", .str "chain-1"), ("contract_id", .str "vap-interop-demo/0.2.0"),
   ("event_id", .str "event-2"), ("event_type", .str "AI_DECISION_OUTCOME"), ("issuer_id", .str "issuer-1"),
   ("key_id", .str "producer-1"), ("model_id", .str "model-1"),
   ("payload_hash", .str "0788a3f61e4ace85df08d938ced0f8baadb2fb2e1a0464ebac3fe788c46bcd56"),
   ("policy_id", .str "policy-1"),
   ("provenance", .obj
     [("action", .str "review"), ("actor", .str "model"), ("attempt_id", .str "attempt-1"),
      ("human_review_required", .bool false), ("outcome", .str "APPROVED"), ("reason_code", .str "policy-met")]),
   ("sequence_no", .int 2),
   ("signature", .str "eA2l9bMNlqK3VtgkCslQ44zMRLvCQIXQ808Pok1IfbO89sxSuBrZ9Koi9WPU7pQQEgCF09w8f152xAqDCJnmCQ=="),
   ("timestamp", .str "2026-01-01T09:00:01Z")]

def sampleRecord (kind keyId signature : String) : Json := .obj
  [("event_count", .int 2), ("issued_at", .str "2026-01-02T00:00:01Z"), ("key_id", .str keyId),
   ("merkle_root", .str sampleRoot), ("record_type", .str kind),
   ("scope_commitment", .str sampleCommitment), ("signature", .str signature)]

def samplePack : Json := .obj
  [("canonicalization", .str "DEMO-ASCII-SAFEINT-JSON-v1"), ("contract_id", .str "vap-interop-demo/0.2.0"),
   ("demo_anchor_receipt", sampleRecord "DEMO_ANCHOR_RECEIPT" "anchor-1"
     "Yox8d6b+YOn/XUwd93Mhexqfmph51ZnwfqUTdU49clVtbZ3VLRwCB1lcn2ly9p/TUyafUKXFrqsiiHnkKy1PCA=="),
   ("events", .arr [sampleAttempt, sampleOutcome]), ("hash_algorithm", .str "SHA-256"),
   ("merkle", .obj [("algorithm", .str "RFC6962-SHA256"), ("root", .str sampleRoot)]),
   ("observer_receipt", sampleRecord "OBSERVER_RECEIPT" "observer-1"
     "CRTvi7/e7WmtCD+h7Bi/KlmJX1EJknOOyfIOPSEDafbrIrLB0KzRkbhVKd13qq2S2HJp0x2NmBg91WtOuIrgAQ=="),
   ("producer_manifest", sampleRecord "PRODUCER_MANIFEST" "producer-1"
     "admyXZZQdE7HYf+PCLDlXMeKI4SGVPm++zEjTdYRNDK9G/SNKg0E5LPTZDWhlGfdJTnBGdb3wtwgJJxgeyEQBw=="),
   ("scope", sampleScope), ("scope_commitment", .str sampleCommitment),
   ("signature_algorithm", .str "Ed25519")]

def sampleRole (keyId publicKey : String) : Json := .obj [("key_id", .str keyId), ("public_key", .str publicKey)]

def sampleTrust : Json := .obj
  [("contract_id", .str "vap-interop-demo/0.2.0"),
   ("roles", .obj
     [("anchor", sampleRole "anchor-1" "7UkoxijRwsbq6QM4kFmVYSlZJzpcY/k2NsFGFKyHN9E="),
      ("observer", sampleRole "observer-1" "gTl3Dqh9F19Wo1Rmw0x+zMuNipG07jeiXfYPW4/Js5Q="),
      ("producer", sampleRole "producer-1" "iojj3XQJ8ZX9UtstPLpdcspnCb8dlBIb83SIAbQPb1w=")]),
   ("scope_commitment", .str sampleCommitment), ("trust_version", .str "demo-trust/1")]

/-- The SHA-256 digests of the inputs of the sample, by the lengths of the inputs. -/
def sampleDigests : List (ℕ × String) :=
  [(65, "fcca064e11cfb3c2cecefc62ebbb6f58e79e1d508908cec6596f55b22278aa62"),
   (284, "fe678f663cc3ffee08acdfee6b84b4482089ba81cbc90a856ed54a3fee5b80b5"),
   (409, "0788a3f61e4ace85df08d938ced0f8baadb2fb2e1a0464ebac3fe788c46bcd56"),
   (443, "ef448f334227b69f70515bfdf17b6116c67ca5b9f2bf612752503d436eb9d89b"),
   (595, "f2ca9c3f0a75239f508a76216c9b09458621553879966ba875a89868a0a95471"),
   (629, "5fa38e85bf7b316885166e7f05872c71ad089f376b900d82448bac80556cbc79")]

/-- The Ed25519 signatures of the sample, with their keys. -/
def sampleSignatures : List (String × String) :=
  [("iojj3XQJ8ZX9UtstPLpdcspnCb8dlBIb83SIAbQPb1w=",
    "/mAL88sUbbEY+r4zY/eU6yOMz2OmQVQ7z/twbH5DGcXHk9gMG0H+17CyVZWFln828YdTKDeNByvt5abL0JV9DA=="),
   ("iojj3XQJ8ZX9UtstPLpdcspnCb8dlBIb83SIAbQPb1w=",
    "eA2l9bMNlqK3VtgkCslQ44zMRLvCQIXQ808Pok1IfbO89sxSuBrZ9Koi9WPU7pQQEgCF09w8f152xAqDCJnmCQ=="),
   ("iojj3XQJ8ZX9UtstPLpdcspnCb8dlBIb83SIAbQPb1w=",
    "admyXZZQdE7HYf+PCLDlXMeKI4SGVPm++zEjTdYRNDK9G/SNKg0E5LPTZDWhlGfdJTnBGdb3wtwgJJxgeyEQBw=="),
   ("gTl3Dqh9F19Wo1Rmw0x+zMuNipG07jeiXfYPW4/Js5Q=",
    "CRTvi7/e7WmtCD+h7Bi/KlmJX1EJknOOyfIOPSEDafbrIrLB0KzRkbhVKd13qq2S2HJp0x2NmBg91WtOuIrgAQ=="),
   ("7UkoxijRwsbq6QM4kFmVYSlZJzpcY/k2NsFGFKyHN9E=",
    "Yox8d6b+YOn/XUwd93Mhexqfmph51ZnwfqUTdU49clVtbZ3VLRwCB1lcn2ly9p/TUyafUKXFrqsiiHnkKy1PCA==")]

def sampleVerifier : Platform where
  sha256 b := ((sampleDigests.lookup b.length).bind unhex).getD (List.replicate 32 0)
  normalizeNFC s := s
  floatRepr _ := []
  publicKey _ := []
  publicKeyLoads key := key.length = 32
  sign _ _ := []
  verify key _ signature := sampleSignatures.contains
    (String.ofList (Base64.encode key), String.ofList (Base64.encode signature))

theorem digestTable_length {table : List (ℕ × String)}
    (hall : ∀ p ∈ table, ((unhex p.2).getD (List.replicate 32 0)).length = 32) (n : ℕ) :
    (((table.lookup n).bind unhex).getD (List.replicate 32 0)).length = 32 := by
  cases h : table.lookup n with
  | none => rfl
  | some digest =>
    obtain ⟨l₁, l₂, hl, -⟩ := List.lookup_eq_some_iff.1 h
    exact hall (n, digest) (by simp [hl])

theorem sampleVerifier_length (b : Bytes) : (sampleVerifier.sha256 b).length = 32 :=
  @digestTable_length sampleDigests (by decide +kernel) b.length

example : (sampleVerifier.sha256 []).length = 32 := by decide +kernel

theorem samplePack_wf : samplePack.WF := by
  simp only [samplePack, sampleRecord, sampleAttempt, sampleOutcome, sampleScope, WF, WFMembers, WFList,
    SortedKeys, and_true, true_and]
  decide +kernel

theorem sampleTrust_wf : sampleTrust.WF := by
  simp only [sampleTrust, sampleRole, WF, WFMembers, SortedKeys, and_true, true_and]
  decide +kernel

theorem holds_of_isSome {α : Type} {m : Run α} {P : Prop} {a : α} (h : Judges m P a) (hm : m.toOption.isSome = true) : P := by
  refine h.isOk_iff.1 ?_
  cases m with
  | error e => cases hm
  | ok b => exact ⟨b, rfl⟩

theorem subset_of_passes {depth : ℕ} {v : Json} (h : (lift (Python.subset depth v)).toOption.isSome = true) :
    Subset depth v :=
  holds_of_isSome (lift_judges (subset_decides depth v)) h

theorem samplePack_shapes : Subset 0 samplePack ∧ Subset 0 sampleTrust ∧ PackShape samplePack ∧ TrustShape sampleTrust := by
  have hattempt : Subset 2 sampleAttempt := subset_of_passes (by decide +kernel)
  have houtcome : Subset 2 sampleOutcome := subset_of_passes (by decide +kernel)
  have hlist : samplePack.item "events" = .arr [sampleAttempt, sampleOutcome] := by decide +kernel
  have hevents : ∀ e ∈ [sampleAttempt, sampleOutcome], EventShape e := by
    simp only [List.forall_mem_cons]
    exact ⟨holds_of_isSome (Python.validateEvent_judges _) (by decide +kernel),
      holds_of_isSome (Python.validateEvent_judges _) (by decide +kernel), List.forall_mem_nil _⟩
  have hrecords : ∀ r ∈ roleRecords, RecordShape (samplePack.item r.1) := by
    simp only [roleRecords, List.forall_mem_cons]
    refine ⟨?_, ?_, ?_, List.forall_mem_nil _⟩
    all_goals exact holds_of_isSome (Python.validateRecord_judges _ "record") (by decide +kernel)
  refine ⟨⟨by decide, (subsetMembers_iff 1 _).2 ?_⟩, subset_of_passes (by decide +kernel), ?_,
    holds_of_isSome (Python.validateTrust_judges sampleTrust_wf) (by decide +kernel)⟩
  · have hinner : Subset 1 (.arr [sampleAttempt, sampleOutcome]) := ⟨by decide, hattempt, houtcome, trivial⟩
    simp only [List.forall_mem_cons]
    refine ⟨⟨?_, ?_⟩, ⟨?_, ?_⟩, ⟨?_, ?_⟩, ⟨?_, hinner⟩, ⟨?_, ?_⟩, ⟨?_, ?_⟩, ⟨?_, ?_⟩, ⟨?_, ?_⟩, ⟨?_, ?_⟩, ⟨?_, ?_⟩, ⟨?_, ?_⟩,
      List.forall_mem_nil _⟩
    all_goals first
      | exact subset_of_passes (by decide +kernel)
      | exact ⟨by decide +kernel, by decide +kernel⟩
  · exact
      { fields := by decide +kernel
        contract := rfl
        canonicalization := rfl
        hash := rfl
        signatures := rfl
        scope := holds_of_isSome (Python.validateScope_judges _) (by decide +kernel)
        commitment := holds_of_isSome (Python.hexDigest_judges _ "scope_commitment") (by decide +kernel)
        list := by rw [hlist]; rfl
        atLeast := by rw [hlist]; exact le_refl 2
        atMost := by rw [hlist]; exact Nat.le_add_right 2 126
        events := by rw [hlist]; exact hevents
        merkle := by decide +kernel
        algorithm := by decide +kernel
        root := holds_of_isSome (Python.hexDigest_judges _ "root") (by decide +kernel)
        records := hrecords }

/-- The sample is accepted, each part evaluated by itself. -/
theorem samplePack_verified : Python.verifyPack sampleVerifier samplePack sampleTrust = .ok checkNames := by
  obtain ⟨hdomain, htrust, hshape, hroles⟩ := samplePack_shapes
  have hevents : items (samplePack.item "events") = [sampleAttempt, sampleOutcome] := by decide +kernel
  have hcommitment : digestOf sampleVerifier (samplePack.item "scope") = .str sampleCommitment := by decide +kernel
  have hroot : rootOf sampleVerifier (items (samplePack.item "events")) = .str sampleRoot := by
    have hattempt : sampleVerifier.sha256 (0 :: canonBytes sampleVerifier sampleAttempt) =
        (unhex "5fa38e85bf7b316885166e7f05872c71ad089f376b900d82448bac80556cbc79").getD [] := by decide +kernel
    have houtcome : sampleVerifier.sha256 (0 :: canonBytes sampleVerifier sampleOutcome) =
        (unhex "f2ca9c3f0a75239f508a76216c9b09458621553879966ba875a89868a0a95471").getD [] := by decide +kernel
    rw [hevents, rootOf_pair, hattempt, houtcome]
    decide +kernel
  have hsigned : ∀ e ∈ items (samplePack.item "events"), SignedEvent sampleVerifier sampleTrust e := by
    rw [hevents]
    simp only [List.forall_mem_cons]
    exact ⟨⟨by decide +kernel, by decide +kernel, by decide +kernel, by decide +kernel⟩,
      ⟨by decide +kernel, by decide +kernel, by decide +kernel, by decide +kernel⟩, fun _ h => absurd h List.not_mem_nil⟩
  have hsequence : Sequenced (samplePack.item "scope") (items (samplePack.item "events")) :=
    (sequenced_iff _ _).1
      (holds_of_isSome (Python.sequenced_judges hshape.scope 1 [] _ hshape.events) (by decide +kernel))
  have hrecords : ∀ r ∈ roleRecords, RecordBinds sampleVerifier samplePack sampleTrust r.1 r.2.1 r.2.2 := by
    simp only [roleRecords, List.forall_mem_cons]
    refine ⟨⟨by decide +kernel, by decide +kernel, ?_, ?_, by decide +kernel, by decide +kernel, by decide +kernel,
        by decide +kernel⟩,
      ⟨by decide +kernel, by decide +kernel, ?_, ?_, by decide +kernel, by decide +kernel, by decide +kernel, by decide +kernel⟩,
      ⟨by decide +kernel, by decide +kernel, ?_, ?_, by decide +kernel, by decide +kernel, by decide +kernel, by decide +kernel⟩,
      fun _ h => absurd h List.not_mem_nil⟩
    all_goals first
      | rw [hroot]; decide +kernel
      | rw [hcommitment]; decide +kernel
  have hbijection : Bijection (items (samplePack.item "events")) ((samplePack.item "scope").item "expected_attempt_count") := by
    have hpairs := holds_of_isSome (Python.pairEvents_judges Python.tracks_nil hshape.events) (by decide +kernel)
    have hentries : (items (samplePack.item "events")).map entry =
        [(true, .str "attempt-1"), (false, .str "attempt-1")] := by decide +kernel
    refine (bijection_iff _ _).2 ⟨hpairs, fun id hid => ?_, by decide +kernel⟩
    rw [hentries] at hid ⊢
    simp only [List.mem_cons, Prod.mk.injEq, true_and, Bool.true_eq_false, Bool.false_eq_true, false_and, List.not_mem_nil,
      or_false, false_or] at hid ⊢
    exact hid
  refine (Python.verifyPack_judges sampleVerifier sampleTrust_wf).accepts
    ⟨hdomain, htrust, hshape, hroles, ⟨?_, ?_⟩, hsigned, hsequence, ?_, hrecords, hbijection⟩
  · rw [hcommitment]
    decide +kernel
  · rw [hcommitment]
    decide +kernel
  · rw [hroot]
    decide +kernel

theorem sample_pack_binds : Established samplePack ∧
    ((samplePack.item "scope" = samplePack.item "scope" ∧ samplePack.item "events" = samplePack.item "events") ∨
      Collides sampleVerifier samplePack samplePack) := by
  have h := accepted_pack_binds sampleVerifier_length samplePack_wf sampleTrust_wf samplePack_verified
  exact ⟨h.1, h.2 samplePack checkNames samplePack_wf samplePack_verified rfl⟩

end VapEvidence.Evidence
