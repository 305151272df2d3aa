import VapEvidence.PaymentReplay

set_option autoImplicit false

/-!
# Canonical bytes of the payment runtime bind

`canonical_json` and `load_json` are inverse on the values and the bytes they accept, a
digest stands for one value, and `_find` compares requests when it compares their bytes.
-/
namespace VapEvidence.Payment
open Json
variable {py : Platform}

/-! ## Digests -/

theorem bytesDigest_injective {a b : Bytes} (h : bytesDigest py a = bytesDigest py b) : py.sha256 a = py.sha256 b := by
  refine hex_injective ?_
  have := congrArg String.toList h
  rw [bytesDigest, bytesDigest, String.toList_append, String.toList_append] at this
  exact String.toList_injective (List.append_cancel_left this)

/-- Equal digests are digests of one value, or SHA-256 collides. -/
theorem digest_binds {v w : Json} (hv : v.WF) (hw : w.WF) {d : String} (h : digest py v = .ok d) (h' : digest py w = .ok d) :
    v = w ∨ ∃ a b, canonical py v = .ok a ∧ canonical py w = .ok b ∧ a ≠ b ∧ py.sha256 a = py.sha256 b := by
  obtain ⟨a, ha, hd⟩ := bind_ok h
  obtain ⟨b, hb, hd'⟩ := bind_ok h'
  by_cases hab : a = b
  · subst hab
    exact Or.inl (canonicalJson_injective py runtimeBounds hv hw ha hb)
  · exact Or.inr ⟨a, b, ha, hb, hab, bytesDigest_injective ((Except.ok.inj hd).trans (Except.ok.inj hd').symm)⟩

/-! ## Requests -/

theorem Request.json_iff {r r' : Request py} : r.raw = r'.raw ↔ r.json = r'.json := by
  refine ⟨fun h => congrArg Request.json (ext_raw h), fun h => ?_⟩
  have hraw := r.canonical_json
  rw [h] at hraw
  exact Except.ok.inj (hraw.symm.trans r'.canonical_json)

section Find
variable {α : Type} (key : α → Identity)

/-- The request that a row stores. -/
def storedRequest (row : α) : Except String Json := load py (key row).requestBytes

/-- Every row stores the bytes of a request under its own identities. -/
def StoresRequests (rows : List α) : Prop := ∀ row ∈ rows, ∃ r : Request py, key row = r.identity (key row).scope

/-- `_find`, had it compared request objects. -/
def findObject (rows : List α) (scope : String) (r : Request py) : Except String (Option α) :=
  match rows.filter (shares key scope r.operationId r.idempotencyKey) with
  | [] => .ok none
  | [row] => if @storedRequest py α key row = .ok r.json then .ok (some row) else .error "immutable_request_identity_conflict"
  | _ => .error "immutable_request_identity_conflict"

theorem find_object {rows : List α} (hrows : @StoresRequests py α key rows) (scope : String) (r : Request py) :
    find key rows scope r = findObject key rows scope r := by
  unfold find findObject
  change (match rows.filter (shares key scope r.operationId r.idempotencyKey) with
    | [] => _ | [row] => _ | _ => _) = _
  cases hf : rows.filter (shares key scope r.operationId r.idempotencyKey) with
  | nil => rfl
  | cons row rest =>
    cases rest with
    | cons _ _ => rfl
    | nil =>
      have hmem : row ∈ rows := List.mem_of_mem_filter (hf ▸ List.mem_singleton_self row)
      obtain ⟨r₀, hid⟩ := hrows row hmem
      have hstored : @storedRequest py α key row = .ok r₀.json := by
        rw [storedRequest, hid]
        exact r₀.load_raw
      refine if_congr ?_ rfl rfl
      rw [hstored, hid]
      constructor
      · exact fun h => congrArg _ (Request.json_iff.1 h.2.2)
      · intro h
        have hraw := Request.json_iff.2 (Except.ok.inj h)
        have hr := Request.ext_raw hraw
        subst hr
        exact ⟨rfl, rfl, rfl⟩

end Find

/-- Values and their canonical bytes determine each other, digests bind both, and `_find` decides as it would on
    request objects. -/
theorem canonical_json_binds (py : Platform) :
    (∀ v raw, v.WF → canonical py v = .ok raw → load py raw = .ok v) ∧
    (∀ v w raw, v.WF → w.WF → canonical py v = .ok raw → canonical py w = .ok raw → v = w) ∧
    (∀ raw v, load py raw = .ok v → canonical py v = .ok raw →
      ∀ raw', load py raw' = .ok v → canonical py v = .ok raw' → raw' = raw) ∧
    (∀ v w d, v.WF → w.WF → digest py v = .ok d → digest py w = .ok d →
      v = w ∨ ∃ a b, canonical py v = .ok a ∧ canonical py w = .ok b ∧ a ≠ b ∧ py.sha256 a = py.sha256 b) ∧
    (∀ r r' : Request py, r.digest = r'.digest → r.json = r'.json ∨ (r.raw ≠ r'.raw ∧ py.sha256 r.raw = py.sha256 r'.raw)) ∧
    ∀ {α : Type} (key : α → Identity) (rows : List α), @StoresRequests py α key rows → ∀ scope (r : Request py),
      find key rows scope r = findObject key rows scope r := by
  refine ⟨fun v raw hv h => load_canonical hv h, fun v w raw hv hw h h' => canonicalJson_injective py runtimeBounds hv hw h h',
    fun raw v _ hc raw' _ hc' => Except.ok.inj (hc'.symm.trans hc), fun v w d hv hw h h' => digest_binds hv hw h h',
    fun r r' h => ?_, fun key rows hrows scope r => find_object key hrows scope r⟩
  by_cases hraw : r.raw = r'.raw
  · exact Or.inl (Request.json_iff.1 hraw)
  · exact Or.inr ⟨hraw, bytesDigest_injective h⟩

theorem sample_canonical_json_binds : ∃ raw, canonical samplePlatform sampleContext = .ok raw ∧
    load samplePlatform raw = .ok sampleContext := by
  have hc : canonical samplePlatform sampleContext = .ok _ := canonical_eq (by decide +kernel) (by decide +kernel)
  exact ⟨_, hc, (canonical_json_binds samplePlatform).1 _ _ (dict_wf (by simp [Json.WF])) hc⟩

end VapEvidence.Payment
