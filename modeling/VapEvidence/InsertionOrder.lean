import Mathlib.Data.List.Nodup
import Mathlib.Data.List.Induction

set_option autoImplicit false

/-!
# The last item of each key

Of a list of items with keys, the last item of each key, in the order in which the keys first occur:
what a dictionary in insertion order holds after the items are written to it one by one.
-/
namespace VapEvidence.InsertionOrder

variable {κ ω υ : Type} [DecidableEq κ]

theorem eraseDups_concat (ks : List κ) (k : κ) :
    (ks ++ [k]).eraseDups = if k ∈ ks then ks.eraseDups else ks.eraseDups ++ [k] := by
  rw [List.eraseDups_append]
  split_ifs with h
  · simp [List.removeAll, h]
  · simp [List.removeAll, h, List.eraseDups_cons]

theorem nodup_eraseDups (ks : List κ) : ks.eraseDups.Nodup := by
  induction ks using List.reverseRecOn with
  | nil => exact List.nodup_nil
  | append_singleton ks k ih =>
    rw [eraseDups_concat]
    split_ifs with h
    · exact ih
    · refine List.nodup_append.2 ⟨ih, List.nodup_singleton k, ?_⟩
      rintro a ha b hb rfl
      rw [List.mem_singleton] at hb
      exact h (hb ▸ List.mem_eraseDups.1 ha)

section Finals
variable (key : ω → κ)

def lastOf (ws : List ω) (k : κ) : Option ω := ws.reverse.find? fun w => key w = k

/-- The last item of each key, in the order in which the keys first occur. -/
def finals (ws : List ω) : List ω := (ws.map key).eraseDups.filterMap (lastOf key ws)

variable {key}

theorem lastOf_concat (ws : List ω) (w : ω) (k : κ) :
    lastOf key (ws ++ [w]) k = if key w = k then some w else lastOf key ws k := by
  rw [lastOf, List.reverse_append, List.reverse_singleton, List.singleton_append, List.find?_cons]
  split_ifs with h
  · rw [decide_eq_true h]
  · rw [decide_eq_false h]
    rfl

theorem lastOf_key {ws : List ω} {k : κ} {w : ω} (h : lastOf key ws k = some w) : key w = k := by
  have hfound := List.find?_some h
  exact of_decide_eq_true hfound

theorem lastOf_isSome {ws : List ω} {k : κ} (h : k ∈ ws.map key) : ∃ w, lastOf key ws k = some w := by
  obtain ⟨w, hw, rfl⟩ := List.mem_map.1 h
  exact Option.isSome_iff_exists.1 (List.find?_isSome.2 ⟨w, List.mem_reverse.2 hw, decide_eq_true rfl⟩)

theorem mem_finals {ws : List ω} {w : ω} : w ∈ finals key ws ↔ lastOf key ws (key w) = some w := by
  rw [finals, List.mem_filterMap]
  constructor
  · rintro ⟨k, -, hk⟩
    rwa [lastOf_key hk]
  · intro h
    refine ⟨key w, List.mem_eraseDups.2 (List.mem_map_of_mem ?_), h⟩
    exact List.mem_reverse.1 (List.mem_of_find?_eq_some h)

theorem keys_finals (ws : List ω) : (finals key ws).map key = (ws.map key).eraseDups := by
  have hall : ∀ ks : List κ, (∀ k ∈ ks, k ∈ ws.map key) → (ks.filterMap (lastOf key ws)).map key = ks := by
    intro ks hks
    induction ks with
    | nil => rfl
    | cons k ks ih =>
      obtain ⟨w, hw⟩ := lastOf_isSome (hks k List.mem_cons_self)
      rw [List.filterMap_cons_some hw, List.map_cons, lastOf_key hw, ih fun j hj => hks j (List.mem_cons_of_mem k hj)]
  exact hall _ fun k hk => List.mem_eraseDups.1 hk

theorem finals_ne_nil {ws : List ω} (h : ws ≠ []) : finals key ws ≠ [] := by
  obtain ⟨w, hw⟩ := List.exists_mem_of_ne_nil ws h
  intro hnil
  have hkeys := @keys_finals _ _ _ key ws
  rw [hnil, List.map_nil] at hkeys
  have hmem := List.mem_eraseDups.2 (List.mem_map_of_mem (f := key) hw)
  rw [← hkeys] at hmem
  cases hmem

/-- An item under a new key comes last. -/
theorem finals_concat_new {ws : List ω} {w : ω} (h : key w ∉ ws.map key) :
    finals key (ws ++ [w]) = finals key ws ++ [w] := by
  have hold : ((ws.map key).eraseDups.filterMap (lastOf key (ws ++ [w]))) = finals key ws := by
    refine List.filterMap_congr fun k hk => ?_
    rw [lastOf_concat, if_neg]
    rintro rfl
    exact h (List.mem_eraseDups.1 hk)
  have hnew : lastOf key (ws ++ [w]) (key w) = some w := by rw [lastOf_concat, if_pos rfl]
  rw [finals, List.map_append, List.map_singleton, eraseDups_concat, if_neg h, List.filterMap_append, hold,
    List.filterMap_cons_some hnew, List.filterMap_nil]

/-- An item under a known key takes the place of the one before it. -/
theorem finals_concat_seen {ws : List ω} {w : ω} (h : key w ∈ ws.map key) :
    finals key (ws ++ [w]) = (finals key ws).map fun x => if key x = key w then w else x := by
  rw [finals, List.map_append, List.map_singleton, eraseDups_concat, if_pos h, finals, List.map_filterMap]
  refine List.filterMap_congr fun k hk => ?_
  obtain ⟨x, hx⟩ := lastOf_isSome (List.mem_eraseDups.1 hk)
  rw [lastOf_concat, hx, Option.map_some, lastOf_key hx]
  simp only [eq_comm (a := key w)]
  split_ifs <;> rfl

theorem lastOf_map (g : υ → ω) (us : List υ) (k : κ) :
    lastOf key (us.map g) k = (lastOf (key ∘ g) us k).map g := by
  rw [lastOf, ← List.map_reverse, List.find?_map]
  rfl

theorem finals_map (g : υ → ω) (us : List υ) : finals key (us.map g) = (finals (key ∘ g) us).map g := by
  rw [finals, List.map_map, finals, List.map_filterMap]
  exact List.filterMap_congr fun k _ => lastOf_map g us k

end Finals
end VapEvidence.InsertionOrder
