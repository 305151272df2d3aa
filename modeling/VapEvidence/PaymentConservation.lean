import Mathlib.Algebra.GroupWithZero.Nat
import Mathlib.Algebra.Order.BigOperators.Group.List
import Mathlib.Data.List.Induction
import VapEvidence.PaymentStores

set_option autoImplicit false

/-!
# Conservation of balances

Balances are decimal texts rewritten by two statements of one transaction. Over
any sequence of provider starts and payments the total stays the initial total,
each account differs from its start by its effects, every text stays canonical,
and the effects are the settled payments.
-/
namespace VapEvidence.Payment
open Json

/-! ## Decimal texts -/

theorem toList_decimal (n : ℕ) : (decimal n).toList = Nat.toDigits 10 n := String.toList_ofList

@[simp] theorem amount_decimal (n : ℕ) : amount (decimal n) = n := by
  rw [amount, toList_decimal, Nat.ofDigitChars_ten_toDigits]

theorem length_decimal_le {n k : ℕ} (hk : 0 < k) : (decimal n).length ≤ k ↔ n < 10 ^ k := by
  rw [decimal, String.length_ofList]
  exact Nat.length_toDigits_le_iff (by decide) hk

theorem ofDigitChars_lt (ds : List Char) (h : ∀ c ∈ ds, c.isDigit = true) (init : ℕ) :
    Nat.ofDigitChars 10 ds init < 10 ^ ds.length * (init + 1) := by
  induction ds generalizing init with
  | nil => simp [Nat.ofDigitChars]
  | cons c cs ih =>
    have hc : c.toNat ≤ 57 := (Char.isDigit_iff_toNat.1 (h c List.mem_cons_self)).2
    have hc' : 48 ≤ c.toNat := (Char.isDigit_iff_toNat.1 (h c List.mem_cons_self)).1
    rw [Nat.ofDigitChars_cons]
    refine lt_of_lt_of_le (ih (fun d hd => h d (List.mem_cons_of_mem _ hd)) _) ?_
    rw [List.length_cons, pow_succ, mul_assoc]
    refine Nat.mul_le_mul_left _ ?_
    change 10 * init + (c.toNat - 48) + 1 ≤ _
    omega

theorem decimalDigits_isDigit {ds : List Char} (h : decimalDigits ds = true) :
    ∀ c ∈ ds, c.isDigit = true := by
  unfold decimalDigits at h
  split at h
  · simp
  · simp only [Bool.and_eq_true, List.all_eq_true] at h
    exact h.2
  · cases h

theorem decimalDigits_toDigits (n : ℕ) : decimalDigits (Nat.toDigits 10 n) = true := by
  rcases Nat.eq_zero_or_pos n with rfl | hn
  · decide
  · have hall := toDigits_isDigit n
    obtain ⟨d, ds, he, hd⟩ := toDigits_head n hn
    rw [he] at hall ⊢
    unfold decimalDigits
    split
    · rfl
    · next heq =>
      obtain ⟨rfl, rfl⟩ := List.cons.inj heq
      simpa [hd] using hall
    · next heq => cases heq

theorem toDigits_digit {c : Char} (h : c.isDigit = true) :
    [c] = Nat.toDigits 10 (c.toNat - 48) ∧ c.toNat - 48 < 10 := by
  have hlo : 48 ≤ c.toNat := (Char.isDigit_iff_toNat.1 h).1
  have hhi : c.toNat ≤ 57 := (Char.isDigit_iff_toNat.1 h).2
  have hlt : c.toNat - 48 < 10 := by omega
  refine ⟨?_, hlt⟩
  rw [Nat.toDigits_of_lt_base hlt]
  have hc : c = Char.ofNat c.toNat := by simp
  have hcases : ∀ n, 48 ≤ n → n < 58 → [Char.ofNat n] = [(n - 48).digitChar] := by decide
  rw [hc]
  simpa using hcases c.toNat hlo (by omega)

/-- The digits of the number that a text without leading zeros reads as are that text. -/
theorem toDigits_ofDigitChars {ds : List Char} (hne : ds ≠ []) (hhead : ds.head? ≠ some '0')
    (h : ∀ c ∈ ds, c.isDigit = true) :
    0 < Nat.ofDigitChars 10 ds 0 ∧ Nat.toDigits 10 (Nat.ofDigitChars 10 ds 0) = ds := by
  induction ds using List.reverseRecOn with
  | nil => exact absurd rfl hne
  | append_singleton ds c ih =>
    obtain ⟨hdigit, hlt⟩ := toDigits_digit (h c (by simp))
    rw [Nat.ofDigitChars_append, Nat.ofDigitChars_cons, Nat.ofDigitChars_nil]
    by_cases hds : ds = []
    · subst hds
      rw [Nat.ofDigitChars_nil, Nat.mul_zero, Nat.zero_add]
      refine ⟨Nat.pos_of_ne_zero fun hz => hhead ?_, hdigit.symm⟩
      change c.toNat - 48 = 0 at hz
      rw [hz] at hdigit
      rw [List.nil_append, hdigit]
      rfl
    · obtain ⟨hpos, hdigits⟩ := ih hds (fun hh => hhead (by
        rw [List.head?_append_of_ne_nil _ hds]
        exact hh)) fun d hd => h d (List.mem_append_left _ hd)
      refine ⟨by omega, ?_⟩
      change Nat.toDigits 10 (10 * Nat.ofDigitChars 10 ds 0 + (c.toNat - 48)) = _
      rw [← Nat.toDigits_append_toDigits (by decide) hpos hlt, hdigits, ← hdigit]

theorem decimalDigits_injective {s t : List Char} (hs : decimalDigits s = true) (ht : decimalDigits t = true)
    (h : Nat.ofDigitChars 10 s 0 = Nat.ofDigitChars 10 t 0) : s = t := by
  have read {ds : List Char} (hd : decimalDigits ds = true) :
      Nat.toDigits 10 (Nat.ofDigitChars 10 ds 0) = ds := by
    have hall := decimalDigits_isDigit hd
    unfold decimalDigits at hd
    split at hd
    · decide
    · next d ds _ =>
      simp only [Bool.and_eq_true, decide_eq_true_eq] at hd
      exact (toDigits_ofDigitChars (by simp) (by simpa using hd.1) hall).2
    · cases hd
  rw [← read hs, h, read ht]
theorem decimalOk_decimal {n : ℕ} : decimalOk (.str (decimal n)) = true ↔ n < 10 ^ 78 := by
  rw [decimalOk, toList_decimal, decimalDigits_toDigits, Bool.and_true, decide_eq_true_iff,
    length_decimal_le (by decide)]

theorem amount_lt_of_decimalOk {s : String} (h : decimalOk (.str s) = true) : amount s < 10 ^ 78 := by
  rw [decimalOk, Bool.and_eq_true, decide_eq_true_iff] at h
  refine lt_of_lt_of_le (ofDigitChars_lt _ (decimalDigits_isDigit h.2) 0) ?_
  rw [zero_add, mul_one, String.length_toList]
  exact Nat.pow_le_pow_right (by decide) h.1

/-! ## Sums over accounts -/

def total (rows : List BalanceRow) : ℕ := (rows.map fun b => amount b.amountMinor).sum

/-- The row update of `setAmount`. -/
def setRow (account amountMinor : String) (b : BalanceRow) : BalanceRow :=
  if b.account = account then { b with amountMinor } else b

theorem setAmount_rows (account amountMinor : String) (t : Table BalanceRow.account (· = ·)) :
    (setAmount account amountMinor t).rows = t.rows.map (setRow account amountMinor) := by
  rw [setAmount, Table.update_rows]
  refine List.map_congr_left fun b _ => ?_
  simp [setRow]

@[simp] theorem setRow_account (account amountMinor : String) (b : BalanceRow) :
    (setRow account amountMinor b).account = b.account := by
  unfold setRow
  split_ifs <;> rfl

theorem setRow_of_ne {account amountMinor : String} {b : BalanceRow} (h : b.account ≠ account) :
    setRow account amountMinor b = b := if_neg h

theorem setRow_of_eq {account amountMinor : String} {b : BalanceRow} (h : b.account = account) :
    setRow account amountMinor b = { b with amountMinor } := if_pos h

/-- Rewriting the row of one account changes the total by new amount minus old amount. -/
theorem total_setRow {rows : List BalanceRow} (hn : rows.Pairwise fun a b => ¬ a.account = b.account)
    {b : BalanceRow} (hb : b ∈ rows) (amountMinor : String) :
    total (rows.map (setRow b.account amountMinor)) + amount b.amountMinor =
      total rows + amount amountMinor := by
  induction rows with
  | nil => cases hb
  | cons c cs ih =>
    obtain ⟨hc, hcs⟩ := List.pairwise_cons.1 hn
    rcases List.mem_cons.1 hb with rfl | hb
    · have hrest : cs.map (setRow b.account amountMinor) = cs := by
        conv_rhs => rw [← List.map_id cs]
        exact List.map_congr_left fun a ha => setRow_of_ne (Ne.symm (hc a ha))
      rw [List.map_cons, hrest, setRow_of_eq rfl, total, total, List.map_cons, List.map_cons,
        List.sum_cons, List.sum_cons]
      dsimp only
      omega
    · have := ih hcs hb
      rw [List.map_cons, setRow_of_ne (hc b hb), total, List.map_cons, List.sum_cons, total,
        List.map_cons, List.sum_cons]
      simp only [total] at this
      omega

theorem mem_setRow {rows : List BalanceRow} {account amountMinor : String} {b : BalanceRow}
    (hb : b ∈ rows) (hne : b.account ≠ account) : b ∈ rows.map (setRow account amountMinor) :=
  List.mem_map.2 ⟨b, hb, setRow_of_ne hne⟩

def debits (effects : List EffectRow) (account : String) : ℕ :=
  ((effects.filter fun e => e.sourceAccount = account).map fun e => amount e.amountMinor).sum

def credits (effects : List EffectRow) (account : String) : ℕ :=
  ((effects.filter fun e => e.beneficiary = account).map fun e => amount e.amountMinor).sum

theorem debits_append (effects : List EffectRow) (e : EffectRow) (account : String) :
    debits (effects ++ [e]) account =
      debits effects account + if e.sourceAccount = account then amount e.amountMinor else 0 := by
  simp only [debits, List.filter_append, List.map_append, List.sum_append]
  split_ifs with h <;> simp [h]

theorem credits_append (effects : List EffectRow) (e : EffectRow) (account : String) :
    credits (effects ++ [e]) account =
      credits effects account + if e.beneficiary = account then amount e.amountMinor else 0 := by
  simp only [credits, List.filter_append, List.map_append, List.sum_append]
  split_ifs with h <;> simp [h]

/-! ## The invariant -/

section Conservation
variable (py : Platform)

def settledDigests (payments : List PaymentRow) : List String :=
  (payments.filter fun p => p.status = .settled).map fun p => p.identity.requestDigest

/-- What holds of a provider store whose accounts started with `initial`. -/
structure Conserved (initial : List (String × Json)) (s : ProviderStore) : Prop where
  accounts : s.balances.rows.map BalanceRow.account = initial.map Prod.fst
  total : total s.balances.rows = (initial.map fun m => amount m.2.text).sum
  account : ∀ b ∈ s.balances.rows, ∃ x, (b.account, x) ∈ initial ∧
    amount b.amountMinor + debits s.effects.rows b.account =
      amount x.text + credits s.effects.rows b.account
  decimal : ∀ b ∈ s.balances.rows, decimalOk (.str b.amountMinor) = true
  settled : s.effects.rows.map EffectRow.requestDigest = settledDigests s.payments.rows
  effects : ∀ e ∈ s.effects.rows, ∃ p ∈ s.payments.rows, p.status = .settled ∧
    ∃ r : Request py, p.identity.requestBytes = r.raw ∧ e = effectOf r

variable {py}

theorem source_ne_beneficiary (r : Request py) : r.field "source_account" ≠ r.field "beneficiary" := by
  have h := r.fields_ok.2.2
  simp only [requestFieldsOk, Bool.and_eq_true, List.all_eq_true, decide_eq_true_eq] at h
  obtain ⟨⟨⟨⟨⟨ht, hne⟩, -⟩, -⟩, -⟩, -⟩ := h
  have hs := text_of_textOk (ht "source_account" (by simp))
  have hb := text_of_textOk (ht "beneficiary" (by simp))
  intro he
  refine hne ?_
  rw [hs, hb]
  exact congrArg Json.str he

/-- Two balances read are the balances of the two accounts. -/
theorem balancesOf_two {r : Request py} {s : ProviderStore} (h : (balancesOf r s).length = 2) :
    ∃ b ∈ s.balances.rows, ∃ c ∈ s.balances.rows, b.account = r.field "source_account" ∧
      c.account = r.field "beneficiary" ∧
      (balancesOf r s).lookup (r.field "source_account") = some (amount b.amountMinor) ∧
      (balancesOf r s).lookup (r.field "beneficiary") = some (amount c.amountMinor) := by
  have hne := source_ne_beneficiary r
  unfold balancesOf at h ⊢
  have hu := s.balances.unique.filter fun b =>
    (b.account = r.field "source_account" || b.account = r.field "beneficiary" : Bool)
  rw [List.length_map] at h
  obtain ⟨x, y, hr⟩ := List.length_eq_two.1 h
  rw [hr] at hu ⊢
  have hmem : ∀ z ∈ [x, y], z ∈ s.balances.rows ∧
      (z.account = r.field "source_account" ∨ z.account = r.field "beneficiary") := by
    intro z hz
    rw [← hr] at hz
    simpa using List.mem_filter.1 hz
  obtain ⟨hxm, hx⟩ := hmem x (by simp)
  obtain ⟨hym, hy⟩ := hmem y (by simp)
  have hxy : x.account ≠ y.account := (List.pairwise_cons.1 hu).1 y (by simp)
  have lookup_first : ∀ (a b : BalanceRow), ([a, b].map fun b => (b.account, amount b.amountMinor)).lookup
      a.account = some (amount a.amountMinor) := by
    intro a b
    simp
  have lookup_second : ∀ (a b : BalanceRow), a.account ≠ b.account →
      ([a, b].map fun b => (b.account, amount b.amountMinor)).lookup b.account =
        some (amount b.amountMinor) := by
    intro a b hab
    have hf : (b.account == a.account) = false := beq_false_of_ne (Ne.symm hab)
    simp [List.lookup_cons, hf]
  rcases hx with hx | hx
  · have hy := hy.resolve_left fun hy => hxy (hx.trans hy.symm)
    refine ⟨x, hxm, y, hym, hx, hy, ?_, ?_⟩
    · rw [← hx]
      exact lookup_first x y
    · rw [← hy]
      exact lookup_second x y hxy
  · have hy := hy.resolve_right fun hy => hxy (hx.trans hy.symm)
    refine ⟨y, hym, x, hxm, hy, hx, ?_, ?_⟩
    · rw [← hy]
      exact lookup_second x y hxy
    · rw [← hx]
      exact lookup_first x y

/-- What a payment that settles does to the account rows. -/
structure Transfer (r : Request py) (s : ProviderStore) (rows : List BalanceRow) where
  source : BalanceRow
  target : BalanceRow
  source_mem : source ∈ s.balances.rows
  target_mem : target ∈ s.balances.rows
  source_account : source.account = r.field "source_account"
  target_account : target.account = r.field "beneficiary"
  covered : amount (r.field "amount_minor") ≤ amount source.amountMinor
  fits : amount target.amountMinor + amount (r.field "amount_minor") < 10 ^ 78
  rows_eq : rows = (s.balances.rows.map (setRow source.account
      (decimal (amount source.amountMinor - amount (r.field "amount_minor"))))).map
    (setRow target.account (decimal (amount target.amountMinor + amount (r.field "amount_minor"))))

theorem settle_transfer {r : Request py} {s s' : ProviderStore}
    (hf : failureReason r (balancesOf r s) = none) (h : settle r (balancesOf r s) s = .ok s') :
    (∃ _ : Transfer r s s'.balances.rows, True) ∧ s'.effects.rows = s.effects.rows ++ [effectOf r] := by
  unfold failureReason at hf
  dsimp only at hf
  split_ifs at hf with h2 hlow hhigh
  obtain ⟨b, hb, c, hc, hba, hca, hlb, hlc⟩ := balancesOf_two (not_not.1 h2)
  rw [hlb, Option.getD_some] at hlow
  rw [hlc, Option.getD_some] at hhigh
  obtain ⟨effects, he, h⟩ := bind_ok h
  rw [integrity_ok] at he
  cases h
  refine ⟨⟨⟨b, c, hb, hc, hba, hca, not_lt.1 hlow,
    (length_decimal_le (by decide)).1 (not_lt.1 hhigh), ?_⟩, trivial⟩, (Table.insert_some he).1⟩
  rw [setAmount_rows, setAmount_rows, hlb, hlc, hba, hca, Option.getD_some, Option.getD_some]

section Transfers
variable {r : Request py} {s : ProviderStore} {rows : List BalanceRow} (t : Transfer r s rows)
include t

theorem Transfer.ne : t.source.account ≠ t.target.account := by
  rw [t.source_account, t.target_account]
  exact source_ne_beneficiary r

theorem Transfer.accounts : rows.map BalanceRow.account = s.balances.rows.map BalanceRow.account := by
  rw [t.rows_eq, List.map_map, List.map_map]
  exact List.map_congr_left fun b _ => by simp

/-- One subtraction and one addition of the same amount. -/
theorem Transfer.total : Payment.total rows = Payment.total s.balances.rows := by
  have hd := total_setRow s.balances.unique t.source_mem
    (decimal (amount t.source.amountMinor - amount (r.field "amount_minor")))
  have hu : (s.balances.rows.map (setRow t.source.account
      (decimal (amount t.source.amountMinor - amount (r.field "amount_minor"))))).Pairwise
      fun a b => ¬ a.account = b.account :=
    List.pairwise_map.2 (s.balances.unique.imp fun h => by simpa using h)
  have hc := total_setRow hu (mem_setRow t.target_mem t.ne.symm)
    (decimal (amount t.target.amountMinor + amount (r.field "amount_minor")))
  rw [← t.rows_eq] at hc
  rw [amount_decimal] at hd hc
  have := t.covered
  omega

/-- A row after the transfer is a row before it, debited, credited or left alone. -/
theorem Transfer.row {b : BalanceRow} (hb : b ∈ rows) :
    ∃ b₀ ∈ s.balances.rows, b.account = b₀.account ∧
      (b = b₀ ∨ ∃ n, b.amountMinor = decimal n ∧ (n < 10 ^ 78 ∨ n ≤ amount b₀.amountMinor)) ∧
      amount b.amountMinor + (if r.field "source_account" = b.account then
          amount (r.field "amount_minor") else 0) =
        amount b₀.amountMinor + (if r.field "beneficiary" = b.account then
          amount (r.field "amount_minor") else 0) := by
  rw [t.rows_eq, List.map_map] at hb
  obtain ⟨b₀, hb₀, rfl⟩ := List.mem_map.1 hb
  refine ⟨b₀, hb₀, by simp, ?_⟩
  have hcov := t.covered
  have hfits := t.fits
  rw [Function.comp_apply, ← t.source_account, ← t.target_account]
  by_cases hs : b₀.account = t.source.account
  · obtain rfl := s.balances.eq_of_clash (fun _ _ h => h.symm) hb₀ t.source_mem hs
    have hkeep (x a : String) :
        setRow t.target.account x ⟨t.source.account, a⟩ = ⟨t.source.account, a⟩ := if_neg t.ne
    rw [setRow_of_eq rfl, hkeep, if_pos rfl, if_neg t.ne.symm, amount_decimal]
    exact ⟨Or.inr ⟨_, rfl, Or.inr (Nat.sub_le _ _)⟩, by omega⟩
  · rw [setRow_of_ne hs]
    by_cases ht : b₀.account = t.target.account
    · obtain rfl := s.balances.eq_of_clash (fun _ _ h => h.symm) hb₀ t.target_mem ht
      rw [setRow_of_eq rfl, if_neg (Ne.symm hs), if_pos rfl, amount_decimal]
      exact ⟨Or.inr ⟨_, rfl, Or.inl hfits⟩, by omega⟩
    · rw [setRow_of_ne ht, if_neg (Ne.symm hs), if_neg (Ne.symm ht)]
      exact ⟨Or.inl rfl, rfl⟩

end Transfers

/-! ## Each operation keeps it -/

theorem settledDigests_append (payments : List PaymentRow) (p : PaymentRow) :
    settledDigests (payments ++ [p]) =
      settledDigests payments ++ if p.status = .settled then [p.identity.requestDigest] else [] := by
  simp only [settledDigests, List.filter_append, List.map_append]
  split_ifs with h <;> simp [h]

/-- A new payment and its effect are added together. -/
theorem settled_created {r : Request py} {s s' : ProviderStore} {receipt : Bytes}
    (c : Created py r s s' receipt)
    (h : s.effects.rows.map EffectRow.requestDigest = settledDigests s.payments.rows) :
    s'.effects.rows.map EffectRow.requestDigest = settledDigests s'.payments.rows := by
  rw [c.payments, settledDigests_append]
  rcases c.outcome with ⟨hst, -, he⟩ | ⟨hst, hf, hset⟩
  · rw [he, h, hst]
    simp
  · have heff : s'.effects.rows = s.effects.rows ++ [effectOf r] := (settle_transfer hf hset).2
    rw [heff, hst, List.map_append, h]
    rfl

theorem conserved_created {initial : List (String × Json)} {r : Request py} {s s' : ProviderStore}
    {receipt : Bytes} (c : Created py r s s' receipt) (h : Conserved py initial s) :
    Conserved py initial s' := by
  have hold : ∀ e ∈ s.effects.rows, ∃ p ∈ s'.payments.rows, p.status = .settled ∧
      ∃ r : Request py, p.identity.requestBytes = r.raw ∧ e = effectOf r := by
    intro e he
    obtain ⟨p, hp, hs⟩ := h.effects e he
    exact ⟨p, c.payments ▸ List.mem_append_left _ hp, hs⟩
  rcases c.outcome with ⟨hst, hb, he⟩ | ⟨hst, hf, hset⟩
  · refine ⟨hb ▸ h.accounts, hb ▸ h.total, ?_, hb ▸ h.decimal, settled_created c h.settled, he ▸ hold⟩
    rw [hb, he]
    exact h.account
  · obtain ⟨⟨t, -⟩, heff⟩ := settle_transfer hf hset
    dsimp only at t heff
    refine ⟨t.accounts.trans h.accounts, t.total.trans h.total, ?_, ?_, settled_created c h.settled, ?_⟩
    · intro b hb
      obtain ⟨b₀, hb₀, hba, -, hamount⟩ := t.row hb
      obtain ⟨x, hx, hlaw⟩ := h.account b₀ hb₀
      refine ⟨x, hba ▸ hx, ?_⟩
      rw [heff, debits_append, credits_append, hba]
      rw [hba] at hamount
      change _ + (_ + if r.field "source_account" = b₀.account then
        amount (r.field "amount_minor") else 0) = _ + (_ + if r.field "beneficiary" = b₀.account then
        amount (r.field "amount_minor") else 0)
      omega
    · intro b hb
      obtain ⟨b₀, hb₀, -, hform, -⟩ := t.row hb
      have hd := h.decimal b₀ hb₀
      rcases hform with rfl | ⟨n, hn, hlt⟩
      · exact hd
      · have := amount_lt_of_decimalOk hd
        rw [hn]
        exact decimalOk_decimal.2 (by omega)
    · rw [heff]
      intro e he
      rcases List.mem_append.1 he with he | he
      · exact hold e he
      · obtain rfl := List.mem_singleton.1 he
        exact ⟨_, c.payments ▸ List.mem_append_right _ List.mem_cons_self, hst, r, rfl, rfl⟩

theorem seedBalance_present {t : Table BalanceRow.account (· = ·)} {m : String × Json}
    (h : m.1 ∈ t.rows.map BalanceRow.account) : seedBalance t m = t := by
  obtain ⟨b, hb, he⟩ := List.mem_map.1 h
  have hn : t.insert ⟨m.1, m.2.text⟩ = none := dif_neg fun hc => hc b hb he
  rw [seedBalance, hn]
  rfl

/-- Existing balances are never seeded again. -/
theorem seed_present (ms : List (String × Json)) {t : Table BalanceRow.account (· = ·)}
    (h : ∀ m ∈ ms, m.1 ∈ t.rows.map BalanceRow.account) : ms.foldl seedBalance t = t := by
  induction ms with
  | nil => rfl
  | cons m ms ih =>
    rw [List.foldl_cons, seedBalance_present (h m List.mem_cons_self)]
    exact ih fun n hn => h n (List.mem_cons_of_mem _ hn)

theorem seed_fresh (ms : List (String × Json)) {t : Table BalanceRow.account (· = ·)}
    (hn : (ms.map Prod.fst).Nodup) (h : ∀ m ∈ ms, m.1 ∉ t.rows.map BalanceRow.account) :
    (ms.foldl seedBalance t).rows = t.rows ++ ms.map fun m => ⟨m.1, m.2.text⟩ := by
  induction ms generalizing t with
  | nil => simp
  | cons m ms ih =>
    obtain ⟨hm, hms⟩ := List.nodup_cons.1 hn
    obtain ⟨t', ht'⟩ := Table.insert_isSome (t := t) (a := ⟨m.1, m.2.text⟩) fun b hb he =>
      h m List.mem_cons_self (List.mem_map.2 ⟨b, hb, he⟩)
    have hrows := (Table.insert_some ht').1
    have hseed : seedBalance t m = t' := by rw [seedBalance, ht']; rfl
    rw [List.foldl_cons, hseed, ih hms, hrows, List.map_cons, List.append_assoc]
    · rfl
    · intro n hn'
      rw [hrows, List.map_append]
      intro hmem
      rcases List.mem_append.1 hmem with hmem | hmem
      · exact h n (List.mem_cons_of_mem _ hn') hmem
      · have : n.1 = m.1 := by simpa using hmem
        exact hm (this ▸ List.mem_map_of_mem hn')

/-- The store answers to an identity with these initial balances. -/
def Pinned (py : Platform) (initial : Json) (s : ProviderStore) : Prop :=
  ∃ m config context, s.metadata = some m ∧ context.WF ∧ initial.WF ∧
    canonicalText py (providerIdentity py config context initial) = .ok m.identity

theorem providerIdentity_wf (config : ProviderConfig) {context balances : Json} (hc : context.WF)
    (hb : balances.WF) : (providerIdentity py config context balances).WF := by
  refine dict_wf fun p hp => ?_
  simp only [List.mem_cons, List.not_mem_nil, or_false] at hp
  rcases hp with rfl | rfl | rfl | rfl | rfl
  · trivial
  · exact hc
  · trivial
  · trivial
  · exact hb

theorem item_initialBalances (config : ProviderConfig) (context balances : Json) :
    (providerIdentity py config context balances).item "initial_balances" = balances :=
  item_of_get? (by simp [providerIdentity, get?_dict])

theorem initializeProvider_ok {config config' : ProviderConfig} {s s' : ProviderStore}
    (h : initializeProvider py config s = .ok (config', s')) :
    ∃ ms m, config'.initialBalances = .obj ms ∧ SortedKeys ms ∧
      (∀ p ∈ ms, decimalOk p.2 = true) ∧ Pinned py config'.initialBalances s' ∧
      s'.metadata = some m ∧ (∀ old, s.metadata = some old → old.identity = m.identity) ∧
      s'.payments = s.payments ∧ s'.effects = s.effects ∧
      s'.balances = ms.foldl seedBalance s.balances := by
  obtain ⟨context, hcontext, h⟩ := bind_ok h
  obtain ⟨_, -, h⟩ := bind_ok h
  obtain ⟨_, -, h⟩ := bind_ok h
  obtain ⟨_, -, h⟩ := bind_ok h
  obtain ⟨_, -, h⟩ := bind_ok h
  obtain ⟨balances, hbalances, h⟩ := bind_ok h
  obtain ⟨_, hok, h⟩ := bind_ok h
  obtain ⟨metadata, hmeta, h⟩ := bind_ok h
  cases h
  rw [check_ok] at hcontext hbalances hok hmeta
  obtain ⟨_, -, hcontext⟩ := bind_ok hcontext
  obtain ⟨snapshot, hsnapshot, hcontext⟩ := bind_ok hcontext
  obtain ⟨_, -, hcontext⟩ := bind_ok hcontext
  cases hcontext
  obtain ⟨_, -, hbalances⟩ := bind_ok hbalances
  have hwf : balances.WF := loadJson_wf py _ hbalances
  have hok := require_ok.1 hok
  obtain ⟨hid, hold⟩ := storeMeta_ok hmeta
  cases balances with
  | obj ms =>
    refine ⟨ms, metadata, rfl, hwf.1, ?_, ⟨metadata, config, context, rfl,
      loadJson_wf py _ hsnapshot, hwf, hid⟩, rfl, hold, rfl, rfl, rfl⟩
    simp only [balancesOk, Bool.and_eq_true, List.all_eq_true] at hok
    exact fun p hp => (hok.2 p hp).2
  | _ => cases hok

/-- A store created from nothing. -/
theorem conserved_initial {config config' : ProviderConfig} {s : ProviderStore}
    (h : initializeProvider py config .empty = .ok (config', s)) :
    Conserved py config'.initialBalances.members s := by
  obtain ⟨ms, m, hms, hsorted, hdec, -, -, -, hpay, heff, hbal⟩ := initializeProvider_ok h
  have hrows : s.balances.rows = ms.map fun m => ⟨m.1, m.2.text⟩ := by
    rw [hbal, seed_fresh ms (List.Pairwise.imp ne_of_lt hsorted) (by simp [ProviderStore.empty])]
    rfl
  have heff : s.effects.rows = [] := by rw [heff]; rfl
  have hpay : s.payments.rows = [] := by rw [hpay]; rfl
  rw [hms, members]
  refine ⟨?_, ?_, ?_, ?_, ?_, ?_⟩
  · rw [hrows, List.map_map]
    rfl
  · rw [total, hrows, List.map_map]
    rfl
  · intro b hb
    rw [hrows] at hb
    obtain ⟨p, hp, rfl⟩ := List.mem_map.1 hb
    exact ⟨p.2, hp, by rw [heff]; rfl⟩
  · intro b hb
    rw [hrows] at hb
    obtain ⟨p, hp, rfl⟩ := List.mem_map.1 hb
    have := hdec p hp
    rw [text_of_decimalOk this] at this
    exact this
  · rw [heff, hpay]
    rfl
  · rw [heff]
    intro e he
    cases he

/-- A restarted provider finds the store it left. -/
theorem conserved_restart {config config' : ProviderConfig} {initial : Json} {s s' : ProviderStore}
    (h : initializeProvider py config s = .ok (config', s')) (hp : Pinned py initial s)
    (hc : Conserved py initial.members s) : Conserved py initial.members s' ∧ s'.balances = s.balances := by
  obtain ⟨ms, m, hms, -, -, ⟨m', config₂, context₂, hm', hw₂, hb₂, hid₂⟩, hm, hold, hpay, heff, hbal⟩ :=
    initializeProvider_ok h
  obtain rfl := Option.some.inj (hm.symm.trans hm')
  obtain ⟨m₀, config₀, context₀, hm₀, hw₀, hb₀, hid₀⟩ := hp
  rw [hold m₀ hm₀] at hid₀
  have heq := canonicalText_injective (providerIdentity_wf config₀ hw₀ hb₀)
    (providerIdentity_wf config₂ hw₂ hb₂) hid₀ hid₂
  have hinit : initial = config'.initialBalances := by
    have := congrArg (fun v => v.item "initial_balances") heq
    simpa only [item_initialBalances] using this
  have hsame : s'.balances = s.balances := by
    rw [hbal]
    refine seed_present ms fun p hp => ?_
    rw [hc.accounts, hinit, hms]
    exact List.mem_map_of_mem hp
  refine ⟨⟨hsame ▸ hc.accounts, hsame ▸ hc.total, ?_, hsame ▸ hc.decimal, ?_, ?_⟩, hsame⟩
  · rw [hsame, heff]
    exact hc.account
  · rw [heff, hpay]
    exact hc.settled
  · rw [heff, hpay]
    exact hc.effects

/-- A well-formed configuration creates a store. -/
theorem initializeProvider_fresh {config : ProviderConfig} {raw : Bytes} {identity generation : String}
    (hcontext : validateContext py config.context = .ok config.context)
    (hgeneration : (integerOk (.int config.recoveryEpoch) && hashText config.configurationDigest) = true)
    (hcredential : credentialOk config.credential = true) (hkey : config.privateKey.length = 32)
    (hid : textOk (.str config.providerId) = true) (hw : config.initialBalances.WF)
    (hraw : canonical py config.initialBalances = .ok raw)
    (hbalances : balancesOk config.initialBalances = true)
    (hidentity : canonicalText py (providerIdentity py config config.context config.initialBalances) =
      .ok identity)
    (htext : canonicalText py (generationValue config.recoveryEpoch config.configurationDigest) =
      .ok generation) :
    initializeProvider py config .empty = .ok (config, ⟨some ⟨identity, some generation⟩,
      config.initialBalances.members.foldl seedBalance .empty, .empty, .empty⟩) := by
  have hload := load_canonical hw hraw
  simp only [initializeProvider, hcontext, hgeneration, hcredential, hkey, hid, hraw, hload, hbalances,
    storeMeta, hidentity, htext, ProviderStore.empty, check, require, bind, Except.bind, Except.mapError,
    if_true, pure, Except.pure, decide_true]

/-! ## Runs -/

inductive ProviderCall (py : Platform) where
  | restart (config : ProviderConfig)
  | apply (config : ProviderConfig) (request : Request py) (now : ℤ)

/-- A call that raises rolls its transaction back. -/
def ProviderCall.run (s : ProviderStore) : ProviderCall py → ProviderStore
  | .restart config =>
    match initializeProvider py config s with
    | .ok (_, s') => s'
    | .error _ => s
  | .apply config request now =>
    match applyPayment py config request now s with
    | .ok (_, s') => s'
    | .error _ => s

theorem conserved_run {initial : Json} (calls : List (ProviderCall py)) {s : ProviderStore}
    (hp : Pinned py initial s) (hc : Conserved py initial.members s) :
    Pinned py initial (calls.foldl ProviderCall.run s) ∧
      Conserved py initial.members (calls.foldl ProviderCall.run s) := by
  induction calls generalizing s with
  | nil => exact ⟨hp, hc⟩
  | cons call calls ih =>
    suffices h : Pinned py initial (call.run s) ∧ Conserved py initial.members (call.run s) from
      ih h.1 h.2
    cases call with
    | restart config =>
      cases h : initializeProvider py config s with
      | error e => simpa only [ProviderCall.run, h] using ⟨hp, hc⟩
      | ok x =>
        simp only [ProviderCall.run, h]
        obtain ⟨ms, m, -, -, -, -, hm, hold, -⟩ := initializeProvider_ok h
        obtain ⟨m₀, config₀, context₀, hm₀, hw₀, hb₀, hid₀⟩ := hp
        refine ⟨⟨m, config₀, context₀, hm, hw₀, hb₀, hold m₀ hm₀ ▸ hid₀⟩, ?_⟩
        exact (conserved_restart h ⟨m₀, config₀, context₀, hm₀, hw₀, hb₀, hid₀⟩ hc).1
    | apply config request now =>
      cases h : applyPayment py config request now s with
      | error e => simpa only [ProviderCall.run, h] using ⟨hp, hc⟩
      | ok x =>
        simp only [ProviderCall.run, h]
        obtain ⟨⟨receipt, created⟩, s'⟩ := x
        rcases applyPayment_ok h with ⟨-, rfl, -⟩ | ⟨-, c, -⟩
        · exact ⟨hp, hc⟩
        · refine ⟨?_, conserved_created c hc⟩
          obtain ⟨m₀, config₀, context₀, hm₀, hrest⟩ := hp
          exact ⟨m₀, config₀, context₀, c.metadata.trans hm₀, hrest⟩

/-- Over every sequence of provider starts and payments: the total of all balances is the
    initial total, each balance is its initial amount plus credits minus debits, each is a
    canonical decimal of at most 78 digits, and the effects are the settled payments; a call
    that does not settle a payment leaves every balance alone. -/
theorem provider_conserves_balances (py : Platform) (config config' : ProviderConfig)
    (start : ProviderStore) (h : initializeProvider py config .empty = .ok (config', start))
    (calls : List (ProviderCall py)) :
    let initial := config'.initialBalances.members
    let s := calls.foldl ProviderCall.run start
    total s.balances.rows = (initial.map fun m => amount m.2.text).sum ∧
    s.balances.rows.map BalanceRow.account = initial.map Prod.fst ∧
    (∀ b ∈ s.balances.rows, ∃ x, (b.account, x) ∈ initial ∧
      (amount b.amountMinor : ℤ) = amount x.text + credits s.effects.rows b.account -
        debits s.effects.rows b.account) ∧
    (∀ b ∈ s.balances.rows, decimalOk (.str b.amountMinor) = true) ∧
    (s.effects.rows.map EffectRow.requestDigest = settledDigests s.payments.rows ∧
      (settledDigests s.payments.rows).Nodup ∧
      ∀ e ∈ s.effects.rows, ∃ p ∈ s.payments.rows, p.status = .settled ∧
        ∃ r : Request py, p.identity.requestBytes = r.raw ∧ e = effectOf r) ∧
    ∀ call : ProviderCall py, (∀ p ∈ (call.run s).payments.rows, p ∉ s.payments.rows → p.status = .failed) →
      (call.run s).balances = s.balances := by
  intro initial s
  obtain ⟨ms, m, -, -, -, hp, -⟩ := initializeProvider_ok h
  obtain ⟨hpin, hc⟩ := conserved_run calls hp (conserved_initial h)
  refine ⟨hc.total, hc.accounts, ?_, hc.decimal, ⟨hc.settled, ?_, hc.effects⟩, ?_⟩
  · intro b hb
    obtain ⟨x, hx, hlaw⟩ := hc.account b hb
    change _ + debits s.effects.rows b.account = _ + credits s.effects.rows b.account at hlaw
    exact ⟨x, hx, by omega⟩
  · rw [← hc.settled]
    exact List.pairwise_map.2 (s.effects.unique.imp fun h => h)
  · intro call hnew
    cases call with
    | restart config =>
      cases hr : initializeProvider py config s with
      | error e => simp only [ProviderCall.run, hr]
      | ok x =>
        simp only [ProviderCall.run, hr]
        exact (conserved_restart hr hpin hc).2
    | apply config request now =>
      cases hr : applyPayment py config request now s with
      | error e => simp only [ProviderCall.run, hr]
      | ok x =>
        obtain ⟨⟨receipt, created⟩, s'⟩ := x
        simp only [ProviderCall.run, hr] at hnew ⊢
        rcases applyPayment_ok hr with ⟨-, rfl, -⟩ | ⟨-, c, -⟩
        · rfl
        · rcases c.outcome with ⟨-, hb, -⟩ | ⟨hst, -⟩
          · exact hb
          · have hfailed := hnew _ c.mem c.not_mem
            exact absurd (hst.symm.trans hfailed) (by decide)

end Conservation

def sampleProvider : ProviderConfig where
  context := sampleContext
  privateKey := List.replicate 32 7
  credential := "credential-of-the-sample"
  configurationDigest := "sha256:0000000000000000000000000000000000000000000000000000000000000000"
  recoveryEpoch := 1
  initialBalances := dict [("alice", .str "100"), ("bob", .str "0")]
  providerId := "synthetic-loopback-provider-v0"

theorem sampleProvider_starts : ∃ s,
    initializeProvider samplePlatform sampleProvider .empty = .ok (sampleProvider, s) :=
  ⟨_, initializeProvider_fresh sampleContext_valid (by decide +kernel) (by decide +kernel) rfl
    (by decide +kernel) (dict_wf (by simp [Json.WF]))
    (canonical_eq (by decide +kernel) (by decide +kernel)) (by decide +kernel)
    (canonicalText_eq (by decide +kernel) (by decide +kernel))
    (canonicalText_eq (by decide +kernel) (by decide +kernel))⟩

theorem sample_balances_conserved : ∃ start,
    initializeProvider samplePlatform sampleProvider .empty = .ok (sampleProvider, start) ∧
      total ([(ProviderCall.restart sampleProvider : ProviderCall samplePlatform)].foldl
        ProviderCall.run start).balances.rows = 100 := by
  obtain ⟨start, h⟩ := sampleProvider_starts
  exact ⟨start, h, (provider_conserves_balances samplePlatform _ _ start h _).1.trans
    (by decide +kernel)⟩

end VapEvidence.Payment
