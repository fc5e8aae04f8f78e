import SpendCraft.AddForms
import SpendCraft.CategoriesTab
import Mathlib.RingTheory.Coprime.Lemmas

/-!
# The Two Dialogs for a Limit

The dialog of the budget screen opens with the limit in minor units, and multiplies the number
that it shows by a hundred when it saves. The dialog of the Categories tab reads a `Double` in
major units and cuts off a hundred times it, so that an amount whose `Double` is below it can
lose a minor unit.

## Conventions

The dialog of the budget screen takes a text of at most eight digits, of any script, and
multiplies the number by a hundred in 64 bits. The dialog of the Categories tab reads a decimal
with a point or a comma; the nearest `Double`, its product with a hundred and the conversion back
are those of `Lib.Binary64`, each with its rounding. What a text denotes, `amountOf`, is an exact
number.

A `LimitEntry` is a stored budget, a number of rounds of its dialog, each of which opens the
dialog and saves it as it is, and texts for both dialogs.

## Proof

A round multiplies the limit by a hundred and wraps. A limit that was multiplied never comes back,
which is shown over the iterates: the difference to the old limit would be a multiple of `2 ^ 64`.
For the tab, the rounded product is compared with the exact number of minor units: the rounding
error is less than one, so a minor unit is lost only if the product is cut off below it.
`KeepsHundredths` is this condition on the amount.

## Main results

* `find_rounds`: a stored budget after rounds of opening the dialog and saving.
* `iterate_resaved_eq_iff`: a limit that was multiplied never comes back.
* `toLong_times_hundred_eq_iff`: when the tab keeps the minor units of an amount.
* `keepsLimits_iff`: both dialogs.
-/

namespace SpendCraft

open Kotlin Relational BudgetRepositoryImpl Binary64

/-! ### The dialog of the budget screen -/

/-- The state of the dialog: the category chosen and the text of the amount. -/
structure BudgetDialog where
  selectedCategory : Text
  amount : Text
  deriving DecidableEq, Repr

namespace BudgetDialog

/-- The dialog as it opens. -/
def initial (budget : Option Budget) : BudgetDialog :=
  { selectedCategory := (budget.map Budget.categoryId).getD []
    amount := (budget.map fun budget => intText budget.monthlyLimitMinor.toInt).getD [] }

/-- `newValue.all { it.isDigit() } && newValue.length <= 8` -/
def accepts (newValue : Text) : Bool :=
  newValue.all (fun c => (digitOf c).isSome) && decide (newValue.length ≤ 8)

/-- A text that the field does not accept leaves the old one. -/
def onValueChange (newValue : Text) (dialog : BudgetDialog) : BudgetDialog :=
  if accepts newValue then { dialog with amount := newValue } else dialog

/-- The button for saving, where it is enabled. -/
def confirm (dialog : BudgetDialog) : Option Budget :=
  if !dialog.selectedCategory.isEmpty && !dialog.amount.isEmpty then
    onSave dialog.selectedCategory dialog.amount
  else none

end BudgetDialog

/-- The times that a check of the budgets reads, and how many of its DAO calls succeed. -/
structure CheckDraws where
  keyNow : ℤ
  boundariesNow : ℤ
  calls : ℕ

/-- `updateBudget`: the budget is stored, and the breaches are checked right after. -/
def BudgetViewModel.updateBudget (draws : CheckDraws) (budget : Budget) (db : Database) :
    Database :=
  (Call.checkBudgetBreaches draws.keyNow draws.boundariesNow (upsertBudget budget db)
    draws.calls).2

/-- A round: the dialog is opened for the budget with a key, and saved. -/
def BudgetManagementScreen.resave (categoryId : Text) (db : Database) (draws : CheckDraws) :
    Database :=
  match (observeBudgets db).find? fun budget => decide (budget.categoryId = categoryId) with
  | none => db
  | some selectedBudget =>
      match (BudgetDialog.initial (some selectedBudget)).confirm with
      | none => db
      | some budget => BudgetViewModel.updateBudget draws budget db

/-! ### The dialog of the Categories tab -/

namespace AddBudgetDialog

/-- `budgetAmount.replace(',', '.')` -/
def normalized (budgetAmount : Text) : Text :=
  budgetAmount.map fun c => if c = ',' then '.' else c

/-- The amount that the button hands on. -/
def onSave (budgetAmount : Text) : Option Value :=
  (decimalOrNull (normalized budgetAmount)).map fun amount => nearest (decimalValue amount)

/-- The texts that the field of the dialog holds. -/
def Accepts (budgetAmount : Text) : Prop :=
  ∃ input, CurrencyTextField.formatInput input = budgetAmount

/-- The budget that is saved for a text. -/
def confirm (categoryId : ℤ) (budgetAmount : Text) : Option Budget :=
  (onSave budgetAmount).map (MainTabNavigation.onSaveBudget categoryId)

end AddBudgetDialog

/-! ### What limits should be -/

/-- The amount that a text denotes: digits of any script, or a decimal. -/
def amountOf (text : Text) : Option ℚ :=
  if text.isEmpty then none
  else
    match digitsValue text with
    | some n => some (n : ℚ)
    | none => (decimalOrNull (AddBudgetDialog.normalized text)).map decimalValue

/-- The limit is an amount in minor units. -/
def Budget.Denotes (budget : Budget) (amount : ℚ) : Prop :=
  (budget.monthlyLimitMinor.toInt : ℚ) = amount * 100

/-- A stored budget with rounds of its dialog, and a text for either dialog. -/
structure LimitEntry where
  db : Database
  stored : BudgetEntity
  stored_mem : stored ∈ db.budgets.rows
  rounds : List CheckDraws
  dialog : BudgetDialog
  categoryId : ℤ
  text : Text

namespace LimitEntry

variable (entry : LimitEntry)

/-- The store after the rounds of saving. -/
def afterRounds : Database :=
  entry.rounds.foldl (BudgetManagementScreen.resave entry.stored.categoryId) entry.db

/-- What the dialog of the budget screen saves, after the text was entered. -/
def dialogBudget : Option Budget :=
  (entry.dialog.onValueChange entry.text).confirm

/-- The budget that the other dialog makes of the same text. -/
def tabBudget : Option Budget :=
  AddBudgetDialog.confirm entry.categoryId entry.text

/-- **Rounds keep the limit**, and a text is stored as the amount that it denotes, in the same
way by both dialogs. -/
structure KeepsLimits : Prop where
  rounds : (entry.afterRounds.budgets.rows.find? fun budget =>
    decide (budget.categoryId = entry.stored.categoryId)) = some entry.stored
  dialog : BudgetDialog.accepts entry.text → ∀ amount ∈ amountOf entry.text,
    ∀ budget ∈ entry.dialogBudget, budget.Denotes amount
  tab : AddBudgetDialog.Accepts entry.text → ∀ amount ∈ amountOf entry.text,
    ∀ budget ∈ entry.tabBudget, budget.Denotes amount
  same : BudgetDialog.accepts entry.text → AddBudgetDialog.Accepts entry.text →
    entry.dialogBudget.map Budget.monthlyLimitMinor = entry.tabBudget.map Budget.monthlyLimitMinor

end LimitEntry

/-- A hundred times the `Double` of an amount is not cut off below its minor units: it misses
them by at most half a unit in the last place. Beyond `2 ^ 50` minor units the product has hardly
any places after the point, or none, and rounds up as well as down: there the condition compares
the product itself with the amount, and no simpler one is known. -/
def KeepsHundredths (amount : ℚ) : Prop :=
  if amount * 100 ≤ 2 ^ 50 then
    amount * 100 ≤ rounded amount * 100 + ulp (rounded amount * 100) / 2
  else min ⌊rounded (rounded amount * 100)⌋ (2 ^ 63 - 1) = amount * 100

/-- Whether an amount keeps its hundredths is computed from it. -/
instance (amount : ℚ) : Decidable (KeepsHundredths amount) :=
  inferInstanceAs (Decidable (if amount * 100 ≤ 2 ^ 50 then
      amount * 100 ≤ rounded amount * 100 + ulp (rounded amount * 100) / 2
    else min ⌊rounded (rounded amount * 100)⌋ (2 ^ 63 - 1) = amount * 100))

/-- No round saves anything; the tab keeps the minor units; and where both dialogs take the text,
it is an amount for a category. -/
structure LimitEntry.KeepsUnits (entry : LimitEntry) : Prop where
  rounds : entry.rounds = [] ∨ entry.stored.categoryId = [] ∨
    entry.stored.monthlyLimitMinor * 100 ≤ 0
  tab : AddBudgetDialog.Accepts entry.text → ∀ amount ∈ amountOf entry.text,
    KeepsHundredths amount
  same : BudgetDialog.accepts entry.text → AddBudgetDialog.Accepts entry.text →
    ∀ amount ∈ amountOf entry.text, entry.dialog.selectedCategory ≠ [] ∧ 0 < amount

/-! ### Rounds -/

/-- What a round makes of a limit. -/
def BudgetDialog.resaved (categoryId : Text) (limit : Int64) : Int64 :=
  if categoryId ≠ [] ∧ 0 < limit * 100 then limit * 100 else limit

section Rounds

variable {categoryId : Text} {limit : Int64}

/-- The dialog as it opens saves a hundred times the limit. -/
theorem BudgetDialog.confirm_initial :
    (initial (some { categoryId := categoryId, monthlyLimitMinor := limit })).confirm =
      if categoryId ≠ [] ∧ 0 < limit * 100 then
        some { categoryId := categoryId, monthlyLimitMinor := limit * 100 }
      else none := by
  have hamount : intText limit.toInt ≠ [] := by
    rw [intText]
    split_ifs
    · exact List.cons_ne_nil _ _
    · exact Nat.toDigits_ne_nil
  have hminor : ((toLongOrNull (intText limit.toInt)).map fun n => Int64.ofInt n * 100).getD 0 =
      limit * 100 := by
    rw [toLongOrNull_intText, if_pos ⟨limit.le_toInt, limit.toInt_lt⟩, Option.map_some,
      Option.getD_some, Int64.ofInt_toInt]
  rw [confirm]
  simp only [initial, Option.map_some, Option.getD_some]
  rw [onSave]
  simp only [hminor]
  by_cases hcategory : categoryId = []
  · simp [hcategory]
  · simp [hcategory, hamount]

/-- **One round.** -/
theorem BudgetManagementScreen.find_resave {db : Database}
    (h : (db.budgets.rows.find? fun budget => decide (budget.categoryId = categoryId)) =
      some { categoryId := categoryId, monthlyLimitMinor := limit }) (draws : CheckDraws) :
    ((resave categoryId db draws).budgets.rows.find? fun budget =>
        decide (budget.categoryId = categoryId)) =
      some { categoryId := categoryId
             monthlyLimitMinor := BudgetDialog.resaved categoryId limit } := by
  have hselected : ((observeBudgets db).find? fun budget =>
      decide (budget.categoryId = categoryId)) =
        some { categoryId := categoryId, monthlyLimitMinor := limit } := by
    rw [observeBudgets, List.find?_map]
    exact congrArg (Option.map _) h
  rw [resave, hselected]
  dsimp only
  rw [BudgetDialog.confirm_initial, BudgetDialog.resaved]
  split_ifs with hsaves
  · dsimp only
    rw [BudgetViewModel.updateBudget, Call.checkBudgetBreaches, Call.budgets_run]
    exact (db.budgets.find?_key_insertOrReplace _ _).trans (if_pos rfl)
  · exact h

/-- **Rounds.** -/
theorem BudgetManagementScreen.find_rounds {db : Database}
    (h : (db.budgets.rows.find? fun budget => decide (budget.categoryId = categoryId)) =
      some { categoryId := categoryId, monthlyLimitMinor := limit }) (rounds : List CheckDraws) :
    ((rounds.foldl (resave categoryId) db).budgets.rows.find? fun budget =>
        decide (budget.categoryId = categoryId)) =
      some { categoryId := categoryId
             monthlyLimitMinor := (BudgetDialog.resaved categoryId)^[rounds.length] limit } := by
  induction rounds generalizing db limit with
  | nil => exact h
  | cons draws rounds ih =>
      rw [List.foldl_cons, List.length_cons, Function.iterate_succ_apply]
      exact ih (find_resave h draws)

/-- A limit is multiplied a number of times, in 64 bits. -/
theorem BudgetDialog.exists_toInt_iterate_resaved (n : ℕ) :
    ∃ j, ((resaved categoryId)^[n] limit).toInt = (limit.toInt * 100 ^ j).bmod (2 ^ 64) := by
  have hhundred : (100 : Int64).toInt = 100 := rfl
  induction n with
  | zero =>
      refine ⟨0, ?_⟩
      rw [Function.iterate_zero_apply, pow_zero, mul_one]
      exact (Int64.toInt_bmod limit).symm
  | succ n ih =>
      obtain ⟨j, hj⟩ := ih
      rw [Function.iterate_succ_apply', resaved]
      split_ifs
      · refine ⟨j + 1, ?_⟩
        rw [Int64.toInt_mul, hj, hhundred, Int.bmod_mul_bmod, pow_succ (100 : ℤ), mul_assoc]
      · exact ⟨j, hj⟩

/-- **A limit that was multiplied never comes back**: `100 ^ j - 1` is odd. -/
theorem BudgetDialog.eq_zero_of_bmod {x : ℤ} {j : ℕ} (hlow : -2 ^ 63 ≤ x) (hhigh : x < 2 ^ 63)
    (h : (x * 100 ^ (j + 1)).bmod (2 ^ 64) = x) : x = 0 := by
  have hdvd : (2 ^ 64 : ℤ) ∣ x * (100 ^ (j + 1) - 1) := by
    have hsub := Int.dvd_self_sub_bmod (x := x * 100 ^ (j + 1)) (m := 2 ^ 64)
    rw [h] at hsub
    rw [mul_sub, mul_one]
    exact_mod_cast hsub
  have hcoprime : IsCoprime (2 ^ 64 : ℤ) (100 ^ (j + 1) - 1) := by
    apply IsCoprime.pow_left
    exact ⟨50 * 100 ^ j, -1, by ring⟩
  have hx := hcoprime.dvd_of_dvd_mul_right hdvd
  apply Int.eq_zero_of_abs_lt_dvd hx
  rw [abs_lt]
  omega

/-- Saving a budget again keeps its limit exactly if nothing is saved or a hundred times the limit
is not positive. -/
theorem BudgetDialog.iterate_resaved_eq_iff {n : ℕ} :
    (resaved categoryId)^[n] limit = limit ↔ n = 0 ∨ categoryId = [] ∨ limit * 100 ≤ 0 := by
  have hhundred : (100 : Int64).toInt = 100 := rfl
  by_cases hsaves : categoryId ≠ [] ∧ 0 < limit * 100
  · have hnot : ¬(categoryId = [] ∨ limit * 100 ≤ 0) := by
      rintro (hempty | hle)
      · exact hsaves.1 hempty
      · exact Int64.not_lt.mpr hle hsaves.2
    rw [or_iff_left hnot]
    cases n with
    | zero => exact iff_of_true rfl rfl
    | succ n =>
        refine iff_of_false ?_ (Nat.succ_ne_zero n)
        intro heq
        have hfirst : resaved categoryId limit = limit * 100 := if_pos hsaves
        obtain ⟨j, hj⟩ := @exists_toInt_iterate_resaved categoryId (limit * 100) n
        rw [Function.iterate_succ_apply, hfirst] at heq
        rw [heq, Int64.toInt_mul, hhundred, Int.bmod_mul_bmod, mul_assoc, ← pow_succ'] at hj
        have hzero : limit = 0 :=
          Int64.toInt_inj.mp (eq_zero_of_bmod limit.le_toInt limit.toInt_lt hj.symm)
        rw [hzero] at hsaves
        exact absurd hsaves.2 (by decide)
  · have hfixed : resaved categoryId limit = limit := if_neg hsaves
    rw [not_and_or, not_not, Int64.not_lt] at hsaves
    exact iff_of_true (Function.iterate_fixed hfixed n) (.inr hsaves)

end Rounds

/-- The stored budget is the same after any rounds under that condition. -/
theorem LimitEntry.rounds_iff (entry : LimitEntry) :
    (entry.afterRounds.budgets.rows.find? fun budget =>
        decide (budget.categoryId = entry.stored.categoryId)) = some entry.stored ↔
      entry.rounds = [] ∨ entry.stored.categoryId = [] ∨
        entry.stored.monthlyLimitMinor * 100 ≤ 0 := by
  have hfound := Table.find?_key_of_mem entry.stored_mem
  rw [afterRounds, BudgetManagementScreen.find_rounds hfound, Option.some_inj,
    ← List.length_eq_zero_iff, ← BudgetDialog.iterate_resaved_eq_iff]
  exact ⟨fun heq => congrArg BudgetEntity.monthlyLimitMinor heq, fun heq => by rw [heq]⟩

/-! ### Texts -/

section Texts

variable {text : Text}

/-- The field of the tab holds digits, points and commas. -/
theorem AddBudgetDialog.digitsAnd_of_accepts (h : Accepts text) : DigitsAnd ['.', ','] text := by
  obtain ⟨input, rfl⟩ := h
  have hclean : DigitsAnd ['.', ','] (cleanedAmount input) := by
    intro c hc
    have hkept := (List.mem_filter.mp hc).2
    simp only [Bool.or_eq_true, beq_iff_eq] at hkept
    obtain (hdigit | rfl) | rfl := hkept
    · exact .inl hdigit
    · exact .inr (by decide)
    · exact .inr (by decide)
  rw [CurrencyTextField.formatInput, rawAmount]
  intro c hc
  split_ifs at hc
  · exact hclean c ((List.takeWhile_sublist _).subset (List.mem_filter.mp hc).1)
  · rw [List.mem_append, List.mem_cons] at hc
    obtain hwhole | rfl | hdecimal := hc
    · exact hclean c ((List.takeWhile_sublist _).subset (List.mem_filter.mp hwhole).1)
    · exact .inr (by decide)
    · have hdropped := List.mem_of_mem_drop (List.mem_of_mem_take hdecimal)
      exact hclean c ((List.dropWhile_sublist _).subset hdropped)

/-- Its texts denote what they are read as. -/
theorem amountOf_of_accepts (h : AddBudgetDialog.Accepts text) :
    amountOf text = (decimalOrNull (AddBudgetDialog.normalized text)).map decimalValue := by
  have hchars := AddBudgetDialog.digitsAnd_of_accepts h
  rw [amountOf]
  split_ifs with hempty
  · rw [List.isEmpty_iff.mp hempty]
    rfl
  · by_cases hmark : ∃ c ∈ text, c.isDigit = false
    · obtain ⟨c, hc, hdigit⟩ := hmark
      have hnone : digitOf c = none := by
        obtain hisDigit | hcase := hchars c hc
        · rw [hdigit] at hisDigit
          cases hisDigit
        · rw [List.mem_cons, List.mem_singleton] at hcase
          obtain rfl | rfl := hcase
          · rfl
          · rfl
      rw [digitsValue_eq_none hc hnone]
    · -- digits are a numeral without a point
      have hdigits : ∀ c ∈ text, c.isDigit = true := by
        intro c hc
        by_contra hnot
        exact hmark ⟨c, hc, Bool.eq_false_of_not_eq_true hnot⟩
      have hpoint : '.' ∉ text := by
        intro hmem
        cases hdigits '.' hmem
      have hcomma : ',' ∉ text := by
        intro hmem
        cases hdigits ',' hmem
      have hnormalized : AddBudgetDialog.normalized text = text := map_replace_of_not_mem hcomma
      rw [List.isEmpty_iff] at hempty
      rw [hnormalized, decimalOrNull_whole hpoint hempty, digitsValue, foldlM_digitOf hdigits,
        Option.map_some, decimalValue, pow_zero, div_one]

/-- There are at most two decimals. -/
theorem AddBudgetDialog.exists_minorUnits (h : Accepts text) {amount : Decimal}
    (hamount : decimalOrNull (normalized text) = some amount) :
    ∃ n : ℕ, decimalValue amount * 100 = n := by
  obtain ⟨input, rfl⟩ := h
  have hscale := @IOSAddTransactionScreen.scale_le_two
    { typed := input, note := [], isIncome := false, selectedCategory := none, selectedDate := 0 }
    amount hamount
  exact ⟨wholeMinorUnits amount, decimalValue_mul_hundred hscale⟩

/-! ### Limits from texts -/

variable {amount : ℚ} {categoryId : ℤ}

/-- An amount of whole hundredths is not negative. -/
theorem nonneg_of_mul_hundred {n : ℕ} (h : amount * 100 = n) : 0 ≤ amount := by
  have hn : (0 : ℚ) ≤ n := Nat.cast_nonneg n
  linarith

/-- **When the tab keeps the minor units** of an amount. -/
theorem toLong_times_hundred_eq_iff {n : ℕ} (h : amount * 100 = n) :
    (((nearest amount).times 100).toLong : ℚ) = amount * 100 ↔ KeepsHundredths amount := by
  have hnonneg := nonneg_of_mul_hundred h
  rw [KeepsHundredths, h]
  split_ifs with hle
  · have hle' : n ≤ 2 ^ 50 := by exact_mod_cast hle
    have hiff := @toLong_times_eq_iff amount 100 n hnonneg (by norm_num) (by norm_num) hle' h
    rw [Nat.cast_ofNat] at hiff
    rw [← hiff]
    exact_mod_cast Iff.rfl
  · rw [toLong_times_nearest hnonneg (by norm_num), Nat.cast_ofNat]

/-- The `Double` of 0.29 is below it. -/
example : ¬KeepsHundredths (29 / 100) := by decide +kernel

/-- The budget that the tab saves denotes the typed amount exactly if that keeps its hundredths.
-/
theorem denotes_onSaveBudget_iff {n : ℕ} (h : amount * 100 = n) :
    (MainTabNavigation.onSaveBudget categoryId (nearest amount)).Denotes amount ↔
      KeepsHundredths amount := by
  have hnonneg := nonneg_of_mul_hundred h
  have hlong := toLong_times_nearest (k := 100) hnonneg (by norm_num)
  have hfloor : 0 ≤ ⌊rounded (rounded amount * (100 : ℕ))⌋ :=
    Int.floor_nonneg.mpr (rounded_nonneg (mul_nonneg (rounded_nonneg hnonneg) (by norm_num)))
  rw [← toLong_times_hundred_eq_iff h, Budget.Denotes, MainTabNavigation.onSaveBudget]
  dsimp only
  rw [Int64.toInt_ofInt_of_le (by omega) (by omega)]

/-- Whole amounts are kept. -/
theorem keepsHundredths_natCast {n : ℕ} (h : n < 10 ^ 8) : KeepsHundredths n := by
  have hproduct : (n : ℚ) * 100 = (n * 100 : ℕ) := by push_cast; rfl
  rw [← toLong_times_hundred_eq_iff hproduct]
  have hexact := @toLong_times_of_zpow n 100 (n * 100) 0 (by omega) (by norm_num) (by norm_num)
    (by norm_num) (by omega) (by push_cast; ring)
  rw [zpow_zero, mul_one] at hexact
  rw [hexact, hproduct]
  rfl

/-- What the dialog of the budget screen saves for digits. -/
theorem BudgetDialog.confirm_onValueChange {n : ℕ} (h : accepts text) (hne : text ≠ [])
    (hn : digitsValue text = some n) (hlt : n < 10 ^ 8) (dialog : BudgetDialog) :
    (dialog.onValueChange text).confirm =
      if dialog.selectedCategory ≠ [] ∧ 0 < n then
        some { categoryId := dialog.selectedCategory
               monthlyLimitMinor := Int64.ofInt (n * 100) }
      else none := by
  have hdigits : ∀ c ∈ text, (digitOf c).isSome = true := by
    rw [accepts, Bool.and_eq_true, List.all_eq_true] at h
    exact h.1
  have hminor : ((toLongOrNull text).map fun n => Int64.ofInt n * 100).getD 0 =
      Int64.ofInt (n * 100) := by
    rw [toLongOrNull_of_digitsValue hne hdigits hn (by omega), Option.map_some, Option.getD_some,
      Int64.ofInt_mul]
    rfl
  have hpos : 0 < Int64.ofInt (n * 100) ↔ 0 < n := by
    rw [Int64.lt_iff_toInt_lt, Int64.toInt_ofInt_of_le (by omega) (by omega), Int64.toInt_zero]
    omega
  rw [onValueChange, if_pos h, confirm, onSave]
  simp only [hminor, hpos]
  by_cases hcategory : dialog.selectedCategory = []
  · simp [hcategory]
  · simp [hcategory, hne]

/-- The digits that the dialog of the budget screen takes. -/
theorem BudgetDialog.exists_digitsValue_of_accepts (h : accepts text) :
    ∃ n, digitsValue text = some n ∧ n < 10 ^ 8 := by
  rw [accepts, Bool.and_eq_true, List.all_eq_true, decide_eq_true_iff] at h
  obtain ⟨n, hn, hlt⟩ := exists_digitsValue h.1
  exact ⟨n, hn, hlt.trans_le (Nat.pow_le_pow_right (by norm_num) h.2)⟩

/-- A text of digits denotes its number. -/
theorem amountOf_of_digitsValue {n : ℕ} (hne : text ≠ []) (hn : digitsValue text = some n) :
    amountOf text = some (n : ℚ) := by
  rw [amountOf, if_neg (by rwa [List.isEmpty_iff]), hn]

end Texts

/-! ### Both dialogs -/

namespace LimitEntry

variable (entry : LimitEntry)

/-- The dialog of the budget screen saves the amount, or nothing. -/
theorem denotes_of_mem_dialogBudget (h : BudgetDialog.accepts entry.text) {amount : ℚ}
    (hamount : amount ∈ amountOf entry.text) {budget : Budget}
    (hbudget : budget ∈ entry.dialogBudget) : budget.Denotes amount := by
  have hne : entry.text ≠ [] := by
    intro hempty
    rw [hempty] at hamount
    cases hamount
  obtain ⟨n, hn, hlt⟩ := BudgetDialog.exists_digitsValue_of_accepts h
  rw [amountOf_of_digitsValue hne hn, Option.mem_some_iff] at hamount
  rw [dialogBudget, BudgetDialog.confirm_onValueChange h hne hn hlt] at hbudget
  split_ifs at hbudget
  · obtain rfl := Option.mem_some_iff.mp hbudget
    rw [Budget.Denotes, Int64.toInt_ofInt_of_le (by omega) (by omega), ← hamount]
    push_cast
    rfl
  · cases hbudget

/-- The tab saves what was typed under that condition. -/
theorem tab_iff (h : AddBudgetDialog.Accepts entry.text) :
    (∀ amount ∈ amountOf entry.text, ∀ budget ∈ entry.tabBudget, budget.Denotes amount) ↔
      ∀ amount ∈ amountOf entry.text, KeepsHundredths amount := by
  rw [tabBudget, AddBudgetDialog.confirm, AddBudgetDialog.onSave, amountOf_of_accepts h]
  cases hread : decimalOrNull (AddBudgetDialog.normalized entry.text) with
  | none => simp
  | some amount =>
      obtain ⟨n, hn⟩ := AddBudgetDialog.exists_minorUnits h hread
      simp only [Option.map_some, Option.mem_some_iff, forall_eq', denotes_onSaveBudget_iff hn]

/-- Both dialogs save the same limit exactly if the first one has a category and a positive
amount. -/
theorem same_iff (h : BudgetDialog.accepts entry.text)
    (h' : AddBudgetDialog.Accepts entry.text) :
    entry.dialogBudget.map Budget.monthlyLimitMinor =
        entry.tabBudget.map Budget.monthlyLimitMinor ↔
      ∀ amount ∈ amountOf entry.text, entry.dialog.selectedCategory ≠ [] ∧ 0 < amount := by
  rw [dialogBudget, tabBudget, AddBudgetDialog.confirm, AddBudgetDialog.onSave]
  obtain hempty | hne := eq_or_ne entry.text []
  · have hclosed : (entry.dialog.onValueChange []).confirm = none := by
      rw [BudgetDialog.onValueChange, if_pos (by decide), BudgetDialog.confirm,
        if_neg (by simp)]
    rw [hempty, hclosed]
    exact iff_of_true rfl nofun
  · obtain ⟨n, hn, hlt⟩ := BudgetDialog.exists_digitsValue_of_accepts h
    have hamount := amountOf_of_digitsValue hne hn
    obtain ⟨amount, hread, hvalue⟩ :=
      Option.map_eq_some_iff.mp ((amountOf_of_accepts h').symm.trans hamount)
    have hdenotes := (@denotes_onSaveBudget_iff n entry.categoryId (n * 100)
      (by push_cast; rfl)).mpr (keepsHundredths_natCast hlt)
    have hlimit : (MainTabNavigation.onSaveBudget entry.categoryId
        (nearest n)).monthlyLimitMinor = Int64.ofInt (n * 100) := by
      rw [Budget.Denotes] at hdenotes
      rw [← Int64.toInt_inj, Int64.toInt_ofInt_of_le (by omega) (by omega)]
      exact_mod_cast hdenotes
    rw [hread, Option.map_some, hvalue, Option.map_some, Option.map_some, hlimit, hamount,
      BudgetDialog.confirm_onValueChange h hne hn hlt]
    simp only [Option.mem_some_iff, forall_eq', Nat.cast_pos]
    split_ifs with hsaves
    · exact iff_of_true rfl hsaves
    · exact iff_of_false nofun hsaves

/-- **When rounds keep the limit and texts are stored as they are meant.** -/
theorem keepsLimits_iff : entry.KeepsLimits ↔ entry.KeepsUnits := by
  constructor
  · intro h
    exact
      { rounds := entry.rounds_iff.mp h.rounds
        tab := fun htab => (entry.tab_iff htab).mp (h.tab htab)
        same := fun hdialog htab => (entry.same_iff hdialog htab).mp (h.same hdialog htab) }
  · intro h
    exact
      { rounds := entry.rounds_iff.mpr h.rounds
        dialog := fun hdialog _ hamount _ => entry.denotes_of_mem_dialogBudget hdialog hamount
        tab := fun htab => (entry.tab_iff htab).mpr (h.tab htab)
        same := fun hdialog htab => (entry.same_iff hdialog htab).mpr (h.same hdialog htab) }

end LimitEntry

/-- A budget of 500 with one round, and 0.29 for the tab. -/
def marketEntry : LimitEntry :=
  { db :=
      { Database.empty with
        budgets := (Table.empty _).insertOrReplace
          { categoryId := "Market".toList, monthlyLimitMinor := 50000 } }
    stored := { categoryId := "Market".toList, monthlyLimitMinor := 50000 }
    stored_mem := by decide
    rounds := [{ keyNow := 0, boundariesNow := 0, calls := 0 }]
    dialog := .initial none
    categoryId := 1
    text := "0.29".toList }

/-- The round makes 50000 of the 500, and the tab stores 0.28. -/
theorem not_keepsLimits_market :
    marketEntry.afterRounds.budgets.rows =
        [{ categoryId := "Market".toList, monthlyLimitMinor := 5000000 }] ∧
      marketEntry.tabBudget.map Budget.monthlyLimitMinor = some 28 ∧
      ¬marketEntry.KeepsLimits := by
  refine ⟨by decide +kernel, by decide +kernel, ?_⟩
  intro h
  obtain hnone | hempty | hle := marketEntry.rounds_iff.mp h.rounds
  · cases hnone
  · cases hempty
  · exact absurd hle (by decide)

end SpendCraft
