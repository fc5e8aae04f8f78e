import SpendCraft.Ios.SavedBudgets
import Mathlib.Data.Nat.Find

/-!
# Limits that are Saved Again in the iOS App

`AddBudgetView` shows a limit with two decimals and saves `Int64(monthlyLimit * 100)`, which cuts
off the fraction. Some limits come out smaller by one than they went in, though nothing was typed.
Each time that such a form is saved again the limit goes down, until a limit is reached that is
kept. The limits that are multiples of 25 are among those.

## Conventions

A limit is a number of minor units up to `2 ^ 50`. The form shows it with two decimals, reads the
text as a double, multiplies it by a hundred and cuts off the fraction. What is saved is one
function of the limit, `savedAgain`. A form that is reopened is opened, saved if its button is
enabled, and closed otherwise.

## Proof

That the function goes down by one at most is the error of a double (`Lib.Binary64`), and that a
multiple of 25 is kept follows since a quarter is a double. The rest is a fact about such
functions on the natural numbers: iterating one stops at its greatest fixed point below the start.
The form and the table of the budgets are then followed through the rounds, by the module
`SavedBudgets`.

## Main results

* `iterate_eq_max`: a function that goes down by one at most stops at its greatest fixed point.
* `BudgetApp.limit_reopened_run`: the limit after any number of saves of the untouched form.
-/

namespace SpendCraft.Ios

open Kotlin Relational Machine Binary64

/-! ### Going down by one -/

/-- What goes down by one at most, from `n` on, stops at the greatest fixed point. -/
theorem iterate_eq_max {f : ℕ → ℕ} {bound : ℕ} (hf : ∀ k ≤ bound, k - 1 ≤ f k ∧ f k ≤ k)
    (rounds : ℕ) {n : ℕ} (hn : n ≤ bound) :
    f^[rounds] n = max (n - rounds) (Nat.findGreatest (fun k => f k = k) n) := by
  induction rounds generalizing n with
  | zero => exact (max_eq_left (Nat.findGreatest_le n)).symm
  | succ rounds ih =>
      obtain ⟨hge, hle⟩ := hf n hn
      rw [Function.iterate_succ_apply, ih (hle.trans hn)]
      by_cases hfix : f n = n
      · have hgreatest : Nat.findGreatest (fun k => f k = k) n = n := Nat.findGreatest_eq hfix
        rw [hfix, hgreatest, max_eq_right (Nat.sub_le _ _), max_eq_right (Nat.sub_le _ _)]
      · cases n with
        | zero => omega
        | succ n =>
            have hdown : f (n + 1) = n := by omega
            have hbelow : Nat.findGreatest (fun k => f k = k) (n + 1) =
                Nat.findGreatest (fun k => f k = k) n := Nat.findGreatest_of_not hfix
            rw [hdown, hbelow, Nat.add_sub_add_right]

/-! ### One save -/

/-- The double that the form reads from its own text for a limit. -/
def shownAmount (limit : ℕ) : Value :=
  nearest (decimalValue { unscaled := limit, scale := 2 })

/-- What is saved for the untouched form of a limit. -/
def savedAgain (limit : ℕ) : ℕ :=
  ((BudgetViewModel.minorUnits (shownAmount limit)).map Int.toNat).getD limit

/-- An amount whose hundredths fit is stored as they are cut. -/
theorem minorUnits_eq (amount : Value) (h : (amount.times 100).toLong < 2 ^ 63 - 1) :
    BudgetViewModel.minorUnits amount = some (amount.times 100).toLong := by
  rw [BudgetViewModel.minorUnits]
  cases hproduct : amount.times 100 with
  | infinity =>
      rw [hproduct, Value.toLong] at h
      exact absurd h (lt_irrefl _)
  | finite x =>
      rw [hproduct, Value.toLong, min_lt_iff] at h
      have hlt : ⌊x⌋ < 2 ^ 63 - 1 := h.resolve_right (lt_irrefl _)
      simp only [Value.toLong]
      rw [if_pos (by omega), min_eq_left (by omega)]

/-- The decimal of a limit denotes its hundredths. -/
theorem decimalValue_mul (limit : ℕ) :
    decimalValue { unscaled := limit, scale := 2 } * (100 : ℕ) = limit := by
  simp only [decimalValue]
  norm_num

/-- Quarters are numbers of the format. -/
theorem toLong_shownAmount_of_dvd {limit : ℕ} (hdvd : 25 ∣ limit) (h : limit ≤ 2 ^ 50) :
    ((shownAmount limit).times 100).toLong = limit := by
  obtain ⟨quarters, rfl⟩ := hdvd
  have hvalue : decimalValue { unscaled := 25 * quarters, scale := 2 } =
      (quarters : ℚ) * 2 ^ (-2 : ℤ) := by
    simp only [decimalValue]
    push_cast
    norm_num
    ring
  rw [shownAmount, hvalue]
  refine toLong_times_of_zpow (by omega) (by norm_num) (by norm_num) (by norm_num) h ?_
  push_cast
  norm_num
  ring

/-- What the form makes of its own text is the limit or one less. -/
theorem toLong_shownAmount {limit : ℕ} (h : limit ≤ 2 ^ 50) :
    (limit : ℤ) - 1 ≤ ((shownAmount limit).times 100).toLong ∧
      ((shownAmount limit).times 100).toLong ≤ limit := by
  have hlimit : decimalValue { unscaled := limit, scale := 2 } * (100 : ℕ) ≤ 2 ^ 50 := by
    rw [decimalValue_mul]
    exact_mod_cast h
  have hbounds := toLong_times_bounds (CsvParser.decimalValue_nonneg _) (by norm_num)
    (by norm_num) hlimit
  rw [decimalValue_mul] at hbounds
  obtain ⟨hlow, hhigh⟩ := hbounds
  rw [shownAmount]
  generalize ((nearest (decimalValue { unscaled := limit, scale := 2 })).times 100).toLong = saved
    at hlow hhigh
  have hge : ((limit : ℤ) - 2 : ℚ) < saved := by
    push_cast
    linarith
  have hle : (saved : ℚ) < (limit : ℤ) + 1 := by
    push_cast
    linarith
  have hge' : (limit : ℤ) - 2 < saved := by exact_mod_cast hge
  have hle' : saved < (limit : ℤ) + 1 := by exact_mod_cast hle
  omega

/-- A limit goes down by one at most. -/
theorem minorUnits_shownAmount {limit : ℕ} (h : limit ≤ 2 ^ 50) :
    BudgetViewModel.minorUnits (shownAmount limit) = some (savedAgain limit : ℤ) ∧
      limit - 1 ≤ savedAgain limit ∧ savedAgain limit ≤ limit := by
  obtain ⟨hlow, hhigh⟩ := toLong_shownAmount h
  have hnonneg : 0 ≤ ((shownAmount limit).times 100).toLong := by
    obtain rfl | hpos := Nat.eq_zero_or_pos limit
    · exact (toLong_shownAmount_of_dvd (dvd_zero 25) h).ge
    · omega
  have hsaved := minorUnits_eq (shownAmount limit) (by omega)
  have hagain : savedAgain limit = ((shownAmount limit).times 100).toLong.toNat := by
    rw [savedAgain, hsaved]
    rfl
  rw [hsaved, hagain, Int.toNat_of_nonneg hnonneg]
  exact ⟨rfl, by omega, by omega⟩

/-- A multiple of 25 is kept. -/
theorem savedAgain_of_dvd {limit : ℕ} (hdvd : 25 ∣ limit) (h : limit ≤ 2 ^ 50) :
    savedAgain limit = limit := by
  have hkept := toLong_shownAmount_of_dvd hdvd h
  have hsaved := minorUnits_eq (shownAmount limit) (by omega)
  rw [savedAgain, hsaved, hkept]
  rfl

/-! ### The form -/

/-- The form opens with the exact text of the limit. -/
theorem twoDecimals_majorUnits {limit : ℕ} (h : limit ≤ 2 ^ 50) :
    twoDecimals (majorUnits limit) = CsvExporter.amountText .point limit := by
  have habs : |(limit : ℤ)| ≤ 2 ^ 50 := by
    rw [Nat.abs_cast]
    exact_mod_cast h
  have hsign : ¬ majorUnits limit < 0 := by
    rw [CurrencyFormatter.majorUnits_neg_iff habs]
    exact not_lt.mpr (Int.natCast_nonneg limit)
  have hhundredths : roundHalfEven (|majorUnits limit| * 100) = limit := by
    have hnonneg : 0 ≤ roundHalfEven (|majorUnits limit| * 100) :=
      roundHalfEven_nonneg (by positivity)
    rw [← Int.toNat_of_nonneg hnonneg, CurrencyFormatter.roundHalfEven_majorUnits habs,
      Int.natAbs_natCast]
  rw [twoDecimals, if_neg hsign, List.nil_append, hhundredths]

/-- A positive limit opens as a positive amount. -/
theorem rounded_pos {limit : ℕ} (hpos : 0 < limit) :
    0 < rounded (decimalValue { unscaled := limit, scale := 2 }) := by
  have hlimit : (1 : ℚ) ≤ limit := by exact_mod_cast hpos
  have hvalue : decimalValue { unscaled := limit, scale := 2 } = (limit : ℚ) / 100 := by
    simp only [decimalValue]
    norm_num
  have herror := (abs_lt.mp (abs_rounded_sub_lt (x := (limit : ℚ) / 100) (by positivity))).1
  rw [hvalue]
  linarith

/-- The amount of the untouched form. -/
theorem amount_appear (category : ℤ) {budget : BudgetObject} {limit : ℕ}
    (hlimit : budget.monthlyLimitMinor = limit) (h : limit ≤ 2 ^ 50) :
    (AddBudgetView.appear category (some budget)).amount =
      if limit = 0 then none else some (shownAmount limit) := by
  have htext : (AddBudgetView.appear category (some budget)).budgetAmount =
      CsvExporter.amountText .point limit := by
    rw [← twoDecimals_majorUnits h, ← hlimit]
    rfl
  have hcomma : ',' ∉ CsvExporter.amountText .point limit :=
    (CsvExporter.digitsAnd_amountText .point limit).not_mem (by decide)
  have hread : doubleOrNil (CsvExporter.amountText .point limit) =
      some { unscaled := limit, scale := 2 } := by
    rw [doubleOrNil, if_neg hcomma, CsvExporter.decimalOrNull_amountText]
  have hvalue : decimalValue { unscaled := limit, scale := 2 } ≤ 2 ^ 51 := by
    have hcast : (limit : ℚ) ≤ 2 ^ 50 := by exact_mod_cast h
    simp only [decimalValue]
    linarith
  have hfinite : shownAmount limit =
      .finite (rounded (decimalValue { unscaled := limit, scale := 2 })) :=
    nearest_eq_finite (CsvParser.decimalValue_nonneg _) hvalue
  rw [AddBudgetView.amount, htext, hread, Option.map_some, ← shownAmount, hfinite]
  obtain rfl | hpos := Nat.eq_zero_or_pos limit
  · have hzero : decimalValue { unscaled := 0, scale := 2 } = 0 := by
      simp only [decimalValue]
      norm_num
    rw [hzero, rounded_zero, if_pos rfl]
    exact if_pos le_rfl
  · rw [if_neg hpos.ne']
    exact if_neg (not_le.mpr (rounded_pos hpos))

/-! ### Rounds -/

/-- The row of a category shows a limit, and no form is open. -/
structure LimitShown (app : BudgetApp) (category : CategoryObject) (limit : ℕ) : Prop where
  follow : ∃ saves, BudgetsFollow saves app.budgets app.store.toObjectStore
  sheet : app.sheet = none
  present : category ∈ app.store.categories.rows
  rowLimit : app.rowLimit category = some (limit : ℤ)

namespace BudgetApp

/-- The form is opened, saved if the button is enabled, and closed otherwise. -/
def reopening (category : ℤ) (randomId : ℤ) (draws : StartDraws) : List BudgetEvent :=
  [.openBudget category, .save randomId draws, .cancel]

variable {app : BudgetApp} {category : CategoryObject} {limit : ℕ} {typeOf : Text → Text}
  {order : FetchOrder}

/-- Opening a budget and saving it shows the cut limit. -/
theorem limitShown_save {saves : List SavedLimit} (opened : BudgetApp) {view : AddBudgetView}
    (hfollow : BudgetsFollow saves opened.budgets opened.store.toObjectStore)
    (hsheet : opened.sheet = some view) (hcategory : category ∈ opened.store.categories.rows)
    (hrow : opened.rowLimit category = some (limit : ℤ)) (hle : limit ≤ 2 ^ 50)
    (hsaving : opened.saving =
      if limit = 0 then none else some (category, some (savedAgain limit : ℤ)))
    (randomId : ℤ) (draws : StartDraws) :
    LimitShown (run (step typeOf order) opened [.save randomId draws, .cancel]) category
      (savedAgain limit) := by
  have hsave : step typeOf order opened (.save randomId draws) =
      opened.saveBudget typeOf randomId draws := by
    obtain ⟨store, budgets, sheet⟩ := opened
    obtain rfl : sheet = some view := hsheet
    rfl
  rw [run_cons, run_cons, run_nil, hsave, saveBudget, hsaving]
  obtain rfl | hpos := Nat.eq_zero_or_pos limit
  · -- the button is disabled
    rw [if_pos rfl, savedAgain_of_dvd (dvd_zero 25) hle]
    obtain ⟨store, budgets, sheet⟩ := opened
    obtain rfl : sheet = some view := hsheet
    exact ⟨⟨saves, hfollow⟩, rfl, hcategory, hrow⟩
  · rw [if_neg hpos.ne']
    have hkept := hfollow.upsertBudget hcategory (savedAgain limit) randomId
    refine ⟨⟨_, hkept⟩, rfl, hcategory, ?_⟩
    exact (rowLimit_eq hkept category).trans SavedLimit.last_append_self

/-- **One round.** -/
theorem limitShown_reopening (h : LimitShown app category limit) (hle : limit ≤ 2 ^ 50)
    (randomId : ℤ) (draws : StartDraws) :
    LimitShown (run (step typeOf order) app (reopening category.objectID randomId draws)) category
      (savedAgain limit) := by
  obtain ⟨⟨saves, hfollow⟩, hsheet, hcategory, hrow⟩ := h
  obtain ⟨budget, hbudget, hlimit⟩ := Option.map_eq_some_iff.mp hrow
  have hfound : app.store.category (some category.objectID) = some category :=
    Table.find?_key_of_mem hcategory
  have hopen : step typeOf order app (.openBudget category.objectID) =
      { app with sheet := some (AddBudgetView.appear category.objectID (some budget)) } := by
    obtain ⟨store, budgets, sheet⟩ := app
    obtain rfl : sheet = none := hsheet
    rw [← hbudget]
    change BudgetApp.mk store budgets ((store.category (some category.objectID)).map _) = _
    rw [hfound]
    rfl
  have hsaving : saving { app with
      sheet := some (AddBudgetView.appear category.objectID (some budget)) } =
        if limit = 0 then none else some (category, some (savedAgain limit : ℤ)) := by
    change ((app.store.category (some category.objectID)).bind fun found =>
      (AddBudgetView.appear category.objectID (some budget)).amount.bind fun amount =>
        some (found, BudgetViewModel.minorUnits amount)) = _
    rw [hfound, Option.bind_some, amount_appear category.objectID hlimit hle]
    split_ifs
    · rfl
    · rw [Option.bind_some, (minorUnits_shownAmount hle).1]
  rw [reopening, run_cons, hopen]
  exact limitShown_save
    { app with sheet := some (AddBudgetView.appear category.objectID (some budget)) }
    hfollow rfl hcategory hrow hle hsaving randomId draws

/-- **Run lemma:** after any number of such rounds, the limit is the one cut as often. -/
theorem limitShown_reopenings (h : LimitShown app category limit) (hle : limit ≤ 2 ^ 50)
    (rounds : List (ℤ × StartDraws)) :
    LimitShown
      (run (step typeOf order) app
        (rounds.flatMap fun round => reopening category.objectID round.1 round.2))
      category (savedAgain^[rounds.length] limit) := by
  induction rounds generalizing app limit with
  | nil => exact h
  | cons round rounds ih =>
      rw [List.flatMap_cons, run_append, List.length_cons, Function.iterate_succ_apply]
      exact ih (limitShown_reopening h hle round.1 round.2)
        ((minorUnits_shownAmount hle).2.2.trans hle)

/-- **Saving again.** After any run, each save of the untouched form of a category takes one off
the limit, until the next limit below that is kept; a multiple of 25 is. -/
theorem limit_reopened_run (typeOf : Text → Text) (order : FetchOrder) (draws : StartDraws)
    (events : List BudgetEvent) (category : CategoryObject) (limit : ℕ)
    (rounds : List (ℤ × StartDraws)) :
    let app := run (step typeOf order) (fresh typeOf draws) events
    let app' := run (step typeOf order) app
      (rounds.flatMap fun round => reopening category.objectID round.1 round.2)
    let kept := Nat.findGreatest (fun limit => savedAgain limit = limit) limit
    app.sheet = none → category ∈ app.store.categories.rows →
      app.rowLimit category = some (limit : ℤ) → limit ≤ 2 ^ 50 →
        app'.rowLimit category = some ((max (limit - rounds.length) kept : ℕ) : ℤ) ∧
          25 * (limit / 25) ≤ kept := by
  intro app app' kept hsheet hcategory hrow hle
  have hfollow : BudgetsFollow _ app.budgets app.store.toObjectStore := follow_run draws events
  have hshown : LimitShown app' category (savedAgain^[rounds.length] limit) :=
    limitShown_reopenings ⟨⟨_, hfollow⟩, hsheet, hcategory, hrow⟩ hle rounds
  have hbelow : ∀ k ≤ 2 ^ 50, k - 1 ≤ savedAgain k ∧ savedAgain k ≤ k :=
    fun k hk => (minorUnits_shownAmount hk).2
  constructor
  · rw [hshown.rowLimit, iterate_eq_max hbelow rounds.length hle]
  · have hquarters : savedAgain (25 * (limit / 25)) = 25 * (limit / 25) :=
      savedAgain_of_dvd (dvd_mul_right 25 _) ((Nat.mul_div_le limit 25).trans hle)
    exact Nat.le_findGreatest (Nat.mul_div_le limit 25) hquarters

/-- The first category of a new installation. -/
def food : CategoryObject :=
  { objectID := 1
    id := 1
    name := "Gıda".toList
    color := "#FF6347".toList
    icon := some "fork.knife".toList
    type := some "expense".toList }

/-- The draws of the first start: the ids count up. -/
def foodDraws : StartDraws :=
  { randomIds := fun n => n + 1
    randomAccountId := 1 }

/-- A limit of 1.16 is saved as 1.15, and three more saves of the untouched form make 1.12 of it. -/
theorem limit_reopened_run_food :
    let app := run (step (fun _ => []) FetchOrder.creation) (fresh (fun _ => []) foodDraws)
      [.openBudget 1, .type "1.16".toList, .save 7 foodDraws]
    app.rowLimit food = some 115 ∧
      (run (step (fun _ => []) FetchOrder.creation) app
        ([(7, foodDraws), (7, foodDraws), (7, foodDraws)].flatMap fun round =>
          reopening food.objectID round.1 round.2)).rowLimit food = some 112 := by
  intro app
  have hsheet : app.sheet = none := by decide +kernel
  have hcategory : food ∈ app.store.categories.rows := by decide +kernel
  have hrow : app.rowLimit food = some 115 := by decide +kernel
  have hkept : Nat.findGreatest (fun limit => savedAgain limit = limit) 115 = 112 := by
    decide +kernel
  have hreopened := (limit_reopened_run (fun _ => []) FetchOrder.creation foodDraws
    [.openBudget 1, .type "1.16".toList, .save 7 foodDraws] food 115
    [(7, foodDraws), (7, foodDraws), (7, foodDraws)] hsheet hcategory hrow (by norm_num)).1
  rw [hkept] at hreopened
  exact ⟨hrow, hreopened⟩

end BudgetApp

end SpendCraft.Ios
