import SpendCraft.BudgetBreaches
import SpendCraft.CsvRecords
import SpendCraft.CsvRoundTrip
import SpendCraft.Ios.Links
import SpendCraft.Repositories
import Mathlib.Data.Nat.Cast.Field
import Mathlib.Tactic.Positivity
import Mathlib.Tactic.Ring

/-!
# The Forms for a New Transaction

Both apps have a form for a new transaction: its amount, type, category, account, date and
note. The field of the amount writes at most two decimals. The date is left out of what the
forms hand on, and the transaction is dated by the time of the save. The form of the Android
app names the default account, and hands on none.

Amounts are read and multiplied exactly here.

## Conventions

What the user does is left out except for its result: the text that was typed, the choices, and
the date. A form is the record of these, and a save is a function of the form, the store, and the
times that are read in between. The text of the amount is read exactly, as a decimal with a scale,
and not through the doubles of the two apps: the module `CurrencyField` is about typing, and other
modules are about rounding.

On the side of Android the chain of callbacks is followed from the button to the table: the route,
the view model, the use case, and the repository. A check of the budgets runs after the save and
is part of it, because it is what the source calls next.

## Proof

Each app has one new row after a save, and the property compares its columns with the form. The
columns agree by reading, save for three: the time, which is that of the save, the amount, which
has to fit 64 bits, and on Android the account, which the form names and does not hand on. The two
conditions are put together by the field of the amount: two decimals at most, so a hundred times
the amount is whole.

## Main results

* `decimalValue_mul_hundred`: an amount with at most two decimals has whole minor units.
* `storesEntered_ios_iff`, `storesEntered_android_iff`: the two apps.
* `storesEntered_iff`: when what is stored is what was entered.
-/

namespace SpendCraft

open Kotlin Relational CsvParser

/-! ### The field of the amount -/

/-- The text that the field holds for the two parts of an amount. -/
def rawAmount (integerPart decimalPart : Text) : Text :=
  if decimalPart.isEmpty then integerPart else integerPart ++ '.' :: decimalPart

/-- `Regex("[^0-9,.]")` is replaced by nothing. -/
def cleanedAmount (input : Text) : Text :=
  input.filter fun c => c.isDigit || c == ',' || c == '.'

/-- `amount * 100`, without the fraction. -/
def wholeMinorUnits (amount : Decimal) : ℕ :=
  amount.unscaled * 100 / 10 ^ amount.scale

namespace Ios

namespace CurrencyTextField

/-- The split leaves out empty parts. -/
def formatInput (currency : Text) (input : Text) : Text :=
  let decimalSep := if currency = "TRY".toList then ',' else '.'
  let cleaned := (cleanedAmount input).dropWhile (· == decimalSep)
  let integerPart := cleaned.takeWhile (· != decimalSep)
  let decimalPart := (cleaned.dropWhile (· != decimalSep)).drop 1
  rawAmount (integerPart.filter fun c => c != '.' && c != ',') (decimalPart.take 2)

end CurrencyTextField

/-- `Double(amount)`, for a text of digits, points and commas. -/
def doubleOrNil (amount : Text) : Option Decimal :=
  if ',' ∈ amount then none else decimalOrNull amount

/-- What the form shows; `typed` is what was typed into the field of the amount. -/
structure AddForm where
  currency : Text
  typed : Text
  note : Text
  selectedCategory : Option CategoryObject
  selectedAccount : Option AccountEntity
  isIncome : Bool
  date : ℤ
  isRecurring : Bool
  recurringFrequency : Text
  deriving DecidableEq, Repr

namespace AddForm

/-- The amount that the field has handed on. -/
def amount (form : AddForm) : Text :=
  CurrencyTextField.formatInput form.currency form.typed

/-- The three values that the guards unwrap. -/
def entries (form : AddForm) : Option (Decimal × CategoryObject × AccountEntity) := do
  let amountValue ← doubleOrNil form.amount
  let category ← form.selectedCategory
  let account ← form.selectedAccount
  return (amountValue, category, account)

/-- `isValid` of the form: a positive amount, a category and an account. -/
def isValid (form : AddForm) : Bool :=
  form.entries.any fun (amountValue, _, _) => decide (0 < decimalValue amountValue)

end AddForm

/-! ### Saving on iOS -/

open LinkCall in
/-- An amount that does not fit ends the app before anything is saved. The amount of the new
rule is exact, too. -/
def AddForm.saveTransaction (form : AddForm) (now randomId randomRuleId : ℤ)
    (store : LinkedStore) : LinkedStore :=
  match form.entries with
  | none => store
  | some (amountValue, category, account) =>
      if FitsInt64 (wholeMinorUnits amountValue) then
        let note := if form.note.isEmpty then none else some form.note
        let added := store.insertAll
          [assign (wholeMinorUnits amountValue) note (some category) (some account) form.isIncome
            (newTransaction randomId now)]
        if form.isRecurring then
          added.enterRecurring
            { RecurringViewModel.addRecurringTransaction randomRuleId category.name
                (decimalValue amountValue) category.id account.id form.isIncome
                form.recurringFrequency form.date none note with
              amount := wholeMinorUnits amountValue }
        else added
      else store

/-- The transaction has the values of the form. -/
structure AddForm.Shown (form : AddForm) (transaction : TransactionObject) : Prop where
  amount : ∃ amountValue, doubleOrNil form.amount = some amountValue ∧
    (transaction.amountMinor : ℚ) = decimalValue amountValue * 100
  note : transaction.note.getD [] = form.note
  isIncome : transaction.isIncome = form.isIncome
  category : ∃ category, form.selectedCategory = some category ∧
    transaction.categoryId = category.id ∧ transaction.category = some category.objectID
  account : ∃ account, form.selectedAccount = some account ∧
    transaction.accountId = account.id ∧ transaction.account = some account.objectID
  timestamp : transaction.timestampUtcMillis = form.date

end Ios

/-! ### The form of the Android app -/

namespace CurrencyTextField

/-- The text field of the Android form: a comma separates the decimals, of which two are kept. -/
def formatInput (input : Text) : Text :=
  let cleaned := cleanedAmount input
  let integerPart := (cleaned.takeWhile (· != ',')).filter (· != '.')
  let decimalPart := ((cleaned.dropWhile (· != ',')).drop 1).take 2
  rawAmount integerPart decimalPart

end CurrencyTextField

/-- What the form shows; `typed` is what was typed into the field of the amount. The account
is a label, the default one. -/
structure IOSAddTransactionScreen where
  typed : Text
  note : Text
  isIncome : Bool
  selectedCategory : Option Category
  selectedDate : ℤ
  deriving DecidableEq, Repr

namespace IOSAddTransactionScreen

/-- The amount that the field has handed on. -/
def amount (screen : IOSAddTransactionScreen) : Text :=
  CurrencyTextField.formatInput screen.typed

/-- `amount.replace(',', '.')` -/
def normalizedAmount (screen : IOSAddTransactionScreen) : Text :=
  screen.amount.map fun c => if c = ',' then '.' else c

/-- The condition on the button: a positive amount and a category. -/
def isValid (screen : IOSAddTransactionScreen) : Bool :=
  !screen.amount.isEmpty &&
    (decimalOrNull screen.normalizedAmount).any (fun amount => decide (0 < decimalValue amount)) &&
    screen.selectedCategory.isSome

end IOSAddTransactionScreen

/-! ### Saving on Android -/

/-- The transaction that `TransactionsViewModel.saveTransaction` hands to the use case. -/
def TransactionsViewModel.newTransaction (now : ℤ) (amountMinor : Int64) (note : Option Text)
    (categoryId accountId : Option ℤ) (isIncome : Bool) : Transaction :=
  { id := none
    amount := { minorUnits := amountMinor }
    timestampUtcMillis := now
    note := note
    categoryId := categoryId
    accountId := accountId
    type := if isIncome then .income else .expense }

/-- The times that `saveTransaction` reads, and how many of the DAO calls of the budget check
succeed. -/
structure SaveDraws where
  now : ℤ
  keyNow : ℤ
  boundariesNow : ℤ
  calls : ℕ

/-- The budgets are checked after the transaction is stored. -/
def TransactionsViewModel.saveTransaction (draws : SaveDraws) (amountMinor : Int64)
    (note : Option Text) (categoryId accountId : Option ℤ) (isIncome : Bool) (store : Store) :
    Store :=
  let stored := TransactionsRepositoryImpl.upsert
    (newTransaction draws.now amountMinor note categoryId accountId isIncome) store.toDatabase
  { store with
    toDatabase := (Call.checkBudgetBreaches draws.keyNow draws.boundariesNow stored
      draws.calls).2 }

/-- The callback `onSave` of each of the three routes. -/
def AppNavHost.onSave (draws : SaveDraws) (amountMinor : Int64) (note : Option Text)
    (categoryId : Option ℤ) (isIncome : Bool) (store : Store) : Store :=
  TransactionsViewModel.saveTransaction draws amountMinor note categoryId none isIncome store

/-- The button for saving. -/
def IOSAddTransactionScreen.save (screen : IOSAddTransactionScreen) (draws : SaveDraws)
    (store : Store) : Store :=
  let amountMinor := ((decimalOrNull screen.normalizedAmount).map exactMinorUnits).getD 0
  AppNavHost.onSave draws amountMinor
    (if screen.note.isEmpty then none else some screen.note)
    (screen.selectedCategory.bind Category.id) screen.isIncome store

/-- The row has the values of the form. Without a default account, it has no account. -/
structure IOSAddTransactionScreen.Shown (screen : IOSAddTransactionScreen) (store : Store)
    (row : TransactionEntity) : Prop where
  amount : ∃ amountValue, decimalOrNull screen.normalizedAmount = some amountValue ∧
    (row.amountMinor.toInt : ℚ) = decimalValue amountValue * 100
  note : row.note.getD [] = screen.note
  isIncome : row.isIncome = screen.isIncome
  category : ∃ category, screen.selectedCategory = some category ∧ row.categoryId = category.id
  account : row.accountId = (AccountDao.getDefaultAccount store).map AccountEntity.id
  timestamp : row.timestampUtcMillis = screen.selectedDate

/-! ### Saves -/

/-- A valid form of either app at the time of a save, and the store. -/
inductive AddSave
  | ios (form : Ios.AddForm) (valid : form.isValid = true) (now randomId randomRuleId : ℤ)
      (store : Ios.LinkedStore)
  | android (screen : IOSAddTransactionScreen) (valid : screen.isValid = true)
      (draws : SaveDraws) (store : Store)

namespace AddSave

/-- **What is entered is what is stored**, and it is all that the save changes of the
transactions. -/
def StoresEntered : AddSave → Prop
  | ios form _ now randomId randomRuleId store =>
      ∃ transaction, form.Shown transaction ∧
        (form.saveTransaction now randomId randomRuleId store).transactions.rows.Perm
          (transaction :: store.transactions.rows)
  | android screen _ draws store =>
      ∃ row, screen.Shown store row ∧
        (screen.save draws store).transactions.rows.Perm (row :: store.transactions.rows)

/-- The form names the time of the save, its amount fits, and it names no account that it does
not hand on. -/
def NamesDefaults : AddSave → Prop
  | ios form _ now _ _ _ =>
      form.date = now ∧ ∀ amountValue ∈ Ios.doubleOrNil form.amount,
        decimalValue amountValue * 100 < 2 ^ 63
  | android screen _ draws store =>
      screen.selectedDate = draws.now ∧
        (∀ amountValue ∈ decimalOrNull screen.normalizedAmount,
          decimalValue amountValue * 100 < 2 ^ 63) ∧
        AccountDao.getDefaultAccount store = none

end AddSave

/-! ### Amounts from the field -/

/-- With two digits after the comma at most, the amount has a scale of at most two. -/
theorem scale_le_two {integerPart decimalPart : Text} {amount : Decimal}
    (hpoint : '.' ∉ integerPart) (hlength : decimalPart.length ≤ 2)
    (h : decimalOrNull (rawAmount integerPart decimalPart) = some amount) : amount.scale ≤ 2 := by
  rw [rawAmount] at h
  split_ifs at h
  · have hne : integerPart ≠ [] := by
      rintro rfl
      cases h
    rw [decimalOrNull_whole hpoint hne] at h
    cases h
    exact Nat.zero_le 2
  · rw [scale_of_decimalOrNull hpoint h]
    exact hlength

/-- At most two decimals are whole minor units. -/
theorem decimalValue_mul_hundred {amount : Decimal} (h : amount.scale ≤ 2) :
    decimalValue amount * 100 = wholeMinorUnits amount := by
  have hdvd : 10 ^ amount.scale ∣ amount.unscaled * 100 :=
    (Nat.pow_dvd_pow 10 h).mul_left amount.unscaled
  rw [wholeMinorUnits, Nat.cast_div hdvd (by positivity), decimalValue]
  push_cast
  ring

/-- The same for the amount of the iOS form. -/
theorem Ios.AddForm.scale_le_two {form : AddForm} {amountValue : Decimal}
    (h : doubleOrNil form.amount = some amountValue) : amountValue.scale ≤ 2 := by
  rw [doubleOrNil] at h
  split_ifs at h
  refine SpendCraft.scale_le_two ?_ (List.length_take_le 2 _) h
  rw [List.mem_filter]
  rintro ⟨-, hpoint⟩
  cases hpoint

/-- Replacing the commas leaves the two parts apart. -/
theorem IOSAddTransactionScreen.scale_le_two {screen : IOSAddTransactionScreen}
    {amountValue : Decimal} (h : decimalOrNull screen.normalizedAmount = some amountValue) :
    amountValue.scale ≤ 2 := by
  have hraw : ∀ integerPart decimalPart : Text,
      ((rawAmount integerPart decimalPart).map fun c => if c = ',' then '.' else c) =
        rawAmount (integerPart.map fun c => if c = ',' then '.' else c)
          (decimalPart.map fun c => if c = ',' then '.' else c) := by
    intro integerPart decimalPart
    rw [rawAmount, rawAmount, List.isEmpty_map]
    split_ifs
    · rfl
    · rw [List.map_append, List.map_cons, if_neg (by decide)]
  rw [normalizedAmount, amount, CurrencyTextField.formatInput, hraw] at h
  refine SpendCraft.scale_le_two ?_ ?_ h
  · rw [List.mem_map]
    rintro ⟨c, hc, hpoint⟩
    obtain ⟨htaken, hne⟩ := List.mem_filter.mp hc
    split_ifs at hpoint with hcomma
    · subst hcomma
      exact absurd (List.mem_takeWhile_imp htaken) (by decide)
    · subst hpoint
      exact absurd hne (by decide)
  · rw [List.length_map]
    exact List.length_take_le 2 _

/-! ### One new row -/

section NewRow

variable {ρ : Type*} {P : ρ → Prop} {rows : List ρ}

/-- A row at the end of a list, up to the order. -/
theorem exists_perm_cons_iff {row : ρ} :
    (∃ r, P r ∧ (rows ++ [row]).Perm (r :: rows)) ↔ P row := by
  constructor
  · rintro ⟨r, hr, hperm⟩
    have hrow : [row].Perm [r] :=
      (List.perm_append_right_iff rows).mp ((List.perm_append_singleton row rows).symm.trans hperm)
    rw [List.singleton_perm_singleton] at hrow
    rwa [hrow]
  · intro hrow
    exact ⟨row, hrow, List.perm_append_singleton row rows⟩

/-- A list does not have one row more than itself. -/
theorem not_exists_perm_cons : ¬ ∃ r, P r ∧ rows.Perm (r :: rows) := by
  rintro ⟨r, -, hperm⟩
  have hlength := hperm.length_eq
  rw [List.length_cons] at hlength
  omega

end NewRow

/-- An empty note and no note read the same. -/
theorem getD_note (note : Text) : (if note.isEmpty then none else some note).getD [] = note := by
  cases note with
  | nil => rfl
  | cons c cs => rfl

/-! ### The form of the iOS app -/

namespace Ios.AddForm

variable {form : AddForm} {store : LinkedStore} {now randomId randomRuleId : ℤ}
  {amountValue : Decimal} {category : CategoryObject} {account : AccountEntity}

/-- A valid form has its three entries. -/
theorem entries_of_isValid (h : form.isValid = true) :
    ∃ amountValue category account, doubleOrNil form.amount = some amountValue ∧
      form.selectedCategory = some category ∧ form.selectedAccount = some account := by
  obtain ⟨⟨amountValue, category, account⟩, hentries, -⟩ := (Option.any_eq_true _ _).mp h
  simp only [entries, Option.bind_eq_bind, Option.bind_eq_some_iff, Option.pure_def,
    Option.some_inj, Prod.mk.injEq] at hentries
  obtain ⟨a, hamount, c, hcategory, b, haccount, rfl, rfl, rfl⟩ := hentries
  exact ⟨a, c, b, hamount, hcategory, haccount⟩

section Entries

variable (hamount : doubleOrNil form.amount = some amountValue)
  (hcategory : form.selectedCategory = some category)
  (haccount : form.selectedAccount = some account)

include hamount hcategory haccount

/-- The entries of the form at hand. -/
theorem entries_eq : form.entries = some (amountValue, category, account) := by
  rw [entries, hamount, hcategory, haccount]
  rfl

/-- The transaction that is saved. -/
theorem rows_saveTransaction (hfits : FitsInt64 (wholeMinorUnits amountValue)) :
    (form.saveTransaction now randomId randomRuleId store).transactions.rows =
      store.transactions.rows ++
        [RowId.withId (store.transactions.sequence + 1)
          (LinkCall.assign (wholeMinorUnits amountValue)
            (if form.note.isEmpty then none else some form.note) (some category) (some account)
            form.isIncome (LinkCall.newTransaction randomId now))] := by
  have hentries := entries_eq hamount hcategory haccount
  cases hrecurring : form.isRecurring with
  | true =>
      simp only [saveTransaction, hentries, if_pos hfits, hrecurring, if_true]
      exact store.transactions.rows_insertOrReplace_generated rfl
  | false =>
      simp only [saveTransaction, hentries, if_pos hfits, hrecurring, Bool.false_eq_true, if_false]
      exact store.transactions.rows_insertOrReplace_generated rfl

/-- An amount that does not fit an `Int64` ends the app before anything is saved. -/
theorem saveTransaction_of_not_fits (hfits : ¬ FitsInt64 (wholeMinorUnits amountValue)) :
    form.saveTransaction now randomId randomRuleId store = store := by
  have hentries := entries_eq hamount hcategory haccount
  simp only [saveTransaction, hentries, if_neg hfits]

end Entries

/-- Valid amounts fit below the bound of the 64-bit integers. -/
theorem fitsInt64_wholeMinorUnits_iff (hamount : doubleOrNil form.amount = some amountValue) :
    FitsInt64 (wholeMinorUnits amountValue) ↔ decimalValue amountValue * 100 < 2 ^ 63 := by
  rw [decimalValue_mul_hundred (scale_le_two hamount), FitsInt64, and_iff_right (by omega)]
  norm_cast

end Ios.AddForm

/-- **The step on iOS**: the date that was chosen has to be the time of the save. -/
theorem AddSave.storesEntered_ios_iff {form : Ios.AddForm} (valid : form.isValid = true)
    (now randomId randomRuleId : ℤ) (store : Ios.LinkedStore) :
    (AddSave.ios form valid now randomId randomRuleId store).StoresEntered ↔
      (AddSave.ios form valid now randomId randomRuleId store).NamesDefaults := by
  obtain ⟨amountValue, category, account, hamount, hcategory, haccount⟩ :=
    Ios.AddForm.entries_of_isValid valid
  have hfits_iff := Ios.AddForm.fitsInt64_wholeMinorUnits_iff hamount
  rw [StoresEntered, NamesDefaults, hamount]
  simp only [Option.mem_some_iff, forall_eq', ← hfits_iff]
  by_cases hfits : Ios.FitsInt64 (wholeMinorUnits amountValue)
  · rw [Ios.AddForm.rows_saveTransaction hamount hcategory haccount hfits, exists_perm_cons_iff,
      and_iff_left hfits]
    constructor
    · intro hshown
      exact hshown.timestamp.symm
    · intro hdate
      exact
        { amount := ⟨amountValue, hamount, by
            rw [decimalValue_mul_hundred (Ios.AddForm.scale_le_two hamount)]
            exact Int.cast_natCast _⟩
          note := getD_note form.note
          isIncome := rfl
          category := ⟨category, hcategory, rfl, rfl⟩
          account := ⟨account, haccount, rfl, rfl⟩
          timestamp := hdate.symm }
  · rw [Ios.AddForm.saveTransaction_of_not_fits hamount hcategory haccount hfits]
    exact iff_of_false not_exists_perm_cons fun h => hfits h.2

/-! ### The form of the Android app -/

/-- The amount that is stored is cut at the greatest `Long`. -/
theorem toInt_exactMinorUnits (amount : Decimal) :
    (exactMinorUnits amount).toInt = min (2 ^ 63 - 1) (wholeMinorUnits amount : ℤ) := by
  have hofInt : exactMinorUnits amount =
      Int64.ofInt (min (2 ^ 63 - 1) (wholeMinorUnits amount : ℤ)) := rfl
  rw [hofInt, Int64.toInt_ofInt_of_le (by omega) (by omega)]

namespace IOSAddTransactionScreen

variable {screen : IOSAddTransactionScreen} {draws : SaveDraws} {store : Store}

/-- A valid screen has its two entries. -/
theorem entries_of_isValid (h : screen.isValid = true) :
    ∃ amountValue category, decimalOrNull screen.normalizedAmount = some amountValue ∧
      screen.selectedCategory = some category := by
  simp only [isValid, Bool.and_eq_true, Option.any_eq_true, Option.isSome_iff_exists] at h
  obtain ⟨⟨-, amountValue, hamount, -⟩, category, hcategory⟩ := h
  exact ⟨amountValue, category, hamount, hcategory⟩

/-- The transaction that is saved has no account. -/
theorem rows_save {amountValue : Decimal}
    (hamount : decimalOrNull screen.normalizedAmount = some amountValue) :
    (screen.save draws store).transactions.rows = store.transactions.rows ++
      [TransactionsRepositoryImpl.rowWithId (store.transactions.sequence + 1)
        (TransactionsViewModel.newTransaction draws.now (exactMinorUnits amountValue)
          (if screen.note.isEmpty then none else some screen.note)
          (screen.selectedCategory.bind Category.id) none screen.isIncome)] := by
  have hstored : (screen.save draws store).transactions = _ :=
    Call.transactions_run _ _ draws.calls
  rw [hstored, hamount]
  exact TransactionsRepositoryImpl.rows_upsert_new rfl store.toDatabase

end IOSAddTransactionScreen

/-- **The step on Android**: there must be no default account. -/
theorem AddSave.storesEntered_android_iff {screen : IOSAddTransactionScreen}
    (valid : screen.isValid = true) (draws : SaveDraws) (store : Store) :
    (AddSave.android screen valid draws store).StoresEntered ↔
      (AddSave.android screen valid draws store).NamesDefaults := by
  obtain ⟨amountValue, category, hamount, hcategory⟩ :=
    IOSAddTransactionScreen.entries_of_isValid valid
  have hhundred := decimalValue_mul_hundred (IOSAddTransactionScreen.scale_le_two hamount)
  have hfits : ((exactMinorUnits amountValue).toInt : ℚ) = decimalValue amountValue * 100 ↔
      decimalValue amountValue * 100 < 2 ^ 63 := by
    have hmin : min (2 ^ 63 - 1) (wholeMinorUnits amountValue : ℤ) = wholeMinorUnits amountValue ↔
        (wholeMinorUnits amountValue : ℤ) < 2 ^ 63 := by
      omega
    rw [hhundred, toInt_exactMinorUnits, ← Int.cast_natCast (R := ℚ), Int.cast_inj,
      hmin]
    norm_cast
  rw [StoresEntered, NamesDefaults, IOSAddTransactionScreen.rows_save hamount,
    exists_perm_cons_iff, hamount]
  simp only [Option.mem_some_iff, forall_eq', ← hfits]
  constructor
  · intro hshown
    obtain ⟨amountValue', hamount', heq⟩ := hshown.amount
    obtain rfl := Option.some.inj (hamount.symm.trans hamount')
    exact ⟨hshown.timestamp.symm, heq, Option.map_eq_none_iff.mp hshown.account.symm⟩
  · rintro ⟨hdate, hminor, hnone⟩
    exact
      { amount := ⟨amountValue, hamount, hminor⟩
        note := getD_note screen.note
        isIncome := by
          cases screen.isIncome with
          | true => rfl
          | false => rfl
        category := ⟨category, hcategory, congrArg (Option.bind · Category.id) hcategory⟩
        account := by
          rw [hnone]
          rfl
        timestamp := hdate.symm }

/-- **What is entered is what is stored**, just when the form names the time of the save, an
amount that fits, and no account beside the one it hands on. -/
theorem AddSave.storesEntered_iff (save : AddSave) : save.StoresEntered ↔ save.NamesDefaults := by
  cases save with
  | ios form valid now randomId randomRuleId store =>
      exact storesEntered_ios_iff valid now randomId randomRuleId store
  | android screen valid draws store => exact storesEntered_android_iff valid draws store

/-- A lunch of the day before, for which the seeded objects are selected. -/
def Ios.lunchForm : AddForm :=
  { currency := "TRY".toList
    typed := "12,50".toList
    note := "Öğle yemeği".toList
    selectedCategory := firstDraws.seeded.categories.rows.head?
    selectedAccount := firstDraws.seeded.accounts.rows.head?
    isIncome := false
    date := 1699913600000
    isRecurring := false
    recurringFrequency := "MONTHLY".toList }

/-- The same lunch, dated by the time of the save. -/
def lunchScreen : IOSAddTransactionScreen :=
  { typed := "12,50".toList
    note := "Öğle yemeği".toList
    isIncome := false
    selectedCategory := some
      { id := some 1, name := "Yemek".toList, color := "#FF5722".toList,
        icon := some "🍔".toList, isIncome := false }
    selectedDate := 1700000000000 }

/-- The lunch can be saved on iOS. -/
theorem Ios.isValid_lunchForm : lunchForm.isValid = true := by decide +kernel

/-- The lunch can be saved on Android. -/
theorem isValid_lunchScreen : lunchScreen.isValid = true := by decide +kernel

/-- The iOS app stores the lunch under the time of the save, the Android app without the
seeded default account. -/
theorem AddSave.not_storesEntered_lunch :
    ¬ (AddSave.ios Ios.lunchForm Ios.isValid_lunchForm 1700000000000 1 1
        Ios.firstDraws.seeded).StoresEntered ∧
      ¬ (AddSave.android lunchScreen isValid_lunchScreen
          { now := 1700000000000, keyNow := 1700000000000, boundariesNow := 1700000000000,
            calls := 3 } Store.seeded).StoresEntered := by
  rw [storesEntered_ios_iff, storesEntered_android_iff]
  constructor
  · rintro ⟨hdate, -⟩
    exact absurd hdate (by decide)
  · rintro ⟨-, -, hnone⟩
    exact absurd hnone (by decide)

end SpendCraft
