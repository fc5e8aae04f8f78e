import SpendCraft.CategoryChoice
import SpendCraft.CsvExporter
import SpendCraft.Ios.ExactAmounts

/-!
# The Form for a Stored Transaction

`EditTransactionView` loads a transaction when it appears, and writes all of its entries back
when the changes are saved. The type starts as an expense: where loading changes it, the handler
of the type clears the category that was just loaded. The date is loaded in whole seconds, and
an empty note is saved as none.

The field of the amount may appear before or after the amount is loaded; it then formats the
amount. Amounts are read and written exactly here.

## Conventions

The form is loaded by `appear`, with the order of the two handlers and of the appearance of the
field left open: the field may have appeared before the amount is loaded, or it appears then and
its `onChange` is called any number of times. The objects of the form are references into the
store. The date is a number of whole seconds, and the amount a text. A save writes every
attribute, unless a guard stops it.

## Proof

The amount of the loaded form is that of the transaction in all of these orders
(`exists_appear_eq`), by the module `ExactAmounts`; so the form can be saved as far as the
category is there. The handler of the type has cleared it for an income. The other attributes are
compared one by one: the seconds of the date, and a note that is empty or none.

## Main results

* `exists_appear_eq`: the amount of the loaded form, whatever the field does.
* `isValid_appear_iff`: when the loaded form can be saved.
* `savedUnchanged_iff`: when saving it changes nothing.
-/

namespace SpendCraft.Ios

open Kotlin Relational

/-! ### The field -/

/-- The field after further calls of `onChange`, which is called as long as the text changes. -/
def CurrencyTextField.rounds (currency : Text) : ℕ → Text → FieldState
  | 0, newValue => exactFormatted currency newValue
  | n + 1, newValue => rounds currency n (exactFormatted currency newValue).displayValue

/-! ### The form -/

/-- The state of the form that edits a transaction. -/
structure EditTransactionView where
  amount : Text
  note : Text
  selectedCategory : Option CategoryObject
  selectedAccount : Option AccountEntity
  isIncome : Bool
  date : ℤ
  deriving DecidableEq, Repr

namespace EditTransactionView

/-- The form before it appears. -/
def initial (now : ℤ) : EditTransactionView :=
  { amount := []
    note := []
    selectedCategory := none
    selectedAccount := none
    isIncome := false
    date := now }

/-- The text of an amount. With two decimals, `.00` can only be at its end. -/
def amountText (amountMinor : ℤ) : Text :=
  if amountMinor % 100 = 0 then intText (amountMinor / 100)
  else
    let text := CsvExporter.amountText .point amountMinor
    if ".00".toList <:+ text then text.take (text.length - 3) else text

/-- The seconds of the timestamp are divided as integers. -/
def loadTransactionData (store : LinkedStore) (transaction : TransactionObject) :
    EditTransactionView :=
  { amount := amountText transaction.amountMinor
    note := transaction.note.getD []
    selectedCategory := store.category transaction.category
    selectedAccount := store.account transaction.account
    isIncome := transaction.isIncome
    date := transaction.timestampUtcMillis.tdiv 1000 * 1000 }

/-- The handler of `onChange(of: isIncome)`, which is called when the type has changed. -/
def onChangeOfIsIncome (before after : EditTransactionView) : EditTransactionView :=
  if after.isIncome = before.isIncome then after else { after with selectedCategory := none }

/-- The field appears and formats the amount. -/
def fieldAppears (currency : Text) (n : ℕ) (view : EditTransactionView) : EditTransactionView :=
  if view.amount.isEmpty then view
  else
    { view with
      amount := (CurrencyTextField.rounds currency n
        (CurrencyTextField.exactFormatNumber currency view.amount)).value }

/-- The form after it has appeared. Its field has appeared before (`none`), or appears then, with
so many further calls of `onChange`. -/
def appear (store : LinkedStore) (transaction : TransactionObject) (currency : Text)
    (field : Option ℕ) (now : ℤ) : EditTransactionView :=
  let loaded := onChangeOfIsIncome (initial now) (loadTransactionData store transaction)
  match field with
  | none => loaded
  | some n => loaded.fieldAppears currency n

/-- `isValid`: a positive amount, a category and an account. -/
def isValid (view : EditTransactionView) : Bool :=
  (doubleOrNil view.amount).any (fun amountValue => decide (0 < decimalValue amountValue)) &&
    view.selectedCategory.isSome && view.selectedAccount.isSome

/-- An amount that does not fit ends the app. -/
def saveChanges (transaction : ℤ) (store : LinkedStore) (view : EditTransactionView) :
    LinkedStore :=
  match doubleOrNil view.amount, view.selectedCategory, view.selectedAccount with
  | some amountValue, some category, some account =>
      if FitsInt64 (wholeMinorUnits amountValue) then
        store.modifyTransaction transaction
          (fun row =>
            { LinkCall.assign (wholeMinorUnits amountValue) (ExportManager.noteOf view.note)
                (some category) (some account) view.isIncome row with
              timestampUtcMillis := view.date }) fun _ => rfl
      else store
  | _, _, _ => store

end EditTransactionView

/-- The entries of the form are the same. -/
structure SameEntries (before after : TransactionObject) : Prop where
  amountMinor : after.amountMinor = before.amountMinor
  timestampUtcMillis : after.timestampUtcMillis = before.timestampUtcMillis
  note : after.note = before.note
  isIncome : after.isIncome = before.isIncome
  category : after.category = before.category
  account : after.account = before.account

/-- A stored transaction with a positive amount, a category of its type and an account. -/
structure Editable (store : LinkedStore) (transaction : TransactionObject) : Prop where
  stored : transaction ∈ store.transactions.rows
  positive : 0 < transaction.amountMinor
  fits : FitsInt64 transaction.amountMinor
  category : ∃ category ∈ TransactionsViewModel.categoriesForType transaction.isIncome
    store.categories.rows, store.category transaction.category = some category
  account : ∃ account, store.account transaction.account = some account

namespace EditTransactionView

/-- **Opening and saving** leaves the transaction as it was. -/
def SavedUnchanged (store : LinkedStore) (transaction : TransactionObject) (currency : Text)
    (field : Option ℕ) (now : ℤ) : Prop :=
  let view := appear store transaction currency field now
  view.isValid = true ∧
    ∃ saved ∈ (view.saveChanges transaction.objectID store).transactions.rows,
      saved.objectID = transaction.objectID ∧ SameEntries transaction saved

/-! ### The amount -/

variable {store : LinkedStore} {transaction : TransactionObject} {hundredths : ℕ}

/-- The amount that is loaded. -/
theorem doubleOrNil_amountText (hundredths : ℕ) :
    (doubleOrNil (amountText hundredths)).map decimalValue = some (inUnits hundredths) := by
  rw [amountText]
  dsimp only
  split_ifs with hwhole hzeros
  · have htext : intText ((hundredths : ℤ) / 100) = Nat.toDigits 10 (hundredths / 100) := by
      rw [intText, if_neg (by omega)]
      congr 1
    rw [htext, CurrencyTextField.doubleOrNil_toDigits, Option.map_some, decimalValue, inUnits,
      pow_zero, div_one, Option.some_inj, eq_div_iff (by norm_num)]
    exact_mod_cast (by omega : hundredths / 100 * 100 = hundredths)
  · -- the decimals would be zeros
    have htext : CsvExporter.amountText .point hundredths =
        Nat.toDigits 10 (hundredths / 100) ++
          '.' :: padStart (Nat.toDigits 10 (hundredths % 100)) 2 '0' := by
      rw [CsvExporter.amountText, if_neg (by omega), Int.natAbs_natCast, List.nil_append]
      rfl
    have hlt : hundredths % 100 < 10 ^ 2 := by omega
    rw [htext] at hzeros
    have hlength : ('.' :: padStart (Nat.toDigits 10 (hundredths % 100)) 2 '0').length = 3 := by
      rw [List.length_cons, length_padStart_toDigits (by decide) hlt]
    have hsuffix := List.suffix_of_suffix_length_le hzeros (List.suffix_append _ _) hlength.ge
    have hsame := hsuffix.eq_of_length hlength.symm
    have hvalue := ofDigitChars_padStart (hundredths % 100) 2
    rw [← List.tail_eq_of_cons_eq hsame] at hvalue
    have hzero : hundredths % 100 = 0 := hvalue.symm
    omega
  · rw [doubleOrNil, if_neg ((CsvExporter.digitsAnd_amountText .point hundredths).not_mem
      (by decide)), CsvExporter.decimalOrNull_amountText]
    rfl

/-- What is displayed for an amount is a fixed point of the field. -/
theorem rounds_display (currency : Text) (n : ℕ) :
    CurrencyTextField.rounds currency n (CurrencyTextField.display currency hundredths) =
      { displayValue := CurrencyTextField.display currency hundredths
        value := rawText hundredths } := by
  induction n with
  | zero => exact CurrencyTextField.exactFormatted_display currency hundredths
  | succ n ih => rw [CurrencyTextField.rounds, CurrencyTextField.exactFormatted_display, ih]

variable {currency : Text} {field : Option ℕ} {now : ℤ}

/-- **The loaded form.** Whatever the field does, the amount is that of the transaction. -/
theorem exists_appear_eq (h : transaction.amountMinor = hundredths) (store : LinkedStore)
    (currency : Text) (field : Option ℕ) (now : ℤ) :
    ∃ amountValue, decimalValue amountValue = inUnits hundredths ∧
      ∃ amount, doubleOrNil amount = some amountValue ∧
        appear store transaction currency field now =
          { loadTransactionData store transaction with
            amount := amount
            selectedCategory :=
              if transaction.isIncome then none else store.category transaction.category } := by
  have hloaded := doubleOrNil_amountText hundredths
  rw [← h] at hloaded
  have hcategory : onChangeOfIsIncome (initial now) (loadTransactionData store transaction) =
      { loadTransactionData store transaction with
        selectedCategory :=
          if transaction.isIncome then none else store.category transaction.category } := by
    cases hincome : transaction.isIncome <;>
      simp [onChangeOfIsIncome, initial, loadTransactionData, hincome]
  simp only [appear, hcategory]
  cases field with
  | none =>
      obtain ⟨amountValue, hamount, hvalue⟩ := Option.map_eq_some_iff.mp hloaded
      exact ⟨amountValue, hvalue, _, hamount, rfl⟩
  | some n =>
      have hne : (amountText transaction.amountMinor).isEmpty = false := by
        rw [Bool.eq_false_iff, ne_eq, List.isEmpty_iff]
        intro hnil
        rw [hnil] at hloaded
        cases hloaded
      obtain ⟨amountValue, hamount, hvalue⟩ :=
        Option.map_eq_some_iff.mp (CurrencyTextField.doubleOrNil_rawText hundredths)
      refine ⟨amountValue, hvalue, _, hamount, ?_⟩
      simp only [fieldAppears, loadTransactionData, hne, Bool.false_eq_true, if_false,
        CurrencyTextField.exactFormatNumber_of_decimalValue hloaded, rounds_display]

/-! ### Saving -/

/-- An empty note is saved as none, any other as it is. -/
theorem noteOf_getD_iff (note : Option Text) :
    ExportManager.noteOf (note.getD []) = note ↔ note ≠ some [] := by
  obtain _ | _ | ⟨c, cs⟩ := note <;> simp [ExportManager.noteOf]

/-- Cutting a time to seconds changes nothing exactly if it is one of whole seconds. -/
theorem tdiv_mul_eq_iff (timestamp : ℤ) : timestamp.tdiv 1000 * 1000 = timestamp ↔
    1000 ∣ timestamp :=
  ⟨fun h => Dvd.intro_left _ h, Int.tdiv_mul_cancel⟩

/-- An object that is found has the identity. -/
theorem some_eq_of_find? {ρ : Type*} {objectID : ρ → ℤ} {rows : List ρ} {relation : Option ℤ}
    {row : ρ} (h : (relation.bind fun id => rows.find? fun row => objectID row == id) = some row) :
    some (objectID row) = relation := by
  obtain ⟨id, rfl, hfind⟩ := Option.bind_eq_some_iff.mp h
  simpa using List.find?_some hfind

/-- **An income cannot be saved**: its category was cleared. -/
theorem isValid_appear_iff (h : Editable store transaction) :
    (appear store transaction currency field now).isValid = true ↔
      transaction.isIncome = false := by
  obtain ⟨hundredths, hamountMinor⟩ := Int.eq_ofNat_of_zero_le h.positive.le
  obtain ⟨amountValue, hvalue, amount, hamount, happear⟩ :=
    exists_appear_eq hamountMinor store currency field now
  obtain ⟨category, -, hcategory⟩ := h.category
  obtain ⟨account, haccount⟩ := h.account
  have hpositive : 0 < decimalValue amountValue := by
    have hpos := h.positive
    rw [hvalue, inUnits]
    rw [hamountMinor] at hpos
    have hnat : (0 : ℚ) < hundredths := by exact_mod_cast hpos
    positivity
  rw [happear]
  cases hincome : transaction.isIncome <;>
    simp [isValid, loadTransactionData, hamount, hpositive, hcategory, haccount]

/-- The transactions after one was modified. -/
theorem rows_modifyTransaction (transaction : ℤ) (f : TransactionObject → TransactionObject)
    (hf : ∀ row, (f row).objectID = row.objectID) (store : LinkedStore) :
    (store.modifyTransaction transaction f hf).transactions.rows =
      store.transactions.rows.map fun row => if row.objectID = transaction then f row else row :=
  rfl

/-- There is one row with an identity, and the assignments go to it. -/
theorem exists_modified_iff {P : TransactionObject → Prop}
    (h : transaction ∈ store.transactions.rows) (f : TransactionObject → TransactionObject)
    (hf : ∀ row, (f row).objectID = row.objectID) :
    (∃ saved ∈ (store.modifyTransaction transaction.objectID f hf).transactions.rows,
        saved.objectID = transaction.objectID ∧ P saved) ↔ P (f transaction) := by
  rw [rows_modifyTransaction]
  constructor
  · rintro ⟨saved, hsaved, hid, hP⟩
    obtain ⟨row, hrow, rfl⟩ := List.mem_map.mp hsaved
    split_ifs at hid hP with hsame
    · rwa [store.transactions.eq_of_id_eq h hrow hsame.symm]
    · exact absurd hid hsame
  · intro hP
    refine ⟨f transaction, List.mem_map.mpr ⟨transaction, h, if_pos rfl⟩, hf transaction, hP⟩

/-- **When opening and saving changes nothing**: for an expense, in a whole second, whose note
is not an empty text. -/
theorem savedUnchanged_iff (h : Editable store transaction) (currency : Text) (field : Option ℕ)
    (now : ℤ) :
    SavedUnchanged store transaction currency field now ↔
      transaction.isIncome = false ∧ 1000 ∣ transaction.timestampUtcMillis ∧
        transaction.note ≠ some [] := by
  rw [SavedUnchanged, isValid_appear_iff h]
  refine and_congr_right fun hexpense => ?_
  obtain ⟨hundredths, hamountMinor⟩ := Int.eq_ofNat_of_zero_le h.positive.le
  obtain ⟨amountValue, hvalue, amount, hamount, happear⟩ :=
    exists_appear_eq hamountMinor store currency field now
  obtain ⟨category, -, hcategory⟩ := h.category
  obtain ⟨account, haccount⟩ := h.account
  have hwhole := wholeMinorUnits_of_decimalValue hvalue
  have hfits : FitsInt64 (wholeMinorUnits amountValue) := by
    rw [hwhole, ← hamountMinor]
    exact h.fits
  rw [happear, hexpense]
  simp only [saveChanges, loadTransactionData, hamount, Bool.false_eq_true, if_false, hcategory,
    haccount, if_pos hfits]
  rw [exists_modified_iff h.stored]
  constructor
  · intro hsame
    exact ⟨(tdiv_mul_eq_iff _).mp hsame.timestampUtcMillis, (noteOf_getD_iff _).mp hsame.note⟩
  · rintro ⟨hdvd, hnote⟩
    exact
      { amountMinor := by
          rw [hamountMinor, ← hwhole]
          rfl
        timestampUtcMillis := (tdiv_mul_eq_iff _).mpr hdvd
        note := (noteOf_getD_iff _).mpr hnote
        isIncome := rfl
        category := some_eq_of_find? hcategory
        account := some_eq_of_find? haccount }

/-! ### A lunch and a salary -/

/-- A lunch of 12.50 in the first category, in a whole second. -/
def lunch : TransactionObject :=
  { objectID := 1
    id := 1
    amountMinor := 1250
    timestampUtcMillis := 1700000000000
    note := some "Öğle yemeği".toList
    categoryId := 1
    accountId := 1
    isIncome := false
    category := some 1
    account := some 1 }

/-- A salary in its category. -/
def salary : TransactionObject :=
  { lunch with
    amountMinor := 5000000
    note := none
    categoryId := 10
    isIncome := true
    category := some 10 }

/-- The lunch can be edited. -/
theorem editable_lunch : Editable (firstDraws.seeded.insertAll [lunch]) lunch :=
  { stored := by decide
    positive := by decide
    fits := by decide
    category := ⟨_, by decide, rfl⟩
    account := ⟨_, rfl⟩ }

/-- The salary can be edited. -/
theorem editable_salary : Editable (firstDraws.seeded.insertAll [salary]) salary :=
  { stored := by decide
    positive := by decide
    fits := by decide
    category := ⟨_, by decide, rfl⟩
    account := ⟨_, rfl⟩ }

/-- The theorem at the lunch. -/
theorem savedUnchanged_lunch :
    SavedUnchanged (firstDraws.seeded.insertAll [lunch]) lunch "TRY".toList (some 0)
      1700000500000 :=
  (savedUnchanged_iff editable_lunch _ _ _).mpr (by decide)

/-- The salary is loaded without its category, and the form cannot be saved. -/
theorem not_savedUnchanged_salary :
    Editable (firstDraws.seeded.insertAll [salary]) salary ∧
      ¬ SavedUnchanged (firstDraws.seeded.insertAll [salary]) salary "TRY".toList (some 0)
          1700000500000 := by
  refine ⟨editable_salary, ?_⟩
  rintro ⟨hvalid, -⟩
  rw [isValid_appear_iff editable_salary] at hvalid
  cases hvalid

end EditTransactionView

end SpendCraft.Ios
