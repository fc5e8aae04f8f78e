import SpendCraft.DashboardTotals
import SpendCraft.Ios.CsvFile
import SpendCraft.Lib.Pages

/-!
# The Report of the iOS App

`ExportManager.exportToPDF` draws a title, the totals, and a line for each transaction, the newest
first, on as many pages as it takes. `ExportView` gives it the totals of `TransactionsViewModel`.

Coordinates are whole numbers of points, which doubles hold exactly. The date of the report, the
formatter of the dates and the fonts are left open.

## Conventions

A document is the list of the texts that are drawn, with the page and the offset of each. The
offsets are natural numbers, and a page is begun when the next row would start beyond the limit.
The numbers in the texts are printed with two decimals, rounded half to even, from doubles; the
totals are the sums of doubles that the view model has (`DashboardTotals`).

## Proof

The rows are laid out by `Lib.Pages`, whose theorem gives the page and the offset of each row. For
the amounts, the total that is printed is read as a number of minor units, as are the amounts of
the lines: for moderate amounts the error of the sum is far below half a minor unit, so the
printed total is the exact sum of what the lines print.

## Main results

* `exportToPDF_rows`: where each transaction is drawn.
* `exportPDF_adds_up`: the totals of a report are those of its lines.
-/

namespace SpendCraft.Ios

open Kotlin Binary64 CurrencyFormatter

/-- A text that is drawn on a page of a document. -/
structure Drawing where
  page : ℕ
  x : ℕ
  y : ℕ
  text : Text
  deriving DecidableEq, Repr

/-- `String(format: "%.2f", x)`. -/
def twoDecimals (x : ℚ) : Text :=
  (if x < 0 then ['-'] else []) ++ CsvExporter.amountText .point (roundHalfEven (|x| * 100))

namespace ExportManager

/-- `pageHeight` is 792, and a page is begun beyond `pageHeight - 100`. -/
def paper : Pages.Paper where
  top := 50
  limit := 692
  rowHeight := 18
  top_le := by decide
  rowHeight_pos := by decide

/-- The text of a row: its number, the date, the category, the amount and the type. -/
def rowText (format : CsvFormat) (transaction : RelatedTransaction) (index : ℕ) : Text :=
  Nat.toDigits 10 (index + 1) ++ ". ".toList ++
    format.dateString (dateOfMillis transaction.timestampUtcMillis) ++ " - ".toList ++
    categoryColumn transaction ++ " - ₺".toList ++
    twoDecimals (majorUnits transaction.amountMinor) ++ " (".toList ++ typeColumn transaction ++
    ")".toList

/-- The lines above the list, all on the first page. -/
def heading (reportDate : Text) (totalIncome totalExpense balance : ℚ) (count : ℕ) :
    List Drawing :=
  [⟨1, 50, 50, "Finansal Rapor".toList⟩,
    ⟨1, 50, 90, "Rapor Tarihi: ".toList ++ reportDate⟩,
    ⟨1, 50, 120, "Özet".toList⟩,
    ⟨1, 70, 145, "Toplam Gelir: ₺".toList ++ twoDecimals totalIncome⟩,
    ⟨1, 70, 165, "Toplam Gider: ₺".toList ++ twoDecimals totalExpense⟩,
    ⟨1, 70, 185, "Net Bakiye: ₺".toList ++ twoDecimals balance⟩,
    ⟨1, 50, 225, "İşlemler (".toList ++ Nat.toDigits 10 count ++ ")".toList⟩]

/-- `exportToPDF`: the heading, and a row for each transaction at the place the layout gives it.
-/
def exportToPDF (format : CsvFormat) (reportDate : Text) (transactions : List RelatedTransaction)
    (totalIncome totalExpense balance : ℚ) : List Drawing :=
  heading reportDate totalIncome totalExpense balance transactions.length ++
    (paper.layout { page := 1, offset := 250 } (sortedTransactions transactions).zipIdx).map
      fun ((transaction, index), place) =>
        { page := place.page, x := 70, y := place.offset, text := rowText format transaction index }

/-! ### Lines -/

/-- The place of line `i`: the first page has 25 lines, each of the others 36. -/
def lineOf (format : CsvFormat) (transaction : RelatedTransaction) (i : ℕ) : Drawing :=
  { page := if i < 25 then 1 else 2 + (i - 25) / 36
    x := 70
    y := if i < 25 then 250 + 18 * i else 50 + 18 * ((i - 25) % 36)
    text := rowText format transaction i }

/-- The place of a row in closed form. -/
theorem nth_paper (i : ℕ) : paper.nth { page := 1, offset := 250 } i =
    { page := if i < 25 then 1 else 2 + (i - 25) / 36
      offset := if i < 25 then 250 + 18 * i else 50 + 18 * ((i - 25) % 36) } := by
  have hfirst : paper.room 250 = 25 := by decide
  have hother : paper.room 50 = 36 := by decide
  rw [Pages.Paper.nth]
  change (if i < paper.room 250 then _ else _) = _
  rw [hfirst]
  split
  · rfl
  · change Pages.Place.mk (2 + (i - paper.room 250) / paper.room 50)
      (50 + 18 * ((i - paper.room 250) % paper.room 50)) = _
    rw [hfirst, hother]

/-- A list that is numbered twice from the same number. -/
theorem zipIdx_zipIdx {α : Type*} (l : List α) (k : ℕ) :
    (l.zipIdx k).zipIdx k = (l.zipIdx k).map fun entry => (entry, entry.2) := by
  induction l generalizing k with
  | nil => rfl
  | cons a l ih => rw [List.zipIdx_cons, List.zipIdx_cons, ih, List.map_cons]

/-- **The lines of a report**: each transaction has one, the newest first, on pages that are full
but for the last one. -/
theorem exportToPDF_rows (format : CsvFormat) (reportDate : Text)
    (transactions : List RelatedTransaction) (totalIncome totalExpense balance : ℚ) :
    exportToPDF format reportDate transactions totalIncome totalExpense balance =
        heading reportDate totalIncome totalExpense balance transactions.length ++
          (sortedTransactions transactions).zipIdx.map (fun entry =>
            lineOf format entry.1 entry.2) ∧
      (sortedTransactions transactions).Perm transactions ∧
      (sortedTransactions transactions).Pairwise fun a b =>
        b.timestampUtcMillis ≤ a.timestampUtcMillis := by
  refine ⟨?_, List.perm_insertionSort _ _, ?_⟩
  · rw [exportToPDF, paper.layout_eq, List.map_map, zipIdx_zipIdx, List.map_map]
    refine congrArg _ (List.map_congr_left fun entry _ => ?_)
    simp only [Function.comp_apply, nth_paper, lineOf]
  · exact List.pairwise_insertionSort _ _

end ExportManager

/-! ### Amounts -/

variable {x : ℚ} {k : ℤ} {transactions : List RelatedTransaction}

/-- A printed amount reads back as the hundredth it is close to. -/
theorem readAmount_twoDecimals (h : |x * 100 - k| < 1 / 2) : readAmount (twoDecimals x) = k := by
  have hnonneg : 0 ≤ roundHalfEven (|x| * 100) := roundHalfEven_nonneg (by positivity)
  have hrounded : roundHalfEven (|x| * 100) = (k.natAbs : ℤ) := by
    rw [← roundHalfEven_of_near h, Int.toNat_of_nonneg hnonneg]
  have htext : twoDecimals x = (if x < 0 then ['-'] else []) ++
      (Nat.toDigits 10 (k.natAbs / 100) ++
        '.' :: padStart (Nat.toDigits 10 (k.natAbs % 100)) 2 '0') := by
    rw [twoDecimals, hrounded, CsvExporter.amountText,
      if_neg (not_lt.mpr (Int.natCast_nonneg _)), Int.natAbs_natCast,
      List.nil_append]
    rfl
  have hpoint : Char.isDigit '.' = false := by decide
  have hdigits : (twoDecimals x).filter Char.isDigit =
      Nat.toDigits 10 (k.natAbs / 100) ++ padStart (Nat.toDigits 10 (k.natAbs % 100)) 2 '0' := by
    have hsign : ((if x < 0 then ['-'] else []) : Text).filter Char.isDigit = [] := by
      split <;> decide
    rw [htext, List.filter_append, hsign, List.nil_append, List.filter_append,
      List.filter_eq_self.mpr fun c hc => isDigit_of_mem_toDigits hc,
      List.filter_cons_of_neg (by rw [hpoint]; decide),
      List.filter_eq_self.mpr fun c hc => isDigit_of_mem_padStart hc]
  have hlt : k.natAbs % 100 < 10 ^ 2 := Nat.mod_lt _ (by decide)
  have hnumber : Nat.ofDigitChars 10 ((twoDecimals x).filter Char.isDigit) 0 = k.natAbs := by
    rw [hdigits, ofDigitChars_append_padStart _ (by decide) hlt, Nat.ofDigitChars_ten_toDigits]
    omega
  have hminus : '-' ∈ twoDecimals x ↔ x < 0 := by
    have hwhole : '-' ∉ Nat.toDigits 10 (k.natAbs / 100) := fun hmem =>
      absurd (isDigit_of_mem_toDigits hmem) (by decide)
    have hfraction : '-' ∉ padStart (Nat.toDigits 10 (k.natAbs % 100)) 2 '0' := fun hmem =>
      absurd (isDigit_of_mem_padStart hmem) (by decide)
    have hdash : ('-' : Char) ≠ '.' := by decide
    rw [htext]
    simp only [List.mem_append, List.mem_cons, hwhole, hfraction, hdash, or_false]
    split <;> simp [*]
  -- A number that rounds to no hundredths may have either sign.
  rw [readAmount, hnumber]
  obtain ⟨hlower, hupper⟩ := abs_lt.mp h
  rcases lt_trichotomy k 0 with hk | rfl | hk
  · have hkq : (k : ℚ) ≤ -1 := by exact_mod_cast Int.le_sub_one_of_lt hk
    rw [if_pos (hminus.mpr (by linarith))]
    omega
  · simp
  · have hkq : (1 : ℚ) ≤ k := by exact_mod_cast hk
    rw [if_neg (mt hminus.mp (by linarith))]
    omega

namespace ExportManager

/-! ### Totals -/

/-- The amounts of `TransactionsViewModel.transactions` on one side. -/
def amounts (isIncome : Bool) (transactions : List RelatedTransaction) : List ℤ :=
  (transactions.filter fun transaction => transaction.isIncome = isIncome).map
    fun transaction => transaction.amountMinor

/-- The income that the report is called with. -/
def totalIncome (transactions : List RelatedTransaction) : ℚ :=
  Binary64.sum ((amounts true transactions).map majorUnits)

/-- The expenses that the report is called with. -/
def totalExpense (transactions : List RelatedTransaction) : ℚ :=
  Binary64.sum ((amounts false transactions).map majorUnits)

/-- The balance that the report is called with. -/
def currentBalance (transactions : List RelatedTransaction) : ℚ :=
  signedRounded (totalIncome transactions - totalExpense transactions)

/-- `ExportView.exportPDF`. -/
def exportPDF (format : CsvFormat) (reportDate : Text) (transactions : List RelatedTransaction) :
    List Drawing :=
  exportToPDF format reportDate transactions (totalIncome transactions) (totalExpense transactions)
    (currentBalance transactions)

/-- What the amounts on the lines of one side add up to. -/
def lineTotal (isIncome : Bool) (transactions : List RelatedTransaction) : ℤ :=
  (((sortedTransactions transactions).filter fun transaction =>
    transaction.isIncome = isIncome).map fun transaction =>
      readAmount (twoDecimals (majorUnits transaction.amountMinor))).sum

/-- The amounts of one type are moderate. -/
theorem moderate_amounts
    (h : Moderate (transactions.map fun transaction => transaction.amountMinor))
    (isIncome : Bool) : Moderate (amounts isIncome transactions) :=
  h.sublist (List.filter_sublist.map _)

/-- The printed amounts of one type add up to the exact ones. -/
theorem lineTotal_eq (h : Moderate (transactions.map fun transaction => transaction.amountMinor))
    (isIncome : Bool) : lineTotal isIncome transactions = (amounts isIncome transactions).sum := by
  have hlines : ∀ transaction ∈ (sortedTransactions transactions).filter
      (fun transaction => transaction.isIncome = isIncome),
      readAmount (twoDecimals (majorUnits transaction.amountMinor)) = transaction.amountMinor := by
    intro transaction hmem
    have hmem' : transaction ∈ transactions :=
      (List.perm_insertionSort _ _).mem_iff.mp (List.mem_of_mem_filter hmem)
    exact readAmount_twoDecimals (abs_majorUnits_mul_sub_lt
      ((h.abs_le (List.mem_map_of_mem hmem')).trans (by norm_num)))
  rw [lineTotal, List.map_congr_left hlines, amounts]
  exact ((((List.perm_insertionSort _ _).filter _).map _).sum_eq)

/-- **The totals of a report are those of its lines**, the balance being their difference. -/
theorem exportPDF_adds_up (format : CsvFormat) (reportDate : Text)
    (h : Moderate (transactions.map fun transaction => transaction.amountMinor)) :
    ∃ income expense balance : ℚ, exportPDF format reportDate transactions =
        exportToPDF format reportDate transactions income expense balance ∧
      readAmount (twoDecimals income) = lineTotal true transactions ∧
      readAmount (twoDecimals expense) = lineTotal false transactions ∧
      readAmount (twoDecimals balance) =
        lineTotal true transactions - lineTotal false transactions := by
  have hincome := moderate_amounts h true
  have hexpense := moderate_amounts h false
  refine ⟨_, _, _, rfl, ?_, ?_, ?_⟩
  · rw [lineTotal_eq h]
    exact readAmount_twoDecimals ((abs_sum_majorUnits_mul_sub_lt hincome).trans (by norm_num))
  · rw [lineTotal_eq h]
    exact readAmount_twoDecimals ((abs_sum_majorUnits_mul_sub_lt hexpense).trans (by norm_num))
  · rw [lineTotal_eq h, lineTotal_eq h]
    exact readAmount_twoDecimals (abs_difference_mul_sub_lt hincome hexpense)

/-- A transaction of the given amount and type. -/
def dime (amountMinor : ℤ) (isIncome : Bool) : RelatedTransaction :=
  { id := 1
    amountMinor := amountMinor
    timestampUtcMillis := 0
    note := none
    categoryId := 1
    accountId := 1
    isIncome := isIncome
    category := none
    account := none }

/-- Two incomes that are spent. The balance of the doubles is not zero. -/
theorem exportPDF_adds_up_dimes :
    ∃ income expense balance : ℚ,
      exportPDF noonFormat noonText [dime 10 true, dime 20 true, dime 30 false] =
        exportToPDF noonFormat noonText [dime 10 true, dime 20 true, dime 30 false] income expense
          balance ∧
      readAmount (twoDecimals income) = 30 ∧ readAmount (twoDecimals expense) = 30 ∧
      readAmount (twoDecimals balance) = 0 := by
  have hmoderate : Moderate ([dime 10 true, dime 20 true, dime 30 false].map
      fun transaction => transaction.amountMinor) := by
    rw [Moderate]
    decide
  have hadds := exportPDF_adds_up noonFormat noonText hmoderate
  rw [lineTotal_eq hmoderate, lineTotal_eq hmoderate] at hadds
  exact hadds

end ExportManager

end SpendCraft.Ios
