import SpendCraft.Lib.Grouping
import SpendCraft.Lib.Pages
import SpendCraft.ReportExport

/-!
# The Report Page

`ExportService.exportToPdf` draws one page: the totals of a date range, an analysis, a
recommendation, and a line for each transaction of the range. Lines that would start below the
offset 800 are left out.

How high the analysis and the recommendation are is for the text layout of the device to say. The
file is written without errors, and the logo is left out.

## Conventions

A page is what is drawn on it, from the top: the line of the totals, the two texts, and the lines
of the table at their offsets. How high a text is in the width of the page is a function of the
text, and nothing is assumed of it. The texts of the service may be there or not; without them the
report prints its own. Amounts are `Long`s, in the totals and in the analysis. The locale is any
`ReportLocale`.

## Proof

The table is the one page of `Lib.Pages`: the rows that fit are a prefix of the range, and no more
than thirty-six of them fit, however low the texts are. A total is additive over the lists
(`sumOf_append`, `net_append`), so a total of the prefix is that of the range just when the total
of the rest is zero (`total_take_eq_iff`), for each of the three totals by itself.

## Main results

* `exportToPdf_lines`: which transactions have a line, and when each of the three totals is that
  of the lines.
-/

namespace SpendCraft

open Kotlin

/-- `take` of UTF-16 units. A surrogate pair that is cut in half is left out. -/
def takeUnits : ℕ → Text → Text
  | _, [] => []
  | n, c :: rest =>
      if utf16Length [c] ≤ n then c :: takeUnits (n - utf16Length [c]) rest else []

/-- `maxByOrNull`: the first entry with the greatest value. -/
def maxByOrNull {α : Type*} (value : α → Int64) (entries : List α) : Option α :=
  entries.foldl (fun best entry =>
    match best with
    | none => some entry
    | some other => if value other < value entry then some entry else some other) none

/-- A line of the table of a report. -/
structure ReportLine where
  y : ℕ
  date : Text
  type : Text
  category : Text
  amount : Text
  note : Text
  deriving DecidableEq, Repr

/-- What is drawn on the page, from the top. -/
structure ReportPage where
  time : Text
  summary : Text
  analysis : Text
  recommendation : Text
  lines : List ReportLine
  deriving DecidableEq, Repr

namespace ExportService

/-- The total of one type, as the `Long` sum of the source. -/
def sumOf (type : TransactionType) (transactions : List Transaction) : Int64 :=
  ((transactions.filter fun tx => tx.type = type).map fun tx => tx.amount.minorUnits).sum

/-- The difference of the two totals, in `Long`s. -/
def net (transactions : List Transaction) : Int64 :=
  sumOf .income transactions - sumOf .expense transactions

/-- An amount as the report prints it. -/
def amountText (locale : ReportLocale) (amountMinor : Int64) : Text :=
  CsvExporter.formatAmount locale.amountFormat amountMinor

/-- The line of the three totals. -/
def summary (locale : ReportLocale) (filtered : List Transaction) : Text :=
  "Gelir: ₺".toList ++ amountText locale (sumOf .income filtered) ++
    "  |  Gider: ₺".toList ++ amountText locale (sumOf .expense filtered) ++
    "  |  Net: ₺".toList ++ amountText locale (net filtered)

/-- The category with the greatest `Long` sum of expenses, the first of them if there are several.
-/
def topCategory (filtered : List Transaction) : Option ℤ :=
  ((maxByOrNull (fun entry => (entry.2.map fun tx : Transaction => tx.amount.minorUnits).sum)
    (Grouping.groupBy Transaction.categoryId
      (filtered.filter fun tx => tx.type = .expense)).rows).map Prod.fst).join

/-- The analysis that is printed when the service gives none. -/
def fallbackAnalysis (categories : List Category) (filtered : List Transaction) : Text :=
  let topCategoryName := ((categories.find? fun category =>
    category.id == topCategory filtered).map Category.name).getD "Bilinmeyen".toList
  Nat.toDigits 10 (filtered.countP fun tx => tx.type = .expense) ++ " gider ve ".toList ++
    Nat.toDigits 10 (filtered.countP fun tx => tx.type = .income) ++
    " gelir içeriyor. En çok harcama kategorisi: ".toList ++ topCategoryName ++
    ". Bütçenizi bu kategori özelinde gözden geçirmeniz faydalı olabilir.".toList

/-- The recommendation that is printed when the service gives none. -/
def fallbackRecommendation : Text :=
  ("Aylık sabit giderlerinizi gözden geçirip otomatik tasarruf hedefi belirleyin. " ++
    "En yüksek harcama yaptığınız kategoride %10 kısıntı hedefleyin ve haftalık takip edin.").toList

/-- The lines start at most at 800. -/
def column : Pages.Column where
  limit := 800
  rowHeight := 16
  rowHeight_pos := by decide

/-- The offset of the table below texts of a height in all. -/
def tableTop (height : ℕ) : ℕ := 228 + height

/-- A line of the list at a height. The texts are cut to the columns. -/
def reportLine (locale : ReportLocale) (categories : List Category) (tx : Transaction) (y : ℕ) :
    ReportLine :=
  { y := y
    date := locale.date tx.timestampUtcMillis
    type := if tx.type = .income then "+".toList else "-".toList
    category := takeUnits 16 (categoryName categories tx)
    amount := '₺' :: amountText locale tx.amount.minorUnits
    note := takeUnits 28 (tx.note.getD []) }

/-- The page; `height` is the height of a text in the width of the page. -/
def exportToPdf (add : CalendarField → ℤ → ℤ → ℤ) (locale : ReportLocale) (height : Text → ℕ)
    (time : Text) (transactions : List Transaction) (categories : List Category)
    (dateRange : DateRange) (customStart customEnd now later : ℤ)
    (aiAnalysis aiRecommendation : Option Text) : ReportPage :=
  let filtered :=
    filterTransactionsByDateRange add transactions dateRange customStart customEnd now later
  let analysis := takeUnits 500 (aiAnalysis.getD (fallbackAnalysis categories filtered))
  let recommendation := takeUnits 400 (aiRecommendation.getD fallbackRecommendation)
  { time := time
    summary := summary locale filtered
    analysis := analysis
    recommendation := recommendation
    lines := (column.fill (tableTop (height analysis + height recommendation)) filtered).map
      fun (tx, y) => reportLine locale categories tx y }

/-! ### Totals -/

/-- The sum of two lists, around the end of the numbers. -/
theorem sum_append (a b : List Int64) : (a ++ b).sum = a.sum + b.sum := by
  induction a with
  | nil => rw [List.nil_append, List.sum_nil, Int64.zero_add]
  | cons x a ih => rw [List.cons_append, List.sum_cons, List.sum_cons, ih, Int64.add_assoc]

/-- A total of two lists is that of the one and that of the other. -/
theorem sumOf_append (type : TransactionType) (a b : List Transaction) :
    sumOf type (a ++ b) = sumOf type a + sumOf type b := by
  rw [sumOf, List.filter_append, List.map_append, sum_append]
  rfl

/-- The net of two lists is that of the one and that of the other. -/
theorem net_append (a b : List Transaction) : net (a ++ b) = net a + net b := by
  rw [net, net, net, sumOf_append, sumOf_append]
  grind

/-- A total that adds up over the parts of a list is that of the first transactions just when it
is zero for the others. -/
theorem total_take_eq_iff {total : List Transaction → Int64}
    (happend : ∀ a b, total (a ++ b) = total a + total b) (room : ℕ)
    (filtered : List Transaction) :
    total (filtered.take room) = total filtered ↔ total (filtered.drop room) = 0 := by
  have hparts := happend (filtered.take room) (filtered.drop room)
  rw [List.take_append_drop] at hparts
  rw [hparts]
  grind

/-! ### Lines -/

/-- However low the two texts are, no more than 36 lines fit below them. -/
theorem room_le (height : ℕ) : column.room (tableTop height) ≤ 36 := by
  refine not_lt.mp fun hlt => ?_
  have hfits : tableTop height + 16 * 36 ≤ 800 := column.lt_room_iff.mp hlt
  rw [tableTop] at hfits
  omega

/-- The offset of the first line of a page. -/
def firstLine (height : Text → ℕ) (page : ReportPage) : ℕ :=
  tableTop (height page.analysis + height page.recommendation)

/-- **A report has 36 lines at most**, those of the first transactions of the range. Its totals
are those of the whole range. The income is that of the lines just when the income that is left out
sums up to zero, and the same is true of the expenses; the net is that of the lines just when the
transactions that are left out cancel out. -/
theorem exportToPdf_lines (add : CalendarField → ℤ → ℤ → ℤ) (locale : ReportLocale)
    (height : Text → ℕ) (time : Text) (transactions : List Transaction)
    (categories : List Category) (dateRange : DateRange) (customStart customEnd now later : ℤ)
    (aiAnalysis aiRecommendation : Option Text) :
    let filtered :=
      filterTransactionsByDateRange add transactions dateRange customStart customEnd now later
    let page := exportToPdf add locale height time transactions categories dateRange customStart
      customEnd now later aiAnalysis aiRecommendation
    let room := column.room (firstLine height page)
    room ≤ 36 ∧
      page.lines = (filtered.take room).zipIdx.map (fun entry =>
        reportLine locale categories entry.1 (firstLine height page + 16 * entry.2)) ∧
      (page.lines.length = filtered.length ↔ filtered.length ≤ room) ∧
      page.summary = summary locale filtered ∧
      (∀ type, sumOf type (filtered.take room) = sumOf type filtered ↔
        sumOf type (filtered.drop room) = 0) ∧
      (net (filtered.take room) = net filtered ↔ net (filtered.drop room) = 0) := by
  intro filtered page room
  have hlines : page.lines = (filtered.take room).zipIdx.map (fun entry =>
      reportLine locale categories entry.1 (firstLine height page + 16 * entry.2)) := by
    change (column.fill (firstLine height page) filtered).map _ = _
    rw [column.fill_eq, List.map_map]
    rfl
  refine ⟨room_le _, hlines, ?_, rfl,
    fun type => total_take_eq_iff (sumOf_append type) room filtered,
    total_take_eq_iff net_append room filtered⟩
  rw [hlines, List.length_map, List.length_zipIdx, List.length_take]
  omega

/-- The rent, and two payments of the same amount in the two directions. -/
def paidBack : List Transaction :=
  [rent, { rent with id := some 2, amount := ⟨10000⟩ },
    { rent with id := some 3, amount := ⟨10000⟩, type := .income }]

/-- Two texts of a height of 280 leave room for one line, that of the rent. The net on the page
is that of the line, and neither the income nor the expenses are. -/
theorem exportToPdf_lines_paidBack :
    let page := exportToPdf (fun _ _ now => now) (november .point) (fun _ => 280) [] paidBack []
      .custom 0 1800000000000 0 0 none none
    page.lines = [reportLine (november .point) [] rent 788] ∧
      page.lines.length ≠ paidBack.length ∧
      page.summary = "Gelir: ₺100.00  |  Gider: ₺1600.00  |  Net: ₺-1500.00".toList ∧
      sumOf .income (paidBack.take 1) ≠ sumOf .income paidBack ∧
      sumOf .expense (paidBack.take 1) ≠ sumOf .expense paidBack ∧
      net (paidBack.take 1) = net paidBack := by
  obtain ⟨-, hlines, hall, hsummary, hsum, hnet⟩ := exportToPdf_lines (fun _ _ now => now)
    (november .point) (fun _ => 280) [] paidBack [] .custom 0 1800000000000 0 0 none none
  refine ⟨hlines, fun h => ?_, hsummary.trans (by decide), fun h => ?_, fun h => ?_,
    hnet.mpr (by decide)⟩
  · exact absurd (hall.mp h) (by decide)
  · exact absurd ((hsum .income).mp h) (by decide)
  · exact absurd ((hsum .expense).mp h) (by decide)

end ExportService

end SpendCraft
