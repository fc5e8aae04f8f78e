import SpendCraft.Ios.Objects
import SpendCraft.Ios.Recurring
import SpendCraft.Lib.Calendar
import SpendCraft.Lib.Grouping
import SpendCraft.Lib.JavaTime
import SpendCraft.Model
import Mathlib.Data.Char
import Mathlib.Data.List.Lex
import Mathlib.Data.List.Sort

/-!
# Transactions by Day

Both apps show the transactions in sections, one for each day, under a label such as
`2 Ocak 2024`. The Android app sorts the transactions before it groups them, and takes the
groups as they come. The iOS app groups first and sorts the labels, as texts, where the second
day of a month comes after the tenth.

A label has no era. The iOS app reads the seconds of a transaction, rounded towards 1970.

## Conventions

A time zone is any function from instants to offsets under which days never go back (`Zone`): its
clock may be put forward, or back within the day. The label follows the formatter: the day, the
Turkish name of the month and the year of the era, with the change from the Julian to the
Gregorian calendar in 1582. A list is that of either app, with its filter.

## Proof

Both apps group by the label, so the library `Grouping` applies to each, with the label as the key
and the day as the date. What is left is whether labels tell days: they do on either side of the
change of the calendar, since the numbers and the name of the month are read back from the text.
For the iOS app the labels have to be in the order of the days as texts, too, and the equivalence
says so.

## Main results

* `dateText_inj`, `label_inj`: labels of different days are different.
* `groupsByDay_iff`: when the sections are the days, from the newest to the oldest.
* `groupsByDay_android`: they always are on Android, for days since 1582.
-/

namespace SpendCraft

open Kotlin Calendar Grouping

/-! ### Days and labels -/

/-- A time zone. Its clock may be set back, but not into the day before. -/
structure Zone where
  offsetAt : ℤ → ℤ
  monotone_day : Monotone fun millis => (millis + offsetAt millis) / 86400000

namespace Zone

/-- The number of the day of an instant. -/
def day (zone : Zone) (millis : ℤ) : ℤ :=
  (millis + zone.offsetAt millis) / 86400000

/-- A clock that is ahead of UTC by `offset` milliseconds. -/
def fixed (offset : ℤ) : Zone :=
  { offsetAt := fun _ => offset
    monotone_day := fun _ _ h => Int.ediv_le_ediv (by decide) (Int.add_le_add_right h offset) }

end Zone

/-- The Turkish names of the months. -/
def monthNames : List Text :=
  ["Ocak".toList, "Şubat".toList, "Mart".toList, "Nisan".toList, "Mayıs".toList,
    "Haziran".toList, "Temmuz".toList, "Ağustos".toList, "Eylül".toList, "Ekim".toList,
    "Kasım".toList, "Aralık".toList]

/-- The name of a month, counted from 1. -/
def monthName (month : ℤ) : Text :=
  monthNames.getD (month - 1).toNat []

/-- The format `d MMMM yyyy` in Turkish. -/
def dateText (year month day : ℤ) : Text :=
  Nat.toDigits 10 day.toNat ++ ' ' :: (monthName month ++
    ' ' :: padStart (Nat.toDigits 10 (JavaTime.yearOfEra year).toNat) 4 '0')

/-- The first day of the Gregorian calendar, 15 October 1582. -/
def gregorianChange : ℤ := -141427

/-- A day of the Julian calendar, with years that start in March. -/
def julianText (n : ℤ) : Text :=
  let z := n + 719470
  let yearOfCycle := min (z % 1461 / 365) 3
  let dayOfYear := z % 1461 - 365 * yearOfCycle
  let month := marchMonth dayOfYear
  dateText (4 * (z / 1461) + yearOfCycle + month / 10) ((month + 2) % 12 + 1)
    (marchDayOfMonth dayOfYear)

/-- The label of a day. Both formatters change from the Julian to the Gregorian calendar. -/
def label (n : ℤ) : Text :=
  if n < gregorianChange then julianText n
  else
    dateText (LocalDate.ofEpochDay n).year (LocalDate.ofEpochDay n).month
      (LocalDate.ofEpochDay n).day

/-- A number is written without spaces. -/
theorem space_notMem_digits (n : ℕ) : ' ' ∉ Nat.toDigits 10 n :=
  (digitsAnd_toDigits [] n).not_mem (by decide)

/-- The name of a month has no space, so it ends where the year begins. -/
theorem space_notMem_monthName (month : ℤ) : ' ' ∉ monthName month := by
  have hnames : ∀ name ∈ monthNames, ' ' ∉ name := by decide
  rw [monthName, List.getD_eq_getElem?_getD]
  cases hname : monthNames[(month - 1).toNat]? with
  | none => exact List.not_mem_nil
  | some name => exact hnames name (List.mem_of_getElem? hname)

/-- The months have different names. -/
theorem monthName_inj {month month' : ℤ} (h1 : 1 ≤ month) (h2 : month ≤ 12) (h1' : 1 ≤ month')
    (h2' : month' ≤ 12) (h : monthName month = monthName month') : month = month' := by
  have hlt : (month - 1).toNat < monthNames.length := by
    rw [show monthNames.length = 12 from rfl]
    omega
  have hlt' : (month' - 1).toNat < monthNames.length := by
    rw [show monthNames.length = 12 from rfl]
    omega
  have hnodup : monthNames.Nodup := by decide
  rw [monthName, monthName, List.getD_eq_getElem?_getD, List.getD_eq_getElem?_getD,
    List.getElem?_eq_getElem hlt, List.getElem?_eq_getElem hlt', Option.getD_some,
    Option.getD_some, hnodup.getElem_inj_iff] at h
  omega

/-- The parts of a label are found at its spaces. -/
theorem splitOn_dateText (year month day : ℤ) :
    (dateText year month day).splitOn ' ' =
      [Nat.toDigits 10 day.toNat, monthName month,
        padStart (Nat.toDigits 10 (JavaTime.yearOfEra year).toNat) 4 '0'] := by
  have hyear : ' ' ∉ padStart (Nat.toDigits 10 (JavaTime.yearOfEra year).toNat) 4 '0' :=
    (digitsAnd_padStart [] _ 4).not_mem (by decide)
  rw [dateText, List.splitOn_append_cons_self_of_not_mem (space_notMem_digits _),
    List.splitOn_append_cons_self_of_not_mem (space_notMem_monthName _),
    List.splitOn_eq_singleton hyear]

/-- **Dates of the common era** have different texts. -/
theorem dateText_inj {d d' : LocalDate} (hyear : 1 ≤ d.year) (hyear' : 1 ≤ d'.year)
    (h : dateText d.year d.month d.day = dateText d'.year d'.month d'.day) : d = d' := by
  have hsplit := congrArg (List.splitOn ' ') h
  rw [splitOn_dateText, splitOn_dateText] at hsplit
  obtain ⟨hday, hsplit⟩ := List.cons.inj hsplit
  obtain ⟨hmonth, hsplit⟩ := List.cons.inj hsplit
  have hyears := congrArg (fun ds => Nat.ofDigitChars 10 ds 0) (List.cons.inj hsplit).1
  simp only [ofDigitChars_padStart] at hyears
  have hdays := congrArg (fun ds => Nat.ofDigitChars 10 ds 0) hday
  simp only [Nat.ofDigitChars_ten_toDigits] at hdays
  rw [JavaTime.yearOfEra, JavaTime.yearOfEra, if_pos hyear, if_pos hyear'] at hyears
  have hone := d.one_le_day
  have hone' := d'.one_le_day
  refine LocalDate.ext (by omega) ?_ (by omega)
  exact monthName_inj d.one_le_month d.month_le d'.one_le_month d'.month_le hmonth

/-- The Gregorian calendar was introduced in the common era. -/
theorem one_le_year {n : ℤ} (h : gregorianChange ≤ n) : 1 ≤ (LocalDate.ofEpochDay n).year := by
  have hmonth := LocalDate.marchMonth_bounds (n + 719528 - 60)
  have hlt := lt_marchDays_marchYear (n + 719528 - 60)
  have hyear := LocalDate.year_ofEpochDay n
  by_contra hnot
  have hmono := marchDays_mono (show marchYear (n + 719528 - 60) + 1 ≤ 1 by omega)
  have hone : marchDays 1 = 365 := by decide
  rw [gregorianChange] at h
  omega

/-- **Days since 1582** have different labels. -/
theorem label_inj {n n' : ℤ} (hn : gregorianChange ≤ n) (hn' : gregorianChange ≤ n')
    (h : label n = label n') : n = n' := by
  rw [label, label, if_neg (not_lt.mpr hn), if_neg (not_lt.mpr hn')] at h
  have hdate := dateText_inj (one_le_year hn) (one_le_year hn') h
  rw [← LocalDate.toEpochDay_ofEpochDay n, hdate, LocalDate.toEpochDay_ofEpochDay]

/-! ### The lists -/

/-- The filter above the list, the same in both apps. -/
inductive TransactionFilter
  | all
  | income
  | expense
  deriving DecidableEq, Repr

namespace Ios.TransactionsTabView

/-- `filteredTransactions` of the iOS list. -/
def filteredTransactions (filterType : TransactionFilter)
    (transactions : List TransactionObject) : List TransactionObject :=
  match filterType with
  | .all => transactions
  | .income => transactions.filter fun tx => tx.isIncome
  | .expense => transactions.filter fun tx => !tx.isIncome

/-- The label under which a transaction comes. -/
def dateString (zone : Zone) (transaction : TransactionObject) : Text :=
  label (zone.day (dateOfMillis transaction.timestampUtcMillis))

/-- `groupedTransactions`: the shown transactions by the text of their day. -/
def groupedTransactions (zone : Zone) (filterType : TransactionFilter)
    (transactions : List TransactionObject) : LinkedMap Text (List TransactionObject) :=
  groupBy (dateString zone) (filteredTransactions filterType transactions)

/-- The sections of the iOS list: the texts of the days are sorted as texts, the greatest first.
-/
def sections (zone : Zone) (filterType : TransactionFilter)
    (transactions : List TransactionObject) : List (Text × List TransactionObject) :=
  let grouped := groupedTransactions zone filterType transactions
  let sortedDates := (grouped.rows.map Prod.fst).insertionSort fun a b => b ≤ a
  sortedDates.map fun date => (date, (grouped.get date).getD [])

end Ios.TransactionsTabView

namespace TransactionsListScreen

/-- `filteredTransactions` of the Android list. -/
def filteredTransactions (selectedFilter : TransactionFilter) (transactions : List Transaction) :
    List Transaction :=
  match selectedFilter with
  | .all => transactions
  | .income => transactions.filter fun tx => tx.type == .income
  | .expense => transactions.filter fun tx => tx.type == .expense

/-- `groupTransactionsByDate`: the transactions are sorted by their time before they are grouped
by the text of their day. -/
def groupTransactionsByDate (zone : Zone) (transactions : List Transaction) :
    List (Text × List Transaction) :=
  (groupBy (fun tx => label (zone.day tx.timestampUtcMillis))
    (transactions.insertionSort fun a b => b.timestampUtcMillis ≤ a.timestampUtcMillis)).rows

end TransactionsListScreen

/-- What one of the two apps has to show. -/
inductive DayList
  | ios (filterType : TransactionFilter) (transactions : List Ios.TransactionObject)
  | android (selectedFilter : TransactionFilter) (transactions : List Transaction)

/-- Sections by the day, from the newest to the oldest, each under the label of its day. -/
structure GroupsByDay {α : Type} (zone : Zone) (millis : α → ℤ) (transactions : List α)
    (sections : List (Text × List α)) : Prop where
  grouped : GroupedBy (fun tx => zone.day (millis tx)) transactions sections
  labelled : ∀ s ∈ sections, ∀ tx ∈ s.2, s.1 = label (zone.day (millis tx))

namespace DayList

/-- **The transactions are grouped by day**, in chronological order. -/
def GroupsByDay (zone : Zone) : DayList → Prop
  | ios filterType transactions =>
      SpendCraft.GroupsByDay zone (fun tx => tx.timestampUtcMillis)
        (Ios.TransactionsTabView.filteredTransactions filterType transactions)
        (Ios.TransactionsTabView.sections zone filterType transactions)
  | android selectedFilter transactions =>
      SpendCraft.GroupsByDay zone (fun tx => tx.timestampUtcMillis)
        (TransactionsListScreen.filteredTransactions selectedFilter transactions)
        (TransactionsListScreen.groupTransactionsByDate zone
          (TransactionsListScreen.filteredTransactions selectedFilter transactions))

/-- No two days of the list have one label. On iOS, the labels are in the order of the days,
too, and the milliseconds do not matter. -/
def LabelsDays (zone : Zone) : DayList → Prop
  | ios filterType transactions =>
      let shown := Ios.TransactionsTabView.filteredTransactions filterType transactions
      (∀ tx ∈ shown, label (zone.day (Ios.dateOfMillis tx.timestampUtcMillis)) =
        label (zone.day tx.timestampUtcMillis)) ∧
      ∀ tx ∈ shown, ∀ tx' ∈ shown,
        zone.day tx.timestampUtcMillis < zone.day tx'.timestampUtcMillis →
          label (zone.day tx.timestampUtcMillis) < label (zone.day tx'.timestampUtcMillis)
  | android selectedFilter transactions =>
      let shown := TransactionsListScreen.filteredTransactions selectedFilter transactions
      ∀ tx ∈ shown, ∀ tx' ∈ shown,
        label (zone.day tx.timestampUtcMillis) = label (zone.day tx'.timestampUtcMillis) →
          zone.day tx.timestampUtcMillis = zone.day tx'.timestampUtcMillis

/-! ### The iOS app -/

variable {zone : Zone}

/-- The sections of iOS as sections by a label, under the sorted labels. -/
theorem sections_eq (zone : Zone) (filterType : TransactionFilter)
    (transactions : List Ios.TransactionObject) :
    Ios.TransactionsTabView.sections zone filterType transactions =
      Grouping.sections (Ios.TransactionsTabView.dateString zone)
        ((LinkedMap.firstKeys ((Ios.TransactionsTabView.filteredTransactions filterType
          transactions).map (Ios.TransactionsTabView.dateString zone))).insertionSort
            fun a b => b ≤ a)
        (Ios.TransactionsTabView.filteredTransactions filterType transactions) := by
  simp only [Ios.TransactionsTabView.sections, Ios.TransactionsTabView.groupedTransactions,
    keys_groupBy, getD_get_groupBy]
  rfl

/-- The labels in the reverse order of the texts. -/
theorem pairwise_sortedDates {dates : List Text} (hnodup : dates.Nodup) :
    (dates.insertionSort fun a b => b ≤ a).Pairwise fun a b => b < a := by
  have hsorted := List.pairwise_insertionSort (fun a b : Text => a ≥ b) dates
  have hdistinct := (List.perm_insertionSort (fun a b : Text => b ≤ a) dates).nodup_iff.mpr hnodup
  refine (hsorted.and hdistinct).imp ?_
  rintro a b ⟨hle, hne⟩
  exact lt_of_le_of_ne hle hne.symm

/-- Where the labels are those of the days, transactions of one day have one label. -/
theorem dateString_congr {shown : List Ios.TransactionObject}
    (hlabel : ∀ tx ∈ shown, Ios.TransactionsTabView.dateString zone tx =
      label (zone.day tx.timestampUtcMillis)) :
    ∀ tx ∈ shown, ∀ tx' ∈ shown,
      zone.day tx.timestampUtcMillis = zone.day tx'.timestampUtcMillis →
        Ios.TransactionsTabView.dateString zone tx =
          Ios.TransactionsTabView.dateString zone tx' := by
  intro tx htx tx' htx' hday
  rw [hlabel tx htx, hlabel tx' htx', hday]

/-- The iOS list groups by day exactly if its labels tell the days apart and sort as the days do.
-/
theorem groupsByDay_ios_iff (filterType : TransactionFilter)
    (transactions : List Ios.TransactionObject) :
    (ios filterType transactions).GroupsByDay zone ↔
      (ios filterType transactions).LabelsDays zone := by
  rw [GroupsByDay, LabelsDays, sections_eq]
  generalize Ios.TransactionsTabView.filteredTransactions filterType transactions = shown
  generalize hdates : (LinkedMap.firstKeys (shown.map
    (Ios.TransactionsTabView.dateString zone))).insertionSort (fun a b => b ≤ a) = dates
  have hsorted : dates.Pairwise fun a b => b < a := by
    rw [← hdates]
    exact pairwise_sortedDates nodup_firstKeys
  have hkeys : ∀ k, k ∈ dates ↔ k ∈ shown.map (Ios.TransactionsTabView.dateString zone) := by
    intro k
    rw [← hdates, (List.perm_insertionSort _ _).mem_iff, mem_firstKeys]
  have hmem : ∀ tx ∈ shown, Ios.TransactionsTabView.dateString zone tx ∈ dates :=
    fun tx htx => (hkeys _).mpr (List.mem_map_of_mem htx)
  constructor
  · rintro ⟨hgrouped, hlabelled⟩
    have hlabel := (forall_sections_iff hmem).mp hlabelled
    refine ⟨hlabel, ?_⟩
    have horder := (groupedBy_sections_iff_of_sorted (dateString_congr hlabel) hsorted hkeys).mp
      hgrouped
    intro tx htx tx' htx' hlt
    rw [← hlabel tx htx, ← hlabel tx' htx']
    exact horder tx htx tx' htx' hlt
  · rintro ⟨hlabel, horder⟩
    refine ⟨?_, (forall_sections_iff hmem).mpr hlabel⟩
    refine (groupedBy_sections_iff_of_sorted (dateString_congr hlabel) hsorted hkeys).mpr ?_
    intro tx htx tx' htx' hlt
    have hlt' := horder tx htx tx' htx' hlt
    rw [← hlabel tx htx, ← hlabel tx' htx'] at hlt'
    exact hlt'

/-! ### The Android app -/

/-- Sorted by time, transactions are sorted by day. -/
theorem sorted_transactions (zone : Zone) (transactions : List Transaction) :
    (transactions.insertionSort fun a b => b.timestampUtcMillis ≤ a.timestampUtcMillis).Pairwise
      fun a b => zone.day b.timestampUtcMillis ≤ zone.day a.timestampUtcMillis := by
  have hsorted := List.pairwise_insertionSort
    (Order.Preimage Transaction.timestampUtcMillis (· ≥ ·)) transactions
  exact hsorted.imp fun hle => zone.monotone_day hle

/-- The Android list groups by day under the same condition on its labels. -/
theorem groupsByDay_android_iff (selectedFilter : TransactionFilter)
    (transactions : List Transaction) :
    (android selectedFilter transactions).GroupsByDay zone ↔
      (android selectedFilter transactions).LabelsDays zone := by
  rw [GroupsByDay, LabelsDays, TransactionsListScreen.groupTransactionsByDate]
  generalize TransactionsListScreen.filteredTransactions selectedFilter transactions = shown
  have hperm := List.perm_insertionSort
    (fun a b : Transaction => b.timestampUtcMillis ≤ a.timestampUtcMillis) shown
  have hsorted := sorted_transactions zone shown
  generalize shown.insertionSort (fun a b => b.timestampUtcMillis ≤ a.timestampUtcMillis) =
    sorted at hperm hsorted ⊢
  have hiff := @groupedBy_groupBy_iff _ _ _ _ (fun tx : Transaction =>
    label (zone.day tx.timestampUtcMillis)) sorted _
      (fun tx => zone.day tx.timestampUtcMillis) (fun _ _ _ _ hday => congrArg label hday) hsorted
  simp only [hperm.mem_iff] at hiff
  rw [← hiff]
  constructor
  · intro h
    exact h.grouped.of_perm hperm.symm
  · intro h
    refine ⟨h.of_perm hperm, ?_⟩
    rw [rows_groupBy]
    exact (forall_sections_iff fun tx htx =>
      mem_firstKeys.mpr (List.mem_map_of_mem htx)).mpr fun _ _ => rfl

/-- **On Android**, days since 1582 are always grouped. -/
theorem groupsByDay_android {selectedFilter : TransactionFilter} {transactions : List Transaction}
    (h : ∀ tx ∈ TransactionsListScreen.filteredTransactions selectedFilter transactions,
      gregorianChange ≤ zone.day tx.timestampUtcMillis) :
    (android selectedFilter transactions).GroupsByDay zone := by
  rw [groupsByDay_android_iff]
  intro tx htx tx' htx' hlabel
  exact label_inj (h tx htx) (h tx' htx') hlabel

/-- **When the transactions are grouped by day.** -/
theorem groupsByDay_iff (zone : Zone) (list : DayList) :
    list.GroupsByDay zone ↔ list.LabelsDays zone := by
  cases list with
  | ios filterType transactions => exact groupsByDay_ios_iff filterType transactions
  | android selectedFilter transactions =>
      exact groupsByDay_android_iff selectedFilter transactions

/-- An expense on a day of 1970 or later, in UTC. -/
def expenseOn (day : ℤ) : Ios.TransactionObject :=
  { id := day
    amountMinor := 1000
    timestampUtcMillis := day * 86400000
    note := none
    categoryId := 1
    accountId := 1
    isIncome := false
    objectID := day
    category := none
    account := none }

/-- Expenses on 2 and on 10 January 2024: the older section comes first. -/
theorem not_groupsByDay_january :
    (Ios.TransactionsTabView.sections (Zone.fixed 0) .all [expenseOn 19732, expenseOn 19724]).map
        Prod.fst = ["2 Ocak 2024".toList, "10 Ocak 2024".toList] ∧
      ¬ (ios .all [expenseOn 19732, expenseOn 19724]).GroupsByDay (Zone.fixed 0) := by
  refine ⟨by decide, ?_⟩
  rw [groupsByDay_ios_iff]
  rintro ⟨-, horder⟩
  have hlt := horder (expenseOn 19724) (by decide) (expenseOn 19732) (by decide) (by decide)
  exact absurd hlt (by decide)

end DayList

end SpendCraft
