import SpendCraft.BudgetScreens
import SpendCraft.CategoryRoundTrip
import SpendCraft.Lib.Binary64Sum
import SpendCraft.Lib.LinkedMap

/-!
# The Categories Tab

The tab looks up the limit and the spending of a category by its id. The maps it is given
have other keys: budgets are stored under the text of an id or under a name, according to
the screen they were saved on, and spending is summed under names. A key that is not a
number is read as the id `0`.

## Conventions

The budgets are followed with the category that each was saved for, which the table does not
store: an `OwnedBudget` is a row and its owner, and forgetting the owners gives the table back
(`rows_budgets`). Minor units are turned into a `Double` in major units by a rounded division. A
key that `toLongOrNull` cannot read becomes the id `0`, as in the source. Of several keys with one
id the last one counts, for limits in the order of the table, for spending in the order in which
the names first have an expense.

## Proof

What the row of a category shows is first stated by the keys that are read as its id, and only
then compared with its own limit and spending. The maps are built by folds in which a later entry
hides an earlier one, which is `LinkedMap.associate`. The property `ShowsOwn` is about two stores
that may differ in other categories, and the condition `KeysLeadTo` is asked of each of them.

## Main results

* `rows_budgets`: the stored budgets, each with the category that it was saved for.
* `limit_row`, `spent_row`: what the tab shows of a category, in terms of the keys that are
  read as its id.
* `showsOwn_iff`: when the tab shows the limit and the spending of the category itself.
-/

namespace SpendCraft

open Kotlin Relational BudgetRepositoryImpl

/-! ### Budgets and the categories they are for -/

/-- What the two screens do to the stored budgets. The dialog of the budget screen changes a
stored budget under the key that it has. -/
inductive BudgetEdit
  | save (screen : BudgetScreen) (category : CategoryEntity) (limit : Int64)
  | change (key : Text) (limit : Int64)
  | delete (key : Text)

/-- A stored budget and the id of the category that it was saved for. -/
structure OwnedBudget where
  owner : ℤ
  budget : BudgetEntity
  deriving DecidableEq

/-- The key of an owned budget is that of its budget. -/
def OwnedBudget.key (owned : OwnedBudget) : Text :=
  owned.budget.categoryId

namespace BudgetEdit

/-- The store after an edit. A change of a limit goes to the budget of the key, if there is one.
-/
def step (db : Database) : BudgetEdit → Database
  | save screen category limit => upsertBudget (screen.budget category limit) db
  | change key limit =>
      match db.budgets.rows.find? fun budget => decide (budget.categoryId = key) with
      | some _ => upsertBudget { categoryId := key, monthlyLimitMinor := limit } db
      | none => db
  | delete key => deleteBudget key db

/-- The same for budgets with their categories. -/
def stepOwned (budgets : Table OwnedBudget.key) : BudgetEdit → Table OwnedBudget.key
  | save screen category limit =>
      budgets.insertOrReplace
        { owner := category.id
          budget := { categoryId := screen.categoryId category, monthlyLimitMinor := limit } }
  | change key limit =>
      match budgets.rows.find? fun owned => decide (owned.key = key) with
      | some owned =>
          budgets.insertOrReplace
            { owner := owned.owner, budget := { categoryId := key, monthlyLimitMinor := limit } }
      | none => budgets
  | delete key => budgets.deleteWhere fun owned => owned.key == key

/-- Storing an owned budget is storing its budget. -/
theorem rows_insertOrReplace_owned {db : Database} {budgets : Table OwnedBudget.key}
    (h : db.budgets.rows = budgets.rows.map OwnedBudget.budget) (owned : OwnedBudget) :
    (db.budgets.insertOrReplace owned.budget).rows =
      (budgets.insertOrReplace owned).rows.map OwnedBudget.budget := by
  rw [Table.rows_insertOrReplace, Table.rows_insertOrReplace, h, List.map_append,
    List.filter_map]
  rfl

/-- **One edit** does the same to the budgets with and without their categories. -/
theorem rows_step {db : Database} {budgets : Table OwnedBudget.key}
    (h : db.budgets.rows = budgets.rows.map OwnedBudget.budget) (edit : BudgetEdit) :
    (step db edit).budgets.rows = (stepOwned budgets edit).rows.map OwnedBudget.budget := by
  cases edit with
  | save screen category limit =>
      exact rows_insertOrReplace_owned h
        { owner := category.id
          budget := { categoryId := screen.categoryId category, monthlyLimitMinor := limit } }
  | change key limit =>
      have hfind : (db.budgets.rows.find? fun budget => decide (budget.categoryId = key)) =
          (budgets.rows.find? fun owned => decide (owned.key = key)).map OwnedBudget.budget := by
        rw [h, List.find?_map]
        rfl
      rw [step, stepOwned, hfind]
      cases budgets.rows.find? fun owned => decide (owned.key = key) with
      | none => exact h
      | some owned =>
          exact rows_insertOrReplace_owned h
            { owner := owned.owner
              budget := { categoryId := key, monthlyLimitMinor := limit } }
  | delete key =>
      have hrows : (step db (delete key)).budgets.rows =
          db.budgets.rows.filter fun budget => !(budget.categoryId == key) := rfl
      rw [hrows, h, List.filter_map]
      rfl

end BudgetEdit

/-- The budgets after the edits. -/
def ownedAfter (edits : List BudgetEdit) : Table OwnedBudget.key :=
  edits.foldl BudgetEdit.stepOwned (Table.empty _)

/-- **The stored budgets** are the ones that were saved, each for its category. -/
theorem rows_budgets (edits : List BudgetEdit) :
    (edits.foldl BudgetEdit.step Database.empty).budgets.rows =
      (ownedAfter edits).rows.map OwnedBudget.budget := by
  rw [ownedAfter]
  induction edits using List.reverseRecOn with
  | nil => rfl
  | append_singleton edits edit ih =>
      rw [List.foldl_append, List.foldl_append]
      exact BudgetEdit.rows_step ih edit

/-! ### The inputs of the tab -/

/-- `value / 100.0` -/
def inMajorUnits (minorUnits : ℤ) : ℚ :=
  Binary64.signedRounded (Binary64.signedRounded minorUnits / 100)

/-- Nothing spent is the `Double` zero. -/
theorem inMajorUnits_zero : inMajorUnits 0 = 0 := by
  rw [inMajorUnits, Int.cast_zero, Binary64.signedRounded_zero, zero_div,
    Binary64.signedRounded_zero]

/-- `observeBudgets`: the budgets as they are stored. -/
def BudgetRepositoryImpl.observeBudgets (db : Database) : List Budget :=
  db.budgets.rows.map fun entity =>
    { categoryId := entity.categoryId
      monthlyLimitMinor := entity.monthlyLimitMinor }

/-- What `getSpentAmountsByCategory` makes of the lists it reads: the map that it fills, in the
order of its keys. -/
def TransactionsRepositoryImpl.spentByCategory (now : ℤ) (transactions : List TransactionEntity)
    (categories : List CategoryEntity) : LinkedMap Text Int64 :=
  LinkedMap.sums (fun tx => (categoryNameOf categories tx).getD "Bilinmeyen".toList)
    TransactionEntity.amountMinor
    (transactions.filter (isMonthExpense (getMonthBoundaries now)))

/-- The map that `getSpentAmountsByCategory` fills from the database. -/
def TransactionsRepositoryImpl.spentAmounts (now : ℤ) (db : Database) :
    LinkedMap Text Int64 :=
  spentByCategory now (TxDao.getAllAscending db) (CategoryDao.getAllAscending db)

/-- The entries of the map. -/
theorem TransactionsRepositoryImpl.get_spentAmounts (now : ℤ) (db : Database) (name : Text) :
    (spentAmounts now db).get name = getSpentAmountsByCategory now db name :=
  LinkedMap.get_sums _

/-- The id that the tab takes a key for. -/
def MainTabNavigation.idOf (key : Text) : ℤ :=
  (toLongOrNull key).getD 0

namespace MainTabNavigation

/-- `budgetMap`: the limits by the ids that the keys of the budgets stand for, the last one
counting. -/
def budgetMap (budgets : List Budget) : ℤ → Option ℚ :=
  LinkedMap.associate <| budgets.map fun budget =>
    (idOf budget.categoryId, inMajorUnits budget.monthlyLimitMinor.toInt)

/-- `spentAmounts`: the sums by the ids that the names stand for. -/
def spentAmounts (spentAmountsRaw : LinkedMap Text Int64) : ℤ → Option ℚ :=
  LinkedMap.renamed idOf (fun value : Int64 => inMajorUnits value.toInt) spentAmountsRaw

end MainTabNavigation

/-- What the row of a category shows. -/
structure CategoryRow where
  budgetLimit : Option ℚ
  spentAmount : ℚ
  deriving DecidableEq

/-- The row of a category: its limit, if any, and what was spent, zero if nothing is found. -/
def IOSCategoriesScreen.row (budgets spent : ℤ → Option ℚ) (category : CategoryEntity) :
    CategoryRow :=
  { budgetLimit := budgets category.id
    spentAmount := (spent category.id).getD 0 }

/-! ### The tab over a store -/

/-- A store whose budgets come from the two screens, at a time. -/
structure CategoriesTab where
  db : Database
  now : ℤ
  edits : List BudgetEdit
  budgets_eq : db.budgets = (edits.foldl BudgetEdit.step Database.empty).budgets
  nodup_names : (db.categories.rows.map CategoryEntity.name).Nodup

namespace CategoriesTab

variable (tab : CategoriesTab) (category : CategoryEntity)

/-- The row that the tab shows for a category. -/
def row : CategoryRow :=
  IOSCategoriesScreen.row (MainTabNavigation.budgetMap (observeBudgets tab.db))
    (MainTabNavigation.spentAmounts (TransactionsRepositoryImpl.spentAmounts tab.now tab.db))
    category

/-- The latest of the budgets that were saved for the category. -/
def ownBudget : Option OwnedBudget :=
  ((ownedAfter tab.edits).rows.filter fun owned => decide (owned.owner = category.id)).getLast?

/-- The latest of the budgets whose key is taken for the id of the category. -/
def budgetReadAs : Option OwnedBudget :=
  ((ownedAfter tab.edits).rows.filter fun owned =>
    decide (MainTabNavigation.idOf owned.key = category.id)).getLast?

/-- The names under which the month has expenses, in the order of the first ones. -/
def spentNames : List Text :=
  LinkedMap.firstKeys <| ((TxDao.getAllAscending tab.db).filter
    (isMonthExpense (getMonthBoundaries tab.now))).map fun tx =>
      (categoryNameOf (CategoryDao.getAllAscending tab.db) tx).getD "Bilinmeyen".toList

/-- The last of these names that is taken for the id of the category. -/
def nameReadAs : Option Text :=
  (tab.spentNames.filter fun name =>
    decide (MainTabNavigation.idOf name = category.id)).getLast?

/-- The sum of the expenses of the month under a name. -/
def spendingUnder (name : Text) : ℤ :=
  ((tab.db.transactions.rows.filter fun tx =>
    isMonthExpense (getMonthBoundaries tab.now) tx &&
      decide ((categoryNameOf (CategoryDao.getAllAscending tab.db) tx).getD
        "Bilinmeyen".toList = name)).map fun tx => tx.amountMinor.toInt).sum

/-- The limit of a budget as it is shown. -/
def shownLimit (budget : Option OwnedBudget) : Option ℚ :=
  budget.map fun owned => inMajorUnits owned.budget.monthlyLimitMinor.toInt

/-- The row that the category should have. -/
def ownRow : CategoryRow :=
  { budgetLimit := shownLimit (tab.ownBudget category)
    spentAmount := inMajorUnits (spendingOf tab.now category tab.db) }

/-- The stores differ in the transactions and budgets of other categories only. -/
structure SameFor (tab' : CategoriesTab) : Prop where
  now_eq : tab'.now = tab.now
  transactions : (tab'.db.transactions.rows.filter fun tx => tx.categoryId == some category.id) =
    tab.db.transactions.rows.filter fun tx => tx.categoryId == some category.id
  budgets : ((ownedAfter tab'.edits).rows.filter fun owned =>
      decide (owned.owner = category.id)) =
    (ownedAfter tab.edits).rows.filter fun owned => decide (owned.owner = category.id)

/-- In two stores the tab shows the category its own limit and spending, the same ones if
the stores differ in other categories only. -/
structure ShowsOwn (tab' : CategoriesTab) : Prop where
  row_eq : tab.row category = tab.ownRow category
  row_eq' : tab'.row category = tab'.ownRow category
  unchanged : tab.SameFor category tab' → tab'.row category = tab.row category

/-- The keys that are taken for the id of the category lead to its own limit and spending. -/
structure KeysLeadTo : Prop where
  limit : shownLimit (tab.budgetReadAs category) = shownLimit (tab.ownBudget category)
  spending : inMajorUnits (((tab.nameReadAs category).map fun name =>
      (tab.spendingUnder name).bmod (2 ^ 64)).getD 0) =
    inMajorUnits (spendingOf tab.now category tab.db)

/-- **The limit** is the one of the latest budget whose key is taken for the id. -/
theorem limit_row :
    (tab.row category).budgetLimit = shownLimit (tab.budgetReadAs category) := by
  have hrows : tab.db.budgets.rows = (ownedAfter tab.edits).rows.map OwnedBudget.budget := by
    rw [tab.budgets_eq, rows_budgets]
  rw [row, IOSCategoriesScreen.row, MainTabNavigation.budgetMap, LinkedMap.associate_apply,
    observeBudgets, hrows, List.map_map, List.map_map, List.filter_map, List.getLast?_map,
    Option.map_map, shownLimit, budgetReadAs]
  rfl

/-- The sum under a name that has expenses. -/
theorem get_spentAmounts {name : Text} (h : name ∈ tab.spentNames) :
    ((TransactionsRepositoryImpl.spentAmounts tab.now tab.db).get name).map
        (fun value : Int64 => value.toInt) =
      some ((tab.spendingUnder name).bmod (2 ^ 64)) := by
  have hkeys : (TransactionsRepositoryImpl.spentAmounts tab.now tab.db).rows.map Prod.fst =
      tab.spentNames := LinkedMap.keys_sums _
  have hsome : (TransactionsRepositoryImpl.spentAmounts tab.now tab.db).get name ≠ none := by
    rw [Ne, LinkedMap.get_eq_none_iff, hkeys, not_not]
    exact h
  rw [TransactionsRepositoryImpl.get_spentAmounts,
    TransactionsRepositoryImpl.getSpentAmountsByCategory, SumsByKey.sumsByKey_apply,
    SumsByKey.total] at hsome ⊢
  split_ifs at hsome ⊢
  · exact absurd rfl hsome
  · have hperm := ((List.perm_insertionSort (fun a b : TransactionEntity =>
      a.timestampUtcMillis ≤ b.timestampUtcMillis) tab.db.transactions.rows).filter fun tx =>
        isMonthExpense (getMonthBoundaries tab.now) tx &&
          decide ((categoryNameOf (CategoryDao.getAllAscending tab.db) tx).getD
            "Bilinmeyen".toList = name)).map fun tx => tx.amountMinor.toInt
    rw [Option.map_some, toInt_foldl_add, Int64.toInt_zero, zero_add, List.filter_filter,
      List.map_map, spendingUnder, ← hperm.sum_eq]
    congr 4
    apply List.filter_congr
    intro tx _
    rw [Bool.and_comm]
    congr 1

/-- **The spending** is the sum under the last name that is taken for the id. -/
theorem spent_row :
    (tab.row category).spentAmount =
      inMajorUnits (((tab.nameReadAs category).map fun name =>
        (tab.spendingUnder name).bmod (2 ^ 64)).getD 0) := by
  have hkeys : (TransactionsRepositoryImpl.spentAmounts tab.now tab.db).rows.map Prod.fst =
      tab.spentNames := LinkedMap.keys_sums _
  rw [row, IOSCategoriesScreen.row, MainTabNavigation.spentAmounts, LinkedMap.renamed_apply, hkeys,
    ← nameReadAs]
  cases hname : tab.nameReadAs category with
  | none => exact inMajorUnits_zero.symm
  | some name =>
      have hmem : name ∈ tab.spentNames := List.mem_of_mem_filter (List.mem_of_getLast? hname)
      obtain ⟨value, hvalue, hsum⟩ := Option.map_eq_some_iff.mp (tab.get_spentAmounts hmem)
      rw [Option.bind_some, hvalue, Option.map_some, Option.map_some, Option.getD_some,
        Option.getD_some, hsum]

/-- The row shows the category's own numbers exactly if the keys of the store lead to it. -/
theorem row_eq_ownRow_iff :
    tab.row category = tab.ownRow category ↔ tab.KeysLeadTo category := by
  constructor
  · intro hrow
    refine ⟨?_, ?_⟩
    · rw [← tab.limit_row, hrow]
      rfl
    · rw [← tab.spent_row, hrow]
      rfl
  · rintro ⟨hlimit, hspending⟩
    rw [← tab.limit_row] at hlimit
    rw [← tab.spent_row] at hspending
    calc tab.row category = ⟨(tab.row category).budgetLimit, (tab.row category).spentAmount⟩ := rfl
      _ = tab.ownRow category := by rw [hlimit, hspending]; rfl

/-- Its own row does not depend on other categories. -/
theorem ownRow_congr {tab' : CategoriesTab} (h : tab.SameFor category tab') :
    tab'.ownRow category = tab.ownRow category := by
  obtain ⟨hnow, htransactions, hbudgets⟩ := h
  have hspending : spendingOf tab'.now category tab'.db = spendingOf tab.now category tab.db := by
    rw [spendingOf, spendingOf, ← List.filter_filter, ← List.filter_filter, hnow, htransactions]
  rw [ownRow, ownRow, ownBudget, ownBudget, hbudgets, hspending]

/-- **The tab shows the category's own data** just when the keys that are taken for its id
lead to them, in both stores. -/
theorem showsOwn_iff (tab' : CategoriesTab) :
    tab.ShowsOwn category tab' ↔ tab.KeysLeadTo category ∧ tab'.KeysLeadTo category := by
  rw [← row_eq_ownRow_iff, ← row_eq_ownRow_iff]
  constructor
  · rintro ⟨hrow, hrow', -⟩
    exact ⟨hrow, hrow'⟩
  · rintro ⟨hrow, hrow'⟩
    refine ⟨hrow, hrow', ?_⟩
    intro hsame
    rw [hrow, hrow', tab.ownRow_congr category hsame]

end CategoriesTab

/-- Two categories with expenses, and no budgets. -/
def twoExpenses : CategoriesTab :=
  { db := { Call.twoExceeded with budgets := Table.empty _ }
    now := 0
    edits := []
    budgets_eq := rfl
    nodup_names := by decide }

/-- The tab shows that nothing was spent on food. -/
theorem not_showsOwn_twoExpenses :
    ¬twoExpenses.ShowsOwn
      { id := 1, name := "Food".toList, color := [], icon := none, isIncome := false }
      twoExpenses := by
  rintro ⟨hrow, -, -⟩
  rw [CategoriesTab.row_eq_ownRow_iff] at hrow
  have hnames : twoExpenses.nameReadAs
      { id := 1, name := "Food".toList, color := [], icon := none, isIncome := false } = none := by
    decide
  have hspending : spendingOf twoExpenses.now
      { id := 1, name := "Food".toList, color := [], icon := none, isIncome := false }
      twoExpenses.db = 500 := by
    decide
  have hspent := hrow.spending
  have hfive : inMajorUnits 500 = 5 := by
    have hhundreds : Binary64.signedRounded (500 : ℤ) = 500 :=
      Binary64.signedRounded_intCast (by norm_num)
    have hquotient : Binary64.signedRounded (5 : ℤ) = 5 :=
      Binary64.signedRounded_intCast (by norm_num)
    norm_num at hhundreds hquotient
    rw [inMajorUnits]
    norm_num [hhundreds, hquotient]
  rw [hnames, hspending, Option.map_none, Option.getD_none, inMajorUnits_zero, hfive] at hspent
  norm_num at hspent

end SpendCraft
