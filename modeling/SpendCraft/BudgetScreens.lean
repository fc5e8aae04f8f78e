import SpendCraft.Repositories
import SpendCraft.BudgetBreaches
import SpendCraft.Lib.Binary64

/-!
# Budgets from the Screens

Two screens of the Android app save budgets. The dialog of the budget screen stores the name
of the category as the key of the budget, the Categories tab the text of its id.
`checkBudgetBreaches` compares the key with the names of categories.

## Conventions

A budget is a row with a text for its key. The dialog of one screen stores the name of the
category and the tab the text of its id, and neither knows what the other does. The later check is
one that runs alone and without a failure, on the store after the save, at any times; writes
between the save and the check are part of the store. The spending is a `Long` that wraps, and so
is a hundred times it, which is what the level is computed from.

## Proof

A check returns the messages of the budgets in their order, and the message of one budget depends
on its key, its limit and the spending under that key (`newMessage`). So two tables lead to the
same messages, up to the order, if and only if they do so under every name
(`perm_newMessages_iff`). The equivalence compares the tables that the two screens leave, under
the two keys they write.

## Main results

* `newMessage_eq_none_iff`: when a budget has nothing new to report, by the exact spending.
* `perm_newMessages_iff`: when two budget tables lead to the same messages.
* `isEnforced_iff`: when a budget is enforced whichever screen it was saved on.
* `keysAgree_iff_of_fits`: where the spending is not too large, that is a matter of the keys.
-/

namespace SpendCraft

open Kotlin Relational BudgetRepositoryImpl

/-! ### The screens -/

/-- The two screens on which a budget is saved. -/
inductive BudgetScreen
  | categoriesTab
  | budgetManagement
  deriving DecidableEq, Repr

namespace BudgetScreen

/-- What a screen takes as the key of the budget of a category. -/
def categoryId (category : CategoryEntity) : BudgetScreen → Text
  | categoriesTab => intText category.id
  | budgetManagement => category.name

/-- The budget that the screen saves for a category. -/
def budget (category : CategoryEntity) (limit : Int64) (screen : BudgetScreen) : Budget :=
  { categoryId := screen.categoryId category
    monthlyLimitMinor := limit }

end BudgetScreen

/-- The callback of the Categories tab. -/
def MainTabNavigation.onSaveBudget (categoryId : ℤ) (amount : Binary64.Value) : Budget :=
  { categoryId := intText categoryId
    monthlyLimitMinor := Int64.ofInt (amount.times 100).toLong }

/-- The callback makes the budget of the tab. -/
theorem MainTabNavigation.onSaveBudget_eq (category : CategoryEntity) (amount : Binary64.Value) :
    onSaveBudget category.id amount =
      BudgetScreen.categoriesTab.budget category (Int64.ofInt (amount.times 100).toLong) :=
  rfl

/-- The button of the dialog; `none` where it saves nothing. -/
def BudgetDialog.onSave (selectedCategory amount : Text) : Option Budget :=
  let amountMinor : Int64 := ((toLongOrNull amount).map fun n => Int64.ofInt n * 100).getD 0
  if selectedCategory ≠ [] ∧ 0 < amountMinor then
    some { categoryId := selectedCategory, monthlyLimitMinor := amountMinor }
  else none

/-- In the dialog, a category is selected by its name: the button makes the budget of the screen. -/
theorem BudgetDialog.eq_budget_of_onSave {category : CategoryEntity} {amount : Text}
    {budget : Budget} (h : onSave category.name amount = some budget) :
    budget = BudgetScreen.budgetManagement.budget category budget.monthlyLimitMinor := by
  rw [onSave] at h
  split_ifs at h
  obtain rfl := Option.some_inj.mp h
  rfl

/-! ### Spending -/

/-- The sum of the expenses of the month in a category. -/
def spendingOf (boundariesNow : ℤ) (category : CategoryEntity) (db : Database) : ℤ :=
  ((db.transactions.rows.filter fun tx => isMonthExpense (getMonthBoundaries boundariesNow) tx &&
    tx.categoryId == some category.id).map fun tx => tx.amountMinor.toInt).sum

/-- The sum of the expenses of the month in the categories of a name. -/
def spendingNamed (boundariesNow : ℤ) (name : Text) (db : Database) : ℤ :=
  ((db.transactions.rows.filter fun tx => isMonthExpense (getMonthBoundaries boundariesNow) tx &&
    db.categories.rows.any fun c => tx.categoryId == some c.id && c.name == name).map
      fun tx => tx.amountMinor.toInt).sum

/-- A hundred times the spending, as a `Long`. -/
def hundredfold (boundariesNow : ℤ) (name : Text) (db : Database) : ℤ :=
  (100 * spendingNamed boundariesNow name db).bmod (2 ^ 64)

/-- The alert of a level is recorded for the month. -/
def IsRecorded (keyNow : ℤ) (name : Text) (level : ℤ) (db : Database) : Prop :=
  { categoryId := name, level := level, monthKey := getCurrentMonthKey keyNow } ∈
    db.budgetAlerts.rows

/-- Whether an alert is recorded is looked up in the table. -/
instance (keyNow : ℤ) (name : Text) (level : ℤ) (db : Database) :
    Decidable (IsRecorded keyNow name level db) :=
  inferInstanceAs (Decidable (_ ∈ _))

/-- A limit under a name has nothing new to report. -/
def Quiet (keyNow boundariesNow : ℤ) (db : Database) (name : Text) (limit : Int64) : Prop :=
  limit ≤ 0 ∨
    hundredfold boundariesNow name db < 80 * limit.toInt ∨
    (hundredfold boundariesNow name db < 100 * limit.toInt ∧ IsRecorded keyNow name 80 db) ∨
    (100 * limit.toInt ≤ hundredfold boundariesNow name db ∧ IsRecorded keyNow name 100 db)

/-- Whether a budget is quiet is computed from the store. -/
instance (keyNow boundariesNow : ℤ) (db : Database) (name : Text) (limit : Int64) :
    Decidable (Quiet keyNow boundariesNow db name limit) :=
  inferInstanceAs (Decidable (_ ∨ _))

/-- The limit that a message shows. -/
def BreachMessage.limit : BreachMessage → Int64
  | .exceeded _ _ limit => limit
  | .warning _ _ limit _ => limit

variable {keyNow boundariesNow : ℤ} {db : Database} {name : Text} {limit limit' : Int64}

/-- The category that is found for a transaction has the name. -/
theorem categoryNameOf_eq_some_iff {tx : TransactionEntity} :
    categoryNameOf (CategoryDao.getAllAscending db) tx = some name ↔
      ∃ c ∈ db.categories.rows, tx.categoryId = some c.id ∧ c.name = name := by
  have hmem : ∀ c, c ∈ CategoryDao.getAllAscending db ↔ c ∈ db.categories.rows := fun c =>
    List.mem_insertionSort _
  rw [categoryNameOf, Option.map_eq_some_iff]
  constructor
  · rintro ⟨c, hfind, hname⟩
    have hid : tx.categoryId = some c.id := by simpa using List.find?_some hfind
    exact ⟨c, (hmem c).mp (List.mem_of_find?_eq_some hfind), hid, hname⟩
  · rintro ⟨c, hc, hid, hname⟩
    cases hfind : (CategoryDao.getAllAscending db).find? fun c =>
        decide (tx.categoryId = some c.id) with
    | none =>
        have hnone := List.find?_eq_none.mp hfind c ((hmem c).mpr hc)
        simp [hid] at hnone
    | some found =>
        have hid' : tx.categoryId = some found.id := by simpa using List.find?_some hfind
        rw [hid, Option.some_inj] at hid'
        obtain rfl := AutoTable.eq_of_id_eq hc
          ((hmem found).mp (List.mem_of_find?_eq_some hfind)) hid'
        exact ⟨c, rfl, hname⟩

/-- The amount that the check computes is the spending modulo `2 ^ 64`. -/
theorem toInt_spentAmount :
    (spentAmount (Call.snapshotOf boundariesNow db) name).toInt =
      (spendingNamed boundariesNow name db).bmod (2 ^ 64) := by
  have hfilter : ((Call.snapshotOf boundariesNow db).monthTransactions.filter fun tx =>
      decide (categoryNameOf (Call.snapshotOf boundariesNow db).categories tx = some name)) =
      (TxDao.getAllAscending db).filter fun tx =>
        isMonthExpense (getMonthBoundaries boundariesNow) tx &&
          db.categories.rows.any fun c => tx.categoryId == some c.id && c.name == name := by
    rw [Call.snapshotOf, Snapshot.read, List.filter_filter]
    apply List.filter_congr
    intro tx _
    rw [Bool.and_comm]
    congr 1
    rw [Bool.eq_iff_iff, decide_eq_true_iff, categoryNameOf_eq_some_iff, List.any_eq_true]
    simp only [Bool.and_eq_true, beq_iff_eq]
  have hperm := ((List.perm_insertionSort (fun a b : TransactionEntity =>
    a.timestampUtcMillis ≤ b.timestampUtcMillis) db.transactions.rows).filter fun tx =>
      isMonthExpense (getMonthBoundaries boundariesNow) tx &&
        db.categories.rows.any fun c => tx.categoryId == some c.id && c.name == name).map
          fun tx => tx.amountMinor.toInt
  rw [spentAmount, hfilter, toInt_foldl_add, Int64.toInt_zero, zero_add, List.map_map,
    spendingNamed, ← hperm.sum_eq]
  rfl

/-- The product that is divided by the limit. -/
theorem toInt_spentAmount_mul_hundred :
    (spentAmount (Call.snapshotOf boundariesNow db) name * 100).toInt =
      hundredfold boundariesNow name db := by
  have hhundred : (100 : Int64).toInt = 100 := rfl
  rw [Int64.toInt_mul, toInt_spentAmount, hhundred, Int.bmod_mul_bmod, hundredfold, mul_comm]

/-- The spending of a category whose name is its own. -/
theorem spendingOf_eq {category : CategoryEntity} (hmem : category ∈ db.categories.rows)
    (hunique : ∀ c ∈ db.categories.rows, c.name = category.name → c = category) :
    spendingOf boundariesNow category db = spendingNamed boundariesNow category.name db := by
  rw [spendingOf, spendingNamed]
  congr 2
  apply List.filter_congr
  intro tx _
  congr 1
  rw [Bool.eq_iff_iff, beq_iff_eq, List.any_eq_true]
  simp only [Bool.and_eq_true, beq_iff_eq]
  constructor
  · intro hid
    exact ⟨category, hmem, hid, rfl⟩
  · rintro ⟨c, hc, hid, hname⟩
    rwa [hunique c hc hname] at hid

/-! ### The message of one budget -/

/-- The message of a budget, if it has not been reported. -/
def newMessage (keyNow boundariesNow : ℤ) (db : Database) (budget : BudgetEntity) :
    Option BreachMessage :=
  (breach (Call.snapshotOf boundariesNow db) budget).filter fun m =>
    !Call.recorded (getCurrentMonthKey keyNow) db m

/-- A sentence is dropped exactly if its alert is recorded. -/
theorem filter_some_eq_none_iff {month : Text} {m : BreachMessage} :
    ((some m).filter fun m => !Call.recorded month db m) = none ↔
      m.alert month ∈ db.budgetAlerts.rows := by
  rw [Option.filter_eq_none_iff]
  simp [Call.recorded]

/-- **One budget.** -/
theorem newMessage_eq_none_iff :
    newMessage keyNow boundariesNow db { categoryId := name, monthlyLimitMinor := limit } = none ↔
      Quiet keyNow boundariesNow db name limit := by
  have hzero : (0 : Int64).toInt = 0 := rfl
  rw [newMessage, Quiet]
  by_cases hlimit : limit ≤ 0
  · have hbreach : breach (Call.snapshotOf boundariesNow db)
        { categoryId := name, monthlyLimitMinor := limit } = none := by
      have hnot : ¬0 < limit := Int64.not_lt.mpr hlimit
      rw [breach]
      dsimp only
      rw [percentage, if_neg hnot, if_neg (by decide), if_neg (by decide)]
    rw [hbreach, Option.filter_none]
    exact iff_of_true rfl (Or.inl hlimit)
  · have hpos : 0 < limit := Int64.not_le.mp hlimit
    have hhundred := @le_percentage_iff
      (spentAmount (Call.snapshotOf boundariesNow db) name) limit 100 hpos (by decide)
    have heighty := @le_percentage_iff
      (spentAmount (Call.snapshotOf boundariesNow db) name) limit 80 hpos (by decide)
    rw [toInt_spentAmount_mul_hundred, show (100 : Int64).toInt = 100 from rfl] at hhundred
    rw [toInt_spentAmount_mul_hundred, show (80 : Int64).toInt = 80 from rfl] at heighty
    have hpos' : 0 < limit.toInt := by
      rw [Int64.lt_iff_toInt_lt] at hpos
      exact hpos
    rw [breach]
    dsimp only
    split_ifs with h100 h80
    · rw [hhundred] at h100
      rw [filter_some_eq_none_iff]
      constructor
      · intro hrecorded
        exact Or.inr (Or.inr (Or.inr ⟨h100, hrecorded⟩))
      · rintro (hle | hlt | ⟨hlt, -⟩ | ⟨-, hrecorded⟩)
        · exact absurd hle hlimit
        · omega
        · omega
        · exact hrecorded
    · rw [hhundred] at h100
      rw [heighty] at h80
      rw [filter_some_eq_none_iff]
      constructor
      · intro hrecorded
        exact Or.inr (Or.inr (Or.inl ⟨not_le.mp h100, hrecorded⟩))
      · rintro (hle | hlt | ⟨-, hrecorded⟩ | ⟨hge, -⟩)
        · exact absurd hle hlimit
        · omega
        · exact hrecorded
        · exact absurd hge h100
    · rw [heighty] at h80
      exact iff_of_true rfl (Or.inr (Or.inl (not_le.mp h80)))

/-- A new sentence is about its budget and has its limit. -/
theorem BreachMessage.eq_of_newMessage {budget : BudgetEntity} {m : BreachMessage}
    (h : newMessage keyNow boundariesNow db budget = some m) :
    m.categoryName = budget.categoryId ∧ m.limit = budget.monthlyLimitMinor := by
  rw [newMessage, Option.filter_eq_some_iff] at h
  obtain ⟨hbreach, -⟩ := h
  refine ⟨categoryName_of_breach hbreach, ?_⟩
  rw [breach] at hbreach
  split_ifs at hbreach
  · obtain rfl := Option.some_inj.mp hbreach
    rfl
  · obtain rfl := Option.some_inj.mp hbreach
    rfl

/-- A message shows its limit, so different limits have the same message only without one. -/
theorem newMessage_eq_iff :
    newMessage keyNow boundariesNow db { categoryId := name, monthlyLimitMinor := limit } =
        newMessage keyNow boundariesNow db { categoryId := name, monthlyLimitMinor := limit' } ↔
      limit = limit' ∨ (Quiet keyNow boundariesNow db name limit ∧
        Quiet keyNow boundariesNow db name limit') := by
  rw [← newMessage_eq_none_iff, ← newMessage_eq_none_iff]
  constructor
  · intro heq
    cases hmessage : newMessage keyNow boundariesNow db
        { categoryId := name, monthlyLimitMinor := limit } with
    | none => exact Or.inr ⟨rfl, heq.symm.trans hmessage⟩
    | some m =>
        obtain ⟨-, hlimit⟩ := BreachMessage.eq_of_newMessage hmessage
        obtain ⟨-, hlimit'⟩ := BreachMessage.eq_of_newMessage (heq.symm.trans hmessage)
        exact Or.inl (hlimit.symm.trans hlimit')
  · rintro (rfl | ⟨hnone, hnone'⟩)
    · rfl
    · rw [hnone, hnone']

/-! ### The messages of a check -/

/-- A check returns the messages, if none of its DAO calls fails. -/
def Returns (keyNow boundariesNow : ℤ) (db : Database) (messages : List BreachMessage) : Prop :=
  ∃ calls, ∀ n, calls ≤ n →
    (Call.checkBudgetBreaches keyNow boundariesNow db n).1 = some messages

/-- The messages of the budgets of a table. -/
def newMessages (keyNow boundariesNow : ℤ) (db : Database)
    (budgets : Table BudgetEntity.categoryId) : List BreachMessage :=
  budgets.rows.filterMap (newMessage keyNow boundariesNow db)

/-- A check returns the new sentences of the budgets it finds. -/
theorem returns_iff {messages : List BreachMessage} :
    Returns keyNow boundariesNow db messages ↔
      messages = newMessages keyNow boundariesNow db db.budgets := by
  have hnew : Call.newBreaches (getCurrentMonthKey keyNow) db
      (Call.currentBreaches boundariesNow db) =
        newMessages keyNow boundariesNow db db.budgets :=
    List.filter_filterMap
  have hreturns : ∀ n, 3 + Call.loopCalls (getCurrentMonthKey keyNow) db
      (Call.currentBreaches boundariesNow db) ≤ n →
      (Call.checkBudgetBreaches keyNow boundariesNow db n).1 =
        some (newMessages keyNow boundariesNow db db.budgets) := by
    intro n hn
    rw [Call.checkBudgetBreaches, Call.result_fail, (Call.run_start hn).1, hnew]
  constructor
  · rintro ⟨calls, hcalls⟩
    have hle := le_max_left calls (3 + Call.loopCalls (getCurrentMonthKey keyNow) db
      (Call.currentBreaches boundariesNow db))
    have heq := hcalls _ hle
    rw [hreturns _ (le_max_right _ _)] at heq
    exact (Option.some_inj.mp heq).symm
  · rintro rfl
    exact ⟨_, hreturns⟩

/-- Lists are equal up to their order when their entries of each kind are. -/
theorem perm_iff_filter {α κ : Type*} [DecidableEq α] [DecidableEq κ] (kind : α → κ)
    {l l' : List α} :
    l.Perm l' ↔ ∀ k,
      (l.filter fun a => decide (kind a = k)).Perm (l'.filter fun a => decide (kind a = k)) := by
  constructor
  · intro h k
    exact h.filter _
  · intro h
    rw [List.perm_iff_count]
    intro a
    have hcount := (h (kind a)).count_eq a
    rwa [List.count_filter (by simp), List.count_filter (by simp)] at hcount

/-- The messages under one name come from the budget with that key. -/
theorem filter_newMessages (budgets : Table BudgetEntity.categoryId) :
    ((newMessages keyNow boundariesNow db budgets).filter fun m => decide (m.categoryName = name)) =
      ((budgets.rows.find? fun budget => decide (budget.categoryId = name)).bind
        (newMessage keyNow boundariesNow db)).toList := by
  have hfilter : ((newMessages keyNow boundariesNow db budgets).filter fun m =>
      decide (m.categoryName = name)) =
      (budgets.rows.filter fun budget => decide (budget.categoryId = name)).filterMap
        (newMessage keyNow boundariesNow db) := by
    rw [newMessages, List.filter_filterMap, List.filterMap_filter]
    apply List.filterMap_congr
    intro budget _
    cases hmessage : newMessage keyNow boundariesNow db budget with
    | none => simp
    | some m =>
        obtain ⟨hname, -⟩ := BreachMessage.eq_of_newMessage hmessage
        rw [Option.filter_some, hname]
  rw [hfilter, Table.filter_key_eq]
  cases budgets.rows.find? fun budget => decide (budget.categoryId = name) with
  | none => rfl
  | some budget =>
      cases hmessage : newMessage keyNow boundariesNow db budget with
      | none => simp [hmessage]
      | some m => simp [hmessage]

/-- **The same messages**, budget by budget. -/
theorem perm_newMessages_iff {budgets budgets' : Table BudgetEntity.categoryId} :
    (newMessages keyNow boundariesNow db budgets).Perm
        (newMessages keyNow boundariesNow db budgets') ↔
      ∀ name, (budgets.rows.find? fun budget => decide (budget.categoryId = name)).bind
          (newMessage keyNow boundariesNow db) =
        (budgets'.rows.find? fun budget => decide (budget.categoryId = name)).bind
          (newMessage keyNow boundariesNow db) := by
  rw [perm_iff_filter BreachMessage.categoryName]
  apply forall_congr'
  intro name
  rw [filter_newMessages, filter_newMessages]
  constructor
  · intro hperm
    cases hmessage : (budgets.rows.find? fun budget => decide (budget.categoryId = name)).bind
        (newMessage keyNow boundariesNow db) with
    | none =>
        rw [hmessage, Option.toList_none, List.nil_perm] at hperm
        exact (Option.toList_eq_nil_iff.mp hperm).symm
    | some m =>
        rw [hmessage, Option.toList_some, List.singleton_perm] at hperm
        exact (Option.toList_eq_singleton_iff.mp hperm.symm).symm
  · intro heq
    rw [heq]

/-- A category is announced exactly if its budget has a new sentence. -/
theorem exists_mem_newMessages_iff {budgets : Table BudgetEntity.categoryId} :
    (∃ m ∈ newMessages keyNow boundariesNow db budgets, m.categoryName = name) ↔
      (budgets.rows.find? fun budget => decide (budget.categoryId = name)).bind
        (newMessage keyNow boundariesNow db) ≠ none := by
  rw [Ne, ← Option.toList_eq_nil_iff, ← filter_newMessages, List.filter_eq_nil_iff]
  simp

/-! ### Saved budgets -/

/-- A save of a budget for an expense category whose name is its own, and a later check. -/
structure BudgetSave where
  db : Database
  category : CategoryEntity
  limit : Int64
  keyNow : ℤ
  boundariesNow : ℤ
  category_mem : category ∈ db.categories.rows
  name_unique : ∀ c ∈ db.categories.rows, c.name = category.name → c = category
  expense : category.isIncome = false
  limit_pos : 0 < limit

namespace BudgetSave

variable (save : BudgetSave)

/-- The store after the save from the screen. -/
def saved (screen : BudgetScreen) : Database :=
  upsertBudget (screen.budget save.category save.limit) save.db

/-- The month's spending has reached the limit, and no exceeded alert is recorded. -/
def IsDue : Prop :=
  save.limit.toInt ≤ spendingOf save.boundariesNow save.category save.db ∧
    ¬IsRecorded save.keyNow save.category.name 100 save.db

/-- The limit is saved through the functions of the screens, and a budget that one of them makes is
the one of its screen. -/
structure SavesBudget : Prop where
  categoriesTab : ∀ amount : Binary64.Value, Int64.ofInt (amount.times 100).toLong = save.limit →
    upsertBudget (MainTabNavigation.onSaveBudget save.category.id amount) save.db =
      save.saved .categoriesTab
  budgetManagement : ∀ amount budget, BudgetDialog.onSave save.category.name amount = some budget →
    budget.monthlyLimitMinor = save.limit →
      upsertBudget budget save.db = save.saved .budgetManagement

/-- Whichever screen the budget is saved on, a check that is due returns a message for the
category; and it returns the same messages, in some order. -/
def IsEnforced : Prop :=
  save.SavesBudget ∧ (∀ screen, save.IsDue → ∃ messages,
    Returns save.keyNow save.boundariesNow (save.saved screen) messages ∧
      ∃ m ∈ messages, m.categoryName = save.category.name) ∧
  ∀ messages messages',
    Returns save.keyNow save.boundariesNow (save.saved .categoriesTab) messages →
    Returns save.keyNow save.boundariesNow (save.saved .budgetManagement) messages' →
      messages.Perm messages'

/-- The save makes no difference under a name: the limit is the stored one, or neither has
anything to report. -/
def Immaterial (name : Text) : Prop :=
  match save.db.budgets.rows.find? fun budget => decide (budget.categoryId = name) with
  | none => Quiet save.keyNow save.boundariesNow save.db name save.limit
  | some stored => save.limit = stored.monthlyLimitMinor ∨
      (Quiet save.keyNow save.boundariesNow save.db name save.limit ∧
        Quiet save.keyNow save.boundariesNow save.db name stored.monthlyLimitMinor)

/-- The keys of the two screens do not make a difference, and the limit has something to
report when it is reached. -/
def KeysAgree : Prop :=
  (intText save.category.id = save.category.name ∨
    (save.Immaterial (intText save.category.id) ∧ save.Immaterial save.category.name)) ∧
  (save.IsDue → ¬Quiet save.keyNow save.boundariesNow save.db save.category.name save.limit)

/-- The functions of the screens save what is said of the screens. -/
theorem savesBudget : save.SavesBudget where
  categoriesTab amount hlimit := by
    rw [MainTabNavigation.onSaveBudget_eq, hlimit]
    rfl
  budgetManagement amount budget hsave hlimit := by
    rw [BudgetDialog.eq_budget_of_onSave hsave, hlimit]
    rfl

/-- Spending whose hundredfold fits a `Long` is enough for a limit that it reaches, so that only the
keys matter then. -/
theorem keysAgree_iff_of_fits
    (hnonneg : 0 ≤ spendingOf save.boundariesNow save.category save.db)
    (hfits : 100 * spendingOf save.boundariesNow save.category save.db < 2 ^ 63) :
    save.KeysAgree ↔ intText save.category.id = save.category.name ∨
      (save.Immaterial (intText save.category.id) ∧ save.Immaterial save.category.name) := by
  refine and_iff_left ?_
  rintro ⟨hreached, hrecorded⟩
  have hspending := @spendingOf_eq save.boundariesNow _ _ save.category_mem save.name_unique
  have hhundred : hundredfold save.boundariesNow save.category.name save.db =
      100 * spendingOf save.boundariesNow save.category save.db := by
    rw [hundredfold, ← hspending, Int.bmod_eq_of_le (by omega) (by omega)]
  have hpos : 0 < save.limit.toInt := Int64.lt_iff_toInt_lt.mp save.limit_pos
  rw [Quiet, hhundred]
  rintro (hle | hlt | ⟨hlt, -⟩ | ⟨-, hknown⟩)
  · exact absurd save.limit_pos (Int64.not_lt.mpr hle)
  · omega
  · omega
  · exact hrecorded hknown

/-- Nothing but the budget table is changed by a save. -/
theorem returns_saved_iff {screen : BudgetScreen} {messages : List BreachMessage} :
    Returns save.keyNow save.boundariesNow (save.saved screen) messages ↔
      messages = newMessages save.keyNow save.boundariesNow save.db
        (save.saved screen).budgets :=
  returns_iff

/-- What the check after the save returns. -/
theorem returns_newMessages (screen : BudgetScreen) :
    Returns save.keyNow save.boundariesNow (save.saved screen)
      (newMessages save.keyNow save.boundariesNow save.db (save.saved screen).budgets) :=
  save.returns_saved_iff.mpr rfl

/-- The budget under a name after the save. -/
theorem find_saved (screen : BudgetScreen) (name : Text) :
    ((save.saved screen).budgets.rows.find? fun budget => decide (budget.categoryId = name)) =
      if screen.categoryId save.category = name then
        some { categoryId := name, monthlyLimitMinor := save.limit }
      else save.db.budgets.rows.find? fun budget => decide (budget.categoryId = name) := by
  have hfind := save.db.budgets.find?_key_insertOrReplace
    { categoryId := screen.categoryId save.category, monthlyLimitMinor := save.limit } name
  have htable : (save.saved screen).budgets = save.db.budgets.insertOrReplace
      { categoryId := screen.categoryId save.category, monthlyLimitMinor := save.limit } := rfl
  rw [htable, hfind]
  split_ifs with hname
  · rw [← hname]
  · rfl

/-- A budget is immaterial exactly if it has the sentence it had before, new or none. -/
theorem immaterial_iff {name : Text} :
    save.Immaterial name ↔
      newMessage save.keyNow save.boundariesNow save.db
          { categoryId := name, monthlyLimitMinor := save.limit } =
        (save.db.budgets.rows.find? fun budget => decide (budget.categoryId = name)).bind
          (newMessage save.keyNow save.boundariesNow save.db) := by
  rw [Immaterial]
  cases hfind : save.db.budgets.rows.find? fun budget => decide (budget.categoryId = name) with
  | none => exact newMessage_eq_none_iff.symm
  | some stored =>
      have hkey : stored.categoryId = name := by simpa using List.find?_some hfind
      obtain ⟨categoryId, stored⟩ := stored
      obtain rfl : categoryId = name := hkey
      exact newMessage_eq_iff.symm

/-- The message under a name after a save. -/
theorem bind_find_saved (screen : BudgetScreen) (name : Text) :
    ((save.saved screen).budgets.rows.find? fun budget =>
        decide (budget.categoryId = name)).bind
          (newMessage save.keyNow save.boundariesNow save.db) =
      if screen.categoryId save.category = name then
        newMessage save.keyNow save.boundariesNow save.db
          { categoryId := name, monthlyLimitMinor := save.limit }
      else (save.db.budgets.rows.find? fun budget => decide (budget.categoryId = name)).bind
        (newMessage save.keyNow save.boundariesNow save.db) := by
  rw [save.find_saved]
  split_ifs
  · rfl
  · rfl

/-- The dialog's budget is checked under the name of the category. -/
theorem exists_message_budgetManagement_iff :
    (∃ messages, Returns save.keyNow save.boundariesNow (save.saved .budgetManagement) messages ∧
        ∃ m ∈ messages, m.categoryName = save.category.name) ↔
      ¬Quiet save.keyNow save.boundariesNow save.db save.category.name save.limit := by
  simp only [save.returns_saved_iff, exists_eq_left]
  have hkey : BudgetScreen.budgetManagement.categoryId save.category = save.category.name := rfl
  rw [exists_mem_newMessages_iff, save.bind_find_saved, if_pos hkey, Ne, newMessage_eq_none_iff]

/-- The two screens have the same sentences announced exactly if the name is the text of the id or
both budgets are immaterial. -/
theorem perm_saved_iff :
    (∀ messages messages',
      Returns save.keyNow save.boundariesNow (save.saved .categoriesTab) messages →
      Returns save.keyNow save.boundariesNow (save.saved .budgetManagement) messages' →
        messages.Perm messages') ↔
      intText save.category.id = save.category.name ∨
        (save.Immaterial (intText save.category.id) ∧ save.Immaterial save.category.name) := by
  have htab : BudgetScreen.categoriesTab.categoryId save.category = intText save.category.id := rfl
  have hdialog : BudgetScreen.budgetManagement.categoryId save.category = save.category.name := rfl
  simp only [save.returns_saved_iff, forall_eq_apply_imp_iff, forall_eq]
  rw [perm_newMessages_iff, immaterial_iff, immaterial_iff]
  simp only [save.bind_find_saved, htab, hdialog]
  by_cases hkeys : intText save.category.id = save.category.name
  · rw [hkeys]
    exact iff_of_true (fun _ => rfl) (Or.inl rfl)
  · constructor
    · intro hall
      have hid := hall (intText save.category.id)
      have hname := hall save.category.name
      rw [if_pos rfl, if_neg (Ne.symm hkeys)] at hid
      rw [if_neg hkeys, if_pos rfl] at hname
      exact Or.inr ⟨hid, hname.symm⟩
    · rintro (heq | ⟨hid, hname⟩) name
      · exact absurd heq hkeys
      · split_ifs with htab_name hdialog_name hdialog_name
        · rfl
        · rw [← htab_name]
          exact hid
        · rw [← hdialog_name]
          exact hname.symm
        · rfl

/-- **A budget is enforced** whichever screen it was saved on, just when the two keys make no
difference and the limit has something to report when it is reached. -/
theorem isEnforced_iff : save.IsEnforced ↔ save.KeysAgree := by
  rw [IsEnforced, and_iff_right save.savesBudget, KeysAgree, save.perm_saved_iff, and_comm]
  apply and_congr_right
  intro hkeys
  have hperm := save.perm_saved_iff.mpr hkeys
  constructor
  · intro hmessage hdue
    exact save.exists_message_budgetManagement_iff.mp (hmessage .budgetManagement hdue)
  · intro hquiet screen hdue
    obtain ⟨messages', hreturns', m, hm, hname⟩ :=
      save.exists_message_budgetManagement_iff.mpr (hquiet hdue)
    cases screen with
    | budgetManagement => exact ⟨messages', hreturns', m, hm, hname⟩
    | categoriesTab =>
        have hreturns := save.returns_newMessages .categoriesTab
        have hmem := (hperm _ messages' hreturns hreturns').mem_iff.mpr hm
        exact ⟨_, hreturns, m, hmem, hname⟩

end BudgetSave

/-- A category with an expense that reaches the limit that is saved for it. -/
def foodSave : BudgetSave :=
  { db := { Call.twoExceeded with budgets := Table.empty _ }
    category := { id := 1, name := "Food".toList, color := [], icon := none, isIncome := false }
    limit := 500
    keyNow := 0
    boundariesNow := 0
    category_mem := by decide
    name_unique := by decide
    expense := rfl
    limit_pos := by decide }

/-- Saved on the Categories tab, the budget of the category has the key `1`, and no check
reports it. -/
theorem not_isEnforced_foodSave : ¬foodSave.IsEnforced := by
  rintro ⟨-, -, hsame⟩
  obtain hid | ⟨-, hquiet⟩ := foodSave.perm_saved_iff.mp hsame
  · exact absurd hid (by decide)
  · have hloud : ¬Quiet 0 0 foodSave.db "Food".toList 500 := by decide
    exact hloud hquiet

end SpendCraft
