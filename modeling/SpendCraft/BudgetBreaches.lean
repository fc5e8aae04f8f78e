import SpendCraft.Database
import SpendCraft.Lib.JavaTime
import Mathlib.Algebra.BigOperators.Group.List.Basic

/-!
# Budget Breaches

`BudgetRepositoryImpl.checkBudgetBreaches` reads the budgets, the transactions and the
categories, computes for each budget the share of its limit spent in the current UTC
month, and reports each budget that has passed 80 or 100 percent, unless `budget_alert`
already holds a row for the category, the level and the month. It suspends at each of
its DAO calls, so a call in progress is a state machine (`Call`) whose phases are the
suspension points; `resume` executes the pending DAO call and runs the code behind it up
to the next one.

## Conventions

The function is a state machine because it is suspended at each DAO call, and a phase carries the
variables that are alive there. The clock is read twice, once for the key of the month and once
for its boundaries, and the two readings may lie in different months. Sums, products and quotients
are those of `Long`: they wrap at 64 bits, and a quotient is cut off towards zero.

A message is kept as data (`BreachMessage`) beside its text: what a view model makes of the text
is the question of `BudgetMessages`.

## Proof

A call that runs alone is computed by induction over the budgets, with the phases of the loop as
cases: each budget costs no DAO call, one, or two, and the list of messages and the rows grow
together. From that, a call that fails at DAO call `n` is cut off at a known point. An alert is
inserted before its message is returned, so a failure behind the first insert leaves a row that
nobody is told of.

## Main results

* `run_start`: a call that runs alone returns the breaches not yet recorded and records
  exactly these.
* `reportsRecorded_iff`: a call that fails at some DAO call leaves no unreported row
  behind exactly when the failure comes no later than its first insert.
-/

namespace SpendCraft

open Kotlin Calendar

/-- What the list of breach messages holds, before it is turned into text. -/
inductive BreachMessage
  | exceeded (categoryName : Text) (spentAmount limit : Int64)
  | warning (categoryName : Text) (spentAmount limit percentage : Int64)
  deriving DecidableEq, Repr

namespace BudgetRepositoryImpl

/-! ### The month -/

/-- `getCurrentMonthKey`: the year and the month in UTC. -/
def getCurrentMonthKey (now : ℤ) : Text :=
  JavaTime.format [.yyyy, .literal '-', .MM] (JavaTime.utcDate now)

/-- The first instants of the current and of the next month. -/
def getMonthBoundaries (now : ℤ) : ℤ × ℤ :=
  (JavaTime.atStartOfDay (JavaTime.utcDate now).firstDayOfMonth,
    JavaTime.atStartOfDay (JavaTime.utcDate now).firstDayOfNextMonth)

/-! ### The messages -/

/-- `formatAmount`: whole liras and the rest, both by `Long` division, so a negative rest has a
sign of its own. -/
def formatAmount (amountMinor : Int64) : Text :=
  "₺".toList ++ intText (amountMinor / 100).toInt ++ ".".toList ++
    padStart (intText (amountMinor % 100).toInt) 2 '0'

end BudgetRepositoryImpl

namespace BreachMessage

open BudgetRepositoryImpl

/-- The category that a sentence is about. -/
def categoryName : BreachMessage → Text
  | .exceeded name _ _ => name
  | .warning name _ _ _ => name

/-- The level that is recorded for a sentence. -/
def level : BreachMessage → ℤ
  | .exceeded .. => 100
  | .warning .. => 80

/-- The row that records the message in a month. -/
def alert (monthKey : Text) (m : BreachMessage) : BudgetAlertEntity :=
  { categoryId := m.categoryName, level := m.level, monthKey := monthKey }

/-- The text added to `breachMessages`. -/
def text : BreachMessage → Text
  | .exceeded categoryName spentAmount limit =>
      "Budget exceeded for ".toList ++ categoryName ++ "! Spent: ".toList ++
        formatAmount spentAmount ++ ", Budget: ".toList ++ formatAmount limit
  | .warning categoryName spentAmount limit percentage =>
      "Budget warning for ".toList ++ categoryName ++ "! Spent: ".toList ++
        formatAmount spentAmount ++ ", Budget: ".toList ++ formatAmount limit ++
        " (".toList ++ intText percentage.toInt ++ "%)".toList

end BreachMessage

namespace BudgetRepositoryImpl

/-! ### One budget -/

/-- The data a call works on once it has read the tables. -/
structure Snapshot where
  monthTransactions : List TransactionEntity
  categories : List CategoryEntity

/-- The filter on the transactions: the expenses of the current month. -/
def isMonthExpense (boundaries : ℤ × ℤ) (tx : TransactionEntity) : Bool :=
  decide (boundaries.1 ≤ tx.timestampUtcMillis) && decide (tx.timestampUtcMillis < boundaries.2) &&
    !tx.isIncome

/-- The snapshot that a call takes of the two lists it reads. -/
def Snapshot.read (now : ℤ) (transactions : List TransactionEntity)
    (categories : List CategoryEntity) : Snapshot :=
  { monthTransactions := transactions.filter (isMonthExpense (getMonthBoundaries now))
    categories := categories }

/-- The name of the category of a transaction. -/
def categoryNameOf (categories : List CategoryEntity) (tx : TransactionEntity) : Option Text :=
  (categories.find? fun c => decide (tx.categoryId = some c.id)).map CategoryEntity.name

/-- What was spent in the month on the categories of the name, added up as a `Long`. -/
def spentAmount (snapshot : Snapshot) (categoryName : Text) : Int64 :=
  ((snapshot.monthTransactions.filter fun tx =>
    decide (categoryNameOf snapshot.categories tx = some categoryName)).map
      TransactionEntity.amountMinor).foldl (· + ·) 0

/-- The percentage that is shown. The product `spentAmount * 100` may wrap around. -/
def percentage (spentAmount limit : Int64) : Int64 :=
  if 0 < limit then spentAmount * 100 / limit else 0

/-- A sum of `Long`s is the sum modulo `2 ^ 64`. -/
theorem toInt_foldl_add (l : List Int64) (total : Int64) :
    (l.foldl (· + ·) total).toInt = (total.toInt + (l.map Int64.toInt).sum).bmod (2 ^ 64) := by
  induction l generalizing total with
  | nil =>
      rw [List.foldl_nil, List.map_nil, List.sum_nil, add_zero]
      exact total.toInt_bmod.symm
  | cons n l ih =>
      rw [List.foldl_cons, ih, Int64.toInt_add, Int.bmod_add_bmod, List.map_cons, List.sum_cons,
        add_assoc]

/-- The percentage against the product that is divided. -/
theorem le_percentage_iff {spent limit level : Int64} (hlimit : 0 < limit) (hlevel : 0 < level) :
    level ≤ percentage spent limit ↔ level.toInt * limit.toInt ≤ (spent * 100).toInt := by
  have hpos : 0 < limit.toInt := by
    rw [Int64.lt_iff_toInt_lt] at hlimit
    exact hlimit
  have hlevel_pos : 0 < level.toInt := by
    rw [Int64.lt_iff_toInt_lt] at hlevel
    exact hlevel
  have hne : limit ≠ -1 := by
    rintro rfl
    exact absurd hpos (by decide)
  rw [percentage, if_pos hlimit, Int64.le_iff_toInt_le, Int64.toInt_div_of_ne_right _ _ hne]
  generalize (spent * 100).toInt = hundredfold
  obtain hnonneg | hneg := le_or_gt 0 hundredfold
  · rw [Int.tdiv_eq_ediv_of_nonneg hnonneg, Int.le_ediv_iff_mul_le hpos]
  · have hquotient : 0 ≤ (-hundredfold).tdiv limit.toInt := Int.tdiv_nonneg (by omega) hpos.le
    have hproduct : 0 < level.toInt * limit.toInt := Int.mul_pos hlevel_pos hpos
    rw [Int.neg_tdiv] at hquotient
    constructor
    · intro hle
      omega
    · intro hle
      omega

/-- The breach of one budget, whether or not it was reported before. -/
def breach (snapshot : Snapshot) (budget : BudgetEntity) : Option BreachMessage :=
  let spent := spentAmount snapshot budget.categoryId
  let percent := percentage spent budget.monthlyLimitMinor
  if 100 ≤ percent then some (.exceeded budget.categoryId spent budget.monthlyLimitMinor)
  else if 80 ≤ percent then
    some (.warning budget.categoryId spent budget.monthlyLimitMinor percent)
  else none

/-- A warning carries a percentage of its range. -/
theorem percentage_of_breach_warning {snapshot : Snapshot} {budget : BudgetEntity}
    {name : Text} {spent limit percent : Int64}
    (h : breach snapshot budget = some (.warning name spent limit percent)) :
    80 ≤ percent ∧ ¬ 100 ≤ percent := by
  simp only [breach] at h
  split_ifs at h with h100 h80
  · cases h
  · cases h
    exact ⟨h80, h100⟩

/-- A budget is announced under its own name. -/
theorem categoryName_of_breach {snapshot : Snapshot} {budget : BudgetEntity} {m : BreachMessage}
    (h : breach snapshot budget = some m) : m.categoryName = budget.categoryId := by
  simp only [breach] at h
  split_ifs at h <;> cases h <;> rfl

end BudgetRepositoryImpl

/-! ### A call -/

open BudgetRepositoryImpl

/-- The suspension points of `checkBudgetBreaches`, with the variables alive there. -/
inductive Phase
  | readingBudgets
  | readingTransactions (budgets : List BudgetEntity)
  | readingCategories (budgets : List BudgetEntity) (transactions : List TransactionEntity)
  | checking (snapshot : Snapshot) (message : BreachMessage) (rest : List BudgetEntity)
      (breachMessages : List BreachMessage)
  | inserting (snapshot : Snapshot) (message : BreachMessage) (rest : List BudgetEntity)
      (breachMessages : List BreachMessage)
  | returned (breachMessages : List BreachMessage)
  | failed

/-- A call of `checkBudgetBreaches` in progress. -/
structure Call where
  currentMonth : Text
  boundaries : ℤ × ℤ
  phase : Phase

namespace Call

/-- The call up to its first DAO call: it reads the clock twice. -/
def start (keyNow boundariesNow : ℤ) : Call :=
  { currentMonth := getCurrentMonthKey keyNow
    boundaries := getMonthBoundaries boundariesNow
    phase := .readingBudgets }

/-- The loop over the budgets up to its next DAO call. -/
def forEachBudget (snapshot : Snapshot) : List BudgetEntity → List BreachMessage → Phase
  | [], breachMessages => .returned breachMessages
  | budget :: rest, breachMessages =>
      match breach snapshot budget with
      | some message => .checking snapshot message rest breachMessages
      | none => forEachBudget snapshot rest breachMessages

/-- The pending DAO call succeeds, and the call runs up to its next one. -/
def resume (c : Call) (db : Database) : Call × Database :=
  match c.phase with
  | .readingBudgets =>
      ({ c with phase := .readingTransactions (BudgetDao.getAllAscending db) }, db)
  | .readingTransactions budgets =>
      ({ c with phase := .readingCategories budgets (TxDao.getAllAscending db) }, db)
  | .readingCategories budgets transactions =>
      let snapshot :=
        { monthTransactions := transactions.filter (isMonthExpense c.boundaries)
          categories := CategoryDao.getAllAscending db }
      ({ c with phase := forEachBudget snapshot budgets [] }, db)
  | .checking snapshot message rest breachMessages =>
      if BudgetAlertDao.alertExists message.categoryName message.level c.currentMonth db > 0 then
        ({ c with phase := forEachBudget snapshot rest breachMessages }, db)
      else ({ c with phase := .inserting snapshot message rest breachMessages }, db)
  | .inserting snapshot message rest breachMessages =>
      ({ c with phase := forEachBudget snapshot rest (breachMessages ++ [message]) },
        BudgetAlertDao.insert
          { categoryId := message.categoryName
            level := message.level
            monthKey := c.currentMonth } db)
  | .returned _ => (c, db)
  | .failed => (c, db)

/-- The pending DAO call throws, and the exception leaves the call. -/
def fail (c : Call) : Call :=
  match c.phase with
  | .returned _ => c
  | _ => { c with phase := .failed }

/-- The list the call has returned. -/
def result (c : Call) : Option (List BreachMessage) :=
  match c.phase with
  | .returned breachMessages => some breachMessages
  | _ => none

/-- The first `n` DAO calls succeed, with no other writer in between. -/
def run (c : Call) (db : Database) : ℕ → Call × Database
  | 0 => (c, db)
  | n + 1 => run (c.resume db).1 (c.resume db).2 n

/-! ### A call that runs alone -/

/-- No step. -/
@[simp] theorem run_zero (c : Call) (db : Database) : c.run db 0 = (c, db) := rfl

/-- One step and the others. -/
@[simp] theorem run_succ (c : Call) (db : Database) (n : ℕ) :
    c.run db (n + 1) = (c.resume db).1.run (c.resume db).2 n := rfl

/-- A call that has returned stays as it is. -/
theorem run_returned (month : Text) (boundaries : ℤ × ℤ) (ms : List BreachMessage)
    (db : Database) (n : ℕ) :
    run ⟨month, boundaries, .returned ms⟩ db n = (⟨month, boundaries, .returned ms⟩, db) := by
  induction n with
  | zero => rfl
  | succ n ih => exact ih

/-- The alert of a message is in the table. -/
def recorded (month : Text) (db : Database) (m : BreachMessage) : Bool :=
  decide (m.alert month ∈ db.budgetAlerts.rows)

/-- The breaches among a list of budgets. -/
def breaches (snapshot : Snapshot) (budgets : List BudgetEntity) : List BreachMessage :=
  budgets.filterMap (breach snapshot)

/-- The loop stops at the first breach, or at the end. -/
theorem forEachBudget_eq (snapshot : Snapshot) (budgets : List BudgetEntity)
    (ms : List BreachMessage) :
    (breaches snapshot budgets = [] ∧ forEachBudget snapshot budgets ms = .returned ms) ∨
      ∃ m rest, breaches snapshot budgets = m :: breaches snapshot rest ∧
        forEachBudget snapshot budgets ms = .checking snapshot m rest ms := by
  induction budgets with
  | nil => exact Or.inl ⟨rfl, rfl⟩
  | cons budget rest ih =>
      cases h : breach snapshot budget with
      | none =>
          rw [breaches, List.filterMap_cons_none h, forEachBudget, h]
          exact ih
      | some m =>
          rw [breaches, List.filterMap_cons_some h, forEachBudget, h]
          exact Or.inr ⟨m, rest, rfl, rfl⟩

/-- The loop checks its first breach. -/
theorem forEachBudget_of_cons {snapshot : Snapshot} {budgets : List BudgetEntity}
    {m : BreachMessage} {bs : List BreachMessage} (hbs : breaches snapshot budgets = m :: bs)
    (ms : List BreachMessage) :
    ∃ rest, breaches snapshot rest = bs ∧
      forEachBudget snapshot budgets ms = .checking snapshot m rest ms := by
  rcases forEachBudget_eq snapshot budgets ms with ⟨heq, -⟩ | ⟨m', rest, heq, hloop⟩
  · rw [hbs] at heq
    cases heq
  · rw [hbs] at heq
    obtain ⟨rfl, hrest⟩ := List.cons.inj heq
    exact ⟨rest, hrest.symm, hloop⟩

/-- A budget table has one row per category, so its breaches have different alerts. -/
theorem nodup_breaches (snapshot : Snapshot) (db : Database) (month : Text) :
    ((breaches snapshot (BudgetDao.getAllAscending db)).map (BreachMessage.alert month)).Nodup := by
  have hsub : ∀ budgets : List BudgetEntity,
      ((breaches snapshot budgets).map BreachMessage.categoryName).Sublist
        (budgets.map BudgetEntity.categoryId) := by
    intro budgets
    induction budgets with
    | nil => exact List.Sublist.slnil
    | cons budget rest ih =>
        cases h : breach snapshot budget with
        | none =>
            rw [breaches, List.filterMap_cons_none h]
            exact ih.cons _
        | some m =>
            rw [breaches, List.filterMap_cons_some h, List.map_cons, List.map_cons,
              categoryName_of_breach h]
            exact ih.cons_cons _
  have hnames := (hsub db.budgets.rows).nodup db.budgets.nodup_keys
  have hcomp : (breaches snapshot (BudgetDao.getAllAscending db)).map
      BreachMessage.categoryName = ((breaches snapshot (BudgetDao.getAllAscending db)).map
        (BreachMessage.alert month)).map BudgetAlertEntity.categoryId := by
    rw [List.map_map]
    rfl
  exact List.Nodup.of_map BudgetAlertEntity.categoryId (hcomp ▸ hnames)

section Loop

variable {snapshot : Snapshot} {month : Text} {boundaries : ℤ × ℤ} {m : BreachMessage}
  {rest : List BudgetEntity} {ms : List BreachMessage} {db : Database}

/-- A sentence that is recorded already is dropped. -/
theorem resume_checking_recorded (h : recorded month db m = true) :
    resume ⟨month, boundaries, .checking snapshot m rest ms⟩ db =
      (⟨month, boundaries, forEachBudget snapshot rest ms⟩, db) := by
  rw [recorded, decide_eq_true_iff, ← BudgetAlertDao.alertExists_pos_iff] at h
  exact if_pos h

/-- A sentence that is not recorded yet is inserted next. -/
theorem resume_checking_new (h : recorded month db m = false) :
    resume ⟨month, boundaries, .checking snapshot m rest ms⟩ db =
      (⟨month, boundaries, .inserting snapshot m rest ms⟩, db) := by
  rw [recorded, decide_eq_false_iff_not, ← BudgetAlertDao.alertExists_pos_iff] at h
  exact if_neg h

/-- The same as a part of a run: one step. -/
theorem run_checking_recorded (h : recorded month db m = true) (n : ℕ) :
    run ⟨month, boundaries, .checking snapshot m rest ms⟩ db (n + 1) =
      run ⟨month, boundaries, forEachBudget snapshot rest ms⟩ db n := by
  rw [run_succ, resume_checking_recorded h]

/-- The two steps of a new sentence: it is recorded, and it is announced. -/
theorem run_checking_new (h : recorded month db m = false) (n : ℕ) :
    run ⟨month, boundaries, .checking snapshot m rest ms⟩ db (n + 2) =
      run ⟨month, boundaries, forEachBudget snapshot rest (ms ++ [m])⟩
        (BudgetAlertDao.insert (m.alert month) db) n := by
  rw [run_succ, resume_checking_new h]
  rfl

/-- A new alert is added behind the rows of the table. -/
theorem rows_insert_new (h : recorded month db m = false) :
    (BudgetAlertDao.insert (m.alert month) db).budgetAlerts.rows =
      db.budgetAlerts.rows ++ [m.alert month] := by
  rw [recorded, decide_eq_false_iff_not] at h
  apply Relational.Table.rows_insertOrIgnore
  rw [Relational.Table.hasKey_eq_false_iff]
  rintro r hr rfl
  exact h hr

end Loop

/-- No row of `budget_alert` is ever removed. -/
theorem mem_budgetAlerts_resume {c : Call} {db : Database} {alert : BudgetAlertEntity}
    (h : alert ∈ db.budgetAlerts.rows) : alert ∈ (c.resume db).2.budgetAlerts.rows := by
  rw [resume]
  split
  case h_4 =>
      split_ifs
      · exact h
      · exact h
  case h_5 => exact BudgetAlertDao.mem_insert.mpr (Or.inl h)
  all_goals exact h

/-- A call takes no alert away. -/
theorem mem_budgetAlerts_run {c : Call} {db : Database} {alert : BudgetAlertEntity}
    (h : alert ∈ db.budgetAlerts.rows) (n : ℕ) : alert ∈ (c.run db n).2.budgetAlerts.rows := by
  induction n generalizing c db with
  | zero => exact h
  | succ n ih => exact ih (mem_budgetAlerts_resume h)

/-- A check writes nothing but alerts. -/
theorem exists_resume_eq (c : Call) (db : Database) :
    ∃ alerts, (c.resume db).2 = { db with budgetAlerts := alerts } := by
  rw [resume]
  split
  case h_4 =>
      split_ifs
      · exact ⟨db.budgetAlerts, rfl⟩
      · exact ⟨db.budgetAlerts, rfl⟩
  case h_5 => exact ⟨_, rfl⟩
  all_goals exact ⟨db.budgetAlerts, rfl⟩

/-- A call changes the alerts only. -/
theorem exists_run_eq (c : Call) (db : Database) (n : ℕ) :
    ∃ alerts, (c.run db n).2 = { db with budgetAlerts := alerts } := by
  induction n generalizing c db with
  | zero => exact ⟨db.budgetAlerts, rfl⟩
  | succ n ih =>
      obtain ⟨alerts, hresume⟩ := exists_resume_eq c db
      obtain ⟨alerts', hrun⟩ := ih (c.resume db).1 (c.resume db).2
      exact ⟨alerts', by rw [run_succ, hrun, hresume]⟩

/-- The transactions stay. -/
theorem transactions_run (c : Call) (db : Database) (n : ℕ) :
    (c.run db n).2.transactions = db.transactions := by
  obtain ⟨alerts, hrun⟩ := exists_run_eq c db n
  rw [hrun]

/-- The budgets stay. -/
theorem budgets_run (c : Call) (db : Database) (n : ℕ) :
    (c.run db n).2.budgets = db.budgets := by
  obtain ⟨alerts, hrun⟩ := exists_run_eq c db n
  rw [hrun]

section Loop

variable {snapshot : Snapshot} {month : Text} {boundaries : ℤ × ℤ} {m : BreachMessage}
  {bs : List BreachMessage} {rest : List BudgetEntity} {ms : List BreachMessage}
  {db : Database} {n : ℕ}

/-- The breaches that are not yet recorded. -/
def newBreaches (month : Text) (db : Database) (bs : List BreachMessage) : List BreachMessage :=
  bs.filter fun m => !recorded month db m

/-- A sentence that is recorded already is not new. -/
theorem newBreaches_cons_recorded (h : recorded month db m = true) :
    newBreaches month db (m :: bs) = newBreaches month db bs := by
  simp [newBreaches, h]

/-- A sentence that is not recorded is new. -/
theorem newBreaches_cons_new (h : recorded month db m = false) :
    newBreaches month db (m :: bs) = m :: newBreaches month db bs := by
  simp [newBreaches, h]

/-- Recording one alert does not touch breaches with other alerts. -/
theorem newBreaches_insert (h : m.alert month ∉ bs.map (BreachMessage.alert month)) :
    newBreaches month (BudgetAlertDao.insert (m.alert month) db) bs = newBreaches month db bs := by
  apply List.filter_congr
  intro m' hm'
  have hne : m'.alert month ≠ m.alert month := by
    intro heq
    exact h (heq ▸ List.mem_map_of_mem hm')
  simp only [recorded, BudgetAlertDao.mem_insert, hne, or_false]

/-- The number of DAO calls the loop makes: a check for each breach and an insert for
each new one. -/
def loopCalls (month : Text) (db : Database) (bs : List BreachMessage) : ℕ :=
  bs.length + (newBreaches month db bs).length

/-- **The loop, run to its end**, returns and records the breaches not yet recorded. -/
theorem run_forEachBudget_of_le (hbs : breaches snapshot rest = bs)
    (hnodup : (bs.map (BreachMessage.alert month)).Nodup) (hn : loopCalls month db bs ≤ n) :
    (run ⟨month, boundaries, forEachBudget snapshot rest ms⟩ db n).1.result =
        some (ms ++ newBreaches month db bs) ∧
      (run ⟨month, boundaries, forEachBudget snapshot rest ms⟩ db n).2.budgetAlerts.rows =
        db.budgetAlerts.rows ++ (newBreaches month db bs).map (BreachMessage.alert month) := by
  induction bs generalizing rest ms db n with
  | nil =>
      rcases forEachBudget_eq snapshot rest ms with ⟨-, hloop⟩ | ⟨m, rest', heq, -⟩
      · rw [hloop, run_returned]
        simp [result, newBreaches]
      · rw [hbs] at heq
        cases heq
  | cons m bs ih =>
      obtain ⟨rest', hbs', hloop⟩ := forEachBudget_of_cons hbs ms
      rw [List.map_cons, List.nodup_cons] at hnodup
      rw [hloop]
      cases hrec : recorded month db m with
      | true =>
          rw [loopCalls, newBreaches_cons_recorded hrec, List.length_cons] at hn
          obtain ⟨n, rfl⟩ : ∃ k, n = k + 1 := ⟨n - 1, by omega⟩
          rw [newBreaches_cons_recorded hrec, run_checking_recorded hrec]
          exact ih hbs' hnodup.2 (by rw [loopCalls]; omega)
      | false =>
          rw [loopCalls, newBreaches_cons_new hrec, List.length_cons, List.length_cons] at hn
          obtain ⟨n, rfl⟩ : ∃ k, n = k + 2 := ⟨n - 2, by omega⟩
          rw [newBreaches_cons_new hrec, run_checking_new hrec]
          have hsame : newBreaches month (BudgetAlertDao.insert (m.alert month) db) bs =
              newBreaches month db bs := newBreaches_insert hnodup.1
          obtain ⟨hres, hrows⟩ := @ih rest' (ms ++ [m])
            (BudgetAlertDao.insert (m.alert month) db) n hbs' hnodup.2
            (by rw [loopCalls, hsame]; omega)
          rw [hsame] at hres hrows
          refine ⟨?_, ?_⟩
          · rw [hres, List.append_assoc, List.singleton_append]
          · rw [hrows, rows_insert_new hrec, List.map_cons, List.append_assoc,
              List.singleton_append]

/-- An alert that was not recorded is there after its insert, however far the call goes. -/
theorem budgetAlerts_run_insert_ne (c : Call) (hrec : recorded month db m = false) (n : ℕ) :
    (run c (BudgetAlertDao.insert (m.alert month) db) n).2.budgetAlerts ≠ db.budgetAlerts := by
  intro hsame
  have hins : m.alert month ∈ (BudgetAlertDao.insert (m.alert month) db).budgetAlerts.rows :=
    BudgetAlertDao.mem_insert.mpr (Or.inr rfl)
  have hmem := mem_budgetAlerts_run (c := c) hins n
  rw [hsame] at hmem
  rw [recorded, decide_eq_false_iff_not] at hrec
  exact hrec hmem

/-- **The loop, interrupted**, has added a row as soon as it is past its first insert. -/
theorem run_forEachBudget_of_lt (hbs : breaches snapshot rest = bs)
    (hnodup : (bs.map (BreachMessage.alert month)).Nodup) (hn : n < loopCalls month db bs) :
    (run ⟨month, boundaries, forEachBudget snapshot rest ms⟩ db n).1.result = none ∧
      ((run ⟨month, boundaries, forEachBudget snapshot rest ms⟩ db n).2.budgetAlerts =
          db.budgetAlerts ↔ n ≤ (bs.takeWhile (recorded month db)).length + 1) := by
  induction bs generalizing rest ms db n with
  | nil => simp [loopCalls, newBreaches] at hn
  | cons m bs ih =>
      obtain ⟨rest', hbs', hloop⟩ := forEachBudget_of_cons hbs ms
      rw [List.map_cons, List.nodup_cons] at hnodup
      rw [hloop]
      cases hrec : recorded month db m with
      | true =>
          rw [loopCalls, newBreaches_cons_recorded hrec, List.length_cons] at hn
          rw [List.takeWhile_cons_of_pos hrec, List.length_cons]
          cases n with
          | zero => simp [result]
          | succ n =>
              rw [run_checking_recorded hrec]
              obtain ⟨hres, hrows⟩ := @ih rest' ms db n hbs' hnodup.2
                (by rw [loopCalls]; omega)
              exact ⟨hres, hrows.trans (by omega)⟩
      | false =>
          rw [loopCalls, newBreaches_cons_new hrec, List.length_cons, List.length_cons] at hn
          rw [List.takeWhile_cons_of_neg (by rw [hrec]; exact Bool.false_ne_true),
            List.length_nil]
          match n, hn with
          | 0, _ => simp [result]
          | 1, _ =>
              rw [run_succ, resume_checking_new hrec]
              simp [result]
          | n + 2, hn =>
              rw [run_checking_new hrec]
              obtain ⟨hres, -⟩ := @ih rest' (ms ++ [m])
                (BudgetAlertDao.insert (m.alert month) db) n hbs' hnodup.2
                (by rw [loopCalls, newBreaches_insert hnodup.1]; omega)
              exact ⟨hres, iff_of_false (budgetAlerts_run_insert_ne _ hrec n) (by omega)⟩

end Loop

/-! ### The whole call -/

/-- The snapshot of a call during which nobody else writes. -/
def snapshotOf (boundariesNow : ℤ) (db : Database) : Snapshot :=
  Snapshot.read boundariesNow (TxDao.getAllAscending db) (CategoryDao.getAllAscending db)

/-- The breaches of the database in the month of `boundariesNow`. -/
def currentBreaches (boundariesNow : ℤ) (db : Database) : List BreachMessage :=
  breaches (snapshotOf boundariesNow db) (BudgetDao.getAllAscending db)

/-- The three reads come first. -/
theorem run_start_add_three (keyNow boundariesNow : ℤ) (db : Database) (n : ℕ) :
    (start keyNow boundariesNow).run db (n + 3) =
      run ⟨getCurrentMonthKey keyNow, getMonthBoundaries boundariesNow,
        forEachBudget (snapshotOf boundariesNow db) (BudgetDao.getAllAscending db) []⟩ db n := by
  simp only [run_succ, start, resume, snapshotOf, Snapshot.read]

/-- No two breaches of one check have the same alert. -/
theorem nodup_currentBreaches (boundariesNow : ℤ) (db : Database) (month : Text) :
    ((currentBreaches boundariesNow db).map (BreachMessage.alert month)).Nodup :=
  nodup_breaches (snapshotOf boundariesNow db) db month

/-- **A call that runs alone** returns the breaches not yet recorded, and records exactly
these. -/
theorem run_start {keyNow boundariesNow : ℤ} {db : Database} {n : ℕ}
    (hn : 3 + loopCalls (getCurrentMonthKey keyNow) db (currentBreaches boundariesNow db) ≤ n) :
    ((start keyNow boundariesNow).run db n).1.result =
        some (newBreaches (getCurrentMonthKey keyNow) db (currentBreaches boundariesNow db)) ∧
      ((start keyNow boundariesNow).run db n).2.budgetAlerts.rows =
        db.budgetAlerts.rows ++
          (newBreaches (getCurrentMonthKey keyNow) db (currentBreaches boundariesNow db)).map
            (BreachMessage.alert (getCurrentMonthKey keyNow)) := by
  obtain ⟨n, rfl⟩ : ∃ k, n = k + 3 := ⟨n - 3, by omega⟩
  rw [run_start_add_three]
  have hbs : breaches (snapshotOf boundariesNow db) (BudgetDao.getAllAscending db) =
      currentBreaches boundariesNow db := rfl
  exact run_forEachBudget_of_le hbs (nodup_currentBreaches boundariesNow db _) (by omega)

/-- A call whose first `n` DAO calls succeed and whose next one, if there is one, throws:
the returned list, or `none` when the call ends with the exception, and the database it
leaves behind. -/
def checkBudgetBreaches (keyNow boundariesNow : ℤ) (db : Database) (n : ℕ) :
    Option (List BreachMessage) × Database :=
  (((start keyNow boundariesNow).run db n).1.fail.result,
    ((start keyNow boundariesNow).run db n).2)

/-- What a call has returned does not depend on a failure after it. -/
theorem result_fail (c : Call) : c.fail.result = c.result := by
  obtain ⟨month, boundaries, phase⟩ := c
  cases phase <;> rfl

/-- No alert is recorded without being reported: each row added by the call has its
message in the returned list, and a call that throws leaves `budget_alert` as it was. -/
def ReportsRecorded (keyNow boundariesNow : ℤ) (db : Database) (n : ℕ) : Prop :=
  (∀ alert ∈ (checkBudgetBreaches keyNow boundariesNow db n).2.budgetAlerts.rows,
    alert ∉ db.budgetAlerts.rows →
      ∃ m ∈ ((checkBudgetBreaches keyNow boundariesNow db n).1).getD [],
        m.alert (getCurrentMonthKey keyNow) = alert) ∧
  ((checkBudgetBreaches keyNow boundariesNow db n).1 = none →
    (checkBudgetBreaches keyNow boundariesNow db n).2.budgetAlerts = db.budgetAlerts)

/-- **What is recorded is reported exactly when no DAO call fails, or one fails early
enough**: at the latest at the insert of the first breach not yet recorded, which follows
the three reads, one check for each recorded breach before it, and its own check. -/
theorem reportsRecorded_iff (keyNow boundariesNow : ℤ) (db : Database) (n : ℕ) :
    ReportsRecorded keyNow boundariesNow db n ↔
      3 + loopCalls (getCurrentMonthKey keyNow) db (currentBreaches boundariesNow db) ≤ n ∨
      n ≤ 4 + ((currentBreaches boundariesNow db).takeWhile
        (recorded (getCurrentMonthKey keyNow) db)).length := by
  rw [ReportsRecorded, checkBudgetBreaches, result_fail]
  rcases Nat.lt_or_ge n
    (3 + loopCalls (getCurrentMonthKey keyNow) db (currentBreaches boundariesNow db)) with hlt | hge
  · -- the call ends with the exception
    have hkept : ((start keyNow boundariesNow).run db n).1.result = none ∧
        (((start keyNow boundariesNow).run db n).2.budgetAlerts = db.budgetAlerts ↔
          n ≤ 4 + ((currentBreaches boundariesNow db).takeWhile
            (recorded (getCurrentMonthKey keyNow) db)).length) := by
      match n, hlt with
      | 0, _ => exact ⟨rfl, by simp⟩
      | 1, _ => exact ⟨rfl, iff_of_true rfl (by omega)⟩
      | 2, _ => exact ⟨rfl, iff_of_true rfl (by omega)⟩
      | n + 3, hlt =>
          rw [run_start_add_three]
          have hlt' : n < loopCalls (getCurrentMonthKey keyNow) db
              (currentBreaches boundariesNow db) := by omega
          have hbs : breaches (snapshotOf boundariesNow db) (BudgetDao.getAllAscending db) =
              currentBreaches boundariesNow db := rfl
          refine (run_forEachBudget_of_lt hbs (nodup_currentBreaches boundariesNow db _)
            hlt').imp_right fun hiff => hiff.trans ?_
          omega
    obtain ⟨hnone, hiff⟩ := hkept
    rw [hnone]
    constructor
    · rintro ⟨-, hsame⟩
      exact Or.inr (hiff.mp (hsame rfl))
    · rintro (hge | hle)
      · omega
      · have hsame := hiff.mpr hle
        rw [hsame]
        exact ⟨fun alert hmem hnot => absurd hmem hnot, fun _ => rfl⟩
  · obtain ⟨hres, hrows⟩ := run_start hge
    rw [hres, hrows]
    refine iff_of_true ⟨?_, ?_⟩ (Or.inl hge)
    · intro alert hmem hnot
      rcases List.mem_append.mp hmem with hold | hnew
      · exact absurd hold hnot
      · obtain ⟨m, hm, heq⟩ := List.mem_map.mp hnew
        exact ⟨m, hm, heq⟩
    · intro h
      cases h

/-- Two categories, each with a budget that a single expense uses up. -/
def twoExceeded : Database :=
  { transactions :=
      { rows :=
          [{ id := 1, amountMinor := 500, timestampUtcMillis := 0, note := none,
             categoryId := some 1, accountId := none, isIncome := false },
           { id := 2, amountMinor := 700, timestampUtcMillis := 1, note := none,
             categoryId := some 2, accountId := none, isIncome := false }]
        nodup_keys := by decide
        sequence := 2
        sequence_nonneg := by decide
        id_le_sequence := by decide }
    categories :=
      { rows :=
          [{ id := 1, name := "Food".toList, color := [], icon := none, isIncome := false },
           { id := 2, name := "Rent".toList, color := [], icon := none, isIncome := false }]
        nodup_keys := by decide
        sequence := 2
        sequence_nonneg := by decide
        id_le_sequence := by decide }
    budgets :=
      { rows :=
          [{ categoryId := "Food".toList, monthlyLimitMinor := 500 },
           { categoryId := "Rent".toList, monthlyLimitMinor := 600 }]
        nodup_keys := by decide }
    budgetAlerts := Relational.Table.empty _ }

/-- The check of the second budget fails: the alert of the first one stays recorded, and
nobody hears of it. -/
theorem not_reportsRecorded_second_check : ¬ ReportsRecorded 0 0 twoExceeded 5 := by
  rintro ⟨-, hkept⟩
  have hnone : (checkBudgetBreaches 0 0 twoExceeded 5).1 = none := by decide
  have hrows : (checkBudgetBreaches 0 0 twoExceeded 5).2.budgetAlerts.rows ≠ [] := by
    decide
  rw [hkept hnone] at hrows
  exact hrows rfl

end Call

end SpendCraft
