import SpendCraft.Ios.Budgets
import SpendCraft.Ios.CsvFile
import SpendCraft.Ios.Links
import SpendCraft.Ios.RecurringRuns

/-!
# The Ids of the iOS App

The app gives its objects ids of its own, next to their identities: each place that creates
objects draws a number for each, from `1...10000` or from `1...1000000`, and does not look
at the ids that are there. Categories, accounts and transactions are found by these ids.

## Conventions

An object has an identity of its own, which is never drawn, and an `id` that is. The inputs of a
run are the calls that create objects, with the numbers drawn for each: any numbers of the range,
the same ones included. A call that ends the app creates nothing. The first start seeds categories
and an account, as `Links` has it, and the lemma `seedInitialData_eq` says that the two
descriptions of it are one.

## Proof

What a call draws is a list of numbers for each kind of objects (`drawn`), and its effect on the
ids is to append them. So the ids of a kind stay different exactly if the drawn ones are fresh
(`FreshFor`), which is a condition on the call and the ids before it. The runs are the rule of
`Machine`.

## Main results

* `seedInitialData_eq`: the seeded categories and accounts are those that are seeded into a store
  of objects.
* `uniqueIds_step_iff`: what one call must draw.
* `uniqueIds_iff`: in which runs no two objects of a kind have one id.
-/

namespace SpendCraft.Ios

open Kotlin Relational Machine

namespace Context

/-- The context without objects. -/
def empty : Context :=
  { categories := []
    accounts := AutoTable.empty _
    transactions := []
    recurringTransactions := AutoTable.empty _ }

end Context

/-! ### Creating objects -/

namespace CoreDataStack

/-- The names of the categories that the app creates, in their order. -/
def seededNames : List Text :=
  ["Gıda", "Ulaşım", "Fatura", "Eğlence", "Alışveriş", "Sağlık", "Eğitim", "Kredi", "Diğer Gider",
    "Maaş", "Kira", "Prim", "Yatırım", "İkramiye", "Serbest Çalışma", "Kira Geliri",
    "Diğer Gelir"].map String.toList

/-- The categories with the numbers drawn from `1...10000` for them. -/
def seededCategories (randomIds : ℕ → ℤ) : List CategoryEntity :=
  seededNames.zipIdx.map fun (name, k) => { id := randomIds k, name := name }

/-- Without categories, the app creates some, and an account if there is none. -/
def seedInitialData (randomIds : ℕ → ℤ) (randomAccountId : ℤ) (context : Context) : Context :=
  if context.categories.length = 0 then
    { context with
      categories := seededCategories randomIds
      accounts :=
        if context.accounts.rows.length = 0 then
          context.accounts.insertOrReplace
            { objectID := 0
              id := randomAccountId
              name := "Nakit".toList
              type := "CASH".toList
              currency := "TRY".toList
              isDefault := true
              archived := false }
        else context.accounts }
  else context

/-- **One seeding.** What is seeded here and what is seeded into a store of objects are the same
categories and the same account, as far as the context has them: a store that has categories only
gets types for them. -/
theorem seedInitialData_eq (typeOf : Text → Text) (randomIds : ℕ → ℤ)
    (randomAccountId : ℤ) {context : Context} {store : ObjectStore}
    (hcategories : context.categories =
      store.categories.rows.map CategoryObject.toCategoryEntity)
    (haccounts : context.accounts = store.accounts) :
    let seeded := seedObjects typeOf randomIds randomAccountId store
    (seedInitialData randomIds randomAccountId context).categories =
        seeded.categories.rows.map CategoryObject.toCategoryEntity ∧
      (seedInitialData randomIds randomAccountId context).accounts = seeded.accounts := by
  intro seeded
  have hlength : context.categories.length = store.categories.rows.length := by
    rw [hcategories, List.length_map]
  by_cases hempty : store.categories.rows.length = 0
  · rw [seedInitialData, if_pos (hlength.trans hempty)]
    simp only [seeded, seedObjects, if_pos hempty]
    refine ⟨?_, ?_⟩
    · rw [AutoTable.map_rows_foldl_insertOrReplace (fun _ _ => rfl) (fun _ => rfl),
        List.length_eq_zero_iff.mp hempty]
      rfl
    · rw [haccounts]
      rfl
  · have hmigrated : seeded = migrateExistingCategories typeOf store := if_neg hempty
    rw [seedInitialData, if_neg fun h => hempty (hlength.symm.trans h), hmigrated]
    refine ⟨?_, haccounts⟩
    -- a type is no part of what the context has
    rw [hcategories, migrateExistingCategories, AutoTable.rows_updateSet, List.map_map]
    refine List.map_congr_left fun row _ => ?_
    rw [Function.comp_apply]
    split_ifs
    · rfl
    · rfl

end CoreDataStack

/-- A call that creates objects. The lists of categories and accounts are the loaded ones,
and a `randomId` is the number drawn for an object. -/
inductive CreatingCall
  | seedInitialData (randomIds : ℕ → ℤ) (randomAccountId : ℤ)
  | addCategory (randomId : ℤ) (name : Text)
  | addAccount (accounts : List AccountEntity) (randomId : ℤ) (name type currency : Text)
  | addTransaction (now randomId : ℤ) (amount : ℚ) (note : Option Text)
      (category : Option CategoryEntity) (account : Option AccountEntity) (isIncome : Bool)
  | addRecurringTransaction (recurring : RecurringTransactionEntity)
  | executeDueTransactions (now : ℤ) (randomId : ℤ → ℤ)
  | importFromCSV (categories : List CategoryEntity) (accounts : List AccountEntity)
      (randomIds : ℕ → ℤ) (csvString : Text)

namespace CreatingCall

/-- An amount that does not fit ends the app before anything is saved, in an import as
well. -/
def step (calendar : CalendarSystem) (format : CsvFormat) (context : Context) :
    CreatingCall → Context
  | seedInitialData randomIds randomAccountId =>
      CoreDataStack.seedInitialData randomIds randomAccountId context
  | addCategory randomId name =>
      { context with categories := context.categories ++ [{ id := randomId, name := name }] }
  | addAccount accounts randomId name type currency =>
      { context with
        accounts :=
          AccountsViewModel.addAccount accounts randomId name type currency context.accounts }
  | addTransaction now randomId amount note category account isIncome =>
      if FitsInt64 (minorUnits amount) then
        { context with
          transactions := context.transactions ++
            [TransactionsViewModel.addTransaction now randomId amount note category account
              isIncome] }
      else context
  | addRecurringTransaction recurring =>
      { context with
        recurringTransactions := context.recurringTransactions.insertOrReplace recurring }
  | executeDueTransactions now randomId =>
      RecurringViewModel.executeDueTransactions calendar now randomId context
  | importFromCSV categories accounts randomIds csvString =>
      match ExportManager.importFromCSV format categories accounts randomIds csvString with
      | some (created, _) =>
          { context with
            transactions := context.transactions ++
              created.map RelatedTransaction.toTransactionEntity }
      | none => context

/-- The numbers that a call draws for categories, accounts and transactions. -/
structure Drawn where
  categories : List ℤ
  accounts : List ℤ
  transactions : List ℤ

/-- The ids that a call draws for the objects it creates. -/
def drawn (calendar : CalendarSystem) (format : CsvFormat) (context : Context) :
    CreatingCall → Drawn
  | seedInitialData randomIds randomAccountId =>
      if context.categories.length = 0 then
        { categories := (List.range 17).map randomIds
          accounts := if context.accounts.rows.length = 0 then [randomAccountId] else []
          transactions := [] }
      else { categories := [], accounts := [], transactions := [] }
  | addCategory randomId _ => { categories := [randomId], accounts := [], transactions := [] }
  | addAccount _ randomId _ _ _ => { categories := [], accounts := [randomId], transactions := [] }
  | addTransaction _ randomId amount _ _ _ _ =>
      { categories := []
        accounts := []
        transactions := if FitsInt64 (minorUnits amount) then [randomId] else [] }
  | addRecurringTransaction _ => { categories := [], accounts := [], transactions := [] }
  | executeDueTransactions now randomId =>
      { categories := []
        accounts := []
        transactions := (ExecutorCall.created calendar context
          (.executeDueTransactions now randomId)).map fun c => randomId c.1.objectID }
  | importFromCSV _ _ randomIds csvString =>
      { categories := []
        accounts := []
        transactions :=
          match ExportManager.readRows format ((csvString.splitOn '\n').drop 1) with
          | some (read, _) => (List.range read.length).map randomIds
          | none => [] }

end CreatingCall

/-! ### Ids -/

/-- No two objects of a kind have one id, and no transaction counts for two categories. -/
structure UniqueIds (context : Context) : Prop where
  categories : (context.categories.map CategoryEntity.id).Nodup
  accounts : (context.accounts.rows.map AccountEntity.id).Nodup
  transactions : (context.transactions.map TransactionEntity.id).Nodup
  disjoint : context.categories.Pairwise fun a b =>
    (TransactionsViewModel.transactionsForCategory a context.transactions).Disjoint
      (TransactionsViewModel.transactionsForCategory b context.transactions)

/-- The numbers are different from each other and from the ids that are there. -/
def FreshFor (ids drawn : List ℤ) : Prop :=
  drawn.Nodup ∧ ids.Disjoint drawn

/-- What a call draws is fresh. -/
structure CreatingCall.Fresh (calendar : CalendarSystem) (format : CsvFormat) (context : Context)
    (call : CreatingCall) : Prop where
  categories : FreshFor (context.categories.map CategoryEntity.id)
    (call.drawn calendar format context).categories
  accounts : FreshFor (context.accounts.rows.map AccountEntity.id)
    (call.drawn calendar format context).accounts
  transactions : FreshFor (context.transactions.map TransactionEntity.id)
    (call.drawn calendar format context).transactions

variable {calendar : CalendarSystem} {format : CsvFormat} {context : Context}
  {call : CreatingCall}

/-- Categories with different ids have different transactions. -/
theorem pairwise_disjoint (h : (context.categories.map CategoryEntity.id).Nodup) :
    context.categories.Pairwise fun a b =>
      (TransactionsViewModel.transactionsForCategory a context.transactions).Disjoint
        (TransactionsViewModel.transactionsForCategory b context.transactions) := by
  rw [List.Nodup, List.pairwise_map] at h
  refine h.imp ?_
  intro a b hne transaction ha hb
  rw [TransactionsViewModel.transactionsForCategory, List.mem_filter, beq_iff_eq] at ha hb
  exact hne (ha.2.symm.trans hb.2)

/-- Ids are unique in each of the three lists. -/
theorem uniqueIds_iff_nodup : UniqueIds context ↔
    (context.categories.map CategoryEntity.id).Nodup ∧
      (context.accounts.rows.map AccountEntity.id).Nodup ∧
      (context.transactions.map TransactionEntity.id).Nodup :=
  ⟨fun h => ⟨h.categories, h.accounts, h.transactions⟩,
    fun ⟨hcategories, haccounts, htransactions⟩ =>
      ⟨hcategories, haccounts, htransactions, pairwise_disjoint hcategories⟩⟩

/-- Drawn ids leave the list without repetition exactly if they are fresh for it. -/
theorem nodup_append_iff_freshFor {ids drawn : List ℤ} (h : ids.Nodup) :
    (ids ++ drawn).Nodup ↔ FreshFor ids drawn := by
  rw [List.nodup_append', FreshFor]
  constructor
  · rintro ⟨-, hdrawn, hdisjoint⟩
    exact ⟨hdrawn, hdisjoint⟩
  · rintro ⟨hdrawn, hdisjoint⟩
    exact ⟨h, hdrawn, hdisjoint⟩

/-! ### One call -/

/-- Numbering a list by its places. -/
theorem map_zipIdx_snd {α β : Type*} (l : List α) (f : ℕ → β) :
    (l.zipIdx.map fun (_, k) => f k) = (List.range l.length).map f := by
  have hsnd : (l.zipIdx.map fun (_, k) => f k) = (l.zipIdx.map Prod.snd).map f := by
    rw [List.map_map]
    rfl
  rw [hsnd, List.zipIdx_map_snd, List.range_eq_range']

/-- The ids of the seeded categories are those drawn. -/
theorem ids_seededCategories (randomIds : ℕ → ℤ) :
    (CoreDataStack.seededCategories randomIds).map CategoryEntity.id =
      (List.range 17).map randomIds := by
  rw [CoreDataStack.seededCategories, List.map_map]
  exact map_zipIdx_snd CoreDataStack.seededNames randomIds

/-- A transaction that is entered leaves the categories and the accounts alone. -/
theorem frame_addTransaction (now randomId : ℤ) (amount : ℚ) (note : Option Text)
    (category : Option CategoryEntity) (account : Option AccountEntity) (isIncome : Bool) :
    (CreatingCall.step calendar format context
        (.addTransaction now randomId amount note category account isIncome)).categories =
        context.categories ∧
      (CreatingCall.step calendar format context
        (.addTransaction now randomId amount note category account isIncome)).accounts =
        context.accounts := by
  rw [CreatingCall.step]
  split_ifs
  · exact ⟨rfl, rfl⟩
  · exact ⟨rfl, rfl⟩

/-- And so does an import of transactions. -/
theorem frame_importFromCSV (categories : List CategoryEntity) (accounts : List AccountEntity)
    (randomIds : ℕ → ℤ) (csvString : Text) :
    (CreatingCall.step calendar format context
        (.importFromCSV categories accounts randomIds csvString)).categories =
        context.categories ∧
      (CreatingCall.step calendar format context
        (.importFromCSV categories accounts randomIds csvString)).accounts =
        context.accounts := by
  rw [CreatingCall.step]
  rcases ExportManager.importFromCSV format categories accounts randomIds csvString with
    _ | ⟨created, failed⟩
  · exact ⟨rfl, rfl⟩
  · exact ⟨rfl, rfl⟩

/-- A call appends the ids it draws for categories. -/
theorem categories_step : (call.step calendar format context).categories.map CategoryEntity.id =
    context.categories.map CategoryEntity.id ++
      (call.drawn calendar format context).categories := by
  cases call with
  | seedInitialData randomIds randomAccountId =>
      rw [CreatingCall.step, CoreDataStack.seedInitialData, CreatingCall.drawn]
      by_cases hempty : context.categories.length = 0
      · rw [if_pos hempty, if_pos hempty, ids_seededCategories, List.length_eq_zero_iff.mp hempty]
        rfl
      · rw [if_neg hempty, if_neg hempty]
        exact (List.append_nil _).symm
  | addCategory randomId name => simp [CreatingCall.step, CreatingCall.drawn]
  | addTransaction now randomId amount =>
      rw [(frame_addTransaction ..).1]
      exact (List.append_nil _).symm
  | importFromCSV categories accounts randomIds csvString =>
      rw [(frame_importFromCSV categories accounts randomIds csvString).1]
      exact (List.append_nil _).symm
  | _ => exact (List.append_nil _).symm

/-- A call appends the ids it draws for accounts. -/
theorem accounts_step : (call.step calendar format context).accounts.rows.map AccountEntity.id =
    context.accounts.rows.map AccountEntity.id ++
      (call.drawn calendar format context).accounts := by
  cases call with
  | seedInitialData randomIds randomAccountId =>
      rw [CreatingCall.step, CoreDataStack.seedInitialData, CreatingCall.drawn]
      split_ifs with hcategories haccounts
      · dsimp only
        rw [AutoTable.rows_insertOrReplace_generated _ rfl, List.map_append]
        rfl
      · exact (List.append_nil _).symm
      · exact (List.append_nil _).symm
  | addAccount accounts randomId name type currency =>
      rw [CreatingCall.step, CreatingCall.drawn]
      dsimp only
      rw [AccountsViewModel.addAccount, AutoTable.rows_insertOrReplace_generated _ rfl,
        List.map_append]
      rfl
  | addTransaction now randomId amount =>
      rw [(frame_addTransaction ..).2]
      exact (List.append_nil _).symm
  | importFromCSV categories accounts randomIds csvString =>
      rw [(frame_importFromCSV categories accounts randomIds csvString).2]
      exact (List.append_nil _).symm
  | _ => exact (List.append_nil _).symm

/-- The transactions of the due rules have the numbers that were drawn for the rules. -/
theorem ids_created (now : ℤ) (randomId : ℤ → ℤ) :
    (ExecutorCall.created calendar context (.executeDueTransactions now randomId)).map
        (fun c => c.2.id) =
      (ExecutorCall.created calendar context (.executeDueTransactions now randomId)).map
        fun c => randomId c.1.objectID := by
  apply List.map_congr_left
  rintro ⟨row, transaction⟩ hcreated
  obtain ⟨-, -, -, hbody⟩ := ExecutorCall.mem_created_iff.mp hcreated
  rw [ExecutorCall.body, RecurringViewModel.executeRecurring] at hbody
  split at hbody
  · rw [← Option.some_inj.mp hbody]
    rfl
  · cases hbody

/-- A call appends the ids it draws for transactions. -/
theorem transactions_step :
    (call.step calendar format context).transactions.map TransactionEntity.id =
      context.transactions.map TransactionEntity.id ++
        (call.drawn calendar format context).transactions := by
  cases call with
  | seedInitialData randomIds randomAccountId =>
      rw [CreatingCall.step, CoreDataStack.seedInitialData, CreatingCall.drawn]
      by_cases hempty : context.categories.length = 0
      · rw [if_pos hempty, if_pos hempty]
        exact (List.append_nil _).symm
      · rw [if_neg hempty, if_neg hempty]
        exact (List.append_nil _).symm
  | addTransaction now randomId amount =>
      rw [CreatingCall.step, CreatingCall.drawn]
      split_ifs
      · rw [List.map_append]
        rfl
      · rw [List.append_nil]
  | executeDueTransactions now randomId =>
      rw [CreatingCall.step, CreatingCall.drawn, ← ids_created now randomId]
      have htransactions : (RecurringViewModel.executeDueTransactions calendar now randomId
          context).transactions = context.transactions ++ (ExecutorCall.created calendar context
            (.executeDueTransactions now randomId)).map Prod.snd := rfl
      rw [htransactions, List.map_append, List.map_map]
      rfl
  | importFromCSV categories accounts randomIds csvString =>
      rw [CreatingCall.step, CreatingCall.drawn, ExportManager.importFromCSV]
      rcases ExportManager.readRows format ((csvString.splitOn '\n').drop 1) with
        _ | ⟨read, failed⟩
      · exact (List.append_nil _).symm
      · rw [Option.map_some]
        dsimp only
        rw [List.map_append, List.map_map, List.map_map, ← map_zipIdx_snd]
        rfl
  | _ => exact (List.append_nil _).symm

/-- **The step.** -/
theorem uniqueIds_step_iff (h : UniqueIds context) (calendar : CalendarSystem)
    (format : CsvFormat) (call : CreatingCall) :
    UniqueIds (call.step calendar format context) ↔ call.Fresh calendar format context := by
  rw [uniqueIds_iff_nodup, categories_step, accounts_step, transactions_step,
    nodup_append_iff_freshFor h.categories, nodup_append_iff_freshFor h.accounts,
    nodup_append_iff_freshFor h.transactions]
  exact ⟨fun ⟨hcategories, haccounts, htransactions⟩ => ⟨hcategories, haccounts, htransactions⟩,
    fun hfresh => ⟨hfresh.categories, hfresh.accounts, hfresh.transactions⟩⟩

/-! ### Runs -/

/-- **The ids are unique** in every state of a run, just when every call of it draws numbers
that are different from each other and from the ids that are there. -/
theorem uniqueIds_iff (calendar : CalendarSystem) (format : CsvFormat)
    (calls : List CreatingCall) :
    (∀ pre, pre <+: calls →
        UniqueIds (run (CreatingCall.step calendar format) Context.empty pre)) ↔
      AllSteps (CreatingCall.step calendar format)
        (fun context call => call.Fresh calendar format context) Context.empty calls := by
  have hempty : UniqueIds Context.empty :=
    ⟨List.nodup_nil, List.nodup_nil, List.nodup_nil, List.Pairwise.nil⟩
  exact forall_prefix_iff_of_step (I := UniqueIds)
    (fun context call h => uniqueIds_step_iff h calendar format call) hempty calls

/-- A fresh installation may draw one number for all of its categories. -/
theorem not_uniqueIds_seeded :
    ¬UniqueIds (run (CreatingCall.step .utc noonFormat) Context.empty
      [.seedInitialData (fun _ => 5) 6]) := by
  intro h
  have hcategories := h.categories
  rw [run_cons, run_nil, categories_step] at hcategories
  have hfresh := (nodup_append_iff_freshFor List.nodup_nil).mp hcategories
  exact absurd hfresh.1 (by decide)

end SpendCraft.Ios
