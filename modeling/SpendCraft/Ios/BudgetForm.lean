import SpendCraft.Ios.Backups
import SpendCraft.Ios.Links
import SpendCraft.Ios.PdfReport
import SpendCraft.AddForms

/-!
# The Budget Form of the iOS App

A row of `CategoriesView` shows the budget of its category and opens `AddBudgetView`, which saves a
limit with `BudgetViewModel.upsertBudget`. The budget is found by the text of the category's id;
`ReportsView` goes by the relation to the category. The relation is set when a budget is created,
and becomes `nil` when the category is deleted. Budgets are never deleted before the sign-out.

Saving the context succeeds. The field holds what the decimal pad offers.

## Conventions

The app is the context of objects with the list of the budgets that were loaded, by their
identities, and the form. An event is what the user does on the screens, and the form covers the
others while it is open. A limit that does not fit an `Int64` ends the app, which then starts
again on what was saved; the numbers that a start draws are inputs. The text of the field is one
that the decimal pad can type.

## Proof

What later modules need of the app is how its objects develop: `Grows` says that only new objects
come, none goes, and the ids stay. It is a preorder, and each part of the app is shown to keep it:
the seeding, the writes of the form, and the loops of an import, the ones that stop included.
`SavedBudgets` and `ReopenedBudgets` follow the budgets with it.

## Main results

* `Grows.seedObjects`: a start of the app adds categories and takes none away.
* `ExportManager.Json.grows_importBackup`: an import does the same, and leaves the budgets alone.
-/

namespace SpendCraft.Ios

open Kotlin Relational Binary64

/-! ### The form -/

/-- `Int64(monthlyLimit * 100)`, or the end of the app. -/
def BudgetViewModel.minorUnits (monthlyLimit : Value) : Option ℤ :=
  match monthlyLimit.times 100 with
  | .finite x => if ⌊x⌋ < 2 ^ 63 then some ⌊x⌋ else none
  | .infinity => none

/-- The category is given by its identity. -/
structure AddBudgetView where
  category : ℤ
  budgetAmount : Text
  deriving DecidableEq, Repr

namespace AddBudgetView

/-- `onAppear` -/
def appear (category : ℤ) (existingBudget : Option BudgetObject) : AddBudgetView :=
  { category := category
    budgetAmount :=
      match existingBudget with
      | some budget => twoDecimals (majorUnits budget.monthlyLimitMinor)
      | none => [] }

/-- The decimal pad has no other characters. -/
def typable (budgetAmount : Text) : Bool :=
  budgetAmount.all fun c => c.isDigit || c == '.' || c == ','

/-- A change of the amount field: a text the field refuses leaves it as it was. -/
def type (budgetAmount : Text) (view : AddBudgetView) : AddBudgetView :=
  if typable budgetAmount then { view with budgetAmount := budgetAmount } else view

/-- The amount that the button saves, if it is enabled. -/
def amount (view : AddBudgetView) : Option Value :=
  match (doubleOrNil view.budgetAmount).map fun amount => nearest (decimalValue amount) with
  | some (.finite x) => if x ≤ 0 then none else some (.finite x)
  | other => other

end AddBudgetView

/-! ### The app -/

/-- What a start of the app draws for a store without categories. -/
structure StartDraws where
  randomIds : ℕ → ℤ
  randomAccountId : ℤ

/-- The objects, the `budgets` of the `BudgetViewModel` by their identities, and the form. -/
structure BudgetApp where
  store : LinkedStore
  budgets : List ℤ
  sheet : Option AddBudgetView

/-- Objects are passed by their identities. A new object gets a random id; `draws` are those of
the next start, should the app end. -/
inductive BudgetEvent
  | addCategory (randomId : ℤ) (name icon color type : Text)
  | deleteCategory (category : ℤ)
  | openBudget (category : ℤ)
  | type (budgetAmount : Text)
  | save (randomId : ℤ) (draws : StartDraws)
  | cancel
  | importFromJSON (replaceExisting : Bool) (backupData : BackupData) (draws : StartDraws)
  | relaunch (draws : StartDraws)

namespace BudgetApp

/-- `loadBudgets`: the fetch sorts by `id`, and the list keeps the objects, not their values. -/
def loadBudgets (app : BudgetApp) : BudgetApp :=
  { app with
    budgets := (app.store.budgets.rows.insertionSort fun a b => a.id ≤ b.id).map
      BudgetObject.objectID }

/-- The objects of `budgets`. -/
def budgetObjects (app : BudgetApp) : List BudgetObject :=
  app.budgets.filterMap fun budget =>
    app.store.budgets.rows.find? fun row => decide (row.objectID = budget)

/-- The budget of a category among those loaded, found by the text of the id of the category. -/
def budgetForCategory (category : CategoryObject) (app : BudgetApp) : Option BudgetObject :=
  app.budgetObjects.find? fun budget => budget.categoryId == intText category.id

/-- The limit in the row of `CategoriesView`. -/
def rowLimit (app : BudgetApp) (category : CategoryObject) : Option ℤ :=
  (app.budgetForCategory category).map BudgetObject.monthlyLimitMinor

/-- The categories and limits in the rows of `ReportsView`. -/
def statusRows (app : BudgetApp) : List (CategoryObject × ℤ) :=
  app.budgetObjects.filterMap fun budget =>
    (app.store.category budget.category).map fun category => (category, budget.monthlyLimitMinor)

/-- `upsertBudget`: a loaded budget of the category gets the new limit, otherwise a budget with a
drawn id is created. -/
def upsertBudget (category : CategoryObject) (monthlyLimitMinor randomId : ℤ) (app : BudgetApp) :
    BudgetApp :=
  let budgets :=
    match app.budgetForCategory category with
    | some existingBudget =>
        app.store.budgets.updateSet
          (fun row =>
            if row.objectID = existingBudget.objectID then
              { row with monthlyLimitMinor := monthlyLimitMinor }
            else row)
          (by
            intro row
            split_ifs
            · rfl
            · rfl)
    | none =>
        app.store.budgets.insertOrReplace
          { objectID := 0
            id := randomId
            categoryId := intText category.id
            monthlyLimitMinor := monthlyLimitMinor
            category := some category.objectID }
  loadBudgets { app with store := { app.store with budgets := budgets } }

/-- The start of the app on stored objects: `onAppear` of `ContentView`. -/
def launch (typeOf : Text → Text) (draws : StartDraws) (store : LinkedStore) : BudgetApp :=
  loadBudgets
    { store :=
        { store with
          toObjectStore := CoreDataStack.seedObjects typeOf draws.randomIds draws.randomAccountId
            store.toObjectStore }
      budgets := []
      sheet := none }

/-- The app right after the installation. -/
def fresh (typeOf : Text → Text) (draws : StartDraws) : BudgetApp :=
  launch typeOf draws
    { ObjectStore.empty with recurringTransactions := AutoTable.empty _ }

/-- `addCategory`: a new object with a drawn id. -/
def addCategory (randomId : ℤ) (name icon color type : Text) (app : BudgetApp) : BudgetApp :=
  { app with
    store :=
      { app.store with
        categories := app.store.categories.insertOrReplace
          { objectID := 0
            id := randomId
            name := name
            color := color
            icon := some icon
            type := some type } } }

/-- A trap ends the app. -/
def importFromJSON (typeOf : Text → Text) (order : FetchOrder) (replaceExisting : Bool)
    (backupData : BackupData) (draws : StartDraws) (app : BudgetApp) : BudgetApp :=
  let (session, outcome) := ExportManager.Json.importFromJSON order ImportFailures.none
    replaceExisting backupData { saved := app.store.toObjectStore, pending := [] }
  let store := { app.store with toObjectStore := session.view }
  match outcome with
  | .trapped => launch typeOf draws store
  | _ => { app with store := store }

/-- What the button saves: the category, and the limit or the end of the app. -/
def saving (app : BudgetApp) : Option (CategoryObject × Option ℤ) := do
  let view ← app.sheet
  let category ← app.store.category (some view.category)
  let amount ← view.amount
  pure (category, BudgetViewModel.minorUnits amount)

/-- The save of the form: with a limit that fits an `Int64` the budget is stored and the sheet is
closed; with another one the conversion traps, and the app starts again. -/
def saveBudget (typeOf : Text → Text) (randomId : ℤ) (draws : StartDraws) (app : BudgetApp) :
    BudgetApp :=
  match app.saving with
  | some (category, some monthlyLimitMinor) =>
      { app.upsertBudget category monthlyLimitMinor randomId with sheet := none }
  | some (_, none) => launch typeOf draws app.store
  | none => app

/-- The form covers the other screens. -/
def step (typeOf : Text → Text) (order : FetchOrder) (app : BudgetApp) (event : BudgetEvent) :
    BudgetApp :=
  match app.sheet, event with
  | none, .addCategory randomId name icon color type =>
      app.addCategory randomId name icon color type
  | none, .deleteCategory category => { app with store := app.store.deleteCategory category }
  | none, .openBudget category =>
      { app with
        sheet := (app.store.category (some category)).map fun category =>
          AddBudgetView.appear category.objectID (app.budgetForCategory category) }
  | none, .importFromJSON replaceExisting backupData draws =>
      app.importFromJSON typeOf order replaceExisting backupData draws
  | some view, .type budgetAmount => { app with sheet := some (view.type budgetAmount) }
  | some _, .save randomId draws => app.saveBudget typeOf randomId draws
  | some _, .cancel => { app with sheet := none }
  | _, .relaunch draws => launch typeOf draws app.store
  | _, _ => app

end BudgetApp

/-! ### Categories -/

/-- The objects with their ids. -/
def objectIds (categories : AutoTable CategoryObject) : List (ℤ × ℤ) :=
  categories.rows.map fun category => (category.objectID, category.id)

/-- Only new objects come, and none goes. -/
structure Grows (categories categories' : AutoTable CategoryObject) : Prop where
  sequence : categories.sequence ≤ categories'.sequence
  objectIds : ∀ objectID id, objectID ≤ categories.sequence →
    ((objectID, id) ∈ objectIds categories' ↔ (objectID, id) ∈ objectIds categories)

namespace Grows

variable {categories categories' categories'' : AutoTable CategoryObject}

/-- No change grows nothing. -/
theorem refl (categories : AutoTable CategoryObject) : Grows categories categories :=
  ⟨le_refl _, fun _ _ _ => Iff.rfl⟩

/-- Growth composes. -/
theorem trans (h : Grows categories categories') (h' : Grows categories' categories'') :
    Grows categories categories'' where
  sequence := h.sequence.trans h'.sequence
  objectIds objectID id hle :=
    (h'.objectIds objectID id (hle.trans h.sequence)).trans (h.objectIds objectID id hle)

/-- A new object takes an object id that no earlier row had. -/
theorem insertOrReplace {category : CategoryObject} (hnew : category.objectID = 0) :
    Grows categories (categories.insertOrReplace category) where
  sequence := by
    rw [AutoTable.sequence_insertOrReplace_generated categories hnew]
    omega
  objectIds objectID id hle := by
    rw [Ios.objectIds, AutoTable.rows_insertOrReplace_generated categories hnew, List.map_append,
      List.mem_append, List.map_singleton, List.mem_singleton, Prod.mk.injEq]
    refine or_iff_left ?_
    rintro ⟨rfl, -⟩
    have hobject : CategoryObject.objectID (RowId.withId (categories.sequence + 1) category) =
        categories.sequence + 1 := rfl
    omega

/-- A change of other columns. -/
theorem updateSet {f : CategoryObject → CategoryObject}
    (hobject : ∀ row, RowId.id (f row) = RowId.id row) (hid : ∀ row, (f row).id = row.id) :
    Grows categories (categories.updateSet f hobject) where
  sequence := le_refl _
  objectIds objectID id _ := by
    have hrow : ((fun row : CategoryObject => (row.objectID, row.id)) ∘ f) =
        fun row => (row.objectID, row.id) := by
      funext row
      exact Prod.ext (hobject row) (hid row)
    rw [Ios.objectIds, AutoTable.rows_updateSet, List.map_map, hrow, Ios.objectIds]

/-- A loop grows if its body does. -/
theorem foldl {α : Type*} {f : AutoTable CategoryObject → α → AutoTable CategoryObject}
    (hf : ∀ categories a, Grows categories (f categories a)) (l : List α)
    (categories : AutoTable CategoryObject) : Grows categories (l.foldl f categories) := by
  induction l generalizing categories with
  | nil => exact refl categories
  | cons a l ih => exact (hf categories a).trans (ih (f categories a))

/-- Seeding at the start of the app adds categories and keeps those that exist. -/
theorem seedObjects (typeOf : Text → Text) (randomIds : ℕ → ℤ) (randomAccountId : ℤ)
    (store : ObjectStore) :
    Grows store.categories
      (CoreDataStack.seedObjects typeOf randomIds randomAccountId store).categories := by
  by_cases hempty : store.categories.rows.length = 0
  · have hseed (categories : AutoTable CategoryObject)
        (category : (Text × Text × Text × Text) × ℤ) :
        Grows categories (categories.insertOrReplace (CoreDataStack.seedCategory category)) :=
      insertOrReplace rfl
    rw [CoreDataStack.seedObjects, if_pos hempty]
    exact foldl hseed _ store.categories
  · rw [CoreDataStack.seedObjects, if_neg hempty]
    exact updateSet _ fun row => by split_ifs <;> rfl

/-- The import of one category adds a row or changes one in place. -/
theorem writeCategory (order : FetchOrder) (replaceExisting : Bool)
    (backupCategory : BackupCategory) (color : Text) (categories : AutoTable CategoryObject) :
    Grows categories (ExportManager.Json.writeCategory order replaceExisting backupCategory color
      categories) := by
  rw [ExportManager.Json.writeCategory]
  split
  · refine updateSet _ fun row => ?_
    split_ifs <;> rfl
  · exact insertOrReplace rfl

end Grows

/-! ### Imports -/

/-- The context during an import: on top of the stored objects, new categories and the same
budgets. -/
structure Session.Entered (store : ObjectStore) (session : Session) : Prop where
  saved : session.saved = store
  categories : Grows store.categories session.view.categories
  budgets : session.view.budgets = store.budgets

namespace Session.Entered

variable {store : ObjectStore} {session : Session}

/-- An empty session has entered nothing but the store it started with. -/
theorem start (store : ObjectStore) : Entered store { saved := store, pending := [] } :=
  ⟨rfl, Grows.refl _, rfl⟩

/-- Recording a change in the session: the categories may grow, the budgets stay. -/
theorem record (h : Entered store session) {change : Change}
    (hcategories : ∀ store, Grows store.categories (change store).categories)
    (hbudgets : ∀ store, (change store).budgets = store.budgets) :
    Entered store (session.record change) where
  saved := h.saved
  categories := by
    rw [Session.view_record]
    exact h.categories.trans (hcategories session.view)
  budgets := by
    rw [Session.view_record, hbudgets, h.budgets]

/-- A restart drops what is pending, and what was saved stays entered. -/
theorem restart (h : Entered store session) : Entered store session.restart := by
  obtain ⟨saved, pending⟩ := session
  obtain rfl : saved = store := h.saved
  exact start saved

end Session.Entered

namespace ExportManager.Json

open Session (Entered)

/-- The context that a loop leaves. -/
def leftBehind : Except Stopped Importing → Session
  | .ok importing => importing.session
  | .error (.thrown session) => session
  | .error (.trapped session) => session

variable {store : ObjectStore}

/-- An import loop keeps the relation, also where a round stops it half-way. -/
theorem entered_foldlM {α : Type*} {round : Importing → α → Except Stopped Importing}
    (hround : ∀ importing a, Entered store importing.session →
      Entered store (leftBehind (round importing a)))
    (l : List α) (importing : Importing) (h : Entered store importing.session) :
    Entered store (leftBehind (l.foldlM round importing)) := by
  induction l generalizing importing with
  | nil => exact h
  | cons a l ih =>
      have hfirst := hround importing a h
      rw [List.foldlM_cons]
      cases hresult : round importing a with
      | error stopped =>
          rw [hresult] at hfirst
          exact hfirst
      | ok importing' =>
          rw [hresult] at hfirst
          exact ih importing' hfirst

/-- The round of one category. -/
theorem entered_importCategory (order : FetchOrder) (fails : ℕ → Bool) (replaceExisting : Bool)
    (importing : Importing) (entry : BackupCategory × ℕ) (h : Entered store importing.session) :
    Entered store (leftBehind (importCategory order fails replaceExisting importing entry)) := by
  obtain ⟨backupCategory, k⟩ := entry
  rw [importCategory]
  split
  next => exact h
  next =>
    split
    next => exact h.restart
    next color _ =>
      exact h.record (fun store => Grows.writeCategory order replaceExisting backupCategory color
        store.categories) fun _ => rfl

/-- The round of one account, which touches neither categories nor budgets. -/
theorem entered_importAccount (order : FetchOrder) (fails : ℕ → Bool) (replaceExisting : Bool)
    (importing : Importing) (entry : BackupAccount × ℕ) (h : Entered store importing.session) :
    Entered store (leftBehind (importAccount order fails replaceExisting importing entry)) := by
  obtain ⟨backupAccount, k⟩ := entry
  rw [importAccount]
  split
  next => exact h
  next =>
    split
    next => exact h.record (fun store => Grows.refl store.categories) fun _ => rfl
    next => exact h.restart

/-- The loop over the transactions, which cannot stop. -/
theorem entered_foldl_importTransaction (transactions : List BackupTransaction)
    {importing : Importing} (h : Entered store importing.session) :
    Entered store (transactions.foldl importTransaction importing).session := by
  induction transactions generalizing importing with
  | nil => exact h
  | cons transaction transactions ih =>
      exact ih (h.record (fun store => Grows.refl store.categories) fun _ => rfl)

/-- **An import** adds categories and leaves the budgets alone, wherever it stops. -/
theorem grows_importBackup (order : FetchOrder) (failures : ImportFailures)
    (replaceExisting : Bool) (backupData : BackupData) (store : ObjectStore) :
    let session := match importBackup order failures replaceExisting backupData
        { saved := store, pending := [] } with
      | .ok session => session
      | .error (.thrown session) => session
      | .error (.trapped session) => session
    Grows store.categories session.view.categories ∧ session.view.budgets = store.budgets := by
  have hcategories := entered_foldlM
    (entered_importCategory order failures.fetchCategory replaceExisting)
    backupData.categories.zipIdx
    { session := { saved := store, pending := [] }
      categoryMap := fun _ => none
      accountMap := fun _ => none }
    (Entered.start store)
  rw [importBackup]
  cases hfirst : backupData.categories.zipIdx.foldlM
      (importCategory order failures.fetchCategory replaceExisting)
      { session := { saved := store, pending := [] }
        categoryMap := fun _ => none
        accountMap := fun _ => none } with
  | error stopped =>
      rw [hfirst] at hcategories
      cases stopped <;> exact ⟨hcategories.categories, hcategories.budgets⟩
  | ok importing =>
      rw [hfirst] at hcategories
      have haccounts := entered_foldlM
        (entered_importAccount order failures.fetchAccount replaceExisting)
        backupData.accounts.zipIdx importing hcategories
      cases hsecond : backupData.accounts.zipIdx.foldlM
          (importAccount order failures.fetchAccount replaceExisting) importing with
      | error stopped =>
          rw [hsecond] at haccounts
          simp only [bind, Except.bind, hsecond]
          cases stopped <;> exact ⟨haccounts.categories, haccounts.budgets⟩
      | ok importing =>
          rw [hsecond] at haccounts
          have htransactions := entered_foldl_importTransaction backupData.transactions haccounts
          simp only [bind, Except.bind, hsecond]
          split_ifs <;> exact ⟨htransactions.categories, htransactions.budgets⟩

end ExportManager.Json

end SpendCraft.Ios
