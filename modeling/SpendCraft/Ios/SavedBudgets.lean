import SpendCraft.Ios.BudgetForm
import SpendCraft.Lib.KeyedItems
import SpendCraft.Lib.Machine

/-!
# The Budgets that were Saved in the iOS App

Each save of the form is noted with the identity and the id of its category. The ids are not
unique: an import brings categories with ids of its own, also those of deleted categories. The
budgets follow from the saves: there is one for each id, with the last limit that was saved for
it; its relation is to the object whose limit was saved first.

## Conventions

The saves are the outputs of the machine: a `SavedLimit` for each press of the button that saves.
The app is that of `BudgetForm`, with all of its events: categories are added and deleted, backups
are imported in both ways, and the app is started again. Where a limit does not fit, the app ends
and nothing was saved.

## Proof

`BudgetsFollow` is the invariant that relates the budgets to the saves: one budget for each id
with a save, with the last limit and the relation to the first object, as long as it lives. Steps
that save nothing are all of one kind, `BudgetsFollow.survive`: objects go and relations to them
with them. A save finds its budget by the id and overwrites the limit, or creates it. With the
invariant, what the two screens show is read from the list of saves.

## Main results

* `BudgetsFollow.survive`: steps that save nothing.
* `BudgetsFollow.upsertBudget`: a saved limit.
* `BudgetApp.shown_limits_run`: what the two screens show after any run.
-/

namespace SpendCraft.Ios

open Kotlin Relational Machine

/-! ### Saved limits -/

/-- A limit that the button has saved, with the identity and the id of its category. -/
structure SavedLimit where
  category : ℤ
  id : ℤ
  monthlyLimitMinor : ℤ

namespace SavedLimit

/-- The first object with the id for which a limit was saved. -/
def first (saves : List SavedLimit) (id : ℤ) : Option ℤ :=
  (saves.find? fun save => save.id == id).map category

/-- The limit saved last for the id. -/
def last (saves : List SavedLimit) (id : ℤ) : Option ℤ :=
  (saves.reverse.find? fun save => save.id == id).map monthlyLimitMinor

variable {saves : List SavedLimit} {save : SavedLimit} {id : ℤ}

/-- Right after a save, the saved limit is the last. -/
theorem last_append_self : last (saves ++ [save]) save.id = some save.monthlyLimitMinor := by
  rw [last, List.reverse_append, List.reverse_singleton, List.singleton_append,
    List.find?_cons_of_pos (by simp)]
  rfl

/-- A save for another id does not change the last limit. -/
theorem last_append_of_ne (hne : save.id ≠ id) : last (saves ++ [save]) id = last saves id := by
  rw [last, List.reverse_append, List.reverse_singleton, List.singleton_append,
    List.find?_cons_of_neg (by simpa using hne)]
  rfl

/-- There is no last limit exactly if none was saved for the id. -/
theorem last_eq_none_iff : last saves id = none ↔ ∀ save ∈ saves, save.id ≠ id := by
  simp [last]

/-- A later limit does not change which object was the first. -/
theorem first_append_of_mem (h : ∃ save ∈ saves, save.id = id) (later : SavedLimit) :
    first (saves ++ [later]) id = first saves id := by
  obtain ⟨save, hsave, rfl⟩ := h
  have hfound : (saves.find? fun other => other.id == save.id).isSome :=
    List.find?_isSome.mpr ⟨save, hsave, beq_self_eq_true save.id⟩
  rw [first, List.find?_append, Option.or_of_isSome hfound]
  rfl

/-- A save for another id does not change which object was the first. -/
theorem first_append_of_ne (hne : save.id ≠ id) :
    first (saves ++ [save]) id = first saves id := by
  rw [first, List.find?_append, List.find?_cons_of_neg (by simpa using hne), List.find?_nil,
    Option.or_none]
  rfl

/-- The first save for an id decides which object is the first. -/
theorem first_append_self (hnew : ∀ earlier ∈ saves, earlier.id ≠ save.id) :
    first (saves ++ [save]) save.id = some save.category := by
  have hnone : (saves.find? fun earlier => earlier.id == save.id) = none :=
    List.find?_eq_none.mpr fun earlier hearlier => by simpa using hnew earlier hearlier
  rw [first, List.find?_append, hnone, Option.none_or, List.find?_cons_of_pos (by simp)]
  rfl

/-- The first object was saved for. -/
theorem exists_of_first {objectID : ℤ} (h : first saves id = some objectID) :
    ∃ save ∈ saves, save.category = objectID := by
  obtain ⟨save, hfind, rfl⟩ := Option.map_eq_some_iff.mp h
  exact ⟨save, List.mem_of_find?_eq_some hfind, rfl⟩

end SavedLimit

/-! ### Budgets -/

open SavedLimit (first last)
open KeyedItems

/-- The budget of the categories with the id: its limit is the last one that was saved, and its
relation is to the first object, as long as there is that object. -/
structure BudgetObject.Follows (saves : List SavedLimit) (categories : AutoTable CategoryObject)
    (id : ℤ) (budget : BudgetObject) : Prop where
  categoryId : budget.categoryId = intText id
  limit : last saves id = some budget.monthlyLimitMinor
  category : ∀ objectID, budget.category = some objectID ↔
    first saves id = some objectID ∧ (objectID, id) ∈ objectIds categories

/-- The budgets follow from what has been saved, one for each id. -/
structure BudgetsFollow (saves : List SavedLimit) (budgets : List ℤ) (store : ObjectStore) :
    Prop where
  loaded : budgets.Perm (store.budgets.rows.map BudgetObject.objectID)
  distinct : Distinct BudgetObject.categoryId store.budgets.rows
  follows : ∀ budget ∈ store.budgets.rows, ∃ id, budget.Follows saves store.categories id
  saved : ∀ save ∈ saves, ∃ budget ∈ store.budgets.rows, budget.categoryId = intText save.id
  issued : ∀ save ∈ saves, save.category ≤ store.categories.sequence

/-- Categories and budgets after a step that saves no limit: the objects that are not `alive` go,
and the relations to them. -/
structure Survives (alive : ℤ → Prop) (store store' : ObjectStore) : Prop where
  sequence : store.categories.sequence ≤ store'.categories.sequence
  objectIds : ∀ objectID id, objectID ≤ store.categories.sequence →
    ((objectID, id) ∈ objectIds store'.categories ↔
      (objectID, id) ∈ objectIds store.categories ∧ alive objectID)
  budgets : ∃ f : BudgetObject → BudgetObject, store'.budgets.rows = store.budgets.rows.map f ∧
    (∀ budget, (f budget).objectID = budget.objectID) ∧
    (∀ budget, (f budget).categoryId = budget.categoryId) ∧
    (∀ budget, (f budget).monthlyLimitMinor = budget.monthlyLimitMinor) ∧
    ∀ budget objectID, (f budget).category = some objectID ↔
      budget.category = some objectID ∧ alive objectID

namespace Survives

variable {store store' : ObjectStore}

/-- A step under which the categories grow and the budgets stay. -/
theorem of_grows (hgrows : Grows store.categories store'.categories)
    (hbudgets : store'.budgets = store.budgets) : Survives (fun _ => True) store store' where
  sequence := hgrows.sequence
  objectIds objectID id hle := by
    rw [hgrows.objectIds objectID id hle, and_true]
  budgets := by
    refine ⟨fun budget => budget, by rw [hbudgets, List.map_id'], fun _ => rfl, fun _ => rfl,
      fun _ => rfl, ?_⟩
    intro budget objectID
    rw [and_true]

/-- Objects are deleted. -/
theorem of_delete (gone : ℤ → Bool)
    (hcategories : store'.categories = store.categories.deleteWhere fun row => gone row.objectID)
    (hbudgets : store'.budgets.rows = store.budgets.rows.map fun row =>
      { row with category := row.category.filter fun objectID => !gone objectID }) :
    Survives (fun objectID => gone objectID = false) store store' where
  sequence := by
    rw [hcategories]
    exact le_refl _
  objectIds objectID id _ := by
    simp only [Ios.objectIds, hcategories, AutoTable.rows_deleteWhere, List.mem_map,
      List.mem_filter, Prod.mk.injEq, Bool.not_eq_true']
    constructor
    · rintro ⟨row, ⟨hrow, halive⟩, rfl, rfl⟩
      exact ⟨⟨row, hrow, rfl, rfl⟩, halive⟩
    · rintro ⟨⟨row, hrow, rfl, rfl⟩, halive⟩
      exact ⟨row, ⟨hrow, halive⟩, rfl, rfl⟩
  budgets := by
    refine ⟨_, hbudgets, fun _ => rfl, fun _ => rfl, fun _ => rfl, ?_⟩
    intro budget objectID
    rw [Option.filter_eq_some_iff, Bool.not_eq_true']

end Survives

namespace BudgetsFollow

variable {saves : List SavedLimit} {budgets : List ℤ} {store store' : ObjectStore}

/-- Loading the budgets changes the order of the list at most. -/
theorem of_load (h : BudgetsFollow saves budgets store) {budgets' : List ℤ}
    (hperm : budgets'.Perm (store.budgets.rows.map BudgetObject.objectID)) :
    BudgetsFollow saves budgets' store :=
  { h with loaded := hperm }

/-- **A step that saves no limit.** -/
theorem survive (h : BudgetsFollow saves budgets store) {alive : ℤ → Prop}
    (hsurvives : Survives alive store store') : BudgetsFollow saves budgets store' := by
  obtain ⟨f, hrows, hobjectID, hcategoryId, hlimit, hcategory⟩ := hsurvives.budgets
  have hkeys {β : Type} {g : BudgetObject → β} (hg : ∀ budget, g (f budget) = g budget) :
      store'.budgets.rows.map g = store.budgets.rows.map g := by
    rw [hrows, List.map_map]
    exact List.map_congr_left fun budget _ => hg budget
  refine ⟨?_, h.distinct.of_map_eq (hkeys hcategoryId), ?_, ?_, ?_⟩
  · rw [hkeys hobjectID]
    exact h.loaded
  · rw [hrows]
    intro budget hbudget
    obtain ⟨before, hbefore, rfl⟩ := List.mem_map.mp hbudget
    obtain ⟨id, hfollows⟩ := h.follows before hbefore
    refine ⟨id, (hcategoryId before).trans hfollows.categoryId, ?_, ?_⟩
    · rw [hlimit]
      exact hfollows.limit
    · intro objectID
      rw [hcategory, hfollows.category, and_assoc]
      refine and_congr_right fun hfirst => ?_
      -- the first object had its identity when its limit was saved
      obtain ⟨save, hsave, rfl⟩ := SavedLimit.exists_of_first hfirst
      exact (hsurvives.objectIds save.category id (h.issued save hsave)).symm
  · intro save hsave
    obtain ⟨budget, hbudget, htext⟩ := h.saved save hsave
    refine ⟨f budget, ?_, (hcategoryId budget).trans htext⟩
    rw [hrows]
    exact List.mem_map_of_mem hbudget
  · intro save hsave
    exact (h.issued save hsave).trans hsurvives.sequence

end BudgetsFollow

/-! ### A save -/

namespace BudgetObject.Follows

variable {saves : List SavedLimit} {categories : AutoTable CategoryObject} {save : SavedLimit}

/-- A limit for another id. -/
theorem other {id : ℤ} {budget : BudgetObject} (h : budget.Follows saves categories id)
    (hne : save.id ≠ id) : budget.Follows (saves ++ [save]) categories id where
  categoryId := h.categoryId
  limit := by
    rw [SavedLimit.last_append_of_ne hne]
    exact h.limit
  category objectID := by
    rw [SavedLimit.first_append_of_ne hne]
    exact h.category objectID

/-- A new limit for the id: the relation stays. -/
theorem again {budget : BudgetObject} (h : budget.Follows saves categories save.id) :
    { budget with monthlyLimitMinor := save.monthlyLimitMinor }.Follows (saves ++ [save])
      categories save.id where
  categoryId := h.categoryId
  limit := SavedLimit.last_append_self
  category objectID := by
    have hearlier : ∃ earlier ∈ saves, earlier.id = save.id := by
      by_contra hnone
      have hlast : last saves save.id = none :=
        SavedLimit.last_eq_none_iff.mpr fun earlier hearlier heq =>
          hnone ⟨earlier, hearlier, heq⟩
      have hlimit := h.limit
      rw [hlast] at hlimit
      cases hlimit
    rw [SavedLimit.first_append_of_mem hearlier]
    exact h.category objectID

/-- The first limit for the id. -/
theorem created (hnew : ∀ earlier ∈ saves, earlier.id ≠ save.id)
    (hcategory : (save.category, save.id) ∈ objectIds categories) (objectID randomId : ℤ) :
    BudgetObject.Follows (saves ++ [save]) categories save.id
      { objectID := objectID
        id := randomId
        categoryId := intText save.id
        monthlyLimitMinor := save.monthlyLimitMinor
        category := some save.category } where
  categoryId := rfl
  limit := SavedLimit.last_append_self
  category objectID := by
    rw [SavedLimit.first_append_self hnew, iff_self_and, Option.some.injEq]
    rintro rfl
    exact hcategory

end BudgetObject.Follows

namespace BudgetsFollow

variable {saves : List SavedLimit} {budgets : List ℤ} {store : ObjectStore}

/-- A budget follows the id that its text names, as no two ids have one text. -/
theorem follows_of_categoryId (h : BudgetsFollow saves budgets store) {budget : BudgetObject}
    (hbudget : budget ∈ store.budgets.rows) {id : ℤ} (htext : budget.categoryId = intText id) :
    budget.Follows saves store.categories id := by
  obtain ⟨id', hfollows⟩ := h.follows budget hbudget
  obtain rfl : id' = id := intText_injective (hfollows.categoryId.symm.trans htext)
  exact hfollows

/-- Limits have been saved for the id of a budget. -/
theorem last_eq_none_iff (h : BudgetsFollow saves budgets store) {id : ℤ} :
    last saves id = none ↔ ∀ budget ∈ store.budgets.rows, budget.categoryId ≠ intText id := by
  constructor
  · intro hnone budget hbudget htext
    have hlimit := (h.follows_of_categoryId hbudget htext).limit
    rw [hnone] at hlimit
    cases hlimit
  · intro hnone
    rw [SavedLimit.last_eq_none_iff]
    rintro save hsave rfl
    obtain ⟨budget, hbudget, htext⟩ := h.saved save hsave
    exact hnone budget hbudget htext

end BudgetsFollow

namespace BudgetApp

variable {app : BudgetApp} {saves : List SavedLimit}

/-- The loaded budgets are those of the store. -/
theorem budgetObjects_perm
    (hloaded : app.budgets.Perm (app.store.budgets.rows.map BudgetObject.objectID)) :
    app.budgetObjects.Perm app.store.budgets.rows := by
  have hrows : ((app.store.budgets.rows.map BudgetObject.objectID).filterMap fun budget =>
      app.store.budgets.rows.find? fun row => decide (row.objectID = budget)) =
        app.store.budgets.rows := by
    rw [List.filterMap_map]
    calc _ = app.store.budgets.rows.filterMap some :=
          List.filterMap_congr fun row hrow => Table.find?_key_of_mem hrow
      _ = app.store.budgets.rows := List.filterMap_some
  have hperm := hloaded.filterMap fun budget =>
    app.store.budgets.rows.find? fun row => decide (row.objectID = budget)
  rwa [hrows] at hperm

/-- The loaded budget of a category is that of the store: its text of the id is nobody else's, so
the order of the list does not matter. -/
theorem budgetForCategory_eq (h : BudgetsFollow saves app.budgets app.store.toObjectStore)
    (category : CategoryObject) : app.budgetForCategory category =
      app.store.budgets.rows.find? fun budget => budget.categoryId == intText category.id := by
  have hperm := budgetObjects_perm h.loaded
  exact Distinct.find?_perm ((distinct_perm hperm).mpr h.distinct) hperm (intText category.id)

/-- `loadBudgets` loads every budget of the store. -/
theorem loadBudgets_perm (app : BudgetApp) :
    app.loadBudgets.budgets.Perm (app.store.budgets.rows.map BudgetObject.objectID) :=
  (List.perm_insertionSort _ _).map _

end BudgetApp

namespace BudgetsFollow

variable {saves : List SavedLimit} {save : SavedLimit} {budgets : List ℤ}
  {store store' : ObjectStore}

/-- A category of the store has an object id that was given out before. -/
theorem issued_append (h : BudgetsFollow saves budgets store)
    (hobject : (save.category, save.id) ∈ objectIds store.categories) :
    ∀ other ∈ saves ++ [save], other.category ≤ store.categories.sequence := by
  intro other hother
  obtain hold | hlast := List.mem_append.mp hother
  · exact h.issued other hold
  · obtain ⟨category, hcategory, heq⟩ := List.mem_map.mp hobject
    rw [Prod.mk.injEq] at heq
    rw [List.mem_singleton.mp hlast, ← heq.1]
    exact store.categories.id_le_sequence category hcategory

/-- A new limit of a budget. -/
theorem overwrite (h : BudgetsFollow saves budgets store) (save : SavedLimit)
    (hobject : (save.category, save.id) ∈ objectIds store.categories)
    {existingBudget : BudgetObject} (hexisting : existingBudget ∈ store.budgets.rows)
    (htext : existingBudget.categoryId = intText save.id)
    (hcategories : store'.categories = store.categories)
    (hrows : store'.budgets.rows = store.budgets.rows.map fun row =>
      if row.objectID = existingBudget.objectID then
        { row with monthlyLimitMinor := save.monthlyLimitMinor }
      else row) :
    BudgetsFollow (saves ++ [save]) budgets store' := by
  have hkeys {β : Type} {g : BudgetObject → β}
      (hg : ∀ row, g { row with monthlyLimitMinor := save.monthlyLimitMinor } = g row) :
      store'.budgets.rows.map g = store.budgets.rows.map g := by
    rw [hrows, List.map_map]
    refine List.map_congr_left fun row _ => ?_
    rw [Function.comp_apply]
    split_ifs
    · exact hg row
    · rfl
  have htexts : store'.budgets.rows.map BudgetObject.categoryId =
      store.budgets.rows.map BudgetObject.categoryId := hkeys fun _ => rfl
  refine ⟨?_, h.distinct.of_map_eq htexts, ?_, ?_, ?_⟩
  · rw [hkeys fun _ => rfl]
    exact h.loaded
  · rw [hrows, hcategories]
    intro budget hbudget
    obtain ⟨row, hrow, rfl⟩ := List.mem_map.mp hbudget
    split_ifs with hid
    · obtain rfl : row = existingBudget := AutoTable.eq_of_id_eq hrow hexisting hid
      exact ⟨save.id, (h.follows_of_categoryId hrow htext).again⟩
    · obtain ⟨id, hfollows⟩ := h.follows row hrow
      refine ⟨id, hfollows.other ?_⟩
      rintro rfl
      -- there is one budget for each text
      have hsame : row = existingBudget :=
        List.inj_on_of_nodup_map h.distinct hrow hexisting (hfollows.categoryId.trans htext.symm)
      exact hid (congrArg BudgetObject.objectID hsame)
  · intro other hother
    have hthere : intText other.id ∈ store.budgets.rows.map BudgetObject.categoryId := by
      obtain hold | hlast := List.mem_append.mp hother
      · obtain ⟨budget, hbudget, hkey⟩ := h.saved other hold
        exact List.mem_map.mpr ⟨budget, hbudget, hkey⟩
      · rw [List.mem_singleton.mp hlast]
        exact List.mem_map.mpr ⟨existingBudget, hexisting, htext⟩
    rw [← htexts] at hthere
    exact List.mem_map.mp hthere
  · rw [hcategories]
    exact h.issued_append hobject

/-- A new budget. -/
theorem create (h : BudgetsFollow saves budgets store) (save : SavedLimit)
    (hobject : (save.category, save.id) ∈ objectIds store.categories)
    (hother : ∀ budget ∈ store.budgets.rows, budget.categoryId ≠ intText save.id)
    (hcategories : store'.categories = store.categories) {objectID randomId : ℤ}
    (hrows : store'.budgets.rows = store.budgets.rows ++
      [{ objectID := objectID
         id := randomId
         categoryId := intText save.id
         monthlyLimitMinor := save.monthlyLimitMinor
         category := some save.category }])
    {budgets' : List ℤ}
    (hloaded : budgets'.Perm (store'.budgets.rows.map BudgetObject.objectID)) :
    BudgetsFollow (saves ++ [save]) budgets' store' := by
  have hnew := SavedLimit.last_eq_none_iff.mp (h.last_eq_none_iff.mpr hother)
  refine ⟨hloaded, ?_, ?_, ?_, ?_⟩
  · rw [Distinct, hrows, List.map_append, List.map_singleton, List.nodup_append']
    refine ⟨h.distinct, List.nodup_singleton _, ?_⟩
    rw [List.disjoint_singleton]
    intro hmem
    obtain ⟨budget, hbudget, htext⟩ := List.mem_map.mp hmem
    exact hother budget hbudget htext
  · rw [hrows, hcategories]
    intro budget hbudget
    obtain hold | hlast := List.mem_append.mp hbudget
    · obtain ⟨id, hfollows⟩ := h.follows budget hold
      refine ⟨id, hfollows.other ?_⟩
      rintro rfl
      exact hother budget hold hfollows.categoryId
    · rw [List.mem_singleton.mp hlast]
      exact ⟨save.id, BudgetObject.Follows.created hnew hobject _ _⟩
  · intro other hsave
    rw [hrows]
    obtain hold | hlast := List.mem_append.mp hsave
    · obtain ⟨budget, hbudget, htext⟩ := h.saved other hold
      exact ⟨budget, List.mem_append_left _ hbudget, htext⟩
    · rw [List.mem_singleton.mp hlast]
      exact ⟨_, List.mem_append_right _ (List.mem_singleton_self _), rfl⟩
  · rw [hcategories]
    exact h.issued_append hobject

/-- **A saved limit.** -/
theorem upsertBudget {app : BudgetApp} (h : BudgetsFollow saves app.budgets app.store.toObjectStore)
    {category : CategoryObject} (hcategory : category ∈ app.store.categories.rows)
    (monthlyLimitMinor randomId : ℤ) :
    let app' := app.upsertBudget category monthlyLimitMinor randomId
    let save : SavedLimit :=
      { category := category.objectID
        id := category.id
        monthlyLimitMinor := monthlyLimitMinor }
    BudgetsFollow (saves ++ [save]) app'.budgets app'.store.toObjectStore := by
  intro app' save
  have hloaded : app'.budgets.Perm (app'.store.budgets.rows.map BudgetObject.objectID) :=
    BudgetApp.loadBudgets_perm _
  have hobject : (category.objectID, category.id) ∈ objectIds app.store.categories :=
    List.mem_map_of_mem hcategory
  have hcategories : app'.store.categories = app.store.categories := rfl
  have hfind := BudgetApp.budgetForCategory_eq h category
  cases hbudget : app.budgetForCategory category with
  | some existingBudget =>
      rw [hbudget] at hfind
      have htext : existingBudget.categoryId = intText category.id := by
        simpa using List.find?_some hfind.symm
      have hrows : app'.store.budgets.rows = app.store.budgets.rows.map fun row =>
          if row.objectID = existingBudget.objectID then
            { row with monthlyLimitMinor := monthlyLimitMinor }
          else row := by
        simp only [app', BudgetApp.upsertBudget, BudgetApp.loadBudgets, hbudget,
          AutoTable.rows_updateSet]
      have hwritten := h.overwrite save hobject (List.mem_of_find?_eq_some hfind.symm) htext
        hcategories hrows
      exact hwritten.of_load hloaded
  | none =>
      rw [hbudget] at hfind
      have hother : ∀ budget ∈ app.store.budgets.rows, budget.categoryId ≠ intText category.id := by
        intro budget hmem
        simpa using List.find?_eq_none.mp hfind.symm budget hmem
      have hrows : app'.store.budgets.rows = app.store.budgets.rows ++
          [{ objectID := app.store.budgets.sequence + 1
             id := randomId
             categoryId := intText category.id
             monthlyLimitMinor := monthlyLimitMinor
             category := some category.objectID }] := by
        simp only [app', BudgetApp.upsertBudget, BudgetApp.loadBudgets, hbudget]
        exact AutoTable.rows_insertOrReplace_generated app.store.budgets rfl
      exact h.create save hobject hother hcategories hrows hloaded

end BudgetsFollow

/-! ### Runs -/

namespace BudgetApp

/-- What the button saves. -/
def buttonSaves (app : BudgetApp) : List SavedLimit :=
  match app.saving with
  | some (category, some monthlyLimitMinor) =>
      [{ category := category.objectID
         id := category.id
         monthlyLimitMinor := monthlyLimitMinor }]
  | _ => []

/-- The limits saved by an event: those of the button, if the form is open. -/
def savedLimits (app : BudgetApp) (event : BudgetEvent) : List SavedLimit :=
  match app.sheet, event with
  | some _, .save _ _ => app.buttonSaves
  | _, _ => []

variable {app : BudgetApp} {saves : List SavedLimit} {typeOf : Text → Text} {order : FetchOrder}

/-- The category of the form is one of the store when the button saves. -/
theorem mem_categories_of_saving {category : CategoryObject} {limit : Option ℤ}
    (h : app.saving = some (category, limit)) : category ∈ app.store.categories.rows := by
  simp only [saving, Option.bind_eq_bind, Option.bind_eq_some_iff, Option.pure_def,
    Option.some.injEq, Prod.mk.injEq] at h
  obtain ⟨view, -, found, hfound, amount, -, rfl, -⟩ := h
  rw [LinkedStore.category, Option.bind_some] at hfound
  exact List.mem_of_find?_eq_some hfound

/-- The start of the app keeps the relation: it adds categories and loads the budgets. -/
theorem follow_launch {budgets : List ℤ} {store : LinkedStore} (draws : StartDraws)
    (h : BudgetsFollow saves budgets store.toObjectStore) :
    let app := launch typeOf draws store
    BudgetsFollow saves app.budgets app.store.toObjectStore := by
  intro app
  have hseeded : BudgetsFollow saves budgets app.store.toObjectStore :=
    h.survive (Survives.of_grows (Grows.seedObjects typeOf draws.randomIds draws.randomAccountId
      store.toObjectStore) (by
        change (CoreDataStack.seedObjects _ _ _ _).budgets = _
        rw [CoreDataStack.seedObjects]
        split_ifs <;> rfl))
  exact hseeded.of_load (loadBudgets_perm _)

/-- After the first start there are no budgets and nothing was saved. -/
theorem follow_fresh (draws : StartDraws) :
    let app := fresh typeOf draws
    BudgetsFollow [] app.budgets app.store.toObjectStore := by
  have hempty : BudgetsFollow [] [] ObjectStore.empty := by
    refine ⟨List.Perm.refl _, List.nodup_nil, ?_, ?_, ?_⟩
    · intro budget hbudget
      cases hbudget
    · intro save hsave
      cases hsave
    · intro save hsave
      cases hsave
  exact follow_launch draws hempty

/-- The deletes of a replacing import. -/
theorem follow_clearAllData {budgets : List ℤ} {store : ObjectStore}
    (h : BudgetsFollow saves budgets store) :
    BudgetsFollow saves budgets store.deleteTransactions.deleteCategories.deleteAccounts := by
  refine h.survive (Survives.of_delete (fun _ => true) rfl ?_)
  refine List.map_congr_left fun row _ => ?_
  cases row.category <;> rfl

/-- An import keeps the relation: whatever it deletes and enters, it leaves every budget its
limit. -/
theorem follow_importFromJSON (replaceExisting : Bool) (backupData : BackupData)
    (draws : StartDraws) (h : BudgetsFollow saves app.budgets app.store.toObjectStore) :
    let app' := app.importFromJSON typeOf order replaceExisting backupData draws
    BudgetsFollow saves app'.budgets app'.store.toObjectStore := by
  have hcleared : ∃ store, BudgetsFollow saves app.budgets store ∧
      (if replaceExisting then
        ExportManager.Json.clearAllData ImportFailures.none.clear
          { saved := app.store.toObjectStore, pending := [] }
      else { saved := app.store.toObjectStore, pending := [] }) =
        { saved := store, pending := [] } := by
    cases replaceExisting with
    | false => exact ⟨_, h, rfl⟩
    | true => exact ⟨_, follow_clearAllData h, rfl⟩
  obtain ⟨store, hstore, hsession⟩ := hcleared
  obtain ⟨hgrows, hbudgets⟩ := ExportManager.Json.grows_importBackup order ImportFailures.none
    replaceExisting backupData store
  have himported := hstore.survive (Survives.of_grows hgrows hbudgets)
  rw [importFromJSON, ExportManager.Json.importFromJSON, hsession]
  cases himport : ExportManager.Json.importBackup order ImportFailures.none replaceExisting
      backupData { saved := store, pending := [] } with
  | ok session =>
      rw [himport] at himported
      exact himported
  | error stopped =>
      rw [himport] at himported
      cases stopped with
      | thrown session => exact himported
      | trapped session => exact follow_launch draws himported

/-- The button keeps the relation, with the limit it saves added to the history. -/
theorem follow_saveBudget (randomId : ℤ) (draws : StartDraws)
    (h : BudgetsFollow saves app.budgets app.store.toObjectStore) :
    let app' := app.saveBudget typeOf randomId draws
    BudgetsFollow (saves ++ app.buttonSaves) app'.budgets app'.store.toObjectStore := by
  rw [saveBudget, buttonSaves]
  cases hsaving : app.saving with
  | none => rwa [List.append_nil]
  | some saved =>
      obtain ⟨category, limit⟩ := saved
      cases limit with
      | none =>
          rw [List.append_nil]
          exact follow_launch draws h
      | some monthlyLimitMinor =>
          exact h.upsertBudget (mem_categories_of_saving hsaving) monthlyLimitMinor randomId

/-- **A step** leaves the budgets as they follow from the saved limits. -/
theorem follow_step (event : BudgetEvent)
    (h : BudgetsFollow saves app.budgets app.store.toObjectStore) :
    let app' := step typeOf order app event
    BudgetsFollow (saves ++ app.savedLimits event) app'.budgets app'.store.toObjectStore := by
  have hnil : BudgetsFollow (saves ++ []) app.budgets app.store.toObjectStore := by
    rwa [List.append_nil]
  obtain ⟨store, budgets, sheet⟩ := app
  cases sheet with
  | none =>
      cases event with
      | addCategory randomId name icon color type =>
          have hgrows (category : CategoryObject) (hnew : category.objectID = 0) :
              Survives (fun _ => True) store.toObjectStore
                { store.toObjectStore with
                  categories := store.categories.insertOrReplace category } :=
            Survives.of_grows (Grows.insertOrReplace hnew) rfl
          exact hnil.survive (hgrows _ rfl)
      | deleteCategory category =>
          exact hnil.survive (Survives.of_delete (· == category) rfl rfl)
      | importFromJSON replaceExisting backupData draws =>
          exact follow_importFromJSON replaceExisting backupData draws hnil
      | relaunch draws => exact follow_launch draws hnil
      | openBudget category => exact hnil
      | type budgetAmount => exact hnil
      | save randomId draws => exact hnil
      | cancel => exact hnil
  | some view =>
      cases event with
      | save randomId draws => exact follow_saveBudget randomId draws h
      | relaunch draws => exact follow_launch draws hnil
      | addCategory randomId name icon color type => exact hnil
      | deleteCategory category => exact hnil
      | importFromJSON replaceExisting backupData draws => exact hnil
      | openBudget category => exact hnil
      | type budgetAmount => exact hnil
      | cancel => exact hnil

/-- **Run lemma:** the budgets follow from what was saved in every state of the app. -/
theorem follow_run (draws : StartDraws) (events : List BudgetEvent) :
    let app := run (step typeOf order) (fresh typeOf draws) events
    BudgetsFollow (outputs (step typeOf order) savedLimits (fresh typeOf draws) events) app.budgets
      app.store.toObjectStore := by
  induction events using List.reverseRecOn with
  | nil => exact follow_fresh draws
  | append_singleton events event ih =>
      rw [run_append, outputs_append_singleton]
      exact follow_step event ih

/-- The limit in a row of `CategoriesView`. -/
theorem rowLimit_eq (h : BudgetsFollow saves app.budgets app.store.toObjectStore)
    (category : CategoryObject) : app.rowLimit category = last saves category.id := by
  rw [rowLimit, budgetForCategory_eq h]
  cases hfind : app.store.budgets.rows.find? fun budget =>
      budget.categoryId == intText category.id with
  | none =>
      refine (h.last_eq_none_iff.mpr fun budget hbudget => ?_).symm
      simpa using List.find?_eq_none.mp hfind budget hbudget
  | some budget =>
      have htext : budget.categoryId = intText category.id := by simpa using List.find?_some hfind
      exact (h.follows_of_categoryId (List.mem_of_find?_eq_some hfind) htext).limit.symm

/-- The rows of `ReportsView`. -/
theorem mem_statusRows_iff (h : BudgetsFollow saves app.budgets app.store.toObjectStore)
    {category : CategoryObject} {limit : ℤ} :
    (category, limit) ∈ app.statusRows ↔ category ∈ app.store.categories.rows ∧
      first saves category.id = some category.objectID ∧ last saves category.id = some limit := by
  have hrow : (category, limit) ∈ app.statusRows ↔ ∃ budget ∈ app.store.budgets.rows,
      app.store.category budget.category = some category ∧ budget.monthlyLimitMinor = limit := by
    simp only [statusRows, List.mem_filterMap, (budgetObjects_perm h.loaded).mem_iff,
      Option.map_eq_some_iff, Prod.mk.injEq]
    constructor
    · rintro ⟨budget, hbudget, _, hcategory, rfl, rfl⟩
      exact ⟨budget, hbudget, hcategory, rfl⟩
    · rintro ⟨budget, hbudget, hcategory, rfl⟩
      exact ⟨budget, hbudget, category, hcategory, rfl, rfl⟩
  rw [hrow]
  constructor
  · rintro ⟨budget, hbudget, hcategory, rfl⟩
    obtain ⟨objectID, hrelation, hfind⟩ := Option.bind_eq_some_iff.mp hcategory
    have hmem := List.mem_of_find?_eq_some hfind
    obtain rfl : category.objectID = objectID := by simpa using List.find?_some hfind
    obtain ⟨id, hfollows⟩ := h.follows budget hbudget
    obtain ⟨hfirst, hobject⟩ := (hfollows.category _).mp hrelation
    obtain ⟨row, hrow, hrowEq⟩ := List.mem_map.mp hobject
    rw [Prod.mk.injEq] at hrowEq
    -- the object with the identity is the category
    obtain rfl : row = category := AutoTable.eq_of_id_eq hrow hmem hrowEq.1
    obtain rfl : row.id = id := hrowEq.2
    exact ⟨hmem, hfirst, hfollows.limit⟩
  · rintro ⟨hmem, hfirst, hlast⟩
    have hthere : ∃ budget ∈ app.store.budgets.rows, budget.categoryId = intText category.id := by
      by_contra hnone
      have hlastNone : last saves category.id = none :=
        h.last_eq_none_iff.mpr fun budget hbudget htext => hnone ⟨budget, hbudget, htext⟩
      rw [hlast] at hlastNone
      cases hlastNone
    obtain ⟨budget, hbudget, htext⟩ := hthere
    have hfollows := h.follows_of_categoryId hbudget htext
    have hrelation := (hfollows.category category.objectID).mpr
      ⟨hfirst, List.mem_map_of_mem hmem⟩
    refine ⟨budget, hbudget, ?_, Option.some.inj (hfollows.limit.symm.trans hlast)⟩
    rw [hrelation, LinkedStore.category, Option.bind_some]
    exact Table.find?_key_of_mem hmem

/-- **After any run** a row of the categories shows the last limit that was saved for its id,
whichever category had it then. The reports show it for the category whose limit was saved first,
as long as that is there. -/
theorem shown_limits_run (typeOf : Text → Text) (order : FetchOrder) (draws : StartDraws)
    (events : List BudgetEvent) :
    let app := run (step typeOf order) (fresh typeOf draws) events
    let saves := outputs (step typeOf order) savedLimits (fresh typeOf draws) events
    (∀ category, app.rowLimit category = last saves category.id) ∧
      ∀ category limit, (category, limit) ∈ app.statusRows ↔
        category ∈ app.store.categories.rows ∧ first saves category.id = some category.objectID ∧
          last saves category.id = some limit := by
  intro app saves
  have hfollow : BudgetsFollow saves app.budgets app.store.toObjectStore := follow_run draws events
  exact ⟨rowLimit_eq hfollow, fun category limit => mem_statusRows_iff hfollow⟩

end BudgetApp

end SpendCraft.Ios
