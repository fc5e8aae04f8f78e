import SpendCraft.AddForms
import Mathlib.Data.List.InsertIdx

/-!
# The Category of a New Transaction

The forms for a new transaction offer the categories of the chosen type. The form of the
Android app preselects the first category of the list, and is composed anew when the user comes
back from the screen for a new category; a change of the type clears the selection. The form of
the iOS app starts without a selection, and offers categories without a type for both.

## Conventions

The state of a form is its fields, with the list of categories, and the events are what the user
does, in any order. The categories may become more while the form is open, since another screen
adds them, anywhere in the sorted list. The Android form is composed anew when the user comes back
from that screen, which resets its fields and preselects again; the form of the other app stays.
Only the categories that are offered have a button.

## Proof

The invariant `Chosen` says that the chosen category is one of those offered. On iOS every event
keeps it, and the form starts with it. On Android a form as it was composed may have chosen a
category of the other type, until the type changes or a category is selected: so a state has the
invariant, or only events that keep the choice have happened since a composition
(`run_invariant_or_since`). The equivalence asks that in the second case the preselected category
has the initial type wherever an amount is entered.

## Main results

* `Ios.AddFormView.choosesOffered`: the form of the iOS app.
* `AddTransactionScreen.choosesOffered_iff_choosesFirst`: the form of the Android app.
* `AddRun.choosesOffered_iff`: both.
-/

namespace SpendCraft

open Kotlin Machine

/-! ### The form of the Android app -/

/-- The form, with the parameters of its composition. -/
structure AddTransactionScreen where
  categories : List Category
  initialTransactionType : Option Bool
  screen : IOSAddTransactionScreen
  deriving DecidableEq, Repr

namespace AddTransactionScreen

/-- The first composition. -/
def compose (categories : List Category) (initialTransactionType : Option Bool) (now : ℤ) :
    AddTransactionScreen :=
  { categories := categories
    initialTransactionType := initialTransactionType
    screen :=
      { typed := []
        note := []
        isIncome := initialTransactionType.getD false
        selectedCategory := categories.head?
        selectedDate := now } }

/-- `filteredCategories`: those of the type of the form. -/
def filteredCategories (form : AddTransactionScreen) : List Category :=
  form.categories.filter fun category => category.isIncome == form.screen.isIncome

/-- What happens to the form. A new category comes somewhere into the sorted list; the form is
composed anew when the user returns from the screen that adds one. -/
inductive Event
  | selectType (newType : Bool)
  | selectCategory (category : Category)
  | editAmount (typed : Text)
  | editNote (note : Text)
  | categoryAdded (category : Category) (i : ℕ)
  | composeAnew (now : ℤ)
  deriving DecidableEq, Repr

/-- Only the categories that are offered have a button. -/
def step (form : AddTransactionScreen) : Event → AddTransactionScreen
  | .selectType newType =>
      { form with screen := { form.screen with isIncome := newType, selectedCategory := none } }
  | .selectCategory category =>
      if category ∈ form.filteredCategories then
        { form with screen := { form.screen with selectedCategory := some category } }
      else form
  | .editAmount typed => { form with screen := { form.screen with typed := typed } }
  | .editNote note => { form with screen := { form.screen with note := note } }
  | .categoryAdded category i => { form with categories := form.categories.insertIdx i category }
  | .composeAnew now => compose form.categories form.initialTransactionType now

/-- **A form that can be saved** has chosen one of the categories it offers. -/
def OffersChosen (form : AddTransactionScreen) : Prop :=
  form.screen.isValid = true →
    ∃ category ∈ form.filteredCategories, form.screen.selectedCategory = some category

/-- The amount can be saved. -/
def HasAmount (form : AddTransactionScreen) : Prop :=
  !form.screen.amount.isEmpty &&
    (decimalOrNull form.screen.normalizedAmount).any fun amount => decide (0 < decimalValue amount)

/-- The form is as it was composed. -/
def Fresh (form : AddTransactionScreen) : Prop :=
  ∃ now, form = compose form.categories form.initialTransactionType now

/-- The event leaves type and category as they are. -/
def KeepsChoice (form : AddTransactionScreen) : Event → Prop
  | .selectType _ | .composeAnew _ => False
  | .selectCategory category => category ∉ form.filteredCategories
  | _ => True

/-- The preselected category has the initial type. -/
def PreselectsType (form : AddTransactionScreen) : Prop :=
  ∀ category ∈ form.categories.head?, category.isIncome = form.initialTransactionType.getD false

/-- Every state of the run offers what it has chosen. -/
def ChoosesOffered (form : AddTransactionScreen) (events : List Event) : Prop :=
  ∀ pre, pre <+: events → (run step form pre).OffersChosen

/-- Where an amount is entered before anything is chosen, the preselected category has the
initial type. -/
def ChoosesFirst (form : AddTransactionScreen) (events : List Event) : Prop :=
  ∀ pre since, pre ++ since <+: events → (run step form pre).Fresh →
    AllSteps step KeepsChoice (run step form pre) since →
      (run step form (pre ++ since)).HasAmount → (run step form pre).PreselectsType

variable {form : AddTransactionScreen} {categories : List Category}
  {initialTransactionType : Option Bool} {now : ℤ} {events : List Event}

/-- A form is valid with an amount and a category. -/
theorem isValid_iff (form : AddTransactionScreen) :
    form.screen.isValid = true ↔ form.HasAmount ∧ form.screen.selectedCategory.isSome = true :=
  Bool.and_eq_true_iff

/-- What is offered has the type of the form. -/
theorem mem_filteredCategories {category : Category} :
    category ∈ form.filteredCategories ↔
      category ∈ form.categories ∧ category.isIncome = form.screen.isIncome := by
  rw [filteredCategories, List.mem_filter, beq_iff_eq]

/-- The chosen category is offered. -/
def Chosen (form : AddTransactionScreen) : Prop :=
  ∀ category ∈ form.screen.selectedCategory, category ∈ form.filteredCategories

/-- A category that is chosen from what is offered is offered. -/
theorem Chosen.offersChosen (h : form.Chosen) : form.OffersChosen := by
  intro hvalid
  obtain ⟨category, hcategory⟩ := Option.isSome_iff_exists.mp ((isValid_iff form).mp hvalid).2
  exact ⟨category, h category hcategory, hcategory⟩

/-- What was chosen after the form was composed is offered. -/
theorem chosen_step_of_not_keepsChoice (event : Event) :
    (form.step event).Chosen ∨ (form.step event).Fresh ∨ form.KeepsChoice event := by
  cases event with
  | selectType newType => exact Or.inl nofun
  | selectCategory category =>
      by_cases hmem : category ∈ form.filteredCategories
      · left
        rw [step, if_pos hmem]
        rintro _ ⟨⟩
        exact hmem
      · exact Or.inr (Or.inr hmem)
  | editAmount | editNote | categoryAdded => exact Or.inr (Or.inr trivial)
  | composeAnew now => exact Or.inr (Or.inl ⟨now, rfl⟩)

/-- The events that keep the choice. -/
theorem step_of_keepsChoice {event : Event} (h : form.KeepsChoice event) :
    form.categories ⊆ (form.step event).categories ∧
      (form.step event).screen.isIncome = form.screen.isIncome ∧
      (form.step event).screen.selectedCategory = form.screen.selectedCategory := by
  cases event with
  | selectType | composeAnew => exact h.elim
  | selectCategory category =>
      rw [step, if_neg h]
      exact ⟨List.Subset.refl _, rfl, rfl⟩
  | editAmount | editNote => exact ⟨List.Subset.refl _, rfl, rfl⟩
  | categoryAdded category i => exact ⟨List.subset_insertIdx _ _ _, rfl, rfl⟩

/-- **Step lemma:** a step that keeps the choice leaves an offered category chosen. -/
theorem Chosen.step (h : form.Chosen) {event : Event} (hkeeps : form.KeepsChoice event) :
    (form.step event).Chosen := by
  obtain ⟨hsubset, htype, hselected⟩ := step_of_keepsChoice hkeeps
  intro category hcategory
  rw [hselected] at hcategory
  obtain ⟨hmem, hisIncome⟩ := mem_filteredCategories.mp (h category hcategory)
  exact mem_filteredCategories.mpr ⟨hsubset hmem, hisIncome.trans htype.symm⟩

/-- **As long as nothing is chosen**, the form has the initial type and the category that was
the first of the list. -/
theorem run_of_keepsChoice (hfresh : form.Fresh) (hkeeps : AllSteps step KeepsChoice form events) :
    form.categories ⊆ (run step form events).categories ∧
      (run step form events).screen.isIncome = form.initialTransactionType.getD false ∧
      (run step form events).screen.selectedCategory = form.categories.head? := by
  refine run_invariant (I := fun later : AddTransactionScreen =>
    form.categories ⊆ later.categories ∧
      later.screen.isIncome = form.initialTransactionType.getD false ∧
      later.screen.selectedCategory = form.categories.head?) ?_ hkeeps ?_
  · rintro later event ⟨hsubset, htype, hselected⟩ hkeeps
    obtain ⟨hsubset', htype', hselected'⟩ := step_of_keepsChoice hkeeps
    exact ⟨List.Subset.trans hsubset hsubset', htype'.trans htype, hselected'.trans hselected⟩
  · obtain ⟨now, hform⟩ := hfresh
    rw [hform]
    exact ⟨List.Subset.refl _, rfl, rfl⟩

/-- **The form of the Android app** offers what it has chosen, just when no amount is entered
for a preselected category of the other type. -/
theorem choosesOffered_iff_choosesFirst (hfresh : form.Fresh) :
    ChoosesOffered form events ↔ ChoosesFirst form events := by
  constructor
  · intro hoffered pre since hprefix hstart hkeeps hamount category hcategory
    obtain ⟨-, htype, hselected⟩ := run_of_keepsChoice hstart hkeeps
    rw [← run_append] at htype hselected
    have hvalid : (run step form (pre ++ since)).screen.isValid = true := by
      rw [isValid_iff, hselected, hcategory]
      exact ⟨hamount, rfl⟩
    obtain ⟨chosen, hchosen, heq⟩ := hoffered (pre ++ since) hprefix hvalid
    rw [hselected, hcategory, Option.some_inj] at heq
    rw [heq, (mem_filteredCategories.mp hchosen).2, htype]
  · intro hfirst pre hprefix
    obtain hchosen | ⟨pre, since, rfl, hstart, hkeeps⟩ := run_invariant_or_since
      (fun _ _ hchosen => hchosen.step) (fun _ => chosen_step_of_not_keepsChoice) hfresh pre
    · exact hchosen.offersChosen
    · intro hvalid
      obtain ⟨hamount, hsome⟩ := (isValid_iff _).mp hvalid
      obtain ⟨category, hcategory⟩ := Option.isSome_iff_exists.mp hsome
      obtain ⟨hsubset, htype, hselected⟩ := run_of_keepsChoice hstart hkeeps
      rw [← run_append] at hsubset htype hselected
      rw [hselected] at hcategory
      refine ⟨category, mem_filteredCategories.mpr ⟨?_, ?_⟩, hselected.trans hcategory⟩
      · exact hsubset (List.mem_of_mem_head? hcategory)
      · rw [htype]
        exact hfirst pre since hprefix hstart hkeeps hamount category hcategory

end AddTransactionScreen

/-! ### The form of the iOS app -/

namespace Ios

/-- The form, with the categories that are loaded. -/
structure AddFormView where
  categories : List CategoryObject
  form : AddForm
  deriving DecidableEq, Repr

/-- `categoriesForType`: a category without a type is offered for both. -/
def TransactionsViewModel.categoriesForType (isIncome : Bool) (categories : List CategoryObject) :
    List CategoryObject :=
  let type := if isIncome then "income".toList else "expense".toList
  categories.filter fun category =>
    match category.type with
    | some categoryType => categoryType.isEmpty || categoryType == type
    | none => true

namespace AddFormView

/-- The form when it appears. -/
def appear (categories : List CategoryObject) (accounts : List AccountEntity) (currency : Text)
    (initialIsIncome : Bool) (now : ℤ) : AddFormView :=
  { categories := categories
    form :=
      { currency := currency
        typed := []
        note := []
        selectedCategory := none
        selectedAccount := (accounts.find? AccountEntity.isDefault).or accounts.head?
        isIncome := initialIsIncome
        date := now
        isRecurring := false
        recurringFrequency := "MONTHLY".toList } }

/-- The categories of the form. -/
def filteredCategories (view : AddFormView) : List CategoryObject :=
  TransactionsViewModel.categoriesForType view.form.isIncome view.categories

/-- What happens to the form. A new category comes somewhere into the sorted list. -/
inductive Event
  | selectType (newValue : Bool)
  | selectCategory (category : CategoryObject)
  | editAmount (typed : Text)
  | editNote (note : Text)
  | categoryAdded (category : CategoryObject) (i : ℕ)
  deriving DecidableEq, Repr

/-- Only a change of the type clears the selection. -/
def step (view : AddFormView) : Event → AddFormView
  | .selectType newValue =>
      if newValue = view.form.isIncome then view
      else { view with form := { view.form with isIncome := newValue, selectedCategory := none } }
  | .selectCategory category =>
      if category ∈ view.filteredCategories then
        { view with form := { view.form with selectedCategory := some category } }
      else view
  | .editAmount typed => { view with form := { view.form with typed := typed } }
  | .editNote note => { view with form := { view.form with note := note } }
  | .categoryAdded category i => { view with categories := view.categories.insertIdx i category }

/-- **A form that can be saved** has chosen one of the categories it offers. -/
def OffersChosen (view : AddFormView) : Prop :=
  view.form.isValid = true →
    ∃ category ∈ view.filteredCategories, view.form.selectedCategory = some category

/-- Every state of the run offers what it has chosen. -/
def ChoosesOffered (view : AddFormView) (events : List Event) : Prop :=
  ∀ pre, pre <+: events → (run step view pre).OffersChosen

/-- The chosen category is offered. -/
def Chosen (view : AddFormView) : Prop :=
  ∀ category ∈ view.form.selectedCategory, category ∈ view.filteredCategories

variable {view : AddFormView}

/-- A category that is chosen from what is offered is offered. -/
theorem Chosen.offersChosen (h : view.Chosen) : view.OffersChosen := by
  intro hvalid
  obtain ⟨-, category, -, -, hcategory, -⟩ := AddForm.entries_of_isValid hvalid
  exact ⟨category, h category hcategory, hcategory⟩

/-- The form appears without a choice, or with the first category that it offers. -/
theorem chosen_appear (categories : List CategoryObject) (accounts : List AccountEntity)
    (currency : Text) (initialIsIncome : Bool) (now : ℤ) :
    (appear categories accounts currency initialIsIncome now).Chosen := by
  rintro category ⟨⟩

/-- **Step lemma:** on iOS every event leaves an offered category chosen. -/
theorem Chosen.step (h : view.Chosen) (event : Event) : (view.step event).Chosen := by
  cases event with
  | selectType newValue =>
      rw [AddFormView.step]
      split_ifs
      · exact h
      · exact nofun
  | selectCategory category =>
      rw [AddFormView.step]
      split_ifs with hmem
      · rintro _ ⟨⟩
        exact hmem
      · exact h
  | editAmount | editNote => exact h
  | categoryAdded category i =>
      intro chosen hchosen
      exact (List.sublist_insertIdx _ _ _).filter _ |>.mem (h chosen hchosen)

/-- **The form of the iOS app** offers what it has chosen. -/
theorem choosesOffered (h : view.Chosen) (events : List Event) : view.ChoosesOffered events :=
  fun pre _ => Chosen.offersChosen
    (run_invariant_of_step (fun _ event hs => hs.step event) h pre)

end AddFormView

end Ios

/-! ### Both forms -/

/-- A form from its first composition on. -/
inductive AddRun
  | ios (categories : List Ios.CategoryObject) (accounts : List Ios.AccountEntity)
      (currency : Text) (initialIsIncome : Bool) (now : ℤ)
      (events : List Ios.AddFormView.Event)
  | android (categories : List Category) (initialTransactionType : Option Bool) (now : ℤ)
      (events : List AddTransactionScreen.Event)

namespace AddRun

/-- **A transaction that is saved** has a category of its own type. -/
def ChoosesOffered : AddRun → Prop
  | ios categories accounts currency initialIsIncome now events =>
      (Ios.AddFormView.appear categories accounts currency initialIsIncome
        now).ChoosesOffered events
  | android categories initialTransactionType now events =>
      (AddTransactionScreen.compose categories initialTransactionType now).ChoosesOffered events

/-- On Android the form has to choose again after its type changes; on iOS it does so by itself.
-/
def ChoosesFirst : AddRun → Prop
  | ios .. => True
  | android categories initialTransactionType now events =>
      (AddTransactionScreen.compose categories initialTransactionType now).ChoosesFirst events

/-- **Both forms** offer what they have chosen, just when the one of the Android app preselects
a category of the initial type wherever an amount is entered for it. -/
theorem choosesOffered_iff (r : AddRun) : r.ChoosesOffered ↔ r.ChoosesFirst := by
  cases r with
  | ios categories accounts currency initialIsIncome now events =>
      have hchosen := Ios.AddFormView.chosen_appear categories accounts currency initialIsIncome now
      exact iff_of_true (Ios.AddFormView.choosesOffered hchosen events) trivial
  | android categories initialTransactionType now events =>
      exact AddTransactionScreen.choosesOffered_iff_choosesFirst ⟨now, rfl⟩

/-- The form for an income preselects the first of the seeded categories, and saves the income
as shopping. -/
theorem not_choosesOffered_shopping :
    ¬ (AddRun.android
        [{ id := some 4, name := "Alışveriş".toList, color := "#FF9800".toList,
            icon := some "🛒".toList, isIncome := false },
          { id := some 5, name := "Maaş".toList, color := "#4CAF50".toList,
            icon := some "💼".toList, isIncome := true }]
        (some true) 1700000000000 [.editAmount "100".toList]).ChoosesOffered := by
  intro h
  obtain ⟨category, hmem, hchosen⟩ := h _ List.prefix_rfl (by decide +kernel)
  cases hchosen
  exact absurd hmem (by decide)

end AddRun

end SpendCraft
