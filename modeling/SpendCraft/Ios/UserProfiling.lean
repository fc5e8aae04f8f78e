import SpendCraft.Lib.PrefixCode
import SpendCraft.UserProfiling
import Mathlib.Data.List.Forall2
import Mathlib.Data.List.Nodup

/-!
# The Profiling Survey of the iOS App

`UserProfilingView` keeps the answers of the survey in the user defaults, one text for each
question, and `AIManager` puts these texts into its prompts. The defaults stay when the user signs
out. The dashboard offers the survey until it is completed.

The keys of a dictionary are visited in any order; each writes a place of its own.

## Conventions

The survey has the questions and options of the Android app, and keeps the answers in a dictionary
from the numbers of the questions to the chosen options, in the order of the taps. A stored text
joins the options of one question by commas. The user defaults survive the sign-out, so a run may
go on for another user. The prompts are read from the texts, label by label.

## Proof

The pages keep `Answered`: the questions before the current page have answers out of their
options. The first completed survey is the one that counts, since the card is gone afterwards
(`Outcome`), and the prompts are lines of its texts. A text of joined options tells the options
although some have commas, because no option starts with another (`Lib.PrefixCode`), which is
checked once for all questions (`WellPosed`). The two apps are related page by page over the same
taps.

## Main results

* `buildProfilingContext_run`: what the prompts say of the user after a run.
* `contexts_eq_iff`: a prompt tells the answers, although answers have commas.
* `same_display_iff`: the runs after which the two apps show the same.
-/

namespace SpendCraft.Ios

open Kotlin Machine

/-- The user defaults of the survey. -/
structure ProfilingDefaults where
  userProfilingCompleted : Bool
  string : Text → Option Text

/-- The state of the survey: the page it is on, and the options chosen for each question. -/
structure UserProfilingView where
  currentPage : ℕ
  answers : Text → Option (List Text)

namespace UserProfilingView

/-- The survey as it opens. -/
def initial : UserProfilingView :=
  { currentPage := 0, answers := fun _ => none }

/-- The question on the current page; after the last one there is none. -/
def question (view : UserProfilingView) : Option ProfilingQuestion :=
  profilingQuestions[view.currentPage]?

/-- `answers[id]?.isEmpty ?? true` -/
def isUnanswered (view : UserProfilingView) (id : Text) : Bool :=
  ((view.answers id).map List.isEmpty).getD true

/-- `selectOption`: a chosen option is taken back, another one is added at the end. -/
def selectOption (question : ProfilingQuestion) (option : Text) (view : UserProfilingView) :
    UserProfilingView :=
  let selected := (view.answers question.id).getD []
  { view with
    answers := Function.update view.answers question.id (some
      (match selected.idxOf? option with
      | some index => selected.eraseIdx index
      | none => selected ++ [option])) }

/-- `nextQuestion`: the page is left only once its question is answered. -/
def nextQuestion (question : ProfilingQuestion) (view : UserProfilingView) : UserProfilingView :=
  if view.isUnanswered question.id then view else { view with currentPage := view.currentPage + 1 }

/-- The options of one question as they are stored. -/
def joined (answers : List Text) : Text :=
  ", ".toList.intercalate answers

/-- The key of a question in `UserDefaults`. -/
def profilingKey (id : Text) : Text :=
  "profiling_".toList ++ id

/-- The text that is written under a key. -/
def saved (view : UserProfilingView) (key : Text) : Option Text :=
  ((key.dropPrefix? "profiling_".toList).bind view.answers).map joined

/-- `saveAndClose`: the flag is set and every question that has an entry is written under its key.
What the survey does not write stays. -/
def saveAndClose (view : UserProfilingView) (defaults : ProfilingDefaults) : ProfilingDefaults :=
  { userProfilingCompleted := true
    string := fun key => (view.saved key).or (defaults.string key) }

/-- The controls of a page. What the page does not show cannot be tapped. -/
def step (view : UserProfilingView) (event : ProfilingEvent) : UserProfilingView :=
  match view.question, event with
  | some question, .selectOption option =>
      if question.options.contains option then view.selectOption question option else view
  | some _, .back =>
      if 0 < view.currentPage then { view with currentPage := view.currentPage - 1 } else view
  | some question, .next => view.nextQuestion question
  | _, _ => view

end UserProfilingView

/-- The dashboard with the survey where it is open. -/
structure ProfilingApp where
  defaults : ProfilingDefaults
  view : Option UserProfilingView

namespace ProfilingApp

/-- A fresh installation: the survey was never completed. -/
def fresh : ProfilingApp :=
  { defaults := { userProfilingCompleted := false, string := fun _ => none }, view := none }

/-- The dashboard shows the card as long as the survey is not completed. -/
def showsCard (app : ProfilingApp) : Bool :=
  !app.defaults.userProfilingCompleted

/-- The answers of the survey, where the page behind the last question is shown. -/
def completedView (app : ProfilingApp) : Option UserProfilingView :=
  app.view.filter fun view => view.question.isNone

/-- One event: the survey opens from the card only, completes on its last page only, and can be
dismissed from any page. -/
def step (app : ProfilingApp) : ProfilingEvent → ProfilingApp
  | .openSurvey =>
      if app.view.isNone && app.showsCard then { app with view := some .initial } else app
  | .complete =>
      match app.completedView with
      | some view => { defaults := view.saveAndClose app.defaults, view := none }
      | none => app
  | .dismiss => { app with view := none }
  | event => { app with view := app.view.map fun view => view.step event }

end ProfilingApp

namespace AIManager

/-- The keys that the advice reads, in the order of the source. -/
def keys : List Text :=
  ["income_frequency".toList, "spending_habit".toList, "savings_goal".toList,
    "biggest_expense".toList, "budget_management".toList, "financial_goal".toList,
    "debt_status".toList]

/-- `getUserProfilingData`: nothing before the survey is completed, and nothing if no key has a
value. -/
def getUserProfilingData (defaults : ProfilingDefaults) : Option (Text → Option Text) :=
  if defaults.userProfilingCompleted then
    let profileData := fun key =>
      if keys.contains key then defaults.string (UserProfilingView.profilingKey key) else none
    if keys.all fun key => (profileData key).isNone then none else some profileData
  else none

/-- The keys that are asked for, with the labels of their lines. -/
def labels : List (Text × Text) :=
  [("income_frequency".toList, "Gelir Sıklığı".toList),
    ("spending_habit".toList, "Harcama Alışkanlığı".toList),
    ("savings_goal".toList, "Tasarruf Hedefi".toList),
    ("biggest_expense".toList, "En Çok Harcama Yapılan Alan".toList),
    ("budget_management".toList, "Bütçe Yönetimi Seviyesi".toList),
    ("financial_goal".toList, "Ana Finansal Hedef".toList),
    ("debt_status".toList, "Borç Durumu".toList)]

/-- One line of the context. -/
def line (label value : Text) : Text :=
  "- ".toList ++ label ++ ": ".toList ++ value

/-- `buildProfilingContext`: a heading and a line for each key that has a value. -/
def buildProfilingContext (defaults : ProfilingDefaults) : Option Text :=
  (getUserProfilingData defaults).map fun profileData =>
    "\n\nKullanıcı Profili:".toList ++ labels.flatMap fun (key, label) =>
      match profileData key with
      | some value => '\n' :: line label value
      | none => []

end AIManager

/-! ### Pages -/

namespace UserProfilingView

variable {view : UserProfilingView} {question question' : ProfilingQuestion} {i j : ℕ}

/-- No two questions share an id. -/
theorem nodup_ids : (profilingQuestions.map ProfilingQuestion.id).Nodup := by decide

/-- So a question is found by its id. -/
theorem eq_of_id_eq (h : question ∈ profilingQuestions) (h' : question' ∈ profilingQuestions)
    (hid : question.id = question'.id) : question = question' :=
  List.inj_on_of_nodup_map nodup_ids h h' hid

/-- Questions on different pages have different ids. -/
theorem id_ne_of_lt (hi : profilingQuestions[i]? = some question)
    (hj : profilingQuestions[j]? = some question') (hlt : i < j) : question.id ≠ question'.id := by
  obtain ⟨hi', rfl⟩ := List.getElem?_eq_some_iff.mp hi
  obtain ⟨hj', rfl⟩ := List.getElem?_eq_some_iff.mp hj
  intro heq
  have hid := eq_of_id_eq (List.getElem_mem hi') (List.getElem_mem hj') heq
  have hindex := (List.Nodup.of_map _ nodup_ids).getElem_inj_iff.mp hid
  omega

/-- What the pages keep: those before the current one are answered, by options of theirs. -/
structure Answered (view : UserProfilingView) : Prop where
  page : view.currentPage ≤ profilingQuestions.length
  answered : ∀ i question, i < view.currentPage → profilingQuestions[i]? = some question →
    view.isUnanswered question.id = false
  offered : ∀ question ∈ profilingQuestions, ∀ selected, view.answers question.id = some selected →
    selected.Nodup ∧ selected ⊆ question.options

/-- A survey that has just opened is answered up to its page. -/
theorem answered_initial : Answered initial where
  page := Nat.zero_le _
  answered := by
    intro i question hi
    exact absurd hi (Nat.not_lt_zero i)
  offered := by
    intro question _ selected h
    exact absurd h (by simp [initial])

/-- A tap leaves the other questions alone. -/
theorem selectOption_answers_of_ne (option : Text) (hne : question'.id ≠ question.id) :
    (view.selectOption question option).answers question'.id = view.answers question'.id :=
  Function.update_of_ne hne _ _

/-- A tap on an option as an update of the entry of its question. -/
theorem selectOption_eq (view : UserProfilingView) (question : ProfilingQuestion) (option : Text) :
    view.selectOption question option =
      { view with
        answers := Function.update view.answers question.id (some
          (if option ∈ (view.answers question.id).getD [] then
            ((view.answers question.id).getD []).erase option
          else (view.answers question.id).getD [] ++ [option])) } := by
  rw [selectOption]
  congr 3
  cases hindex : ((view.answers question.id).getD []).idxOf? option with
  | none => rw [if_neg (List.idxOf?_eq_none_iff.mp hindex)]
  | some index =>
      have hmem : option ∈ (view.answers question.id).getD [] := by
        by_contra hmem
        rw [List.idxOf?_eq_none_iff.mpr hmem] at hindex
        exact absurd hindex (by simp)
      rw [if_pos hmem, List.erase_eq_eraseIdx, hindex]

/-- After the tap, the entry of the question has lost or gained that option. -/
theorem selectOption_answers_self (option : Text) (question : ProfilingQuestion) :
    (view.selectOption question option).answers question.id =
      some (if option ∈ (view.answers question.id).getD [] then
          ((view.answers question.id).getD []).erase option
        else (view.answers question.id).getD [] ++ [option]) := by
  rw [selectOption_eq]
  exact Function.update_self _ _ _

/-- A tap on the current question keeps the earlier questions answered. -/
theorem Answered.selectOption {option : Text} (h : Answered view)
    (hquestion : view.question = some question) (hoption : option ∈ question.options) :
    Answered (view.selectOption question option) where
  page := h.page
  answered := by
    intro i question' hi hquestion'
    rw [isUnanswered, selectOption_answers_of_ne option (id_ne_of_lt hquestion' hquestion hi)]
    exact h.answered i question' hi hquestion'
  offered := by
    intro question' hmem' selected hselected
    have hmem := List.mem_of_getElem? hquestion
    by_cases hid : question'.id = question.id
    · obtain rfl := eq_of_id_eq hmem' hmem hid
      have hbefore : ((view.answers question'.id).getD []).Nodup ∧
          (view.answers question'.id).getD [] ⊆ question'.options := by
        cases hanswers : view.answers question'.id with
        | none => simp
        | some before => exact h.offered question' hmem before hanswers
      rw [selectOption_answers_self, Option.some_inj] at hselected
      subst hselected
      split
      · exact ⟨hbefore.1.erase option, fun _ ha => hbefore.2 (List.erase_subset ha)⟩
      · next hnew =>
        refine ⟨List.nodup_append.mpr ⟨hbefore.1, List.nodup_singleton option, ?_⟩, ?_⟩
        · rintro a ha b hb rfl
          exact hnew (List.mem_singleton.mp hb ▸ ha)
        · exact List.append_subset.mpr ⟨hbefore.2, by simpa using hoption⟩
    · rw [selectOption_answers_of_ne option hid] at hselected
      exact h.offered question' hmem' selected hselected

/-- Leaving a page keeps all questions before the next page answered. -/
theorem Answered.nextQuestion (h : Answered view) (hquestion : view.question = some question) :
    Answered (view.nextQuestion question) := by
  rw [UserProfilingView.nextQuestion]
  split
  · exact h
  · next hanswered =>
    refine ⟨(List.getElem?_eq_some_iff.mp hquestion).1, ?_, h.offered⟩
    intro i question' hi hquestion'
    rcases Nat.lt_succ_iff_lt_or_eq.mp hi with hlt | rfl
    · exact h.answered i question' hlt hquestion'
    · obtain rfl := Option.some.inj (hquestion'.symm.trans hquestion)
      exact eq_false_of_ne_true hanswered

/-- **What a tap keeps.** -/
theorem Answered.step (h : Answered view) (event : ProfilingEvent) :
    Answered (view.step event) := by
  cases hquestion : view.question with
  | none =>
      simp only [UserProfilingView.step, hquestion]
      exact h
  | some question =>
      cases event with
      | selectOption option =>
          simp only [UserProfilingView.step, hquestion]
          by_cases hoption : question.options.contains option = true
          · rw [if_pos hoption]
            exact h.selectOption hquestion (List.contains_iff_mem.mp hoption)
          · rwa [if_neg hoption]
      | back =>
          simp only [UserProfilingView.step, hquestion]
          by_cases hpage : 0 < view.currentPage
          · rw [if_pos hpage]
            exact ⟨(Nat.sub_le _ _).trans h.page, fun i question' hi => h.answered i question'
              (Nat.lt_of_lt_of_le hi (Nat.sub_le _ _)), h.offered⟩
          · rwa [if_neg hpage]
      | next =>
          simp only [UserProfilingView.step, hquestion]
          exact h.nextQuestion hquestion
      | openSurvey | complete | dismiss =>
          simp only [UserProfilingView.step, hquestion]
          exact h

end UserProfilingView

/-! ### Profiles -/

/-- Answers to each question, out of its options. -/
def IsProfile (profile : List (List Text)) : Prop :=
  List.Forall₂ (fun question answers => answers ≠ [] ∧ answers.Nodup ∧ answers ⊆ question.options)
    profilingQuestions profile

namespace UserProfilingView

variable {view : UserProfilingView} {question : ProfilingQuestion}

/-- The answers to the questions, in their order. -/
def profile (view : UserProfilingView) : List (List Text) :=
  profilingQuestions.map fun question => (view.answers question.id).getD []

/-- On the page after the last question, every question has an answer. -/
theorem Answered.exists_answers (h : Answered view) (hlast : view.question = none)
    (hquestion : question ∈ profilingQuestions) :
    ∃ answers, view.answers question.id = some answers ∧ answers ≠ [] := by
  obtain ⟨i, hi⟩ := List.mem_iff_getElem?.mp hquestion
  have hpage : i < view.currentPage :=
    (List.getElem?_eq_some_iff.mp hi).1.trans_le (List.getElem?_eq_none_iff.mp hlast)
  have hanswered := h.answered i question hpage hi
  rw [isUnanswered] at hanswered
  cases hanswers : view.answers question.id with
  | none => rw [hanswers] at hanswered; exact absurd hanswered (by decide)
  | some answers =>
      refine ⟨answers, rfl, ?_⟩
      rintro rfl
      rw [hanswers] at hanswered
      exact absurd hanswered (by decide)

/-- The answers of such a survey are a profile: a non-empty choice among the options of each
question. -/
theorem Answered.isProfile (h : Answered view) (hlast : view.question = none) :
    IsProfile view.profile := by
  rw [IsProfile, profile, List.forall₂_map_right_iff, List.forall₂_same]
  intro question hquestion
  obtain ⟨answers, hanswers, hne⟩ := h.exists_answers hlast hquestion
  obtain ⟨hnodup, hsubset⟩ := h.offered question hquestion answers hanswers
  rw [hanswers, Option.getD_some]
  exact ⟨hne, hnodup, hsubset⟩

/-- What is saved under the key of a question is its joined answers. -/
theorem saved_profilingKey (view : UserProfilingView) (id : Text) :
    view.saved (profilingKey id) = (view.answers id).map joined := by
  have hprefix : (profilingKey id).dropPrefix? "profiling_".toList = some id :=
    List.dropPrefix?_eq_some_iff.mpr ⟨"profiling_".toList, rfl, beq_self_eq_true _⟩
  rw [saved, hprefix, Option.bind_some]

end UserProfilingView

namespace AIManager

open UserProfilingView (joined)

variable {view : UserProfilingView}

/-- The lines about the user. -/
def contextText (profile : List (List Text)) : Text :=
  "\n\nKullanıcı Profili:".toList ++
    (List.zipWith (fun label answers => line label (joined answers)) (labels.map Prod.snd)
      profile).flatMap fun l => '\n' :: l

/-- The keys that are read are the ids of the questions. -/
theorem keys_eq : keys = profilingQuestions.map ProfilingQuestion.id := rfl

/-- There is a label for each key, in the same order. -/
theorem labels_map_fst : labels.map Prod.fst = keys := rfl

/-- The profile in the order of the labels. -/
theorem profile_eq (view : UserProfilingView) :
    view.profile = labels.map fun entry => (view.answers entry.1).getD [] := by
  have hkeys : (profilingQuestions.map ProfilingQuestion.id).map (fun key =>
      (view.answers key).getD []) = (labels.map Prod.fst).map fun key =>
      (view.answers key).getD [] := by
    rw [labels_map_fst, keys_eq]
  rw [List.map_map, List.map_map] at hkeys
  exact hkeys

/-- The lines of texts that are there. -/
theorem flatMap_lines {entries : List (Text × Text)} {profileData : Text → Option Text}
    (answers : Text → List Text)
    (h : ∀ entry ∈ entries, profileData entry.1 = some (joined (answers entry.1))) :
    (entries.flatMap fun (key, label) =>
      match profileData key with
      | some value => '\n' :: line label value
      | none => []) =
    (List.zipWith (fun label answers => line label (joined answers)) (entries.map Prod.snd)
      (entries.map fun entry => answers entry.1)).flatMap fun l => '\n' :: l := by
  rw [List.zipWith_map, List.zipWith_self, List.flatMap_map]
  refine List.flatMap_congr fun entry hentry => ?_
  simp only [h entry hentry]

/-- After the survey, each key holds the joined answers. -/
theorem string_saveAndClose (h : view.Answered) (hlast : view.question = none)
    (defaults : ProfilingDefaults) {key : Text} (hkey : key ∈ keys) :
    (view.saveAndClose defaults).string (UserProfilingView.profilingKey key) =
      some (joined ((view.answers key).getD [])) := by
  rw [keys_eq] at hkey
  obtain ⟨question, hquestion, rfl⟩ := List.mem_map.mp hkey
  obtain ⟨answers, hanswers, -⟩ := h.exists_answers hlast hquestion
  have hsaved := view.saved_profilingKey question.id
  rw [hanswers, Option.map_some] at hsaved
  rw [hanswers, Option.getD_some]
  exact (congrArg (Option.or · _) hsaved).trans (Option.some_or)

/-- So the data that is read back has a value for every key. -/
theorem getUserProfilingData_saveAndClose (h : view.Answered) (hlast : view.question = none)
    (defaults : ProfilingDefaults) :
    ∃ profileData, getUserProfilingData (view.saveAndClose defaults) = some profileData ∧
      ∀ key ∈ keys, profileData key = some (joined ((view.answers key).getD [])) := by
  refine ⟨fun key => if keys.contains key then
    (view.saveAndClose defaults).string (UserProfilingView.profilingKey key) else none, ?_, ?_⟩
  · have hmem : "debt_status".toList ∈ keys := by decide
    refine (if_pos rfl).trans (if_neg ?_)
    intro hnone
    have hfirst := List.all_eq_true.mp hnone _ hmem
    beta_reduce at hfirst
    rw [if_pos (List.contains_iff_mem.mpr hmem),
      string_saveAndClose h hlast defaults hmem] at hfirst
    exact absurd hfirst (by simp)
  · intro key hkey
    exact (if_pos (List.contains_iff_mem.mpr hkey)).trans
      (string_saveAndClose h hlast defaults hkey)

/-- **A prompt after the survey** says all of its answers. -/
theorem buildProfilingContext_saveAndClose (h : view.Answered) (hlast : view.question = none)
    (defaults : ProfilingDefaults) :
    buildProfilingContext (view.saveAndClose defaults) = some (contextText view.profile) := by
  obtain ⟨profileData, hdata, hvalue⟩ := getUserProfilingData_saveAndClose h hlast defaults
  have hlabels : ∀ entry ∈ labels,
      profileData entry.1 = some (joined ((view.answers entry.1).getD [])) := by
    intro entry hentry
    exact hvalue _ (labels_map_fst ▸ List.mem_map_of_mem hentry)
  have hlines := flatMap_lines (fun key => (view.answers key).getD []) hlabels
  rw [← profile_eq] at hlines
  have hcontext : buildProfilingContext (view.saveAndClose defaults) = some _ :=
    congrArg (Option.map _) hdata
  rw [hcontext]
  exact congrArg some (congrArg _ hlines)

end AIManager

/-! ### Runs -/

namespace ProfilingApp

open AIManager

variable {app : ProfilingApp} {profile : Option (List (List Text))}

/-- The answers that an event saves. -/
def completing (app : ProfilingApp) (event : ProfilingEvent) : Option (List (List Text)) :=
  if event = .complete then app.completedView.map UserProfilingView.profile else none

/-- The answers that are saved in a run, the first ones. -/
def completedProfile (app : ProfilingApp) : List ProfilingEvent → Option (List (List Text))
  | [] => none
  | event :: events => (app.completing event).or ((app.step event).completedProfile events)

/-- The profile after one more event: the last completed survey counts. -/
theorem completedProfile_append_singleton (app : ProfilingApp) (events : List ProfilingEvent)
    (event : ProfilingEvent) :
    app.completedProfile (events ++ [event]) =
      (app.completedProfile events).or ((run step app events).completing event) := by
  induction events generalizing app with
  | nil => simp [completedProfile]
  | cons first events ih =>
      rw [List.cons_append, completedProfile, completedProfile, ih, Option.or_assoc, run_cons]

/-- Where the survey stands, given the answers that were saved. -/
inductive Outcome (app : ProfilingApp) : Option (List (List Text)) → Prop
  | surveying (hdefaults : app.defaults = fresh.defaults)
      (hview : ∀ view, app.view = some view → view.Answered) : Outcome app none
  | completed {profile : List (List Text)} (hprofile : IsProfile profile)
      (hview : app.view = none) (hcompleted : app.defaults.userProfilingCompleted = true)
      (hcontext : buildProfilingContext app.defaults = some (contextText profile)) :
      Outcome app (some profile)

/-- After the survey nothing changes any more. -/
theorem step_of_completed (hview : app.view = none)
    (hcompleted : app.defaults.userProfilingCompleted = true) (event : ProfilingEvent) :
    app.step event = app := by
  obtain ⟨defaults, view⟩ := app
  obtain rfl : view = none := hview
  cases event with
  | openSurvey =>
      have hcard : showsCard ⟨defaults, none⟩ = false := by
        rw [showsCard, hcompleted]
        rfl
      rw [step, hcard]
      rfl
  | complete | dismiss | selectOption _ | back | next => rfl

/-- A survey completes on its last page. -/
theorem completedView_eq_some {view : UserProfilingView} (h : app.completedView = some view) :
    app.view = some view ∧ view.question = none := by
  rw [completedView, Option.filter_eq_some_iff] at h
  exact ⟨h.1, by simpa using h.2⟩

/-- **Step lemma:** what is stored is that of the last completed survey. -/
theorem Outcome.step (h : Outcome app profile) (event : ProfilingEvent) :
    Outcome (app.step event) (profile.or (app.completing event)) := by
  cases h with
  | completed hprofile hview hcompleted hcontext =>
      rw [step_of_completed hview hcompleted, Option.some_or]
      exact .completed hprofile hview hcompleted hcontext
  | surveying hdefaults hview =>
      rw [Option.none_or]
      cases event with
      | openSurvey =>
          rw [ProfilingApp.step]
          split
          · refine .surveying hdefaults fun view heq => ?_
            obtain rfl := Option.some.inj heq
            exact UserProfilingView.answered_initial
          · exact .surveying hdefaults hview
      | complete =>
          rw [ProfilingApp.step, completing, if_pos rfl]
          cases hcompleted : app.completedView with
          | none => exact .surveying hdefaults hview
          | some view =>
              obtain ⟨heq, hlast⟩ := completedView_eq_some hcompleted
              have hanswered := hview view heq
              exact .completed (hanswered.isProfile hlast) rfl rfl
                (buildProfilingContext_saveAndClose hanswered hlast app.defaults)
      | dismiss =>
          exact .surveying hdefaults fun view heq => absurd heq (by simp [ProfilingApp.step])
      | selectOption _ | back | next =>
          refine .surveying hdefaults fun view heq => ?_
          obtain ⟨before, hbefore, rfl⟩ := Option.map_eq_some_iff.mp heq
          exact (hview before hbefore).step _

/-- **Run lemma:** the same after any events since the installation. -/
theorem outcome_run (events : List ProfilingEvent) :
    Outcome (run step fresh events) (fresh.completedProfile events) := by
  induction events using List.reverseRecOn with
  | nil => exact .surveying rfl fun view heq => absurd heq (by simp [fresh])
  | append_singleton events event ih =>
      rw [completedProfile_append_singleton, run_append]
      exact ih.step event

/-- The context the advice gets is that of the profile, and the profile is proper. -/
theorem Outcome.context (h : Outcome app profile) :
    buildProfilingContext app.defaults = profile.map contextText ∧
      ∀ answers, profile = some answers → IsProfile answers := by
  cases h with
  | surveying hdefaults _ =>
      rw [hdefaults]
      exact ⟨rfl, fun _ h => absurd h (by simp)⟩
  | completed hprofile _ _ hcontext =>
      refine ⟨hcontext, ?_⟩
      rintro _ ⟨⟩
      exact hprofile

/-- **What the prompts say of the user**: nothing before the survey is completed for the first
time, and from then on the answers of that survey, some to every question. -/
theorem buildProfilingContext_run (events : List ProfilingEvent) :
    buildProfilingContext (run step fresh events).defaults =
        (fresh.completedProfile events).map contextText ∧
      ∀ profile, fresh.completedProfile events = some profile → IsProfile profile :=
  (outcome_run events).context

end ProfilingApp

/-! ### Reading a prompt -/

namespace AIManager

open PrefixCode UserProfilingView

/-- No option starts with another, none is empty, and each is on one line. -/
structure WellPosed (question : ProfilingQuestion) : Prop where
  prefixFree : PrefixFree {option | option ∈ question.options}
  nonempty : [] ∉ question.options
  line : ∀ option ∈ question.options, '\n' ∉ option

/-- Every question of the survey is well posed. -/
theorem wellPosed_of_mem {question : ProfilingQuestion} (h : question ∈ profilingQuestions) :
    WellPosed question := by
  have hall : (profilingQuestions.all fun question => question.options.all fun u =>
      !u.isEmpty && !u.contains '\n' &&
        question.options.all fun v => !u.isPrefixOf v || u == v) = true := by decide
  simp only [List.all_eq_true, Bool.and_eq_true, Bool.not_eq_true', Bool.or_eq_true,
    beq_iff_eq] at hall
  have hquestion := hall question h
  refine ⟨?_, ?_, ?_⟩
  · intro u hu v hv huv
    refine ((hquestion u hu).2 v hv).resolve_left ?_
    rw [List.isPrefixOf_iff_prefix.mpr huv]
    decide
  · intro hempty
    exact absurd (hquestion [] hempty).1.1 (by decide)
  · intro option hoption hmem
    exact absurd (hquestion option hoption).1.2 (by simp [hmem])

/-- Joining adds no line break. -/
theorem newline_notMem_joined {answers : List Text} (h : ∀ answer ∈ answers, '\n' ∉ answer) :
    '\n' ∉ joined answers :=
  PrefixCode.notMem_intercalate (by decide) h

/-- A line has no line break inside. -/
theorem newline_notMem_line {label value : Text} (hlabel : '\n' ∉ label) (hvalue : '\n' ∉ value) :
    '\n' ∉ line label value := by
  have hdash : '\n' ∉ "- ".toList := by decide
  have hcolon : '\n' ∉ ": ".toList := by decide
  simp only [line, List.mem_append, hdash, hlabel, hcolon, hvalue, or_self, not_false_eq_true]

/-- The lines tell the answers. -/
theorem answers_eq_of_lines_eq {questions : List ProfilingQuestion} {texts : List Text}
    {answers answers' : List (List Text)} (hquestions : ∀ question ∈ questions, WellPosed question)
    (htexts : ∀ text ∈ texts, '\n' ∉ text) (hlength : questions.length = texts.length)
    (h : List.Forall₂ (fun question answers => answers ⊆ question.options) questions answers)
    (h' : List.Forall₂ (fun question answers => answers ⊆ question.options) questions answers')
    (heq : (List.zipWith (fun label answers => line label (joined answers)) texts
        answers).flatMap (fun l => '\n' :: l) =
      (List.zipWith (fun label answers => line label (joined answers)) texts
        answers').flatMap fun l => '\n' :: l) : answers = answers' := by
  induction h generalizing texts answers' with
  | nil => cases h'; rfl
  | @cons question selected questions answers hselected _ ih =>
      obtain ⟨label, texts, rfl⟩ := List.exists_cons_of_length_eq_add_one hlength.symm
      cases h' with
      | @cons _ selected' _ answers' hselected' hanswers' =>
          have hposed := hquestions question List.mem_cons_self
          have hlabel := htexts label List.mem_cons_self
          have hlines {chosen : List Text} (hchosen : chosen ⊆ question.options) :
              '\n' ∉ line label (joined chosen) :=
            newline_notMem_line hlabel
              (newline_notMem_joined fun option hoption => hposed.line option (hchosen hoption))
          rw [List.zipWith_cons_cons, List.zipWith_cons_cons, List.flatMap_cons,
            List.flatMap_cons, List.cons_append, List.cons_append, List.cons_inj_right] at heq
          obtain ⟨hline, hrest⟩ := marked_append_inj (hlines hselected) (hlines hselected') heq
          have hjoined : joined selected = joined selected' := List.append_cancel_left hline
          rw [hposed.prefixFree.intercalate_injective hposed.nonempty (by decide) hselected
            hselected' hjoined]
          rw [ih (fun other hother => hquestions other (List.mem_cons_of_mem _ hother))
            (fun text htext => htexts text (List.mem_cons_of_mem _ htext))
            (Nat.succ.inj hlength) hanswers' hrest]

/-- **Different profiles give different contexts**, so the text that is sent determines every
answer. -/
theorem contextText_inj {profile profile' : List (List Text)} (h : IsProfile profile)
    (h' : IsProfile profile') :
    contextText profile = contextText profile' ↔ profile = profile' := by
  refine ⟨fun heq => ?_, fun heq => heq ▸ rfl⟩
  have hlabels : ((labels.map Prod.snd).all fun text => !text.contains '\n') = true := by decide
  have hlength : profilingQuestions.length = (labels.map Prod.snd).length := rfl
  refine answers_eq_of_lines_eq (fun _ => wellPosed_of_mem) (fun text htext hmem => ?_) hlength
    (h.imp fun _ _ hanswers => hanswers.2.2) (h'.imp fun _ _ hanswers => hanswers.2.2)
    (List.append_cancel_left heq)
  have hline := List.all_eq_true.mp hlabels text htext
  exact absurd hline (by simp [hmem])

end AIManager

namespace ProfilingApp

open AIManager

/-- **A prompt tells the answers**: it says the same of two users just when they gave the same
answers, in the same order, although some answers have the comma that stands between answers. -/
theorem contexts_eq_iff (events events' : List ProfilingEvent) :
    buildProfilingContext (run step fresh events).defaults =
        buildProfilingContext (run step fresh events').defaults ↔
      fresh.completedProfile events = fresh.completedProfile events' := by
  obtain ⟨hcontext, hprofile⟩ := (outcome_run events).context
  obtain ⟨hcontext', hprofile'⟩ := (outcome_run events').context
  rw [hcontext, hcontext']
  cases hcompleted : fresh.completedProfile events with
  | none => cases hcompleted' : fresh.completedProfile events' <;> simp
  | some profile =>
      cases hcompleted' : fresh.completedProfile events' with
      | none => simp
      | some profile' =>
          rw [Option.map_some, Option.map_some, Option.some_inj, Option.some_inj]
          exact contextText_inj (hprofile profile hcompleted) (hprofile' profile' hcompleted')

/-! ### The two apps -/

/-- The page of the Android app with the same page number and the same answers. -/
def toScreen (view : UserProfilingView) : UserProfilingScreen :=
  { currentPage := view.currentPage, answers := view.answers }

/-- The page shows its question as answered exactly if the Swift view does. -/
theorem isAnswered_toScreen {view : UserProfilingView} {question : ProfilingQuestion}
    (hquestion : view.question = some question) :
    (toScreen view).isAnswered = !view.isUnanswered question.id := by
  have hcurrent : (toScreen view).currentQuestion = some question := hquestion
  rw [UserProfilingScreen.isAnswered, hcurrent, UserProfilingView.isUnanswered]
  change (view.answers question.id).any _ = _
  cases view.answers question.id with
  | none => rfl
  | some answers => rfl

/-- The pages of the two apps do the same. -/
theorem step_toScreen (view : UserProfilingView) (event : ProfilingEvent) :
    (toScreen view).step event = toScreen (view.step event) := by
  have hcurrent : (toScreen view).currentQuestion = view.question := rfl
  cases hquestion : view.question with
  | none => simp only [UserProfilingScreen.step, UserProfilingView.step, hcurrent, hquestion]
  | some question =>
      rw [hquestion] at hcurrent
      cases event with
      | selectOption option =>
          simp only [UserProfilingScreen.step, UserProfilingView.step, hcurrent, hquestion]
          rw [UserProfilingView.selectOption_eq]
          split
          · simp only [UserProfilingScreen.onOptionToggle, toScreen, List.contains_iff_mem]
          · rfl
      | back =>
          simp only [UserProfilingScreen.step, UserProfilingView.step, hcurrent, hquestion]
          by_cases hpage : 0 < view.currentPage
          · simp only [toScreen, hpage, if_true]
          · simp only [toScreen, hpage, if_false]
      | next =>
          have hlt : view.currentPage < profilingQuestions.length :=
            (List.getElem?_eq_some_iff.mp hquestion).1
          simp only [UserProfilingScreen.step, UserProfilingView.step, hcurrent, hquestion]
          rw [UserProfilingScreen.onNext, isAnswered_toScreen hquestion,
            UserProfilingView.nextQuestion]
          cases view.isUnanswered question.id with
          | true => rfl
          | false =>
              simp only [Bool.not_false, if_true, Bool.false_eq_true, if_false]
              split
              · rfl
              · next hlast =>
                have hpage : profilingQuestions.length = view.currentPage + 1 := by
                  have hlast' : ¬ view.currentPage < profilingQuestions.length - 1 := hlast
                  omega
                rw [hpage]
                rfl
      | openSurvey | complete | dismiss =>
          simp only [UserProfilingScreen.step, UserProfilingView.step, hcurrent, hquestion]

variable {android : SpendCraft.ProfilingApp} {app : ProfilingApp}

/-- The dashboards and the pages of the two apps are the same. -/
def SameDisplay (android : SpendCraft.ProfilingApp) (app : ProfilingApp) : Prop :=
  android.showsCard = app.showsCard ∧ android.screen = app.view.map toScreen

/-- The Android survey is on its last page exactly if the Swift view is. -/
theorem any_currentQuestion_isNone (h : android.screen = app.view.map toScreen) :
    (android.screen.any fun screen => screen.currentQuestion.isNone) =
      app.completedView.isSome := by
  rw [h, completedView]
  cases app.view with
  | none => rfl
  | some view =>
      change (view.question).isNone = _
      cases hquestion : view.question <;> simp [Option.filter, hquestion]

/-- Until the survey is completed, the apps go on alike. -/
theorem SameDisplay.step (h : SameDisplay android app) (hcard : app.showsCard = true)
    {event : ProfilingEvent} (hevent : app.completing event = none) :
    (android.step event).screen = (app.step event).view.map toScreen := by
  obtain ⟨hcards, hscreen⟩ := h
  cases event with
  | openSurvey =>
      rw [SpendCraft.ProfilingApp.step, ProfilingApp.step, hcards, hcard, hscreen,
        Option.isNone_map]
      split
      · rfl
      · exact hscreen
  | complete =>
      have hincomplete : app.completedView = none := by
        rw [completing, if_pos rfl] at hevent
        exact Option.map_eq_none_iff.mp hevent
      rw [SpendCraft.ProfilingApp.step, ProfilingApp.step, any_currentQuestion_isNone hscreen,
        hincomplete]
      exact hscreen
  | dismiss => rfl
  | selectOption _ | back | next =>
      change android.screen.map _ = Option.map toScreen (app.view.map _)
      rw [hscreen, Option.map_map, Option.map_map]
      congr 1
      funext view
      exact step_toScreen view _

/-- **The apps part when the survey is completed**: after the same taps they show the same just
as long as no survey was completed. Then the iOS app takes the card away and keeps the answers; the
Android app drops them and goes on to offer the survey. -/
theorem same_display_iff (events : List ProfilingEvent) :
    SameDisplay (run SpendCraft.ProfilingApp.step SpendCraft.ProfilingApp.fresh events)
        (run step fresh events) ↔ fresh.completedProfile events = none := by
  constructor
  · rintro ⟨hcards, -⟩
    have houtcome := outcome_run events
    generalize fresh.completedProfile events = profile at houtcome
    cases houtcome with
    | surveying _ _ => rfl
    | completed _ _ hcompleted _ =>
        rw [SpendCraft.ProfilingApp.showsCard_run, showsCard, hcompleted] at hcards
        exact absurd hcards (by decide)
  · intro hnone
    induction events using List.reverseRecOn with
    | nil => exact ⟨rfl, rfl⟩
    | append_singleton events event ih =>
        have houtcome := outcome_run (events ++ [event])
        rw [hnone] at houtcome
        rw [completedProfile_append_singleton, Option.or_eq_none_iff] at hnone
        have hbefore := ih hnone.1
        have houtcome' := outcome_run events
        rw [hnone.1] at houtcome'
        cases houtcome with
        | surveying hdefaults _ =>
            cases houtcome' with
            | surveying hdefaults' _ =>
                refine ⟨?_, ?_⟩
                · rw [SpendCraft.ProfilingApp.showsCard_run, showsCard, hdefaults]
                  rfl
                · rw [run_append, run_append]
                  refine hbefore.step ?_ hnone.2
                  rw [showsCard, hdefaults']
                  rfl

end ProfilingApp

end SpendCraft.Ios
