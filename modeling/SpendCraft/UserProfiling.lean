import SpendCraft.Lib.KotlinText
import SpendCraft.Lib.Machine
import Mathlib.Logic.Function.Basic

/-!
# The Profiling Survey of the Android App

The dashboard shows a card that opens a survey of seven questions, one a page, with any number of
answers each. A page is left for the next one when it has an answer. The page behind the last one
completes the survey: its answers are dropped, and a preference is set. The card is shown by
another preference.

## Conventions

The survey is the list of questions with the options chosen so far and the number of the page. An
event that the page does not offer changes nothing, so any list of events is a run. The
preferences are a function from keys to flags. Dismissing the survey drops it, with everything
that was chosen; there is no other way to leave it than this and the page behind the last one.

## Proof

Nothing writes the preference that the card is shown by, which is an invariant of every step
(`prefs_step`). So the result holds of all runs, whatever is chosen, completed, or dismissed. The
same survey with its answers is on the other platform, where they are stored: `Ios.UserProfiling`
compares the two.

## Main results

* `ProfilingApp.showsCard_run`: the card is shown after every run.
-/

namespace SpendCraft

open Kotlin Machine

/-- A question of the survey with its options. What is chosen may be several of them. -/
structure ProfilingQuestion where
  id : Text
  options : List Text
  deriving DecidableEq, Repr

/-- The questions of the survey. -/
def profilingQuestions : List ProfilingQuestion :=
  [⟨"income_frequency".toList,
      ["Haftalık".toList, "2 Haftada bir".toList, "Aylık".toList, "Düzensiz".toList]⟩,
    ⟨"spending_habit".toList,
      ["Planlı harcıyorum".toList, "Anlık kararlar alırım".toList, "Karışık".toList,
        "İhtiyaç olunca harcıyorum".toList]⟩,
    ⟨"savings_goal".toList,
      ["Evet, belirli bir hedefim var".toList, "Bazen tasarruf yaparım".toList,
        "Hayır, henüz başlamadım".toList, "Tasarruf yapmakta zorlanıyorum".toList]⟩,
    ⟨"biggest_expense".toList,
      ["Yemek & Market".toList, "Kira & Faturalar".toList, "Eğlence & Sosyal".toList,
        "Ulaşım".toList]⟩,
    ⟨"budget_management".toList,
      ["Çok iyi".toList, "İyi".toList, "Orta".toList, "Geliştirilmeli".toList]⟩,
    ⟨"financial_goal".toList,
      ["Borç ödemek".toList, "Tasarruf yapmak".toList, "Yatırım yapmak".toList,
        "Gelir-gider dengesini sağlamak".toList]⟩,
    ⟨"debt_status".toList,
      ["Borcum yok".toList, "Az borcum var".toList, "Orta seviye borcum var".toList,
        "Yüksek borcum var".toList]⟩]

/-- What the user does about the survey, on either platform. -/
inductive ProfilingEvent
  | openSurvey
  | selectOption (option : Text)
  | back
  | next
  | complete
  | dismiss
  deriving DecidableEq, Repr

/-- The state of the survey: the page it is on, and the options chosen for each question. -/
structure UserProfilingScreen where
  currentPage : ℕ
  answers : Text → Option (List Text)

namespace UserProfilingScreen

/-- The survey as it opens. -/
def initial : UserProfilingScreen :=
  { currentPage := 0, answers := fun _ => none }

/-- The question on the current page. -/
def currentQuestion (screen : UserProfilingScreen) : Option ProfilingQuestion :=
  profilingQuestions[screen.currentPage]?

/-- The current question has an answer. -/
def isAnswered (screen : UserProfilingScreen) : Bool :=
  match screen.currentQuestion with
  | some question => (screen.answers question.id).any fun answers => !answers.isEmpty
  | none => false

/-- `onOptionToggle`: a chosen option is taken back, another one is added at the end. -/
def onOptionToggle (question : ProfilingQuestion) (option : Text) (screen : UserProfilingScreen) :
    UserProfilingScreen :=
  let currentAnswers := (screen.answers question.id).getD []
  { screen with
    answers := Function.update screen.answers question.id (some
      (if currentAnswers.contains option then currentAnswers.erase option
       else currentAnswers ++ [option])) }

/-- `onNext`: the page is left only once its question is answered. -/
def onNext (screen : UserProfilingScreen) : UserProfilingScreen :=
  if screen.isAnswered then
    if screen.currentPage < profilingQuestions.length - 1 then
      { screen with currentPage := screen.currentPage + 1 }
    else { screen with currentPage := profilingQuestions.length }
  else screen

/-- The controls of a page. What the page does not show cannot be tapped. -/
def step (screen : UserProfilingScreen) (event : ProfilingEvent) : UserProfilingScreen :=
  match screen.currentQuestion, event with
  | some question, .selectOption option =>
      if question.options.contains option then screen.onOptionToggle question option else screen
  | some _, .back =>
      if 0 < screen.currentPage then { screen with currentPage := screen.currentPage - 1 }
      else screen
  | some _, .next => screen.onNext
  | _, _ => screen

end UserProfilingScreen

/-- The flags among the preferences `app_prefs`, and the survey where it is open. -/
structure ProfilingApp where
  prefs : Text → Option Bool
  screen : Option UserProfilingScreen

namespace ProfilingApp

/-- The app after its installation. -/
def fresh : ProfilingApp :=
  { prefs := fun _ => none, screen := none }

/-- The dashboard shows the card of the survey. -/
def showsCard (app : ProfilingApp) : Bool :=
  !(app.prefs "profilingCompleted".toList).getD false

/-- `onComplete` of the last page. -/
def onComplete (app : ProfilingApp) : ProfilingApp :=
  { prefs := Function.update app.prefs "userProfilingCompleted".toList (some true), screen := none }

/-- One event. The survey opens from the card only, and completes on its last page only. -/
def step (app : ProfilingApp) : ProfilingEvent → ProfilingApp
  | .openSurvey =>
      if app.screen.isNone && app.showsCard then { app with screen := some .initial } else app
  | .complete =>
      if app.screen.any fun screen => screen.currentQuestion.isNone then app.onComplete else app
  | .dismiss => { app with screen := none }
  | event => { app with screen := app.screen.map fun screen => screen.step event }

/-- No event writes the flag of the card into the preferences. -/
theorem prefs_step (app : ProfilingApp) (event : ProfilingEvent) :
    (app.step event).prefs "profilingCompleted".toList =
      app.prefs "profilingCompleted".toList := by
  have hne : "profilingCompleted".toList ≠ "userProfilingCompleted".toList := by decide
  cases event with
  | openSurvey =>
      rw [step]
      split <;> rfl
  | complete =>
      rw [step]
      split
      · exact Function.update_of_ne hne (some true) app.prefs
      · rfl
  | selectOption _ | back | next | dismiss => rfl

/-- **The card stays**, however often the survey is completed. -/
theorem showsCard_run (events : List ProfilingEvent) :
    (run step fresh events).showsCard = true := by
  have hprefs : (run step fresh events).prefs "profilingCompleted".toList = none :=
    run_invariant_of_step (I := fun app => app.prefs "profilingCompleted".toList = none)
      (fun app event h => (prefs_step app event).trans h) rfl events
  rw [showsCard, hprefs]
  rfl

end ProfilingApp

end SpendCraft
