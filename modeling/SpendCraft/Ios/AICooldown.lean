import SpendCraft.Lib.Machine
import Mathlib.Algebra.Order.Ring.Rat
import Mathlib.Data.List.Nodup
import Mathlib.Logic.Function.Basic

/-!
# The Cooldown of the AI Suggestions

`AISuggestionsView` counts a day down from the stored `lastSuggestionTime`, with a timer that
ticks every second until it is invalidated. A timer is started when the screen appears and
again by `generateAdvice`; the screen has room for one timer and forgets the one before. A tick
after the end of the cooldown sends a notification and stops the timer of the screen.

A screen that is presented anew may have a state of its own, so that timers and their places
are kept for each presentation. Elapsed times are differences of doubles: a parameter.

## Conventions

A timer is a number of its own and the presentation whose state its closure works on: the closure
of a struct keeps the place of that state, also when another presentation is shown. Only live
timers tick, at any time, and only the shown screen has a button or disappears. The stored time is
one for all presentations, while the variable for the timer is one for each. The elapsed time is a
function of two times, since the source subtracts doubles.

## Proof

`Running` is what is behind the three parts of `Quiet`: a live timer is the one that the shown
screen knows, so it is stopped with the screen. Whatever starts a second timer while one is live
breaks it, and this can be told before the event (`Allowed`), as can a tick that notifies twice.
The exact condition over the runs is the rule of `Machine` for an invariant behind a property.

## Main results

* `Running.step`: what allowed events keep.
* `quiet_iff`: when there is one timer at most, none behind the screen, and one notification
  for each cooldown.
* `not_quiet_generate_reopened`: a second timer, and a second notification.
-/

namespace SpendCraft.Ios

open Machine

/-- A repeating timer, and the presentation of the screen whose state its closure works on. -/
structure CooldownTimer where
  number : ℕ
  presentation : ℕ
  deriving DecidableEq, Repr

/-- The state of the presentations of `AISuggestionsView`. -/
structure SuggestionsScreen where
  lastSuggestionTime : ℚ
  remainingTime : ℕ → ℚ
  timer : ℕ → Option CooldownTimer
  /-- The presentation that is shown. -/
  shown : Option ℕ
  /-- The timers that were scheduled and not invalidated. -/
  live : List CooldownTimer
  scheduled : ℕ
  /-- `lastSuggestionTime` at each notification. -/
  notified : List ℚ

/-- What happens to the cool-down. A timer is named by the presentation of the screen that started
it. -/
inductive CooldownEvent
  | appear (presentation : ℕ) (now : ℚ)
  | disappear
  | generateAdvice (typeSelected : Bool) (now : ℚ)
  | tick (timer : CooldownTimer) (now : ℚ)

namespace SuggestionsScreen

/-- No screen was shown yet. -/
def start (lastSuggestionTime : ℚ) : SuggestionsScreen :=
  { lastSuggestionTime := lastSuggestionTime
    remainingTime := fun _ => 0
    timer := fun _ => none
    shown := none
    live := []
    scheduled := 0
    notified := [] }

variable (elapsed : ℚ → ℚ → ℚ)

/-- `now - lastSuggestionTime >= 86400` -/
def canUseAI (now : ℚ) (screen : SuggestionsScreen) : Prop :=
  86400 ≤ elapsed now screen.lastSuggestionTime

/-- Whether the cool-down is over is a comparison of times. -/
instance (now : ℚ) (screen : SuggestionsScreen) : Decidable (screen.canUseAI elapsed now) :=
  inferInstanceAs (Decidable (86400 ≤ elapsed now screen.lastSuggestionTime))

/-- `updateRemainingTime` of a presentation. -/
def updateRemainingTime (presentation : ℕ) (now : ℚ) (screen : SuggestionsScreen) :
    SuggestionsScreen :=
  { screen with
    remainingTime := Function.update screen.remainingTime presentation
      (max 0 (86400 - elapsed now screen.lastSuggestionTime)) }

/-- `startTimer`: a timer that the presentation had before runs on. -/
def startTimer (presentation : ℕ) (screen : SuggestionsScreen) : SuggestionsScreen :=
  let timer := { number := screen.scheduled, presentation := presentation }
  { screen with
    timer := Function.update screen.timer presentation (some timer)
    live := timer :: screen.live
    scheduled := screen.scheduled + 1 }

/-- `stopTimer`: the timer that the presentation knows is invalidated. -/
def stopTimer (presentation : ℕ) (screen : SuggestionsScreen) : SuggestionsScreen :=
  { screen with
    timer := Function.update screen.timer presentation none
    live := screen.live.filter fun timer => screen.timer presentation != some timer }

/-- `sendAIAvailableNotification`, with the time of the suggestion that it is about. -/
def sendAIAvailableNotification (screen : SuggestionsScreen) : SuggestionsScreen :=
  { screen with notified := screen.lastSuggestionTime :: screen.notified }

/-- The closure of the timer. -/
def onTick (presentation : ℕ) (now : ℚ) (screen : SuggestionsScreen) : SuggestionsScreen :=
  let updated := screen.updateRemainingTime elapsed presentation now
  if updated.remainingTime presentation ≤ 0 ∧ 0 < updated.lastSuggestionTime then
    updated.sendAIAvailableNotification.stopTimer presentation
  else updated

/-- The request to the service changes nothing here. -/
def generateAdvice (typeSelected : Bool) (presentation : ℕ) (now : ℚ)
    (screen : SuggestionsScreen) : SuggestionsScreen :=
  if typeSelected = true ∧ screen.canUseAI elapsed now then
    startTimer presentation (updateRemainingTime elapsed presentation now
      { screen with lastSuggestionTime := now })
  else screen

/-- Only the shown screen disappears and has a button, and only live timers tick. -/
def step (screen : SuggestionsScreen) : CooldownEvent → SuggestionsScreen
  | .appear presentation now =>
      startTimer presentation
        ({ screen with shown := some presentation }.updateRemainingTime elapsed presentation now)
  | .disappear =>
      match screen.shown with
      | some presentation => { screen with shown := none }.stopTimer presentation
      | none => screen
  | .generateAdvice typeSelected now =>
      match screen.shown with
      | some presentation => screen.generateAdvice elapsed typeSelected presentation now
      | none => screen
  | .tick timer now =>
      if timer ∈ screen.live then screen.onTick elapsed timer.presentation now else screen

/-- At most one timer is live, none without the screen, and no cooldown was notified twice. -/
structure Quiet (screen : SuggestionsScreen) : Prop where
  one : screen.live.length ≤ 1
  none_hidden : screen.shown = none → screen.live = []
  notified_once : screen.notified.Nodup

/-- A timer is only started when none is live, and a tick does not notify of a cooldown that
was notified. -/
def Allowed (screen : SuggestionsScreen) : CooldownEvent → Prop
  | .appear _ _ => screen.live = []
  | .disappear => True
  | .generateAdvice typeSelected now =>
      screen.shown.isSome ∧ typeSelected = true ∧ screen.canUseAI elapsed now → screen.live = []
  | .tick timer now => timer ∈ screen.live → screen.canUseAI elapsed now →
      0 < screen.lastSuggestionTime → screen.lastSuggestionTime ∉ screen.notified

/-- What is behind it: the live timer is the one of the shown screen. -/
structure Running (screen : SuggestionsScreen) : Prop extends Quiet screen where
  own : ∀ timer ∈ screen.live, screen.shown = some timer.presentation ∧
    screen.timer timer.presentation = some timer

variable {elapsed} {screen : SuggestionsScreen}

/-! ### One event -/

/-- **A timer is started** where none is live. -/
theorem Running.startTimer (h : Running screen) (hlive : screen.live = []) {presentation : ℕ}
    (hshown : screen.shown = some presentation) : Running (screen.startTimer presentation) where
  one := by simp [SuggestionsScreen.startTimer, hlive]
  none_hidden hnone := by
    have hnone' : screen.shown = none := hnone
    rw [hshown] at hnone'
    cases hnone'
  notified_once := h.notified_once
  own := by
    intro timer htimer
    simp only [SuggestionsScreen.startTimer, hlive, List.mem_singleton] at htimer
    subst htimer
    exact ⟨hshown, Function.update_self ..⟩

/-- The live timer is the one that the shown screen stops. -/
theorem Running.live_stopTimer (h : Running screen) {presentation : ℕ}
    (hshown : screen.shown = some presentation) : (screen.stopTimer presentation).live = [] := by
  rw [stopTimer, List.filter_eq_nil_iff]
  intro timer htimer
  obtain ⟨hpresentation, hslot⟩ := h.own timer htimer
  rw [hshown, Option.some_inj] at hpresentation
  simp [hpresentation, hslot]

/-- The remaining time is over when the suggestions can be used. -/
theorem remainingTime_le_zero_iff (presentation : ℕ) (now : ℚ) :
    (screen.updateRemainingTime elapsed presentation now).remainingTime presentation ≤ 0 ↔
      screen.canUseAI elapsed now := by
  simp only [updateRemainingTime, canUseAI, Function.update_self, max_le_iff, sub_nonpos, le_refl,
    true_and]

/-- A tick, by whether the cool-down is over. -/
theorem onTick_eq (presentation : ℕ) (now : ℚ) :
    screen.onTick elapsed presentation now =
      if screen.canUseAI elapsed now ∧ 0 < screen.lastSuggestionTime then
        (screen.updateRemainingTime elapsed presentation now).sendAIAvailableNotification.stopTimer
          presentation
      else screen.updateRemainingTime elapsed presentation now := by
  rw [onTick]
  simp only [remainingTime_le_zero_iff]
  rfl

/-- Only the remaining time is not covered. -/
theorem Running.updateRemainingTime (h : Running screen) (presentation : ℕ) (now : ℚ) :
    Running (screen.updateRemainingTime elapsed presentation now) :=
  ⟨⟨h.one, h.none_hidden, h.notified_once⟩, h.own⟩

/-- A tick keeps the timers in order, if it does not send the notification a second time. -/
theorem Running.onTick (h : Running screen) {presentation : ℕ} {now : ℚ}
    (hshown : screen.shown = some presentation)
    (hallowed : screen.canUseAI elapsed now → 0 < screen.lastSuggestionTime →
      screen.lastSuggestionTime ∉ screen.notified) :
    Running (screen.onTick elapsed presentation now) := by
  rw [onTick_eq]
  split_ifs with hexpired
  · have hlive : ((screen.updateRemainingTime elapsed presentation now).sendAIAvailableNotification
        |>.stopTimer presentation).live = [] := h.live_stopTimer hshown
    refine ⟨⟨by simp [hlive], fun _ => hlive, ?_⟩, by simp [hlive]⟩
    exact List.nodup_cons.mpr ⟨hallowed hexpired.1 hexpired.2, h.notified_once⟩
  · exact h.updateRemainingTime presentation now

/-- **The step.** What allowed events keep. -/
theorem Running.step (h : Running screen) (event : CooldownEvent)
    (hallowed : screen.Allowed elapsed event) : Running (screen.step elapsed event) := by
  cases event with
  | appear presentation now =>
      have hlive : screen.live = [] := hallowed
      have hnew : Running { screen with shown := some presentation } :=
        ⟨⟨h.one, by simp, h.notified_once⟩, by simp [hlive]⟩
      exact (hnew.updateRemainingTime presentation now).startTimer hlive rfl
  | disappear =>
      rw [SuggestionsScreen.step]
      split
      next presentation hshown =>
        have hlive : (stopTimer presentation { screen with shown := none }).live = [] :=
          h.live_stopTimer hshown
        exact ⟨⟨by simp [hlive], fun _ => hlive, h.notified_once⟩, by simp [hlive]⟩
      next => exact h
  | generateAdvice typeSelected now =>
      rw [SuggestionsScreen.step]
      split
      next presentation hshown =>
        rw [generateAdvice]
        split_ifs with hgenerates
        · have hlive : screen.live = [] := hallowed ⟨by rw [hshown]; rfl, hgenerates⟩
          have hnew : Running { screen with lastSuggestionTime := now } :=
            ⟨⟨h.one, h.none_hidden, h.notified_once⟩, h.own⟩
          exact (hnew.updateRemainingTime presentation now).startTimer hlive hshown
        · exact h
      next => exact h
  | tick timer now =>
      rw [SuggestionsScreen.step]
      split_ifs with hlive
      · exact h.onTick (h.own timer hlive).1 (hallowed hlive)
      · exact h

/-- An event after which the screen is quiet was allowed. -/
theorem allowed_of_quiet (event : CooldownEvent) (h : Quiet (screen.step elapsed event)) :
    screen.Allowed elapsed event := by
  cases event with
  | appear presentation now =>
      have hone := h.one
      simpa [SuggestionsScreen.step, SuggestionsScreen.startTimer,
        SuggestionsScreen.updateRemainingTime, Allowed] using hone
  | disappear => trivial
  | generateAdvice typeSelected now =>
      rintro ⟨hshown, hgenerates⟩
      obtain ⟨presentation, hsome⟩ := Option.isSome_iff_exists.mp hshown
      have hone := h.one
      rw [SuggestionsScreen.step, hsome] at hone
      simpa [generateAdvice, hgenerates, SuggestionsScreen.startTimer,
        SuggestionsScreen.updateRemainingTime] using hone
  | tick timer now =>
      intro hlive hexpired hstored
      have hnodup := h.notified_once
      rw [SuggestionsScreen.step, if_pos hlive, onTick_eq, if_pos ⟨hexpired, hstored⟩] at hnodup
      exact (List.nodup_cons.mp hnodup).1

/-! ### Runs -/

/-- A step after which nothing was sent twice was allowed. -/
theorem allowed_of_quiet_run (events : List CooldownEvent) (event : CooldownEvent)
    (h : Quiet (run (step elapsed) screen (events ++ [event]))) :
    (run (step elapsed) screen events).Allowed elapsed event := by
  rw [run_append] at h
  exact allowed_of_quiet event h

/-- **One timer, none behind the screen, one notification for each cooldown**, in every state
of a run, just when timers are started while none is live, and no tick comes after the end of
a cooldown of which was notified. -/
theorem quiet_iff (elapsed : ℚ → ℚ → ℚ) (lastSuggestionTime : ℚ) (events : List CooldownEvent) :
    (∀ pre, pre <+: events → Quiet (run (step elapsed) (start lastSuggestionTime) pre)) ↔
      AllSteps (step elapsed) (Allowed elapsed) (start lastSuggestionTime) events := by
  apply forall_prefix_view_iff_allSteps (I := Running)
  · exact fun screen h => h.toQuiet
  · exact fun screen event h hallowed => h.step event hallowed
  · exact fun screen event _ hquiet => allowed_of_quiet event hquiet
  · exact ⟨⟨by simp [start], fun _ => rfl, List.nodup_nil⟩, by simp [start]⟩

/-- The first advice of a fresh installation starts a second timer; and a screen that is
reopened after a cooldown sends its notification again. -/
theorem not_quiet_generate_reopened :
    ¬ Quiet (run (step fun now last => now - last) (start 0)
        [.appear 0 1700000000, .generateAdvice true 1700000010]) ∧
      ¬ Quiet (run (step fun now last => now - last) (start 1700000000)
        [.appear 0 1700086400, .tick ⟨0, 0⟩ 1700086401, .disappear, .appear 1 1700090000,
          .tick ⟨1, 1⟩ 1700090001]) := by
  constructor
  · intro h
    have hlive := allowed_of_quiet_run [.appear 0 1700000000] (.generateAdvice true 1700000010) h
      ⟨rfl, rfl, by decide +kernel⟩
    cases hlive
  · intro h
    have hnew := allowed_of_quiet_run [.appear 0 1700086400, .tick ⟨0, 0⟩ 1700086401, .disappear,
      .appear 1 1700090000] (.tick ⟨1, 1⟩ 1700090001) h (by decide +kernel)
      (by decide +kernel) (by decide +kernel)
    exact hnew (by decide +kernel)

end SuggestionsScreen

end SpendCraft.Ios
