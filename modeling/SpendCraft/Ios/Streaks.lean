import SpendCraft.BestStreak
import SpendCraft.Lib.Machine

/-!
# The Streak of the iOS App

The iOS app does not keep the days on which something was entered. It keeps two counters and
the last day in `UserDefaults`, and copies of the counters in the view model, which the
dashboard loads whenever it appears. The same calls are made here on the table of days of the
Android app, so that the two streaks can be compared.

A date is given by its day.

## Conventions

Both apps are in the hands of one user: an event that marks the day marks it on both, and both
clocks change their day together. The days are integers and may only go forward. The iOS counters
are the keys of `UserDefaults`, where a missing date is one in the distant past, and the view
model has copies of them that it loads. The Android streak is the one of `BestStreak`.

## Proof

The invariant is `Tracks`: the current counter is the length of the block of logged days that ends
at the last one, the best counter that of the longest block, and the copies in the view model are
the counters. An update on the next day makes the block longer, and after a gap a new one begins.
The counters are therefore the Android streak exactly while the last logged day is today or
yesterday (`Unbroken`), and a load shows them.

## Main results

* `tracks_step`: the counters against the days on which they were updated.
* `showsStreak_iff`: when the loaded counters are the streak of the Android app.
-/

namespace SpendCraft.Ios

open Machine

/-- The keys of the streak in `UserDefaults`; a missing counter reads as `0`. -/
structure StreakDefaults where
  currentStreak : ℕ
  longestStreak : ℕ
  lastStreakDate : Option ℤ
  deriving DecidableEq, Repr

/-- The view model with the two numbers it shows, and the streak in `UserDefaults`. -/
structure AchievementsViewModel where
  userDefaults : StreakDefaults
  currentStreak : ℕ
  longestStreak : ℕ
  deriving DecidableEq, Repr

namespace AchievementsViewModel

/-- The view model of an app that was started with these defaults. -/
def init (userDefaults : StreakDefaults) : AchievementsViewModel :=
  { userDefaults := userDefaults
    currentStreak := 0
    longestStreak := 0 }

/-- `loadStreak`: the numbers of `UserDefaults` are shown. -/
def loadStreak (viewModel : AchievementsViewModel) : AchievementsViewModel :=
  { viewModel with
    currentStreak := viewModel.userDefaults.currentStreak
    longestStreak := viewModel.userDefaults.longestStreak }

/-- A missing date is `Date.distantPast`, which is neither today nor yesterday. -/
def updateStreak (today : ℤ) (viewModel : AchievementsViewModel) : AchievementsViewModel :=
  let lastDate := viewModel.userDefaults.lastStreakDate
  if lastDate = some today then viewModel
  else
    let currentStreak := if lastDate = some (today - 1) then viewModel.currentStreak + 1 else 1
    let exceeds := currentStreak > viewModel.longestStreak
    { userDefaults :=
        { currentStreak := currentStreak
          longestStreak :=
            if exceeds then currentStreak else viewModel.userDefaults.longestStreak
          lastStreakDate := some today }
      currentStreak := currentStreak
      longestStreak := if exceeds then currentStreak else viewModel.longestStreak }

/-- What the dashboard shows. -/
def streak (viewModel : AchievementsViewModel) : Streak :=
  { current := viewModel.currentStreak
    best := viewModel.longestStreak }

end AchievementsViewModel

end SpendCraft.Ios

namespace SpendCraft.StreakRepositoryImpl

/-- `markTodayLogged`: one entry for a day at most. -/
def markTodayLogged (todayEpochDay : ℤ) (entries : List DailyEntryEntity) :
    List DailyEntryEntity :=
  if entries.any fun entry => entry.dateEpochDay == todayEpochDay then entries
  else entries ++ [{ dateEpochDay := todayEpochDay }]

end SpendCraft.StreakRepositoryImpl

namespace SpendCraft.Ios

open Machine

/-- The two apps in the hands of one user. -/
structure StreakApps where
  today : ℤ
  viewModel : AchievementsViewModel
  entries : List DailyEntryEntity
  deriving DecidableEq, Repr

/-- What happens to the streak: days pass, the app starts, and its screens call the view model. -/
inductive StreakEvent
  | nextDay
  | launch
  | reloadAllData
  | updateStreak
  deriving DecidableEq, Repr

namespace StreakApps

/-- Both apps just after their installation. -/
def installed (today : ℤ) : StreakApps :=
  { today := today
    viewModel := .init { currentStreak := 0, longestStreak := 0, lastStreakDate := none }
    entries := [] }

/-- The dashboard is the first screen of a launched app, and loads the streak. -/
def step (apps : StreakApps) : StreakEvent → StreakApps
  | .nextDay => { apps with today := apps.today + 1 }
  | .launch =>
      { apps with
        viewModel := (AchievementsViewModel.init apps.viewModel.userDefaults).loadStreak }
  | .reloadAllData => { apps with viewModel := apps.viewModel.loadStreak }
  | .updateStreak =>
      { apps with
        viewModel := apps.viewModel.updateStreak apps.today
        entries := StreakRepositoryImpl.markTodayLogged apps.today apps.entries }

/-- The streak of the Android app at the start of the day. -/
def streak (apps : StreakApps) : Streak :=
  StreakRepositoryImpl.calculateStreak (apps.today * 86400000) apps.entries

/-- The days that Android has logged. -/
def loggedDays (apps : StreakApps) : List ℤ :=
  apps.entries.map DailyEntryEntity.dateEpochDay

/-- No day has passed since the last logged day, except that today may be missing. -/
def Unbroken (apps : StreakApps) : Prop :=
  apps.loggedDays = [] ∨ apps.today ∈ apps.loggedDays ∨ apps.today - 1 ∈ apps.loggedDays

/-- Whether the streak is unbroken is read off the state. -/
instance (apps : StreakApps) : Decidable apps.Unbroken :=
  inferInstanceAs (Decidable (_ ∨ _ ∨ _))

end StreakApps

namespace StreakEvent

/-- The event ends with `loadStreak`. -/
def Loads : StreakEvent → Prop
  | launch | reloadAllData => True
  | nextDay | updateStreak => False

end StreakEvent

/-- After every `loadStreak` of the run, the app shows the streak of the Android app. -/
def ShowsStreak (apps : StreakApps) (events : List StreakEvent) : Prop :=
  ∀ pre event, pre ++ [event] <+: events → event.Loads →
    (run StreakApps.step apps (pre ++ [event])).viewModel.streak =
      (run StreakApps.step apps (pre ++ [event])).streak

/-! ### The counters against the days -/

/-- **The invariant.** The counters are those of the block that ends on the last logged day,
and of the longest one; the view model has them loaded. -/
structure Tracks (apps : StreakApps) : Prop where
  distinct : apps.loggedDays.Nodup
  le_today : ∀ day ∈ apps.loggedDays, day ≤ apps.today
  last : match apps.viewModel.userDefaults.lastStreakDate with
    | none => apps.loggedDays = []
    | some last => last ∈ apps.loggedDays ∧ (∀ day ∈ apps.loggedDays, day ≤ last) ∧
        Block apps.loggedDays last apps.viewModel.userDefaults.currentStreak
  none_current : apps.loggedDays = [] → apps.viewModel.userDefaults.currentStreak = 0
  longest : IsGreatest (runLengths apps.loggedDays) apps.viewModel.userDefaults.longestStreak
  loaded : apps.viewModel.loadStreak = apps.viewModel

variable {apps : StreakApps}

/-- After the installation, nothing was logged by either app. -/
theorem tracks_installed (today : ℤ) : Tracks (.installed today) where
  distinct := List.nodup_nil
  le_today _ hday := absurd hday List.not_mem_nil
  last := rfl
  none_current _ := rfl
  longest := ⟨⟨0, endsRun_zero [] 0⟩, fun _ ⟨_, hrun⟩ => length_of_forall_mem hrun⟩
  loaded := rfl

/-- A second update on one day logs nothing. -/
theorem loggedDays_updateStreak_of_mem (h : apps.today ∈ apps.loggedDays) :
    (apps.step .updateStreak).loggedDays = apps.loggedDays := by
  obtain ⟨entry, hentry, heq⟩ := List.mem_map.mp h
  have hany : (apps.entries.any fun entry => entry.dateEpochDay == apps.today) = true :=
    List.any_eq_true.mpr ⟨entry, hentry, beq_iff_eq.mpr heq⟩
  rw [StreakApps.step, StreakApps.loggedDays, StreakRepositoryImpl.markTodayLogged, if_pos hany]
  rfl

/-- The first update of a day logs it. -/
theorem loggedDays_updateStreak_of_not_mem (h : apps.today ∉ apps.loggedDays) :
    (apps.step .updateStreak).loggedDays = apps.loggedDays ++ [apps.today] := by
  have hany : ¬(apps.entries.any fun entry => entry.dateEpochDay == apps.today) = true := by
    intro hany
    obtain ⟨entry, hentry, heq⟩ := List.any_eq_true.mp hany
    exact h (List.mem_map.mpr ⟨entry, hentry, beq_iff_eq.mp heq⟩)
  rw [StreakApps.step, StreakApps.loggedDays, StreakRepositoryImpl.markTodayLogged, if_neg hany,
    List.map_append]
  rfl

/-- Today is logged just when it is the last date. -/
theorem Tracks.lastStreakDate_eq_today_iff (h : Tracks apps) :
    apps.viewModel.userDefaults.lastStreakDate = some apps.today ↔
      apps.today ∈ apps.loggedDays := by
  have hlast := h.last
  cases hdate : apps.viewModel.userDefaults.lastStreakDate with
  | none =>
      rw [hdate] at hlast
      rw [show apps.loggedDays = [] from hlast]
      simp
  | some last =>
      rw [hdate] at hlast
      obtain ⟨hmem, hle, -⟩ := hlast
      rw [Option.some_inj]
      constructor
      · rintro rfl
        exact hmem
      · intro htoday
        exact le_antisymm (h.le_today last hmem) (hle _ htoday)

/-- The counter of a first update of the day counts the block that today ends. -/
theorem Tracks.block_updateStreak (h : Tracks apps) (htoday : apps.today ∉ apps.loggedDays) :
    Block (apps.loggedDays ++ [apps.today]) apps.today
      (if apps.viewModel.userDefaults.lastStreakDate = some (apps.today - 1) then
        apps.viewModel.currentStreak + 1 else 1) := by
  have hlast := h.last
  have hmem : apps.today ∈ apps.loggedDays ++ [apps.today] :=
    List.mem_append_right _ List.mem_cons_self
  split_ifs with hyesterday
  · rw [hyesterday] at hlast
    obtain ⟨-, -, hblock⟩ := hlast
    have hcurrent : apps.viewModel.currentStreak = apps.viewModel.userDefaults.currentStreak := by
      rw [← h.loaded]
      rfl
    rw [hcurrent]
    refine Block.succ hmem ⟨fun i hi => List.mem_append_left _ (hblock.mem i hi), ?_⟩
    rw [List.mem_append, List.mem_singleton, not_or]
    exact ⟨hblock.not_mem, by omega⟩
  · refine Block.succ hmem (Block.zero ?_)
    rw [List.mem_append, List.mem_singleton, not_or]
    refine ⟨fun hday => ?_, by omega⟩
    -- yesterday is logged and today is not, so that yesterday is the last date
    cases hdate : apps.viewModel.userDefaults.lastStreakDate with
    | none =>
        rw [hdate] at hlast
        rw [show apps.loggedDays = [] from hlast] at hday
        exact List.not_mem_nil hday
    | some last =>
        rw [hdate] at hlast hyesterday
        obtain ⟨hlogged, hle, -⟩ := hlast
        have hne : last ≠ apps.today := fun heq => htoday (heq ▸ hlogged)
        have hge := hle _ hday
        have hlt := h.le_today last hlogged
        exact hyesterday (congrArg some (by omega))

/-- The second update of a day changes nothing. -/
theorem Tracks.updateStreak_of_mem (h : Tracks apps) (htoday : apps.today ∈ apps.loggedDays) :
    Tracks (apps.step .updateStreak) := by
  have hsame : apps.viewModel.updateStreak apps.today = apps.viewModel := by
    rw [AchievementsViewModel.updateStreak, if_pos (h.lastStreakDate_eq_today_iff.mpr htoday)]
  have hdays := loggedDays_updateStreak_of_mem htoday
  have hviewModel : (apps.step .updateStreak).viewModel = apps.viewModel := hsame
  constructor
  · rw [hdays]
    exact h.distinct
  · rw [hdays]
    exact h.le_today
  · rw [hdays, hviewModel]
    exact h.last
  · rw [hdays, hviewModel]
    exact h.none_current
  · rw [hdays, hviewModel]
    exact h.longest
  · rw [hviewModel]
    exact h.loaded

/-- The first update of a day adds it to the block that ends there. -/
theorem Tracks.updateStreak_of_not_mem (h : Tracks apps)
    (htoday : apps.today ∉ apps.loggedDays) : Tracks (apps.step .updateStreak) := by
  have hblock := h.block_updateStreak htoday
  have hlater : ∀ day ∈ apps.loggedDays, day < apps.today := by
    intro day hday
    have hne : day ≠ apps.today := fun heq => htoday (heq ▸ hday)
    exact lt_of_le_of_ne (h.le_today day hday) hne
  have hlongest : apps.viewModel.longestStreak = apps.viewModel.userDefaults.longestStreak := by
    rw [← h.loaded]
    rfl
  have hgreatest := isGreatest_append hlater h.longest hblock
  have hdays := loggedDays_updateStreak_of_not_mem htoday
  have hviewModel : (apps.step .updateStreak).viewModel =
      apps.viewModel.updateStreak apps.today := rfl
  rw [AchievementsViewModel.updateStreak, if_neg (mt h.lastStreakDate_eq_today_iff.mp htoday)]
    at hviewModel
  dsimp only at hviewModel
  generalize (if apps.viewModel.userDefaults.lastStreakDate = some (apps.today - 1) then
    apps.viewModel.currentStreak + 1 else 1) = currentStreak at hblock hgreatest hviewModel
  have hmax : (if currentStreak > apps.viewModel.longestStreak then currentStreak
      else apps.viewModel.userDefaults.longestStreak) =
      max apps.viewModel.userDefaults.longestStreak currentStreak := by
    rw [hlongest]
    split_ifs with hexceeds
    · exact (max_eq_right (le_of_lt hexceeds)).symm
    · exact (max_eq_left (not_lt.mp hexceeds)).symm
  constructor
  · rw [hdays, List.nodup_append_comm]
    exact List.nodup_cons.mpr ⟨htoday, h.distinct⟩
  · rw [hdays]
    intro day hday
    obtain hday | hday := List.mem_append.mp hday
    · exact h.le_today day hday
    · exact le_of_eq (List.mem_singleton.mp hday)
  · rw [hdays, hviewModel]
    refine ⟨List.mem_append_right _ List.mem_cons_self, ?_, hblock⟩
    intro day hday
    obtain hday | hday := List.mem_append.mp hday
    · exact le_of_lt (hlater day hday)
    · exact le_of_eq (List.mem_singleton.mp hday)
  · rw [hdays]
    intro hnil
    exact absurd hnil (by simp)
  · rw [hdays, hviewModel]
    dsimp only
    rw [hmax]
    exact hgreatest
  · rw [hviewModel, AchievementsViewModel.loadStreak]
    dsimp only
    rw [hlongest]

/-- **Step lemma:** an update keeps the two streaks in step. -/
theorem Tracks.updateStreak (h : Tracks apps) : Tracks (apps.step .updateStreak) := by
  by_cases htoday : apps.today ∈ apps.loggedDays
  · exact h.updateStreak_of_mem htoday
  · exact h.updateStreak_of_not_mem htoday

/-- **The step.** -/
theorem tracks_step (h : Tracks apps) (event : StreakEvent) : Tracks (apps.step event) := by
  cases event with
  | nextDay =>
      refine ⟨h.distinct, fun day hday => ?_, h.last, h.none_current, h.longest, h.loaded⟩
      have hle := h.le_today day hday
      exact le_of_lt (Int.lt_add_one_of_le hle)
  | launch => exact ⟨h.distinct, h.le_today, h.last, h.none_current, h.longest, rfl⟩
  | reloadAllData => exact ⟨h.distinct, h.le_today, h.last, h.none_current, h.longest, rfl⟩
  | updateStreak => exact h.updateStreak

/-! ### The shown streak -/

/-- The view model shows the stored numbers. -/
theorem Tracks.streak_viewModel (h : Tracks apps) : apps.viewModel.streak =
    { current := apps.viewModel.userDefaults.currentStreak
      best := apps.viewModel.userDefaults.longestStreak } := by
  rw [← h.loaded]
  rfl

/-- What Android computes is the streak of the logged days. -/
theorem Tracks.isStreakOf_streak (h : Tracks apps) :
    StreakRepositoryImpl.IsStreakOf apps.loggedDays apps.today apps.streak := by
  have hstreak :=
    StreakRepositoryImpl.isStreakOf_calculateStreak (apps.today * 86400000) h.distinct
  rwa [epochDayOf_startOfDay] at hstreak

/-- While no day was missed, the block of the last logged day is the current one. -/
theorem Tracks.isStreakOf_viewModel (h : Tracks apps) (hunbroken : apps.Unbroken) :
    StreakRepositoryImpl.IsStreakOf apps.loggedDays apps.today apps.viewModel.streak := by
  have hlast := h.last
  rw [h.streak_viewModel]
  cases hdate : apps.viewModel.userDefaults.lastStreakDate with
  | none =>
      rw [hdate] at hlast
      have hnone : ∀ day, day ∉ apps.loggedDays := by
        rw [show apps.loggedDays = [] from hlast]
        exact fun day => List.not_mem_nil
      have hzero := h.none_current hlast
      refine ⟨fun htoday => absurd htoday (hnone _), fun _ => ?_, fun _ _ => hzero, h.longest, ?_⟩
      · rw [hzero]
        exact (Block.zero (hnone _)).isGreatest
      · rw [hzero]
        exact Nat.zero_le _
  | some last =>
      rw [hdate] at hlast
      obtain ⟨hlogged, hle, hblock⟩ := hlast
      have hlast_le := h.le_today last hlogged
      have hnear : apps.today ∈ apps.loggedDays ∨ apps.today - 1 ∈ apps.loggedDays := by
        refine hunbroken.resolve_left fun hnil => ?_
        rw [hnil] at hlogged
        exact List.not_mem_nil hlogged
      constructor
      · intro htoday
        obtain rfl : last = apps.today := le_antisymm hlast_le (hle _ htoday)
        exact hblock.isGreatest
      · intro htoday
        have hge := hle _ (hnear.resolve_left htoday)
        have hne : last ≠ apps.today := fun heq => htoday (heq ▸ hlogged)
        obtain rfl : last = apps.today - 1 := by omega
        exact hblock.isGreatest
      · intro htoday hyesterday
        obtain hmem | hmem := hnear
        · exact absurd hmem htoday
        · exact absurd hmem hyesterday
      · exact h.longest
      · exact h.longest.2 ⟨last, hblock.mem⟩

/-- **The loaded counters** are the streak of the Android app just when no day was missed
since the last logged one. -/
theorem Tracks.streak_eq_iff (h : Tracks apps) :
    apps.viewModel.streak = apps.streak ↔ apps.Unbroken := by
  constructor
  · intro heq
    by_contra hbroken
    simp only [StreakApps.Unbroken, not_or] at hbroken
    obtain ⟨hsome, htoday, hyesterday⟩ := hbroken
    have hzero : apps.viewModel.userDefaults.currentStreak = 0 := by
      have hnone := h.isStreakOf_streak.current_none htoday hyesterday
      rwa [← heq, h.streak_viewModel] at hnone
    -- a counter that is not counting means that nothing was ever logged
    have hlast := h.last
    cases hdate : apps.viewModel.userDefaults.lastStreakDate with
    | none =>
        rw [hdate] at hlast
        exact hsome hlast
    | some last =>
        rw [hdate] at hlast
        obtain ⟨hlogged, -, hblock⟩ := hlast
        rw [hzero] at hblock
        apply hblock.not_mem
        simpa using hlogged
  · intro hunbroken
    exact (h.isStreakOf_viewModel hunbroken).unique h.isStreakOf_streak

/-- **The iOS app shows the streak of the Android app** after every load of a run, just when
no load comes after a missed day. -/
theorem showsStreak_iff (today : ℤ) (events : List StreakEvent) :
    ShowsStreak (.installed today) events ↔
      AllSteps StreakApps.step (fun apps event => event.Loads → apps.Unbroken)
        (.installed today) events := by
  have htracks : ∀ pre, Tracks (run StreakApps.step (.installed today) pre) :=
    run_invariant_of_step (I := Tracks) (fun _ event h => tracks_step h event)
      (tracks_installed today)
  have hload : ∀ pre event, StreakEvent.Loads event →
      ((run StreakApps.step (.installed today) (pre ++ [event])).viewModel.streak =
          (run StreakApps.step (.installed today) (pre ++ [event])).streak ↔
        (run StreakApps.step (.installed today) pre).Unbroken) := by
    intro pre event hloads
    rw [(htracks _).streak_eq_iff, run_append, run_cons, run_nil]
    cases event with
    | launch => exact Iff.rfl
    | reloadAllData => exact Iff.rfl
    | nextDay => exact hloads.elim
    | updateStreak => exact hloads.elim
  rw [allSteps_iff]
  constructor
  · rintro h pre event post rfl hloads
    exact (hload pre event hloads).mp (h pre event ⟨post, by simp⟩ hloads)
  · rintro h pre event ⟨post, rfl⟩ hloads
    refine (hload pre event hloads).mpr (h pre event post ?_ hloads)
    rw [List.append_assoc]
    rfl

/-- One logged day and two days without an entry: the app still shows a streak of one day. -/
theorem not_showsStreak_two_days_later :
    ¬ShowsStreak (.installed 10) [.launch, .updateStreak, .nextDay, .nextDay, .launch] := by
  intro h
  have hshown := h [.launch, .updateStreak, .nextDay, .nextDay] .launch (List.prefix_refl _) trivial
  have hzero : ((run StreakApps.step (.installed 10)
      [.launch, .updateStreak, .nextDay, .nextDay, .launch]).streak).current = 0 := by
    rw [StreakApps.streak, StreakRepositoryImpl.current_calculateStreak, epochDayOf_startOfDay]
    decide
  rw [List.cons_append, List.cons_append, List.cons_append, List.cons_append, List.nil_append]
    at hshown
  rw [← hshown] at hzero
  exact absurd hzero (by decide)

end SpendCraft.Ios
