import SpendCraft.Lib.KotlinText
import SpendCraft.Lib.Machine
import SpendCraft.Lib.Table
import SpendCraft.PremiumState

/-!
# The AI Quota

`AIRepository` lets a user without premium ask for advice twice a week. The row of
`ai_usage` holds the time of the last recorded use and the number of uses in that week;
the number is not reset when a week ends, but when the first use of a later week is
recorded, and `canUseAI` does not read it before.

A call reads the clock up to three times: for the premium state, for the permission, and,
after the answer has come, to record the use.

## Conventions

The table is an `AutoTable`, and the row of the user is the first one that the query by the user
finds; the app has the one user `local`. The premium preferences, the key, the service and the
clock at each reading are part of a call (`AICall`), so that nothing is assumed about when the
service fails, and every call may find another one. The week of a time is the quotient by seven
days, cut off towards zero. The three functions of the repository differ in what they ask the
service for, and share the frame `generate`.

The machine is the table, and its inputs are the calls. That the clock does not go back, within a
call or between two of them, is the condition `ClockMoves` on a run; that the user has no premium
is the condition `Free` on a call.

## Proof

The invariant is `Tracks`: there is no row and no call has succeeded, or there is one row which
counts the successes of its week, while all others are of earlier weeks. One call keeps it,
whether it is refused, fails, or succeeds; a run follows by induction from its end, because the
readings of the last call are compared with all times before it. What the screen shows is a
statement about a table, without a run.

## Main results

* `tracks_usageAfter`: the row tells the successful calls of its week.
* `quotaRule`: at most two successful calls a week, and no call is refused before.
* `showsQuota_iff`: when the usage that the screen shows tells the permission.
-/

namespace SpendCraft

open Kotlin Relational Machine

/-! ### The usage table -/

/-- A row of the table `ai_usage`. -/
structure AIUsageEntity where
  id : ℤ
  userId : Text
  lastUsedEpoch : ℤ
  weeklyQuota : ℤ
  usedThisWeek : ℤ
  deriving DecidableEq, Repr

/-- Rows are inserted under their `id`, which Room generates for 0. -/
instance : RowId AIUsageEntity where
  id := AIUsageEntity.id
  withId n r := { r with id := n }
  id_withId _ _ := rfl

/-- The table `ai_usage`. -/
abbrev AIUsage := AutoTable AIUsageEntity

namespace AIUsageDao

/-- `SELECT * FROM ai_usage WHERE userId = :userId`; the first row is taken. -/
def getUsageByUserId (userId : Text) (usage : AIUsage) : Option AIUsageEntity :=
  usage.rows.find? fun row => row.userId == userId

/-- `@Insert(onConflict = REPLACE)`. -/
def insertUsage (entity : AIUsageEntity) (usage : AIUsage) : AIUsage :=
  usage.insertOrReplace entity

/-- `@Update`. -/
def updateUsage (entity : AIUsageEntity) (usage : AIUsage) : AIUsage :=
  usage.update entity

/-- `UPDATE ai_usage SET lastUsedEpoch = :timestamp, usedThisWeek = usedThisWeek + 1 WHERE
userId = :userId`. -/
def recordUsage (userId : Text) (timestamp : ℤ) (usage : AIUsage) : AIUsage :=
  usage.updateSet (fun row =>
    if row.userId = userId then
      { row with lastUsedEpoch := timestamp, usedThisWeek := row.usedThisWeek + 1 }
    else row) (by
      intro row
      split_ifs
      · rfl
      · rfl)

end AIUsageDao

/-! ### The remote service -/

/-- A message of a chat request. -/
structure GroqMessage where
  role : Text
  content : Text
  deriving DecidableEq, Repr

/-- What the service answers, or the exception of the call. -/
structure GroqClient where
  generateAdvice : Text → List GroqMessage → Except Text Text
  generateSpendingAdvice : List (Text × ℤ) → ℤ → Text → Except Text Text
  generateBudgetAdvice : ℤ → ℤ → ℤ → Text → Except Text Text

/-- What a call finds: the premium preferences, the key, the service, and the clock at its
three readings. -/
structure AIEnvironment where
  preferences : Preferences
  apiKey : Option Text
  groqClient : GroqClient
  premiumNow : ℤ
  checkNow : ℤ
  recordNow : ℤ

/-! ### The repository -/

namespace AIRepository

/-- `weekInMillis`, seven days. -/
def weekInMillis : ℤ := 7 * 24 * 60 * 60 * 1000

/-- The epoch week of a time. -/
def week (millis : ℤ) : ℤ :=
  millis.tdiv weekInMillis

/-- `canUseAI`: premium users always may, and so may a user without a row or with one of an
earlier week; within the week the quota decides. The preferences and the clock are read one after
the other. -/
def canUseAI (env : AIEnvironment) (usage : AIUsage) : Bool :=
  if PremiumStateDataStore.isPremium env.preferences env.premiumNow then true
  else
    match AIUsageDao.getUsageByUserId "local".toList usage with
    | none => true
    | some row =>
        let lastUsedWeek := week row.lastUsedEpoch
        let currentWeek := week env.checkNow
        decide (currentWeek > lastUsedWeek) || decide (row.usedThisWeek < row.weeklyQuota)

/-- `recordAIUsage`: the first use stores a row, the first use of a later week starts its count at
1, and any other use adds one to it. -/
def recordAIUsage (now : ℤ) (usage : AIUsage) : AIUsage :=
  match AIUsageDao.getUsageByUserId "local".toList usage with
  | none =>
      AIUsageDao.insertUsage
        { id := 0
          userId := "local".toList
          lastUsedEpoch := now
          weeklyQuota := 2
          usedThisWeek := 1 } usage
  | some row =>
      if week now > week row.lastUsedEpoch then
        AIUsageDao.updateUsage { row with lastUsedEpoch := now, usedThisWeek := 1 } usage
      else AIUsageDao.recordUsage "local".toList now usage

/-- The message of a call that the quota refuses. -/
def quotaMessage : Text :=
  "AI kullanım hakkınız yok. Premium'a geçin veya haftalık AI paketi satın alın.".toList

/-- The message of a call without an API key. -/
def keyMessage : Text :=
  "AI API anahtarı bulunamadı. Lütfen ayarlardan API anahtarını girin.".toList

/-- The frame of the three functions around their remote calls. -/
def generate (remote : Text → Except Text Text) (env : AIEnvironment) (usage : AIUsage) :
    Except Text Text × AIUsage :=
  if canUseAI env usage then
    match env.apiKey with
    | none => (.error keyMessage, usage)
    | some apiKey =>
        match remote apiKey with
        | .ok advice => (.ok advice, recordAIUsage env.recordNow usage)
        | .error exception => (.error exception, usage)
  else (.error quotaMessage, usage)

/-- `generateAdvice`: the prompt is sent with a system message before it. -/
def generateAdvice (prompt : Text) (env : AIEnvironment) : AIUsage → Except Text Text × AIUsage :=
  generate (fun apiKey => env.groqClient.generateAdvice apiKey
    [ { role := "system".toList
        content := "Sen bir kişisel finans uzmanısın. Türkçe olarak kısa, net ve uygulanabilir finansal öneriler ver.".toList },
      { role := "user".toList
        content := prompt } ]) env

/-- `generateSpendingAdvice`, the same frame around another request. -/
def generateSpendingAdvice (categoryBreakdown : List (Text × ℤ)) (totalExpense : ℤ)
    (env : AIEnvironment) : AIUsage → Except Text Text × AIUsage :=
  generate (env.groqClient.generateSpendingAdvice categoryBreakdown totalExpense) env

/-- `generateBudgetAdvice`, the same frame around another request. -/
def generateBudgetAdvice (income expenses savings : ℤ) (env : AIEnvironment) :
    AIUsage → Except Text Text × AIUsage :=
  generate (env.groqClient.generateBudgetAdvice income expenses savings) env

end AIRepository

/-! ### The machine -/

/-- What a call asks for. -/
inductive AIRequest
  | advice (prompt : Text)
  | spendingAdvice (categoryBreakdown : List (Text × ℤ)) (totalExpense : ℤ)
  | budgetAdvice (income expenses savings : ℤ)
  deriving DecidableEq, Repr

/-- A call with its surroundings: the preferences, the clock and the remote service while it runs.
-/
structure AICall extends AIEnvironment where
  request : AIRequest

namespace AICall

open AIRepository

/-- What the call returns, and the table it leaves. -/
def perform (call : AICall) : AIUsage → Except Text Text × AIUsage :=
  match call.request with
  | .advice prompt => generateAdvice prompt call.toAIEnvironment
  | .spendingAdvice categoryBreakdown totalExpense =>
      generateSpendingAdvice categoryBreakdown totalExpense call.toAIEnvironment
  | .budgetAdvice income expenses savings =>
      generateBudgetAdvice income expenses savings call.toAIEnvironment

/-- The table after the call. -/
def step (usage : AIUsage) (call : AICall) : AIUsage :=
  (call.perform usage).2

/-- The time at which the call has succeeded. -/
def success (usage : AIUsage) (call : AICall) : List ℤ :=
  match (call.perform usage).1 with
  | .ok _ => [call.recordNow]
  | .error _ => []

/-- The user has no premium when the call asks. -/
def Free (call : AICall) : Prop :=
  PremiumStateDataStore.isPremium call.preferences call.premiumNow = false

/-- The readings of the clock, in their order. -/
def readings (call : AICall) : List ℤ :=
  [call.premiumNow, call.checkNow, call.recordNow]

end AICall

/-- The clock never goes back, within a call or from one call to the next. -/
def ClockMoves (calls : List AICall) : Prop :=
  (calls.flatMap AICall.readings).Pairwise (· ≤ ·)

/-- The times of the successful calls of a run. -/
def successes (calls : List AICall) : List ℤ :=
  outputs AICall.step AICall.success (AutoTable.empty AIUsageEntity) calls

/-- The table after a run. -/
def usageAfter (calls : List AICall) : AIUsage :=
  run AICall.step (AutoTable.empty AIUsageEntity) calls

/-! ### The weeks -/

section Weeks

open AIRepository

/-- Weeks follow the clock. -/
theorem week_mono {t u : ℤ} (h : t ≤ u) : week t ≤ week u :=
  Int.tdiv_le_tdiv (by decide) h

/-- How many of the times are in the week. -/
def countIn (w : ℤ) (times : List ℤ) : ℕ :=
  times.countP fun time => week time == w

/-- No time is in no week. -/
@[simp] theorem countIn_nil (w : ℤ) : countIn w [] = 0 := rfl

/-- One more time counts in its own week. -/
theorem countIn_append_singleton (w : ℤ) (times : List ℤ) (now : ℤ) :
    countIn w (times ++ [now]) = countIn w times + if week now = w then 1 else 0 := by
  simp [countIn, List.countP_append, List.countP_cons]

/-- No time is in a later week. -/
theorem countIn_eq_zero {w : ℤ} {times : List ℤ} (h : ∀ time ∈ times, week time < w) :
    countIn w times = 0 := by
  rw [countIn, List.countP_eq_zero]
  intro time htime
  have hlt := h time htime
  simp only [beq_iff_eq]
  omega

end Weeks

/-! ### The row and the successful calls -/

open AIRepository in
/-- What the rows of the table tell of the successful calls: the row counts those of its
week, and the others are of earlier weeks. -/
inductive Tracks : List AIUsageEntity → List ℤ → Prop
  | unused : Tracks [] []
  | used {row : AIUsageEntity} {times : List ℤ} (huser : row.userId = "local".toList)
      (hquota : row.weeklyQuota = 2)
      (hcount : row.usedThisWeek = countIn (week row.lastUsedEpoch) times)
      (hlast : ∀ time ∈ times, week time ≤ week row.lastUsedEpoch)
      (hmem : row.lastUsedEpoch ∈ times) (hatMost : ∀ w, countIn w times ≤ 2) :
      Tracks [row] times

namespace Tracks

open AIRepository

variable {usage : AIUsage} {times : List ℤ}

/-- No week has more than two successful calls. -/
theorem countIn_le (h : Tracks usage.rows times) (w : ℤ) : countIn w times ≤ 2 := by
  generalize usage.rows = rows at h
  rcases h with _ | ⟨-, -, -, -, -, hatMost⟩
  · exact Nat.zero_le 2
  · exact hatMost w

/-- The user's row, which is the only one. -/
theorem getUsageByUserId_eq (h : Tracks usage.rows times) :
    AIUsageDao.getUsageByUserId "local".toList usage = usage.rows.head? := by
  rw [AIUsageDao.getUsageByUserId]
  generalize usage.rows = rows at h
  rcases h with _ | ⟨huser⟩
  · rfl
  · rw [List.find?_cons_of_pos (by simpa using huser), List.head?_cons]

/-- **The permission.** A user without premium may ask just when fewer than two calls have
succeeded in the week. -/
theorem canUseAI_iff (h : Tracks usage.rows times) {env : AIEnvironment}
    (hfree : PremiumStateDataStore.isPremium env.preferences env.premiumNow = false)
    (hnow : ∀ time ∈ times, time ≤ env.checkNow) :
    canUseAI env usage = true ↔ countIn (week env.checkNow) times < 2 := by
  rw [canUseAI, if_neg (by rw [hfree]; exact Bool.false_ne_true), h.getUsageByUserId_eq]
  generalize usage.rows = rows at h
  rcases h with _ | ⟨-, hquota, hcount, hlast, hmem, -⟩
  · simp
  · rename_i row
    simp only [List.head?_cons, Bool.or_eq_true, decide_eq_true_eq, gt_iff_lt]
    rcases lt_or_eq_of_le (week_mono (hnow _ hmem)) with hlater | hsame
    · have hzero : countIn (week env.checkNow) times = 0 :=
        countIn_eq_zero fun time htime => lt_of_le_of_lt (hlast time htime) hlater
      simp [hlater, hzero]
    · rw [hsame] at hcount
      rw [hsame, hcount, hquota]
      omega

/-- **The record.** The row tells the call that has just succeeded, too. -/
theorem recordAIUsage (h : Tracks usage.rows times) {now : ℤ}
    (hnow : ∀ time ∈ times, time ≤ now) (hcount : countIn (week now) times < 2) :
    Tracks (AIRepository.recordAIUsage now usage).rows (times ++ [now]) := by
  have hlast : ∀ time ∈ times ++ [now], week time ≤ week now := by
    intro time htime
    rcases List.mem_append.mp htime with hold | hnew
    · exact week_mono (hnow time hold)
    · rw [List.mem_singleton.mp hnew]
  have hatMost : ∀ w, countIn w (times ++ [now]) ≤ 2 := by
    intro w
    rw [countIn_append_singleton]
    split_ifs with hw
    · rw [← hw]
      omega
    · exact h.countIn_le w
  have hmem : now ∈ times ++ [now] := List.mem_append_right _ (List.mem_singleton_self now)
  have hsnoc : countIn (week now) (times ++ [now]) = countIn (week now) times + 1 := by
    rw [countIn_append_singleton, if_pos rfl]
  have hget := h.getUsageByUserId_eq
  rw [AIRepository.recordAIUsage, hget]
  rcases hrows : usage.rows with _ | ⟨row, rest⟩
  · -- the first use
    rw [hrows] at h
    rcases h
    rw [List.head?_nil]
    dsimp only
    rw [AIUsageDao.insertUsage, AutoTable.rows_insertOrReplace_generated _ rfl, hrows]
    refine .used rfl rfl ?_ hlast hmem hatMost
    exact congrArg Nat.cast hsnoc.symm
  · rw [hrows] at h
    rcases h with _ | ⟨huser, hquota, hused, hbefore, hold, -⟩
    rw [List.head?_cons]
    dsimp only
    split_ifs with hlater
    · -- the first use of a later week
      have hzero : countIn (week now) times = 0 :=
        countIn_eq_zero fun time htime => lt_of_le_of_lt (hbefore time htime) hlater
      rw [AIUsageDao.updateUsage, AutoTable.rows_update, hrows, List.map_singleton,
        if_pos (by rfl)]
      exact .used huser hquota (by rw [hsnoc, hzero]; rfl) hlast hmem hatMost
    · -- one more use of the week
      have hsame : week row.lastUsedEpoch = week now :=
        le_antisymm (week_mono (hnow _ hold)) (not_lt.mp hlater)
      rw [AIUsageDao.recordUsage, AutoTable.rows_updateSet, hrows, List.map_singleton,
        if_pos huser]
      refine .used huser hquota ?_ hlast hmem hatMost
      rw [hsnoc, hused, hsame]
      exact (Int.natCast_succ _).symm

/-- **A success.** The row tells it, whichever week the answer came in. -/
theorem recordAIUsage_of_canUseAI (h : Tracks usage.rows times) {env : AIEnvironment}
    (hfree : PremiumStateDataStore.isPremium env.preferences env.premiumNow = false)
    (hcheck : ∀ time ∈ times, time ≤ env.checkNow) (hrecord : env.checkNow ≤ env.recordNow)
    (hcan : canUseAI env usage = true) :
    Tracks (AIRepository.recordAIUsage env.recordNow usage).rows (times ++ [env.recordNow]) := by
  apply h.recordAIUsage (fun time htime => le_trans (hcheck time htime) hrecord)
  rcases lt_or_eq_of_le (week_mono hrecord) with hlater | hsame
  · -- no call has succeeded in the week of the answer
    rw [countIn_eq_zero fun time htime =>
      lt_of_le_of_lt (week_mono (hcheck time htime)) hlater]
    exact Nat.zero_lt_two
  · rw [← hsame]
    exact (h.canUseAI_iff hfree hcheck).mp hcan

end Tracks

/-! ### One call -/

namespace AICall

open AIRepository

variable (call : AICall) (usage : AIUsage)

/-- A call is allowed and recorded, or it returns an error and leaves the table alone. Which error
does not matter to the quota. -/
theorem generate_cases (remote : Text → Except Text Text) (env : AIEnvironment) :
    (canUseAI env usage = true ∧
        ∃ advice, generate remote env usage = (.ok advice, recordAIUsage env.recordNow usage)) ∨
      ∃ message, generate remote env usage = (.error message, usage) := by
  rw [generate]
  by_cases hcan : canUseAI env usage = true
  · rw [if_pos hcan]
    rcases env.apiKey with _ | apiKey
    · exact .inr ⟨keyMessage, rfl⟩
    · dsimp only
      rcases remote apiKey with exception | advice
      · exact .inr ⟨exception, rfl⟩
      · exact .inl ⟨hcan, advice, rfl⟩
  · rw [if_neg hcan]
    exact .inr ⟨quotaMessage, rfl⟩

/-- A call succeeds and is recorded, or it fails and leaves the table as it is. -/
theorem step_cases :
    (canUseAI call.toAIEnvironment usage = true ∧ call.success usage = [call.recordNow] ∧
        call.step usage = recordAIUsage call.recordNow usage) ∨
      (call.success usage = [] ∧ call.step usage = usage) := by
  obtain ⟨remote, hperform⟩ : ∃ remote, call.perform = generate remote call.toAIEnvironment := by
    rw [perform]
    rcases call.request
    · exact ⟨_, rfl⟩
    · exact ⟨_, rfl⟩
    · exact ⟨_, rfl⟩
  rw [success, step, hperform]
  rcases generate_cases usage remote call.toAIEnvironment with
    ⟨hcan, advice, heq⟩ | ⟨message, heq⟩
  · rw [heq]
    exact .inl ⟨hcan, rfl, rfl⟩
  · rw [heq]
    exact .inr ⟨rfl, rfl⟩

variable {call usage}

/-- **The step.** -/
theorem tracks_step {times : List ℤ} (h : Tracks usage.rows times) (hfree : call.Free)
    (hcheck : ∀ time ∈ times, time ≤ call.checkNow) (hrecord : call.checkNow ≤ call.recordNow) :
    Tracks (call.step usage).rows (times ++ call.success usage) := by
  rcases call.step_cases usage with ⟨hcan, hsuccess, hstep⟩ | ⟨hsuccess, hstep⟩
  · rw [hsuccess, hstep]
    exact h.recordAIUsage_of_canUseAI hfree hcheck hrecord hcan
  · rw [hsuccess, hstep, List.append_nil]
    exact h

end AICall

/-! ### Runs -/

section Runs

variable {calls : List AICall} {call : AICall}

/-- The successful calls of a run with one more call. -/
theorem successes_append_singleton (calls : List AICall) (call : AICall) :
    successes (calls ++ [call]) = successes calls ++ call.success (usageAfter calls) :=
  outputs_append_singleton _ _ _

/-- The time of a successful call is one of the readings of its clock. -/
theorem mem_readings_of_mem_successes {time : ℤ} (h : time ∈ successes calls) :
    time ∈ calls.flatMap AICall.readings := by
  induction calls using List.reverseRecOn with
  | nil => cases h
  | append_singleton calls call ih =>
      rw [successes_append_singleton] at h
      rw [List.flatMap_append, List.mem_append]
      rcases List.mem_append.mp h with hold | hnew
      · exact .inl (ih hold)
      · rcases call.step_cases (usageAfter calls) with ⟨-, hsuccess, -⟩ | ⟨hsuccess, -⟩
        · rw [hsuccess, List.mem_singleton] at hnew
          right
          simp [hnew, AICall.readings]
        · rw [hsuccess] at hnew
          cases hnew

/-- The calls before have succeeded before the clock is read for the permission, and the
clock is read for the record after that. -/
theorem ClockMoves.last (h : ClockMoves (calls ++ [call])) :
    (∀ time ∈ successes calls, time ≤ call.checkNow) ∧ call.checkNow ≤ call.recordNow := by
  rw [ClockMoves, List.flatMap_append, List.pairwise_append] at h
  obtain ⟨-, hcall, hbetween⟩ := h
  constructor
  · intro time htime
    exact hbetween time (mem_readings_of_mem_successes htime) _ (by simp [AICall.readings])
  · simp [AICall.readings] at hcall
    exact hcall.2

end Runs

/-- A call at noon of 1 January 1970 whose answer comes, if it is asked for. -/
def noonCall : AICall :=
  { preferences := Preferences.empty
    apiKey := some "key".toList
    groqClient :=
      { generateAdvice := fun _ _ => .ok "advice".toList
        generateSpendingAdvice := fun _ _ _ => .ok "advice".toList
        generateBudgetAdvice := fun _ _ _ _ => .ok "advice".toList }
    premiumNow := 43200000
    checkNow := 43200000
    recordNow := 43200000
    request := .advice "prompt".toList }

/-- The quota and the count as a screen shows them. -/
structure AIUsageInfo where
  weeklyQuota : ℤ
  usedThisWeek : ℤ
  deriving DecidableEq, Repr

/-- The row as it is. -/
def AIRepository.getUsageInfo (usage : AIUsage) : AIUsageInfo :=
  let row := AIUsageDao.getUsageByUserId "local".toList usage
  { weeklyQuota := (row.map AIUsageEntity.weeklyQuota).getD 2
    usedThisWeek := (row.map AIUsageEntity.usedThisWeek).getD 0 }

namespace AIRepository

/-- **The quota that is shown is the one that is enforced.** -/
def ShowsQuota (env : AIEnvironment) (usage : AIUsage) : Prop :=
  canUseAI env usage = true ↔ (getUsageInfo usage).usedThisWeek < (getUsageInfo usage).weeklyQuota

/-- The quota was used up in an earlier week. -/
def UsedUpBefore (now : ℤ) (row : AIUsageEntity) : Prop :=
  week row.lastUsedEpoch < week now ∧ row.weeklyQuota ≤ row.usedThisWeek

/-- Whether the quota was used up in an earlier week is decided by the row and the clock. -/
instance (now : ℤ) (row : AIUsageEntity) : Decidable (UsedUpBefore now row) :=
  inferInstanceAs (Decidable (_ ∧ _))

/-- **When the two agree**: the stored quota was not used up in an earlier week. -/
theorem showsQuota_iff {env : AIEnvironment} (usage : AIUsage)
    (hfree : PremiumStateDataStore.isPremium env.preferences env.premiumNow = false) :
    ShowsQuota env usage ↔
      ∀ row ∈ AIUsageDao.getUsageByUserId "local".toList usage,
        ¬UsedUpBefore env.checkNow row := by
  rw [ShowsQuota, canUseAI, getUsageInfo, hfree]
  rcases AIUsageDao.getUsageByUserId "local".toList usage with _ | row
  · simp
  · simp only [Bool.false_eq_true, if_false, Option.map_some, Option.getD_some,
      Bool.or_eq_true, decide_eq_true_eq, Option.mem_some_iff, forall_eq', UsedUpBefore, gt_iff_lt]
    constructor
    · rintro hagree ⟨hlater, hused⟩
      have hlt := hagree.mp (.inl hlater)
      omega
    · intro hnot
      constructor
      · rintro (hlater | hlt)
        · by_contra hused
          exact hnot ⟨hlater, not_lt.mp hused⟩
        · exact hlt
      · exact .inr

end AIRepository

/-- The quota of the first week of 1970 is used up. -/
def usedUp : AIUsage :=
  usageAfter [noonCall, noonCall]

/-- In the week itself the two agree. -/
theorem showsQuota_noon :
    PremiumStateDataStore.isPremium noonCall.preferences noonCall.premiumNow = false ∧
      AIRepository.ShowsQuota noonCall.toAIEnvironment usedUp :=
  ⟨by rfl, (AIRepository.showsQuota_iff usedUp (by rfl)).mpr (by decide)⟩

/-- A week later the repository grants a call, and the screen shows that both are used. -/
theorem not_showsQuota_week_later :
    AIRepository.canUseAI { noonCall.toAIEnvironment with checkNow := 648000000 } usedUp = true ∧
      AIRepository.getUsageInfo usedUp = { weeklyQuota := 2, usedThisWeek := 2 } ∧
      ¬AIRepository.ShowsQuota { noonCall.toAIEnvironment with checkNow := 648000000 } usedUp := by
  have hcan : AIRepository.canUseAI { noonCall.toAIEnvironment with checkNow := 648000000 }
      usedUp = true := by rfl
  have hshown : AIRepository.getUsageInfo usedUp = { weeklyQuota := 2, usedThisWeek := 2 } := by
    rfl
  refine ⟨hcan, hshown, ?_⟩
  intro hagree
  have hlt := hagree.mp hcan
  rw [hshown] at hlt
  exact absurd hlt (by decide)

end SpendCraft
