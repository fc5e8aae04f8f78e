import SpendCraft.Lib.Machine
import Mathlib.Data.List.Nodup
import Mathlib.Data.List.Perm.Basic

/-!
# Interstitial Ads

`AdMobInterstitialManager` keeps one loaded ad. `showInterstitialAd` presents it, or tries again
two seconds later while the activity is not usable, and calls `onAdClosed` when the flow behind
the ad may go on. The rest comes from the SDK: how loads end and what becomes of presented ads.

The calls, the loads and the ads are numbered: load `n` is of ad `n`. An `AdRecord` is what an
observer of the calls sees; it is shared with the manager of the other platform.

## Conventions

The SDK has no state of its own: its callbacks are events that may come in any order, restricted
to loads that are in flight and to ads that were presented, each callback once for an ad
(`Expects`). The two seconds before another try are over by an event as well. A retry keeps its
number of tries; its activity is there, and is busy or usable when the retry comes.

`closed` has an entry for each time that `onAdClosed` is called, so that a call which is closed
twice can be told from one that is closed once.

## Proof

`AdRecord.Tidy` is behind the protocol: every call has at most one place, closed or waiting or
with an ad, every ad is presented once, and no ad is over. The functions that change the record
keep it. On Android the step that breaks the protocol is to present an ad at all, since
`onAdClosed` comes right after it; so the exact condition on a run is that no call finds an ad
together with an activity to present it on, and in such a run nothing is ever presented
(`Unpresented`). That one load is in flight at a time needs no condition, by the invariant
`OneLoad` about `isLoading`.

## Main results

* `AdRecord.Tidy.orderly`: what is behind the protocol.
* `AdMobInterstitialManager.length_inFlight_le`: one load at a time, in every run.
* `AdMobInterstitialManager.orderly_iff_allSteps`: the runs that keep the protocol.
-/

namespace SpendCraft

open Machine

/-- What there is to present an ad on: nothing, something busy or gone, or a usable one. -/
inductive Presenter
  | missing | busy | free
  deriving DecidableEq, Repr

/-- What the SDK tells of a presented ad. -/
inductive FullScreenCallback
  | presented | failedToPresent | dismissed
  deriving DecidableEq, Repr

/-- A call of `showInterstitialAd` that is tried again. -/
structure Retry where
  call : ℕ
  retryCount : ℕ
  deriving DecidableEq, Repr

/-- An ad on the screen, with the call that presented it. -/
structure Presentation where
  call : ℕ
  ad : ℕ
  deriving DecidableEq, Repr

/-- `val maxRetries = 3` -/
def maxRetries : ℕ := 3

/-- What became of the calls of `showInterstitialAd`. -/
structure AdRecord where
  calls : ℕ
  waiting : List Retry
  presented : List Presentation
  heard : List (FullScreenCallback × ℕ)
  /-- The calls whose `onAdClosed` was called, once for each time. -/
  closed : List ℕ
  deriving DecidableEq, Repr

namespace AdRecord

/-- No call was made yet. -/
def start : AdRecord :=
  { calls := 0, waiting := [], presented := [], heard := [], closed := [] }

/-- `onAdClosed` of a call. The list keeps every time it is called. -/
def onAdClosed (call : ℕ) (record : AdRecord) : AdRecord :=
  { record with closed := call :: record.closed }

/-- The call waits for its next try. -/
def tryAgain (retry : Retry) (record : AdRecord) : AdRecord :=
  { record with waiting := retry :: record.waiting }

/-- The ad is presented for the call. -/
def present (call ad : ℕ) (record : AdRecord) : AdRecord :=
  { record with presented := { call := call, ad := ad } :: record.presented }

/-- A new call takes the next number. -/
def newCall (record : AdRecord) : AdRecord :=
  { record with calls := record.calls + 1 }

/-- The two seconds of a retry are over. -/
def resume (retry : Retry) (record : AdRecord) : AdRecord :=
  { record with waiting := record.waiting.erase retry }

/-- A callback of the SDK about an ad. -/
def hear (callback : FullScreenCallback) (ad : ℕ) (record : AdRecord) : AdRecord :=
  { record with heard := (callback, ad) :: record.heard }

/-- Each callback comes at most once for an ad, and only for ads that were presented. -/
def Expects (callback : FullScreenCallback) (ad : ℕ) (record : AdRecord) : Prop :=
  ad ∈ record.presented.map Presentation.ad ∧ (callback, ad) ∉ record.heard

/-- Whether a callback may come is decided by the record. -/
instance (callback : FullScreenCallback) (ad : ℕ) (record : AdRecord) :
    Decidable (record.Expects callback ad) :=
  inferInstanceAs (Decidable (_ ∧ _))

/-- The ad was dismissed, or failed to present. -/
def Over (ad : ℕ) (record : AdRecord) : Prop :=
  (.dismissed, ad) ∈ record.heard ∨ (.failedToPresent, ad) ∈ record.heard

/-- The protocol: no call is closed twice, no ad is presented twice, and a call for which an ad
was presented is closed just when that ad is over. -/
structure Orderly (record : AdRecord) : Prop where
  closed_once : record.closed.Nodup
  presented_once : (record.presented.map Presentation.ad).Nodup
  closed_iff_over : ∀ presentation ∈ record.presented,
    presentation.call ∈ record.closed ↔ record.Over presentation.ad

/-! ### Invariant -/

/-- The calls that are closed, are tried again or were left to an ad. -/
def settled (record : AdRecord) : List ℕ :=
  record.closed ++ record.waiting.map Retry.call ++ record.presented.map Presentation.call

/-- The call is neither closed nor tried again nor left to an ad. -/
def Idle (call : ℕ) (record : AdRecord) : Prop :=
  call < record.calls ∧ call ∉ record.settled

/-- Every call has one place, every ad is presented once, and no ad is over. -/
structure Tidy (record : AdRecord) : Prop where
  settled_once : record.settled.Nodup
  settled_lt : ∀ call ∈ record.settled, call < record.calls
  presented_once : (record.presented.map Presentation.ad).Nodup
  not_over : ∀ ad, ¬ record.Over ad

/-- Nothing was done yet, so nothing is out of order. -/
theorem tidy_start : start.Tidy :=
  { settled_once := List.nodup_nil
    settled_lt := by simp [settled, start]
    presented_once := List.nodup_nil
    not_over := by simp [Over, start] }

variable {record : AdRecord} {call ad : ℕ} {retry : Retry}

/-- A tidy record is orderly: no ad is over, and no call with an ad on the screen is closed. -/
theorem Tidy.orderly (h : record.Tidy) : record.Orderly := by
  have hsettled := h.settled_once
  rw [settled, List.nodup_append, List.nodup_append] at hsettled
  obtain ⟨⟨hclosed, -, -⟩, -, hdisjoint⟩ := hsettled
  refine ⟨hclosed, h.presented_once, ?_⟩
  intro presentation hmem
  refine iff_of_false ?_ (h.not_over presentation.ad)
  intro hcall
  exact hdisjoint _ (List.mem_append_left _ hcall) _ (List.mem_map_of_mem hmem) rfl

/-- A closed call is settled. -/
theorem settled_onAdClosed : (record.onAdClosed call).settled.Perm (call :: record.settled) :=
  List.Perm.refl _

/-- A call that waits is settled. -/
theorem settled_tryAgain :
    (record.tryAgain retry).settled.Perm (retry.call :: record.settled) := by
  simp only [settled, tryAgain, List.map_cons, List.append_assoc, List.cons_append]
  exact List.perm_middle

/-- A call with an ad on the screen is settled. -/
theorem settled_present : (record.present call ad).settled.Perm (call :: record.settled) :=
  List.perm_middle

/-- A call that is tried again is settled no longer. -/
theorem settled_resume (h : retry ∈ record.waiting) :
    record.settled.Perm (retry.call :: (record.resume retry).settled) := by
  have hwaiting : record.waiting.Perm (retry :: record.waiting.erase retry) :=
    List.perm_cons_erase h
  have hcalls := hwaiting.map Retry.call
  rw [List.map_cons] at hcalls
  simp only [settled, resume, List.append_assoc]
  exact ((hcalls.append_right _).append_left _).trans List.perm_middle

/-- Giving an idle call its place keeps the places. -/
theorem Tidy.settled_cons {record' : AdRecord} (h : record.Tidy) (hidle : record.Idle call)
    (hsettled : record'.settled.Perm (call :: record.settled))
    (hcalls : record'.calls = record.calls) :
    record'.settled.Nodup ∧ ∀ c ∈ record'.settled, c < record'.calls := by
  obtain ⟨hlt, hnot⟩ := hidle
  refine ⟨hsettled.nodup_iff.mpr (List.nodup_cons.mpr ⟨hnot, h.settled_once⟩), ?_⟩
  intro c hc
  rw [hcalls]
  obtain rfl | hmem := List.mem_cons.mp (hsettled.mem_iff.mp hc)
  · exact hlt
  · exact h.settled_lt c hmem

/-- An idle call may be closed. -/
theorem Tidy.onAdClosed (h : record.Tidy) (hidle : record.Idle call) :
    (record.onAdClosed call).Tidy := by
  obtain ⟨honce, hlt⟩ := h.settled_cons hidle settled_onAdClosed rfl
  exact ⟨honce, hlt, h.presented_once, h.not_over⟩

/-- An idle call may wait. -/
theorem Tidy.tryAgain (h : record.Tidy) (hidle : record.Idle retry.call) :
    (record.tryAgain retry).Tidy := by
  obtain ⟨honce, hlt⟩ := h.settled_cons hidle settled_tryAgain rfl
  exact ⟨honce, hlt, h.presented_once, h.not_over⟩

/-- An idle call may present an ad that was not presented before. -/
theorem Tidy.present (h : record.Tidy) (hidle : record.Idle call)
    (had : ad ∉ record.presented.map Presentation.ad) : (record.present call ad).Tidy := by
  obtain ⟨honce, hlt⟩ := h.settled_cons hidle settled_present rfl
  exact ⟨honce, hlt, List.nodup_cons.mpr ⟨had, h.presented_once⟩, h.not_over⟩

/-- The next call is idle, as its number is new. -/
theorem Tidy.newCall (h : record.Tidy) :
    record.newCall.Tidy ∧ record.newCall.Idle record.calls := by
  refine ⟨⟨h.settled_once, ?_, h.presented_once, h.not_over⟩, Nat.lt_succ_self _, ?_⟩
  · intro c hc
    exact Nat.lt_succ_of_lt (h.settled_lt c hc)
  · intro hc
    exact Nat.lt_irrefl _ (h.settled_lt _ hc)

/-- A call that waited is idle again when its time is over. -/
theorem Tidy.resume (h : record.Tidy) (hretry : retry ∈ record.waiting) :
    (record.resume retry).Tidy ∧ (record.resume retry).Idle retry.call := by
  have hperm := settled_resume hretry
  have hnodup := hperm.nodup_iff.mp h.settled_once
  obtain ⟨hnot, honce⟩ := List.nodup_cons.mp hnodup
  have hlt : ∀ c ∈ retry.call :: (record.resume retry).settled, c < record.calls := by
    intro c hc
    exact h.settled_lt c (hperm.mem_iff.mpr hc)
  refine ⟨⟨honce, ?_, h.presented_once, h.not_over⟩, hlt _ List.mem_cons_self, hnot⟩
  intro c hc
  exact hlt c (List.mem_cons_of_mem _ hc)

/-- That an ad is presented says nothing about its end. -/
theorem Tidy.hear_presented (h : record.Tidy) : (record.hear .presented ad).Tidy := by
  refine ⟨h.settled_once, h.settled_lt, h.presented_once, ?_⟩
  intro other
  simpa [Over, hear] using h.not_over other

/-- A call that is closed with the presentation of its ad is closed too early. -/
theorem Tidy.not_orderly_onAdClosed_present (h : record.Tidy) :
    ¬ ((record.present call ad).onAdClosed call).Orderly := by
  intro hord
  have hover := (hord.closed_iff_over { call := call, ad := ad } List.mem_cons_self).mp
    List.mem_cons_self
  exact h.not_over ad hover

/-- The end of an ad whose call stays open. -/
theorem Tidy.not_orderly_hear (h : record.Tidy) {callback : FullScreenCallback}
    (hcallback : callback ≠ .presented) (had : ad ∈ record.presented.map Presentation.ad) :
    ¬ (record.hear callback ad).Orderly := by
  intro hord
  obtain ⟨presentation, hmem, rfl⟩ := List.mem_map.mp had
  have hover : (record.hear callback presentation.ad).Over presentation.ad := by
    cases callback with
    | presented => exact absurd rfl hcallback
    | failedToPresent => exact Or.inr List.mem_cons_self
    | dismissed => exact Or.inl List.mem_cons_self
  have hclosed : presentation.call ∈ record.closed :=
    (hord.closed_iff_over presentation hmem).mpr hover
  exact h.not_over presentation.ad ((h.orderly.closed_iff_over presentation hmem).mp hclosed)

end AdRecord

/-! ### The manager of Android -/

/-- The manager of the interstitial ads: the ad that is loaded, if any, and whether one is
loading. An ad is named by the load it came from. -/
structure AdMobInterstitialManager where
  interstitialAd : Option ℕ
  isLoading : Bool
  /-- The loads whose callback is still to come. -/
  inFlight : List ℕ
  loads : ℕ
  record : AdRecord
  deriving DecidableEq, Repr

/-- What happens to the manager: the two calls of the app, and the answers of the SDK. -/
inductive AdMobEvent
  | loadInterstitialAd (isPremium : Bool)
  | onAdLoaded (load : ℕ)
  | onAdFailedToLoad (load : ℕ)
  | showInterstitialAd (activity : Presenter) (isPremium : Bool)
  | retry (retry : Retry) (busy : Bool)
  | fullScreen (callback : FullScreenCallback) (ad : ℕ)
  deriving DecidableEq, Repr

namespace AdMobInterstitialManager

/-- The manager as it is constructed. -/
def start : AdMobInterstitialManager :=
  { interstitialAd := none
    isLoading := false
    inFlight := []
    loads := 0
    record := AdRecord.start }

/-- `loadInterstitialAd`: no load for premium users, none beside another, and none while an ad is
there. -/
def loadInterstitialAd (isPremium : Bool) (manager : AdMobInterstitialManager) :
    AdMobInterstitialManager :=
  if isPremium = true then manager
  else if manager.isLoading = true then manager
  else if manager.interstitialAd ≠ none then manager
  else
    { manager with
      isLoading := true
      inFlight := manager.loads :: manager.inFlight
      loads := manager.loads + 1 }

/-- The callback of a load that succeeded. -/
def onAdLoaded (load : ℕ) (manager : AdMobInterstitialManager) : AdMobInterstitialManager :=
  { manager with
    interstitialAd := some load
    isLoading := false
    inFlight := manager.inFlight.erase load }

/-- The callback of a load that failed. -/
def onAdFailedToLoad (load : ℕ) (manager : AdMobInterstitialManager) :
    AdMobInterstitialManager :=
  { manager with
    interstitialAd := none
    isLoading := false
    inFlight := manager.inFlight.erase load }

/-- Only a load without premium gets to the callbacks of its ad, which keep its `isPremium`. -/
def onFullScreen (callback : FullScreenCallback) (manager : AdMobInterstitialManager) :
    AdMobInterstitialManager :=
  match callback with
  | .dismissed => { manager with interstitialAd := none }.loadInterstitialAd false
  | .failedToPresent => { manager with interstitialAd := none }
  | .presented => { manager with interstitialAd := none }

/-- `showInterstitialAd`: a call without an ad, with premium or without an activity is closed at
once, a busy activity is tried again, and a free one presents the ad and closes the call right
after. -/
def showInterstitialAd (activity : Presenter) (isPremium : Bool) (call retryCount : ℕ)
    (manager : AdMobInterstitialManager) : AdMobInterstitialManager :=
  let closed := { manager with record := manager.record.onAdClosed call }
  if isPremium = true then closed
  else
    match manager.interstitialAd with
    | none => if activity = .missing then closed else closed.loadInterstitialAd isPremium
    | some ad =>
        match activity with
        | .missing => closed
        | .busy =>
            if retryCount < maxRetries then
              { manager with
                record := manager.record.tryAgain { call := call, retryCount := retryCount + 1 } }
            else closed
        -- `interstitialAd?.show(activity)`, and `onAdClosed()` in the next line
        | .free => { manager with record := (manager.record.present call ad).onAdClosed call }

/-- Callbacks come for loads in flight and for presented ads only. A retry keeps its activity,
which is not missing, and its `isPremium`, which is false. -/
def step (manager : AdMobInterstitialManager) : AdMobEvent → AdMobInterstitialManager
  | .loadInterstitialAd isPremium => manager.loadInterstitialAd isPremium
  | .onAdLoaded load => if load ∈ manager.inFlight then manager.onAdLoaded load else manager
  | .onAdFailedToLoad load =>
      if load ∈ manager.inFlight then manager.onAdFailedToLoad load else manager
  | .showInterstitialAd activity isPremium =>
      { manager with record := manager.record.newCall }.showInterstitialAd activity isPremium
        manager.record.calls 0
  | .retry retry busy =>
      if retry ∈ manager.record.waiting then
        { manager with record := manager.record.resume retry }.showInterstitialAd
          (if busy = true then .busy else .free) false retry.call retry.retryCount
      else manager
  | .fullScreen callback ad =>
      if manager.record.Expects callback ad then
        { manager with record := manager.record.hear callback ad }.onFullScreen callback
      else manager

/-- The protocol, and one load at a time. -/
structure Orderly (manager : AdMobInterstitialManager) : Prop where
  record : manager.record.Orderly
  one_load : manager.inFlight.length ≤ 1

/-- No call without premium finds both an ad and an activity to present it on. -/
def Allowed (manager : AdMobInterstitialManager) : AdMobEvent → Prop
  | .showInterstitialAd activity isPremium =>
      isPremium = false → activity = .free → manager.interstitialAd = none
  | .retry retry busy =>
      retry ∈ manager.record.waiting → busy = false → manager.interstitialAd = none
  | _ => True

/-! ### One load at a time -/

/-- `isLoading` is set as long as a load is in flight. -/
structure OneLoad (manager : AdMobInterstitialManager) : Prop where
  length_le : manager.inFlight.length ≤ 1
  idle : manager.isLoading = false → manager.inFlight = []

variable {manager : AdMobInterstitialManager}

/-- The loads do not depend on the record. -/
theorem OneLoad.setRecord (h : manager.OneLoad) (record : AdRecord) :
    OneLoad { manager with record := record } :=
  ⟨h.length_le, h.idle⟩

/-- A load is started only when none is in flight. -/
theorem OneLoad.loadInterstitialAd (h : manager.OneLoad) (isPremium : Bool) :
    (manager.loadInterstitialAd isPremium).OneLoad := by
  unfold AdMobInterstitialManager.loadInterstitialAd
  split_ifs with hpremium hloading had
  · exact h
  · exact h
  · exact h
  · have hidle := h.idle (Bool.eq_false_iff.mpr hloading)
    exact { length_le := by simp [hidle], idle := by simp }

/-- With one load at a time, its callback leaves none. -/
theorem OneLoad.erase_eq_nil (h : manager.OneLoad) {load : ℕ} (hload : load ∈ manager.inFlight) :
    manager.inFlight.erase load = [] := by
  have hlength := List.length_erase_of_mem hload
  have hone := h.length_le
  exact List.eq_nil_of_length_eq_zero (by omega)

/-- A show starts at most the one load. -/
theorem OneLoad.showInterstitialAd (h : manager.OneLoad) (activity : Presenter)
    (isPremium : Bool) (call retryCount : ℕ) :
    (manager.showInterstitialAd activity isPremium call retryCount).OneLoad := by
  unfold AdMobInterstitialManager.showInterstitialAd
  by_cases hpremium : isPremium = true
  · rw [if_pos hpremium]
    exact h.setRecord _
  · rw [if_neg hpremium]
    split
    · split
      · exact h.setRecord _
      · exact (h.setRecord _).loadInterstitialAd isPremium
    · split
      · exact h.setRecord _
      · split
        · exact h.setRecord _
        · exact h.setRecord _
      · exact h.setRecord _

/-- **Step lemma:** there is one load at a time after every event. -/
theorem OneLoad.step (h : manager.OneLoad) (event : AdMobEvent) : (manager.step event).OneLoad := by
  cases event with
  | loadInterstitialAd isPremium => exact h.loadInterstitialAd isPremium
  | onAdLoaded load =>
      rw [AdMobInterstitialManager.step]
      split_ifs with hload
      · have herase := h.erase_eq_nil hload
        exact { length_le := by simp [onAdLoaded, herase], idle := fun _ => herase }
      · exact h
  | onAdFailedToLoad load =>
      rw [AdMobInterstitialManager.step]
      split_ifs with hload
      · have herase := h.erase_eq_nil hload
        exact { length_le := by simp [onAdFailedToLoad, herase], idle := fun _ => herase }
      · exact h
  | showInterstitialAd activity isPremium =>
      exact (h.setRecord _).showInterstitialAd activity isPremium _ 0
  | retry retry busy =>
      rw [AdMobInterstitialManager.step]
      by_cases hretry : retry ∈ manager.record.waiting
      · rw [if_pos hretry]
        exact (h.setRecord _).showInterstitialAd _ false _ _
      · rw [if_neg hretry]
        exact h
  | fullScreen callback ad =>
      rw [AdMobInterstitialManager.step]
      split_ifs with hexpects
      · have hnone : OneLoad
            { manager with interstitialAd := none, record := manager.record.hear callback ad } :=
          ⟨h.length_le, h.idle⟩
        cases callback with
        | dismissed => exact hnone.loadInterstitialAd false
        | failedToPresent => exact hnone
        | presented => exact hnone
      · exact h

/-- In every run there is at most one load in flight. -/
theorem length_inFlight_le (events : List AdMobEvent) :
    (run step start events).inFlight.length ≤ 1 := by
  have hrun : (run step start events).OneLoad := by
    refine run_invariant_of_step ?_ ?_ events
    · intro manager event h
      exact h.step event
    · exact { length_le := Nat.zero_le 1, idle := fun _ => rfl }
  exact hrun.length_le

/-! ### Runs that keep the protocol -/

/-- A load changes no record. -/
@[simp] theorem loadInterstitialAd_record (isPremium : Bool) :
    (manager.loadInterstitialAd isPremium).record = manager.record := by
  unfold loadInterstitialAd
  split_ifs <;> rfl

/-- What a call does with the record: it closes the call, waits, or presents and closes. -/
theorem showInterstitialAd_record (activity : Presenter) (isPremium : Bool)
    (call retryCount : ℕ) :
    (manager.showInterstitialAd activity isPremium call retryCount).record =
        manager.record.onAdClosed call ∨
      (manager.showInterstitialAd activity isPremium call retryCount).record =
        manager.record.tryAgain { call := call, retryCount := retryCount + 1 } ∨
      (isPremium = false ∧ activity = .free ∧ manager.interstitialAd ≠ none) := by
  unfold showInterstitialAd
  by_cases hpremium : isPremium = true
  · rw [if_pos hpremium]
    exact Or.inl rfl
  · rw [if_neg hpremium]
    cases had : manager.interstitialAd with
    | none =>
        left
        dsimp only
        split
        · rfl
        · exact loadInterstitialAd_record isPremium
    | some ad =>
        cases activity with
        | missing => exact Or.inl rfl
        | busy =>
            dsimp only
            split
            · exact Or.inr (Or.inl rfl)
            · exact Or.inl rfl
        | free => exact Or.inr (Or.inr ⟨Bool.eq_false_iff.mpr hpremium, rfl, by simp⟩)

/-- A call that presents an ad is closed at once. -/
theorem not_orderly_showInterstitialAd {record : AdRecord} (h : record.Tidy)
    (had : manager.interstitialAd ≠ none) (call retryCount : ℕ) :
    ¬ ({ manager with record := record }.showInterstitialAd .free false call
      retryCount).record.Orderly := by
  obtain ⟨ad, had⟩ := Option.ne_none_iff_exists'.mp had
  have hrecord : ({ manager with record := record }.showInterstitialAd .free false call
      retryCount).record = (record.present call ad).onAdClosed call := by
    simp [showInterstitialAd, had]
  rw [hrecord]
  exact h.not_orderly_onAdClosed_present

/-- The record of the allowed runs: no ad was presented. -/
structure Unpresented (record : AdRecord) : Prop where
  tidy : record.Tidy
  presented : record.presented = []

/-- An allowed show presents nothing. -/
theorem Unpresented.showInterstitialAd (h : Unpresented manager.record) {activity : Presenter}
    {isPremium : Bool} {call : ℕ} (retryCount : ℕ) (hidle : manager.record.Idle call)
    (hallowed : isPremium = false → activity = .free → manager.interstitialAd = none) :
    Unpresented (manager.showInterstitialAd activity isPremium call retryCount).record := by
  obtain hclosed | hagain | ⟨hpremium, hfree, had⟩ :=
    manager.showInterstitialAd_record activity isPremium call retryCount
  · rw [hclosed]
    exact ⟨h.tidy.onAdClosed hidle, h.presented⟩
  · rw [hagain]
    exact ⟨h.tidy.tryAgain hidle, h.presented⟩
  · exact absurd (hallowed hpremium hfree) had

/-- **Step lemma:** an allowed event presents nothing. -/
theorem Unpresented.step (h : Unpresented manager.record) {event : AdMobEvent}
    (hallowed : manager.Allowed event) : Unpresented (manager.step event).record := by
  cases event with
  | loadInterstitialAd isPremium =>
      rw [AdMobInterstitialManager.step, loadInterstitialAd_record]
      exact h
  | onAdLoaded load =>
      rw [AdMobInterstitialManager.step]
      split_ifs <;> exact h
  | onAdFailedToLoad load =>
      rw [AdMobInterstitialManager.step]
      split_ifs <;> exact h
  | showInterstitialAd activity isPremium =>
      obtain ⟨htidy, hidle⟩ := h.tidy.newCall
      have hnew : Unpresented manager.record.newCall := ⟨htidy, h.presented⟩
      exact hnew.showInterstitialAd 0 hidle hallowed
  | retry retry busy =>
      rw [AdMobInterstitialManager.step]
      by_cases hretry : retry ∈ manager.record.waiting
      · rw [if_pos hretry]
        obtain ⟨htidy, hidle⟩ := h.tidy.resume hretry
        have hresumed : Unpresented (manager.record.resume retry) := ⟨htidy, h.presented⟩
        refine hresumed.showInterstitialAd _ hidle ?_
        intro _ hfree
        exact hallowed hretry (by simpa using hfree)
      · rw [if_neg hretry]
        exact h
  | fullScreen callback ad =>
      have hexpects : ¬ manager.record.Expects callback ad := by
        simp [AdRecord.Expects, h.presented]
      rw [AdMobInterstitialManager.step, if_neg hexpects]
      exact h

/-- An event after which the record is still orderly was allowed: a presented ad is closed too
early. -/
theorem allowed_of_orderly_step (h : Unpresented manager.record) {event : AdMobEvent}
    (hord : (manager.step event).record.Orderly) : manager.Allowed event := by
  cases event with
  | showInterstitialAd activity isPremium =>
      rintro rfl rfl
      by_contra had
      exact not_orderly_showInterstitialAd h.tidy.newCall.1 had _ 0 hord
  | retry retry busy =>
      rintro hretry rfl
      by_contra had
      rw [AdMobInterstitialManager.step, if_pos hretry] at hord
      exact not_orderly_showInterstitialAd (h.tidy.resume hretry).1 had _ _ hord
  | loadInterstitialAd isPremium => trivial
  | onAdLoaded load => trivial
  | onAdFailedToLoad load => trivial
  | fullScreen callback ad => trivial

/-- A run keeps the protocol just when no call without premium presents an ad. -/
theorem orderly_iff_allSteps (events : List AdMobEvent) :
    (∀ pre, pre <+: events → (run step start pre).Orderly) ↔
      AllSteps step Allowed start events := by
  have hrecord : (∀ pre, pre <+: events → (run step start pre).Orderly) ↔
      ∀ pre, pre <+: events → (run step start pre).record.Orderly := by
    constructor
    · intro h pre hpre
      exact (h pre hpre).record
    · intro h pre hpre
      exact ⟨h pre hpre, length_inFlight_le pre⟩
  rw [hrecord]
  refine forall_prefix_view_iff_allSteps
    (I := fun manager : AdMobInterstitialManager => Unpresented manager.record)
    (V := fun manager : AdMobInterstitialManager => manager.record.Orderly) ?_ ?_ ?_
    ⟨AdRecord.tidy_start, rfl⟩
  · intro manager h
    exact h.tidy.orderly
  · intro manager event h hallowed
    exact h.step hallowed
  · intro manager event h hord
    exact allowed_of_orderly_step h hord

end AdMobInterstitialManager

end SpendCraft
