import SpendCraft.AdMobInterstitial

/-!
# The Ads Manager

The manager of the iOS app knows itself whether the user is premium, lets several loads be in
flight, and leaves `onAdClosed` of a presented ad to nobody: the delegate only loads another ad.
The ad that was presented stays in its place until the next load ends.

## Conventions

The record of the calls is the one of the Android manager, `AdRecord`, and so is the protocol.
What differs is the manager: the premium flag is its own and changes by an event, loads may
overlap, and the delegate calls nobody. The ad in its place may have been presented already, and
is presented again if a call comes before the next load ends.

## Proof

The record is kept by the lemmas of `AdRecord.Tidy`, as for Android, with `Unused` as the
invariant of the manager: the ad in its place was not presented before, unless the user is
premium. A step breaks the protocol by presenting an ad again, or when a presented ad is over,
since its call is never closed then; both can be told before the step (`Allowed`). The last
theorem puts the two platforms together.

## Main results

* `AdsManager.orderly_iff_allSteps`: the runs that keep the protocol of `Orderly`.
* `interstitialAds_orderly_iff`: the protocol on both platforms.
* `not_interstitialAds_orderly`: an ad is shown and dismissed.
-/

namespace SpendCraft.Ios

open Machine

/-- The part of `AdsManager` that is about interstitial ads. -/
structure AdsManager where
  isPremium : Bool
  interstitialAd : Option ℕ
  inFlight : List ℕ
  loads : ℕ
  record : AdRecord
  deriving DecidableEq, Repr

/-- What happens to the manager: the calls of the app, and the answers of the SDK. -/
inductive AdsEvent
  | updatePremiumState (premium : Bool)
  | loadInterstitialAd
  | loadCompleted (load : ℕ) (failed : Bool)
  | showInterstitialAd (viewController : Presenter)
  | retry (retry : Retry) (busy : Bool)
  | fullScreen (callback : FullScreenCallback) (ad : ℕ)
  deriving DecidableEq, Repr

namespace AdsManager

/-- The manager as it is constructed. -/
def start (isPremium : Bool) : AdsManager :=
  { isPremium := isPremium
    interstitialAd := none
    inFlight := []
    loads := 0
    record := AdRecord.start }

/-- `loadInterstitialAd`: no load for premium users, but one beside another. -/
def loadInterstitialAd (manager : AdsManager) : AdsManager :=
  if manager.isPremium = true then manager
  else
    { manager with
      inFlight := manager.loads :: manager.inFlight
      loads := manager.loads + 1 }

/-- The completion handler of a load. -/
def loadCompleted (load : ℕ) (failed : Bool) (manager : AdsManager) : AdsManager :=
  { manager with
    interstitialAd := if failed = true then none else some load
    inFlight := manager.inFlight.erase load }

/-- The delegate: `didFailToPresentFullScreenContentWithError` and the others only print. -/
def onFullScreen (callback : FullScreenCallback) (manager : AdsManager) : AdsManager :=
  match callback with
  | .dismissed => manager.loadInterstitialAd
  | .failedToPresent => manager
  | .presented => manager

/-- `showInterstitialAd`: a call without an ad or with premium is closed at once, a busy view
controller is tried again. -/
def showInterstitialAd (viewController : Presenter) (call retryCount : ℕ)
    (manager : AdsManager) : AdsManager :=
  let closed := { manager with record := manager.record.onAdClosed call }
  if manager.isPremium = true then closed
  else
    match manager.interstitialAd with
    | none => closed.loadInterstitialAd
    | some ad =>
        match viewController with
        | .busy =>
            if retryCount < maxRetries then
              { manager with
                record := manager.record.tryAgain { call := call, retryCount := retryCount + 1 } }
            else closed
        -- `interstitialAd.present(from: viewController)`, with no mention of `onAdClosed`
        | .free => { manager with record := manager.record.present call ad }
        | .missing => closed

/-- A retry keeps its view controller, which is not missing. -/
def step (manager : AdsManager) : AdsEvent → AdsManager
  | .updatePremiumState premium => { manager with isPremium := premium }
  | .loadInterstitialAd => manager.loadInterstitialAd
  | .loadCompleted load failed =>
      if load ∈ manager.inFlight then manager.loadCompleted load failed else manager
  | .showInterstitialAd viewController =>
      { manager with record := manager.record.newCall }.showInterstitialAd viewController
        manager.record.calls 0
  | .retry retry busy =>
      if retry ∈ manager.record.waiting then
        { manager with record := manager.record.resume retry }.showInterstitialAd
          (if busy = true then .busy else .free) retry.call retry.retryCount
      else manager
  | .fullScreen callback ad =>
      if manager.record.Expects callback ad then
        { manager with record := manager.record.hear callback ad }.onFullScreen callback
      else manager

/-- Unless the user is premium, the ad in its place was not presented before. -/
def Unused (manager : AdsManager) : Prop :=
  manager.isPremium = false → ∀ ad, manager.interstitialAd = some ad →
    ad ∉ manager.record.presented.map Presentation.ad

/-- No call presents an ad again, and no presented ad is dismissed or fails to present. -/
def Allowed (manager : AdsManager) : AdsEvent → Prop
  | .showInterstitialAd viewController => viewController = .free → manager.Unused
  | .retry retry busy => retry ∈ manager.record.waiting → busy = false → manager.Unused
  | .fullScreen callback ad =>
      callback ≠ .presented → ad ∉ manager.record.presented.map Presentation.ad
  | _ => True

variable {manager : AdsManager}

/-- A load changes no record. -/
@[simp] theorem loadInterstitialAd_record :
    manager.loadInterstitialAd.record = manager.record := by
  unfold loadInterstitialAd
  split_ifs <;> rfl

/-- What a call does with the record: it closes the call, waits, or presents. -/
theorem showInterstitialAd_record (viewController : Presenter) (call retryCount : ℕ) :
    (manager.showInterstitialAd viewController call retryCount).record =
        manager.record.onAdClosed call ∨
      (manager.showInterstitialAd viewController call retryCount).record =
        manager.record.tryAgain { call := call, retryCount := retryCount + 1 } ∨
      ∃ ad, manager.isPremium = false ∧ viewController = .free ∧
        manager.interstitialAd = some ad ∧
        (manager.showInterstitialAd viewController call retryCount).record =
          manager.record.present call ad := by
  unfold showInterstitialAd
  by_cases hpremium : manager.isPremium = true
  · rw [if_pos hpremium]
    exact Or.inl rfl
  · rw [if_neg hpremium]
    cases had : manager.interstitialAd with
    | none => exact Or.inl loadInterstitialAd_record
    | some ad =>
        cases viewController with
        | missing => exact Or.inl rfl
        | busy =>
            dsimp only
            split
            · exact Or.inr (Or.inl rfl)
            · exact Or.inl rfl
        | free =>
            have hfalse : manager.isPremium = false := Bool.eq_false_iff.mpr hpremium
            exact Or.inr (Or.inr ⟨ad, hfalse, rfl, rfl, rfl⟩)

/-- A call that presents an ad again. -/
theorem unused_of_orderly_showInterstitialAd (record : AdRecord) (call retryCount : ℕ)
    (hpresented : record.presented = manager.record.presented)
    (hord : ({ manager with record := record }.showInterstitialAd .free call
      retryCount).record.Orderly) : manager.Unused := by
  intro hpremium ad had
  have hrecord : ({ manager with record := record }.showInterstitialAd .free call
      retryCount).record = record.present call ad := by
    simp [showInterstitialAd, hpremium, had]
  rw [hrecord] at hord
  have honce := hord.presented_once
  rw [← hpresented]
  exact (List.nodup_cons.mp honce).1

/-- An allowed show keeps the record tidy. -/
theorem tidy_showInterstitialAd (h : manager.record.Tidy) {viewController : Presenter}
    {call : ℕ} (retryCount : ℕ) (hidle : manager.record.Idle call)
    (hallowed : viewController = .free → manager.Unused) :
    (manager.showInterstitialAd viewController call retryCount).record.Tidy := by
  obtain hclosed | hagain | ⟨ad, hpremium, hfree, had, hpresent⟩ :=
    manager.showInterstitialAd_record viewController call retryCount
  · rw [hclosed]
    exact h.onAdClosed hidle
  · rw [hagain]
    exact h.tryAgain hidle
  · rw [hpresent]
    exact h.present hidle (hallowed hfree hpremium ad had)

/-- **Step lemma:** an allowed event keeps the record tidy. -/
theorem tidy_step (h : manager.record.Tidy) {event : AdsEvent} (hallowed : manager.Allowed event) :
    (manager.step event).record.Tidy := by
  cases event with
  | updatePremiumState premium => exact h
  | loadInterstitialAd =>
      rw [step, loadInterstitialAd_record]
      exact h
  | loadCompleted load failed =>
      rw [step]
      split_ifs <;> exact h
  | showInterstitialAd viewController =>
      obtain ⟨htidy, hidle⟩ := h.newCall
      exact tidy_showInterstitialAd htidy 0 hidle hallowed
  | retry retry busy =>
      rw [step]
      by_cases hretry : retry ∈ manager.record.waiting
      · rw [if_pos hretry]
        obtain ⟨htidy, hidle⟩ := h.resume hretry
        refine tidy_showInterstitialAd htidy _ hidle ?_
        intro hfree
        exact hallowed hretry (by simpa using hfree)
      · rw [if_neg hretry]
        exact h
  | fullScreen callback ad =>
      rw [step]
      split_ifs with hexpects
      · cases callback with
        | presented => exact h.hear_presented
        | failedToPresent => exact absurd hexpects.1 (hallowed (by decide))
        | dismissed => exact absurd hexpects.1 (hallowed (by decide))
      · exact h

/-- An event after which the record is still orderly was allowed. -/
theorem allowed_of_orderly_step (h : manager.record.Tidy) {event : AdsEvent}
    (hord : (manager.step event).record.Orderly) : manager.Allowed event := by
  cases event with
  | showInterstitialAd viewController =>
      rintro rfl
      exact unused_of_orderly_showInterstitialAd manager.record.newCall _ 0 rfl hord
  | retry retry busy =>
      rintro hretry rfl
      rw [step, if_pos hretry] at hord
      exact unused_of_orderly_showInterstitialAd (manager.record.resume retry) _ _ rfl hord
  | fullScreen callback ad =>
      intro hcallback had
      have hexpects : manager.record.Expects callback ad := by
        refine ⟨had, ?_⟩
        intro hheard
        cases callback with
        | presented => exact hcallback rfl
        | failedToPresent => exact h.not_over ad (Or.inr hheard)
        | dismissed => exact h.not_over ad (Or.inl hheard)
      have hrecord : (manager.step (.fullScreen callback ad)).record =
          manager.record.hear callback ad := by
        rw [step, if_pos hexpects]
        cases callback with
        | dismissed => exact loadInterstitialAd_record
        | failedToPresent => rfl
        | presented => rfl
      rw [hrecord] at hord
      exact h.not_orderly_hear hcallback had hord
  | updatePremiumState premium => trivial
  | loadInterstitialAd => trivial
  | loadCompleted load failed => trivial

/-- A run keeps the protocol just when it presents no ad again and ends none. -/
theorem orderly_iff_allSteps (isPremium : Bool) (events : List AdsEvent) :
    (∀ pre, pre <+: events → (run step (start isPremium) pre).record.Orderly) ↔
      AllSteps step Allowed (start isPremium) events := by
  refine forall_prefix_view_iff_allSteps (I := fun manager : AdsManager => manager.record.Tidy)
    (V := fun manager : AdsManager => manager.record.Orderly) ?_ ?_ ?_ AdRecord.tidy_start
  · intro manager h
    exact h.orderly
  · intro manager event h hallowed
    exact tidy_step h hallowed
  · intro manager event h hord
    exact allowed_of_orderly_step h hord

end AdsManager

/-- On both platforms: the runs that keep the protocol for the interstitial ads. -/
theorem interstitialAds_orderly_iff (events : List AdMobEvent) (isPremium : Bool)
    (iosEvents : List AdsEvent) :
    ((∀ pre, pre <+: events →
        (run AdMobInterstitialManager.step AdMobInterstitialManager.start pre).Orderly) ↔
      AllSteps AdMobInterstitialManager.step AdMobInterstitialManager.Allowed
        AdMobInterstitialManager.start events) ∧
    ((∀ pre, pre <+: iosEvents →
        (run AdsManager.step (AdsManager.start isPremium) pre).record.Orderly) ↔
      AllSteps AdsManager.step AdsManager.Allowed (AdsManager.start isPremium) iosEvents) :=
  ⟨AdMobInterstitialManager.orderly_iff_allSteps events,
    AdsManager.orderly_iff_allSteps isPremium iosEvents⟩

/-- On Android `onAdClosed` is called under the ad, and on iOS not when it is dismissed. -/
theorem not_interstitialAds_orderly :
    ¬ (run AdMobInterstitialManager.step AdMobInterstitialManager.start
      [.loadInterstitialAd false, .onAdLoaded 0, .showInterstitialAd .free false]).Orderly ∧
    ¬ (run AdsManager.step (AdsManager.start false)
      [.loadInterstitialAd, .loadCompleted 0 false, .showInterstitialAd .free,
        .fullScreen .presented 0, .fullScreen .dismissed 0]).record.Orderly := by
  constructor
  · intro h
    have hover := (h.record.closed_iff_over { call := 0, ad := 0 } (by decide)).mp (by decide)
    unfold AdRecord.Over at hover
    revert hover
    decide
  · intro h
    have hover : AdRecord.Over 0 (run AdsManager.step (AdsManager.start false)
        [.loadInterstitialAd, .loadCompleted 0 false, .showInterstitialAd .free,
          .fullScreen .presented 0, .fullScreen .dismissed 0]).record :=
      Or.inl (by decide)
    have hclosed := (h.closed_iff_over { call := 0, ad := 0 } (by decide)).mpr hover
    revert hclosed
    decide

end SpendCraft.Ios
