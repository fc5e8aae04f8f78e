import SpendCraft.BillingManager
import SpendCraft.PremiumState
import Mathlib.Algebra.Order.Ring.Int

/-!
# The Billing Repository

`BillingRepository.refreshPurchases` reads the purchases from the billing manager and
stores whether the user is premium. The value it stores is the disjunction of what the
purchases say and of the derived premium state `isPremium`, which in turn is the
disjunction of the stored flag and of a running time-limited grant. So the flag can only
go up: a refresh never clears it, and a refresh made during a grant makes the grant
permanent.

The premium state over time is a machine whose inputs are timed operations
(`PremiumEvent`). What it is meant to implement is stated over the inputs alone: without
a premium purchase, the user is premium only while some grant of the run is running
(`GrantRunning`).

## Conventions

A refresh is given the answer of the manager, which may be anything: the module speaks about all
answers, and not only about those that `BillingManager` produces. Times are milliseconds without
an upper bound. An operation carries the reading of the clock at which it runs (`PremiumEvent`),
and the clock does not go back (`ClockForward`). A refresh that fails stores nothing.

The grants of a run are read off its inputs, so that `GrantRunning` can be stated without the
preferences. `NoPurchaseReported` restricts the answers of a run to those without a premium
purchase; others give premium for a reason of their own.

## Proof

About refunds, the stored value is a disjunction, and a case split on the answer, the flag and the
expiry decides it. About grants the invariant is `OnlyGrants`: while no refresh falls inside a
grant, the flag is off and a stored expiry belongs to a grant of the run. A refresh inside a grant
sets the flag, and no later operation of the run clears it.

## Main results

* `revokesOnRefund_iff`: a refund or cancellation is honoured exactly when the stored
  flag was already off.
* `grantsExpire_iff`: time-limited grants expire exactly in the runs where no
  successful refresh falls inside a grant.
-/

namespace SpendCraft

open PremiumStateDataStore

namespace BillingRepository

/-- The products whose purchase makes the user premium. -/
def premiumProducts : List String :=
  ["premium_monthly", "premium_yearly", "premium_lifetime"]

/-- The test of one purchase in `refreshPurchases`: only the first product of the
purchase is looked at. -/
def isActivePremium (purchase : Purchase) : Bool :=
  match purchase.products.head? with
  | some product => premiumProducts.contains product && purchase.purchaseState == .purchased
  | none => false

/-- `refreshPurchases`, given the answer of the billing manager. A failed answer is
returned and nothing is stored. -/
def refreshPurchases (managerResult : Except String (List Purchase)) (now : ℤ)
    (preferences : Preferences) : Except String Unit × Preferences :=
  match managerResult with
  | .error e => (.error e, preferences)
  | .ok purchases =>
      let hasActivePremium := purchases.any isActivePremium
      let storedPremium := isPremium preferences now
      (.ok (), setPremium (hasActivePremium || storedPremium) preferences)

/-- Play reports no premium product as purchased. -/
def NoPremiumPurchase (purchases : List Purchase) : Prop :=
  ∀ purchase ∈ purchases, ∀ product ∈ purchase.products,
    product ∈ premiumProducts → purchase.purchaseState ≠ .purchased

/-- Whether a list has no premium purchase is checked purchase by purchase. -/
instance (purchases : List Purchase) : Decidable (NoPremiumPurchase purchases) :=
  inferInstanceAs (Decidable (∀ purchase ∈ purchases, ∀ product ∈ purchase.products,
    product ∈ premiumProducts → purchase.purchaseState ≠ .purchased))

/-- Without a premium purchase, none is active. -/
theorem NoPremiumPurchase.any_isActivePremium {purchases : List Purchase}
    (h : NoPremiumPurchase purchases) : purchases.any isActivePremium = false := by
  rw [List.any_eq_false]
  intro purchase hmem hactive
  unfold isActivePremium at hactive
  split at hactive
  next product hhead =>
    obtain ⟨hprod, hstate⟩ := Bool.and_eq_true_iff.mp hactive
    exact h purchase hmem product (List.mem_of_head? hhead)
      (List.contains_iff_mem.mp hprod) (beq_iff_eq.mp hstate)
  next => cases hactive

/-- Without a premium purchase, a successful refresh writes the derived premium state
back into the flag. -/
theorem refreshPurchases_ok {purchases : List Purchase} (h : NoPremiumPurchase purchases)
    (now : ℤ) (p : Preferences) :
    refreshPurchases (.ok purchases) now p = (.ok (), setPremium (isPremium p now) p) := by
  simp [refreshPurchases, h.any_isActivePremium]

/-- No refresh ever clears the flag. -/
theorem isFlagPremium_refreshPurchases (r : Except String (List Purchase)) (now : ℤ)
    {p : Preferences} (h : p.isFlagPremium = true) :
    (refreshPurchases r now p).2.isFlagPremium = true := by
  cases r with
  | error e => exact h
  | ok purchases => simp [refreshPurchases, isPremium_of_flag now h]

/-- A refresh does not touch the expiry. -/
@[simp] theorem expiry_refreshPurchases (r : Except String (List Purchase)) (now : ℤ)
    (p : Preferences) : (refreshPurchases r now p).2.expiry = p.expiry := by
  cases r <;> rfl

/-! ### Refunds and cancellations -/

/-- What a refresh at time `now` owes when it is observed at a later time `t`: a
successful answer without a premium purchase ends premium, and a failed answer changes
nothing. -/
def RevokesOnRefund (preferences : Preferences) (now t : ℤ)
    (managerResult : Except String (List Purchase)) : Prop :=
  (∀ purchases, managerResult = .ok purchases → NoPremiumPurchase purchases →
    (refreshPurchases managerResult now preferences).1 = .ok () →
      isPremium (refreshPurchases managerResult now preferences).2 t = false) ∧
  (∀ e, managerResult = .error e →
    (refreshPurchases managerResult now preferences).2 = preferences)

/-- **A refund revokes premium exactly when there was no flag to revoke**: the stored
flag was off, or the answer was a failure or still lists a premium purchase. -/
theorem revokesOnRefund_iff {preferences : Preferences} {now t : ℤ}
    (hexpiry : preferences.expiry ≤ now) (ht : now ≤ t)
    (managerResult : Except String (List Purchase)) :
    RevokesOnRefund preferences now t managerResult ↔
      (preferences.isFlagPremium = false ∨
        ¬ ∃ purchases, managerResult = .ok purchases ∧ NoPremiumPurchase purchases) := by
  have hafter : ∀ purchases, NoPremiumPurchase purchases →
      isPremium (refreshPurchases (.ok purchases) now preferences).2 t =
        preferences.isFlagPremium := by
    intro purchases hnone
    have hexpiry' : (refreshPurchases (.ok purchases) now preferences).2.expiry ≤ t := by
      rw [expiry_refreshPurchases]
      exact le_trans hexpiry ht
    rw [isPremium_eq_flag hexpiry', refreshPurchases_ok hnone, isFlagPremium_setPremium,
      isPremium_eq_flag hexpiry]
  constructor
  · rintro ⟨hok, -⟩
    by_cases hsome : ∃ purchases, managerResult = .ok purchases ∧ NoPremiumPurchase purchases
    · obtain ⟨purchases, rfl, hnone⟩ := hsome
      rw [← hafter purchases hnone]
      exact Or.inl (hok purchases rfl hnone rfl)
    · exact Or.inr hsome
  · intro hcond
    refine ⟨?_, ?_⟩
    · rintro purchases rfl hnone -
      rcases hcond with hflag | hnot
      · rw [hafter purchases hnone, hflag]
      · exact absurd ⟨purchases, rfl, hnone⟩ hnot
    · rintro e rfl
      rfl

/-- A refund seen by a user whose flag is off and whose last grant has run out. -/
theorem revokesOnRefund_of_flag_off :
    RevokesOnRefund { isPremium := some false, premiumExpiryEpoch := some 1000 } 2000 3000
      (.ok [{ products := ["premium_monthly"], purchaseState := .unspecifiedState }]) :=
  (revokesOnRefund_iff (by decide) (by decide) _).mpr (Or.inl rfl)

/-- A stored flag outlives the refund: Play lists nothing any more, the refresh
succeeds, and the user stays premium. -/
theorem not_revokesOnRefund_of_flag :
    ¬ RevokesOnRefund { isPremium := some true, premiumExpiryEpoch := none } 0 0 (.ok []) := by
  rintro ⟨hok, -⟩
  exact absurd (hok [] rfl (by decide) rfl) (by decide)

end BillingRepository

/-! ### Time-limited grants -/

open BillingRepository

/-- The operations that write the premium preferences. -/
inductive PremiumOp
  | grantPremiumForDays (days : ℤ)
  | refreshPurchases (managerResult : Except String (List Purchase))

/-- An operation and the clock reading at which it runs. -/
structure PremiumEvent where
  time : ℤ
  op : PremiumOp

/-- The stored preferences together with the last clock reading. -/
structure PremiumState where
  clock : ℤ
  preferences : Preferences

namespace PremiumState

/-- The effect of one timed operation. -/
def step (s : PremiumState) (e : PremiumEvent) : PremiumState :=
  { clock := e.time
    preferences :=
      match e.op with
      | .grantPremiumForDays days => grantPremiumForDays days e.time s.preferences
      | .refreshPurchases r => (BillingRepository.refreshPurchases r e.time s.preferences).2 }

/-- The clock never runs backwards. -/
def ClockForward (s : PremiumState) (e : PremiumEvent) : Prop :=
  s.clock ≤ e.time

/-- Whether the clock goes forward is a comparison. -/
instance (s : PremiumState) (e : PremiumEvent) : Decidable (ClockForward s e) :=
  inferInstanceAs (Decidable (s.clock ≤ e.time))

/-- Play never reports a premium product as purchased to this operation. -/
def NoPurchaseReported (e : PremiumEvent) : Prop :=
  ∀ purchases, e.op = .refreshPurchases (.ok purchases) → NoPremiumPurchase purchases

/-- A successful refresh is made only when no time-limited grant is running. -/
def RefreshOutsideGrant (s : PremiumState) (e : PremiumEvent) : Prop :=
  (∃ purchases, e.op = .refreshPurchases (.ok purchases)) → s.preferences.expiry ≤ e.time

/-- The purpose of a time-limited grant: at time `t`, some grant of the run made no later
than `t` has not run out yet. -/
def GrantRunning (es : List PremiumEvent) (t : ℤ) : Prop :=
  ∃ t₀ days, ⟨t₀, .grantPremiumForDays days⟩ ∈ es ∧ t₀ ≤ t ∧ t < t₀ + days * 86400000

/-- After the run `es` the user is premium only while some grant of the run is running. -/
def GrantsExpire (s : PremiumState) (es : List PremiumEvent) : Prop :=
  ∀ t, (Machine.run step s es).clock ≤ t →
    isPremium (Machine.run step s es).preferences t = true → GrantRunning es t

/-- What the runs keep while no refresh falls inside a grant: the flag is off, and a
stored expiry is the end of a grant of the run. -/
structure OnlyGrants (es : List PremiumEvent) (s : PremiumState) : Prop where
  flag_off : s.preferences.isFlagPremium = false
  clock_nonneg : 0 ≤ s.clock
  expiry_of_grant : s.preferences.expiry = 0 ∨
    ∃ t₀ days, ⟨t₀, .grantPremiumForDays days⟩ ∈ es ∧ t₀ ≤ s.clock ∧
      s.preferences.expiry = t₀ + days * 86400000

/-- **Step lemma:** as long as nothing but grants gives premium, a step under these conditions
keeps it so. -/
theorem OnlyGrants.step {es : List PremiumEvent} {s : PremiumState} {e : PremiumEvent}
    (h : OnlyGrants es s) (hclock : ClockForward s e) (hplay : NoPurchaseReported e)
    (hrefresh : RefreshOutsideGrant s e) : OnlyGrants (es ++ [e]) (s.step e) := by
  obtain ⟨hflag, hpos, hexp⟩ := h
  obtain ⟨time, op⟩ := e
  have hle : s.clock ≤ time := hclock
  have hexp' : s.preferences.expiry = 0 ∨
      ∃ t₀ days, ⟨t₀, .grantPremiumForDays days⟩ ∈ es ++ [⟨time, op⟩] ∧ t₀ ≤ time ∧
        s.preferences.expiry = t₀ + days * 86400000 := by
    rcases hexp with h0 | ⟨t₀, days, hmem, ht₀, heq⟩
    · exact Or.inl h0
    · exact Or.inr ⟨t₀, days, List.mem_append_left _ hmem, le_trans ht₀ hle, heq⟩
  cases op with
  | grantPremiumForDays days =>
      exact ⟨hflag, le_trans hpos hle, Or.inr ⟨time, days, by simp, le_refl time,
        expiry_grantPremiumForDays days time s.preferences⟩⟩
  | refreshPurchases r =>
      cases r with
      | error err => exact ⟨hflag, le_trans hpos hle, hexp'⟩
      | ok purchases =>
          have hout : s.preferences.expiry ≤ time := hrefresh ⟨purchases, rfl⟩
          refine ⟨?_, le_trans hpos hle, ?_⟩
          · simp only [PremiumState.step]
            rw [refreshPurchases_ok (hplay purchases rfl), isFlagPremium_setPremium,
              isPremium_eq_flag hout, hflag]
          · simp only [PremiumState.step, expiry_refreshPurchases]
            exact hexp'

/-- In a state with only grants behind it, premium means that a grant is running. -/
theorem OnlyGrants.grantRunning {es : List PremiumEvent} {s : PremiumState}
    (h : OnlyGrants es s) {t : ℤ} (ht : s.clock ≤ t)
    (hprem : isPremium s.preferences t = true) : GrantRunning es t := by
  obtain ⟨hflag, hpos, hexp⟩ := h
  rw [isPremium, hflag, Bool.false_or, decide_eq_true_iff] at hprem
  rcases hexp with h0 | ⟨t₀, days, hmem, ht₀, heq⟩
  · omega
  · exact ⟨t₀, days, hmem, le_trans ht₀ ht, by omega⟩

/-- The flag, once on, stays on for the rest of the run. -/
theorem isFlagPremium_run {s : PremiumState} (es : List PremiumEvent)
    (h : s.preferences.isFlagPremium = true) :
    (Machine.run step s es).preferences.isFlagPremium = true := by
  refine Machine.run_invariant_of_step
    (I := fun s : PremiumState => s.preferences.isFlagPremium = true) ?_ h es
  intro s e hs
  obtain ⟨time, op⟩ := e
  cases op with
  | grantPremiumForDays days => exact hs
  | refreshPurchases r => exact isFlagPremium_refreshPurchases r time hs

/-- Every grant of a run has run out at some later time. -/
theorem exists_not_grantRunning (es : List PremiumEvent) (t : ℤ) :
    ∃ t', t ≤ t' ∧ ¬ GrantRunning es t' := by
  induction es generalizing t with
  | nil => exact ⟨t, le_refl t, by simp [GrantRunning]⟩
  | cons e es ih =>
      obtain ⟨time, op⟩ := e
      cases op with
      | refreshPurchases r =>
          obtain ⟨t', ht', hnot⟩ := ih t
          refine ⟨t', ht', ?_⟩
          rintro ⟨t₀, days, hmem, hrun⟩
          rcases List.mem_cons.mp hmem with heq | hmem
          · cases heq
          · exact hnot ⟨t₀, days, hmem, hrun⟩
      | grantPremiumForDays days =>
          obtain ⟨t', ht', hnot⟩ := ih (max t (time + days * 86400000))
          refine ⟨t', le_trans (le_max_left _ _) ht', ?_⟩
          rintro ⟨t₀, days', hmem, hrun⟩
          rcases List.mem_cons.mp hmem with heq | hmem
          · cases heq
            have := le_trans (le_max_right t _) ht'
            omega
          · exact hnot ⟨t₀, days', hmem, hrun⟩

/-- **Time-limited grants expire exactly in the runs where no successful refresh falls
inside a grant.** A refresh inside a grant copies the derived premium state into the
permanent flag. -/
theorem grantsExpire_iff {s : PremiumState} {es : List PremiumEvent}
    (hflag : s.preferences.isFlagPremium = false) (hexpiry : s.preferences.expiry = 0)
    (hnow : 0 ≤ s.clock) (hclock : Machine.AllSteps step ClockForward s es)
    (hplay : ∀ e ∈ es, NoPurchaseReported e) :
    GrantsExpire s es ↔ Machine.AllSteps step RefreshOutsideGrant s es := by
  constructor
  · intro hexp
    rw [Machine.allSteps_iff]
    rintro pre e post rfl
    rintro ⟨purchases, hop⟩
    by_contra hin
    rw [not_le] at hin
    -- the refresh turns the running grant into the flag, which no later step clears
    have hflag' : (Machine.run step s (pre ++ e :: post)).preferences.isFlagPremium = true := by
      rw [Machine.run_append, Machine.run_cons]
      apply isFlagPremium_run
      simp only [PremiumState.step, hop]
      rw [refreshPurchases_ok (hplay e (by simp) purchases hop), isFlagPremium_setPremium,
        isPremium_of_lt_expiry hin]
    obtain ⟨t, ht, hnot⟩ := exists_not_grantRunning (pre ++ e :: post)
      (Machine.run step s (pre ++ e :: post)).clock
    exact hnot (hexp t ht (isPremium_of_flag t hflag'))
  · intro hout t ht hprem
    have hinv : OnlyGrants es (Machine.run step s es) := by
      refine Machine.run_invariant_history (I := OnlyGrants) ?_
        ((hclock.and hout).and (Machine.AllSteps.of_forall_mem hplay s))
        ⟨hflag, hnow, Or.inl hexpiry⟩
      rintro pre s e hI ⟨⟨hc, hr⟩, hp⟩
      exact hI.step hc hp hr
    exact hinv.grantRunning ht hprem

/-- A one-day grant, a refresh after it has run out, and another grant. -/
theorem grantsExpire_refresh_between_grants :
    GrantsExpire ⟨0, Preferences.empty⟩
      [⟨0, .grantPremiumForDays 1⟩, ⟨86400000, .refreshPurchases (.ok [])⟩,
        ⟨86400001, .grantPremiumForDays 30⟩] := by
  refine (grantsExpire_iff rfl rfl (le_refl 0) ?_ ?_).mpr ?_
  · exact ⟨by decide, by decide, by decide, trivial⟩
  · rintro e he purchases hop
    simp only [List.mem_cons, List.not_mem_nil, or_false] at he
    rcases he with rfl | rfl | rfl <;> cases hop
    decide
  · refine ⟨?_, ?_, ?_, trivial⟩ <;> rintro ⟨purchases, hop⟩
    · cases hop
    · decide
    · cases hop

/-- A refresh during a one-day grant: a day later the grant is over and the user is still
premium. -/
theorem not_grantsExpire_refresh_inside_grant :
    ¬ GrantsExpire ⟨0, Preferences.empty⟩
      [⟨0, .grantPremiumForDays 1⟩, ⟨0, .refreshPurchases (.ok [])⟩] := by
  intro h
  obtain ⟨t₀, days, hmem, ht₀, hlt⟩ := h 86400000 (by decide) (by decide)
  simp only [List.mem_cons, PremiumEvent.mk.injEq, PremiumOp.grantPremiumForDays.injEq,
    reduceCtorEq, and_false, List.not_mem_nil, or_false] at hmem
  obtain ⟨rfl, rfl⟩ := hmem
  omega

end PremiumState

end SpendCraft
