import SpendCraft.BillingRepository

/-!
# Acknowledging Purchases

Play refunds a purchase that the app does not acknowledge. `BillingManagerImpl` can
acknowledge one, and `BillingRepository.handleSuccessfulPurchases` does so for a list of
purchases, but nothing calls it: `refreshPurchases` reads the list for the premium flag only,
and no listener is ever set for the purchases that Play reports by itself.

## Conventions

A purchase of this module has the acknowledgement that Play reports with it; the state has the
tokens that the app itself has acknowledged. The answer of Play to an acknowledgement is
arbitrary, for each purchase. The helper is modelled although nothing calls it, so that it can be
said what is missing: it goes through the purchases that are `PURCHASED` and not acknowledged, one
after the other, and a failure ends it.

## Proof

A refresh changes the preferences only, so what is acknowledged after it was so before. The
premium flag is the one of `BillingRepository`, of the purchases without their acknowledgement;
the two conjuncts of the equivalence are about different parts of the state and are proved one by
one.

## Main results

* `handleSuccessfulPurchases_of_ok`: what the helper would do.
* `acknowledgesRefreshed_iff`: what a refresh leaves acknowledged, and when it switches
  premium on.
-/

namespace SpendCraft

open PremiumStateDataStore

/-- A purchase with what Play says of its acknowledgement. -/
structure OwnedPurchase extends Purchase where
  purchaseToken : String
  isAcknowledged : Bool
  deriving DecidableEq, Repr

/-- The stored preferences, and the tokens that the app has acknowledged. -/
structure BillingState where
  preferences : Preferences
  acknowledgedTokens : List String
  deriving DecidableEq, Repr

/-- The purchase was acknowledged when Play listed it, or the app has acknowledged it. -/
def BillingState.Acknowledged (s : BillingState) (purchase : OwnedPurchase) : Prop :=
  purchase.isAcknowledged = true ∨ purchase.purchaseToken ∈ s.acknowledgedTokens

/-- Whether a purchase is acknowledged is decided by the state. -/
instance (s : BillingState) (purchase : OwnedPurchase) : Decidable (s.Acknowledged purchase) :=
  inferInstanceAs (Decidable (_ ∨ _))

/-- `acknowledge` is the answer of Play. -/
def BillingManagerImpl.acknowledgePurchase (acknowledge : OwnedPurchase → BillingResult)
    (purchase : OwnedPurchase) (s : BillingState) : Except String Unit × BillingState :=
  if purchase.isAcknowledged then (.ok (), s)
  else
    let billingResult := acknowledge purchase
    if billingResult.responseCode = BillingResponseCode.ok then
      (.ok (), { s with acknowledgedTokens := s.acknowledgedTokens ++ [purchase.purchaseToken] })
    else (.error ("Acknowledge failed: " ++ billingResult.debugMessage), s)

namespace BillingRepository

/-- A failed acknowledgement ends the loop. -/
def handleSuccessfulPurchases (acknowledge : OwnedPurchase → BillingResult) :
    List OwnedPurchase → BillingState → Except String Unit × BillingState
  | [], s => (.ok (), s)
  | purchase :: purchases, s =>
      if purchase.purchaseState = .purchased ∧ purchase.isAcknowledged = false then
        match BillingManagerImpl.acknowledgePurchase acknowledge purchase s with
        | (.ok (), s) =>
            handleSuccessfulPurchases acknowledge purchases
              { s with preferences := setPremium true s.preferences }
        | (.error e, s) => (.error e, s)
      else handleSuccessfulPurchases acknowledge purchases s

/-- `refreshPurchases` of the whole state, at the time `now`. -/
def refreshOwned (managerResult : Except String (List OwnedPurchase)) (now : ℤ)
    (s : BillingState) : Except String Unit × BillingState :=
  let (result, preferences) :=
    refreshPurchases (managerResult.map (List.map OwnedPurchase.toPurchase)) now s.preferences
  (result, { s with preferences := preferences })

/-! ### The helper that nothing calls -/

/-- A purchase that the service acknowledges is noted. -/
theorem acknowledgePurchase_ok {acknowledge : OwnedPurchase → BillingResult}
    {purchase : OwnedPurchase} (hlisted : purchase.isAcknowledged = false)
    (hok : (acknowledge purchase).responseCode = BillingResponseCode.ok) (s : BillingState) :
    BillingManagerImpl.acknowledgePurchase acknowledge purchase s =
      (.ok (), { s with
        acknowledgedTokens := s.acknowledgedTokens ++ [purchase.purchaseToken] }) := by
  rw [BillingManagerImpl.acknowledgePurchase, if_neg (by simp [hlisted]), if_pos hok]

/-- **The helper** would acknowledge every purchase in state `PURCHASED`, and switch premium
on for any that was not acknowledged yet, whatever its product. -/
theorem handleSuccessfulPurchases_of_ok {acknowledge : OwnedPurchase → BillingResult}
    (hok : ∀ purchase, (acknowledge purchase).responseCode = BillingResponseCode.ok)
    (purchases : List OwnedPurchase) (s : BillingState) :
    ∃ after, handleSuccessfulPurchases acknowledge purchases s = (.ok (), after) ∧
      (∀ purchase, s.Acknowledged purchase → after.Acknowledged purchase) ∧
      (∀ purchase ∈ purchases, purchase.purchaseState = .purchased →
        after.Acknowledged purchase) ∧
      (after.preferences.isFlagPremium = true ↔ s.preferences.isFlagPremium = true ∨
        ∃ purchase ∈ purchases, purchase.purchaseState = .purchased ∧
          purchase.isAcknowledged = false) := by
  induction purchases generalizing s with
  | nil => exact ⟨s, rfl, fun _ h => h, by simp, by simp⟩
  | cons purchase purchases ih =>
      rw [handleSuccessfulPurchases]
      split_ifs with hnew
      · obtain ⟨after, hafter, hkeeps, hall, hflag⟩ := ih { s with
          preferences := setPremium true s.preferences
          acknowledgedTokens := s.acknowledgedTokens ++ [purchase.purchaseToken] }
        rw [acknowledgePurchase_ok hnew.2 (hok purchase)]
        refine ⟨after, hafter, ?_, ?_, ?_⟩
        · intro other hother
          exact hkeeps other (hother.imp_right (List.mem_append_left _))
        · rw [List.forall_mem_cons]
          refine ⟨fun _ => hkeeps purchase (.inr ?_), hall⟩
          exact List.mem_append_right _ (List.mem_singleton_self _)
        · rw [hflag]
          exact iff_of_true (.inl rfl) (.inr ⟨purchase, List.mem_cons_self, hnew⟩)
      · obtain ⟨after, hafter, hkeeps, hall, hflag⟩ := ih s
        refine ⟨after, hafter, hkeeps, ?_, ?_⟩
        · rw [List.forall_mem_cons]
          refine ⟨fun hpurchased => hkeeps purchase (.inl ?_), hall⟩
          exact Bool.of_not_eq_false fun hfalse => hnew ⟨hpurchased, hfalse⟩
        · rw [hflag, List.exists_mem_cons_iff, or_iff_right hnew]

/-! ### Refreshing -/

/-- After a successful answer of the manager, every purchase in state `PURCHASED` is
acknowledged, and the premium flag is switched on only for a purchase of a premium
product. -/
def AcknowledgesRefreshed (purchases : List OwnedPurchase) (now : ℤ) (s : BillingState) : Prop :=
  (refreshOwned (.ok purchases) now s).1 = .ok () →
    (∀ purchase ∈ purchases, purchase.purchaseState = .purchased →
      (refreshOwned (.ok purchases) now s).2.Acknowledged purchase) ∧
    (s.preferences.isFlagPremium = false →
      (refreshOwned (.ok purchases) now s).2.preferences.isFlagPremium = true →
      ¬ NoPremiumPurchase (purchases.map OwnedPurchase.toPurchase))

/-- A refresh stores what the purchases and the premium state say, and nothing else. -/
theorem refreshOwned_ok (purchases : List OwnedPurchase) (now : ℤ) (s : BillingState) :
    refreshOwned (.ok purchases) now s = (.ok (), { s with
      preferences := setPremium
        ((purchases.map OwnedPurchase.toPurchase).any isActivePremium ||
          isPremium s.preferences now) s.preferences }) := rfl

/-- When a refresh switches the flag on for a purchase of a premium product only. -/
theorem switchedOn_iff (purchases : List OwnedPurchase) (now : ℤ) (s : BillingState) :
    (s.preferences.isFlagPremium = false →
      (refreshOwned (.ok purchases) now s).2.preferences.isFlagPremium = true →
      ¬ NoPremiumPurchase (purchases.map OwnedPurchase.toPurchase)) ↔
      s.preferences.isFlagPremium = true ∨ s.preferences.expiry ≤ now ∨
        ¬ NoPremiumPurchase (purchases.map OwnedPurchase.toPurchase) := by
  rw [refreshOwned_ok, isFlagPremium_setPremium]
  by_cases hnone : NoPremiumPurchase (purchases.map OwnedPurchase.toPurchase)
  · rw [hnone.any_isActivePremium, Bool.false_or]
    cases hflag : s.preferences.isFlagPremium with
    | true => simp
    | false => simp [isPremium, hflag, hnone]
  · exact iff_of_true (fun _ _ => hnone) (.inr (.inr hnone))

/-- **What a refresh acknowledges** is nothing: every purchase has to be acknowledged
before. Premium is switched on for a premium product only unless a grant is running. -/
theorem acknowledgesRefreshed_iff (purchases : List OwnedPurchase) (now : ℤ)
    (s : BillingState) :
    AcknowledgesRefreshed purchases now s ↔
      (∀ purchase ∈ purchases, purchase.purchaseState = .purchased → s.Acknowledged purchase) ∧
      (s.preferences.isFlagPremium = true ∨ s.preferences.expiry ≤ now ∨
        ¬ NoPremiumPurchase (purchases.map OwnedPurchase.toPurchase)) := by
  rw [← switchedOn_iff purchases now s, AcknowledgesRefreshed]
  have hresult : (refreshOwned (.ok purchases) now s).1 = .ok () := rfl
  exact ⟨fun h => h hresult, fun h _ => h⟩

/-- A monthly subscription that was bought a moment ago. -/
theorem not_acknowledgesRefreshed_monthly :
    ¬ AcknowledgesRefreshed
      [{ products := ["premium_monthly"], purchaseState := .purchased, purchaseToken := "token",
         isAcknowledged := false }] 0
      { preferences := .empty, acknowledgedTokens := [] } := by
  intro h
  have hall := (h rfl).1
  revert hall
  decide

end BillingRepository

end SpendCraft
