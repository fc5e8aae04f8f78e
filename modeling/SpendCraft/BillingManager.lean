import SpendCraft.Lib.Machine
import Mathlib.Data.Int.Notation
import Mathlib.Data.List.Perm.Basic

/-!
# The Billing Manager

`BillingManagerImpl.refreshPurchases` asks Google Play for the owned subscriptions
(`SUBS`) and for the owned one-time products (`INAPP`) with two separate asynchronous
queries. Play answers each query through its own callback, in either order. The SUBS
callback overwrites `purchasesFlow` and resumes the suspended caller; the INAPP callback
appends to whatever `purchasesFlow` holds at that moment and resumes nobody.

The suspended call is a machine over the two callbacks: its state is the content of
`purchasesFlow` together with the result the continuation was resumed with.

## Conventions

The type of a product, the state of a purchase, and what the app reads of a purchase are embedded;
the rest of the Play library is not, and what its callbacks carry is arbitrary: any response code
and any list, or none. The continuation of the suspended call takes the first resume and ignores
others. A call without a connection returns its failure before it asks anything.

## Proof

There are two callbacks, each comes once, and so there are two orders. Both are evaluated: the
caller is resumed with the answer to the `SUBS` query whatever the order is, and the flow depends
on it. The equivalence then compares the lists with what the two queries have found.

## Relation to other modules

`BillingRepository` is given the answer that the caller gets here, or any other one.
`BillingConnection` is about the connection that the queries need, and `ProductQueries` about
those for products.

## Main results

* `purchasesFlow_mergeCallbacks`, `resumed_mergeCallbacks`: what the flow and the caller
  hold after both callbacks, for each order.
* `mergesBoth_iff`: the two lists are merged, in the flow and for the caller, only when
  the INAPP list adds nothing.
-/

namespace SpendCraft

/-- `Purchase.PurchaseState` of the Play billing library. -/
inductive PurchaseState
  | unspecifiedState
  | purchased
  | pending
  deriving DecidableEq, Repr

/-- A purchase reported by Play, as far as the app reads it. -/
structure Purchase where
  products : List String
  purchaseState : PurchaseState
  deriving DecidableEq, Repr

/-- `BillingClient.ProductType`. -/
inductive ProductType
  | subs
  | inapp
  deriving DecidableEq, Repr

/-- `BillingResult` of the service. -/
structure BillingResult where
  responseCode : ℤ
  debugMessage : String
  deriving DecidableEq, Repr

/-- `BillingClient.BillingResponseCode.OK`. -/
def BillingResponseCode.ok : ℤ := 0

/-- One invocation of a `queryPurchasesAsync` callback. -/
structure PurchasesResponse where
  productType : ProductType
  billingResult : BillingResult
  purchases : Option (List Purchase)
  deriving DecidableEq, Repr

namespace BillingManagerImpl

/-- The state of one `refreshPurchases` call: the shared flow, and what the continuation
of the caller was resumed with (`none` while the caller is suspended). -/
structure RefreshState where
  purchasesFlow : List Purchase
  resumed : Option (Except String (List Purchase))

/-- A continuation is resumed by its first `resume`. -/
def resume (continuation : Option (Except String (List Purchase)))
    (result : Except String (List Purchase)) : Option (Except String (List Purchase)) :=
  continuation <|> some result

/-- The state in which `refreshPurchases` has issued its queries: without a connection
the caller has its failure already and no query is sent. -/
def refreshPurchases (isConnected : Bool) (purchasesFlow : List Purchase) : RefreshState :=
  if !isConnected then
    { purchasesFlow, resumed := some (.error "Billing client not connected") }
  else
    { purchasesFlow, resumed := none }

/-- The callback of the SUBS query. -/
def onSubsPurchases (s : RefreshState) (billingResult : BillingResult)
    (purchases : Option (List Purchase)) : RefreshState :=
  if billingResult.responseCode = BillingResponseCode.ok then
    { purchasesFlow := purchases.getD []
      resumed := resume s.resumed (.ok (purchases.getD [])) }
  else
    { s with
      resumed := resume s.resumed
        (.error ("Query purchases failed: " ++ billingResult.debugMessage)) }

/-- The callback of the INAPP query. -/
def onInappPurchases (s : RefreshState) (billingResult : BillingResult)
    (purchases : Option (List Purchase)) : RefreshState :=
  if billingResult.responseCode = BillingResponseCode.ok then
    { s with purchasesFlow := s.purchasesFlow ++ purchases.getD [] }
  else
    s

/-- One callback of the suspended call. -/
def onPurchasesResponse (s : RefreshState) (r : PurchasesResponse) : RefreshState :=
  match r.productType with
  | .subs => onSubsPurchases s r.billingResult r.purchases
  | .inapp => onInappPurchases s r.billingResult r.purchases

/-! ### Both queries answered -/

/-- An OK response that carries a list. -/
def okResponse (t : ProductType) (purchases : List Purchase) : PurchasesResponse :=
  { productType := t
    billingResult := { responseCode := BillingResponseCode.ok, debugMessage := "" }
    purchases := some purchases }

/-- The two orders in which the callbacks can arrive, named by the earlier one. -/
def callbackOrder (first : ProductType) (subs inapp : List Purchase) :
    List PurchasesResponse :=
  match first with
  | .subs => [okResponse .subs subs, okResponse .inapp inapp]
  | .inapp => [okResponse .inapp inapp, okResponse .subs subs]

/-- A connected call of `refreshPurchases` after both callbacks have run. -/
def mergeCallbacks (previous subs inapp : List Purchase) (first : ProductType) :
    RefreshState :=
  Machine.run onPurchasesResponse (refreshPurchases true previous)
    (callbackOrder first subs inapp)

/-- What the flow shows after both callbacks: the purchases of the first one are lost if it was
that of the products bought once. -/
theorem purchasesFlow_mergeCallbacks (previous subs inapp : List Purchase)
    (first : ProductType) :
    (mergeCallbacks previous subs inapp first).purchasesFlow =
      match first with
      | .subs => subs ++ inapp
      | .inapp => subs := by
  cases first <;> rfl

/-- Whatever the order, the caller is answered with the SUBS list alone. -/
theorem resumed_mergeCallbacks (previous subs inapp : List Purchase)
    (first : ProductType) :
    (mergeCallbacks previous subs inapp first).resumed = some (.ok subs) := by
  cases first <;> rfl

/-- The purpose of the two queries: afterwards the flow holds the SUBS and the INAPP
purchases and nothing else, and the list handed to the caller has the INAPP ones too. -/
def MergesBoth (previous subs inapp : List Purchase) (first : ProductType) : Prop :=
  (mergeCallbacks previous subs inapp first).purchasesFlow.Perm (subs ++ inapp) ∧
    ∃ received, (mergeCallbacks previous subs inapp first).resumed = some (.ok received) ∧
      subs ⊆ received ∧ inapp ⊆ received

/-- **The merge succeeds exactly when the INAPP query adds nothing**: it is empty, or the
SUBS callback came first and every INAPP purchase was already among the SUBS ones. -/
theorem mergesBoth_iff (previous subs inapp : List Purchase) (first : ProductType) :
    MergesBoth previous subs inapp first ↔
      inapp = [] ∨ (first = .subs ∧ inapp ⊆ subs) := by
  have hreceived : (∃ received,
      (mergeCallbacks previous subs inapp first).resumed = some (.ok received) ∧
        subs ⊆ received ∧ inapp ⊆ received) ↔ inapp ⊆ subs := by
    rw [resumed_mergeCallbacks]
    constructor
    · rintro ⟨received, heq, -, hsub⟩
      cases heq
      exact hsub
    · intro hsub
      exact ⟨subs, rfl, List.Subset.refl subs, hsub⟩
  rw [MergesBoth, hreceived, purchasesFlow_mergeCallbacks]
  cases first with
  | subs =>
      constructor
      · rintro ⟨-, hsub⟩
        exact Or.inr ⟨rfl, hsub⟩
      · rintro (rfl | ⟨-, hsub⟩)
        · exact ⟨List.Perm.refl _, List.nil_subset subs⟩
        · exact ⟨List.Perm.refl _, hsub⟩
  | inapp =>
      constructor
      · rintro ⟨hperm, -⟩
        have hlen : subs.length = (subs ++ inapp).length := hperm.length_eq
        rw [List.length_append] at hlen
        exact Or.inl (List.length_eq_zero_iff.mp (by omega))
      · rintro (rfl | ⟨h, -⟩)
        · exact ⟨by rw [List.append_nil], List.nil_subset subs⟩
        · cases h

/-- A lifetime purchase next to no subscription, INAPP callback first: the flow loses the
purchase and the caller never sees it. -/
theorem not_mergesBoth_lifetime :
    ¬ MergesBoth [] [] [{ products := ["premium_lifetime"], purchaseState := .purchased }]
        .inapp := by
  rintro ⟨hperm, -⟩
  rw [purchasesFlow_mergeCallbacks] at hperm
  exact absurd hperm.length_eq (by decide)

end BillingManagerImpl

end SpendCraft
