import SpendCraft.BillingManager
import SpendCraft.Lib.KotlinText

/-!
# Querying the Products

`BillingManagerImpl.queryProducts` splits the ids into subscriptions and one-time products
and asks Play for each kind that occurs. The callbacks share a list and a counter; the one
that brings the counter to the number of queries publishes the list and resumes the caller.
A product is what Play says it is.

## Conventions

The products are any type, since nothing is read of them here. The two kinds of ids are told by
the word `lifetime` in an id, and a kind without ids is not asked for. Play answers each query
once, in any order, with a success and a list, a success without one, or a failure. A call without
a connection, or without ids, issues no query; what becomes of its caller then is part of the
definition.

## Proof

`run_callbacks` is the invariant over the callbacks so far: the counter is their number, the list
has what the successful ones have found, and the caller has been resumed exactly if the counter
has reached the number of the queries. Since each query is answered once, that happens at the last
one and at no other, and the flow then has all of the list.

## Main results

* `run_callbacks`: the shared variables after any number of callbacks.
* `queryProducts_completes`: when the caller is resumed, and with what in the flow.
-/

namespace SpendCraft

open Kotlin Machine

namespace BillingManagerImpl

variable {ProductDetails : Type*}

/-- The shared flow and the variables of one call; `resumed` counts the resumptions of its
continuation, of which a second one ends the app. -/
structure QueryState (ProductDetails : Type*) where
  productDetailsFlow : List ProductDetails
  allProducts : List ProductDetails
  queriesCompleted : ℕ
  totalQueries : ℕ
  resumed : ℕ

/-- One invocation of a `queryProductDetailsAsync` callback. -/
structure ProductsResponse (ProductDetails : Type*) where
  productType : ProductType
  billingResult : BillingResult
  productDetailsList : Option (List ProductDetails)

/-- `subsProducts`: the ids without the word for a purchase that lasts. -/
def subsProducts (productIds : List Text) : List Text :=
  productIds.filter fun productId => !contains productId "lifetime".toList

/-- `inappProducts`: the ids with it. -/
def inappProducts (productIds : List Text) : List Text :=
  productIds.filter fun productId => contains productId "lifetime".toList

/-- The queries that are sent, in order. -/
def issuedQueries (productIds : List Text) : List (ProductType × List Text) :=
  (if (subsProducts productIds).isEmpty then [] else [(.subs, subsProducts productIds)]) ++
    if (inappProducts productIds).isEmpty then [] else [(.inapp, inappProducts productIds)]

/-- The state in which the queries have been sent. -/
def queryProducts (isConnected : Bool) (productIds : List Text)
    (productDetailsFlow : List ProductDetails) : QueryState ProductDetails :=
  let totalQueries := (issuedQueries productIds).length
  { productDetailsFlow := productDetailsFlow
    allProducts := []
    queriesCompleted := 0
    totalQueries := totalQueries
    resumed := if !isConnected then 1 else if totalQueries = 0 then 1 else 0 }

/-- `checkCompletion`: the last of the queries stores the products and resumes the caller. -/
def checkCompletion (s : QueryState ProductDetails) : QueryState ProductDetails :=
  let s := { s with queriesCompleted := s.queriesCompleted + 1 }
  if s.queriesCompleted = s.totalQueries then
    { s with productDetailsFlow := s.allProducts, resumed := s.resumed + 1 }
  else s

/-- The callback, which is the same for both kinds. -/
def onProductDetailsResponse (s : QueryState ProductDetails)
    (response : ProductsResponse ProductDetails) : QueryState ProductDetails :=
  if response.billingResult.responseCode = BillingResponseCode.ok then
    checkCompletion
      { s with allProducts := s.allProducts ++ response.productDetailsList.getD [] }
  else checkCompletion s

/-! ### The callbacks -/

/-- The products of a successful callback. -/
def ProductsResponse.found (response : ProductsResponse ProductDetails) : List ProductDetails :=
  if response.billingResult.responseCode = BillingResponseCode.ok then
    response.productDetailsList.getD []
  else []

/-- An answer adds what it found and is counted. -/
theorem onProductDetailsResponse_eq (s : QueryState ProductDetails)
    (response : ProductsResponse ProductDetails) :
    onProductDetailsResponse s response =
      checkCompletion { s with allProducts := s.allProducts ++ response.found } := by
  rw [onProductDetailsResponse, ProductsResponse.found]
  split_ifs
  · rfl
  · rw [List.append_nil]

/-- **The callbacks of a call.** Up to the number of queries, the list and the counter
follow the callbacks, and the last one publishes the list and resumes the caller. -/
theorem run_callbacks {s : QueryState ProductDetails} (hall : s.allProducts = [])
    (hcompleted : s.queriesCompleted = 0) (responses : List (ProductsResponse ProductDetails))
    (hle : responses.length ≤ s.totalQueries) (hpos : 0 < s.totalQueries) :
    run onProductDetailsResponse s responses =
      { productDetailsFlow :=
          if responses.length = s.totalQueries then responses.flatMap ProductsResponse.found
          else s.productDetailsFlow
        allProducts := responses.flatMap ProductsResponse.found
        queriesCompleted := responses.length
        totalQueries := s.totalQueries
        resumed := if responses.length = s.totalQueries then s.resumed + 1 else s.resumed } := by
  induction responses using List.reverseRecOn with
  | nil =>
      obtain ⟨flow, all, completed, total, resumed⟩ := s
      simp only at hall hcompleted hpos
      subst hall hcompleted
      simp [hpos.ne]
  | append_singleton responses response ih =>
      have hlt : responses.length < s.totalQueries := by
        rw [List.length_append, List.length_singleton] at hle
        omega
      rw [run_append, ih hlt.le, run_cons, run_nil, onProductDetailsResponse_eq, checkCompletion]
      simp only [hlt.ne, if_false, List.flatMap_append, List.flatMap_singleton,
        List.length_append, List.length_singleton]
      split_ifs
      · rfl
      · rfl

/-! ### Completion -/

/-- No query is issued exactly if no product is asked for. -/
theorem length_issuedQueries_eq_zero_iff {productIds : List Text} :
    (issuedQueries productIds).length = 0 ↔ productIds = [] := by
  have hsplit : productIds = [] ↔
      subsProducts productIds = [] ∧ inappProducts productIds = [] := by
    rw [subsProducts, inappProducts, List.filter_eq_nil_iff, List.filter_eq_nil_iff]
    constructor
    · rintro rfl
      exact ⟨by simp, by simp⟩
    · rintro ⟨hsubs, hinapp⟩
      rw [List.eq_nil_iff_forall_not_mem]
      intro productId hmem
      have hnot := hsubs productId hmem
      rw [Bool.not_eq_true, Bool.not_eq_false'] at hnot
      exact hinapp productId hmem hnot
  rw [hsplit, issuedQueries, List.length_eq_zero_iff, List.append_eq_nil_iff]
  simp

/-- **The products are queried** to the end, whatever the ids, the answers and their order:
the caller is resumed once, by the last callback, with the products of the successful ones
in the flow. Without ids the caller is resumed at once and the flow stays. -/
theorem queryProducts_completes (productIds : List Text)
    (productDetailsFlow : List ProductDetails)
    (responses : List (ProductsResponse ProductDetails))
    (hresponses : (responses.map ProductsResponse.productType).Perm
      ((issuedQueries productIds).map Prod.fst)) :
    let call := queryProducts true productIds productDetailsFlow
    (run onProductDetailsResponse call responses).resumed = 1 ∧
      (∀ pre, pre <+: responses → pre ≠ responses →
        (run onProductDetailsResponse call pre).resumed = 0) ∧
      (run onProductDetailsResponse call responses).productDetailsFlow =
        if productIds = [] then productDetailsFlow
        else responses.flatMap ProductsResponse.found := by
  intro call
  have hlength : responses.length = (issuedQueries productIds).length := by
    have hperm := hresponses.length_eq
    rwa [List.length_map, List.length_map] at hperm
  by_cases hnone : productIds = []
  · have hzero := length_issuedQueries_eq_zero_iff.mpr hnone
    obtain rfl : responses = [] := List.eq_nil_of_length_eq_zero (hlength.trans hzero)
    refine ⟨?_, ?_, ?_⟩
    · rw [run_nil]
      simp [call, queryProducts, hzero]
    · intro pre hpre hne
      exact absurd (List.prefix_nil.mp hpre) hne
    · rw [run_nil, if_pos hnone]
      rfl
  · have htotal : call.totalQueries = (issuedQueries productIds).length := rfl
    have hpos : 0 < call.totalQueries := by
      rw [htotal]
      exact Nat.pos_of_ne_zero (length_issuedQueries_eq_zero_iff.not.mpr hnone)
    have hresumed : call.resumed = 0 := by
      simp [call, queryProducts, length_issuedQueries_eq_zero_iff.not.mpr hnone]
    have hend := run_callbacks (s := call) rfl rfl responses (by omega) hpos
    refine ⟨?_, ?_, ?_⟩
    · rw [hend]
      dsimp only
      rw [if_pos (hlength.trans htotal.symm), hresumed]
    · intro pre hpre hne
      have hshorter : pre.length < responses.length :=
        lt_of_le_of_ne hpre.length_le fun heq => hne (hpre.eq_of_length heq)
      rw [run_callbacks (s := call) rfl rfl pre (by omega) hpos]
      dsimp only
      rw [if_neg (by omega), hresumed]
    · rw [hend]
      dsimp only
      rw [if_pos (hlength.trans htotal.symm), if_neg hnone]

/-- The one-time products are answered first, and the subscriptions are not found. -/
theorem queryProducts_completes_lifetime :
    let call :=
      queryProducts true ["premium_monthly".toList, "premium_lifetime".toList] ([] : List ℕ)
    let responses : List (ProductsResponse ℕ) :=
      [⟨.inapp, ⟨BillingResponseCode.ok, ""⟩, some [7]⟩, ⟨.subs, ⟨2, "unavailable"⟩, none⟩]
    (run onProductDetailsResponse call responses).resumed = 1 ∧
      (∀ pre, pre <+: responses → pre ≠ responses →
        (run onProductDetailsResponse call pre).resumed = 0) ∧
      (run onProductDetailsResponse call responses).productDetailsFlow = [7] :=
  queryProducts_completes ["premium_monthly".toList, "premium_lifetime".toList] ([] : List ℕ)
    [⟨.inapp, ⟨BillingResponseCode.ok, ""⟩, some [7]⟩, ⟨.subs, ⟨2, "unavailable"⟩, none⟩]
    (by decide)

end BillingManagerImpl

end SpendCraft
