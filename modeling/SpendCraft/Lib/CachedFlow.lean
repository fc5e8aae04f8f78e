import Mathlib.Data.List.Basic

/-!
# Cached Flows

A flow of the results of a query has a cached value. While the flow is collected, every write
to the source makes the query run again; its results arrive later, in their order, and a result
may be dropped for one behind it. Otherwise the cached value is the last one that arrived, or
the initial one.

## Conventions

The flow is a record of its source, its cached value, and the results that wait; `none` for the
results means that nobody collects. The steps are all that can happen: a write, a subscriber that
comes or goes, and the arrival of a result. `deliver k` drops `k` results and hands over the next
one, so that a run with no drops and a run in which only the last result arrives are both among
the runs. There is no fairness: that a result arrives is a hypothesis where it is needed.

## Proof

The invariant is `Consistent`: the last result in the queue, or the cached value behind an empty
queue, is the result for the source. It says nothing while the flow is not collected, which is
when the cached value may be old. Each step is one case.

## Main results

* `Consistent.write`, `Consistent.event`: the last result is that of the source.
* `Consistent.value_eq`: when all results have arrived, so is the cached value.
-/

/-- A source, the cached value of the flow, and the results that have not arrived, if it is
collected. -/
structure CachedFlow (σ α : Type*) where
  source : σ
  value : α
  results : Option (List α)
  deriving DecidableEq, Repr

/-- What happens to a flow beside the writes to its source. The event `deliver k` is the arrival
of a result, behind `k` that are dropped. -/
inductive FlowEvent
  | subscribe
  | unsubscribe
  | deliver (k : ℕ)
  deriving DecidableEq, Repr

namespace CachedFlow

variable {σ α : Type*} (query : σ → α)

/-- Nobody has collected the flow. -/
def initial (source : σ) (value : α) : CachedFlow σ α :=
  { source := source, value := value, results := none }

/-- A write changes the source, and a subscriber gets the new result after those it has not read.
-/
def write (f : σ → σ) (flow : CachedFlow σ α) : CachedFlow σ α :=
  { flow with
    source := f flow.source
    results := flow.results.map fun results => results ++ [query (f flow.source)] }

/-- What happens to the flow besides writes. A delivery may skip results. -/
def event (flow : CachedFlow σ α) : FlowEvent → CachedFlow σ α
  | .subscribe => { flow with results := some [query flow.source] }
  | .unsubscribe => { flow with results := none }
  | .deliver k =>
      match flow.results.map (List.drop k) with
      | some (value :: results) => { flow with value := value, results := some results }
      | _ => flow

/-- Only writes change the source. -/
@[simp] theorem source_event (flow : CachedFlow σ α) (e : FlowEvent) :
    (flow.event query e).source = flow.source := by
  cases e with
  | subscribe => rfl
  | unsubscribe => rfl
  | deliver k =>
      rw [event]
      split
      · rfl
      · rfl

/-! ### The last result -/

/-- While the flow is collected, the last result, or the cached value behind it, is the result
for the source. -/
def Consistent (flow : CachedFlow σ α) : Prop :=
  ∀ results, flow.results = some results → results.getLast?.getD flow.value = query flow.source

variable {query} {flow : CachedFlow σ α}

/-- A flow that starts without a subscriber has nothing to be wrong about. -/
theorem consistent_initial (source : σ) (value : α) : Consistent query (initial source value) := by
  intro results h
  cases h

/-- A write keeps the flow consistent. -/
theorem Consistent.write (f : σ → σ) : Consistent query (flow.write query f) := by
  intro results h
  obtain ⟨before, -, rfl⟩ := Option.map_eq_some_iff.mp h
  rw [List.getLast?_append_cons, List.getLast?_singleton]
  rfl

/-- A step of the flow keeps it consistent. -/
theorem Consistent.event (h : Consistent query flow) (e : FlowEvent) :
    Consistent query (flow.event query e) := by
  cases e with
  | subscribe =>
      rintro results ⟨⟩
      rfl
  | unsubscribe =>
      rintro results ⟨⟩
  | deliver k =>
      rw [CachedFlow.event]
      split
      next value rest hdrop =>
        obtain ⟨results, hresults, heq⟩ := Option.map_eq_some_iff.mp hdrop
        rintro after ⟨⟩
        have hlast := h results hresults
        rw [← List.take_append_drop k results, heq, List.getLast?_append_cons,
          List.getLast?_cons] at hlast
        exact hlast
      next => exact h

/-- **When all results have arrived**, the cached value is that of the source. -/
theorem Consistent.value_eq (h : Consistent query flow) (hresults : flow.results = some []) :
    flow.value = query flow.source :=
  h [] hresults

end CachedFlow
