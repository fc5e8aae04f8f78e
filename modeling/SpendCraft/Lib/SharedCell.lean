import Mathlib.Data.List.Basic
import Mathlib.Data.List.GetD
import Mathlib.Tactic.ByContra

/-!
# Cells with Several Collectors

A cell takes what the collectors of a query bring. Collecting starts with the result for the
source as it is; every write to the source makes the query run again for every collector. The
results arrive in their order at each collector, which drops some for later ones, and in any
order among the collectors, so that an old result may take the place of a new one for a while.

## Conventions

Every collector has its own queue, in the order in which the source has changed, and a new
collector starts with the result for the source as it is. A delivery names the collector whose turn
it is and how many results are dropped before the one that arrives; collectors are never removed.
The cell has no queue: it holds whatever a collector has handed over last, and a collector that is
behind puts an older result back.

## Proof

The invariant is `Current`, a structure of two fields: the last result of every collector is that
of the source, and where no collector has a result left the cell has it. A write makes every
queue end with the new result, and a delivery hands over a last result only if nothing is behind
it. That all results can arrive is shown by delivering them collector by collector.

## Main results

* `current_collect`, `current_write`, `Current.deliver`: the last result that is on its way to
  a collector is that of the source; when all have arrived, so is the value of the cell.
* `exists_delivered`: they can always arrive.
-/

/-- A source, a cell, and for each collector the results that have not arrived. -/
structure SharedCell (σ α : Type*) where
  source : σ
  value : α
  collectors : List (List α)

namespace SharedCell

variable {σ α : Type*} (query : σ → α)

/-- A new collector gets the result of the query first. -/
def collect (cell : SharedCell σ α) : SharedCell σ α :=
  { cell with collectors := cell.collectors ++ [[query cell.source]] }

/-- A write changes the source, and every collector gets the new result after those it has not
read. -/
def write (f : σ → σ) (cell : SharedCell σ α) : SharedCell σ α :=
  { cell with
    source := f cell.source
    collectors := cell.collectors.map fun results => results ++ [query (f cell.source)] }

/-- A result arrives at the collector `i`, behind `k` that are dropped. -/
def deliver (i k : ℕ) (cell : SharedCell σ α) : SharedCell σ α :=
  match (cell.collectors.getD i []).drop k with
  | value :: results =>
      { cell with value := value, collectors := cell.collectors.set i results }
  | [] => cell

/-- A delivery does not touch the source. -/
@[simp] theorem source_deliver (i k : ℕ) (cell : SharedCell σ α) :
    (cell.deliver i k).source = cell.source := by
  rw [deliver]
  split
  · rfl
  · rfl

/-- Nothing is on its way. -/
def Delivered (cell : SharedCell σ α) : Prop :=
  ∀ results ∈ cell.collectors, results = []

/-- The last result for each collector is that of the source, and where there is none left for
any of them, so is the value. -/
structure Current (cell : SharedCell σ α) : Prop where
  last : ∀ results ∈ cell.collectors, ∀ result ∈ results.getLast?, result = query cell.source
  value : Delivered cell → cell.collectors ≠ [] → cell.value = query cell.source

variable {query} {cell : SharedCell σ α}

/-- Only a collector that exists has results. -/
theorem lt_length_of_drop_getD {collectors : List (List α)} {i k : ℕ} {value : α}
    {rest : List α} (h : (collectors.getD i []).drop k = value :: rest) :
    i < collectors.length := by
  by_contra hge
  rw [List.getD_eq_default _ _ (Nat.not_lt.mp hge), List.drop_nil] at h
  cases h

/-- A new collector has the current result last. -/
theorem current_collect (h : Current query cell) : Current query (cell.collect query) where
  last := by
    intro results hresults result hresult
    rw [collect, List.mem_append, List.mem_singleton] at hresults
    rcases hresults with hold | rfl
    · exact h.last results hold result hresult
    · rw [List.getLast?_singleton, Option.mem_some_iff] at hresult
      exact hresult.symm
  value := by
    intro hdelivered
    have hnew := hdelivered [query cell.source] (by simp [collect])
    cases hnew

/-- After a write, every collector has the current result last. -/
theorem current_write (f : σ → σ) : Current query (cell.write query f) where
  last := by
    intro results hresults result hresult
    obtain ⟨before, -, rfl⟩ := List.mem_map.mp hresults
    rw [List.getLast?_append_cons, List.getLast?_singleton, Option.mem_some_iff] at hresult
    exact hresult.symm
  value := by
    intro hdelivered hne
    obtain ⟨results, hresults⟩ := List.exists_mem_of_ne_nil _ hne
    have hempty := hdelivered results hresults
    obtain ⟨before, -, rfl⟩ := List.mem_map.mp hresults
    exact absurd hempty (by simp)

/-- A delivery leaves the last result in place. -/
theorem Current.deliver (h : Current query cell) (i k : ℕ) :
    Current query (cell.deliver i k) := by
  rw [SharedCell.deliver]
  split
  next value rest hdrop =>
    have hsplit := List.take_append_drop k (cell.collectors.getD i [])
    rw [hdrop] at hsplit
    have hi := lt_length_of_drop_getD hdrop
    have hmem : cell.collectors.getD i [] ∈ cell.collectors := by
      rw [List.getD_eq_getElem _ _ hi]
      exact List.getElem_mem hi
    have hlast : ∀ result ∈ (value :: rest).getLast?, result = query cell.source := by
      intro result hresult
      apply h.last _ hmem
      rw [← hsplit, List.getLast?_append_cons]
      exact hresult
    refine ⟨?_, ?_⟩
    · intro results hresults result hresult
      rcases List.mem_or_eq_of_mem_set hresults with hold | rfl
      · exact h.last results hold result hresult
      · apply hlast
        rw [List.getLast?_cons, Option.mem_def.mp hresult, Option.getD_some]
        rfl
    · intro hdelivered _
      have hrest : rest = [] := hdelivered rest (List.mem_set hi rest)
      exact hlast value (by rw [hrest]; rfl)
  next => exact h

/-! ### Arrivals -/

/-- The results of several collectors, one after the other. -/
def deliverAll (arrivals : List (ℕ × ℕ)) (cell : SharedCell σ α) : SharedCell σ α :=
  arrivals.foldl (fun cell arrival => cell.deliver arrival.1 arrival.2) cell

/-- A delivery starts no collector. -/
theorem length_collectors_deliver (i k : ℕ) (cell : SharedCell σ α) :
    (cell.deliver i k).collectors.length = cell.collectors.length := by
  rw [deliver]
  split
  · exact List.length_set
  · rfl

/-- A delivery to one collector does not touch the others. -/
theorem getD_collectors_deliver_of_ne {i j : ℕ} (h : i ≠ j) (k : ℕ) (cell : SharedCell σ α) :
    (cell.deliver i k).collectors.getD j [] = cell.collectors.getD j [] := by
  rw [deliver]
  split
  · simp [List.getD_eq_getElem?_getD, List.getElem?_set_ne h]
  · rfl

/-- The last result of a collector arrives. -/
theorem getD_collectors_deliver_last (i : ℕ) (cell : SharedCell σ α) :
    (cell.deliver i ((cell.collectors.getD i []).length - 1)).collectors.getD i [] = [] := by
  rw [deliver]
  split
  next value rest hdrop =>
    have hlength := congrArg List.length hdrop
    rw [List.length_drop, List.length_cons] at hlength
    have hrest : rest = [] := List.length_eq_zero_iff.mp (by omega)
    have hi := lt_length_of_drop_getD hdrop
    simp [List.getD_eq_getElem?_getD, hi, hrest]
  next hdrop =>
    have hlength := congrArg List.length hdrop
    rw [List.length_drop, List.length_nil] at hlength
    exact List.length_eq_zero_iff.mp (by omega)

/-- **All results can arrive.** -/
theorem exists_delivered (cell : SharedCell σ α) :
    ∃ arrivals, Delivered (cell.deliverAll arrivals) := by
  have hfirst : ∀ n, ∃ arrivals,
      (cell.deliverAll arrivals).collectors.length = cell.collectors.length ∧
        ∀ i < n, (cell.deliverAll arrivals).collectors.getD i [] = [] := by
    intro n
    induction n with
    | zero => exact ⟨[], rfl, by simp⟩
    | succ n ih =>
        obtain ⟨arrivals, hlength, hempty⟩ := ih
        refine ⟨arrivals ++
          [(n, ((cell.deliverAll arrivals).collectors.getD n []).length - 1)], ?_, ?_⟩
        · rw [deliverAll, List.foldl_append]
          exact (length_collectors_deliver ..).trans hlength
        · intro i hi
          rw [deliverAll, List.foldl_append]
          by_cases hn : n = i
          · subst hn
            exact getD_collectors_deliver_last n _
          · exact (getD_collectors_deliver_of_ne hn _ _).trans (hempty i (by omega))
  obtain ⟨arrivals, hlength, hempty⟩ := hfirst cell.collectors.length
  refine ⟨arrivals, fun results hresults => ?_⟩
  obtain ⟨i, hi, rfl⟩ := List.getElem_of_mem hresults
  rw [← List.getD_eq_getElem _ [] hi]
  exact hempty i (by omega)

end SharedCell
