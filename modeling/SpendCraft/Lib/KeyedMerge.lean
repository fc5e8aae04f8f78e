import SpendCraft.Lib.Table
import Mathlib.Data.List.Induction

/-!
# Merging Entries by a Key

The rows of a table have a key of their own, next to the row id, and several rows may have
one key. An entry is written over the row of its key that a fetch returns first; where
there is none, a row is added for it. `Merge` gathers what the fetch, the entries and the
rows must be like.

## Conventions

The rows have a generated id (`RowId`), and the key of a row is another column, which nothing
makes unique. Which of several rows with the key a fetch returns is left to the function `first`
of their ids, which returns one of them, as a query does whose order is not stated. The other
fields of `Merge` say what the columns do: an assignment leaves the id and the key, and a second
assignment makes the first one unseen.

## Proof

A write either assigns to the fetched row or adds a row. Where a row is fetched for the key of every
entry, a whole merge only assigns, and the rows are mapped by `overwrite`, in which the last entry
for a row wins. `Closed` says that this is so and that `overwrite` leaves every row as it is; a
merge makes its table closed (`closed_writeAll`, by induction on the entries from their end), so a
second one changes nothing.

## Main results

* `rows_writeAll_of_closed`: entries whose keys are all present change the rows in place.
* `rows_writeAll_writeAll`: writing the same entries again changes nothing.
-/

namespace Relational

/-- How entries of the type `ε` are written into a table of rows of the type `ρ`. -/
structure Merge (ρ ε κ : Type*) [RowId ρ] where
  key : ρ → κ
  entryKey : ε → κ
  create : ε → ρ
  assign : ε → ρ → ρ
  first : List ℤ → Option ℤ
  first_mem : ∀ ids id, first ids = some id → id ∈ ids
  first_isSome : ∀ ids, ids ≠ [] → (first ids).isSome
  id_create : ∀ e, RowId.id (create e) = 0
  key_withId_create : ∀ n e, key (RowId.withId n (create e)) = entryKey e
  id_assign : ∀ e r, RowId.id (assign e r) = RowId.id r
  key_assign : ∀ e r, key (assign e r) = key r
  assign_assign : ∀ e e' r, assign e (assign e' r) = assign e r
  assign_create : ∀ n e, assign e (RowId.withId n (create e)) = RowId.withId n (create e)

namespace Merge

variable {ρ ε κ : Type*} [RowId ρ] (m : Merge ρ ε κ)

/-! ### One row -/

/-- The assignment to one row. -/
def assignTo (id : ℤ) (e : ε) (r : ρ) : ρ :=
  if RowId.id r = id then m.assign e r else r

/-- An assignment keeps the id of the row. -/
@[simp] theorem id_assignTo (id : ℤ) (e : ε) (r : ρ) :
    RowId.id (m.assignTo id e r) = RowId.id r := by
  rw [assignTo]
  split_ifs
  · exact m.id_assign e r
  · rfl

/-- An assignment keeps the key of the row. -/
@[simp] theorem key_assignTo (id : ℤ) (e : ε) (r : ρ) :
    m.key (m.assignTo id e r) = m.key r := by
  rw [assignTo]
  split_ifs
  · exact m.key_assign e r
  · rfl

/-- The assignments of the entries to one row; `target` is the row that is fetched by a
key. -/
def overwrite (target : κ → Option ℤ) (es : List ε) (r : ρ) : ρ :=
  es.foldl (fun r e => if target (m.entryKey e) = some (RowId.id r) then m.assign e r else r) r

variable {m} {e : ε} {es : List ε}

/-- The last of several entries is assigned last. -/
theorem overwrite_append_singleton (target : κ → Option ℤ) (es : List ε) (e : ε) (r : ρ) :
    m.overwrite target (es ++ [e]) r =
      if target (m.entryKey e) = some (RowId.id (m.overwrite target es r)) then
        m.assign e (m.overwrite target es r)
      else m.overwrite target es r := by
  rw [overwrite, List.foldl_append]
  rfl

/-- What entries overwrite keeps its id. -/
@[simp] theorem id_overwrite (target : κ → Option ℤ) (es : List ε) (r : ρ) :
    RowId.id (m.overwrite target es r) = RowId.id r := by
  induction es using List.reverseRecOn with
  | nil => rfl
  | append_singleton es e ih =>
      rw [overwrite_append_singleton]
      split_ifs
      · rw [m.id_assign, ih]
      · exact ih

/-- What entries overwrite keeps its key. -/
@[simp] theorem key_overwrite (target : κ → Option ℤ) (es : List ε) (r : ρ) :
    m.key (m.overwrite target es r) = m.key r := by
  induction es using List.reverseRecOn with
  | nil => rfl
  | append_singleton es e ih =>
      rw [overwrite_append_singleton]
      split_ifs
      · rw [m.key_assign, ih]
      · exact ih

/-- A last assignment hides those before it. -/
theorem assign_overwrite (target : κ → Option ℤ) (es : List ε) (e : ε) (r : ρ) :
    m.assign e (m.overwrite target es r) = m.assign e r := by
  induction es using List.reverseRecOn generalizing e with
  | nil => rfl
  | append_singleton es e' ih =>
      rw [overwrite_append_singleton]
      split_ifs
      · rw [m.assign_assign, ih]
      · exact ih e

/-- What is overwritten depends on the targets of the entries only. -/
theorem overwrite_congr {target target' : κ → Option ℤ}
    (h : ∀ e ∈ es, target (m.entryKey e) = target' (m.entryKey e)) (r : ρ) :
    m.overwrite target es r = m.overwrite target' es r := by
  induction es using List.reverseRecOn with
  | nil => rfl
  | append_singleton es e ih =>
      rw [overwrite_append_singleton, overwrite_append_singleton,
        ih fun e' he' => h e' (List.mem_append_left _ he'),
        h e (List.mem_append_right _ (List.mem_singleton_self e))]

/-! ### One entry -/

variable [DecidableEq κ]

variable (m) in
/-- The first row that a fetch by key returns. -/
def fetch (k : κ) (t : AutoTable ρ) : Option ℤ :=
  m.first ((t.rows.filter fun r => m.key r == k).map RowId.id)

variable (m) in
/-- The write of one entry: it is assigned to the row that is fetched for its key, or a row is
created for it. -/
def write (t : AutoTable ρ) (e : ε) : AutoTable ρ :=
  match m.fetch (m.entryKey e) t with
  | some id => t.updateSet (m.assignTo id e) (m.id_assignTo id e)
  | none => t.insertOrReplace (m.create e)

variable (m) in
/-- The writes of several entries, one after the other. -/
def writeAll (t : AutoTable ρ) (es : List ε) : AutoTable ρ :=
  es.foldl m.write t

variable {t u : AutoTable ρ} {id : ℤ} {k : κ}

/-- The last entry is written last. -/
theorem writeAll_append_singleton (t : AutoTable ρ) (es : List ε) (e : ε) :
    m.writeAll t (es ++ [e]) = m.write (m.writeAll t es) e := by
  rw [writeAll, List.foldl_append]
  rfl

/-- An entry with a row is assigned to it. -/
theorem rows_write_of_some (h : m.fetch (m.entryKey e) t = some id) :
    (m.write t e).rows = t.rows.map (m.assignTo id e) := by
  rw [write, h]
  rfl

/-- An entry without a row is appended. -/
theorem rows_write_of_none (h : m.fetch (m.entryKey e) t = none) :
    (m.write t e).rows = t.rows ++ [RowId.withId (t.sequence + 1) (m.create e)] := by
  rw [write, h]
  exact t.rows_insertOrReplace_generated (m.id_create e)

/-- What a fetch returns is the id of a row with the key. -/
theorem exists_of_fetch (h : m.fetch k t = some id) :
    ∃ r ∈ t.rows, m.key r = k ∧ RowId.id r = id := by
  obtain ⟨r, hr, rfl⟩ := List.mem_map.mp (m.first_mem _ _ h)
  obtain ⟨hmem, hkey⟩ := List.mem_filter.mp hr
  exact ⟨r, hmem, by simpa using hkey, rfl⟩

/-- Nothing is fetched exactly if no row has the key. -/
theorem fetch_eq_none_iff : m.fetch k t = none ↔ ∀ r ∈ t.rows, m.key r ≠ k := by
  constructor
  · intro h r hr hkey
    have hsome := m.first_isSome ((t.rows.filter fun r => m.key r == k).map RowId.id)
      (List.ne_nil_of_mem (List.mem_map_of_mem (List.mem_filter.mpr ⟨hr, by simpa using hkey⟩)))
    rw [fetch] at h
    rw [h] at hsome
    cases hsome
  · intro h
    rcases hfetch : m.fetch k t with _ | id
    · rfl
    · obtain ⟨r, hr, hkey, -⟩ := exists_of_fetch hfetch
      exact absurd hkey (h r hr)

/-- A fetch reads the ids and the keys. -/
theorem fetch_of_rows_map {f : ρ → ρ} (hrows : u.rows = t.rows.map f)
    (hid : ∀ r, RowId.id (f r) = RowId.id r) (hkey : ∀ r, m.key (f r) = m.key r) (k : κ) :
    m.fetch k u = m.fetch k t := by
  have hkeys : ((fun r => m.key r == k) ∘ f) = fun r => m.key r == k := by
    funext r
    rw [Function.comp_apply, hkey]
  have hids : RowId.id ∘ f = RowId.id := funext hid
  rw [fetch, fetch, hrows, List.filter_map, List.map_map, hkeys, hids]

/-- Another row is not fetched by the key of a row that is added. -/
theorem fetch_of_rows_append {r : ρ} (hrows : u.rows = t.rows ++ [r]) (hne : m.key r ≠ k) :
    m.fetch k u = m.fetch k t := by
  rw [fetch, fetch, hrows, List.filter_append, List.filter_cons_of_neg (by simpa using hne),
    List.filter_nil, List.append_nil]

/-- The row that is added is fetched by its key, if no row had it before. -/
theorem fetch_added {r : ρ} (hrows : u.rows = t.rows ++ [r]) (hnone : m.fetch (m.key r) t = none) :
    m.fetch (m.key r) u = some (RowId.id r) := by
  rcases hfetch : m.fetch (m.key r) u with _ | id
  · rw [fetch_eq_none_iff] at hfetch
    have hmem := List.mem_append_right t.rows (List.mem_singleton_self r)
    rw [← hrows] at hmem
    exact absurd rfl (hfetch r hmem)
  · obtain ⟨r', hr', hkey, rfl⟩ := exists_of_fetch hfetch
    rw [hrows] at hr'
    rcases List.mem_append.mp hr' with hold | hnew
    · exact absurd hkey (fetch_eq_none_iff.mp hnone r' hold)
    · rw [List.mem_singleton.mp hnew]

/-! ### All entries -/

/-- **Entries whose keys are present** change the rows in place. -/
theorem rows_writeAll_of_closed (h : ∀ e ∈ es, m.fetch (m.entryKey e) t ≠ none) :
    (m.writeAll t es).rows = t.rows.map (m.overwrite (fun k => m.fetch k t) es) := by
  induction es using List.reverseRecOn with
  | nil => exact (List.map_id _).symm
  | append_singleton es e ih =>
      have hes := ih fun e' he' => h e' (List.mem_append_left _ he')
      have hfetch := fetch_of_rows_map hes (id_overwrite _ es) (key_overwrite _ es)
      obtain ⟨id, hid⟩ := Option.ne_none_iff_exists'.mp
        (h e (List.mem_append_right _ (List.mem_singleton_self e)))
      rw [writeAll_append_singleton, rows_write_of_some ((hfetch _).trans hid), hes, List.map_map]
      apply List.map_congr_left
      intro r _
      rw [Function.comp_apply, overwrite_append_singleton, assignTo, hid]
      by_cases hr : RowId.id (m.overwrite (fun k => m.fetch k t) es r) = id
      · rw [if_pos hr, if_pos (by rw [hr])]
      · rw [if_neg hr, if_neg fun heq => hr (Option.some_inj.mp heq).symm]

variable (m) in
/-- The keys of the entries are present, and their assignments are made. -/
structure Closed (es : List ε) (u : AutoTable ρ) : Prop where
  fetched : ∀ e ∈ es, m.fetch (m.entryKey e) u ≠ none
  done : ∀ r ∈ u.rows, m.overwrite (fun k => m.fetch k u) es r = r

/-- A row is added, which no earlier entry is written to. -/
theorem Closed.write_of_none {u : AutoTable ρ} (h : m.Closed es u)
    (hfetch : m.fetch (m.entryKey e) u = none) : m.Closed (es ++ [e]) (m.write u e) := by
  have hrows := rows_write_of_none hfetch
  have hid : RowId.id (RowId.withId (u.sequence + 1) (m.create e)) = u.sequence + 1 :=
    RowId.id_withId _ _
  have hkey := m.key_withId_create (u.sequence + 1) e
  have hassign := m.assign_create (u.sequence + 1) e
  generalize RowId.withId (u.sequence + 1) (m.create e) = added at hrows hid hkey hassign
  have hne : ∀ e' ∈ es, m.entryKey e ≠ m.entryKey e' := by
    intro e' he' heq
    exact h.fetched e' he' (heq ▸ hfetch)
  have hearlier : ∀ e' ∈ es,
      m.fetch (m.entryKey e') (m.write u e) = m.fetch (m.entryKey e') u := fun e' he' =>
    fetch_of_rows_append hrows (by rw [hkey]; exact hne e' he')
  have hcongr : ∀ r, m.overwrite (fun k => m.fetch k (m.write u e)) es r =
      m.overwrite (fun k => m.fetch k u) es r := overwrite_congr hearlier
  have hadded : m.fetch (m.entryKey e) (m.write u e) = some (u.sequence + 1) := by
    rw [← hkey, ← hid]
    exact fetch_added hrows (by rw [hkey, hfetch])
  constructor
  · intro e' he'
    obtain hold | hnew := List.mem_append.mp he'
    · rw [hearlier e' hold]
      exact h.fetched e' hold
    · rw [List.mem_singleton.mp hnew, hadded]
      exact Option.some_ne_none _
  · intro r hr
    rw [overwrite_append_singleton, hadded, id_overwrite, hcongr]
    rw [hrows] at hr
    obtain hold | hnew := List.mem_append.mp hr
    · rw [h.done r hold, if_neg]
      exact fun heq => u.generatedId_not_mem hold (Option.some_inj.mp heq).symm
    · obtain rfl := List.mem_singleton.mp hnew
      rw [if_pos (by rw [hid]), assign_overwrite, hassign]

/-- The fetched row is overwritten. -/
theorem Closed.write_of_some {u : AutoTable ρ} {id : ℤ} (h : m.Closed es u)
    (hfetch : m.fetch (m.entryKey e) u = some id) : m.Closed (es ++ [e]) (m.write u e) := by
  have hrows := rows_write_of_some hfetch
  have hsame := fetch_of_rows_map hrows (m.id_assignTo id e) (m.key_assignTo id e)
  have htarget : (fun k => m.fetch k (m.write u e)) = fun k => m.fetch k u := funext hsame
  constructor
  · intro e' he'
    rw [hsame]
    obtain hold | hnew := List.mem_append.mp he'
    · exact h.fetched e' hold
    · rw [List.mem_singleton.mp hnew, hfetch]
      exact Option.some_ne_none id
  · intro r hr
    rw [htarget]
    rw [hrows] at hr
    obtain ⟨r₀, hr₀, rfl⟩ := List.mem_map.mp hr
    rw [overwrite_append_singleton, id_overwrite, id_assignTo, hfetch]
    by_cases hid : RowId.id r₀ = id
    · rw [if_pos (by rw [hid]), assign_overwrite, assignTo, if_pos hid, m.assign_assign]
    · rw [if_neg fun heq => hid (Option.some_inj.mp heq).symm, assignTo, if_neg hid,
        h.done r₀ hr₀]

/-- **After the entries are written**, their keys are present, and their assignments are
made. -/
theorem closed_writeAll (t : AutoTable ρ) (es : List ε) : m.Closed es (m.writeAll t es) := by
  induction es using List.reverseRecOn with
  | nil => exact ⟨by simp, fun _ _ => rfl⟩
  | append_singleton es e ih =>
      rw [writeAll_append_singleton]
      cases hfetch : m.fetch (m.entryKey e) (m.writeAll t es) with
      | none => exact ih.write_of_none hfetch
      | some id => exact ih.write_of_some hfetch

/-- **Writing the same entries again** changes no row. -/
theorem rows_writeAll_writeAll (t : AutoTable ρ) (es : List ε) :
    (m.writeAll (m.writeAll t es) es).rows = (m.writeAll t es).rows := by
  obtain ⟨hclosed, hdone⟩ := m.closed_writeAll t es
  rw [rows_writeAll_of_closed hclosed]
  calc (m.writeAll t es).rows.map (m.overwrite (fun k => m.fetch k (m.writeAll t es)) es)
      = (m.writeAll t es).rows.map (fun r => r) := List.map_congr_left hdone
    _ = (m.writeAll t es).rows := List.map_id' _

end Merge

end Relational
