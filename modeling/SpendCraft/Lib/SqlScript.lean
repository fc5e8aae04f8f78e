import SpendCraft.Lib.KotlinText

/-!
# Scripts of SQL Statements

The statements that change a schema, and their effect on a database: a database has tables
by name, a table has columns and rows, and a row has a value for each column. A statement
may fail, and then the script stops.

## Conventions

Five kinds of statements are here: a table or an index is created if it does not exist, a row is
inserted, a column is added, and rows are updated under a disjunction of comparisons. Nothing is
dropped, renamed or queried across tables. A value is null, a number, or a text, and an affinity
converts no value. A statement fails if its table or column is missing, if an added column is there
already, if a value that must not be null is, and if a key is taken. There is no transaction in the
model: a script that fails returns nothing, and what is left of the database then is for the runner
of the script to say.

## Proof

A statement writes one table, and within it the columns it names. `Statement.LeavesAlone` reads off
the text of a statement that it writes none of the given columns of a table, and `Keeps` compares
the rows by these columns alone; the comparison is a preorder, so a script is followed statement by
statement.

## Main results

* `keeps_exec`, `keeps_execAll`: columns that no statement writes keep their values, row
  by row.
-/

namespace Sql

open Kotlin

/-! ### Databases -/

/-- The affinities of the columns in use. -/
inductive Affinity
  | integer
  | text
  deriving DecidableEq, Repr

/-- The values of a cell. -/
inductive Value
  | null
  | integer (n : ℤ)
  | text (s : Text)
  deriving DecidableEq, Repr

/-- A column; where an insert leaves it out it gets the default. -/
structure Column where
  name : Text
  affinity : Affinity
  notNull : Bool
  default : Value
  deriving DecidableEq, Repr

/-- A row, as the values of its columns by name. -/
abbrev Row := Text → Value

/-- A table; with `autoincrement` the only column of the primary key is generated. -/
structure Table where
  columns : List Column
  primaryKey : List Text
  autoincrement : Bool
  rows : List Row
  sequence : ℤ

/-- An index on one column. -/
structure Index where
  table : Text
  column : Text
  deriving DecidableEq, Repr

/-- A database: tables and indices by their names. -/
structure Database where
  tables : Text → Option Table
  indices : Text → Option Index

namespace Table

/-- A table has a column of the name. -/
def hasColumn (table : Table) (column : Text) : Bool :=
  table.columns.any fun c => c.name == column

/-- `SELECT columns FROM table` -/
def select (columns : List Text) (table : Table) : List (List Value) :=
  table.rows.map fun row => columns.map row

/-- No column that must have a value is null. -/
def admits (table : Table) (row : Row) : Bool :=
  table.columns.all fun c => !c.notNull || row c.name != .null

/-- The primary key of the row is free. -/
def keyFree (table : Table) (row : Row) : Bool :=
  table.rows.all fun row' => table.primaryKey.any fun column => row' column != row column

/-- The highest generated key, after a row. -/
def sequenceAfter (table : Table) (row : Row) : ℤ :=
  match table.primaryKey.map row with
  | [.integer key] => max table.sequence key
  | _ => table.sequence

end Table

namespace Database

/-- A table is created or changed under its name. -/
def setTable (name : Text) (table : Table) (db : Database) : Database :=
  { db with tables := fun name' => if name' = name then some table else db.tables name' }

/-- The tables after one was set. -/
theorem tables_setTable (name name' : Text) (table : Table) (db : Database) :
    (db.setTable name table).tables name' =
      if name' = name then some table else db.tables name' :=
  rfl

/-- The rows of a query; a table that is missing has none. -/
def select (name : Text) (columns : List Text) (db : Database) : List (List Value) :=
  ((db.tables name).map (Table.select columns)).getD []

/-- A query of a table that is there. -/
theorem select_of_table {name : Text} {db : Database} {table : Table}
    (h : db.tables name = some table) (columns : List Text) :
    db.select name columns = table.select columns := by
  rw [select, h]
  rfl

end Database

/-! ### Statements -/

/-- The statements. The condition of an update is a disjunction of comparisons of a column
with a value; `none` stands for an update of all rows. -/
inductive Statement
  | createTableIfNotExists (name : Text) (columns : List Column) (primaryKey : List Text)
      (autoincrement : Bool)
  | insertInto (table : Text) (values : List (Text × Value))
  | addColumn (table : Text) (column : Column)
  | createIndexIfNotExists (index table column : Text)
  | update (table column : Text) (value : Value) (condition : Option (List (Text × Value)))
  deriving DecidableEq, Repr

/-- The row that an insert adds. -/
def insertedRow (table : Table) (values : List (Text × Value)) : Row := fun name =>
  match values.lookup name with
  | some value => value
  | none =>
      if table.autoincrement && table.primaryKey.contains name then
        .integer (table.sequence + 1)
      else
        ((table.columns.find? fun c => c.name == name).map Column.default).getD .null

/-- A row for which the condition of an update holds. -/
def matchesCondition (condition : Option (List (Text × Value))) (row : Row) : Bool :=
  match condition with
  | none => true
  | some comparisons => comparisons.any fun comparison => row comparison.1 == comparison.2

/-- The effect of a statement, `none` if it fails. -/
def exec (db : Database) : Statement → Option Database
  | .createTableIfNotExists name columns primaryKey autoincrement =>
      if (db.tables name).isSome then some db
      else
        some (db.setTable name
          { columns := columns
            primaryKey := primaryKey
            autoincrement := autoincrement
            rows := []
            sequence := 0 })
  | .insertInto name values => do
      let table ← db.tables name
      let row := insertedRow table values
      guard (values.all fun value => table.hasColumn value.1)
      guard (table.admits row && table.keyFree row)
      some (db.setTable name
        { table with
          rows := table.rows ++ [row]
          sequence := table.sequenceAfter row })
  | .addColumn name column => do
      let table ← db.tables name
      guard (!table.hasColumn column.name)
      guard (!column.notNull || column.default != .null)
      some (db.setTable name
        { table with
          columns := table.columns ++ [column]
          rows := table.rows.map fun row => Function.update row column.name column.default })
  | .createIndexIfNotExists index name column => do
      let table ← db.tables name
      guard (table.hasColumn column)
      if (db.indices index).isSome then some db
      else
        some { db with
          indices := fun index' =>
            if index' = index then some { table := name, column := column }
            else db.indices index' }
  | .update name column value condition => do
      let table ← db.tables name
      guard (table.hasColumn column)
      let rows := table.rows.map fun row =>
        if matchesCondition condition row then Function.update row column value else row
      guard (rows.all fun row => table.admits row)
      some (db.setTable name { table with rows := rows })

/-- A condition that holds lets the computation go on. -/
theorem guard_eq_some {p : Bool} (h : p = true) : (guard (p = true) : Option Unit) = some () :=
  if_pos h

/-- A column can be added to a table that lacks it. -/
theorem exists_exec_addColumn {db : Database} {name : Text} {table : Table} {column : Column}
    (htable : db.tables name = some table) (hcolumn : table.hasColumn column.name = false)
    (hdefault : column.default ≠ .null) : ∃ db', exec db (.addColumn name column) = some db' := by
  have habsent : (!table.hasColumn column.name) = true := by
    rw [hcolumn]
    rfl
  have hadmits : (!column.notNull || column.default != .null) = true := by
    rw [bne_iff_ne.mpr hdefault, Bool.or_true]
  rw [← Option.isSome_iff_exists, exec, htable, Option.bind_eq_bind, Option.bind_some,
    guard_eq_some habsent, Option.bind_eq_bind, Option.bind_some, guard_eq_some hadmits]
  rfl

/-- A script: its statements one after the other, until one fails. -/
def execAll (statements : List Statement) (db : Database) : Option Database :=
  statements.foldlM exec db

/-! ### Columns that are left alone -/

/-- The statement writes none of the columns of a table that exists. -/
def Statement.LeavesAlone (name : Text) (columns : List Text) : Statement → Prop
  | createTableIfNotExists _ _ _ _ => True
  | insertInto table _ => table ≠ name
  | addColumn table column => table = name → column.name ∉ columns
  | createIndexIfNotExists _ _ _ => True
  | update table column _ _ => table = name → column ∉ columns

/-- Whether a statement leaves columns alone is read off its text. -/
instance (name : Text) (columns : List Text) :
    ∀ s : Statement, Decidable (s.LeavesAlone name columns)
  | .createTableIfNotExists _ _ _ _ => inferInstanceAs (Decidable True)
  | .insertInto table _ => inferInstanceAs (Decidable (table ≠ name))
  | .addColumn table column =>
      inferInstanceAs (Decidable (table = name → column.name ∉ columns))
  | .createIndexIfNotExists _ _ _ => inferInstanceAs (Decidable True)
  | .update table column _ _ => inferInstanceAs (Decidable (table = name → column ∉ columns))

variable {name : Text} {columns : List Text} {db db' : Database} {table table' : Table}

/-- A change of the rows that spares the columns does not show in a query of them. -/
theorem Table.select_map {f : Row → Row} (hf : ∀ row, columns.map (f row) = columns.map row)
    (h : table'.rows = table.rows.map f) : table'.select columns = table.select columns := by
  rw [Table.select, Table.select, h, List.map_map]
  exact List.map_congr_left fun row _ => hf row

/-- A change of another column does not show in the columns. -/
theorem map_update_of_not_mem {column : Text} (h : column ∉ columns) (row : Row) (value : Value) :
    columns.map (Function.update row column value) = columns.map row := by
  apply List.map_congr_left
  intro column' hcolumn'
  apply Function.update_of_ne
  rintro rfl
  exact h hcolumn'

/-- The table is there, and a query of the columns gives the same rows. -/
def Keeps (name : Text) (columns : List Text) (db db' : Database) : Prop :=
  (db.tables name).isSome → (db'.tables name).isSome ∧
    db'.select name columns = db.select name columns

/-- Nothing done keeps the rows. -/
theorem Keeps.refl (name : Text) (columns : List Text) (db : Database) :
    Keeps name columns db db :=
  fun h => ⟨h, rfl⟩

/-- Keeping the rows composes. -/
theorem Keeps.trans {db'' : Database} (h : Keeps name columns db db')
    (h' : Keeps name columns db' db'') : Keeps name columns db db'' := by
  intro hexists
  obtain ⟨hexists', hselect⟩ := h hexists
  obtain ⟨hexists'', hselect'⟩ := h' hexists'
  exact ⟨hexists'', hselect'.trans hselect⟩

/-- Writing another table. -/
theorem keeps_setTable_of_ne {written : Text} (hne : name ≠ written) :
    Keeps name columns db (db.setTable written table') := by
  intro hexists
  have hset : (db.setTable written table').tables name = db.tables name := by
    rw [Database.tables_setTable, if_neg hne]
  refine ⟨by rwa [hset], ?_⟩
  rw [Database.select, Database.select, hset]

/-- Writing back a table whose columns in question are the same. -/
theorem keeps_setTable {written : Text} (htable : db.tables written = some table)
    (h : written = name → table'.select columns = table.select columns) :
    Keeps name columns db (db.setTable written table') := by
  by_cases hname : name = written
  · intro hexists
    have hset : (db.setTable written table').tables name = some table' := by
      rw [Database.tables_setTable, if_pos hname]
    rw [← hname] at htable
    refine ⟨by rw [hset]; rfl, ?_⟩
    rw [Database.select_of_table hset, Database.select_of_table htable, h hname.symm]
  · exact keeps_setTable_of_ne hname

/-- **Frame rule**: what a statement leaves alone keeps its values. -/
theorem keeps_exec {s : Statement} (h : s.LeavesAlone name columns)
    (hexec : exec db s = some db') : Keeps name columns db db' := by
  cases s with
  | createTableIfNotExists created columns' primaryKey autoincrement =>
      rw [exec] at hexec
      split_ifs at hexec with hcreated
      · obtain rfl := Option.some_inj.mp hexec
        exact Keeps.refl name columns db
      · obtain rfl := Option.some_inj.mp hexec
        intro hexists
        have hne : name ≠ created := by
          rintro rfl
          exact hcreated hexists
        exact keeps_setTable_of_ne hne hexists
  | insertInto inserted values =>
      rw [exec] at hexec
      obtain ⟨table, htable, hexec⟩ := Option.bind_eq_some_iff.mp hexec
      obtain ⟨-, -, hexec⟩ := Option.bind_eq_some_iff.mp hexec
      obtain ⟨-, -, hexec⟩ := Option.bind_eq_some_iff.mp hexec
      obtain rfl := Option.some_inj.mp hexec
      exact keeps_setTable htable fun hname => absurd hname h
  | addColumn altered column =>
      rw [exec] at hexec
      obtain ⟨table, htable, hexec⟩ := Option.bind_eq_some_iff.mp hexec
      obtain ⟨-, -, hexec⟩ := Option.bind_eq_some_iff.mp hexec
      obtain ⟨-, -, hexec⟩ := Option.bind_eq_some_iff.mp hexec
      obtain rfl := Option.some_inj.mp hexec
      refine keeps_setTable htable fun hname => Table.select_map ?_ rfl
      exact fun row => map_update_of_not_mem (h hname) row column.default
  | createIndexIfNotExists index indexed column =>
      rw [exec] at hexec
      obtain ⟨table, htable, hexec⟩ := Option.bind_eq_some_iff.mp hexec
      obtain ⟨-, -, hexec⟩ := Option.bind_eq_some_iff.mp hexec
      split_ifs at hexec
      · obtain rfl := Option.some_inj.mp hexec
        exact Keeps.refl name columns db
      · obtain rfl := Option.some_inj.mp hexec
        exact fun hexists => ⟨hexists, rfl⟩
  | update updated column value condition =>
      rw [exec] at hexec
      obtain ⟨table, htable, hexec⟩ := Option.bind_eq_some_iff.mp hexec
      obtain ⟨-, -, hexec⟩ := Option.bind_eq_some_iff.mp hexec
      obtain ⟨-, -, hexec⟩ := Option.bind_eq_some_iff.mp hexec
      obtain rfl := Option.some_inj.mp hexec
      refine keeps_setTable htable fun hname => Table.select_map ?_ rfl
      intro row
      split_ifs
      · exact map_update_of_not_mem (h hname) row value
      · rfl

/-- **The rule for scripts:** a script keeps the rows of a table in columns that each of its
statements leaves alone. -/
theorem keeps_execAll {statements : List Statement}
    (h : ∀ s ∈ statements, s.LeavesAlone name columns)
    (hexec : execAll statements db = some db') : Keeps name columns db db' := by
  induction statements generalizing db with
  | nil =>
      obtain rfl := Option.some_inj.mp hexec
      exact Keeps.refl name columns db
  | cons s statements ih =>
      rw [execAll, List.foldlM_cons, Option.bind_eq_bind, Option.bind_eq_some_iff] at hexec
      obtain ⟨db₁, hs, hstatements⟩ := hexec
      refine (keeps_exec (h s List.mem_cons_self) hs).trans ?_
      exact ih (fun s' hs' => h s' (List.mem_cons_of_mem s hs')) hstatements

end Sql
