import SpendCraft.Lib.Migration
import SpendCraft.Lib.SqlScript

/-!
# Opening an Older Database

`provideDb` registers five migrations with Room: `1 → 2 → 3 → 4 → 5` and `7 → 8`, for a
database of version `8`. Room applies a path of registered migrations and checks the schema
that results; where it finds no path, `fallbackToDestructiveMigration` has it drop all
tables and create them again. Room is a parameter: its path finder, its generated schema
check, and its generated empty database.

## Conventions

A migration is its script, run by `Lib.SqlScript`; a statement that fails makes the opening fail.
The columns and the defaults are those of the source, in its order. `Room` is a structure: a path
finder that finds paths of registered migrations and overlooks none where a version has one
migration at most, a schema check that is any function, and an empty database of its own.
`walkingRoom` is an instance of it.

An installed database (`Installed`) has the tables that its version should have, as far as the
migrations ask for them, and one of version `7` passes the check once it is migrated.

## Proof

From no version below `7` is there a path to version `8`: the versions up to `6` are closed under
the registered migrations (`Migration.not_isPath_of_closed`). So such a database is dropped, and
its transactions are kept only if there are none. From version `7` there is the one script, and
the rows are kept by `keeps_of_path`, which reads off the statements that none of them writes the
columns.

## Main results

* `migrations_keep`, `keeps_of_path`: no registered migration writes what the transactions
  had, and so no path does.
* `not_isPath_of_lt`: from no version below `7` is there a path.
* `opensWithRows_iff`: opening keeps the transactions just when the installed version is `7`
  or there are none.
-/

namespace SpendCraft

open Kotlin Sql Migration

/-! ### The migrations -/

/-- A column that may be null. -/
def nullable (affinity : Affinity) (name : Text) : Column :=
  { name := name, affinity := affinity, notNull := false, default := .null }

/-- A column that may not be null, with its default. -/
def notNull (affinity : Affinity) (name : Text) (default : Value) : Column :=
  { name := name, affinity := affinity, notNull := true, default := default }

/-- The statements of the migration from version 1 to 2: accounts come with a first one, and every
transaction belongs to it. -/
def migration_1_2_script : List Statement :=
  [.createTableIfNotExists "accounts".toList
      [notNull .integer "id".toList .null, notNull .text "name".toList .null,
        notNull .integer "isDefault".toList (.integer 0)]
      ["id".toList] true,
    .insertInto "accounts".toList
      [("name".toList, .text "Ana Hesap".toList), ("isDefault".toList, .integer 1)],
    .addColumn "transactions".toList (nullable .integer "accountId".toList),
    .createIndexIfNotExists "index_transactions_accountId".toList "transactions".toList
      "accountId".toList,
    .update "transactions".toList "accountId".toList (.integer 1) none]

/-- The statements of the migration from version 2 to 3. -/
def migration_2_3_script : List Statement :=
  [.createTableIfNotExists "daily_entry".toList [notNull .integer "dateEpochDay".toList .null]
    ["dateEpochDay".toList] false]

/-- The statements of the migration from version 3 to 4. -/
def migration_3_4_script : List Statement :=
  [.createTableIfNotExists "budget".toList
      [notNull .text "categoryId".toList .null, notNull .integer "monthlyLimitMinor".toList .null]
      ["categoryId".toList] false,
    .createTableIfNotExists "budget_alert".toList
      [notNull .text "categoryId".toList .null, notNull .integer "level".toList .null,
        notNull .text "monthKey".toList .null]
      ["categoryId".toList, "level".toList, "monthKey".toList] false]

/-- The statements of the migration from version 4 to 5: the accounts get a type, a currency and
an archive flag, and rows without them get the defaults. -/
def migration_4_to_5_script : List Statement :=
  [.addColumn "accounts".toList (notNull .text "type".toList (.text "CASH".toList)),
    .addColumn "accounts".toList (notNull .text "currency".toList (.text "TRY".toList)),
    .addColumn "accounts".toList (notNull .integer "archived".toList (.integer 0)),
    .update "accounts".toList "type".toList (.text "CASH".toList)
      (some [("type".toList, .null), ("type".toList, .text [])]),
    .update "accounts".toList "currency".toList (.text "TRY".toList)
      (some [("currency".toList, .null), ("currency".toList, .text [])]),
    .update "accounts".toList "archived".toList (.integer 0)
      (some [("archived".toList, .null)]),
    .createIndexIfNotExists "index_accounts_isDefault".toList "accounts".toList
      "isDefault".toList,
    .createIndexIfNotExists "index_accounts_archived".toList "accounts".toList
      "archived".toList,
    .createTableIfNotExists "recurring_rules".toList
      [notNull .integer "id".toList .null,
        notNull .integer "templateTransactionId".toList .null,
        notNull .text "frequency".toList .null,
        notNull .integer "interval".toList (.integer 1),
        notNull .integer "nextRunEpoch".toList .null, nullable .integer "endEpoch".toList,
        notNull .integer "isActive".toList (.integer 1)]
      ["id".toList] true,
    .createIndexIfNotExists "index_recurring_rules_nextRunEpoch".toList
      "recurring_rules".toList "nextRunEpoch".toList,
    .createIndexIfNotExists "index_recurring_rules_templateTransactionId".toList
      "recurring_rules".toList "templateTransactionId".toList,
    .createTableIfNotExists "sharing_members".toList
      [notNull .integer "id".toList .null, notNull .text "householdId".toList .null,
        notNull .text "userId".toList .null, notNull .text "role".toList .null,
        notNull .integer "invitedAt".toList .null, nullable .integer "joinedAt".toList]
      ["id".toList] true,
    .createIndexIfNotExists "index_sharing_members_householdId".toList
      "sharing_members".toList "householdId".toList,
    .createIndexIfNotExists "index_sharing_members_userId".toList "sharing_members".toList
      "userId".toList,
    .createTableIfNotExists "ai_usage".toList
      [notNull .integer "id".toList .null, notNull .text "userId".toList .null,
        notNull .integer "lastUsedEpoch".toList (.integer 0),
        notNull .integer "weeklyQuota".toList (.integer 1),
        notNull .integer "usedThisWeek".toList (.integer 0)]
      ["id".toList] true,
    .createIndexIfNotExists "index_ai_usage_userId".toList "ai_usage".toList "userId".toList]

/-- The statement of the migration from version 7 to 8. -/
def migration_7_8_script : List Statement :=
  [.addColumn "categories".toList (notNull .integer "isIncome".toList (.integer 0))]

/-- `MIGRATION_1_2`. -/
def migration_1_2 : Migration Sql.Database :=
  { startVersion := 1
    endVersion := 2
    startVersion_lt := by decide
    migrate := execAll migration_1_2_script }

/-- `MIGRATION_2_3`. -/
def migration_2_3 : Migration Sql.Database :=
  { startVersion := 2
    endVersion := 3
    startVersion_lt := by decide
    migrate := execAll migration_2_3_script }

/-- `MIGRATION_3_4`. -/
def migration_3_4 : Migration Sql.Database :=
  { startVersion := 3
    endVersion := 4
    startVersion_lt := by decide
    migrate := execAll migration_3_4_script }

/-- `MIGRATION_4_TO_5`. -/
def migration_4_to_5 : Migration Sql.Database :=
  { startVersion := 4
    endVersion := 5
    startVersion_lt := by decide
    migrate := execAll migration_4_to_5_script }

/-- `MIGRATION_7_8`. -/
def migration_7_8 : Migration Sql.Database :=
  { startVersion := 7
    endVersion := 8
    startVersion_lt := by decide
    migrate := execAll migration_7_8_script }

/-! ### The database builder -/

/-- The version of `AppDatabase`. -/
def appDatabaseVersion : ℕ := 8

/-- The argument of `addMigrations`. -/
def registeredMigrations : List (Migration Sql.Database) :=
  [migration_1_2, migration_2_3, migration_3_4, migration_4_to_5, migration_7_8]

/-- Room, with the code it generates from the entities of version `8`. -/
structure Room extends PathFinder Sql.Database where
  validateSchema : Sql.Database → Bool
  createAllTables : Sql.Database
  rows_createAllTables : ∀ name table, createAllTables.tables name = some table →
    table.rows = []

/-- The database after it has been opened; `none` if a statement or the check of the schema
throws. -/
def provideDb (room : Room) (version : ℕ) (installed : Sql.Database) : Option Sql.Database :=
  match room.findMigrationPath registeredMigrations version appDatabaseVersion with
  | some path => do
      let migrated ← applyPath path installed
      guard (room.validateSchema migrated)
      some migrated
  | none => some room.createAllTables

/-! ### What the transactions had -/

/-- The table whose rows the migrations must keep. -/
def transactionsTable : Text := "transactions".toList

/-- Its columns at the first version. -/
def transactionColumns : List Text :=
  ["id".toList, "amountMinor".toList, "timestampUtcMillis".toList, "note".toList,
    "categoryId".toList, "isIncome".toList]

/-- The rows of the transactions. -/
def transactionRows (db : Sql.Database) : List (List Value) :=
  db.select transactionsTable transactionColumns

/-- No statement of a registered migration writes one of the columns. -/
theorem migrations_keep {m : Migration Sql.Database} (hm : m ∈ registeredMigrations)
    {db migrated : Sql.Database} (h : m.migrate db = some migrated) :
    Keeps transactionsTable transactionColumns db migrated := by
  simp only [registeredMigrations, List.mem_cons, List.not_mem_nil, or_false] at hm
  rcases hm with rfl | rfl | rfl | rfl | rfl <;> exact keeps_execAll (by decide) h

/-- No two registered migrations start at one version. -/
theorem nodup_startVersion : (registeredMigrations.map startVersion).Nodup := by
  decide

/-- **The gap**: no migration leads from a version below `7` to `7` or above. -/
theorem not_isPath_of_lt {version : ℕ} (h : version < 7) (path : List (Migration Sql.Database)) :
    ¬IsPath registeredMigrations version appDatabaseVersion path := by
  refine not_isPath_of_closed (S := fun version => version < 7) ?_ h (by decide)
  intro m hm hstart
  simp only [registeredMigrations, List.mem_cons, List.not_mem_nil, or_false] at hm
  rcases hm with rfl | rfl | rfl | rfl | rfl
  · decide
  · decide
  · decide
  · decide
  · exact absurd hstart (by decide)

/-- From version 7 there is a path of one migration. -/
theorem isPath_of_seven :
    IsPath registeredMigrations 7 appDatabaseVersion [migration_7_8] :=
  ⟨by simp [registeredMigrations], rfl, rfl⟩

/-! ### Opening -/

/-- A database that an older version of the app has left: it has the transactions, the
categories have no type yet, and the version before the current one differs from it by what
its migration adds. -/
structure Installed (room : Room) (version : ℕ) (db : Sql.Database) : Prop where
  one_le : 1 ≤ version
  le_seven : version ≤ 7
  transactions : ∃ table, db.tables transactionsTable = some table ∧
    ∀ column ∈ transactionColumns, table.hasColumn column = true
  categories : ∃ table, db.tables "categories".toList = some table ∧
    table.hasColumn "isIncome".toList = false
  schema : version = 7 → ∀ migrated, migration_7_8.migrate db = some migrated →
    room.validateSchema migrated = true

variable {room : Room} {version : ℕ} {db opened : Sql.Database}

/-- A database that is created anew has no transactions. -/
theorem transactionRows_createAllTables : transactionRows room.createAllTables = [] := by
  rw [transactionRows, Database.select]
  cases htable : room.createAllTables.tables transactionsTable with
  | none => rfl
  | some table =>
      rw [Option.map_some, Option.getD_some, Table.select,
        room.rows_createAllTables _ table htable]
      rfl

/-- **The wipe**: below version `7`, opening gives the empty database. -/
theorem provideDb_of_lt (h : version < 7) :
    provideDb room version db = some room.createAllTables := by
  rw [provideDb]
  cases hfind : room.findMigrationPath registeredMigrations version appDatabaseVersion with
  | none => rfl
  | some path =>
      exact absurd (room.isPath_of_find _ _ _ path hfind) (not_isPath_of_lt h path)

/-- The last migration does not fail. -/
theorem exists_migrate_7_8 (h : Installed room version db) :
    ∃ migrated, migration_7_8.migrate db = some migrated := by
  obtain ⟨table, htable, hcolumn⟩ := h.categories
  obtain ⟨migrated, hmigrated⟩ : ∃ migrated, exec db (.addColumn "categories".toList
      (notNull .integer "isIncome".toList (.integer 0))) = some migrated :=
    exists_exec_addColumn htable hcolumn (by decide)
  refine ⟨migrated, ?_⟩
  simp only [migration_7_8, migration_7_8_script, execAll, List.foldlM_cons, List.foldlM_nil,
    hmigrated]
  rfl

/-- **A path keeps the transactions**, whatever the installed version. -/
theorem keeps_of_path {path : List (Migration Sql.Database)}
    (hpath : IsPath registeredMigrations version appDatabaseVersion path)
    (happly : applyPath path db = some opened) :
    Keeps transactionsTable transactionColumns db opened :=
  applyPath_invariant (R := Keeps transactionsTable transactionColumns)
    (Keeps.refl _ _) (fun _ _ _ => Keeps.trans) (fun _ hm _ _ => migrations_keep hm) hpath happly

/-- From version `7` on there is a path, and it is the last migration. -/
theorem provideDb_seven (h : Installed room 7 db) :
    ∃ opened, provideDb room 7 db = some opened ∧
      Keeps transactionsTable transactionColumns db opened := by
  obtain ⟨migrated, hmigrated⟩ := exists_migrate_7_8 h
  have happly : applyPath [migration_7_8] db = some migrated := by
    rw [applyPath, List.foldlM_cons, hmigrated]
    rfl
  refine ⟨migrated, ?_, keeps_of_path isPath_of_seven happly⟩
  rw [provideDb]
  cases hfind : room.findMigrationPath registeredMigrations 7 appDatabaseVersion with
  | none =>
      exact absurd isPath_of_seven (room.not_isPath_of_find _ _ _ nodup_startVersion hfind _)
  | some path =>
      have hpath := room.isPath_of_find _ _ _ path hfind
      obtain rfl := isPath_unique nodup_startVersion hpath isPath_of_seven
      have hcheck := h.schema rfl migrated hmigrated
      exact Option.bind_eq_some_iff.mpr ⟨migrated, happly,
        Option.bind_eq_some_iff.mpr ⟨(), guard_eq_some hcheck, rfl⟩⟩

/-- **Opening keeps every transaction** just when the installed version is the one before
the current one, or there are no transactions. -/
theorem opensWithRows_iff (h : Installed room version db) :
    (∃ opened, provideDb room version db = some opened ∧
        ∀ row ∈ transactionRows db, row ∈ transactionRows opened) ↔
      version = 7 ∨ transactionRows db = [] := by
  rcases Nat.lt_or_eq_of_le h.le_seven with hlt | rfl
  · rw [provideDb_of_lt hlt]
    constructor
    · rintro ⟨opened, hopened, hrows⟩
      obtain rfl := Option.some_inj.mp hopened
      rw [transactionRows_createAllTables] at hrows
      exact Or.inr (List.eq_nil_iff_forall_not_mem.mpr fun row hrow =>
        List.not_mem_nil (hrows row hrow))
    · rintro (rfl | hempty)
      · exact absurd hlt (lt_irrefl 7)
      · refine ⟨room.createAllTables, rfl, ?_⟩
        rw [hempty]
        exact fun row hrow => absurd hrow List.not_mem_nil
  · refine iff_of_true ?_ (Or.inl rfl)
    obtain ⟨opened, hopened, hkeeps⟩ := provideDb_seven h
    obtain ⟨table, htable, -⟩ := h.transactions
    obtain ⟨-, hselect⟩ := hkeeps (by rw [htable]; rfl)
    refine ⟨opened, hopened, ?_⟩
    intro row hrow
    rw [transactionRows, hselect]
    exact hrow

/-! ### An installed database -/

/-- Room with the transactions alone, and a check for one column. -/
def walkingRoom : Room :=
  { toPathFinder := PathFinder.walking Sql.Database
    validateSchema := fun db =>
      ((db.tables "categories".toList).map fun table =>
        table.hasColumn "isIncome".toList).getD false
    createAllTables :=
      { tables := fun name =>
          if name = transactionsTable then
            some
              { columns := transactionColumns.map (nullable .integer)
                primaryKey := ["id".toList]
                autoincrement := true
                rows := []
                sequence := 0 }
          else none
        indices := fun _ => none }
    rows_createAllTables := by
      intro name table h
      simp only at h
      split_ifs at h
      obtain rfl := Option.some_inj.mp h
      rfl }

/-- The row of a coffee, as the first version stores it. -/
def coffeeRow : Row := fun column =>
  if column = "id".toList then .integer 1
  else if column = "amountMinor".toList then .integer 450
  else if column = "timestampUtcMillis".toList then .integer 1640995200000
  else if column = "isIncome".toList then .integer 0
  else .null

/-- One transaction and no categories. -/
def installedDatabase : Sql.Database :=
  { tables := fun name =>
      if name = transactionsTable then
        some
          { columns := transactionColumns.map (nullable .integer)
            primaryKey := ["id".toList]
            autoincrement := true
            rows := [coffeeRow]
            sequence := 1 }
      else if name = "categories".toList then
        some
          { columns := [notNull .integer "id".toList .null]
            primaryKey := ["id".toList]
            autoincrement := true
            rows := []
            sequence := 0 }
      else none
    indices := fun _ => none }

/-- This Room opens a database of any earlier version in the same way. -/
theorem installed_walkingRoom {version : ℕ} (h : 1 ≤ version) (h' : version ≤ 7) :
    Installed walkingRoom version installedDatabase := by
  refine ⟨h, h', ⟨_, rfl, by decide⟩, ⟨_, rfl, rfl⟩, ?_⟩
  rintro - migrated hmigrated
  obtain rfl := Option.some_inj.mp hmigrated
  rfl

/-- The theorem at version 7, from which there is a path. -/
theorem opensWithRows_seven :
    (∃ opened, provideDb walkingRoom 7 installedDatabase = some opened ∧
        ∀ row ∈ transactionRows installedDatabase, row ∈ transactionRows opened) ↔
      7 = 7 ∨ transactionRows installedDatabase = [] :=
  opensWithRows_iff (installed_walkingRoom (by decide) (by decide))

/-- The transaction of a database of version `5` is lost. -/
theorem not_opensWithRows_five :
    Installed walkingRoom 5 installedDatabase ∧
      ¬∃ opened, provideDb walkingRoom 5 installedDatabase = some opened ∧
        ∀ row ∈ transactionRows installedDatabase, row ∈ transactionRows opened := by
  refine ⟨installed_walkingRoom (by decide) (by decide), ?_⟩
  rintro ⟨opened, hopened, hrows⟩
  rw [provideDb_of_lt (by decide)] at hopened
  obtain rfl := Option.some_inj.mp hopened
  rw [transactionRows_createAllTables] at hrows
  exact List.not_mem_nil (hrows _ List.mem_cons_self)

end SpendCraft
