import SpendCraft.Repositories

/-!
# Referential Integrity

A transaction refers to its category and its account by id, and a budget refers to its
category by name. The schema declares no foreign key, so nothing but the operations
themselves keeps the references: a delete looks at no other table, and a rename of a
category leaves the budgets under the old name.

## Conventions

The three references are the fields of the structure: from a transaction to its category and its
account, and from a budget to a category with its name. That a call is made with existing
arguments is a condition on the run, `ArgumentsExist`, since the screens offer nothing else; what
a delete or a rename does to the rows that refer to a category is not, and is what the condition
`SparesReferences` describes. A category may share its name with another one.

## Proof

Each operation changes one table, so the lemmas come by tables: a change of the transactions or
the budgets is judged by the new rows, and a change of the categories or the accounts by what
still refers to the old ones. `referentialIntegrity_step_iff` collects them, one case for each
operation, and the runs are the rule of `Machine` for an exact condition under a side condition.

## Main results

* `referentialIntegrity_step_iff`: which operations keep the references.
* `alwaysReferential_iff`: the same for the runs.
-/

namespace SpendCraft

open Kotlin Relational Machine

/-- Every reference of the store is to an existing row. -/
structure ReferentialIntegrity (store : Store) : Prop where
  category_exists : ∀ t ∈ store.transactions.rows, ∀ id, t.categoryId = some id →
    ∃ row ∈ store.categories.rows, row.id = id
  account_exists : ∀ t ∈ store.transactions.rows, ∀ id, t.accountId = some id →
    ∃ row ∈ store.accounts.rows, row.id = id
  budget_named : ∀ budget ∈ store.budgets.rows,
    ∃ row ∈ store.categories.rows, row.name = budget.categoryId

/-- The rows that the arguments of the call refer to exist. -/
def ArgumentsExist (store : Store) : StoreOp → Prop
  | .upsert transaction =>
      (∀ id, transaction.id = some id → ∃ row ∈ store.transactions.rows, row.id = id) ∧
      (∀ id, transaction.categoryId = some id → ∃ row ∈ store.categories.rows, row.id = id) ∧
      ∀ id, transaction.accountId = some id → ∃ row ∈ store.accounts.rows, row.id = id
  | .delete transactionId => ∃ row ∈ store.transactions.rows, row.id = transactionId
  | .insertCategory _ | .replaceCategory _ | .insertAccount _ => True
  | .updateCategory category =>
      ∃ id, category.id = some id ∧ ∃ row ∈ store.categories.rows, row.id = id
  | .deleteCategory categoryId => ∃ row ∈ store.categories.rows, row.id = categoryId
  | .updateAccount account =>
      ∃ id, account.id = some id ∧ ∃ row ∈ store.accounts.rows, row.id = id
  | .deleteAccount accountId => ∃ row ∈ store.accounts.rows, row.id = accountId
  | .upsertBudget budget => ∃ row ∈ store.categories.rows, row.name = budget.categoryId
  | .deleteBudget categoryId => ∃ budget ∈ store.budgets.rows, budget.categoryId = categoryId

/-- Some category other than the one with the given id has the name. -/
def OtherCategoryNamed (store : Store) (id : ℤ) (name : Text) : Prop :=
  ∃ other ∈ store.categories.rows, other.id ≠ id ∧ other.name = name

/-- A budget with the old name of the category finds another category of that name,
unless the category keeps the name. -/
def RenameSparesBudgets (store : Store) (id : ℤ) (name : Text) : Prop :=
  ∀ row ∈ store.categories.rows, row.id = id → row.name ≠ name →
    ∀ budget ∈ store.budgets.rows, budget.categoryId = row.name →
      OtherCategoryNamed store id row.name

/-- No row would lose the row it refers to by the call. -/
def SparesReferences (store : Store) : StoreOp → Prop
  | .deleteCategory categoryId =>
      (∀ t ∈ store.transactions.rows, t.categoryId ≠ some categoryId) ∧
      ∀ row ∈ store.categories.rows, row.id = categoryId →
        ∀ budget ∈ store.budgets.rows, budget.categoryId = row.name →
          OtherCategoryNamed store categoryId row.name
  | .updateCategory category =>
      ∀ id, category.id = some id → RenameSparesBudgets store id category.name
  | .replaceCategory category =>
      ∀ id, category.id = some id → id ≠ 0 → RenameSparesBudgets store id category.name
  | .deleteAccount accountId =>
      (∀ row ∈ store.accounts.rows, row.id = accountId → row.isDefault = false) →
        ∀ t ∈ store.transactions.rows, t.accountId ≠ some accountId
  | _ => True

/-! ### One table changes -/

section OneTable

variable {store : Store} (h : ReferentialIntegrity store)

include h

/-- A change of the transactions keeps the references if every new row refers to what is there. -/
theorem ReferentialIntegrity.transactions {transactions : AutoTable TransactionEntity}
    (hrows : ∀ t ∈ transactions.rows, t ∈ store.transactions.rows ∨
      (∀ id, t.categoryId = some id → ∃ row ∈ store.categories.rows, row.id = id) ∧
        ∀ id, t.accountId = some id → ∃ row ∈ store.accounts.rows, row.id = id) :
    ReferentialIntegrity { store with transactions := transactions } where
  category_exists t ht id hid := by
    obtain hold | ⟨hcategory, -⟩ := hrows t ht
    · exact h.category_exists t hold id hid
    · exact hcategory id hid
  account_exists t ht id hid := by
    obtain hold | ⟨-, haccount⟩ := hrows t ht
    · exact h.account_exists t hold id hid
    · exact haccount id hid
  budget_named := h.budget_named

/-- A change of the budgets keeps the references if every new budget has its category. -/
theorem ReferentialIntegrity.budgets {budgets : Table BudgetEntity.categoryId}
    (hrows : ∀ budget ∈ budgets.rows, budget ∈ store.budgets.rows ∨
      ∃ row ∈ store.categories.rows, row.name = budget.categoryId) :
    ReferentialIntegrity { store with budgets := budgets } where
  category_exists := h.category_exists
  account_exists := h.account_exists
  budget_named budget hbudget := by
    obtain hold | hnamed := hrows budget hbudget
    · exact h.budget_named budget hold
    · exact hnamed

/-- A change of the accounts keeps the references exactly if every account in use is still there.
-/
theorem referentialIntegrity_accounts_iff (accounts : AutoTable AccountEntity) :
    ReferentialIntegrity { store with accounts := accounts } ↔
      ∀ t ∈ store.transactions.rows, ∀ id, t.accountId = some id →
        ∃ row ∈ accounts.rows, row.id = id := by
  constructor
  · exact ReferentialIntegrity.account_exists
  · intro haccounts
    exact ⟨h.category_exists, haccounts, h.budget_named⟩

/-- A change of the categories keeps the references exactly if every category in use is still
there, by its id and by its name. -/
theorem referentialIntegrity_categories_iff (categories : AutoTable CategoryEntity) :
    ReferentialIntegrity { store with categories := categories } ↔
      (∀ t ∈ store.transactions.rows, ∀ id, t.categoryId = some id →
        ∃ row ∈ categories.rows, row.id = id) ∧
      ∀ budget ∈ store.budgets.rows, ∃ row ∈ categories.rows, row.name = budget.categoryId := by
  constructor
  · intro h'
    exact ⟨h'.category_exists, h'.budget_named⟩
  · rintro ⟨hcategories, hbudgets⟩
    exact ⟨hcategories, h.account_exists, hbudgets⟩

/-- Accounts are added. -/
theorem ReferentialIntegrity.accounts_of_subset {accounts : AutoTable AccountEntity}
    (hsub : store.accounts.rows ⊆ accounts.rows) :
    ReferentialIntegrity { store with accounts := accounts } := by
  rw [referentialIntegrity_accounts_iff h]
  intro t ht id hid
  obtain ⟨row, hrow, heq⟩ := h.account_exists t ht id hid
  exact ⟨row, hsub hrow, heq⟩

/-- Categories are added. -/
theorem ReferentialIntegrity.categories_of_subset {categories : AutoTable CategoryEntity}
    (hsub : store.categories.rows ⊆ categories.rows) :
    ReferentialIntegrity { store with categories := categories } := by
  rw [referentialIntegrity_categories_iff h]
  refine ⟨?_, ?_⟩
  · intro t ht id hid
    obtain ⟨row, hrow, heq⟩ := h.category_exists t ht id hid
    exact ⟨row, hsub hrow, heq⟩
  · intro budget hbudget
    obtain ⟨row, hrow, heq⟩ := h.budget_named budget hbudget
    exact ⟨row, hsub hrow, heq⟩

/-- The category with the id `c` gets the name `name`, and the others keep theirs. -/
theorem referentialIntegrity_rename_iff {categories : AutoTable CategoryEntity} {c : ℤ}
    {name : Text}
    (hids : ∀ row ∈ store.categories.rows, ∃ row' ∈ categories.rows, row'.id = row.id)
    (hnames : ∀ n, (∃ row ∈ categories.rows, row.name = n) ↔
      OtherCategoryNamed store c n ∨ n = name) :
    ReferentialIntegrity { store with categories := categories } ↔
      RenameSparesBudgets store c name := by
  rw [referentialIntegrity_categories_iff h]
  constructor
  · rintro ⟨-, hbudgets⟩ row - - hne budget hbudget hkey
    obtain hother | heq := (hnames _).mp (hbudgets budget hbudget)
    · rwa [← hkey]
    · exact absurd (hkey.symm.trans heq) hne
  · intro hspares
    refine ⟨?_, ?_⟩
    · intro t ht id hid
      obtain ⟨row, hrow, rfl⟩ := h.category_exists t ht id hid
      exact hids row hrow
    · intro budget hbudget
      obtain ⟨row, hrow, heq⟩ := h.budget_named budget hbudget
      rw [hnames]
      by_cases hid : row.id = c
      · by_cases hname : row.name = name
        · exact Or.inr (heq.symm.trans hname)
        · left
          rw [← heq]
          exact hspares row hrow hid hname budget hbudget heq.symm
      · exact Or.inl ⟨row, hrow, hid, heq⟩

end OneTable

/-! ### The operations -/

section Operations

variable {store : Store} (h : ReferentialIntegrity store)

include h

/-- A transaction with existing references may be stored. -/
theorem referentialIntegrity_upsert {transaction : Transaction}
    (hargs : ArgumentsExist store (.upsert transaction)) :
    ReferentialIntegrity (StoreOp.step store (.upsert transaction)) := by
  obtain ⟨-, hcategory, haccount⟩ := hargs
  have hnew : ∀ id,
      (∀ i, (TransactionsRepositoryImpl.rowWithId id transaction).categoryId = some i →
        ∃ row ∈ store.categories.rows, row.id = i) ∧
      ∀ i, (TransactionsRepositoryImpl.rowWithId id transaction).accountId = some i →
        ∃ row ∈ store.accounts.rows, row.id = i :=
    fun _ => ⟨hcategory, haccount⟩
  change ReferentialIntegrity
    { store with toDatabase := TransactionsRepositoryImpl.upsert transaction store.toDatabase }
  rw [TransactionsRepositoryImpl.upsert]
  split_ifs
  · refine h.transactions fun t ht => ?_
    obtain ⟨ht, -⟩ | rfl := AutoTable.mem_insertOrReplace.mp ht
    · exact Or.inl ht
    · exact Or.inr (hnew _)
  · refine h.transactions fun t ht => ?_
    rw [AutoTable.rows_update] at ht
    obtain ⟨t₀, ht₀, rfl⟩ := List.mem_map.mp ht
    split_ifs
    · exact Or.inr (hnew _)
    · exact Or.inl ht₀

/-- A transaction may be deleted. -/
theorem referentialIntegrity_delete (transactionId : ℤ) :
    ReferentialIntegrity (StoreOp.step store (.delete transactionId)) :=
  h.transactions fun _ ht => Or.inl (List.mem_of_mem_filter ht)

/-- A category may be inserted. -/
theorem referentialIntegrity_insertCategory (category : Category) :
    ReferentialIntegrity (StoreOp.step store (.insertCategory category)) :=
  h.categories_of_subset (store.categories.rows_subset_insertOrIgnore _)

/-- A category that is written over another one renames it. -/
theorem referentialIntegrity_replaceCategory_iff (category : Category) :
    ReferentialIntegrity (StoreOp.step store (.replaceCategory category)) ↔
      SparesReferences store (.replaceCategory category) := by
  have hstored : store.categories.storedId (CategoryMapper.toEntity category) =
      if category.id.getD 0 = 0 then store.categories.sequence + 1 else category.id.getD 0 := rfl
  change ReferentialIntegrity { store with
    categories := store.categories.insertOrReplace (CategoryMapper.toEntity category) } ↔ _
  by_cases hid : category.id.getD 0 = 0
  · refine iff_of_true (h.categories_of_subset ?_) ?_
    · have hgenerated : (store.categories.insertOrReplace
          (CategoryMapper.toEntity category)).rows = _ :=
        store.categories.rows_insertOrReplace_generated hid
      rw [hgenerated]
      exact List.subset_append_left _ _
    · intro id heq hne
      rw [heq] at hid
      exact absurd hid hne
  · obtain ⟨c, hc⟩ : ∃ c, category.id = some c := by
      cases hsome : category.id with
      | none =>
          rw [hsome] at hid
          exact absurd rfl hid
      | some c => exact ⟨c, rfl⟩
    rw [if_neg hid, hc, Option.getD_some] at hstored
    rw [hc, Option.getD_some] at hid
    have hmem := @AutoTable.mem_insertOrReplace _ _ store.categories
      (CategoryMapper.toEntity category)
    rw [hstored] at hmem
    have hspares : SparesReferences store (.replaceCategory category) ↔
        RenameSparesBudgets store c category.name := by
      constructor
      · intro hall
        exact hall c hc hid
      · intro hc' id heq _
        obtain rfl : c = id := Option.some.inj (hc.symm.trans heq)
        exact hc'
    rw [hspares]
    refine referentialIntegrity_rename_iff h ?_ ?_
    · intro row hrow
      by_cases heq : row.id = c
      · exact ⟨_, hmem.mpr (Or.inr rfl), heq.symm⟩
      · exact ⟨row, hmem.mpr (Or.inl ⟨hrow, heq⟩), rfl⟩
    · intro n
      constructor
      · rintro ⟨row, hrow, rfl⟩
        obtain ⟨hrow, hne⟩ | rfl := hmem.mp hrow
        · exact Or.inl ⟨row, hrow, hne, rfl⟩
        · exact Or.inr rfl
      · rintro (⟨row, hrow, hne, rfl⟩ | rfl)
        · exact ⟨row, hmem.mpr (Or.inl ⟨hrow, hne⟩), rfl⟩
        · exact ⟨_, hmem.mpr (Or.inr rfl), rfl⟩

/-- A category may be updated exactly if no budget goes by a name that the update takes away. -/
theorem referentialIntegrity_updateCategory_iff {category : Category}
    (hargs : ArgumentsExist store (.updateCategory category)) :
    ReferentialIntegrity (StoreOp.step store (.updateCategory category)) ↔
      SparesReferences store (.updateCategory category) := by
  obtain ⟨c, hc, row₀, hrow₀, hrow₀c⟩ := hargs
  have hstep : StoreOp.step store (.updateCategory category) =
      { store with
        toDatabase := CategoryDao.updateCategory c category.name category.color
          (category.icon.getD []) store.toDatabase } := by
    change ({ store with toDatabase := (CategoryRepositoryImpl.updateCategory category
      store.toDatabase).getD store.toDatabase } : Store) = _
    rw [CategoryRepositoryImpl.updateCategory, hc]
    rfl
  have hspares : SparesReferences store (.updateCategory category) ↔
      RenameSparesBudgets store c category.name := by
    constructor
    · intro hall
      exact hall c hc
    · intro hc' id heq
      obtain rfl : c = id := Option.some.inj (hc.symm.trans heq)
      exact hc'
  rw [hstep, hspares]
  refine referentialIntegrity_rename_iff h ?_ ?_
  · intro row hrow
    exact ⟨_, List.mem_map_of_mem hrow, CategoryDao.id_updatedCategory ..⟩
  · intro n
    constructor
    · rintro ⟨row', hrow', rfl⟩
      obtain ⟨row, hrow, rfl⟩ := List.mem_map.mp hrow'
      rw [CategoryDao.updatedCategory]
      split_ifs with hid
      · exact Or.inr rfl
      · exact Or.inl ⟨row, hrow, hid, rfl⟩
    · rintro (⟨row, hrow, hne, rfl⟩ | rfl)
      · refine ⟨_, List.mem_map_of_mem hrow, ?_⟩
        rw [CategoryDao.updatedCategory, if_neg hne]
      · refine ⟨_, List.mem_map_of_mem hrow₀, ?_⟩
        rw [CategoryDao.updatedCategory, if_pos hrow₀c]

/-- A category may be deleted exactly if no transaction has it and no budget needs its name. -/
theorem referentialIntegrity_deleteCategory_iff (categoryId : ℤ) :
    ReferentialIntegrity (StoreOp.step store (.deleteCategory categoryId)) ↔
      SparesReferences store (.deleteCategory categoryId) := by
  have hmem : ∀ row, row ∈ (store.categories.deleteWhere fun row => row.id == categoryId).rows ↔
      row ∈ store.categories.rows ∧ row.id ≠ categoryId := by
    intro row
    rw [AutoTable.rows_deleteWhere, List.mem_filter, Bool.not_eq_true', beq_eq_false_iff_ne]
  change ReferentialIntegrity { store with
    categories := store.categories.deleteWhere fun row => row.id == categoryId } ↔ _
  rw [referentialIntegrity_categories_iff h]
  simp only [hmem]
  constructor
  · rintro ⟨hcategories, hbudgets⟩
    refine ⟨?_, ?_⟩
    · intro t ht hid
      obtain ⟨row, ⟨-, hne⟩, heq⟩ := hcategories t ht categoryId hid
      exact hne heq
    · intro row _ _ budget hbudget hkey
      obtain ⟨other, ⟨hother, hne⟩, heq⟩ := hbudgets budget hbudget
      exact ⟨other, hother, hne, heq.trans hkey⟩
  · rintro ⟨htransactions, hbudgets⟩
    refine ⟨?_, ?_⟩
    · intro t ht id hid
      obtain ⟨row, hrow, rfl⟩ := h.category_exists t ht id hid
      refine ⟨row, ⟨hrow, ?_⟩, rfl⟩
      rintro rfl
      exact htransactions t ht hid
    · intro budget hbudget
      obtain ⟨row, hrow, heq⟩ := h.budget_named budget hbudget
      by_cases hid : row.id = categoryId
      · obtain ⟨other, hother, hne, hname⟩ := hbudgets row hrow hid budget hbudget heq.symm
        exact ⟨other, ⟨hother, hne⟩, hname.trans heq⟩
      · exact ⟨row, ⟨hrow, hid⟩, heq⟩

/-- An account may be inserted. -/
theorem referentialIntegrity_insertAccount (account : Account) :
    ReferentialIntegrity (StoreOp.step store (.insertAccount account)) :=
  h.accounts_of_subset (store.accounts.rows_subset_insertOrIgnore _)

/-- An account may be updated. -/
theorem referentialIntegrity_updateAccount (account : Account) :
    ReferentialIntegrity (StoreOp.step store (.updateAccount account)) := by
  change ReferentialIntegrity { store with
    accounts := store.accounts.update (AccountMapper.toEntity account false) }
  rw [referentialIntegrity_accounts_iff h]
  intro t ht id hid
  obtain ⟨row, hrow, rfl⟩ := h.account_exists t ht id hid
  refine ⟨_, List.mem_map_of_mem hrow, ?_⟩
  split_ifs with heq
  · exact heq.symm
  · rfl

/-- An account may be deleted exactly if no transaction refers to it. The default account is not
deleted at all. -/
theorem referentialIntegrity_deleteAccount_iff {accountId : ℤ}
    (hargs : ArgumentsExist store (.deleteAccount accountId)) :
    ReferentialIntegrity (StoreOp.step store (.deleteAccount accountId)) ↔
      SparesReferences store (.deleteAccount accountId) := by
  obtain ⟨row₀, hrow₀, rfl⟩ := hargs
  have hmem : ∀ row, row ∈ (store.accounts.deleteWhere
        fun row => row.id == row₀.id && !row.isDefault).rows ↔
      row ∈ store.accounts.rows ∧ (row.id = row₀.id → row.isDefault = true) := by
    intro row
    rw [AutoTable.rows_deleteWhere, List.mem_filter]
    simp [imp_iff_not_or]
  have honly : ∀ row ∈ store.accounts.rows, row.id = row₀.id → row = row₀ :=
    fun row hrow heq => AutoTable.eq_of_id_eq hrow hrow₀ heq
  change ReferentialIntegrity { store with
    accounts := store.accounts.deleteWhere fun row => row.id == row₀.id && !row.isDefault } ↔ _
  rw [referentialIntegrity_accounts_iff h]
  simp only [hmem]
  constructor
  · intro haccounts hflag t ht hid
    obtain ⟨row, ⟨hrow, hdefault⟩, heq⟩ := haccounts t ht row₀.id hid
    rw [hflag row hrow heq] at hdefault
    exact Bool.false_ne_true (hdefault heq)
  · intro hspares t ht id hid
    obtain ⟨row, hrow, rfl⟩ := h.account_exists t ht id hid
    refine ⟨row, ⟨hrow, fun heq => ?_⟩, rfl⟩
    obtain rfl := honly row hrow heq
    by_contra hflag
    refine hspares ?_ t ht hid
    intro row' hrow' heq'
    rw [honly row' hrow' heq', Bool.not_eq_true _ |>.mp hflag]

/-- A budget for an existing category may be stored. -/
theorem referentialIntegrity_upsertBudget {budget : Budget}
    (hargs : ArgumentsExist store (.upsertBudget budget)) :
    ReferentialIntegrity (StoreOp.step store (.upsertBudget budget)) := by
  refine h.budgets fun b hb => ?_
  obtain ⟨hb, -⟩ | rfl := Table.mem_insertOrReplace.mp hb
  · exact Or.inl hb
  · exact Or.inr hargs

/-- A budget may be deleted. -/
theorem referentialIntegrity_deleteBudget (categoryId : Text) :
    ReferentialIntegrity (StoreOp.step store (.deleteBudget categoryId)) :=
  h.budgets fun _ hb => Or.inl (List.mem_of_mem_filter hb)

/-- **The step.** With every reference in place, the operations that keep them. -/
theorem referentialIntegrity_step_iff {op : StoreOp} (hargs : ArgumentsExist store op) :
    ReferentialIntegrity (op.step store) ↔ SparesReferences store op := by
  cases op with
  | upsert transaction => exact iff_of_true (referentialIntegrity_upsert h hargs) True.intro
  | delete transactionId =>
      exact iff_of_true (referentialIntegrity_delete h transactionId) True.intro
  | insertCategory category =>
      exact iff_of_true (referentialIntegrity_insertCategory h category) True.intro
  | replaceCategory category => exact referentialIntegrity_replaceCategory_iff h category
  | updateCategory category => exact referentialIntegrity_updateCategory_iff h hargs
  | deleteCategory categoryId => exact referentialIntegrity_deleteCategory_iff h categoryId
  | insertAccount account =>
      exact iff_of_true (referentialIntegrity_insertAccount h account) True.intro
  | updateAccount account =>
      exact iff_of_true (referentialIntegrity_updateAccount h account) True.intro
  | deleteAccount accountId => exact referentialIntegrity_deleteAccount_iff h hargs
  | upsertBudget budget => exact iff_of_true (referentialIntegrity_upsertBudget h hargs) True.intro
  | deleteBudget categoryId =>
      exact iff_of_true (referentialIntegrity_deleteBudget h categoryId) True.intro

end Operations

/-- The seeded store has no references at all. -/
theorem referentialIntegrity_seeded : ReferentialIntegrity Store.seeded where
  category_exists _ ht := absurd ht List.not_mem_nil
  account_exists _ ht := absurd ht List.not_mem_nil
  budget_named _ hbudget := absurd hbudget List.not_mem_nil

/-- **Referential integrity** in every state of a run whose arguments refer to existing
rows, just when no step takes away a row that another one refers to. -/
theorem alwaysReferential_iff {ops : List StoreOp}
    (hargs : AllSteps StoreOp.step ArgumentsExist Store.seeded ops) :
    (∀ pre, pre <+: ops → ReferentialIntegrity (run StoreOp.step Store.seeded pre)) ↔
      AllSteps StoreOp.step SparesReferences Store.seeded ops :=
  forall_prefix_iff_allSteps (I := ReferentialIntegrity)
    (fun _ _ h hargs => referentialIntegrity_step_iff h hargs) referentialIntegrity_seeded hargs

/-- A lunch in the first category, on the first account. -/
def lunch : Transaction :=
  { id := none
    amount := { minorUnits := 25000 }
    timestampUtcMillis := 1704067200000
    note := none
    categoryId := some 1
    accountId := some 1
    type := .expense }

/-- A lunch is stored with a budget of another category, and that budget and the lunch are
deleted before the categories. -/
def tidyOps : List StoreOp :=
  [.upsert lunch, .upsertBudget { categoryId := "Ulaşım".toList, monthlyLimitMinor := 50000 },
    .deleteBudget "Ulaşım".toList, .deleteCategory 2, .delete 1, .deleteCategory 1]

/-- The theorem at operations that clean up in the right order. -/
theorem alwaysReferential_tidy :
    AllSteps StoreOp.step SparesReferences Store.seeded tidyOps ∧
      ∀ pre, pre <+: tidyOps → ReferentialIntegrity (run StoreOp.step Store.seeded pre) := by
  have hsteps : AllSteps StoreOp.step SparesReferences Store.seeded tidyOps := by
    refine ⟨True.intro, True.intro, True.intro, ⟨by decide, ?_⟩, True.intro, ⟨by decide, ?_⟩,
      True.intro⟩
    · intro row _ _ budget hbudget
      exact absurd hbudget List.not_mem_nil
    · intro row _ _ budget hbudget
      exact absurd hbudget List.not_mem_nil
  refine ⟨hsteps, (alwaysReferential_iff ?_).mpr hsteps⟩
  refine ⟨⟨?_, ?_, ?_⟩, ?_, ?_, ?_, ?_, ?_, True.intro⟩
  · intro id hid
    cases hid
  · rintro id ⟨⟩
    decide
  · rintro id ⟨⟩
    decide
  all_goals
    rw [ArgumentsExist]
    decide

/-- Deleting the category of a stored transaction leaves the transaction with the id of a
category that does not exist; renaming the category of a budget leaves the budget without
a category. -/
theorem not_referentialIntegrity_deleted_renamed :
    ¬ ReferentialIntegrity (run StoreOp.step Store.seeded [.upsert lunch, .deleteCategory 1]) ∧
      ¬ ReferentialIntegrity (run StoreOp.step Store.seeded
        [.upsertBudget { categoryId := "Yemek".toList, monthlyLimitMinor := 50000 },
          .updateCategory
            { id := some 1
              name := "Mutfak".toList
              color := "#FF5722".toList
              icon := none
              isIncome := false }]) := by
  constructor
  · intro h
    have hmissing := h.category_exists (TransactionsRepositoryImpl.rowWithId 1 lunch)
      (by decide) 1 rfl
    revert hmissing
    decide
  · intro h
    have hmissing := h.budget_named
      { categoryId := "Yemek".toList, monthlyLimitMinor := 50000 } (by decide)
    revert hmissing
    decide

end SpendCraft
