import SpendCraft.Ios.Budgets
import SpendCraft.Ios.Objects
import SpendCraft.Ios.RecurringRuns

/-!
# The Links of Transactions

A transaction of the iOS app names its category and its account twice: by an id of the app,
and by a relation to the object. Deleting an object makes the relations to it `nil` and
leaves the ids. Some sums go by the id, others by the relation.

## Conventions

The store is the context of objects with the rules of recurring transactions. A call is one of the
functions of the app that write transactions, categories, accounts or rules, with the objects
passed by their identities; an object that is gone counts as `nil`, as a relation to it does. An
executor runs as `RecurringRuns` has it, in the foreground with relations and in the background
without. The numbers that are drawn are inputs, and the first start draws different ones for the
categories.

## Proof

`Linked` says of every transaction that its two ids and its two relations name the same objects.
The lemmas go by what a call writes: assignments that set both, a deletion that clears the
relations and leaves the ids, and an executor that sets ids only. `Distinct` is a second
invariant, that ids and names name one category each, and is kept in every run. From both, the
sums by id and by relation are the same (`Linked.totals`), and the exact condition on the runs
follows step by step.

## Main results

* `linked_step_iff`: what a call must not do for the two to stay in agreement.
* `Linked.totals`: where they agree, so do the sums of a category.
* `linksAgree_iff`: in which runs from the seeded store they agree throughout.
-/

namespace SpendCraft.Ios

open Kotlin Relational Machine

/-! ### The seeded store -/

namespace CoreDataStack

/-- Name, colour, icon and type of the first categories. -/
def seedCategories : List (Text × Text × Text × Text) :=
  [("Gıda".toList, "#FF6347".toList, "fork.knife".toList, "expense".toList),
    ("Ulaşım".toList, "#4682B4".toList, "car.fill".toList, "expense".toList),
    ("Fatura".toList, "#DAA520".toList, "doc.text.fill".toList, "expense".toList),
    ("Eğlence".toList, "#9370DB".toList, "gamecontroller.fill".toList, "expense".toList),
    ("Alışveriş".toList, "#3CB371".toList, "cart.fill".toList, "expense".toList),
    ("Sağlık".toList, "#FF69B4".toList, "heart.fill".toList, "expense".toList),
    ("Eğitim".toList, "#8B4513".toList, "book.closed.fill".toList, "expense".toList),
    ("Kredi".toList, "#DC143C".toList, "creditcard.fill".toList, "expense".toList),
    ("Diğer Gider".toList, "#808080".toList, "ellipsis.circle.fill".toList, "expense".toList),
    ("Maaş".toList, "#008000".toList, "banknote.fill".toList, "income".toList),
    ("Kira".toList, "#32CD32".toList, "house.fill".toList, "income".toList),
    ("Prim".toList, "#FFD700".toList, "star.fill".toList, "income".toList),
    ("Yatırım".toList, "#4169E1".toList, "chart.line.uptrend.xyaxis".toList, "income".toList),
    ("İkramiye".toList, "#FFA500".toList, "gift.fill".toList, "income".toList),
    ("Serbest Çalışma".toList, "#9370DB".toList, "briefcase.fill".toList, "income".toList),
    ("Kira Geliri".toList, "#20B2AA".toList, "building.2.fill".toList, "income".toList),
    ("Diğer Gelir".toList, "#808080".toList, "ellipsis.circle.fill".toList, "income".toList)]

/-- `seedCategories`: a category as the app creates it, with the id that is drawn for it. -/
def seedCategory : (Text × Text × Text × Text) × ℤ → CategoryObject
  | ((name, color, icon, type), randomId) =>
      { objectID := 0
        id := randomId
        name := name
        color := color
        icon := some icon
        type := some type }

/-- The account that the app creates at its first start. -/
def seedAccount (randomId : ℤ) : AccountEntity :=
  { objectID := 0
    id := randomId
    name := "Nakit".toList
    type := "CASH".toList
    currency := "TRY".toList
    isDefault := true
    archived := false }

/-- Categories without a type get the one that `typeOf` guesses from the name. -/
def migrateExistingCategories (typeOf : Text → Text) (store : ObjectStore) : ObjectStore :=
  { store with
    categories := store.categories.updateSet
      (fun row =>
        if row.type.all List.isEmpty then { row with type := some (typeOf row.name) } else row)
      (by
        intro row
        split_ifs
        · rfl
        · rfl) }

/-- `randomIds` and `randomAccountId` are the numbers drawn from `1...10000`. -/
def seedObjects (typeOf : Text → Text) (randomIds : ℕ → ℤ) (randomAccountId : ℤ)
    (store : ObjectStore) : ObjectStore :=
  if store.categories.rows.length = 0 then
    { store with
      categories :=
        (seedCategories.zipIdx.map fun (category, k) => (category, randomIds k)).foldl
          (fun categories category => categories.insertOrReplace (seedCategory category))
          store.categories
      accounts :=
        if store.accounts.rows.length = 0 then
          store.accounts.insertOrReplace (seedAccount randomAccountId)
        else store.accounts }
  else migrateExistingCategories typeOf store

end CoreDataStack

/-! ### Calls -/

/-- The objects, with the rules of recurring transactions. -/
structure LinkedStore extends ObjectStore where
  recurringTransactions : AutoTable RecurringTransactionEntity

/-- Categories, accounts and transactions are passed by their identities; one that is gone
counts as `nil`. -/
inductive LinkCall
  | addTransaction (now randomId : ℤ) (amount : ℚ) (note : Option Text)
      (category account : Option ℤ) (isIncome : Bool)
  | updateTransaction (transaction : ℤ) (amount : ℚ) (note : Option Text)
      (category account : Option ℤ) (isIncome : Bool)
  | saveChanges (transaction : ℤ) (amount : Option ℚ) (note : Text)
      (selectedCategory selectedAccount : Option ℤ) (isIncome : Bool) (date : ℤ)
  | processDueRecurringTransactions (now : ℤ) (randomId : ℤ → ℤ)
  | executeDueTransactions (now : ℤ) (randomId : ℤ → ℤ)
  | importFromCSV (randomIds : ℕ → ℤ) (csvString : Text)
  | deleteCategory (category : ℤ)
  | deleteAccount (account : ℤ)
  | enterRecurring (recurring : RecurringTransactionEntity)

namespace LinkedStore

/-- The object a relation to a category points to. -/
def category (store : LinkedStore) (objectID : Option ℤ) : Option CategoryObject :=
  objectID.bind fun objectID => store.categories.rows.find? fun row => row.objectID == objectID

/-- The object a relation to an account points to. -/
def account (store : LinkedStore) (objectID : Option ℤ) : Option AccountEntity :=
  objectID.bind fun objectID => store.accounts.rows.find? fun row => row.objectID == objectID

/-- `loadCategories`: the categories by name. -/
def loadCategories (store : LinkedStore) : List CategoryObject :=
  store.categories.rows.insertionSort fun a b => a.name ≤ b.name

/-- `loadTransactions`: the transactions, the newest first. -/
def loadTransactions (store : LinkedStore) : List TransactionObject :=
  store.transactions.rows.insertionSort fun a b => b.timestampUtcMillis ≤ a.timestampUtcMillis

/-- What the executors read. -/
def context (store : LinkedStore) : Context :=
  { categories := store.loadCategories.map CategoryObject.toCategoryEntity
    accounts := store.accounts
    transactions := store.loadTransactions.map TransactionObject.toTransactionEntity
    recurringTransactions := store.recurringTransactions }

/-- New transactions, in their order. -/
def insertAll (transactions : List TransactionObject) (store : LinkedStore) : LinkedStore :=
  { store with
    transactions :=
      transactions.foldl (fun table t => table.insertOrReplace { t with objectID := 0 })
        store.transactions }

/-- Assignments to the attributes of one transaction. -/
def modifyTransaction (transaction : ℤ) (f : TransactionObject → TransactionObject)
    (hf : ∀ row, (f row).objectID = row.objectID) (store : LinkedStore) : LinkedStore :=
  { store with
    transactions := store.transactions.updateSet
      (fun row => if row.objectID = transaction then f row else row) (by
        intro row
        split_ifs
        · exact hf row
        · rfl) }

end LinkedStore

namespace LinkCall

/-- The assignments that `addTransaction`, `updateTransaction` and `saveChanges` make. -/
def assign (amountMinor : ℤ) (note : Option Text) (category : Option CategoryObject)
    (account : Option AccountEntity) (isIncome : Bool) (row : TransactionObject) :
    TransactionObject :=
  { row with
    amountMinor := amountMinor
    note := note
    categoryId := (category.map fun category => category.id).getD 0
    accountId := (account.map AccountEntity.id).getD 0
    isIncome := isIncome
    category := category.map CategoryObject.objectID
    account := account.map AccountEntity.objectID }

/-- A new transaction before the assignments. -/
def newTransaction (randomId now : ℤ) : TransactionObject :=
  { objectID := 0
    id := randomId
    amountMinor := 0
    timestampUtcMillis := now
    note := none
    categoryId := 0
    accountId := 0
    isIncome := false
    category := none
    account := none }

/-- The transaction of an executor: the one in the background sets no relations. -/
def executed (store : LinkedStore) (call : ExecutorCall) (created : Created) :
    TransactionObject :=
  match call with
  | .processDueRecurringTransactions .. =>
      { toTransactionEntity := created.2, objectID := 0, category := none, account := none }
  | .executeDueTransactions .. =>
      { toTransactionEntity := created.2
        objectID := 0
        category := (store.loadCategories.find? fun category =>
          category.id == created.1.categoryId).map CategoryObject.objectID
        account := (store.accounts.rows.find? fun account =>
          account.id == created.1.accountId).map AccountEntity.objectID }

/-- A call of one of the executors: the transactions it creates are stored with their relations,
and the rules as it leaves them. -/
def execute (calendar : CalendarSystem) (call : ExecutorCall) (store : LinkedStore) :
    LinkedStore :=
  { store.insertAll ((call.created calendar store.context).map (executed store call)) with
    recurringTransactions := (call.step calendar store.context).recurringTransactions }

end LinkCall

namespace LinkedStore

open LinkCall

/-- An amount that does not fit ends the app before anything is changed. -/
def addTransaction (now randomId : ℤ) (amount : ℚ) (note : Option Text)
    (category account : Option ℤ) (isIncome : Bool) (store : LinkedStore) : LinkedStore :=
  if FitsInt64 (minorUnits amount) then
    store.insertAll [assign (minorUnits amount) note (store.category category)
      (store.account account) isIncome (newTransaction randomId now)]
  else store

/-- `updateTransaction`: both references are set anew, unless the amount does not fit. -/
def updateTransaction (transaction : ℤ) (amount : ℚ) (note : Option Text)
    (category account : Option ℤ) (isIncome : Bool) (store : LinkedStore) : LinkedStore :=
  if FitsInt64 (minorUnits amount) then
    store.modifyTransaction transaction
      (assign (minorUnits amount) note (store.category category) (store.account account) isIncome)
      fun _ => rfl
  else store

/-- `saveChanges` of the edit form: the same with the date, and only with an amount, a category
and an account. -/
def saveChanges (transaction : ℤ) (amount : Option ℚ) (note : Text)
    (selectedCategory selectedAccount : Option ℤ) (isIncome : Bool) (date : ℤ)
    (store : LinkedStore) : LinkedStore :=
  match amount, store.category selectedCategory, store.account selectedAccount with
  | some amountValue, some category, some account =>
      if FitsInt64 (minorUnits amountValue) then
        store.modifyTransaction transaction
          (fun row =>
            { assign (minorUnits amountValue) (ExportManager.noteOf note) (some category)
                (some account) isIncome row with
              timestampUtcMillis := date }) fun _ => rfl
      else store
  | _, _, _ => store

/-- `importFromCSV`: each line is stored with the category and the account found by name. -/
def importFromCSV (format : CsvFormat) (randomIds : ℕ → ℤ) (csvString : Text)
    (store : LinkedStore) : LinkedStore :=
  match ExportManager.readRows format ((csvString.splitOn '\n').drop 1) with
  | none => store
  | some (read, _) =>
      store.insertAll (read.zipIdx.map fun (columns, k) =>
        ExportManager.Csv.createTransaction store.loadCategories
          (AccountsViewModel.loadAccounts store.accounts) (randomIds k) columns)

/-- The relations to the category become `nil`. -/
def deleteCategory (category : ℤ) (store : LinkedStore) : LinkedStore :=
  { store with
    categories := store.categories.deleteWhere fun row => row.objectID == category
    transactions := store.transactions.updateSet
      (fun row => { row with category := row.category.filter (· != category) }) fun _ => rfl
    budgets := store.budgets.updateSet
      (fun row => { row with category := row.category.filter (· != category) }) fun _ => rfl }

/-- `deleteAccount`: the relations of its transactions are nullified, the ids stay. -/
def deleteAccount (account : ℤ) (store : LinkedStore) : LinkedStore :=
  { store with
    accounts := AccountsViewModel.deleteAccount account store.accounts
    transactions := store.transactions.updateSet
      (fun row => { row with account := row.account.filter (· != account) }) fun _ => rfl }

/-- A rule is entered as it is. -/
def enterRecurring (recurring : RecurringTransactionEntity) (store : LinkedStore) : LinkedStore :=
  { store with
    recurringTransactions := store.recurringTransactions.insertOrReplace
      { recurring with objectID := 0 } }

end LinkedStore

/-- One call on the store. -/
def LinkCall.step (calendar : CalendarSystem) (format : CsvFormat) (store : LinkedStore) :
    LinkCall → LinkedStore
  | addTransaction now randomId amount note category account isIncome =>
      store.addTransaction now randomId amount note category account isIncome
  | updateTransaction transaction amount note category account isIncome =>
      store.updateTransaction transaction amount note category account isIncome
  | saveChanges transaction amount note selectedCategory selectedAccount isIncome date =>
      store.saveChanges transaction amount note selectedCategory selectedAccount isIncome date
  | processDueRecurringTransactions now randomId =>
      execute calendar (.processDueRecurringTransactions now randomId) store
  | executeDueTransactions now randomId =>
      execute calendar (.executeDueTransactions now randomId) store
  | importFromCSV randomIds csvString => store.importFromCSV format randomIds csvString
  | deleteCategory category => store.deleteCategory category
  | deleteAccount account => store.deleteAccount account
  | enterRecurring recurring => store.enterRecurring recurring

/-! ### Agreement -/

/-- The relation is to the object with the id, and `nil` without one. The objects are given
by their identities and ids. -/
def Points (objects : List (ℤ × ℤ)) (id : ℤ) (relation : Option ℤ) : Prop :=
  ∀ objectID, relation = some objectID ↔ (objectID, id) ∈ objects

namespace LinkedStore

/-- The objects of the categories with their ids. -/
def categoryObjects (store : LinkedStore) : List (ℤ × ℤ) :=
  store.categories.rows.map fun category => (category.objectID, category.id)

/-- The objects of the accounts with their ids. -/
def accountObjects (store : LinkedStore) : List (ℤ × ℤ) :=
  store.accounts.rows.map fun account => (account.objectID, account.id)

/-- The relations of a transaction are to the objects that its ids name. -/
def Resolves (store : LinkedStore) (transaction : TransactionObject) : Prop :=
  Points store.categoryObjects transaction.categoryId transaction.category ∧
    Points store.accountObjects transaction.accountId transaction.account

/-- In every transaction, the relations and the ids name the same objects. -/
def Linked (store : LinkedStore) : Prop :=
  ∀ transaction ∈ store.transactions.rows, store.Resolves transaction

/-- What the budgets and the lists of the app count as spent on a category. -/
def spentById (store : LinkedStore) (category : CategoryObject) : ℚ :=
  TransactionsViewModel.totalSpentForCategory category.toCategoryEntity
    (store.loadTransactions.map TransactionObject.toTransactionEntity)

/-- The name under which a transaction is listed. -/
def listedName (store : LinkedStore) (transaction : TransactionObject) : Text :=
  ((store.category transaction.category).map fun category => category.name).getD "Diğer".toList

/-- The amount of `AISuggestionsView.categoryBreakdown` for a name. -/
def categoryBreakdown (store : LinkedStore) (name : Text) : ℚ :=
  ((store.loadTransactions.filter fun transaction => !transaction.isIncome).filter
    fun transaction => store.listedName transaction == name).foldl
      (fun total transaction => Binary64.signedRounded (total + transaction.amount)) 0

/-- **The two references agree**, and so do the sums of every category. -/
structure LinksAgree (store : LinkedStore) : Prop where
  linked : store.Linked
  totals : ∀ category ∈ store.categories.rows,
    store.categoryBreakdown category.name = store.spentById category

/-- The categories and the accounts have ids of their own, none of them `0`, and the
categories names of their own. -/
structure Distinct (store : LinkedStore) : Prop where
  categoryIds : (store.categories.rows.map fun category => category.id).Nodup
  categoryIds_zero : 0 ∉ store.categories.rows.map fun category => category.id
  accountIds : (store.accounts.rows.map AccountEntity.id).Nodup
  accountIds_zero : 0 ∉ store.accounts.rows.map AccountEntity.id
  names : (store.categories.rows.map fun category => category.name).Nodup
  names_other : "Diğer".toList ∉ store.categories.rows.map fun category => category.name

end LinkedStore

variable {calendar : CalendarSystem} {format : CsvFormat} {store : LinkedStore}
  {objects : List (ℤ × ℤ)} {id : ℤ} {relation : Option ℤ}

/-! ### Relations -/

/-- No relation means that the id is nobody's. -/
theorem points_none_iff : Points objects id none ↔ id ∉ objects.map Prod.snd := by
  rw [List.mem_map]
  constructor
  · rintro h ⟨⟨objectID, id'⟩, hmem, rfl⟩
    cases (h objectID).mpr hmem
  · intro h objectID
    refine iff_of_false (by simp) ?_
    intro hmem
    exact h ⟨(objectID, id), hmem, rfl⟩

/-- With distinct ids, an id determines the object a relation has to point to. -/
theorem points_some_of_mem (hnodup : (objects.map Prod.snd).Nodup) {objectID : ℤ}
    (hmem : (objectID, id) ∈ objects) : Points objects id (some objectID) := by
  intro objectID'
  rw [Option.some_inj]
  constructor
  · rintro rfl
    exact hmem
  · intro hmem'
    exact congrArg Prod.fst (List.inj_on_of_nodup_map hnodup hmem hmem' rfl)

/-- **Deleting an object** keeps relations that are nullified. -/
theorem Points.delete (h : Points objects id relation) (deleted : ℤ) :
    Points (objects.filter fun object => !(object.1 == deleted)) id
      (relation.filter (· != deleted)) := by
  intro objectID
  rw [Option.filter_eq_some_iff, List.mem_filter, h objectID]
  rfl

namespace LinkedStore

/-- The category of a relation is one of the store. -/
theorem mem_of_category {objectID : Option ℤ} {category : CategoryObject}
    (h : store.category objectID = some category) : category ∈ store.categories.rows := by
  obtain ⟨_, _, hfind⟩ := Option.bind_eq_some_iff.mp h
  exact List.mem_of_find?_eq_some hfind

/-- The account of a relation is one of the store. -/
theorem mem_of_account {objectID : Option ℤ} {account : AccountEntity}
    (h : store.account objectID = some account) : account ∈ store.accounts.rows := by
  obtain ⟨_, _, hfind⟩ := Option.bind_eq_some_iff.mp h
  exact List.mem_of_find?_eq_some hfind

/-- A category of the store is found by its object id. -/
theorem category_of_mem {category : CategoryObject} (h : category ∈ store.categories.rows) :
    store.category (some category.objectID) = some category := by
  cases hfind : store.category (some category.objectID) with
  | none =>
      rw [LinkedStore.category, Option.bind_some, List.find?_eq_none] at hfind
      exact absurd (beq_self_eq_true _) (hfind category h)
  | some found =>
      have hmem := mem_of_category hfind
      rw [LinkedStore.category, Option.bind_some] at hfind
      have hobject : found.objectID = category.objectID := by simpa using List.find?_some hfind
      rw [store.categories.eq_of_id_eq hmem h hobject]

/-- The ids of the category objects. -/
theorem map_snd_categoryObjects :
    store.categoryObjects.map Prod.snd = store.categories.rows.map fun category => category.id := by
  rw [categoryObjects, List.map_map]
  rfl

/-- The ids of the account objects. -/
theorem map_snd_accountObjects :
    store.accountObjects.map Prod.snd = store.accounts.rows.map AccountEntity.id := by
  rw [accountObjects, List.map_map]
  rfl

/-- Assigning an object of the store and its id. -/
theorem Distinct.points_category (h : store.Distinct) {category : Option CategoryObject}
    (hmem : ∀ c, category = some c → c ∈ store.categories.rows) :
    Points store.categoryObjects ((category.map fun category => category.id).getD 0)
      (category.map CategoryObject.objectID) := by
  cases category with
  | none =>
      rw [Option.map_none, Option.map_none, points_none_iff, map_snd_categoryObjects]
      exact h.categoryIds_zero
  | some category =>
      have hobject : (category.objectID, category.id) ∈ store.categoryObjects :=
        List.mem_map.mpr ⟨category, hmem category rfl, rfl⟩
      refine points_some_of_mem ?_ hobject
      rw [map_snd_categoryObjects]
      exact h.categoryIds

/-- An account and its id name the same object, as no account has the id 0 that stands for none.
-/
theorem Distinct.points_account (h : store.Distinct) {account : Option AccountEntity}
    (hmem : ∀ a, account = some a → a ∈ store.accounts.rows) :
    Points store.accountObjects ((account.map AccountEntity.id).getD 0)
      (account.map AccountEntity.objectID) := by
  cases account with
  | none =>
      rw [Option.map_none, Option.map_none, points_none_iff, map_snd_accountObjects]
      exact h.accountIds_zero
  | some account =>
      have hobject : (account.objectID, account.id) ∈ store.accountObjects :=
        List.mem_map.mpr ⟨account, hmem account rfl, rfl⟩
      refine points_some_of_mem ?_ hobject
      rw [map_snd_accountObjects]
      exact h.accountIds

/-- **What is assigned together** agrees. -/
theorem Distinct.resolves_assign (h : store.Distinct) (amountMinor : ℤ) (note : Option Text)
    (category : Option CategoryObject) (account : Option AccountEntity)
    (hcategory : ∀ c, category = some c → c ∈ store.categories.rows)
    (haccount : ∀ a, account = some a → a ∈ store.accounts.rows) (isIncome : Bool)
    (row : TransactionObject) :
    store.Resolves (LinkCall.assign amountMinor note category account isIncome row) :=
  ⟨h.points_category hcategory, h.points_account haccount⟩

/-! ### Changes of the transactions -/

/-- A list of new transactions keeps the links exactly if each of them resolves. -/
theorem linked_insertAll_iff {transactions : List TransactionObject} :
    (store.insertAll transactions).Linked ↔
      store.Linked ∧ ∀ transaction ∈ transactions, store.Resolves transaction := by
  have hrows := AutoTable.map_rows_foldl_insertOrReplace
    (g := fun t : TransactionObject => ((t.categoryId, t.category), (t.accountId, t.account)))
    (fun _ _ => rfl) (f := fun t : TransactionObject => { t with objectID := 0 })
    (fun _ => rfl) transactions store.transactions
  have hlinked : ∀ rows : List TransactionObject, (∀ t ∈ rows, store.Resolves t) ↔
      ∀ x ∈ rows.map (fun t : TransactionObject =>
        ((t.categoryId, t.category), (t.accountId, t.account))),
        Points store.categoryObjects x.1.1 x.1.2 ∧ Points store.accountObjects x.2.1 x.2.2 := by
    intro rows
    rw [List.forall_mem_map]
    rfl
  have hresolves : (store.insertAll transactions).Linked ↔
      ∀ t ∈ (store.insertAll transactions).transactions.rows, store.Resolves t := Iff.rfl
  rw [hresolves, hlinked, insertAll, hrows, List.forall_mem_append, Linked, hlinked, hlinked]

/-- A change of one transaction keeps the links if what it writes resolves. -/
theorem Linked.modifyTransaction (h : store.Linked) (transaction : ℤ)
    {f : TransactionObject → TransactionObject} (hf : ∀ row, (f row).objectID = row.objectID)
    (hresolves : ∀ row, store.Resolves (f row)) :
    (store.modifyTransaction transaction f hf).Linked := by
  intro t ht
  obtain ⟨row, hrow, rfl⟩ := List.mem_map.mp ht
  split_ifs
  · exact hresolves row
  · exact h row hrow

/-- A category chosen by name is one of the list. -/
theorem ExportManager.mem_of_chooseCategory {C : Type*} {nameOf : C → Text} {categories : List C}
    {name : Text} {category : C}
    (h : ExportManager.chooseCategory nameOf categories name = some category) :
    category ∈ categories := by
  rw [ExportManager.chooseCategory, Option.or_eq_some_iff] at h
  obtain hfind | ⟨-, hhead⟩ := h
  · exact List.mem_of_find?_eq_some hfind
  · exact List.mem_of_mem_head? hhead

/-! ### The executors -/

/-- A rule that the executor in the background makes a transaction for, though its category
or its account is still there. -/
def KeepsLinks (store : LinkedStore) : LinkCall → Prop
  | .processDueRecurringTransactions now _ =>
      ∀ rule ∈ store.context.dueRecurring now, ¬(rule.endDate > 0 ∧ rule.endDate < now) →
        (rule.categoryId ∉ store.categories.rows.map fun category => category.id) ∧
          rule.accountId ∉ store.accounts.rows.map AccountEntity.id
  | _ => True

/-- The links after an executor are those before it and those of what it creates. -/
theorem linked_execute_iff {call : ExecutorCall} :
    (LinkCall.execute calendar call store).Linked ↔ store.Linked ∧
      ∀ created ∈ call.created calendar store.context,
        store.Resolves (LinkCall.executed store call created) := by
  have hinsert := @linked_insertAll_iff store
    ((call.created calendar store.context).map (LinkCall.executed store call))
  rw [List.forall_mem_map] at hinsert
  exact hinsert

/-- For `processDueRecurringTransactions`, which sets only ids, this is the condition on the call.
-/
theorem linked_processDue_iff (h : store.Linked) {now : ℤ} {randomId : ℤ → ℤ} :
    (LinkCall.execute calendar (.processDueRecurringTransactions now randomId) store).Linked ↔
      store.KeepsLinks (.processDueRecurringTransactions now randomId) := by
  rw [linked_execute_iff, and_iff_right h, KeepsLinks]
  constructor
  · intro hall rule hrule hended
    obtain ⟨hmem, hdue⟩ := List.mem_filter.mp hrule
    rw [Bool.and_eq_true, decide_eq_true_iff] at hdue
    obtain ⟨transaction, hbody, hcategoryId, haccountId⟩ : ∃ transaction,
        (ExecutorCall.body calendar store.context
          (.processDueRecurringTransactions now randomId) rule).2 = some transaction ∧
        transaction.categoryId = rule.categoryId ∧ transaction.accountId = rule.accountId := by
      rw [ExecutorCall.body, RecurringAutomationManager.executeRecurring, if_neg hended]
      exact ⟨_, rfl, rfl, rfl⟩
    obtain ⟨hcategory, haccount⟩ :=
      hall _ (ExecutorCall.mem_created_iff.mpr ⟨hmem, hdue.1, hdue.2, hbody⟩)
    rw [LinkCall.executed, points_none_iff, map_snd_categoryObjects] at hcategory
    rw [LinkCall.executed, points_none_iff, map_snd_accountObjects] at haccount
    rw [← hcategoryId, ← haccountId]
    exact ⟨hcategory, haccount⟩
  · rintro hgone ⟨rule, transaction⟩ hcreated
    obtain ⟨hmem, hactive, hdue, hbody⟩ := ExecutorCall.mem_created_iff.mp hcreated
    have hrule : rule ∈ store.context.dueRecurring now :=
      List.mem_filter.mpr ⟨hmem, by rw [hactive]; exact decide_eq_true hdue⟩
    rw [ExecutorCall.body, RecurringAutomationManager.executeRecurring] at hbody
    split_ifs at hbody with hended
    obtain rfl := Option.some_inj.mp hbody
    obtain ⟨hcategory, haccount⟩ := hgone rule hrule hended
    refine ⟨?_, ?_⟩
    · rw [LinkCall.executed, points_none_iff, map_snd_categoryObjects]
      exact hcategory
    · rw [LinkCall.executed, points_none_iff, map_snd_accountObjects]
      exact haccount

/-- The list of categories shows every category of the store. -/
theorem mem_loadCategories {category : CategoryObject} :
    category ∈ store.loadCategories ↔ category ∈ store.categories.rows :=
  List.mem_insertionSort _

/-- What the executor of the views finds by the ids, it relates the transaction to. -/
theorem linked_executeDue (hdistinct : store.Distinct) (h : store.Linked) {now : ℤ}
    {randomId : ℤ → ℤ} :
    (LinkCall.execute calendar (.executeDueTransactions now randomId) store).Linked := by
  rw [linked_execute_iff]
  refine ⟨h, ?_⟩
  rintro ⟨rule, transaction⟩ hcreated
  obtain ⟨-, -, -, hbody⟩ := ExecutorCall.mem_created_iff.mp hcreated
  rw [ExecutorCall.body, RecurringViewModel.executeRecurring] at hbody
  split at hbody
  next category account hcategory haccount =>
    obtain rfl := Option.some_inj.mp hbody
    have hcategories : (store.context.categories.find? fun category =>
        category.id == rule.categoryId) =
        (store.loadCategories.find? fun category => category.id == rule.categoryId).map
          CategoryObject.toCategoryEntity := List.find?_map
    rw [hcategories] at hcategory
    obtain ⟨object, hobject, rfl⟩ := Option.map_eq_some_iff.mp hcategory
    have haccounts : (store.accounts.rows.find? fun account => account.id == rule.accountId) =
        some account := haccount
    have hresolves := hdistinct.resolves_assign 0 none (some object) (some account)
      (fun c hc => mem_loadCategories.mp (List.mem_of_find?_eq_some (hobject.trans hc)))
      (fun a ha => List.mem_of_find?_eq_some (haccounts.trans ha)) false
      (LinkCall.newTransaction 0 0)
    rw [LinkCall.executed, hobject, haccounts]
    exact hresolves
  next => cases hbody

/-! ### One call -/

/-- Deleting a category nullifies the relations to it, and the id that stays in a transaction is
nobody's. -/
theorem Linked.deleteCategory (h : store.Linked) (category : ℤ) :
    (store.deleteCategory category).Linked := by
  intro t ht
  obtain ⟨row, hrow, rfl⟩ := List.mem_map.mp ht
  obtain ⟨hcategory, haccount⟩ := h row hrow
  have hobjects : (store.deleteCategory category).categoryObjects =
      store.categoryObjects.filter fun object => !(object.1 == category) := by
    rw [categoryObjects, categoryObjects, List.filter_map]
    rfl
  refine ⟨?_, haccount⟩
  rw [hobjects]
  exact hcategory.delete category

/-- The same for a deleted account. -/
theorem Linked.deleteAccount (h : store.Linked) (account : ℤ) :
    (store.deleteAccount account).Linked := by
  intro t ht
  obtain ⟨row, hrow, rfl⟩ := List.mem_map.mp ht
  obtain ⟨hcategory, haccount⟩ := h row hrow
  have hobjects : (store.deleteAccount account).accountObjects =
      store.accountObjects.filter fun object => !(object.1 == account) := by
    rw [accountObjects, accountObjects, List.filter_map]
    rfl
  refine ⟨hcategory, ?_⟩
  rw [hobjects]
  exact haccount.delete account

/-- The edit form stores nothing or writes the references of existing objects. -/
theorem saveChanges_cases (store : LinkedStore) (transaction : ℤ) (amount : Option ℚ) (note : Text)
    (selectedCategory selectedAccount : Option ℤ) (isIncome : Bool) (date : ℤ) :
    store.saveChanges transaction amount note selectedCategory selectedAccount isIncome date =
        store ∨
      ∃ amountMinor, ∃ category ∈ store.categories.rows, ∃ account ∈ store.accounts.rows,
        store.saveChanges transaction amount note selectedCategory selectedAccount isIncome date =
          store.modifyTransaction transaction
            (fun row =>
              { LinkCall.assign amountMinor (ExportManager.noteOf note) (some category)
                  (some account) isIncome row with
                timestampUtcMillis := date }) fun _ => rfl := by
  unfold saveChanges
  split
  next amountValue category account hcategory haccount =>
    split_ifs
    · exact Or.inr ⟨_, category, mem_of_category hcategory, account, mem_of_account haccount, rfl⟩
    · exact Or.inl rfl
  next => exact Or.inl rfl

/-- No call but a deletion changes the categories and the accounts. -/
theorem sublist_step (call : LinkCall) :
    (call.step calendar format store).categories.rows.Sublist store.categories.rows ∧
      (call.step calendar format store).accounts.rows.Sublist store.accounts.rows := by
  have hrefl : ∀ store : LinkedStore, store.categories.rows.Sublist store.categories.rows ∧
      store.accounts.rows.Sublist store.accounts.rows := fun store =>
    ⟨List.Sublist.refl _, List.Sublist.refl _⟩
  cases call with
  | addTransaction now randomId amount note category account isIncome =>
      rw [LinkCall.step, addTransaction]
      split_ifs
      · exact hrefl store
      · exact hrefl store
  | updateTransaction transaction amount note category account isIncome =>
      rw [LinkCall.step, updateTransaction]
      split_ifs
      · exact hrefl store
      · exact hrefl store
  | saveChanges transaction amount note selectedCategory selectedAccount isIncome date =>
      rw [LinkCall.step]
      obtain heq | ⟨_, _, _, _, _, heq⟩ := store.saveChanges_cases transaction amount note
        selectedCategory selectedAccount isIncome date
      · rw [heq]
        exact hrefl store
      · rw [heq]
        exact hrefl store
  | importFromCSV randomIds csvString =>
      rw [LinkCall.step, importFromCSV]
      split
      · exact hrefl store
      · exact hrefl store
  | deleteCategory category => exact ⟨List.filter_sublist, List.Sublist.refl _⟩
  | deleteAccount account => exact ⟨List.Sublist.refl _, List.filter_sublist⟩
  | processDueRecurringTransactions now randomId => exact hrefl store
  | executeDueTransactions now randomId => exact hrefl store
  | enterRecurring recurring => exact hrefl store

/-- **Step lemma:** ids and names stay distinct, as no call creates a category or an account. -/
theorem Distinct.step (h : store.Distinct) (call : LinkCall) :
    (call.step calendar format store).Distinct := by
  obtain ⟨hcategories, haccounts⟩ := @sublist_step calendar format store call
  exact
    { categoryIds := h.categoryIds.sublist (hcategories.map _)
      categoryIds_zero := fun hmem => h.categoryIds_zero ((hcategories.map _).subset hmem)
      accountIds := h.accountIds.sublist (haccounts.map _)
      accountIds_zero := fun hmem => h.accountIds_zero ((haccounts.map _).subset hmem)
      names := h.names.sublist (hcategories.map _)
      names_other := fun hmem => h.names_other ((hcategories.map _).subset hmem) }

/-- **One call** keeps the references in agreement, unless it is the executor in the
background that makes a transaction for a category or an account. -/
theorem linked_step_iff (hdistinct : store.Distinct) (h : store.Linked) (call : LinkCall) :
    (call.step calendar format store).Linked ↔ store.KeepsLinks call := by
  cases call with
  | addTransaction now randomId amount note category account isIncome =>
      refine iff_of_true ?_ trivial
      rw [LinkCall.step, addTransaction]
      split_ifs
      · rw [linked_insertAll_iff, List.forall_mem_singleton]
        exact ⟨h, hdistinct.resolves_assign _ _ _ _ (fun _ => mem_of_category)
          (fun _ => mem_of_account) _ _⟩
      · exact h
  | updateTransaction transaction amount note category account isIncome =>
      refine iff_of_true ?_ trivial
      rw [LinkCall.step, updateTransaction]
      split_ifs
      · exact h.modifyTransaction _ _ fun row => hdistinct.resolves_assign _ _ _ _
          (fun _ => mem_of_category) (fun _ => mem_of_account) _ row
      · exact h
  | saveChanges transaction amount note selectedCategory selectedAccount isIncome date =>
      refine iff_of_true ?_ trivial
      rw [LinkCall.step]
      obtain heq | ⟨amountMinor, c, hc, a, ha, heq⟩ := store.saveChanges_cases transaction
        amount note selectedCategory selectedAccount isIncome date
      · rw [heq]
        exact h
      · rw [heq]
        refine h.modifyTransaction _ _ fun row => ?_
        exact hdistinct.resolves_assign amountMinor (ExportManager.noteOf note) (some c) (some a)
          (by rintro _ ⟨⟩; exact hc) (by rintro _ ⟨⟩; exact ha) isIncome row
  | processDueRecurringTransactions now randomId => exact linked_processDue_iff h
  | executeDueTransactions now randomId =>
      exact iff_of_true (linked_executeDue hdistinct h) trivial
  | importFromCSV randomIds csvString =>
      refine iff_of_true ?_ trivial
      rw [LinkCall.step, importFromCSV]
      split
      next => exact h
      next read failed _ =>
        rw [linked_insertAll_iff, List.forall_mem_map]
        refine ⟨h, ?_⟩
        rintro ⟨columns, k⟩ -
        refine hdistinct.resolves_assign columns.amountMinor columns.note _ _ ?_ ?_ columns.isIncome
          (LinkCall.newTransaction (randomIds k) columns.date)
        · intro c hc
          exact mem_loadCategories.mp (ExportManager.mem_of_chooseCategory hc)
        · intro a ha
          exact (List.mem_insertionSort _).mp (List.mem_of_mem_head? ha)
  | deleteCategory category => exact iff_of_true (h.deleteCategory category) trivial
  | deleteAccount account => exact iff_of_true (h.deleteAccount account) trivial
  | enterRecurring recurring => exact iff_of_true h trivial

/-! ### Sums -/

/-- **The sums** of a category, by its id and by the relation. -/
theorem Linked.totals (h : store.Linked) (hdistinct : store.Distinct) {category : CategoryObject}
    (hcategory : category ∈ store.categories.rows) :
    store.categoryBreakdown category.name = store.spentById category := by
  have hlisted : ∀ t ∈ store.loadTransactions,
      (store.listedName t == category.name) = (t.categoryId == category.id) := by
    intro t ht
    have hpoints := (h t ((List.mem_insertionSort _).mp ht)).1
    rw [Bool.eq_iff_iff, beq_iff_eq, beq_iff_eq, listedName]
    cases hrelation : t.category with
    | none =>
        rw [hrelation, points_none_iff, map_snd_categoryObjects] at hpoints
        refine iff_of_false ?_ ?_
        · intro hname
          refine hdistinct.names_other (List.mem_map.mpr ⟨category, hcategory, hname.symm⟩)
        · intro hid
          rw [hid] at hpoints
          exact hpoints (List.mem_map_of_mem hcategory)
    | some objectID =>
        obtain ⟨found, hfound, hobject⟩ :=
          List.mem_map.mp ((hpoints objectID).mp hrelation)
        obtain ⟨rfl, hid⟩ := Prod.mk.inj hobject
        rw [category_of_mem hfound, Option.map_some, Option.getD_some, ← hid]
        constructor
        · intro hname
          rw [List.inj_on_of_nodup_map hdistinct.names hfound hcategory hname]
        · intro hid
          rw [List.inj_on_of_nodup_map hdistinct.categoryIds hfound hcategory hid]
  rw [categoryBreakdown, spentById, TransactionsViewModel.totalSpentForCategory,
    TransactionsViewModel.transactionsForCategory, List.filter_map, List.filter_map,
    List.foldl_map, List.filter_filter, List.filter_filter]
  congr 1
  apply List.filter_congr
  intro t ht
  rw [hlisted t ht, Bool.and_comm]
  rfl

/-! ### Runs -/

end LinkedStore

/-- The numbers that the first start draws: `1...10000`, and those of the categories are
different. -/
structure SeedDraws where
  categoryIds : ℕ → ℤ
  accountId : ℤ
  categoryIds_pos : ∀ k, 1 ≤ categoryIds k
  categoryIds_le : ∀ k, categoryIds k ≤ 10000
  accountId_pos : 1 ≤ accountId
  accountId_le : accountId ≤ 10000
  distinct : ((List.range 17).map categoryIds).Nodup

/-- The store after the first start. -/
def SeedDraws.seeded (draws : SeedDraws) : LinkedStore :=
  { CoreDataStack.seedObjects (fun _ => []) draws.categoryIds draws.accountId ObjectStore.empty with
    recurringTransactions := AutoTable.empty _ }

/-- What the seeded categories have in common with the ones written in the source. -/
theorem SeedDraws.map_categories_seeded {β : Type*} (draws : SeedDraws) {g : CategoryObject → β}
    (hg : ∀ n r, g (RowId.withId n r) = g r) : draws.seeded.categories.rows.map g =
      (CoreDataStack.seedCategories.zipIdx.map fun (category, k) =>
        (category, draws.categoryIds k)).map fun category =>
          g (CoreDataStack.seedCategory category) :=
  AutoTable.map_rows_foldl_insertOrReplace hg (fun _ => rfl) _ _

/-- The seeded store starts with distinct ids and names. -/
theorem SeedDraws.distinct_seeded (draws : SeedDraws) : draws.seeded.Distinct := by
  have hids : (draws.seeded.categories.rows.map fun category => category.id) =
      (List.range 17).map draws.categoryIds :=
    draws.map_categories_seeded (g := fun category => category.id) fun _ _ => rfl
  have hnames : (draws.seeded.categories.rows.map fun category => category.name) =
      CoreDataStack.seedCategories.map Prod.fst :=
    draws.map_categories_seeded (g := fun category => category.name) fun _ _ => rfl
  have haccounts : draws.seeded.accounts.rows.map AccountEntity.id = [draws.accountId] := rfl
  have hpos := draws.accountId_pos
  refine
    { categoryIds := ?_
      categoryIds_zero := ?_
      accountIds := ?_
      accountIds_zero := ?_
      names := ?_
      names_other := ?_ }
  · rw [hids]
    exact draws.distinct
  · rw [hids, List.mem_map]
    rintro ⟨k, -, hk⟩
    have hk_pos := draws.categoryIds_pos k
    omega
  · rw [haccounts]
    exact List.nodup_singleton _
  · rw [haccounts, List.mem_singleton]
    omega
  · rw [hnames]
    decide
  · rw [hnames]
    decide

/-- **The links agree** in every state of a run, just when no call of
`processDueRecurringTransactions` makes a transaction for a rule whose category or account
is still there. -/
theorem linksAgree_iff (calendar : CalendarSystem) (format : CsvFormat) (draws : SeedDraws)
    (calls : List LinkCall) :
    (∀ pre, pre <+: calls → (run (LinkCall.step calendar format) draws.seeded pre).LinksAgree) ↔
      AllSteps (LinkCall.step calendar format) LinkedStore.KeepsLinks draws.seeded calls := by
  have hseeded : draws.seeded.Linked := by
    intro t ht
    cases ht
  have hkeep : ∀ (store : LinkedStore) (call : LinkCall), store.Distinct →
      (call.step calendar format store).Distinct := by
    intro store call hdistinct
    exact hdistinct.step call
  rw [← forall_prefix_iff_of_invariant hkeep
    (fun _ call hdistinct hlinked => LinkedStore.linked_step_iff hdistinct hlinked call)
    draws.distinct_seeded hseeded]
  constructor
  · intro hall pre hpre
    exact (hall pre hpre).linked
  · intro hall pre hpre
    have hlinked := hall pre hpre
    have hdistinct := run_invariant_of_step hkeep draws.distinct_seeded pre
    exact ⟨hlinked, fun _ hcategory => hlinked.totals hdistinct hcategory⟩

/-- The numbers from `1` on. -/
def firstDraws : SeedDraws :=
  { categoryIds := fun k => min (k + 1) 10000
    accountId := 1
    categoryIds_pos := by omega
    categoryIds_le := by omega
    accountId_pos := by decide
    accountId_le := by decide
    distinct := by decide }

/-- A rule for the first category that is due at once. -/
def groceryRule : RecurringTransactionEntity :=
  { objectID := 1
    id := 7
    name := "Gıda".toList
    amount := 500
    categoryId := 1
    accountId := 1
    isIncome := false
    frequency := "MONTHLY".toList
    startDate := 0
    endDate := 0
    isActive := true
    lastExecuted := 0
    nextExecution := 0
    note := none }

/-- The executor in the background makes a transaction without relations for it. -/
theorem not_linksAgree_processDue :
    ¬∀ pre, pre <+: [LinkCall.enterRecurring groceryRule,
        .processDueRecurringTransactions 0 fun _ => 1] →
      (run (LinkCall.step .utc noonFormat) firstDraws.seeded pre).LinksAgree := by
  intro hall
  have hlinked := (hall _ (List.prefix_refl _)).linked
  have hentered := (hall [.enterRecurring groceryRule] (List.prefix_append _ _)).linked
  have hkeeps := (LinkedStore.linked_processDue_iff hentered).mp hlinked
  have hdue : groceryRule ∈ (run (LinkCall.step .utc noonFormat) firstDraws.seeded
      [.enterRecurring groceryRule]).context.dueRecurring 0 := by decide
  have hgone := (hkeeps groceryRule hdue (by decide)).2
  exact hgone (by decide)

end SpendCraft.Ios
