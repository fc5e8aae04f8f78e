import SpendCraft.Ios.Objects
import Mathlib.Tactic.Ring

/-!
# Failed Imports

An import that does not complete leaves the data as it was only where it has not written
anything before it stops. What it has written stays pending when an error is thrown, so
that the next save of the context writes it; when the app ends, all pending changes are
lost. What a replacing import has deleted is gone in either case.

## Conventions

An import may throw at a fetch, at a save, or at the deletion before it, and it may end the app at
a forced `nil`; each of these is an input. What is stored and what is pending are two parts of the
context (`Objects`). `Unharmed` says that the import has completed, or that both parts are what
they were before. The functions are those of `Objects`, and nothing of them is simplified here.

## Proof

Where an import stops is a function of its inputs (`importStop`), found before it is run: the
first entry of a loop that stops it. `importBackup_cases` then says what has been recorded until
then, by induction on the loops, where a round that does not stop records one change. An import
leaves the context as it was if nothing was recorded and nothing was deleted, which is what
`StopsInTime` asks of the inputs.

## Main results

* `clearAllData_eq_self_iff`: when the deletion changes nothing.
* `importBackup_cases`: where an import stops, and what it has done then.
* `unharmed_iff`: which imports leave the data as it was unless they complete.
-/

namespace SpendCraft.Ios

open Kotlin Relational ExportManager

/-! ### Where an import stops -/

/-- The two ways an import stops: an error is thrown, or the app ends. -/
inductive StopKind
  | thrown
  | trapped
  deriving DecidableEq, Repr

/-- The first entry that stops a loop, and how many there are before it. -/
def firstStop {α : Type*} (stops : α → Option StopKind) : List α → Option (StopKind × ℕ)
  | [] => none
  | a :: l =>
      match stops a with
      | some kind => some (kind, 0)
      | none => (firstStop stops l).map fun (kind, n) => (kind, n + 1)

/-- The fetch throws, or there is no colour. -/
def categoryStops (fails : ℕ → Bool) : BackupCategory × ℕ → Option StopKind
  | (backupCategory, k) =>
      if fails k then some .thrown
      else if backupCategory.color.isNone then some .trapped else none

/-- The fetch throws, or there is no type or no currency. -/
def accountStops (fails : ℕ → Bool) : BackupAccount × ℕ → Option StopKind
  | (backupAccount, k) =>
      if fails k then some .thrown
      else if backupAccount.type.isNone || backupAccount.currency.isNone then some .trapped
      else none

/-- Where the import of a backup stops, and how many entries it has written before. -/
def importStop (failures : ImportFailures) (backupData : BackupData) : Option (StopKind × ℕ) :=
  match firstStop (categoryStops failures.fetchCategory) backupData.categories.zipIdx with
  | some stop => some stop
  | none =>
      match firstStop (accountStops failures.fetchAccount) backupData.accounts.zipIdx with
      | some (kind, n) => some (kind, backupData.categories.length + n)
      | none =>
          if failures.save then
            some (.thrown, backupData.categories.length + backupData.accounts.length +
              backupData.transactions.length)
          else none

/-- The deletes that do not throw find nothing to delete, and the save nothing to save. -/
def ClearsNothing (failures : ClearFailures) (session : Session) : Prop :=
  failures.transactionDelete = true ∨ (session.saved.transactions.rows = [] ∧
    (failures.categoryDelete = true ∨ (session.saved.categories.rows = [] ∧
      (∀ budget ∈ session.saved.budgets.rows, budget.category = none) ∧
      (failures.accountDelete = true ∨ (session.saved.accounts.rows = [] ∧
        (failures.save = true ∨ session.pending = []))))))

/-! ### Imports -/

/-- An import with what it meets. -/
inductive ImportCall
  | importFromJSON (failures : ImportFailures) (replaceExisting : Bool) (backupData : BackupData)
  | importFromCSV (format : CsvFormat) (saveFails : Bool) (categories : List CategoryObject)
      (accounts : List AccountEntity) (randomIds : ℕ → ℤ) (csvString : Text)

namespace ImportCall

/-- The import that the call stands for. -/
def perform (order : FetchOrder) (session : Session) : ImportCall → Session × ImportOutcome
  | importFromJSON failures replaceExisting backupData =>
      Json.importFromJSON order failures replaceExisting backupData session
  | importFromCSV format saveFails categories accounts randomIds csvString =>
      Csv.importFromCSV format saveFails categories accounts randomIds csvString session

/-- The import completes, or the saved objects and the pending changes are what they were. -/
def Unharmed (order : FetchOrder) (session : Session) (call : ImportCall) : Prop :=
  (call.perform order session).2 ≠ .completed → (call.perform order session).1 = session

/-- The import does not stop, or it stops before it has changed anything; and nothing is
pending that the end of the app would lose. -/
def StopsInTime (session : Session) : ImportCall → Prop
  | importFromJSON failures replaceExisting backupData =>
      match importStop failures backupData with
      | none => True
      | some (.trapped, _) =>
          session.pending = [] ∧ (replaceExisting = true → ClearsNothing failures.clear session)
      | some (.thrown, n) =>
          n = 0 ∧ (replaceExisting = true → ClearsNothing failures.clear session)
  | importFromCSV format saveFails _ _ _ csvString =>
      match readRows format ((csvString.splitOn '\n').drop 1) with
      | none => session.pending = []
      | some (read, _) => saveFails = false ∨ read = []

end ImportCall

/-! ### The context -/

namespace Session

variable {session : Session} {change : Change} {changes : List Change}

/-- Several changes recorded one after the other. -/
def recordAll (changes : List Change) (session : Session) : Session :=
  { session with pending := session.pending ++ changes }

/-- No change leaves the session as it is. -/
@[simp] theorem recordAll_nil : session.recordAll [] = session := by
  rw [recordAll, List.append_nil]

/-- The first of several changes is recorded first. -/
theorem recordAll_cons : session.recordAll (change :: changes) =
    (session.record change).recordAll changes := by
  rw [recordAll, recordAll, record, List.append_assoc]
  rfl

/-- Two lists of changes are recorded as one. -/
theorem recordAll_recordAll {changes' : List Change} :
    (session.recordAll changes).recordAll changes' = session.recordAll (changes ++ changes') := by
  rw [recordAll, recordAll, recordAll, List.append_assoc]

/-- A loop that records one change a turn records the list of them. -/
theorem foldl_record {α : Type*} (change : α → Change) (l : List α) (session : Session) :
    l.foldl (fun session a => session.record (change a)) session =
      session.recordAll (l.map change) := by
  induction l generalizing session with
  | nil => exact recordAll_nil.symm
  | cons a l ih => rw [List.foldl_cons, ih, List.map_cons, recordAll_cons]

/-- Every recorded change shows in the session. -/
theorem recordAll_eq_self_iff : session.recordAll changes = session ↔ changes = [] := by
  constructor
  · intro h
    have hpending := congrArg Session.pending h
    exact List.append_right_eq_self.mp hpending
  · rintro rfl
    exact recordAll_nil

/-- A restart loses nothing exactly if nothing is pending. -/
theorem restart_eq_self_iff : session.restart = session ↔ session.pending = [] := by
  constructor
  · intro h
    exact (congrArg Session.pending h).symm
  · intro h
    rw [restart, ← h]

/-- A save changes nothing exactly if nothing is pending. -/
theorem save_eq_self_iff : session.save = session ↔ session.pending = [] := by
  constructor
  · intro h
    exact (congrArg Session.pending h).symm
  · intro h
    rw [save, view, h, List.foldl_nil, ← h]

end Session

/-! ### The deletion -/

namespace ObjectStore

variable {store : ObjectStore}

/-- The first delete of `clearAllData` changes nothing exactly if there is no transaction. -/
theorem deleteTransactions_eq_self_iff :
    store.deleteTransactions = store ↔ store.transactions.rows = [] := by
  rw [ObjectStore.ext_iff, deleteTransactions]
  simp [AutoTable.deleteWhere_true_eq_self_iff]

/-- Deleting the categories takes the relation of every budget that has one. -/
theorem budgets_deleteCategories_eq_iff : store.deleteCategories.budgets = store.budgets ↔
    ∀ budget ∈ store.budgets.rows, budget.category = none := by
  refine AutoTable.updateSet_eq_self_iff.trans (forall₂_congr ?_)
  rintro ⟨objectID, id, categoryId, limit, category⟩ -
  simp [eq_comm]

/-- With the transactions gone, the second delete changes nothing exactly if there is no category
and no budget with a relation. -/
theorem deleteCategories_eq_self_iff :
    store.deleteTransactions.deleteCategories = store ↔
      store.transactions.rows = [] ∧ store.categories.rows = [] ∧
        ∀ budget ∈ store.budgets.rows, budget.category = none := by
  have htransactions : store.deleteTransactions.deleteCategories.transactions =
      store.transactions ↔ store.transactions.rows = [] :=
    AutoTable.eq_iff_of_rows_eq_nil (by simp [deleteCategories, deleteTransactions]) rfl
  have hcategories : store.deleteTransactions.deleteCategories.categories =
      store.categories ↔ store.categories.rows = [] :=
    AutoTable.deleteWhere_true_eq_self_iff
  have hbudgets : store.deleteTransactions.deleteCategories.budgets = store.budgets ↔ _ :=
    budgets_deleteCategories_eq_iff
  have haccounts : store.deleteTransactions.deleteCategories.accounts = store.accounts := rfl
  rw [ObjectStore.ext_iff, htransactions, hcategories, hbudgets, iff_true_intro haccounts]
  tauto

/-- The third delete changes nothing more exactly if there is no account. -/
theorem deleteAccounts_eq_self_iff :
    store.deleteTransactions.deleteCategories.deleteAccounts = store ↔
      store.deleteTransactions.deleteCategories = store ∧ store.accounts.rows = [] := by
  have haccounts : store.deleteTransactions.deleteCategories.deleteAccounts.accounts =
      store.accounts ↔ store.accounts.rows = [] :=
    AutoTable.deleteWhere_true_eq_self_iff
  have htransactions : store.deleteTransactions.deleteCategories.deleteAccounts.transactions =
      store.transactions ↔ store.transactions.rows = [] :=
    AutoTable.eq_iff_of_rows_eq_nil
      (by simp [deleteAccounts, deleteCategories, deleteTransactions]) rfl
  constructor
  · intro h
    obtain ⟨hcategories, haccounts', htransactions', hbudgets⟩ := ObjectStore.ext_iff.mp h
    refine ⟨deleteCategories_eq_self_iff.mpr ⟨htransactions.mp htransactions', ?_, ?_⟩,
      haccounts.mp haccounts'⟩
    · exact AutoTable.deleteWhere_true_eq_self_iff.mp hcategories
    · exact budgets_deleteCategories_eq_iff.mp hbudgets
  · rintro ⟨h, hrows⟩
    have hnone := (deleteCategories_eq_self_iff.mp h).1
    refine ObjectStore.ext ?_ (haccounts.mpr hrows) (htransactions.mpr hnone) ?_
    · exact congrArg (fun store => store.categories) h
    · exact congrArg (fun store => store.budgets) h

end ObjectStore

namespace Session

variable {session : Session} {delete : ObjectStore → ObjectStore}

/-- A delete request goes to the store at once and leaves what is pending alone. -/
theorem execute_eq_self_iff : session.execute delete = session ↔
    delete session.saved = session.saved := by
  constructor
  · intro h
    exact congrArg Session.saved h
  · intro h
    rw [execute, h]

/-- A delete request with a save after it changes nothing exactly if both have nothing to do. -/
theorem save_execute_eq_self_iff : (session.execute delete).save = session ↔
    delete session.saved = session.saved ∧ session.pending = [] := by
  constructor
  · intro h
    have hpending : session.pending = [] := (congrArg Session.pending h).symm
    have hsaved := congrArg Session.saved h
    rw [save, view, execute, hpending, List.foldl_nil] at hsaved
    exact ⟨hsaved, hpending⟩
  · rintro ⟨hsaved, hpending⟩
    rw [execute_eq_self_iff.mpr hsaved, save_eq_self_iff]
    exact hpending

end Session

namespace ExportManager.Json

variable {failures : ClearFailures} {session : Session}

/-- `clearAllData` harms nothing exactly if it finds nothing to clear. -/
theorem clearAllData_eq_self_iff :
    clearAllData failures session = session ↔ ClearsNothing failures session := by
  have hcategories : (session.execute ObjectStore.deleteTransactions).execute
      ObjectStore.deleteCategories = session.execute fun store =>
        store.deleteTransactions.deleteCategories := rfl
  have haccounts : ((session.execute ObjectStore.deleteTransactions).execute
      ObjectStore.deleteCategories).execute ObjectStore.deleteAccounts =
        session.execute fun store =>
          store.deleteTransactions.deleteCategories.deleteAccounts := rfl
  rw [clearAllData, ClearsNothing]
  cases failures.transactionDelete with
  | true => simp
  | false =>
      cases failures.categoryDelete with
      | true => simp [Session.execute_eq_self_iff, ObjectStore.deleteTransactions_eq_self_iff]
      | false =>
          cases failures.accountDelete with
          | true =>
              simp [hcategories, Session.execute_eq_self_iff,
                ObjectStore.deleteCategories_eq_self_iff]
          | false =>
              cases failures.save with
              | true =>
                  simp [haccounts, Session.execute_eq_self_iff,
                    ObjectStore.deleteAccounts_eq_self_iff,
                    ObjectStore.deleteCategories_eq_self_iff, and_assoc]
              | false =>
                  simp [haccounts, Session.save_execute_eq_self_iff,
                    ObjectStore.deleteAccounts_eq_self_iff,
                    ObjectStore.deleteCategories_eq_self_iff, and_assoc]

/-- The deletion keeps the pending changes, or saves them. -/
theorem pending_clearAllData :
    (clearAllData failures session).pending = session.pending ∨
      clearAllData failures session =
        (session.execute fun store =>
          store.deleteTransactions.deleteCategories.deleteAccounts).save := by
  rw [clearAllData]
  split_ifs
  · exact Or.inl rfl
  · exact Or.inl rfl
  · exact Or.inl rfl
  · exact Or.inl rfl
  · exact Or.inr rfl

/-- The same if the app ends after it, when the pending changes are lost as well. -/
theorem restart_clearAllData_eq_self_iff :
    (clearAllData failures session).restart = session ↔
      session.pending = [] ∧ ClearsNothing failures session := by
  have hrestart : session.pending = [] →
      (clearAllData failures session).restart = clearAllData failures session := by
    intro h
    rw [Session.restart_eq_self_iff]
    rcases pending_clearAllData with hpending | hsaved
    · rw [hpending, h]
    · rw [hsaved]
      rfl
  constructor
  · intro h
    have hpending : session.pending = [] := (congrArg Session.pending h).symm
    rw [hrestart hpending, clearAllData_eq_self_iff] at h
    exact ⟨hpending, h⟩
  · rintro ⟨hpending, h⟩
    rw [hrestart hpending, clearAllData_eq_self_iff]
    exact h

end ExportManager.Json

/-! ### The created objects -/

namespace ObjectStore

/-- How many objects have been created, of the kinds that an import creates. -/
def created (store : ObjectStore) : ℤ :=
  store.categories.sequence + store.accounts.sequence + store.transactions.sequence

end ObjectStore

namespace Change

/-- The change creates one object. -/
def Creates (change : Change) : Prop :=
  ∀ store, (change store).created = store.created + 1

/-- What the imports do with a transaction. -/
def insertTransaction (row : TransactionObject) : Change :=
  fun store => { store with transactions := store.transactions.insertOrReplace row }

/-- Inserting a new transaction creates one object. -/
theorem creates_insertTransaction {row : TransactionObject} (h : row.objectID = 0) :
    (insertTransaction row).Creates := by
  intro store
  have hsequence := store.transactions.sequence_insertOrReplace_generated (r := row) h
  rw [ObjectStore.created, ObjectStore.created, insertTransaction, hsequence]
  exact (add_assoc _ _ _).symm

end Change

/-- Changes that create one object each create as many objects as there are changes. -/
theorem created_foldl {changes : List Change} (h : ∀ change ∈ changes, change.Creates)
    (store : ObjectStore) :
    (changes.foldl (fun store change => change store) store).created =
      store.created + changes.length := by
  induction changes generalizing store with
  | nil => simp
  | cons change changes ih =>
      rw [List.foldl_cons, ih (fun c hc => h c (List.mem_cons_of_mem _ hc)),
        h change List.mem_cons_self, List.length_cons]
      push_cast
      omega

namespace ExportManager.Json

variable {changes : List Change}

/-- The deletion does not make room for what is created after it: the saved changes would be
those that are pending. -/
theorem recordAll_clearAllData_ne_self (failures : ClearFailures) (session : Session)
    (hne : changes ≠ []) (hcreates : ∀ change ∈ changes, change.Creates) :
    (clearAllData failures session).recordAll changes ≠ session := by
  intro h
  have hpending : (clearAllData failures session).pending ++ changes = session.pending :=
    congrArg Session.pending h
  rcases pending_clearAllData with hkept | hsaved
  · rw [hkept] at hpending
    exact hne (List.append_right_eq_self.mp hpending)
  · rw [hsaved] at h hpending
    obtain rfl : changes = session.pending := hpending
    have hcreated := congrArg (fun session => session.saved.created) h
    have hfold := created_foldl hcreates
      session.saved.deleteTransactions.deleteCategories.deleteAccounts
    have hdelete : session.saved.deleteTransactions.deleteCategories.deleteAccounts.created =
        session.saved.created := rfl
    have hlength := List.length_pos_of_ne_nil hne
    have heq : (session.pending.foldl (fun store change => change store)
        session.saved.deleteTransactions.deleteCategories.deleteAccounts).created =
          session.saved.created := hcreated
    omega

end ExportManager.Json

/-! ### The loops -/

namespace ExportManager.Json

variable {α : Type*} {session : Session} {changes : List Change} {length : ℕ}
  {stop : Option (StopKind × ℕ)} {result : Except Stopped Importing} {P : Change → Prop}

/-- A computation that returned goes on. -/
theorem ok_bind {ε β γ : Type} (b : β) (f : β → Except ε γ) :
    (Except.ok b >>= f) = f b := rfl

/-- A computation that failed does not. -/
theorem error_bind {ε β γ : Type} (e : ε) (f : β → Except ε γ) :
    (Except.error e >>= f) = Except.error e := rfl

/-- How a part of the import ends, by where it stops. What is recorded before is lost when
the app ends. -/
inductive Ends (P : Change → Prop) (session : Session) (length : ℕ) :
    Option (StopKind × ℕ) → Except Stopped Importing → Prop
  | recorded (changes : List Change) (importing : Importing) (hP : ∀ change ∈ changes, P change)
      (hlength : changes.length = length)
      (hsession : importing.session = session.recordAll changes) :
      Ends P session length none (.ok importing)
  | thrown (changes : List Change) (n : ℕ) (hP : ∀ change ∈ changes, P change)
      (hlength : changes.length = n) :
      Ends P session length (some (.thrown, n)) (.error (.thrown (session.recordAll changes)))
  | trapped (n : ℕ) : Ends P session length (some (.trapped, n)) (.error (.trapped session.restart))

/-- What is recorded before a part of the import is counted with it. -/
theorem Ends.after (hP : ∀ change ∈ changes, P change)
    (h : Ends P (session.recordAll changes) length stop result) :
    Ends P session (changes.length + length)
      (stop.map fun (kind, n) => (kind, changes.length + n)) result := by
  cases h with
  | recorded changes' importing hP' hlength hsession =>
      refine .recorded (changes ++ changes') importing ?_ ?_ ?_
      · exact List.forall_mem_append.mpr ⟨hP, hP'⟩
      · rw [List.length_append, hlength]
      · rw [hsession, Session.recordAll_recordAll]
  | thrown changes' n hP' hlength =>
      rw [Session.recordAll_recordAll]
      refine .thrown (changes ++ changes') _ ?_ ?_
      · exact List.forall_mem_append.mpr ⟨hP, hP'⟩
      · rw [List.length_append, hlength]
  | trapped n => exact .trapped (changes.length + n)

/-- A round that does not stop records one change. -/
structure Rounds (P : Change → Prop) (stops : α → Option StopKind)
    (round : Importing → α → Except Stopped Importing) : Prop where
  recorded : ∀ importing a, stops a = none → ∃ importing' change,
    round importing a = .ok importing' ∧
      importing'.session = importing.session.record change ∧ P change
  thrown : ∀ importing a, stops a = some .thrown →
    round importing a = .error (.thrown importing.session)
  trapped : ∀ importing a, stops a = some .trapped →
    round importing a = .error (.trapped importing.session.restart)

/-- **The loop rule:** a loop over such rounds ends where its first stopping entry says. -/
theorem Rounds.ends {stops : α → Option StopKind}
    {round : Importing → α → Except Stopped Importing} (h : Rounds P stops round) (l : List α)
    (importing : Importing) :
    Ends P importing.session l.length (firstStop stops l) (l.foldlM round importing) := by
  induction l generalizing importing with
  | nil => exact .recorded [] importing (by simp) rfl Session.recordAll_nil.symm
  | cons a l ih =>
      rw [firstStop, List.foldlM_cons]
      cases hstop : stops a with
      | none =>
          obtain ⟨importing', change, hround, hsession, hchange⟩ := h.recorded importing a hstop
          have hone : importing.session.record change = importing.session.recordAll [change] := rfl
          have hrest := ih importing'
          rw [hsession, hone] at hrest
          have hends := Ends.after (by simpa using hchange) hrest
          rw [hround, ok_bind]
          simpa [Nat.add_comm] using hends
      | some kind =>
          cases kind with
          | thrown =>
              rw [h.thrown importing a hstop, error_bind]
              have hends : Ends P importing.session (a :: l).length (some (.thrown, 0))
                  (.error (.thrown (importing.session.recordAll []))) :=
                .thrown [] 0 (by simp) rfl
              rw [Session.recordAll_nil] at hends
              exact hends
          | trapped =>
              rw [h.trapped importing a hstop, error_bind]
              exact .trapped 0

/-- With `replaceExisting`, the round of a category creates one object. -/
theorem created_writeCategory (order : FetchOrder) {backupCategory : BackupCategory} {color : Text}
    {store store' : ObjectStore}
    (hcategories : store'.categories =
      writeCategory order true backupCategory color store.categories)
    (haccounts : store'.accounts = store.accounts)
    (htransactions : store'.transactions = store.transactions) :
    store'.created = store.created + 1 := by
  have hsequence : store'.categories.sequence = store.categories.sequence + 1 := by
    rw [hcategories]
    exact store.categories.sequence_insertOrReplace_generated rfl
  rw [ObjectStore.created, ObjectStore.created, hsequence, haccounts, htransactions]
  omega

/-- With `replaceExisting`, the round of an account creates one object. -/
theorem created_writeAccount (order : FetchOrder) {backupAccount : BackupAccount}
    {type currency : Text} {store store' : ObjectStore}
    (haccounts : store'.accounts =
      writeAccount order true backupAccount type currency store.accounts)
    (hcategories : store'.categories = store.categories)
    (htransactions : store'.transactions = store.transactions) :
    store'.created = store.created + 1 := by
  have hsequence : store'.accounts.sequence = store.accounts.sequence + 1 := by
    rw [haccounts]
    exact store.accounts.sequence_insertOrReplace_generated rfl
  rw [ObjectStore.created, ObjectStore.created, hsequence, hcategories, htransactions]
  omega

/-- The round of one category, with where it stops. -/
theorem rounds_importCategory (order : FetchOrder) (fails : ℕ → Bool) (replaceExisting : Bool) :
    Rounds (fun change => replaceExisting = true → change.Creates) (categoryStops fails)
      (importCategory order fails replaceExisting) := by
  constructor
  · rintro importing ⟨backupCategory, k⟩ h
    rw [categoryStops] at h
    split_ifs at h with hfails hcolor
    obtain ⟨color, hcolor⟩ :=
      Option.ne_none_iff_exists'.mp (mt Option.isNone_iff_eq_none.mpr hcolor)
    refine ⟨_, _, by rw [importCategory, if_neg hfails, hcolor], rfl, ?_⟩
    rintro rfl store
    exact created_writeCategory order rfl rfl rfl
  · rintro importing ⟨backupCategory, k⟩ h
    have hfails : fails k = true := by
      by_contra hfails
      rw [categoryStops, if_neg hfails] at h
      split_ifs at h
      simp at h
    rw [importCategory, if_pos hfails]
  · rintro importing ⟨backupCategory, k⟩ h
    rw [categoryStops] at h
    split_ifs at h with hfails hcolor
    · simp at h
    · rw [importCategory, if_neg hfails, Option.isNone_iff_eq_none.mp hcolor]

/-- The round of one account, with where it stops. -/
theorem rounds_importAccount (order : FetchOrder) (fails : ℕ → Bool) (replaceExisting : Bool) :
    Rounds (fun change => replaceExisting = true → change.Creates) (accountStops fails)
      (importAccount order fails replaceExisting) := by
  constructor
  · rintro importing ⟨backupAccount, k⟩ h
    rw [accountStops] at h
    split_ifs at h with hfails hnone
    rw [Bool.or_eq_true, Option.isNone_iff_eq_none, Option.isNone_iff_eq_none, not_or] at hnone
    obtain ⟨type, htype⟩ := Option.ne_none_iff_exists'.mp hnone.1
    obtain ⟨currency, hcurrency⟩ := Option.ne_none_iff_exists'.mp hnone.2
    refine ⟨_, _, by rw [importAccount, if_neg hfails, htype, hcurrency], rfl, ?_⟩
    rintro rfl store
    exact created_writeAccount order rfl rfl rfl
  · rintro importing ⟨backupAccount, k⟩ h
    have hfails : fails k = true := by
      by_contra hfails
      rw [accountStops, if_neg hfails] at h
      split_ifs at h
      simp at h
    rw [importAccount, if_pos hfails]
  · rintro importing ⟨backupAccount, k⟩ h
    rw [accountStops] at h
    split_ifs at h with hfails hnone
    · simp at h
    · rw [Bool.or_eq_true, Option.isNone_iff_eq_none, Option.isNone_iff_eq_none] at hnone
      rw [importAccount, if_neg hfails]
      rcases hnone with htype | hcurrency
      · rw [htype]
      · rw [hcurrency]
        cases backupAccount.type with
        | none => rfl
        | some type => rfl

/-- The loop over the transactions never stops, and records one insert for each. -/
theorem foldl_importTransaction (transactions : List BackupTransaction) (importing : Importing) :
    transactions.foldl importTransaction importing =
      { importing with
        session := importing.session.recordAll (transactions.map fun transaction =>
          Change.insertTransaction
            (createTransaction importing.categoryMap importing.accountMap transaction)) } := by
  induction transactions generalizing importing with
  | nil => rw [List.foldl_nil, List.map_nil, Session.recordAll_nil]
  | cons transaction transactions ih =>
      rw [List.foldl_cons, ih, List.map_cons, Session.recordAll_cons]
      rfl

/-- Every one of these inserts creates an object. -/
theorem creates_insertTransactions (categoryMap accountMap : ℤ → Option ℤ)
    (transactions : List BackupTransaction) :
    ∀ change ∈ transactions.map fun transaction =>
      Change.insertTransaction (createTransaction categoryMap accountMap transaction),
        change.Creates := by
  refine List.forall_mem_map.mpr ?_
  intro transaction _
  exact Change.creates_insertTransaction rfl

/-- Where the import stops, and what it has done then. -/
theorem importBackup_cases (order : FetchOrder) (failures : ImportFailures)
    (replaceExisting : Bool) (backupData : BackupData) (session : Session) :
    ∃ changes : List Change,
    (replaceExisting = true → ∀ change ∈ changes, change.Creates) ∧
      match importStop failures backupData with
      | none => importBackup order failures replaceExisting backupData session =
          .ok (session.recordAll changes).save
      | some (.thrown, n) => changes.length = n ∧
          importBackup order failures replaceExisting backupData session =
            .error (.thrown (session.recordAll changes))
      | some (.trapped, _) => importBackup order failures replaceExisting backupData session =
          .error (.trapped session.restart) := by
  have hcategories := (rounds_importCategory order failures.fetchCategory replaceExisting).ends
    backupData.categories.zipIdx
      { session := session
        categoryMap := fun _ => none
        accountMap := fun _ => none }
  have hforall : ∀ {changes : List Change},
      (∀ change ∈ changes, replaceExisting = true → change.Creates) →
        replaceExisting = true → ∀ change ∈ changes, change.Creates :=
    fun h hreplace change hchange => h change hchange hreplace
  rw [importBackup, importStop]
  generalize backupData.categories.zipIdx.foldlM (m := Except Stopped) _ _ = result at hcategories ⊢
  generalize firstStop _ backupData.categories.zipIdx = stop at hcategories ⊢
  cases hcategories with
  | thrown changes n hP hlength => exact ⟨changes, hforall hP, hlength, rfl⟩
  | trapped n => exact ⟨[], by simp, rfl⟩
  | recorded changes importing hP hlength hsession =>
      rw [List.length_zipIdx] at hlength
      have haccounts := (rounds_importAccount order failures.fetchAccount replaceExisting).ends
        backupData.accounts.zipIdx importing
      rw [hsession] at haccounts
      rw [ok_bind]
      generalize backupData.accounts.zipIdx.foldlM (m := Except Stopped) _ _ = result at haccounts ⊢
      generalize firstStop _ backupData.accounts.zipIdx = stop at haccounts ⊢
      cases haccounts with
      | thrown changes' n hP' hlength' =>
          refine ⟨changes ++ changes', hforall (List.forall_mem_append.mpr ⟨hP, hP'⟩), ?_, ?_⟩
          · rw [List.length_append, hlength, hlength']
          · rw [error_bind, Session.recordAll_recordAll]
      | trapped n => exact ⟨[], by simp, rfl⟩
      | recorded changes' importing' hP' hlength' hsession' =>
          rw [List.length_zipIdx] at hlength'
          rw [ok_bind, foldl_importTransaction, hsession', Session.recordAll_recordAll,
            Session.recordAll_recordAll]
          have hcreated := creates_insertTransactions importing'.categoryMap
            importing'.accountMap backupData.transactions
          refine ⟨changes ++ (changes' ++ _), fun hreplace => List.forall_mem_append.mpr
            ⟨hforall hP hreplace, List.forall_mem_append.mpr ⟨hforall hP' hreplace, hcreated⟩⟩, ?_⟩
          cases failures.save with
          | true =>
              refine ⟨?_, rfl⟩
              rw [List.length_append, List.length_append, List.length_map, hlength, hlength',
                Nat.add_assoc]
          | false => rfl

end ExportManager.Json

/-! ### Failed imports -/

variable {order : FetchOrder}

/-- A backup import that fails does no harm exactly if it stops in time. -/
theorem unharmed_importFromJSON_iff (failures : ImportFailures) (replaceExisting : Bool)
    (backupData : BackupData) (session : Session) :
    (ImportCall.importFromJSON failures replaceExisting backupData).Unharmed order session ↔
      (ImportCall.importFromJSON failures replaceExisting backupData).StopsInTime session := by
  obtain ⟨changes, hcreates, hcases⟩ := Json.importBackup_cases order failures replaceExisting
    backupData (if replaceExisting then Json.clearAllData failures.clear session else session)
  rw [ImportCall.Unharmed, ImportCall.perform, ImportCall.StopsInTime, Json.importFromJSON]
  cases hstop : importStop failures backupData with
  | none =>
      rw [hstop] at hcases
      simp [hcases]
  | some stop =>
      obtain ⟨kind, n⟩ := stop
      rw [hstop] at hcases
      cases kind with
      | thrown =>
          obtain ⟨hlength, himport⟩ := hcases
          simp only [himport]
          cases replaceExisting with
          | false =>
              simp [Session.recordAll_eq_self_iff, ← hlength]
          | true =>
              rcases eq_or_ne changes [] with rfl | hne
              · simp [← hlength, Json.clearAllData_eq_self_iff]
              · have hharmed := Json.recordAll_clearAllData_ne_self failures.clear session hne
                  (hcreates rfl)
                simp [← hlength, hne, hharmed]
      | trapped =>
          simp only [hcases]
          cases replaceExisting with
          | false => simp [Session.restart_eq_self_iff]
          | true => simp [Json.restart_clearAllData_eq_self_iff]

/-- A CSV import that fails does no harm exactly if it stops in time. -/
theorem unharmed_importFromCSV_iff (format : CsvFormat) (saveFails : Bool)
    (categories : List CategoryObject) (accounts : List AccountEntity) (randomIds : ℕ → ℤ)
    (csvString : Text) (session : Session) :
    (ImportCall.importFromCSV format saveFails categories accounts randomIds csvString).Unharmed
        order session ↔
      (ImportCall.importFromCSV format saveFails categories accounts randomIds
        csvString).StopsInTime session := by
  rw [ImportCall.Unharmed, ImportCall.perform, ImportCall.StopsInTime]
  cases hread : readRows format ((csvString.splitOn '\n').drop 1) with
  | none =>
      have himport : Csv.importFromCSV format saveFails categories accounts randomIds csvString
          session = (session.restart, .trapped) := by
        rw [Csv.importFromCSV, hread]
      simp [himport, Session.restart_eq_self_iff]
  | some rows =>
      obtain ⟨read, failed⟩ := rows
      obtain ⟨changes, hlength, himport⟩ : ∃ changes : List Change,
          changes.length = read.length ∧
            Csv.importFromCSV format saveFails categories accounts randomIds csvString session =
              if saveFails = true then (session.recordAll changes, ImportOutcome.failed)
              else ((session.recordAll changes).save, ImportOutcome.completed) := by
        refine ⟨read.zipIdx.map fun row => Change.insertTransaction
          (Csv.createTransaction categories accounts (randomIds row.2) row.1), by simp, ?_⟩
        rw [Csv.importFromCSV, hread, ← Session.foldl_record]
        rfl
      have hnone : changes = [] ↔ read = [] := by
        rw [← List.length_eq_zero_iff, hlength, List.length_eq_zero_iff]
      rw [himport]
      cases saveFails with
      | true => simp [Session.recordAll_eq_self_iff, hnone]
      | false => simp

/-- An import that does not complete leaves the data as it was just when it stops before it
has changed anything. -/
theorem unharmed_iff (order : FetchOrder) (session : Session) (call : ImportCall) :
    call.Unharmed order session ↔ call.StopsInTime session := by
  cases call with
  | importFromJSON failures replaceExisting backupData =>
      exact unharmed_importFromJSON_iff failures replaceExisting backupData session
  | importFromCSV format saveFails categories accounts randomIds csvString =>
      exact unharmed_importFromCSV_iff format saveFails categories accounts randomIds csvString
        session

/-- A store with the account of `seedInitialData` and nothing else. -/
def onlyAccount : Session :=
  { saved := { ObjectStore.empty with accounts := seededAccounts 1 }
    pending := [] }

/-- A backup whose only category has no colour: the app ends in its round. -/
def withoutColor : BackupData :=
  { version := BackupData.currentVersion
    exportDate := 0
    transactions := []
    categories :=
      [{ id := 1
         name := "Market".toList
         icon := none
         color := none
         type := none }]
    accounts := [] }

/-- A category without a colour ends the app after the deletion. -/
theorem not_unharmed_withoutColor :
    ¬ (ImportCall.importFromJSON ImportFailures.none true withoutColor).Unharmed
      FetchOrder.creation onlyAccount := by
  intro h
  have hcleared : (Json.importFromJSON FetchOrder.creation ImportFailures.none true withoutColor
      onlyAccount).1.saved.accounts.rows = [] := rfl
  have hsame := h (by simp only [ne_eq]; exact ImportOutcome.noConfusion)
  have hrows : onlyAccount.saved.accounts.rows = [] := by
    rw [← hcleared]
    exact congrArg (fun session => session.saved.accounts.rows) hsame.symm
  exact List.cons_ne_nil _ _ hrows

end SpendCraft.Ios
