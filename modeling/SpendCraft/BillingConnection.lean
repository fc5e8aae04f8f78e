import SpendCraft.BillingManager
import Mathlib.Data.List.Nodup
import Mathlib.Order.Basic

/-!
# Connecting to Billing

`BillingManagerImpl.connect` suspends its caller until Play calls `onBillingSetupFinished`,
unless the client is ready already. There is one variable for the continuation of the
caller, which a second call overwrites. The activity and the paywall both initialize billing,
each with a call of its own.

A continuation is named by the number of its call. Whether the client is ready is Play's
answer; a callback from within `startConnection` is one right after the call.

## Conventions

The state is whether the client is ready, the number in the variable `connectionContinuation`, the
calls that have not returned, and the resumptions in their order. Calls are numbered in the order
in which they are made. The callback of the service may come at any time, also when nothing waits,
and a disconnection resumes nobody.

## Proof

The structure `Connection` is what holds after every run: a resumed call is not suspended, no call
is resumed twice, and the stored number is one of a suspended call. A call is left behind exactly
when another one is stored in its place, which the state before the call tells: `NoneWaiting`. The
exact condition over a run is the rule of `Machine` for an invariant that holds together with a
property.

## Main results

* `Connection.step`: what holds after any calls and callbacks.
* `Connection.answered_step_iff`: which of them leave no caller behind.
* `answersAll_iff`: the same for the runs.
* `resumed_nodup`: no call is resumed twice.
-/

namespace SpendCraft

open Machine

namespace BillingManagerImpl

/-- The connection of the manager, and what became of the calls of `connect`. A continuation is
named by the number of its call. -/
structure ConnectionState where
  isConnected : Bool
  connectionContinuation : Option ℕ
  /-- How many calls of `connect` there were. -/
  calls : ℕ
  /-- The calls that have not returned. -/
  suspended : List ℕ
  /-- The resumptions, in order: `connect` returns or throws. -/
  resumed : List (ℕ × Except String Unit)

/-- The manager as it is constructed. -/
def ConnectionState.initial : ConnectionState where
  isConnected := false
  connectionContinuation := none
  calls := 0
  suspended := []
  resumed := []

namespace ConnectionState

/-- A continuation is resumed with its result. -/
def resume (continuation : ℕ) (result : Except String Unit) (s : ConnectionState) :
    ConnectionState :=
  { s with
    suspended := s.suspended.filter (· ≠ continuation)
    resumed := s.resumed ++ [(continuation, result)] }

/-- `connect`: a client that is ready answers at once; otherwise the continuation is stored over
the one that was there. -/
def connect (isReady : Bool) (s : ConnectionState) : ConnectionState :=
  let continuation := s.calls
  let s := { s with calls := s.calls + 1, suspended := s.suspended ++ [continuation] }
  if isReady then s.resume continuation (.ok ())
  else { s with connectionContinuation := some continuation }

/-- `connectionContinuation?.resume…`, and the variable is cleared. -/
def resumeStored (result : Except String Unit) (s : ConnectionState) : ConnectionState :=
  match s.connectionContinuation with
  | some continuation => { s.resume continuation result with connectionContinuation := none }
  | none => s

/-- `onBillingSetupFinished`: the stored continuation, if any, is resumed with the result. -/
def onBillingSetupFinished (billingResult : BillingResult) (s : ConnectionState) :
    ConnectionState :=
  if billingResult.responseCode = BillingResponseCode.ok then
    resumeStored (.ok ()) { s with isConnected := true }
  else
    resumeStored (.error ("Billing setup failed: " ++ billingResult.debugMessage)) s

/-- `onBillingServiceDisconnected`: no continuation is resumed. -/
def onBillingServiceDisconnected (s : ConnectionState) : ConnectionState :=
  { s with isConnected := false }

end ConnectionState

/-- What happens to the connection: a call of the app, and the two callbacks of the service. -/
inductive ConnectionEvent
  | connect (isReady : Bool)
  | onBillingSetupFinished (billingResult : BillingResult)
  | onBillingServiceDisconnected

namespace ConnectionEvent

/-- One event. -/
def step (s : ConnectionState) : ConnectionEvent → ConnectionState
  | connect isReady => s.connect isReady
  | onBillingSetupFinished billingResult => s.onBillingSetupFinished billingResult
  | onBillingServiceDisconnected => s.onBillingServiceDisconnected

/-- A call that has to wait finds no other one waiting. -/
def NoneWaiting (s : ConnectionState) : ConnectionEvent → Prop
  | connect isReady => isReady = false → s.suspended = []
  | _ => True

end ConnectionEvent

/-- Each call that has not returned is the one whose continuation is stored. -/
def Answered (s : ConnectionState) : Prop :=
  ∀ call ∈ s.suspended, s.connectionContinuation = some call

/-- At every point of the run each waiting call is the stored one, a callback would leave
no call waiting, and no call has been resumed twice. -/
def AnswersAll (events : List ConnectionEvent) : Prop :=
  ∀ pre, pre <+: events →
    Answered (run ConnectionEvent.step .initial pre) ∧
      (∀ billingResult, ((run ConnectionEvent.step .initial pre).onBillingSetupFinished
        billingResult).suspended = []) ∧
      ((run ConnectionEvent.step .initial pre).resumed.map Prod.fst).Nodup

/-! ### Waiting and resumed calls -/

/-- What holds after any calls and callbacks: a call is resumed at most once and does not
wait afterwards, and the stored continuation belongs to a waiting call. -/
structure Connection (s : ConnectionState) : Prop where
  suspended_lt : ∀ call ∈ s.suspended, call < s.calls
  resumed_lt : ∀ call ∈ s.resumed.map Prod.fst, call < s.calls
  not_suspended : ∀ call ∈ s.resumed.map Prod.fst, call ∉ s.suspended
  nodup : (s.resumed.map Prod.fst).Nodup
  stored : ∀ call, s.connectionContinuation = some call → call ∈ s.suspended

/-- Nothing is suspended at the start. -/
theorem connection_initial : Connection .initial where
  suspended_lt := by simp [ConnectionState.initial]
  resumed_lt := by simp [ConnectionState.initial]
  not_suspended := by simp [ConnectionState.initial]
  nodup := List.nodup_nil
  stored := by simp [ConnectionState.initial]

/-- After a callback none of the answered calls waits. -/
theorem suspended_resumeStored {s : ConnectionState} (hanswered : Answered s)
    (result : Except String Unit) : (s.resumeStored result).suspended = [] := by
  rw [List.eq_nil_iff_forall_not_mem]
  intro call hmem
  rw [ConnectionState.resumeStored] at hmem
  cases hstored : s.connectionContinuation with
  | none =>
      simp only [hstored] at hmem
      exact Option.some_ne_none call ((hanswered call hmem).symm.trans hstored)
  | some stored =>
      simp only [hstored, ConnectionState.resume] at hmem
      obtain ⟨hwaiting, hne⟩ := List.mem_filter.mp hmem
      have hcall := (hanswered call hwaiting).symm.trans hstored
      simp [Option.some.inj hcall] at hne

/-- If every earlier call was answered, the callback leaves none suspended. -/
theorem suspended_onBillingSetupFinished {s : ConnectionState} (hanswered : Answered s)
    (billingResult : BillingResult) : (s.onBillingSetupFinished billingResult).suspended = [] := by
  rw [ConnectionState.onBillingSetupFinished]
  split_ifs
  · have hconnected : Answered { s with isConnected := true } := hanswered
    exact suspended_resumeStored hconnected _
  · exact suspended_resumeStored hanswered _

section Steps

variable {s : ConnectionState} (h : Connection s)

include h

/-- Resuming a waiting call, whose continuation is not stored any more. -/
theorem Connection.resume {call : ℕ} (hcall : call ∈ s.suspended)
    (result : Except String Unit) {stored : Option ℕ}
    (hstored : ∀ other, stored = some other → other ∈ s.suspended ∧ other ≠ call) :
    Connection { s.resume call result with connectionContinuation := stored } where
  suspended_lt := fun other hother => h.suspended_lt other (List.mem_of_mem_filter hother)
  resumed_lt := by
    simp only [ConnectionState.resume, List.map_append, List.forall_mem_append, List.map_singleton,
      List.forall_mem_singleton]
    exact ⟨h.resumed_lt, h.suspended_lt call hcall⟩
  not_suspended := by
    simp only [ConnectionState.resume, List.map_append, List.forall_mem_append, List.map_singleton,
      List.forall_mem_singleton]
    exact ⟨fun other hother hmem => h.not_suspended other hother (List.mem_of_mem_filter hmem),
      by simp⟩
  nodup := by
    simp only [ConnectionState.resume, List.map_append, List.map_singleton]
    refine List.Nodup.append h.nodup (List.nodup_singleton call) ?_
    rw [List.disjoint_singleton]
    exact fun hresumed => h.not_suspended call hresumed hcall
  stored := by
    intro other hother
    obtain ⟨hmem, hne⟩ := hstored other hother
    exact List.mem_filter.mpr ⟨hmem, by simpa using hne⟩

/-- A new call is suspended first. -/
theorem Connection.suspend (stored : Option ℕ)
    (hstored : stored = s.connectionContinuation ∨ stored = some s.calls) :
    Connection { s with
      connectionContinuation := stored
      calls := s.calls + 1
      suspended := s.suspended ++ [s.calls] } where
  suspended_lt := by
    simp only [List.forall_mem_append, List.forall_mem_singleton]
    exact ⟨fun call hcall => Nat.lt_succ_of_lt (h.suspended_lt call hcall),
      Nat.lt_succ_self _⟩
  resumed_lt := fun call hcall => Nat.lt_succ_of_lt (h.resumed_lt call hcall)
  not_suspended := by
    intro call hcall hmem
    obtain hmem | hmem := List.mem_append.mp hmem
    · exact h.not_suspended call hcall hmem
    · exact Nat.ne_of_lt (h.resumed_lt call hcall) (List.mem_singleton.mp hmem)
  nodup := h.nodup
  stored := by
    intro call hcall
    obtain rfl | rfl := hstored
    · exact List.mem_append_left _ (h.stored call hcall)
    · exact List.mem_append_right _ (List.mem_singleton.mpr (Option.some.inj hcall).symm)

/-- Nothing here depends on `isConnected`. -/
theorem Connection.setConnected (isConnected : Bool) :
    Connection { s with isConnected := isConnected } :=
  ⟨h.suspended_lt, h.resumed_lt, h.not_suspended, h.nodup, h.stored⟩

/-- Resuming the stored continuation keeps the invariant. -/
theorem Connection.resumeStored (result : Except String Unit) :
    Connection (s.resumeStored result) := by
  rw [ConnectionState.resumeStored]
  cases hstored : s.connectionContinuation with
  | none => exact h
  | some call =>
      exact h.resume (h.stored call hstored) result fun other hother => by simp at hother

/-- **The step.** -/
theorem Connection.step (event : ConnectionEvent) : Connection (event.step s) := by
  cases event with
  | connect isReady =>
      cases isReady with
      | false => exact h.suspend _ (.inr rfl)
      | true =>
          refine (h.suspend s.connectionContinuation (.inl rfl)).resume
            (List.mem_append_right _ (List.mem_singleton_self _)) _ ?_
          intro other hother
          have hmem := h.stored other hother
          exact ⟨List.mem_append_left _ hmem, Nat.ne_of_lt (h.suspended_lt other hmem)⟩
  | onBillingSetupFinished billingResult =>
      rw [ConnectionEvent.step, ConnectionState.onBillingSetupFinished]
      split_ifs
      · exact (h.setConnected true).resumeStored _
      · exact h.resumeStored _
  | onBillingServiceDisconnected => exact h.setConnected false

/-- **Who is answered after a step.** A call that has to wait leaves those behind that
wait already. -/
theorem Connection.answered_step_iff (hanswered : Answered s) (event : ConnectionEvent) :
    Answered (event.step s) ↔ ConnectionEvent.NoneWaiting s event := by
  cases event with
  | connect isReady =>
      cases isReady with
      | false =>
          have hiff : Answered (ConnectionEvent.step s (.connect false)) ↔
              ∀ call ∈ s.suspended, s.calls = call := by
            simp [Answered, ConnectionEvent.step, ConnectionState.connect, or_imp, forall_and]
          rw [hiff, ConnectionEvent.NoneWaiting, List.eq_nil_iff_forall_not_mem]
          constructor
          · intro heq _ call hcall
            exact Nat.ne_of_lt (h.suspended_lt call hcall) (heq call hcall).symm
          · intro hnone call hcall
            exact absurd hcall (hnone rfl call)
      | true =>
          refine iff_of_true ?_ (fun hready => absurd hready Bool.true_eq_false.mp)
          intro call hcall
          obtain ⟨hmem, hne⟩ := List.mem_filter.mp hcall
          obtain hwaiting | hnew := List.mem_append.mp hmem
          · exact hanswered call hwaiting
          · simp [List.mem_singleton.mp hnew] at hne
  | onBillingSetupFinished billingResult =>
      refine iff_of_true ?_ True.intro
      have hnone := suspended_onBillingSetupFinished hanswered billingResult
      intro call hcall
      rw [ConnectionEvent.step, hnone] at hcall
      exact absurd hcall List.not_mem_nil
  | onBillingServiceDisconnected => exact iff_of_true hanswered True.intro

end Steps

/-! ### Runs -/

/-- **Run lemma:** the invariant holds in every state of the manager. -/
theorem connection_run (events : List ConnectionEvent) :
    Connection (run ConnectionEvent.step .initial events) :=
  run_invariant_of_step (fun _ event h => h.step event) connection_initial events

/-- No call is ever resumed twice. -/
theorem resumed_nodup (events : List ConnectionEvent) :
    ((run ConnectionEvent.step .initial events).resumed.map Prod.fst).Nodup :=
  (connection_run events).nodup

/-- **Every caller is answered** just when no call of `connect` has to wait while another
one waits. -/
theorem answersAll_iff (events : List ConnectionEvent) :
    AnswersAll events ↔
      AllSteps ConnectionEvent.step ConnectionEvent.NoneWaiting .initial events := by
  have hanswered : AnswersAll events ↔ ∀ pre, pre <+: events →
      Answered (run ConnectionEvent.step .initial pre) := by
    refine forall_congr' fun pre => imp_congr_right fun _ => ?_
    constructor
    · exact fun h => h.1
    · intro h
      exact ⟨h, suspended_onBillingSetupFinished h, (connection_run pre).nodup⟩
  rw [hanswered]
  exact forall_prefix_iff_of_invariant (fun _ event h => h.step event)
    (fun _ event h hanswered => h.answered_step_iff hanswered event) connection_initial
    (by simp [Answered, ConnectionState.initial]) events

/-- The activity and the paywall both connect before Play answers: the first call is left
waiting by the callback. -/
theorem not_answersAll_two_callers :
    ¬ AnswersAll [.connect false, .connect false] := by
  intro h
  obtain ⟨-, hcallback, -⟩ := h [.connect false, .connect false] (List.prefix_refl _)
  have hnone := hcallback ⟨BillingResponseCode.ok, ""⟩
  revert hnone
  decide

end BillingManagerImpl

end SpendCraft
