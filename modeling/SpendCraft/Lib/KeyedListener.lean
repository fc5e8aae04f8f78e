import Mathlib.Logic.Function.Iterate

/-!
# Listeners that Skip Known Keys

A listener is told that a source has changed by notifications that wait in a queue. When one is
handed over, the listener looks at the source as it is then, and shows it unless its key is the
key of the last time. The source may also change without a notification, and what is shown may
be overwritten from elsewhere.

## Conventions

The source has a value or none, and its value has a key; the value may change without its key. The
queue is a number, since a notification carries nothing: the listener always looks at the source
as it is at that moment. `drain` hears them all, and `UpToDate` says what is shown afterwards, so
that a change which is still on its way is no failure.

## Proof

What is shown after the queue is empty is known from the state before (`shown_drain`): the
notifications change it at most once, because the second look finds the key that the first has
noted. So a step keeps the listener up to date under a condition on the state before the step,
`Allowed`, and every step can be judged by itself.

## Main results

* `shown_drain`: what is shown once the queue is empty.
* `upToDate_step_iff`: the steps that keep this the source.
-/

/-- A source, the notifications that wait, the key of the last one that was handed over, and what
is shown. -/
structure KeyedListener (σ κ ν : Type*) where
  source : σ
  posted : ℕ
  previous : Option κ
  shown : ν

namespace KeyedListener

variable {σ κ ν : Type*} [DecidableEq κ] (key : σ → κ) (view : σ → ν)

/-- The listener looks at the source. -/
def look (l : KeyedListener σ κ ν) : KeyedListener σ κ ν :=
  { l with
    previous := some (key l.source)
    shown := if l.previous = some (key l.source) then l.shown else view l.source }

/-- The next notification in the queue is heard. -/
def deliver (l : KeyedListener σ κ ν) : KeyedListener σ κ ν :=
  match l.posted with
  | 0 => l
  | posted + 1 => { l.look key view with posted := posted }

/-- The whole queue is heard. -/
def drain (l : KeyedListener σ κ ν) : KeyedListener σ κ ν :=
  (deliver key view)^[l.posted] l

/-- What can happen: the source changes, something else is shown, a notification is handed
over. -/
inductive Event (σ ν : Type*)
  | change (source : σ) (post : Bool)
  | overwrite (source : σ) (post : Bool) (shown : ν)
  | deliver

/-- One event. A change may leave a notification, an overwrite shows its own value at once. -/
def step (l : KeyedListener σ κ ν) : Event σ ν → KeyedListener σ κ ν
  | .change source post => { l with source := source, posted := l.posted + post.toNat }
  | .overwrite source post shown =>
      { l with source := source, posted := l.posted + post.toNat, shown := shown }
  | .deliver => l.deliver key view

/-- Once the queue is empty, the source is shown. -/
def UpToDate (l : KeyedListener σ κ ν) : Prop :=
  (l.drain key view).shown = view l.source

/-- A step that leaves no notification, or one that will be skipped, shows the same. -/
def Allowed (l : KeyedListener σ κ ν) : Event σ ν → Prop
  | .change source post =>
      l.posted + post.toNat = 0 ∨ l.previous = some (key source) → l.shown = view source
  | .overwrite source post shown =>
      l.posted + post.toNat = 0 ∨ l.previous = some (key source) → shown = view source
  | .deliver => True

variable {key view} {l : KeyedListener σ κ ν}

/-- Hearing a notification does not touch the source. -/
@[simp] theorem source_deliver : (l.deliver key view).source = l.source := by
  rw [deliver]
  split
  · rfl
  · rfl

/-- Hearing a notification takes it from the queue. -/
theorem posted_deliver : (l.deliver key view).posted = l.posted - 1 := by
  rw [deliver]
  split
  · omega
  · simp_all

/-- Hearing the first notification first changes nothing in the end. -/
theorem drain_deliver : (l.deliver key view).drain key view = l.drain key view := by
  cases h : l.posted with
  | zero => rw [deliver, h]
  | succ n => rw [drain, drain, posted_deliver, h, Nat.add_sub_cancel, Function.iterate_succ_apply]

/-- One look is enough: the later ones are skipped. -/
theorem shown_drain (l : KeyedListener σ κ ν) :
    (l.drain key view).shown =
      if l.posted = 0 ∨ l.previous = some (key l.source) then l.shown else view l.source := by
  obtain ⟨source, posted, previous, shown⟩ := l
  induction posted generalizing previous shown with
  | zero => simp [drain]
  | succ n ih =>
      rw [← drain_deliver, deliver, look, ih]
      simp

/-- The listener is up to date exactly if what it would skip, or never hears of, is shown already.
-/
theorem upToDate_iff :
    l.UpToDate key view ↔
      (l.posted = 0 ∨ l.previous = some (key l.source) → l.shown = view l.source) := by
  rw [UpToDate, shown_drain]
  by_cases h : l.posted = 0 ∨ l.previous = some (key l.source)
  · simp [h]
  · simp [h]

/-- **Step rule.** Where the source is what will be shown, a step keeps that just when it does not
change what is to be shown without a notification or under the key that the listener knows. -/
theorem upToDate_step_iff (h : l.UpToDate key view) (event : Event σ ν) :
    (l.step key view event).UpToDate key view ↔ l.Allowed key view event := by
  cases event with
  | change source post => exact upToDate_iff
  | overwrite source post shown => exact upToDate_iff
  | deliver =>
      refine iff_of_true ?_ trivial
      rw [UpToDate, step, drain_deliver, source_deliver]
      exact h

end KeyedListener
