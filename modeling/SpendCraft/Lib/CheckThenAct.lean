import Mathlib.Data.List.Nodup
import Mathlib.Data.Set.Insert
import Mathlib.Logic.Relation

/-!
# Check-Then-Act

Parties announce keys and mark the announced ones in a shared set, so that a key is not
announced again. Marking takes two steps: a party that finds a key unmarked announces it
and has it *pending* until it sets the mark. Between the two steps the key looks
unmarked to everybody else.

## Conventions

A party is what it has announced, in order, and the key it has pending, if there is one. The
parties are a list, and a step changes one of them: `join` brings a new party, `announce` and
`mark` are the two halves of an announcement, and `drop` puts an idle party in the place of
another one, whose announcements are forgotten. What the keys are, and why a party wants to
announce one, is left open: the steps are a relation, and a program that follows it may choose
among them as it likes. The guard is that of the relation, not of the program: a program that
announces a pending key takes no such step.

## Proof

The invariant is `State.Settled`: the announcements of all parties are different, and each
announced key is marked or pending with the party that announced it. The guard is what keeps it
when a key is announced; the other steps move a key from pending to marked, add an idle party, or
forget a party with all that it had announced.

## Main results

* `Step.settled`, `settled_of_steps`: when no party announces a key that another party
  has pending, each key is announced at most once, over all parties and all runs.
-/

namespace CheckThenAct

variable {κ : Type*}

/-- One party: what it has announced, and the announced key it has yet to mark. -/
@[ext] structure Party (κ : Type*) where
  announced : List κ
  pending : Option κ
  mem_announced : ∀ k, pending = some k → k ∈ announced

/-- A party that has announced nothing. -/
def Party.idle : Party κ :=
  { announced := [], pending := none, mem_announced := by simp }

/-- The party announces a key. -/
def Party.announce (p : Party κ) (k : κ) : Party κ :=
  { announced := p.announced ++ [k]
    pending := some k
    mem_announced := by
      rintro _ ⟨⟩
      exact List.mem_append_right _ List.mem_cons_self }

/-- The party has set its pending mark. -/
def Party.marked (p : Party κ) : Party κ :=
  { announced := p.announced, pending := none, mem_announced := by simp }

/-- The shared marks, and the parties that check and set them. -/
@[ext] structure State (κ : Type*) where
  marks : Set κ
  parties : List (Party κ)

/-- All announcements, party by party. -/
def State.announcements (s : State κ) : List κ :=
  s.parties.flatMap Party.announced

/-- The steps, with the guard that a pending key is not announced. -/
inductive Step : State κ → State κ → Prop
  | join (marks : Set κ) (parties : List (Party κ)) :
      Step ⟨marks, parties⟩ ⟨marks, parties ++ [Party.idle]⟩
  | announce (marks : Set κ) (pre post : List (Party κ)) (p : Party κ) (k : κ)
      (hidle : p.pending = none) (hmark : k ∉ marks)
      (hpending : ∀ q ∈ pre ++ p :: post, q.pending ≠ some k) :
      Step ⟨marks, pre ++ p :: post⟩ ⟨marks, pre ++ p.announce k :: post⟩
  | mark (marks : Set κ) (pre post : List (Party κ)) (p : Party κ) (k : κ)
      (hpending : p.pending = some k) :
      Step ⟨marks, pre ++ p :: post⟩ ⟨insert k marks, pre ++ p.marked :: post⟩
  | drop (marks : Set κ) (pre post : List (Party κ)) (p : Party κ) :
      Step ⟨marks, pre ++ p :: post⟩ ⟨marks, pre ++ Party.idle :: post⟩

/-- No key is announced twice, and an announced key is marked, or about to be. -/
structure State.Settled (s : State κ) : Prop where
  nodup : s.announcements.Nodup
  marked_or_pending : ∀ k ∈ s.announcements,
    k ∈ s.marks ∨ ∃ p ∈ s.parties, p.pending = some k

/-- The announcements, with those of one party in the middle. -/
theorem announcements_append_cons (marks : Set κ) (pre post : List (Party κ)) (p : Party κ) :
    State.announcements ⟨marks, pre ++ p :: post⟩ =
      pre.flatMap Party.announced ++ (p.announced ++ post.flatMap Party.announced) := by
  rw [State.announcements, List.flatMap_append, List.flatMap_cons]

/-- Replacing one party keeps the others. -/
theorem mem_replace {pre post : List (Party κ)} {p q : Party κ} (h : q ∈ pre ++ p :: post)
    (p' : Party κ) : q = p ∨ q ∈ pre ++ p' :: post := by
  rcases List.mem_append.mp h with h | h
  · exact Or.inr (List.mem_append_left _ h)
  · rcases List.mem_cons.mp h with h | h
    · exact Or.inl h
    · exact Or.inr (List.mem_append_right _ (List.mem_cons_of_mem _ h))

namespace State.Settled

variable {marks : Set κ} {parties pre post : List (Party κ)} {p : Party κ} {k : κ}

/-- A party that joins has announced nothing. -/
theorem join (hs : State.Settled ⟨marks, parties⟩) :
    State.Settled ⟨marks, parties ++ [Party.idle]⟩ := by
  have hsame : State.announcements ⟨marks, parties ++ [Party.idle]⟩ =
      State.announcements ⟨marks, parties⟩ := by
    simp [State.announcements, Party.idle]
  refine ⟨hsame ▸ hs.nodup, ?_⟩
  rw [hsame]
  intro k hk
  obtain hmark | ⟨p, hp, hpk⟩ := hs.marked_or_pending k hk
  · exact Or.inl hmark
  · exact Or.inr ⟨p, List.mem_append_left _ hp, hpk⟩

/-- A party may announce what is neither marked nor pending with any party. -/
theorem announce (hs : State.Settled ⟨marks, pre ++ p :: post⟩) (hidle : p.pending = none)
    (hmark : k ∉ marks) (hpending : ∀ q ∈ pre ++ p :: post, q.pending ≠ some k) :
    State.Settled ⟨marks, pre ++ p.announce k :: post⟩ := by
  have hperm : (State.announcements ⟨marks, pre ++ p.announce k :: post⟩).Perm
      (k :: State.announcements ⟨marks, pre ++ p :: post⟩) := by
    rw [announcements_append_cons, announcements_append_cons, Party.announce,
      List.append_assoc, List.singleton_append, ← List.append_assoc, ← List.append_assoc]
    exact List.perm_middle
  have hfresh : k ∉ State.announcements ⟨marks, pre ++ p :: post⟩ := by
    intro hk
    obtain hk | ⟨q, hq, hqk⟩ := hs.marked_or_pending k hk
    · exact hmark hk
    · exact hpending q hq hqk
  refine ⟨hperm.nodup_iff.mpr (List.nodup_cons.mpr ⟨hfresh, hs.nodup⟩), ?_⟩
  intro k' hk'
  obtain rfl | hk' := List.mem_cons.mp (hperm.subset hk')
  · exact Or.inr ⟨p.announce k', by simp, rfl⟩
  · obtain hmark' | ⟨q, hq, hqk⟩ := hs.marked_or_pending k' hk'
    · exact Or.inl hmark'
    · obtain rfl | hq := mem_replace hq (p.announce k)
      · rw [hidle] at hqk
        cases hqk
      · exact Or.inr ⟨q, hq, hqk⟩

/-- A party that marks what is pending with it is done with it. -/
theorem mark (hs : State.Settled ⟨marks, pre ++ p :: post⟩) (hpending : p.pending = some k) :
    State.Settled ⟨insert k marks, pre ++ p.marked :: post⟩ := by
  have hsame : State.announcements ⟨insert k marks, pre ++ p.marked :: post⟩ =
      State.announcements ⟨marks, pre ++ p :: post⟩ := by
    rw [announcements_append_cons, announcements_append_cons, Party.marked]
  refine ⟨hsame ▸ hs.nodup, ?_⟩
  rw [hsame]
  intro k' hk'
  obtain hmark | ⟨q, hq, hqk⟩ := hs.marked_or_pending k' hk'
  · exact Or.inl (Set.mem_insert_of_mem k hmark)
  · obtain rfl | hq := mem_replace hq p.marked
    · rw [hpending] at hqk
      cases hqk
      exact Or.inl (Set.mem_insert k marks)
    · exact Or.inr ⟨q, hq, hqk⟩

/-- A party may drop out and forget what it has announced. -/
theorem drop (hs : State.Settled ⟨marks, pre ++ p :: post⟩) :
    State.Settled ⟨marks, pre ++ Party.idle :: post⟩ := by
  have hdrop : State.announcements ⟨marks, pre ++ Party.idle :: post⟩ =
      pre.flatMap Party.announced ++ post.flatMap Party.announced := by
    rw [announcements_append_cons, Party.idle, List.nil_append]
  have hnodup := hs.nodup
  rw [announcements_append_cons] at hnodup
  refine ⟨?_, ?_⟩
  · rw [hdrop]
    exact hnodup.sublist ((List.sublist_append_right _ _).append_left _)
  · rw [hdrop]
    intro k hk
    have hk' : k ∈ State.announcements ⟨marks, pre ++ p :: post⟩ := by
      rw [announcements_append_cons]
      obtain hk | hk := List.mem_append.mp hk
      · exact List.mem_append_left _ hk
      · exact List.mem_append_right _ (List.mem_append_right _ hk)
    obtain hmark | ⟨q, hq, hqk⟩ := hs.marked_or_pending k hk'
    · exact Or.inl hmark
    · obtain rfl | hq := mem_replace hq Party.idle
      · -- the dropped party would have announced the key a second time
        have hq := q.mem_announced k hqk
        rw [List.nodup_append'] at hnodup
        obtain ⟨-, hright, hdisj⟩ := hnodup
        obtain hk | hk := List.mem_append.mp hk
        · exact absurd (List.mem_append_left _ hq) (hdisj hk)
        · exact absurd hk ((List.disjoint_of_nodup_append hright) hq)
      · exact Or.inr ⟨q, hq, hqk⟩

end State.Settled

/-- **One step** keeps the announcements settled. -/
theorem Step.settled {s s' : State κ} (h : Step s s') (hs : s.Settled) : s'.Settled := by
  cases h with
  | join marks parties => exact hs.join
  | announce marks pre post p k hidle hmark hpending => exact hs.announce hidle hmark hpending
  | mark marks pre post p k hpending => exact hs.mark hpending
  | drop marks pre post p => exact hs.drop

/-- **Every run** keeps them settled. -/
theorem settled_of_steps {s s' : State κ} (h : Relation.ReflTransGen Step s s')
    (hs : s.Settled) : s'.Settled := by
  induction h with
  | refl => exact hs
  | tail _ hstep ih => exact hstep.settled ih

/-- Nobody has announced anything yet. -/
theorem settled_init (marks : Set κ) : State.Settled ⟨marks, []⟩ :=
  { nodup := List.nodup_nil, marked_or_pending := by simp [State.announcements] }

end CheckThenAct
