import Mathlib.Data.List.Induction

/-!
# Runs of Deterministic Machines

A machine is a step function `step : σ → α → σ`; its inputs are whatever the
environment chooses at each step. `run` folds the step function over a list of
inputs, and `AllSteps P` says that every input of the run was taken in a state where
the pre-state condition `P` allows it: schedules, clocks, and side conditions on steps
are all conditions of this shape.

## Conventions

A machine is any function; a state and its inputs may be arbitrary types. Nondeterminism of the
environment is in the list of inputs, and so is the schedule of concurrent parts: an input then
names the part that moves. A machine with outputs is a machine together with a function of the
state before a step. A specification that leaves choices open is a relation between states and
inputs (`Reaches`), and a machine follows it if each of its runs has a run of the relation beside
it.

A condition on a run is either asked of every prefix, which is what "always" means for a run that
goes on, or of every step by its pre-state, which is what can be decided before the step is taken.
Most of the rules connect the two.

## Proof

All rules are inductions on the list of inputs, from its front for `run` and `AllSteps`, which
follow the list, and from its end where a property speaks of the last state. The rules for an exact
condition ask of a single step, from a state with the property, that it keeps the property if and
only if the condition holds; beyond the first step that breaks it they need to know nothing.

## Main results

* `allSteps_iff`: the recursive definition against the one by splitting the run.
* `run_invariant`: the induction over runs, for a state invariant.
* `run_invariant_of_step`, `forall_prefix_iff_of_step`, `forall_prefix_iff_of_invariant`: the
  rules for machines that may take every step.
* `run_invariant_or_since`: the same for what holds unless a run has started anew.
* `run_iff_allSteps`: the same for what never comes back.
* `forall_prefix_iff_allSteps`: the same for the exact condition on the steps.
* `forall_prefix_view_iff_allSteps`, `forall_prefix_view_iff_of_allSteps`: the same where only a
  part of the state is seen.
* `forall_later_iff_allSteps`: what holds between all states of a run and later ones.
* `run_invariant_history`: the same for an invariant that also reads the inputs so far.
* `forall_mem_outputs_iff`, `length_outputs_filter_cons`: what a machine with outputs puts
  out, step by step.
* `forall_prefix_exists_iff_allSteps`: the exact condition for a machine to follow a
  nondeterministic specification.
-/

namespace Machine

variable {σ α : Type*} (step : σ → α → σ)

/-- The state reached from `s` on the inputs `as`. -/
def run (s : σ) (as : List α) : σ :=
  as.foldl step s

/-- The empty run. -/
@[simp] theorem run_nil (s : σ) : run step s [] = s := rfl

/-- A run starts with its first step. -/
@[simp] theorem run_cons (s : σ) (a : α) (as : List α) :
    run step s (a :: as) = run step (step s a) as := rfl

/-- A run of two parts. -/
@[simp] theorem run_append (s : σ) (as bs : List α) :
    run step s (as ++ bs) = run step (run step s as) bs :=
  List.foldl_append

/-- Every input of the run from `s` is taken in a state where `P` allows it. -/
def AllSteps (P : σ → α → Prop) : σ → List α → Prop
  | _, [] => True
  | s, a :: as => P s a ∧ AllSteps P (step s a) as

variable {step} {P Q : σ → α → Prop}

/-- The empty run has no step to ask. -/
@[simp] theorem allSteps_nil (s : σ) : AllSteps step P s [] := trivial

/-- The condition on the first step, and on the rest after it. -/
@[simp] theorem allSteps_cons {s : σ} {a : α} {as : List α} :
    AllSteps step P s (a :: as) ↔ P s a ∧ AllSteps step P (step s a) as :=
  Iff.rfl

/-- A condition that can be decided for each step can be decided for a run. -/
instance decidableAllSteps [∀ s a, Decidable (P s a)] :
    ∀ (s : σ) (as : List α), Decidable (AllSteps step P s as)
  | _, [] => .isTrue trivial
  | s, a :: as =>
      haveI := decidableAllSteps (step s a) as
      inferInstanceAs (Decidable (P s a ∧ AllSteps step P (step s a) as))

/-- The condition on a run of two parts. -/
theorem allSteps_append {s : σ} {as bs : List α} :
    AllSteps step P s (as ++ bs) ↔
      AllSteps step P s as ∧ AllSteps step P (run step s as) bs := by
  induction as generalizing s with
  | nil => simp
  | cons a as ih => simp [ih, and_assoc]

/-- `AllSteps` by splitting the run at each of its inputs. -/
theorem allSteps_iff {s : σ} {as : List α} :
    AllSteps step P s as ↔
      ∀ pre a post, as = pre ++ a :: post → P (run step s pre) a := by
  constructor
  · rintro h pre a post rfl
    exact (allSteps_append.mp h).2.1
  · intro h
    induction as generalizing s with
    | nil => trivial
    | cons a as ih =>
        refine ⟨h [] a as rfl, ih ?_⟩
        intro pre b post heq
        exact h (a :: pre) b post (by rw [heq]; rfl)

/-- A weaker condition holds along the same run. -/
theorem AllSteps.mono {s : σ} {as : List α} (h : AllSteps step P s as)
    (hPQ : ∀ s a, P s a → Q s a) : AllSteps step Q s as := by
  induction as generalizing s with
  | nil => trivial
  | cons a as ih => exact ⟨hPQ _ _ h.1, ih h.2⟩

/-- Two conditions along one run. -/
theorem AllSteps.and {s : σ} {as : List α} (hP : AllSteps step P s as)
    (hQ : AllSteps step Q s as) : AllSteps step (fun s a => P s a ∧ Q s a) s as := by
  induction as generalizing s with
  | nil => trivial
  | cons a as ih => exact ⟨⟨hP.1, hQ.1⟩, ih hP.2 hQ.2⟩

/-- A condition that reads only the input holds along a run as soon as it holds of
every input. -/
theorem AllSteps.of_forall_mem {R : α → Prop} {as : List α} (h : ∀ a ∈ as, R a) (s : σ) :
    AllSteps step (fun _ a => R a) s as := by
  induction as generalizing s with
  | nil => trivial
  | cons a as ih =>
      exact ⟨h a List.mem_cons_self, ih (fun b hb => h b (List.mem_cons_of_mem a hb)) _⟩

/-- Conditions that say the same in the states of an invariant hold along the same runs. -/
theorem allSteps_congr {V : σ → α → Prop} {I : σ → Prop}
    (hI : ∀ s a, I s → V s a → I (step s a)) (hiff : ∀ s a, I s → V s a → (P s a ↔ Q s a))
    {s : σ} (h : I s) {as : List α} (hV : AllSteps step V s as) :
    AllSteps step P s as ↔ AllSteps step Q s as := by
  induction as generalizing s with
  | nil => exact Iff.rfl
  | cons a as ih =>
      obtain ⟨hVa, hVas⟩ := hV
      rw [allSteps_cons, allSteps_cons, hiff s a h hVa, ih (hI s a h hVa) hVas]

/-- **Rule of later states.** A reflexive and transitive relation holds between every
state of a run and every later one just when it holds across each step. -/
theorem forall_later_iff_allSteps {R : σ → σ → Prop} (hrefl : ∀ s, R s s)
    (htrans : ∀ s t u, R s t → R t u → R s u) {s : σ} {as : List α} :
    (∀ pre mid, pre ++ mid <+: as → R (run step s pre) (run step s (pre ++ mid))) ↔
      AllSteps step (fun s a => R s (step s a)) s as := by
  constructor
  · intro h
    rw [allSteps_iff]
    rintro pre a post rfl
    have hstep := h pre [a] ⟨post, by rw [List.append_assoc]; rfl⟩
    rwa [run_append] at hstep
  · rintro h pre mid ⟨post, rfl⟩
    rw [allSteps_append, allSteps_append] at h
    obtain ⟨⟨-, hmid⟩, -⟩ := h
    rw [run_append]
    generalize run step s pre = t at hmid
    induction mid generalizing t with
    | nil => exact hrefl t
    | cons a mid ih => exact htrans t (step t a) _ hmid.1 (ih (step t a) hmid.2)

/-- The condition that allows every input holds along every run. -/
theorem AllSteps.trivial (s : σ) (as : List α) : AllSteps step (fun _ _ => True) s as :=
  AllSteps.of_forall_mem (R := fun _ => True) (fun _ _ => True.intro) s

/-- **Invariant rule.** What the allowed steps preserve, every allowed run preserves. -/
theorem run_invariant {I : σ → Prop} (hstep : ∀ s a, I s → P s a → I (step s a))
    {s : σ} {as : List α} (hs : AllSteps step P s as) (h : I s) : I (run step s as) := by
  induction as generalizing s with
  | nil => exact h
  | cons a as ih => exact ih hs.2 (hstep s a h hs.1)

/-- What every step preserves, every run preserves. -/
theorem run_invariant_of_step {I : σ → Prop} (hstep : ∀ s a, I s → I (step s a)) {s : σ}
    (h : I s) (as : List α) : I (run step s as) := by
  refine run_invariant ?_ (AllSteps.trivial s as) h
  intro s a hI _
  exact hstep s a hI

/-- **Rule of starts.** Where each step establishes `I`, is a start, or is allowed by `P`, which
keeps `I`, every state of a run has `I` or is reached from a start by allowed steps. -/
theorem run_invariant_or_since {I Start : σ → Prop} (hkeep : ∀ s a, I s → P s a → I (step s a))
    (hstep : ∀ s a, I (step s a) ∨ Start (step s a) ∨ P s a) {s : σ} (h : Start s)
    (as : List α) :
    I (run step s as) ∨ ∃ pre since, as = pre ++ since ∧ Start (run step s pre) ∧
      AllSteps step P (run step s pre) since := by
  induction as using List.reverseRecOn with
  | nil => exact Or.inr ⟨[], [], rfl, h, trivial⟩
  | append_singleton as a ih =>
      have hlast : run step s (as ++ [a]) = step (run step s as) a := run_append step s as [a]
      obtain hI | hstart | hP := hstep (run step s as) a
      · exact Or.inl (hlast ▸ hI)
      · exact Or.inr ⟨as ++ [a], [], (List.append_nil _).symm, hlast ▸ hstart, trivial⟩
      · obtain hI | ⟨pre, since, rfl, hstart, hall⟩ := ih
        · exact Or.inl (hlast ▸ hkeep _ a hI hP)
        · refine Or.inr ⟨pre, since ++ [a], List.append_assoc pre since [a], hstart, ?_⟩
          rw [allSteps_append, ← run_append]
          exact ⟨hall, hP, trivial⟩

/-- **Exact invariant rule.** Where `P` says which of the possible steps keep the
invariant, a run visits only states of the invariant just when `P` allows each of its
steps. -/
theorem forall_prefix_iff_allSteps {I : σ → Prop}
    (hstep : ∀ s a, I s → Q s a → (I (step s a) ↔ P s a)) {s : σ} (h : I s) {as : List α}
    (hQ : AllSteps step Q s as) :
    (∀ pre, pre <+: as → I (run step s pre)) ↔ AllSteps step P s as := by
  induction as generalizing s with
  | nil =>
      refine iff_of_true ?_ trivial
      intro pre hpre
      rw [List.prefix_nil.mp hpre]
      exact h
  | cons a as ih =>
      obtain ⟨hQa, hQas⟩ := hQ
      rw [allSteps_cons]
      constructor
      · intro hI
        have ha : I (step s a) := hI [a] ⟨as, rfl⟩
        refine ⟨(hstep s a h hQa).mp ha, (ih ha hQas).mp ?_⟩
        intro pre hpre
        exact hI (a :: pre) (List.cons_prefix_cons.mpr ⟨rfl, hpre⟩)
      · rintro ⟨hP, hall⟩ pre hpre
        obtain rfl | ⟨pre', rfl, hpre'⟩ := List.prefix_cons_iff.mp hpre
        · exact h
        · exact (ih ((hstep s a h hQa).mpr hP) hQas).mpr hall pre' hpre'

/-- The exact invariant rule where every step is possible. -/
theorem forall_prefix_iff_of_step {I : σ → Prop}
    (hstep : ∀ s a, I s → (I (step s a) ↔ P s a)) {s : σ} (h : I s) (as : List α) :
    (∀ pre, pre <+: as → I (run step s pre)) ↔ AllSteps step P s as := by
  refine forall_prefix_iff_allSteps ?_ h (AllSteps.trivial s as)
  intro s a hI _
  exact hstep s a hI

/-- **Rule of latches.** What is lost at a step that `P` does not allow, and never comes back,
holds in the end just when it held at the start and `P` allows every step. -/
theorem run_iff_allSteps {I J : σ → Prop} (hkeep : ∀ s a, J s → J (step s a))
    (hstep : ∀ s a, J s → (I (step s a) ↔ I s ∧ P s a)) {s : σ} (hJ : J s) (as : List α) :
    I (run step s as) ↔ I s ∧ AllSteps step P s as := by
  induction as using List.reverseRecOn with
  | nil => exact (and_iff_left trivial).symm
  | append_singleton as a ih =>
      have hlast : run step s (as ++ [a]) = step (run step s as) a := run_append step s as [a]
      rw [hlast, hstep _ a (run_invariant_of_step hkeep hJ as), ih, allSteps_append, and_assoc,
        allSteps_cons, and_iff_left (allSteps_nil _)]

/-- **Exact rule behind an invariant.** An invariant `J` of every step may help to tell which
steps keep `I`. -/
theorem forall_prefix_iff_of_invariant {I J : σ → Prop} (hkeep : ∀ s a, J s → J (step s a))
    (hstep : ∀ s a, J s → I s → (I (step s a) ↔ P s a)) {s : σ} (hJ : J s) (hI : I s)
    (as : List α) :
    (∀ pre, pre <+: as → I (run step s pre)) ↔ AllSteps step P s as := by
  have hboth : ∀ s a, J s ∧ I s → (J (step s a) ∧ I (step s a) ↔ P s a) := by
    rintro s a ⟨hJ, hI⟩
    rw [and_iff_right (hkeep s a hJ)]
    exact hstep s a hJ hI
  rw [← forall_prefix_iff_of_step (I := fun s => J s ∧ I s) hboth ⟨hJ, hI⟩]
  constructor
  · intro h pre hpre
    exact ⟨run_invariant_of_step hkeep hJ pre, h pre hpre⟩
  · intro h pre hpre
    exact (h pre hpre).2

/-- **Exact rule for a view.** The same where the states are seen by `V` only, which tells in the
states of the invariant whether a step was allowed. -/
theorem forall_prefix_view_iff_allSteps {I V : σ → Prop} (hview : ∀ s, I s → V s)
    (hkeep : ∀ s a, I s → P s a → I (step s a)) (hexact : ∀ s a, I s → V (step s a) → P s a)
    {s : σ} (h : I s) {as : List α} :
    (∀ pre, pre <+: as → V (run step s pre)) ↔ AllSteps step P s as := by
  induction as generalizing s with
  | nil =>
      refine iff_of_true ?_ trivial
      intro pre hpre
      rw [List.prefix_nil.mp hpre]
      exact hview s h
  | cons a as ih =>
      rw [allSteps_cons]
      constructor
      · intro hV
        have ha : P s a := hexact s a h (hV [a] ⟨as, rfl⟩)
        refine ⟨ha, (ih (hkeep s a h ha)).mp ?_⟩
        intro pre hpre
        exact hV (a :: pre) (List.cons_prefix_cons.mpr ⟨rfl, hpre⟩)
      · rintro ⟨hP, hall⟩ pre hpre
        obtain rfl | ⟨pre', rfl, hpre'⟩ := List.prefix_cons_iff.mp hpre
        · exact hview s h
        · exact (ih (hkeep s a h hP)).mpr hall pre' hpre'

/-- The exact rule for a view where the steps of the run are among those of `Q`. -/
theorem forall_prefix_view_iff_of_allSteps {I V : σ → Prop} (hview : ∀ s, I s → V s)
    (hkeep : ∀ s a, I s → Q s a → P s a → I (step s a))
    (hexact : ∀ s a, I s → Q s a → V (step s a) → P s a) {s : σ} (h : I s) {as : List α}
    (hQ : AllSteps step Q s as) :
    (∀ pre, pre <+: as → V (run step s pre)) ↔ AllSteps step P s as := by
  induction as generalizing s with
  | nil =>
      refine iff_of_true ?_ trivial
      intro pre hpre
      rw [List.prefix_nil.mp hpre]
      exact hview s h
  | cons a as ih =>
      obtain ⟨hQa, hQas⟩ := hQ
      rw [allSteps_cons]
      constructor
      · intro hV
        have ha : P s a := hexact s a h hQa (hV [a] ⟨as, rfl⟩)
        refine ⟨ha, (ih (hkeep s a h hQa ha) hQas).mp ?_⟩
        intro pre hpre
        exact hV (a :: pre) (List.cons_prefix_cons.mpr ⟨rfl, hpre⟩)
      · rintro ⟨hP, hall⟩ pre hpre
        obtain rfl | ⟨pre', rfl, hpre'⟩ := List.prefix_cons_iff.mp hpre
        · exact hview s h
        · exact (ih (hkeep s a h hQa hP) hQas).mpr hall pre' hpre'

/-- **Invariant rule with history.** The invariant may also read the inputs so far. -/
theorem run_invariant_history {I : List α → σ → Prop}
    (hstep : ∀ pre s a, I pre s → P s a → I (pre ++ [a]) (step s a))
    {s : σ} {as : List α} (hs : AllSteps step P s as) (h : I [] s) :
    I as (run step s as) := by
  suffices H : ∀ (as pre : List α) (s : σ), AllSteps step P s as → I pre s →
      I (pre ++ as) (run step s as) from H as [] s hs h
  intro as
  induction as with
  | nil =>
      intro pre s _ hI
      rw [List.append_nil]
      exact hI
  | cons a as ih =>
      intro pre s hs hI
      have hI' := ih (pre ++ [a]) (step s a) hs.2 (hstep pre s a hI hs.1)
      rwa [List.append_assoc] at hI'

/-! ### Outputs -/

variable {β : Type*}

/-- What the steps of the run from `s` put out. -/
def outputs (step : σ → α → σ) (out : σ → α → List β) : σ → List α → List β
  | _, [] => []
  | s, a :: as => out s a ++ outputs step out (step s a) as

variable {out : σ → α → List β}

/-- The empty run puts out nothing. -/
@[simp] theorem outputs_nil (s : σ) : outputs step out s [] = [] := rfl

/-- The outputs of a run start with those of its first step. -/
@[simp] theorem outputs_cons (s : σ) (a : α) (as : List α) :
    outputs step out s (a :: as) = out s a ++ outputs step out (step s a) as := rfl

/-- The outputs of a run end with those of its last step. -/
theorem outputs_append_singleton (s : σ) (as : List α) (a : α) :
    outputs step out s (as ++ [a]) = outputs step out s as ++ out (run step s as) a := by
  induction as generalizing s with
  | nil => rw [List.nil_append, outputs_cons, outputs_nil, List.append_nil]; rfl
  | cons b as ih => rw [List.cons_append, outputs_cons, outputs_cons, ih, List.append_assoc]; rfl

/-- What holds of every output of a run holds of the outputs of each of its steps. -/
theorem forall_mem_outputs_iff {R : β → Prop} {s : σ} {as : List α} :
    (∀ b ∈ outputs step out s as, R b) ↔
      AllSteps step (fun s a => ∀ b ∈ out s a, R b) s as := by
  induction as generalizing s with
  | nil => simp
  | cons a as ih => simp [ih, or_imp, forall_and]

/-- The number of outputs with a property, from the first step on. -/
theorem length_outputs_filter_cons (p : β → Bool) (s : σ) (a : α) (as : List α) :
    ((outputs step out s (a :: as)).filter p).length =
      ((out s a).filter p).length + ((outputs step out (step s a) as).filter p).length := by
  rw [outputs_cons, List.filter_append, List.length_append]

/-! ### Specifications -/

section Specification

variable {τ : Type*} {Step : τ → α → τ → Prop}

/-- The specification, which may have a choice at each input, can go from `t` to `t'`. -/
def Reaches (Step : τ → α → τ → Prop) : τ → List α → τ → Prop
  | t, [], t' => t = t'
  | t, a :: as, t' => ∃ u, Step t a u ∧ Reaches Step u as t'

/-- A run of a relation ends with its last step. -/
theorem reaches_append_singleton {t t' : τ} {as : List α} {a : α} :
    Reaches Step t (as ++ [a]) t' ↔ ∃ u, Reaches Step t as u ∧ Step u a t' := by
  induction as generalizing t with
  | nil =>
      constructor
      · rintro ⟨u, hstep, rfl⟩
        exact ⟨t, rfl, hstep⟩
      · rintro ⟨u, rfl, hstep⟩
        exact ⟨t', hstep, rfl⟩
  | cons b as ih =>
      simp only [List.cons_append, Reaches, ih]
      constructor
      · rintro ⟨v, hb, u, hreach, hstep⟩
        exact ⟨u, ⟨v, hb, hreach⟩, hstep⟩
      · rintro ⟨u, ⟨v, hb, hreach⟩, hstep⟩
        exact ⟨v, hb, u, hreach, hstep⟩

/-- **Simulation rule.** Allowed steps that the specification can follow make runs that it
can follow. -/
theorem exists_reaches_of_allSteps {R : σ → τ → Prop}
    (hsim : ∀ s a t, R s t → P s a → ∃ t', Step t a t' ∧ R (step s a) t')
    {s : σ} {t : τ} (h : R s t) {as : List α} (has : AllSteps step P s as) :
    ∃ t', Reaches Step t as t' ∧ R (run step s as) t' := by
  induction as generalizing s t with
  | nil => exact ⟨t, rfl, h⟩
  | cons a as ih =>
      obtain ⟨u, hstep, hu⟩ := hsim s a t h has.1
      obtain ⟨t', hreach, ht'⟩ := ih hu has.2
      exact ⟨t', ⟨u, hstep, hreach⟩, ht'⟩

/-- **Exact simulation rule.** Where the simulation relation `R` gives the view `V` of the
specification, and `V` after a step tells that the step was allowed, every state of a run
is a view of the specification just when all its steps are allowed. -/
theorem forall_prefix_exists_iff_allSteps {R V : σ → τ → Prop} (hview : ∀ s t, R s t → V s t)
    (hsim : ∀ s a t, R s t → P s a → ∃ t', Step t a t' ∧ R (step s a) t')
    (hexact : ∀ s a t t', Step t a t' → V (step s a) t' → P s a)
    {s : σ} {t : τ} (h : R s t) {as : List α} :
    (∀ pre, pre <+: as → ∃ t', Reaches Step t pre t' ∧ V (run step s pre) t') ↔
      AllSteps step P s as := by
  constructor
  · intro hviews
    rw [allSteps_iff]
    rintro pre a post rfl
    obtain ⟨t', hreach, hV⟩ := hviews (pre ++ [a]) ⟨post, by rw [List.append_assoc]; rfl⟩
    obtain ⟨u, -, hstep⟩ := reaches_append_singleton.mp hreach
    rw [run_append] at hV
    exact hexact _ a u t' hstep hV
  · rintro hall pre ⟨post, rfl⟩
    obtain ⟨t', hreach, hR⟩ := exists_reaches_of_allSteps hsim h (allSteps_append.mp hall).1
    exact ⟨t', hreach, hview _ _ hR⟩

end Specification

end Machine
