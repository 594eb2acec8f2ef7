import Mathlib.Data.List.Induction

/-!
# Runs of a partial step function

A system is a function `step : σ → α → Option σ` from a state and an action to the next state, `none`
where the action is not enabled. A run folds it over a list of actions, so that a run on concrete
actions evaluates. `run_induction` is the induction over runs: an invariant, which may speak of the
actions so far, holds after every run when it holds at the start and every step keeps it.
`run_induction_of` is the same over the runs whose steps all meet a condition. `recorded` adds a history
to a system, for what the states do not remember, and `labelled` lets the actions carry what the system does
not know of them.
-/

namespace Runs

variable {σ α : Type*} {step : σ → α → Option σ}

/-- The state after the actions `as` from `s`, if each is enabled in its turn. -/
def run (step : σ → α → Option σ) (s : σ) (as : List α) : Option σ :=
  as.foldlM step s

/-- No action leaves the state. -/
@[simp]
theorem run_nil (s : σ) : run step s [] = some s := rfl

/-- A run is its first step and the run from there. -/
@[simp]
theorem run_cons (s : σ) (a : α) (as : List α) :
    run step s (a :: as) = (step s a).bind fun t => run step t as := by
  simp [run, List.foldlM_cons]

/-- A run of two pieces runs the second from where the first ends. -/
theorem run_append (s : σ) (as bs : List α) :
    run step s (as ++ bs) = (run step s as).bind fun t => run step t bs := by
  simp [run, List.foldlM_append]

/-- A run goes on from where another ends. -/
theorem run_trans {s t u : σ} {as bs : List α} (h : run step s as = some t)
    (h' : run step t bs = some u) : run step s (as ++ bs) = some u := by
  rw [run_append, h, Option.bind_some, h']

/-- A run that ends with `a` takes `a` from a state that the actions before it reach. -/
theorem run_snoc_eq_some {s u : σ} {as : List α} {a : α} :
    run step s (as ++ [a]) = some u ↔ ∃ t, run step s as = some t ∧ step t a = some u := by
  rw [run_append, Option.bind_eq_some_iff]
  simp

/-- A property of the end of a run of concrete actions, by evaluation. -/
theorem exists_run (P : σ → Prop) [DecidablePred P] {s : σ} {as : List α}
    (h : (run step s as).any (fun t => decide (P t)) = true) : ∃ t, run step s as = some t ∧ P t := by
  obtain ⟨t, ht, hP⟩ := (Option.any_eq_true _ _).mp h
  exact ⟨t, ht, of_decide_eq_true hP⟩

/-- Induction over runs. The invariant speaks of the actions taken and of the state reached. -/
theorem run_induction (P : List α → σ → Prop) {s₀ : σ} (init : P [] s₀)
    (next : ∀ as s a s', run step s₀ as = some s → P as s → step s a = some s' → P (as ++ [a]) s')
    (as : List α) (s : σ) (h : run step s₀ as = some s) : P as s := by
  induction as using List.reverseRecOn generalizing s with
  | nil =>
    obtain rfl : s₀ = s := by simpa using h
    exact init
  | append_singleton as a ih =>
    obtain ⟨t, ht, hs⟩ := run_snoc_eq_some.mp h
    exact next as t a s ht (ih t ht) hs

/-- Every step of the run of `as` from `s` meets the condition `C` on the state before it and its
action. -/
def StepsMeet (step : σ → α → Option σ) (C : σ → α → Prop) : σ → List α → Prop
  | _, [] => True
  | s, a :: as =>
    C s a ∧ match step s a with
      | some t => StepsMeet step C t as
      | none => True

instance StepsMeet.decidable (C : σ → α → Prop) [∀ s, DecidablePred (C s)] (s : σ) (as : List α) :
    Decidable (StepsMeet step C s as) :=
  match as with
  | [] => .isTrue trivial
  | a :: as =>
    match h : step s a with
    | some t =>
      have := StepsMeet.decidable C t as
      decidable_of_iff (C s a ∧ StepsMeet step C t as) (by rw [StepsMeet, h])
    | none => decidable_of_iff (C s a ∧ True) (by rw [StepsMeet, h])

/-- In a run of which all steps meet a condition, those before the last one do, and the last one
does. -/
theorem StepsMeet.of_snoc {C : σ → α → Prop} {s : σ} {as : List α} {a : α}
    (h : StepsMeet step C s (as ++ [a])) :
    StepsMeet step C s as ∧ ∀ t, run step s as = some t → C t a := by
  induction as generalizing s with
  | nil =>
    refine ⟨trivial, fun t ht => ?_⟩
    obtain rfl : s = t := by simpa using ht
    exact h.1
  | cons b as ih =>
    obtain ⟨hb, hrest⟩ := h
    rw [StepsMeet, run_cons]
    cases hs : step s b with
    | none => exact ⟨⟨hb, trivial⟩, fun t ht => by cases ht⟩
    | some u =>
      simp only [hs] at hrest
      obtain ⟨h1, h2⟩ := ih hrest
      exact ⟨⟨hb, h1⟩, h2⟩

/-- A run of two pieces meets a condition when both do. -/
theorem StepsMeet.append {C : σ → α → Prop} {s t : σ} {as bs : List α} (h : StepsMeet step C s as)
    (hrun : run step s as = some t) (h' : StepsMeet step C t bs) : StepsMeet step C s (as ++ bs) := by
  induction as generalizing s with
  | nil =>
    obtain rfl : s = t := by simpa using hrun
    exact h'
  | cons a as ih =>
    obtain ⟨ha, hrest⟩ := h
    rw [run_cons] at hrun
    obtain ⟨u, hu, hrun⟩ := Option.bind_eq_some_iff.mp hrun
    refine ⟨ha, ?_⟩
    simp only [hu] at hrest ⊢
    exact ih hrest hrun

/-- A weaker condition is met as well. -/
theorem StepsMeet.imp {C D : σ → α → Prop} (hCD : ∀ s a, C s a → D s a) {s : σ} {as : List α}
    (h : StepsMeet step C s as) : StepsMeet step D s as := by
  induction as generalizing s with
  | nil => trivial
  | cons b as ih =>
    obtain ⟨hb, hrest⟩ := h
    refine ⟨hCD s b hb, ?_⟩
    cases hs : step s b with
    | none => trivial
    | some u =>
      simp only [hs] at hrest
      exact ih hrest

/-- Two conditions are met together. -/
theorem StepsMeet.and {C D : σ → α → Prop} {s : σ} {as : List α} (hC : StepsMeet step C s as)
    (hD : StepsMeet step D s as) : StepsMeet step (fun s a => C s a ∧ D s a) s as := by
  induction as generalizing s with
  | nil => trivial
  | cons b as ih =>
    obtain ⟨hbC, hrestC⟩ := hC
    obtain ⟨hbD, hrestD⟩ := hD
    refine ⟨⟨hbC, hbD⟩, ?_⟩
    cases hs : step s b with
    | none => trivial
    | some u =>
      simp only [hs] at hrestC hrestD
      exact ih hrestC hrestD

/-- In a run whose steps all meet `C`, which keeps the invariant `I`, every step meets what `I` and `C`
give together. -/
theorem StepsMeet.of_invariant {C D : σ → α → Prop} (I : σ → Prop)
    (next : ∀ s a s', I s → C s a → step s a = some s' → I s') (hD : ∀ s a, I s → C s a → D s a)
    {s : σ} {as : List α} (init : I s) (h : StepsMeet step C s as) : StepsMeet step D s as := by
  induction as generalizing s with
  | nil => trivial
  | cons b as ih =>
    obtain ⟨hb, hrest⟩ := h
    refine ⟨hD s b init hb, ?_⟩
    cases hs : step s b with
    | none => trivial
    | some u =>
      simp only [hs] at hrest
      exact ih (next s b u init hb hs) hrest

/-- When a step keeps the invariant `I`, and `P` too exactly if it meets `C`, then `P` holds all along a run exactly if
every step meets `C`. -/
theorem forall_run_take_iff {C : σ → α → Prop} {P I : σ → Prop}
    (next : ∀ s a t, I s → step s a = some t → I t)
    (hC : ∀ s a, I s → P s → (C s a ↔ ∀ t, step s a = some t → P t))
    {s : σ} (init : I s) (hP : P s) (as : List α) :
    (∀ n t, run step s (as.take n) = some t → P t) ↔ StepsMeet step C s as := by
  induction as generalizing s with
  | nil =>
    refine ⟨fun _ => trivial, fun _ n t ht => ?_⟩
    rw [List.take_nil, run_nil, Option.some.injEq] at ht
    exact ht ▸ hP
  | cons a as ih =>
    -- The first prefix is the state itself, and the others run on from the state after `a`.
    have hsplit : (∀ n t, run step s ((a :: as).take n) = some t → P t) ↔
        (∀ t, step s a = some t → P t) ∧ ∀ u, step s a = some u → ∀ n t, run step u (as.take n) = some t → P t := by
      constructor
      · intro h
        refine ⟨fun t ht => h 1 t ?_, fun u hu n t ht => h (n + 1) t ?_⟩
        · rw [List.take_succ_cons, List.take_zero, run_cons, ht]
          rfl
        · rw [List.take_succ_cons, run_cons, hu, Option.bind_some, ht]
      · rintro ⟨-, h⟩ n t ht
        cases n with
        | zero =>
          rw [List.take_zero, run_nil, Option.some.injEq] at ht
          exact ht ▸ hP
        | succ n =>
          rw [List.take_succ_cons, run_cons] at ht
          obtain ⟨u, hu, ht⟩ := Option.bind_eq_some_iff.mp ht
          exact h u hu n t ht
    rw [hsplit, StepsMeet, hC s a init hP]
    refine and_congr_right fun hnext => ?_
    cases hs : step s a with
    | none => simp
    | some u =>
      simp only [Option.some.injEq, forall_eq']
      exact ih (next s a u init hs) (hnext u hs)

/-- Induction over the runs whose steps all meet `C`. -/
theorem run_induction_of {C : σ → α → Prop} (P : List α → σ → Prop) {s₀ : σ} (init : P [] s₀)
    (next : ∀ as s a s', run step s₀ as = some s → C s a → P as s → step s a = some s' →
      P (as ++ [a]) s')
    (as : List α) (s : σ) (h : run step s₀ as = some s) (hC : StepsMeet step C s₀ as) : P as s := by
  -- The condition on the steps so far is part of the invariant's hypothesis.
  refine run_induction (fun as s => StepsMeet step C s₀ as → P as s) (fun _ => init) ?_ as s h hC
  intro as s a s' hs ih hstep hC
  obtain ⟨h1, h2⟩ := hC.of_snoc
  exact next as s a s' hs (h2 s hs) (ih h1) hstep

/-! ## Histories -/

section

variable {η : Type*} {note : η → σ → α → η}

/-- The system that also keeps a history: `note` says what becomes of it when the action is taken from
the state. -/
def recorded (note : η → σ → α → η) (step : σ → α → Option σ) (x : σ × η) (a : α) : Option (σ × η) :=
  (step x.1 a).map fun t => (t, note x.2 x.1 a)

/-- A recorded step is a step with its note. -/
theorem recorded_eq_some {x y : σ × η} {a : α} :
    recorded note step x a = some y ↔ step x.1 a = some y.1 ∧ y.2 = note x.2 x.1 a := by
  obtain ⟨t, h⟩ := y
  rw [recorded, Option.map_eq_some_iff]
  simp only [Prod.mk.injEq]
  constructor
  · rintro ⟨u, hu, rfl, rfl⟩
    exact ⟨hu, rfl⟩
  · rintro ⟨ht, rfl⟩
    exact ⟨t, ht, rfl, rfl⟩

/-- A history does not change the states of a run. -/
theorem run_recorded (x : σ × η) (as : List α) :
    (run (recorded note step) x as).map Prod.fst = run step x.1 as := by
  induction as generalizing x with
  | nil => rfl
  | cons a as ih =>
    rw [run_cons, run_cons, recorded]
    cases step x.1 a with
    | none => rfl
    | some t => exact ih (t, note x.2 x.1 a)

/-- A run with a history is a run. -/
theorem run_of_recorded {x y : σ × η} {as : List α} (h : run (recorded note step) x as = some y) :
    run step x.1 as = some y.1 := by
  rw [← run_recorded x as, h]
  rfl

/-- Every run has a history. -/
theorem exists_run_recorded {s t : σ} {as : List α} (h : run step s as = some t) (h₀ : η) :
    ∃ h', run (recorded note step) (s, h₀) as = some (t, h') := by
  have hmap : (run (recorded note step) (s, h₀) as).map Prod.fst = run step s as :=
    run_recorded (s, h₀) as
  rw [h] at hmap
  obtain ⟨⟨u, h'⟩, hrun, hu⟩ := Option.map_eq_some_iff.mp hmap
  obtain rfl : u = t := hu
  exact ⟨h', hrun⟩

/-- A condition on the steps of a system is one on those of the system with a history. -/
theorem StepsMeet.recorded {C : σ → α → Prop} {s : σ} {as : List α} (h : StepsMeet step C s as)
    (h₀ : η) : StepsMeet (Runs.recorded note step) (fun x a => C x.1 a) (s, h₀) as := by
  induction as generalizing s h₀ with
  | nil => trivial
  | cons b as ih =>
    obtain ⟨hb, hrest⟩ := h
    refine ⟨hb, ?_⟩
    rw [Runs.recorded]
    cases hs : step s b with
    | none => trivial
    | some u =>
      simp only [hs] at hrest
      exact ih hrest _

/-! ## Labels -/

variable {ι : Type*}

/-- The system whose actions carry a label, which the step does not read: what an observer knows of the
action and the system does not. -/
def labelled (step : σ → α → Option σ) (s : σ) (l : α × ι) : Option σ := step s l.1

/-- Labels do not change a run. -/
theorem run_labelled (s : σ) (ls : List (α × ι)) :
    run (labelled step) s ls = run step s (ls.map Prod.fst) := by
  induction ls generalizing s with
  | nil => rfl
  | cons l ls ih =>
    rw [run_cons, List.map_cons, run_cons]
    exact congrArg _ (funext ih)

/-- A condition on the steps of a system is one on those of the system with labels. -/
theorem StepsMeet.labelled {C : σ → α → Prop} {s : σ} {ls : List (α × ι)}
    (h : StepsMeet step C s (ls.map Prod.fst)) :
    StepsMeet (Runs.labelled step) (fun s l => C s l.1) s ls := by
  induction ls generalizing s with
  | nil => trivial
  | cons l ls ih =>
    obtain ⟨hl, hrest⟩ := h
    refine ⟨hl, ?_⟩
    rw [Runs.labelled]
    cases hs : step s l.1 with
    | none => trivial
    | some t =>
      simp only [hs] at hrest
      exact ih hrest

end

end Runs
