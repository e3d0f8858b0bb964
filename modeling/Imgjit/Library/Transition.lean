import Mathlib.Logic.Relation

/-!
# Transition systems and their invariants

A system is a set of initial states and a step relation.  What holds of every run is proved by one
rule: it holds initially, and every step from a reachable state preserves it.  The rule lets the
step rely on reachability, and so on every invariant that was proved before; invariants can be
stacked without being made one.

* `System` — the initial states, and the steps.
* `System.Reachable` — some run leads to the state.
* `System.Reachable.invariant` — the rule.
* `System.Reachable.simulates` — one system that does what another may do, with a relation between
  the states of the two.
* `System.restrict` — the runs that start in some of the initial states only; they are runs of the
  whole system, and an invariant of those.
-/

namespace Transition

universe u

/-- A system: where its runs start, and what its steps are. -/
structure System (σ : Type u) where
  init : σ → Prop
  step : σ → σ → Prop

namespace System

variable {σ : Type u} (system : System σ)

/-- Some run of the system ends in `s`. -/
inductive Reachable : σ → Prop
  | init {s : σ} : system.init s → Reachable s
  | step {s s' : σ} : Reachable s → system.step s s' → Reachable s'

variable {system}

/-- **The invariant rule.**  A property that holds initially and is preserved by the steps from
reachable states holds of every reachable state. -/
theorem Reachable.invariant {Inv : σ → Prop} (hinit : ∀ s, system.init s → Inv s)
    (hstep : ∀ s s', system.Reachable s → Inv s → system.step s s' → Inv s') {s : σ}
    (h : system.Reachable s) : Inv s := by
  induction h with
  | init h => exact hinit _ h
  | step hreach h ih => exact hstep _ _ hreach ih h

/-- A run of several steps from a reachable state ends in a reachable state. -/
theorem Reachable.steps {s s' : σ} (h : system.Reachable s)
    (hsteps : Relation.ReflTransGen system.step s s') : system.Reachable s' := by
  induction hsteps with
  | refl => exact h
  | tail _ hlast ih => exact .step ih hlast

/-- A run is steps from an initial state. -/
theorem Reachable.exists_steps {s : σ} (h : system.Reachable s) :
    ∃ s₀, system.init s₀ ∧ Relation.ReflTransGen system.step s₀ s := by
  induction h with
  | init h => exact ⟨_, h, .refl⟩
  | step _ hstep ih =>
      rcases ih with ⟨s₀, hinit, hsteps⟩
      exact ⟨s₀, hinit, hsteps.tail hstep⟩

/-- **Simulation under an invariant.**  What the system does is, step by step, something that the
abstract system may do, or nothing. -/
theorem Reachable.simulates {τ : Type u} {abstract : System τ} {view : σ → τ} {Inv : σ → Prop}
    (hinit : ∀ s, system.init s → abstract.init (view s) ∧ Inv s)
    (hstep : ∀ s s', abstract.Reachable (view s) → Inv s → system.step s s' →
      Relation.ReflTransGen abstract.step (view s) (view s') ∧ Inv s') {s : σ}
    (h : system.Reachable s) : abstract.Reachable (view s) ∧ Inv s := by
  induction h with
  | init h => exact ⟨.init (hinit _ h).1, (hinit _ h).2⟩
  | step _ h ih =>
      rcases hstep _ _ ih.1 ih.2 h with ⟨hsteps, hinv⟩
      exact ⟨ih.1.steps hsteps, hinv⟩

/-! ## Fewer initial states -/

variable (system)

/-- The runs that start in a state with `P`. -/
def restrict (P : σ → Prop) : System σ where
  init s := system.init s ∧ P s
  step := system.step

variable {system} {P : σ → Prop} {s : σ}

/-- A run of the restricted system is a run. -/
theorem Reachable.of_restrict (h : (system.restrict P).Reachable s) : system.Reachable s := by
  induction h with
  | init h => exact .init h.1
  | step _ hstep ih => exact .step ih hstep

/-- If no step makes `P` true, a state with `P` is only reached from states with `P`. -/
theorem Reachable.restrict (hback : ∀ s s', system.step s s' → P s' → P s)
    (h : system.Reachable s) (hP : P s) : (system.restrict P).Reachable s := by
  induction h with
  | init h => exact .init ⟨h, hP⟩
  | step _ hstep ih => exact .step (ih (hback _ _ hstep hP)) hstep

end System

end Transition
