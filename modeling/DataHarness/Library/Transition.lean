import Mathlib.Data.List.Induction

/-!
# Labelled transition systems and their runs

A system is a step relation between states, each step with a label. A run keeps the labels
of its steps in order, so what a run did is read from its labels and never from a ghost
field of the state. The run rule (`Run.invariant`) turns a step lemma into a fact about every
run; restriction to a guard keeps the runs whose steps all meet a condition on the state
before the step.
-/

namespace Transition

/-- A step relation between states, each step with a label. -/
structure System (σ ℓ : Type) where
  /-- One step. -/
  step : σ → ℓ → σ → Prop

variable {σ ℓ : Type} {system : System σ ℓ}

namespace System

/-- A finite run from a start state, with the labels of its steps in order. -/
inductive Run (system : System σ ℓ) (start : σ) : List ℓ → σ → Prop
  | nil : Run system start [] start
  | snoc {labels : List ℓ} {state : σ} {label : ℓ} {next : σ} :
    Run system start labels state → system.step state label next →
      Run system start (labels ++ [label]) next

/-- The system whose steps also meet a guard on the state before the step and the label. -/
def restrict (system : System σ ℓ) (guard : σ → ℓ → Prop) : System σ ℓ where
  step state label next := system.step state label next ∧ guard state label

variable {start : σ}

/-- What holds at the start and is kept by every step of a run holds after the run. -/
theorem Run.invariant {labels : List ℓ} {state : σ} (invariant : List ℓ → σ → Prop)
    (initial : invariant [] start)
    (preserved : ∀ labels state label next, system.Run start labels state →
      invariant labels state → system.step state label next →
        invariant (labels ++ [label]) next)
    (run : system.Run start labels state) : invariant labels state := by
  induction run with
  | nil => exact initial
  | snoc before step ih => exact preserved _ _ _ _ before ih step

/-- Runs compose. -/
theorem Run.append {first second : List ℓ} {middle final : σ}
    (before : system.Run start first middle) (after : system.Run middle second final) :
    system.Run start (first ++ second) final := by
  induction after with
  | nil => simpa using before
  | snoc _ step ih => simpa [List.append_assoc] using ih.snoc step

/-- A run that ends with a label ends with a step. -/
theorem Run.of_snoc {labels : List ℓ} {label : ℓ} {next : σ}
    (run : system.Run start (labels ++ [label]) next) :
    ∃ state, system.Run start labels state ∧ system.step state label next := by
  generalize whole : labels ++ [label] = all at run
  cases run with
  | nil => simp at whole
  | snoc before step =>
    obtain ⟨rfl, same⟩ := List.append_inj' whole rfl
    obtain rfl := List.head_eq_of_cons_eq same
    exact ⟨_, before, step⟩

/-- The first labels of a run are those of a run. -/
theorem Run.of_append {first second : List ℓ} {final : σ}
    (run : system.Run start (first ++ second) final) : ∃ middle, system.Run start first middle := by
  induction second using List.reverseRecOn generalizing final with
  | nil => exact ⟨final, by simpa using run⟩
  | append_singleton second label ih =>
    rw [← List.append_assoc] at run
    obtain ⟨state, before, -⟩ := run.of_snoc
    exact ih before

/-- Every label of a run was a step between two states, the first of them reached by the labels
before. -/
theorem Run.of_split {first second : List ℓ} {label : ℓ} {final : σ}
    (run : system.Run start (first ++ label :: second) final) :
    ∃ state next, system.Run start first state ∧ system.step state label next := by
  rw [List.append_cons] at run
  obtain ⟨next, upto⟩ := run.of_append
  obtain ⟨state, before, step⟩ := upto.of_snoc
  exact ⟨state, next, before, step⟩

/-- A single step is a run. -/
theorem Run.single {state next : σ} {label : ℓ} (step : system.step state label next) :
    system.Run state [label] next := Run.nil.snoc step

/-- A step and a run from where it leads are a run. -/
theorem Run.cons {state middle final : σ} {label : ℓ} {labels : List ℓ}
    (step : system.step state label middle) (after : system.Run middle labels final) :
    system.Run state (label :: labels) final := (Run.single step).append after

/-- A run of a restricted system is a run of the system. -/
theorem Run.unrestrict {guard : σ → ℓ → Prop} {labels : List ℓ} {state : σ}
    (run : (system.restrict guard).Run start labels state) : system.Run start labels state := by
  induction run with
  | nil => exact .nil
  | snoc _ step ih => exact ih.snoc step.1

/-- A run whose steps meet a guard meets every weaker one. -/
theorem Run.widen {narrow : σ → ℓ → Prop} {labels : List ℓ} {state : σ}
    (run : (system.restrict narrow).Run start labels state) (wide : σ → ℓ → Prop)
    (implied : ∀ state label, narrow state label → wide state label) :
    (system.restrict wide).Run start labels state := by
  induction run with
  | nil => exact .nil
  | snoc _ step ih => exact ih.snoc ⟨step.1, implied _ _ step.2⟩

end System

end Transition
