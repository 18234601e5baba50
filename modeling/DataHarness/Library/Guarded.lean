import Mathlib.Data.Option.Basic
import Mathlib.Tactic.Tauto

/-!
# Computations that fail in one way only

A computation is guarded by a kind of errors when every error it ends with is of that kind. The
property goes through sequencing: a sequence is guarded when its first part is, and the rest is
after every value of the first part. A computation of several steps is taken apart by what each of
them needs to go through, and by what makes it break, with an error of another kind.
-/

/-- Every error a computation ends with is of a kind. -/
def Guarded {ε α : Type} (kind : ε → Prop) (ran : Except ε α) : Prop :=
  ∀ error, ran = .error error → kind error

namespace Guarded

variable {ε φ α β : Type} {kind : ε → Prop}

/-- A value is no error. -/
@[simp] theorem ok (value : α) : Guarded kind (.ok value : Except ε α) := by
  intro error failed
  cases failed

/-- An error is guarded when it is of the kind. -/
@[simp] theorem error {failure : ε} : Guarded kind (.error failure : Except ε α) ↔ kind failure := by
  constructor
  · intro guarded
    exact guarded failure rfl
  · intro own error failed
    rw [← Except.error.inj failed]
    exact own

/-- A sequence is guarded when each part is, after what came before it. -/
theorem bind {first : Except ε α} {next : α → Except ε β} :
    Guarded kind (first >>= next) ↔
      Guarded kind first ∧ ∀ value, first = .ok value → Guarded kind (next value) := by
  cases first with
  | error failure =>
    show Guarded kind (.error failure) ↔ _
    simp
  | ok value =>
    show Guarded kind (next value) ↔ _
    simp

/-- A value that goes on to a guarded rest. -/
theorem bind_ok {first : Except ε α} {next : α → Except ε β} {value : α}
    (ran : first = .ok value) : Guarded kind (first >>= next) ↔ Guarded kind (next value) := by
  rw [ran]
  exact Iff.rfl

/-- An error of the kind ends the sequence. -/
theorem bind_error {first : Except ε α} {next : α → Except ε β} {failure : ε}
    (failed : first = .error failure) (guarded : Guarded kind first) :
    Guarded kind (first >>= next) := by
  rw [bind]
  refine ⟨guarded, fun value ran => ?_⟩
  rw [failed] at ran
  cases ran

/-- What is made of a value does not matter. -/
theorem map {ran : Except ε α} {f : α → β} : Guarded kind (ran.map f) ↔ Guarded kind ran := by
  cases ran with
  | error failure =>
    show Guarded kind (.error failure) ↔ _
    simp
  | ok value =>
    show Guarded kind (.ok (f value)) ↔ _
    simp

/-- Errors of another type are guarded by what they become. -/
theorem mapError {ran : Except φ α} {f : φ → ε} :
    Guarded kind (ran.mapError f) ↔ Guarded (fun failure => kind (f failure)) ran := by
  cases ran with
  | error failure =>
    show Guarded kind (.error (f failure)) ↔ _
    simp
  | ok value =>
    show Guarded kind (.ok value) ↔ _
    simp

end Guarded

/-! ## Computations of several steps -/

/-- All of some steps go through; of each is given what it needs, and what breaks it. -/
def Passes (steps : List (Prop × Prop)) : Prop := ∀ step ∈ steps, step.1

/-- One of some steps breaks, after those before it have gone through. -/
def Breaks : List (Prop × Prop) → Prop
  | [] => False
  | step :: steps => step.2 ∨ step.1 ∧ Breaks steps

/-- More steps go through when all of them do. -/
theorem passes_append {steps more : List (Prop × Prop)} :
    Passes (steps ++ more) ↔ Passes steps ∧ Passes more := List.forall_mem_append

/-- One of more steps breaks when one of the first does, or one of the others after them. -/
theorem breaks_append {steps more : List (Prop × Prop)} :
    Breaks (steps ++ more) ↔ Breaks steps ∨ Passes steps ∧ Breaks more := by
  induction steps with
  | nil => simp [Breaks, Passes]
  | cons step steps ih =>
    have passes : Passes (step :: steps) ↔ step.1 ∧ Passes steps := List.forall_mem_cons
    rw [List.cons_append, Breaks, ih, Breaks, passes]
    tauto

/-- A computation takes some steps: it ends with a value exactly when all go through, and with an
error of another kind exactly when one breaks. -/
structure Takes {ε α : Type} (kind : ε → Prop) (ran : Except ε α) (steps : List (Prop × Prop)) :
    Prop where
  passes : (∃ value, ran = .ok value) ↔ Passes steps
  guarded : Guarded kind ran ↔ ¬ Breaks steps

namespace Takes

variable {ε α β : Type} {kind : ε → Prop} {steps more : List (Prop × Prop)}

/-- A value takes no step. -/
theorem ok (value : α) : Takes kind (.ok value : Except ε α) [] where
  passes := by simp [Passes]
  guarded := by simp [Breaks]

/-- One step. -/
theorem one {ran : Except ε α} {passes breaks : Prop} (goes : (∃ value, ran = .ok value) ↔ passes)
    (guarded : Guarded kind ran ↔ ¬ breaks) : Takes kind ran [(passes, breaks)] where
  passes := by simpa [Passes] using goes
  guarded := by simpa [Breaks] using guarded

/-- One step that never breaks. -/
theorem safe {ran : Except ε α} {passes : Prop} (goes : (∃ value, ran = .ok value) ↔ passes)
    (guarded : Guarded kind ran) : Takes kind ran [(passes, False)] :=
  one goes (iff_of_true guarded id)

/-- A sequence takes the steps of its first part, and then those of the rest. -/
theorem bind {first : Except ε α} {next : α → Except ε β} (takes : Takes kind first steps)
    (rest : ∀ value, first = .ok value → Takes kind (next value) more) :
    Takes kind (first >>= next) (steps ++ more) := by
  have passed := takes.passes
  have guards : Breaks steps ↔ ¬ Guarded kind first := iff_not_comm.mp takes.guarded
  cases first with
  | error failure =>
    have fails : ¬ Passes steps := fun all => by simpa using passed.mpr all
    constructor
    · rw [passes_append]
      exact iff_of_false (by rintro ⟨value, ⟨⟩⟩) fun all => fails all.1
    · rw [breaks_append, guards]
      simp [fails, Guarded.bind]
  | ok value =>
    have all : Passes steps := passed.mp ⟨value, rfl⟩
    have own := rest value rfl
    constructor
    · rw [passes_append, and_iff_right all]
      exact own.passes
    · rw [breaks_append, guards, Guarded.bind_ok rfl, own.guarded]
      simp [all]

/-- A check refuses with an error of the kind, or goes through. -/
theorem check {refused passes : Prop} [Decidable refused] {failure : ε} {rest : Except ε α}
    (allowed : ¬ refused ↔ passes) (own : kind failure) (goes : passes → Takes kind rest steps) :
    Takes kind (if refused then .error failure else rest) ((passes, False) :: steps) := by
  by_cases passed : passes
  · rw [if_neg (allowed.mpr passed)]
    have takes := goes passed
    constructor
    · rw [takes.passes]
      simp [Passes, passed]
    · rw [takes.guarded]
      simp [Breaks, passed]
  · rw [if_pos (not_not.mp (mt allowed.mp passed))]
    constructor
    · simp [Passes, passed]
    · simp [Breaks, passed, own]

end Takes
