import DataHarness.Library.Pool

/-!
# Programs run one after the other

A sequential run makes the calls of one program in order, each on the state the one before it
left. What a call does is a relation, so a call may itself be the run of a program; every call
leaves a record.

A run of programs in order splits into their runs (`Runs.of_bind`), and what the records say of
the state is kept from call to call (`Runs.history`). A machine's program that runs alone makes a
trace of calls (`Runs.trace`) and a run of its pool (`Runs.pool`).
-/

namespace Effect

open Transition

/-- What a call does to a state: the record it leaves, its reply, and the state after it. -/
structure Semantics (S : Signature) (σ ω : Type) where
  /-- One call. -/
  acts : σ → (op : S.Op) → ω → S.Reply op → σ → Prop

variable {S : Signature} {ε α β κ σ ω τ : Type}

/-- A run of a program: the state before, the records of its calls, its outcome and the state
after. -/
inductive Runs (semantics : Semantics S σ ω) :
    Program S ε α → σ → List ω → Except ε α → σ → Prop
  | ret (value : α) (state : σ) : Runs semantics (.ret value) state [] (.ok value) state
  | raise (error : ε) (state : σ) : Runs semantics (.raise error) state [] (.error error) state
  | call {op : S.Op} {next : S.Reply op → Program S ε α} {state middle final : σ} {record : ω}
      {reply : S.Reply op} {records : List ω} {outcome : Except ε α} :
    semantics.acts state op record reply middle →
      Runs semantics (next reply) middle records outcome final →
        Runs semantics (.call op next) state (record :: records) outcome final

/-- Run a program where every call acts in one way. -/
def Program.evaluate (act : σ → (op : S.Op) → ω × S.Reply op × σ) :
    Program S ε α → σ → List ω × Except ε α × σ
  | ret value, state => ([], .ok value, state)
  | raise error, state => ([], .error error, state)
  | call op next, state =>
    let (record, reply, middle) := act state op
    let (records, outcome, final) := (next reply).evaluate act middle
    (record :: records, outcome, final)

namespace Runs

variable {semantics : Semantics S σ ω} {program : Program S ε α} {state final : σ}
  {records : List ω} {outcome : Except ε α}

/-- Evaluating a program runs it. -/
theorem of_evaluate (act : σ → (op : S.Op) → ω × S.Reply op × σ)
    (sound : ∀ state op,
      semantics.acts state op (act state op).1 (act state op).2.1 (act state op).2.2)
    (program : Program S ε α) (state : σ) :
    Runs semantics program state (program.evaluate act state).1 (program.evaluate act state).2.1
      (program.evaluate act state).2.2 := by
  induction program generalizing state with
  | ret value => exact .ret value state
  | raise error => exact .raise error state
  | call op next ih => exact .call (sound state op) (ih _ _)

/-- A run of programs in order ends with the exception of the first one, or goes on with the
second from where the first one returned. -/
theorem of_bind {rest : α → Program S ε β} {outcome : Except ε β}
    (ran : Runs semantics (program.bind rest) state records outcome final) :
    (∃ error, Runs semantics program state records (.error error) final ∧
      outcome = .error error) ∨
    ∃ value before after middle, records = before ++ after ∧
      Runs semantics program state before (.ok value) middle ∧
        Runs semantics (rest value) middle after outcome final := by
  induction program generalizing state records with
  | ret value => exact .inr ⟨value, [], records, state, rfl, .ret value state, ran⟩
  | raise error =>
    cases ran
    exact .inl ⟨error, .raise error _, rfl⟩
  | call op next ih =>
    cases ran with
    | @call _ _ _ middle _ record reply later _ acts tail =>
      rcases ih reply tail with ⟨error, ran, same⟩ | ⟨value, before, after, between, same, ran, rest⟩
      · exact .inl ⟨error, .call acts ran, same⟩
      · subst same
        exact .inr ⟨value, record :: before, after, between, rfl, .call acts ran, rest⟩

/-- A run whose value is changed at its end. -/
theorem of_map {change : α → β} {outcome : Except ε β}
    (ran : Runs semantics (program.bind fun value => .ret (change value)) state records outcome
      final) :
    ∃ inner, Runs semantics program state records inner final ∧ outcome = inner.map change := by
  rcases ran.of_bind with ⟨error, first, rfl⟩ | ⟨value, before, after, middle, rfl, first, rest⟩
  · exact ⟨.error error, first, rfl⟩
  · cases rest
    exact ⟨.ok value, by rwa [List.append_nil], rfl⟩

/-- A run that starts with a call goes on from its reply. -/
theorem of_perform {op : S.Op} {rest : S.Reply op → Program S ε α}
    (ran : Runs semantics ((Program.perform op).bind rest) state records outcome final) :
    ∃ record reply middle later, records = record :: later ∧
      semantics.acts state op record reply middle ∧
        Runs semantics (rest reply) middle later outcome final := by
  cases ran with
  | call acts tail => exact ⟨_, _, _, _, rfl, acts, tail⟩

/-- A run that only ends. -/
theorem of_ofExcept {ended : Except ε α}
    (ran : Runs semantics (.ofExcept ended) state records outcome final) :
    records = [] ∧ outcome = ended ∧ final = state := by
  cases ended <;> cases ran <;> exact ⟨rfl, rfl, rfl⟩

/-- A run under `try` is a run whose exception was caught or not. -/
theorem of_attempt {catches : ε → Bool} {outcome : Except ε (Except ε α)}
    (ran : Runs semantics (program.attempt catches) state records outcome final) :
    ∃ inner, Runs semantics program state records inner final ∧
      ((outcome = .ok inner ∧ ∀ error, inner = .error error → catches error = true) ∨
        ∃ error, inner = .error error ∧ catches error = false ∧ outcome = .error error) := by
  induction program generalizing state records with
  | ret value =>
    cases ran
    exact ⟨.ok value, .ret value _, .inl ⟨rfl, fun _ same => nomatch same⟩⟩
  | raise error =>
    refine ⟨.error error, ?_⟩
    unfold Program.attempt at ran
    split at ran <;> rename_i caught <;> cases ran
    · exact ⟨.raise error _, .inl ⟨rfl, fun _ same => by cases same; exact caught⟩⟩
    · exact ⟨.raise error _, .inr ⟨error, rfl, Bool.eq_false_iff.mpr caught, rfl⟩⟩
  | call op next ih =>
    cases ran with
    | call acts tail =>
      obtain ⟨inner, ran, ended⟩ := ih _ tail
      exact ⟨inner, .call acts ran, ended⟩

/-- A run of a handled program ends with an exception that is not caught, or goes on with its
outcome. -/
theorem of_handled {catches : ε → Bool} {rest : Except ε α → Program S ε β}
    {outcome : Except ε β}
    (ran : Runs semantics ((program.attempt catches).bind rest) state records outcome final) :
    (∃ error, catches error = false ∧ outcome = .error error ∧
      Runs semantics program state records (.error error) final) ∨
    ∃ inner before after middle, records = before ++ after ∧
      Runs semantics program state before inner middle ∧
        (∀ error, inner = .error error → catches error = true) ∧
          Runs semantics (rest inner) middle after outcome final := by
  rcases ran.of_bind with ⟨error, tried, rfl⟩ | ⟨inner, before, after, middle, same, tried, rest⟩
  · obtain ⟨inner, ran, ⟨ended, -⟩ | ⟨_, rfl, uncaught, ended⟩⟩ := tried.of_attempt
    · cases ended
    · cases ended
      exact .inl ⟨error, uncaught, rfl, ran⟩
  · obtain ⟨_, ran, ⟨ended, caught⟩ | ⟨_, -, -, ended⟩⟩ := tried.of_attempt
    · cases ended
      exact .inr ⟨inner, before, after, middle, same, ran, caught, rest⟩
    · cases ended

/-- What holds of the records so far and the state, and is kept by every call, holds after a
run. -/
theorem history (holds : List ω → σ → Prop)
    (keeps : ∀ past state op record reply after, holds past state →
      semantics.acts state op record reply after → holds (past ++ [record]) after)
    {past : List ω} (start : holds past state)
    (ran : Runs semantics program state records outcome final) : holds (past ++ records) final := by
  induction ran generalizing past with
  | ret => simpa using start
  | raise => simpa using start
  | call acts _ ih => simpa using ih (keeps _ _ _ _ _ _ start acts)

end Runs

/-- Calls beside a state of the surroundings, which may change in any way. -/
def Semantics.beside (semantics : Semantics S σ ω) (τ : Type) : Semantics S (σ × τ) ω where
  acts state op record reply after := semantics.acts state.1 op record reply after.1

/-- A run beside a state of the surroundings is a run. -/
theorem Runs.of_beside {semantics : Semantics S σ ω} {program : Program S ε α}
    {state final : σ × τ} {records : List ω} {outcome : Except ε α}
    (ran : Runs (semantics.beside τ) program state records outcome final) :
    Runs semantics program state.1 records outcome final.1 := by
  induction ran with
  | ret value state => exact .ret value state.1
  | raise error state => exact .raise error state.1
  | call acts _ ih => exact .call acts ih

/-! ## One program of a machine -/

/-- The calls of one owner on the shared state, recorded with their replies. -/
def Machine.alone (machine : Machine S ε α κ σ) (owner : κ) : Semantics S σ S.Event where
  acts state op record reply after := record = ⟨op, reply⟩ ∧
    ∃ world, machine.perform owner world state op = (reply, after)

namespace Runs

variable {machine : Machine S ε α κ σ} {owner : κ} {program : Program S ε β} {state final : σ}
  {events : List S.Event} {outcome : Except ε β}

/-- A run is a trace to the outcome. -/
theorem trace (ran : Runs (machine.alone owner) program state events outcome final) :
    Program.Trace program events (.ofExcept outcome) := by
  induction ran with
  | ret => exact .nil _
  | raise => exact .nil _
  | call acts _ ih =>
    obtain ⟨rfl, -⟩ := acts
    exact .cons ih

/-- A task that is left alone with the pool makes the run of its program. -/
theorem pool {program : Program S ε α} {outcome : Except ε α}
    (ran : Runs (machine.alone owner) program state events outcome final)
    {tasks : List (Task S ε α κ)} {index : Nat} (inside : index < tasks.length)
    (ready : tasks[index] = ⟨owner, some program⟩) :
    machine.system.Run ⟨state, tasks⟩
      (events.map fun event => .perform index owner event.1 event.2)
      ⟨final, tasks.set index ⟨owner, some (.ofExcept outcome)⟩⟩ := by
  induction ran generalizing tasks with
  | ret value state =>
    have same : tasks.set index ⟨owner, some (.ofExcept (.ok value))⟩ = tasks := by
      rw [Program.ofExcept, ← ready]
      exact List.set_getElem_self inside
    rw [same]
    exact .nil
  | raise error state =>
    have same : tasks.set index ⟨owner, some (.ofExcept (.error error))⟩ = tasks := by
      rw [Program.ofExcept, ← ready]
      exact List.set_getElem_self inside
    rw [same]
    exact .nil
  | @call op next state middle final record reply records outcome acts tail ih =>
    obtain ⟨rfl, world, performed⟩ := acts
    have here : tasks[index]? = some ⟨owner, some (.call op next)⟩ := by
      rw [List.getElem?_eq_getElem inside, ready]
    have step : machine.Step _ _ _ := .perform ⟨state, tasks⟩ index owner op next world here
    rw [performed] at step
    have onward := @ih (tasks.set index ⟨owner, some (next reply)⟩)
      (by rwa [List.length_set]) (by simp)
    rw [List.set_set] at onward
    exact (System.Run.single step).append onward

end Runs

end Effect
