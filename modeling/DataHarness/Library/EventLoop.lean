import DataHarness.Library.Pool

/-!
# Tasks that share one event loop

Coroutines on one event loop switch only where they suspend: a task runs on until its next
call is one it suspends at, and only then may another one run. A loop is a pool with the
task that ran last. Its runs are runs of the pool (`Loop.run_pool`), and what the running
task knows of the shared state stays true while it runs (`Loop.run_knows`): no other task
can have changed it.
-/

namespace Effect

open Transition

variable {S : Signature} {ε α κ σ τ : Type}

/-- A pool and the task that ran last. -/
structure Loop (S : Signature) (ε α κ σ : Type) where
  /-- The tasks and their shared state. -/
  pool : Pool S ε α κ σ
  /-- The task that ran last since the loop was started. -/
  current : Option Nat

namespace Loop

/-- The task that ran last is at a call it suspends at, or runs no further. -/
def Parked (suspends : S.Op → Bool) (loop : Loop S ε α κ σ) : Prop :=
  ∀ index owner op next, loop.current = some index →
    loop.pool.tasks[index]? = some ⟨owner, some (.call op next)⟩ → suspends op = true

/-- One step of the loop: a task is started or resumed only while the last one is parked. -/
inductive Step (machine : Machine S ε α κ σ) (suspends : S.Op → Bool) :
    Loop S ε α κ σ → Label S κ → Loop S ε α κ σ → Prop
  | spawn (loop : Loop S ε α κ σ) (owner : κ) (parked : loop.Parked suspends) :
    Step machine suspends loop (.spawn owner)
      ⟨⟨loop.pool.shared, loop.pool.tasks ++ [⟨owner, some (machine.program owner)⟩]⟩,
        some loop.pool.tasks.length⟩
  | perform (loop : Loop S ε α κ σ) (index : Nat) (owner : κ) (op : S.Op)
      (next : S.Reply op → Program S ε α) (world : World S)
      (ready : loop.pool.tasks[index]? = some ⟨owner, some (.call op next)⟩)
      (turn : loop.current = some index ∨ loop.Parked suspends ∧ suspends op = true) :
    Step machine suspends loop
      (.perform index owner op (machine.perform owner world loop.pool.shared op).1)
      ⟨⟨(machine.perform owner world loop.pool.shared op).2,
        loop.pool.tasks.set index
          ⟨owner, some (next (machine.perform owner world loop.pool.shared op).1)⟩⟩, some index⟩
  | crash (loop : Loop S ε α κ σ) :
    Step machine suspends loop .crash
      ⟨⟨machine.restart loop.pool.shared, loop.pool.tasks.map Task.stop⟩, none⟩

/-- The loops of a machine as a transition system. -/
def system (machine : Machine S ε α κ σ) (suspends : S.Op → Bool) :
    System (Loop S ε α κ σ) (Label S κ) where
  step := Step machine suspends

variable {machine : Machine S ε α κ σ} {suspends : S.Op → Bool} {start : σ}
  {labels : List (Label S κ)} {loop after : Loop S ε α κ σ} {label : Label S κ}

/-- A step of the loop is a step of its pool. -/
theorem Step.pool (step : Step machine suspends loop label after) :
    machine.Step loop.pool label after.pool := by
  cases step with
  | spawn owner parked => exact .spawn loop.pool owner
  | perform index owner op next world ready turn =>
    exact .perform loop.pool index owner op next world ready
  | crash => exact .crash loop.pool

/-- A run of the loop is a run of its pool. -/
theorem run_pool {first : Loop S ε α κ σ} (run : (system machine suspends).Run first labels loop) :
    machine.system.Run first.pool labels loop.pool := by
  induction run with
  | nil => exact .nil
  | snoc _ step ih => exact ih.snoc step.pool

/-- What the running task knows holds of the shared state. -/
def Knows (valid : σ → τ → Prop) (protocol : Protocol S τ) (initial : κ → τ)
    (labels : List (Label S κ)) (loop : Loop S ε α κ σ) : Prop :=
  ∀ index state, loop.current = some index →
    (Machine.locals protocol initial labels)[index]? = some state → valid loop.pool.shared state

/-- A local state that starts valid, is kept valid by the task's own calls, and is valid again
after every call it suspends at, is valid for the running task in every run of the loop. -/
theorem run_knows (valid : σ → τ → Prop) {protocol : Protocol S τ} {initial : κ → τ}
    (programs : ∀ owner, (machine.program owner).Follows protocol (initial owner) fun _ _ => True)
    (possible : ∀ op reply, protocol.can op reply)
    (starts : ∀ owner shared, valid shared (initial owner))
    (keeps : ∀ owner world shared op state, suspends op = true ∨ valid shared state →
      valid (machine.perform owner world shared op).2
        (protocol.next state op (machine.perform owner world shared op).1))
    (run : (system machine suspends).Run ⟨⟨start, []⟩, none⟩ labels loop) :
    Machine.Tracks protocol (Machine.locals protocol initial labels) loop.pool.tasks ∧
      Knows valid protocol initial labels loop := by
  induction run with
  | nil => exact ⟨⟨rfl, by simp⟩, by simp [Knows]⟩
  | @snoc labels loop label after before step ih =>
    obtain ⟨tracks, knows⟩ := ih
    rw [Machine.locals_snoc]
    refine ⟨tracks.step programs step.pool fun _ _ op reply _ => possible op reply, ?_⟩
    intro index state current here
    rw [Machine.locals_snoc] at here
    cases step with
    | spawn owner parked =>
      obtain rfl := Option.some.inj current
      simp only [Machine.advance, ← tracks.length, List.getElem?_concat_length,
        Option.some.injEq] at here
      subst here
      exact starts owner _
    | perform position owner op next world ready turn =>
      obtain rfl := Option.some.inj current
      simp only [Machine.advance, List.getElem?_modify_eq] at here
      obtain ⟨old, found, rfl⟩ := Option.map_eq_some_iff.mp here
      apply keeps
      rcases turn with running | ⟨-, suspending⟩
      · exact .inr (knows position old running found)
      · exact .inl suspending
    | crash => cases current

/-- A run of the loop whose steps all meet a guard is a run of the pool that meets it. -/
theorem run_restrict {guard : Pool S ε α κ σ → Label S κ → Prop}
    (run : (system machine suspends).Run ⟨⟨start, []⟩, none⟩ labels loop)
    (meets : ∀ labels loop label after,
      (system machine suspends).Run ⟨⟨start, []⟩, none⟩ labels loop →
        Step machine suspends loop label after → guard loop.pool label) :
    (machine.system.restrict guard).Run ⟨start, []⟩ labels loop.pool := by
  induction run with
  | nil => exact .nil
  | snoc before step ih => exact ih.snoc ⟨step.pool, meets _ _ _ _ before step⟩

/-! ## Tasks that are not running -/

/-- A task that runs no further than its last call has a settled local state, when every program
ends settled and suspends only when settled. -/
theorem settled_of_parked {settled : τ → Prop} {protocol : Protocol S τ}
    {post : κ → Except ε α → τ → Prop} {states : List τ}
    (ends : ∀ owner outcome state, post owner outcome state → settled state)
    (rests : ∀ state op, protocol.may state op → suspends op = true → settled state)
    (tracks : Machine.TracksTo protocol post states loop.pool.tasks)
    (running : ∀ task ∈ loop.pool.tasks, task.rest.isSome = true)
    (parked : loop.Parked suspends) {index : Nat} {state : τ} (current : loop.current = some index)
    (here : states[index]? = some state) : settled state := by
  have inside : index < loop.pool.tasks.length := by
    rw [← tracks.length]
    exact (List.getElem?_eq_some_iff.mp here).1
  have there := List.getElem?_eq_getElem inside
  obtain ⟨program, left⟩ := Option.isSome_iff_exists.mp (running _ (List.getElem_mem inside))
  have follows := tracks.follows index state _ program here there left
  cases program with
  | ret value => exact ends _ _ _ follows
  | raise error => exact ends _ _ _ follows
  | call op next =>
    refine rests state op follows.1 (parked index (loop.pool.tasks[index]).owner op next current ?_)
    rw [there, ← left]

/-- In a run without crashes every task is tracked, none was stopped, and one that is not running
has a settled local state. -/
theorem run_settled {settled : τ → Prop} {protocol : Protocol S τ} {initial : κ → τ}
    {post : κ → Except ε α → τ → Prop} {guard : Loop S ε α κ σ → Label S κ → Prop}
    (programs : ∀ owner, (machine.program owner).Follows protocol (initial owner) (post owner))
    (ends : ∀ owner outcome state, post owner outcome state → settled state)
    (rests : ∀ state op, protocol.may state op → suspends op = true → settled state)
    (possible : ∀ loop label after, Step machine suspends loop label after → guard loop label →
      ∀ index owner op reply, label = .perform index owner op reply → protocol.can op reply)
    (lives : ∀ loop, ¬ guard loop .crash)
    (run : ((system machine suspends).restrict guard).Run ⟨⟨start, []⟩, none⟩ labels loop) :
    Machine.TracksTo protocol post (Machine.locals protocol initial labels) loop.pool.tasks ∧
      (∀ task ∈ loop.pool.tasks, task.rest.isSome = true) ∧
        ∀ (index : Nat) (state : τ), loop.current ≠ some index →
          (Machine.locals protocol initial labels)[index]? = some state → settled state := by
  induction run with
  | nil => exact ⟨⟨rfl, by simp⟩, by simp, by simp⟩
  | @snoc labels loop label after before step ih =>
    obtain ⟨tracks, running, others⟩ := ih
    obtain ⟨step, met⟩ := step
    have parks : loop.Parked suspends → ∀ (index : Nat) (state : τ),
        (Machine.locals protocol initial labels)[index]? = some state → settled state := by
      intro parked index state here
      by_cases current : loop.current = some index
      · exact settled_of_parked ends rests tracks running parked current here
      · exact others index state current here
    rw [Machine.locals_snoc]
    refine ⟨tracks.step programs step.pool (possible loop label after step met), ?_⟩
    cases step with
    | spawn owner parked =>
      refine ⟨fun task member => ?_, fun index state other here => ?_⟩
      · rcases List.mem_append.mp member with old | new
        · exact running task old
        · obtain rfl := List.mem_singleton.mp new
          rfl
      · simp only [Machine.advance, List.getElem?_append, tracks.length] at here
        split at here
        · exact parks parked index state here
        · rename_i beyond
          have last : index ≠ loop.pool.tasks.length := fun same => other (by rw [same])
          rw [List.getElem?_eq_none (by simp; omega)] at here
          cases here
    | perform position owner op next world ready turn =>
      refine ⟨fun task member => ?_, fun index state other here => ?_⟩
      · rcases List.mem_or_eq_of_mem_set member with old | rfl
        · exact running task old
        · rfl
      · have moved : position ≠ index := fun same => other (by rw [same])
        simp only [Machine.advance, List.getElem?_modify, if_neg moved] at here
        have here : (Machine.locals protocol initial labels)[index]? = some state := by
          simpa using here
        rcases turn with current | ⟨parked, -⟩
        · refine others index state (fun same => ?_) here
          exact moved (Option.some.inj (current.symm.trans same))
        · exact parks parked index state here
    | crash => exact absurd met (lives loop)

/-! ## Scripted runs -/

/-- The task that ran last is parked. -/
def parked (suspends : S.Op → Bool) (loop : Loop S ε α κ σ) : Bool :=
  match loop.current with
  | none => true
  | some index =>
    match loop.pool.tasks[index]? with
    | some ⟨_, some (.call op _)⟩ => suspends op
    | _ => true

/-- The test decides the proposition. -/
theorem parked_iff : loop.parked suspends = true ↔ loop.Parked suspends := by
  obtain ⟨pool, current⟩ := loop
  cases current with
  | none => simp [parked, Parked]
  | some index =>
    simp only [parked, Parked, Option.some.injEq]
    split
    · rename_i owner op next ready
      constructor
      · rintro suspending _ _ other _ rfl again
        obtain ⟨-, ⟨rfl, -⟩⟩ := by simpa using ready.symm.trans again
        exact suspending
      · exact fun rests => rests index owner op next rfl ready
    · rename_i other
      refine iff_of_true rfl ?_
      rintro _ owner op next rfl ready
      exact absurd ready (other owner op next)

/-- The step a choice makes on the loop, when it can be made; no task is killed. -/
def choose (machine : Machine S ε α κ σ) (suspends : S.Op → Bool) (loop : Loop S ε α κ σ) :
    Machine.Choice S κ → Option (Label S κ × Loop S ε α κ σ)
  | .spawn owner =>
    if loop.parked suspends then
      some (.spawn owner, ⟨⟨loop.pool.shared,
        loop.pool.tasks ++ [⟨owner, some (machine.program owner)⟩]⟩, some loop.pool.tasks.length⟩)
    else none
  | .perform index world =>
    match loop.pool.tasks[index]? with
    | some ⟨owner, some (.call op next)⟩ =>
      if loop.current = some index ∨ loop.parked suspends ∧ suspends op then
        let answer := machine.perform owner world loop.pool.shared op
        some (.perform index owner op answer.1,
          ⟨⟨answer.2, loop.pool.tasks.set index ⟨owner, some (next answer.1)⟩⟩, some index⟩)
      else none
    | _ => none
  | .kill _ => none
  | .crash =>
    some (.crash, ⟨⟨machine.restart loop.pool.shared, loop.pool.tasks.map Task.stop⟩, none⟩)

/-- A choice makes a step of the loop. -/
theorem choose_step {choice : Machine.Choice S κ}
    (made : choose machine suspends loop choice = some (label, after)) :
    Step machine suspends loop label after := by
  cases choice with
  | spawn owner =>
    simp only [choose] at made
    split at made
    · rename_i rests
      simp only [Option.some.injEq, Prod.mk.injEq] at made
      obtain ⟨rfl, rfl⟩ := made
      exact .spawn loop owner (parked_iff.mp rests)
    · cases made
  | perform index world =>
    simp only [choose] at made
    split at made
    · rename_i owner op next ready
      split at made
      · rename_i turn
        simp only [Option.some.injEq, Prod.mk.injEq] at made
        obtain ⟨rfl, rfl⟩ := made
        exact .perform loop index owner op next world ready
          (turn.imp_right fun both => ⟨parked_iff.mp both.1, both.2⟩)
      · cases made
    · cases made
  | kill index => cases made
  | crash =>
    simp only [choose, Option.some.injEq, Prod.mk.injEq] at made
    obtain ⟨rfl, rfl⟩ := made
    exact .crash loop

/-- The labels and the last state of a script on the loop, when every choice can be made. -/
def play (machine : Machine S ε α κ σ) (suspends : S.Op → Bool) :
    Loop S ε α κ σ → List (Machine.Choice S κ) → Option (List (Label S κ) × Loop S ε α κ σ)
  | loop, [] => some ([], loop)
  | loop, choice :: script =>
    match choose machine suspends loop choice with
    | some (label, next) =>
      (play machine suspends next script).map fun (labels, last) => (label :: labels, last)
    | none => none

/-- A script that can be played is a run of the loop. -/
theorem play_run {script : List (Machine.Choice S κ)}
    (played : play machine suspends loop script = some (labels, after)) :
    (system machine suspends).Run loop labels after := by
  induction script generalizing loop labels with
  | nil =>
    simp only [play, Option.some.injEq, Prod.mk.injEq] at played
    obtain ⟨rfl, rfl⟩ := played
    exact .nil
  | cons choice script ih =>
    simp only [play] at played
    split at played
    · rename_i label next made
      obtain ⟨⟨later, final⟩, rest, same⟩ := Option.map_eq_some_iff.mp played
      simp only [Prod.mk.injEq] at same
      obtain ⟨rfl, rfl⟩ := same
      have step : (system machine suspends).step loop label next := choose_step made
      exact (System.Run.single step).append (ih rest)
    · cases played

/-- Every step of a script passes a test. -/
def passes (machine : Machine S ε α κ σ) (suspends : S.Op → Bool)
    (allows : Loop S ε α κ σ → Label S κ → Bool) :
    Loop S ε α κ σ → List (Machine.Choice S κ) → Bool
  | _, [] => true
  | loop, choice :: script =>
    match choose machine suspends loop choice with
    | some (label, next) => allows loop label && passes machine suspends allows next script
    | none => false

/-- A script that can be played and passes a test is a run of the loop whose steps do. -/
theorem play_within {allows : Loop S ε α κ σ → Label S κ → Bool}
    {script : List (Machine.Choice S κ)}
    (played : play machine suspends loop script = some (labels, after))
    (passed : passes machine suspends allows loop script = true) :
    ((system machine suspends).restrict fun loop label => allows loop label = true).Run loop labels
      after := by
  induction script generalizing loop labels with
  | nil =>
    simp only [play, Option.some.injEq, Prod.mk.injEq] at played
    obtain ⟨rfl, rfl⟩ := played
    exact .nil
  | cons choice script ih =>
    simp only [play] at played
    split at played
    · rename_i label next made
      obtain ⟨⟨later, final⟩, rest, same⟩ := Option.map_eq_some_iff.mp played
      simp only [Prod.mk.injEq] at same
      obtain ⟨rfl, rfl⟩ := same
      simp only [passes, made, Bool.and_eq_true] at passed
      have step : ((system machine suspends).restrict fun loop label =>
          allows loop label = true).step loop label next := ⟨choose_step made, passed.1⟩
      exact (System.Run.single step).append (ih rest passed.2)
    · cases played

end Loop

end Effect
