import DataHarness.Library.Transition
import DataHarness.Library.Program
import Mathlib.Data.List.Basic

/-!
# Interleaved programs over one shared state

A machine gives every owner a program and says how a call acts on the shared state, with the
outside world choosing whatever the state does not decide. A pool is the shared state and
the tasks running on it. One step starts a task, makes one call of one task, kills a task,
or crashes every task at once.

Two rules carry facts from programs to every interleaving: `Machine.run_makes`, a task only
makes calls its owner's program allows, and `Machine.run_tracks`, every task follows a
protocol from the local state computed from the labels of the run.
-/

namespace Effect

open Transition

/-- Replies chosen by what surrounds a machine. -/
abbrev World (S : Signature) : Type := (op : S.Op) → S.Reply op

/-- Programs by owner, the effect of their calls on a shared state, and what a restart does
to it. -/
structure Machine (S : Signature) (ε α κ σ : Type) where
  /-- What an owner runs. -/
  program : κ → Program S ε α
  /-- The reply to a call and the state after it. -/
  perform : κ → World S → σ → (op : S.Op) → S.Reply op × σ
  /-- The state after every task has died. -/
  restart : σ → σ

/-- A started program: what is left of it, or nothing when it was killed. -/
structure Task (S : Signature) (ε α κ : Type) where
  /-- Whose program runs. -/
  owner : κ
  /-- What is left to run. -/
  rest : Option (Program S ε α)

/-- A shared state and the tasks over it. -/
structure Pool (S : Signature) (ε α κ σ : Type) where
  /-- The shared state. -/
  shared : σ
  /-- The tasks, in the order they were started. -/
  tasks : List (Task S ε α κ)

/-- What one step did. -/
inductive Label (S : Signature) (κ : Type)
  | spawn (owner : κ)
  | perform (index : Nat) (owner : κ) (op : S.Op) (reply : S.Reply op)
  | kill (index : Nat)
  | crash

variable {S : Signature} {ε α κ σ : Type}

/-- A task that runs no further. -/
def Task.stop (task : Task S ε α κ) : Task S ε α κ := { task with rest := none }

namespace Machine

/-- One step of a pool. -/
inductive Step (machine : Machine S ε α κ σ) :
    Pool S ε α κ σ → Label S κ → Pool S ε α κ σ → Prop
  | spawn (pool : Pool S ε α κ σ) (owner : κ) :
    Step machine pool (.spawn owner)
      ⟨pool.shared, pool.tasks ++ [⟨owner, some (machine.program owner)⟩]⟩
  | perform (pool : Pool S ε α κ σ) (index : Nat) (owner : κ) (op : S.Op)
      (next : S.Reply op → Program S ε α) (world : World S)
      (ready : pool.tasks[index]? = some ⟨owner, some (.call op next)⟩) :
    Step machine pool
      (.perform index owner op (machine.perform owner world pool.shared op).1)
      ⟨(machine.perform owner world pool.shared op).2,
        pool.tasks.set index ⟨owner, some (next (machine.perform owner world pool.shared op).1)⟩⟩
  | kill (pool : Pool S ε α κ σ) (index : Nat) :
    Step machine pool (.kill index) ⟨pool.shared, pool.tasks.modify index Task.stop⟩
  | crash (pool : Pool S ε α κ σ) :
    Step machine pool .crash ⟨machine.restart pool.shared, pool.tasks.map Task.stop⟩

/-- The pools of a machine as a transition system. -/
def system (machine : Machine S ε α κ σ) : System (Pool S ε α κ σ) (Label S κ) where
  step := machine.Step

/-- The pools of a machine with the steps that pass a test on the pool before and the label. -/
abbrev within (machine : Machine S ε α κ σ) (allows : Pool S ε α κ σ → Label S κ → Bool) :
    System (Pool S ε α κ σ) (Label S κ) :=
  machine.system.restrict fun pool label => allows pool label = true

variable {machine : Machine S ε α κ σ} {start : σ}

/-- A property of what is left of each task, given its owner, is kept by every step when it
holds of every program and survives every reply. -/
theorem run_tasks (holds : κ → Program S ε α → Prop)
    (programs : ∀ owner, holds owner (machine.program owner))
    (survives : ∀ owner op next reply, holds owner (.call op next) → holds owner (next reply))
    {labels : List (Label S κ)} {pool : Pool S ε α κ σ}
    (run : machine.system.Run ⟨start, []⟩ labels pool) :
    ∀ task ∈ pool.tasks, ∀ program, task.rest = some program → holds task.owner program := by
  induction run with
  | nil => simp
  | snoc _ step ih =>
    cases step with
    | spawn owner =>
      intro task member program left
      rcases List.mem_append.mp member with old | new
      · exact ih task old program left
      · obtain rfl := List.mem_singleton.mp new
        obtain rfl := Option.some.inj left
        exact programs owner
    | perform index owner op next world ready =>
      intro task member program left
      rcases List.mem_or_eq_of_mem_set member with old | rfl
      · exact ih task old program left
      · obtain rfl := Option.some.inj left
        exact survives owner op next _ (ih _ (List.mem_of_getElem? ready) _ rfl)
    | kill index =>
      intro task member program left
      obtain ⟨position, here⟩ := List.mem_iff_getElem?.mp member
      rw [List.getElem?_modify] at here
      obtain ⟨old, found, changed⟩ := Option.map_eq_some_iff.mp here
      split at changed
      · subst changed
        simp [Task.stop] at left
      · subst changed
        exact ih _ (List.mem_of_getElem? found) program left
    | crash =>
      intro task member program left
      obtain ⟨old, -, rfl⟩ := List.mem_map.mp member
      simp [Task.stop] at left

/-- Every call of a run is one its owner's program allows. -/
theorem run_makes (allowed : κ → S.Op → Prop)
    (makes : ∀ owner, (machine.program owner).Makes (allowed owner))
    {labels : List (Label S κ)} {pool : Pool S ε α κ σ}
    (run : machine.system.Run ⟨start, []⟩ labels pool) :
    ∀ index owner op reply, Label.perform index owner op reply ∈ labels → allowed owner op := by
  induction run with
  | nil => simp
  | @snoc labels state label next before step ih =>
    intro index owner op reply member
    rcases List.mem_append.mp member with old | new
    · exact ih index owner op reply old
    · obtain rfl := List.mem_singleton.mp new
      cases step with
      | perform _ _ _ next world ready =>
        have left := run_tasks (fun owner program => program.Makes (allowed owner)) makes
          (fun _ _ _ reply within => within.2 reply) before _ (List.mem_of_getElem? ready) _ rfl
        exact left.1

/-! ## The calls of one task -/

/-- The calls of one task, with their replies. -/
def made (labels : List (Label S κ)) (index : Nat) : List S.Event :=
  labels.filterMap fun label =>
    match label with
    | .perform position _ op reply => if position = index then some ⟨op, reply⟩ else none
    | _ => none

/-- One more label adds the call it made. -/
theorem made_snoc (labels : List (Label S κ)) (label : Label S κ) (index : Nat) :
    made (labels ++ [label]) index = made labels index ++ made [label] index := by
  simp [made]

/-- A task has made a trace of its owner's program, and what is left of the program is left
of the task unless it was killed. -/
theorem run_trace {labels : List (Label S κ)} {pool : Pool S ε α κ σ}
    (run : machine.system.Run ⟨start, []⟩ labels pool) :
    (∀ index, pool.tasks.length ≤ index → made labels index = []) ∧
      ∀ index task, pool.tasks[index]? = some task → ∃ left,
        Program.Trace (machine.program task.owner) (made labels index) left ∧
          ∀ program, task.rest = some program → left = program := by
  induction run with
  | nil => exact ⟨fun _ _ => rfl, by simp⟩
  | @snoc labels pool label next before step ih =>
    obtain ⟨beyond, traces⟩ := ih
    cases step with
    | spawn owner =>
      have same : ∀ index, made (labels ++ [.spawn owner]) index = made labels index := by
        simp [made]
      refine ⟨fun index outside => ?_, fun index task here => ?_⟩
      · rw [same]
        exact beyond index (by simp at outside; omega)
      · rw [same]
        rw [List.getElem?_append] at here
        split at here
        · exact traces index task here
        · rename_i fresh
          rw [List.getElem?_singleton] at here
          split at here
          · obtain rfl := Option.some.inj here
            rw [beyond index (by omega)]
            exact ⟨_, .nil _, fun program left => Option.some.inj left⟩
          · cases here
    | perform position owner op next world ready =>
      have inside := (List.getElem?_eq_some_iff.mp ready).1
      refine ⟨fun index outside => ?_, fun index task here => ?_⟩
      · simp only [List.length_set] at outside
        have other : position ≠ index := by omega
        rw [made_snoc, beyond index outside]
        simp [made, other]
      · rw [List.getElem?_set] at here
        by_cases same : position = index
        · subst same
          rw [if_pos rfl, if_pos inside] at here
          obtain rfl := Option.some.inj here
          obtain ⟨left, trace, kept⟩ := traces position _ ready
          obtain rfl := kept _ rfl
          refine ⟨_, ?_, fun program rest => Option.some.inj rest⟩
          rw [made_snoc]
          simpa [made] using trace.snoc (machine.perform owner world pool.shared op).1
        · rw [if_neg same] at here
          obtain ⟨left, trace, kept⟩ := traces index task here
          refine ⟨left, ?_, kept⟩
          simpa [made_snoc, made, same] using trace
    | kill position =>
      have same : ∀ index, made (labels ++ [.kill position]) index = made labels index := by
        simp [made]
      refine ⟨fun index outside => ?_, fun index task here => ?_⟩
      · rw [same]
        exact beyond index (by simpa using outside)
      · rw [same]
        rw [List.getElem?_modify] at here
        obtain ⟨old, found, changed⟩ := Option.map_eq_some_iff.mp here
        obtain ⟨left, trace, kept⟩ := traces index old found
        split at changed
        · subst changed
          exact ⟨left, trace, by simp [Task.stop]⟩
        · subst changed
          exact ⟨left, trace, kept⟩
    | crash =>
      have same : ∀ index, made (labels ++ [.crash]) index = made labels index := by
        simp [made]
      refine ⟨fun index outside => ?_, fun index task here => ?_⟩
      · rw [same]
        exact beyond index (by simpa using outside)
      · rw [same]
        rw [List.getElem?_map] at here
        obtain ⟨old, found, rfl⟩ := Option.map_eq_some_iff.mp here
        obtain ⟨left, trace, -⟩ := traces index old found
        exact ⟨left, trace, by simp [Task.stop]⟩

/-- A call of a run, after the calls its task made before, is one its owner's program makes. -/
theorem run_call {before after : List (Label S κ)} {index : Nat} {owner : κ} {op : S.Op}
    {reply : S.Reply op} {pool : Pool S ε α κ σ}
    (run : machine.system.Run ⟨start, []⟩ (before ++ .perform index owner op reply :: after) pool) :
    ∃ left, Program.Trace (machine.program owner) (made before index ++ [⟨op, reply⟩]) left := by
  rw [List.append_cons] at run
  obtain ⟨middle, upto⟩ := run.of_append
  obtain ⟨earlier, ran, step⟩ := upto.of_snoc
  cases step with
  | perform _ _ _ next world ready =>
    obtain ⟨left, trace, kept⟩ := (run_trace ran).2 index _ ready
    obtain rfl := kept _ rfl
    exact ⟨_, trace.snoc _⟩

/-! ## Local states computed from the labels -/

variable {τ : Type}

/-- Local states after one more label: a new task starts in its own, a call moves the state
of the task that made it. -/
def advance (protocol : Protocol S τ) (initial : κ → τ) (states : List τ) : Label S κ → List τ
  | .spawn owner => states ++ [initial owner]
  | .perform index _ op reply => states.modify index fun state => protocol.next state op reply
  | .kill _ => states
  | .crash => states

/-- Local states after a run. -/
def locals (protocol : Protocol S τ) (initial : κ → τ) (labels : List (Label S κ)) : List τ :=
  labels.foldl (advance protocol initial) []

/-- Before the first step no program has a local state. -/
@[simp] theorem locals_nil (protocol : Protocol S τ) (initial : κ → τ) :
    locals protocol initial ([] : List (Label S κ)) = [] := rfl

/-- A step changes the local states at the end of a run. -/
@[simp] theorem locals_snoc (protocol : Protocol S τ) (initial : κ → τ)
    (labels : List (Label S κ)) (label : Label S κ) :
    locals protocol initial (labels ++ [label]) =
      advance protocol initial (locals protocol initial labels) label := by
  simp [locals]

/-- Changing the local state of one task changes a count by what that state counts. -/
theorem countP_modify (counts : τ → Bool) (change : τ → τ) {states : List τ} {index : Nat}
    {state : τ} (here : states[index]? = some state) :
    (states.modify index change).countP counts + (if counts state then 1 else 0) =
      states.countP counts + (if counts (change state) then 1 else 0) := by
  induction states generalizing index with
  | nil => simp at here
  | cons first states ih =>
    cases index with
    | zero =>
      obtain rfl : first = state := by simpa using here
      simp only [List.modify_zero_cons, List.countP_cons]
      omega
    | succ index =>
      have rest := @ih index (by simpa using here)
      simp only [List.modify_succ_cons, List.countP_cons]
      omega

/-- Every task that still runs follows the protocol from its local state. -/
structure Tracks (protocol : Protocol S τ) (states : List τ) (tasks : List (Task S ε α κ)) :
    Prop where
  /-- One local state a task. -/
  length : states.length = tasks.length
  /-- What is left follows the protocol. -/
  follows : ∀ (index : Nat) (state : τ) (task : Task S ε α κ) (program : Program S ε α),
    states[index]? = some state → tasks[index]? = some task → task.rest = some program →
      program.Follows protocol state fun _ _ => True

/-- Every task that still runs follows the protocol from its local state to what its owner's
program ends with. -/
structure TracksTo (protocol : Protocol S τ) (post : κ → Except ε α → τ → Prop)
    (states : List τ) (tasks : List (Task S ε α κ)) : Prop where
  /-- One local state a task. -/
  length : states.length = tasks.length
  /-- What is left follows the protocol to the postcondition. -/
  follows : ∀ (index : Nat) (state : τ) (task : Task S ε α κ) (program : Program S ε α),
    states[index]? = some state → tasks[index]? = some task → task.rest = some program →
      program.Follows protocol state (post task.owner)

/-- Tracking is tracking to the postcondition that asks nothing. -/
theorem tracks_iff {protocol : Protocol S τ} {states : List τ} {tasks : List (Task S ε α κ)} :
    Tracks protocol states tasks ↔ TracksTo protocol (fun _ _ _ => True) states tasks :=
  ⟨fun tracks => ⟨tracks.length, tracks.follows⟩, fun tracks => ⟨tracks.length, tracks.follows⟩⟩

/-- A task about to make a call has a local state that permits it. -/
theorem TracksTo.permitted {protocol : Protocol S τ} {post : κ → Except ε α → τ → Prop}
    {states : List τ} {tasks : List (Task S ε α κ)} (tracks : TracksTo protocol post states tasks)
    {index : Nat} {owner : κ} {op : S.Op} {next : S.Reply op → Program S ε α}
    (ready : tasks[index]? = some ⟨owner, some (.call op next)⟩) :
    ∃ state, states[index]? = some state ∧ protocol.may state op := by
  have inside : index < states.length := by
    rw [tracks.length]
    exact (List.getElem?_eq_some_iff.mp ready).1
  exact ⟨states[index], List.getElem?_eq_getElem inside,
    (tracks.follows index _ _ _ (List.getElem?_eq_getElem inside) ready rfl).1⟩

/-- A task about to make a call has a local state that permits it. -/
theorem Tracks.permitted {protocol : Protocol S τ} {states : List τ}
    {tasks : List (Task S ε α κ)} (tracks : Tracks protocol states tasks) {index : Nat}
    {owner : κ} {op : S.Op} {next : S.Reply op → Program S ε α}
    (ready : tasks[index]? = some ⟨owner, some (.call op next)⟩) :
    ∃ state, states[index]? = some state ∧ protocol.may state op :=
  (tracks_iff.mp tracks).permitted ready

/-- One step keeps the tracking of local states, when the reply it gave is a possible one. -/
theorem TracksTo.step {protocol : Protocol S τ} {post : κ → Except ε α → τ → Prop}
    {initial : κ → τ} {states : List τ} {pool after : Pool S ε α κ σ} {label : Label S κ}
    (tracks : TracksTo protocol post states pool.tasks)
    (programs : ∀ owner, (machine.program owner).Follows protocol (initial owner) (post owner))
    (step : machine.Step pool label after)
    (possible : ∀ index owner op reply, label = .perform index owner op reply →
      protocol.can op reply) :
    TracksTo protocol post (advance protocol initial states label) after.tasks := by
  cases step with
  | spawn owner =>
    refine ⟨by simp [advance, tracks.length], ?_⟩
    intro index state task program here running left
    simp only [advance, List.getElem?_append, tracks.length] at here running
    split at here <;> rename_i old
    · rw [if_pos old] at running
      exact tracks.follows index state task program here running left
    · rw [if_neg old] at running
      rw [List.getElem?_singleton] at here running
      split at here
      · rename_i last
        rw [if_pos last] at running
        obtain rfl := Option.some.inj here
        obtain rfl := Option.some.inj running
        obtain rfl := Option.some.inj left
        exact programs owner
      · cases here
  | perform index owner op next world ready =>
    refine ⟨by simp [advance, tracks.length], ?_⟩
    intro position state task program here running left
    simp only [advance, List.getElem?_modify, List.getElem?_set] at here running
    obtain ⟨old, found, changed⟩ := Option.map_eq_some_iff.mp here
    by_cases same : index = position
    · subst same
      rw [if_pos rfl] at changed running
      split at running
      · obtain rfl := Option.some.inj running
        obtain rfl := Option.some.inj left
        subst changed
        exact (tracks.follows index old _ _ found ready rfl).2 _
          (possible index owner op _ rfl)
      · cases running
    · rw [if_neg same] at changed running
      subst changed
      exact tracks.follows position _ task program found running left
  | kill index =>
    refine ⟨by simp [advance, tracks.length], ?_⟩
    intro position state task program here running left
    rw [List.getElem?_modify] at running
    obtain ⟨old, found, changed⟩ := Option.map_eq_some_iff.mp running
    split at changed
    · subst changed
      simp [Task.stop] at left
    · subst changed
      exact tracks.follows position state _ program here found left
  | crash =>
    refine ⟨by simp [advance, tracks.length], ?_⟩
    intro position state task program _ running left
    rw [List.getElem?_map] at running
    obtain ⟨old, -, rfl⟩ := Option.map_eq_some_iff.mp running
    simp [Task.stop] at left

/-- One step keeps the tracking of local states, when the reply it gave is a possible one. -/
theorem Tracks.step {protocol : Protocol S τ} {initial : κ → τ} {states : List τ}
    {pool after : Pool S ε α κ σ} {label : Label S κ}
    (tracks : Tracks protocol states pool.tasks)
    (programs : ∀ owner, (machine.program owner).Follows protocol (initial owner) fun _ _ => True)
    (step : machine.Step pool label after)
    (possible : ∀ index owner op reply, label = .perform index owner op reply →
      protocol.can op reply) :
    Tracks protocol (advance protocol initial states label) after.tasks :=
  tracks_iff.mpr ((tracks_iff.mp tracks).step programs step possible)

/-- In every run whose replies are all possible ones, every task follows the protocol from
the local state its labels give it. -/
theorem run_tracks {protocol : Protocol S τ} {initial : κ → τ}
    {guard : Pool S ε α κ σ → Label S κ → Prop}
    (programs : ∀ owner, (machine.program owner).Follows protocol (initial owner) fun _ _ => True)
    (possible : ∀ pool label after, machine.Step pool label after → guard pool label →
      ∀ index owner op reply, label = .perform index owner op reply → protocol.can op reply)
    {labels : List (Label S κ)} {pool : Pool S ε α κ σ}
    (run : (machine.system.restrict guard).Run ⟨start, []⟩ labels pool) :
    Tracks protocol (locals protocol initial labels) pool.tasks := by
  induction run with
  | nil => exact ⟨rfl, by simp⟩
  | snoc _ step ih =>
    rw [locals_snoc]
    exact ih.step programs step.1 (possible _ _ _ step.1 step.2)

/-- What holds of an owner and its first local state and survives every reply holds of every task
and its local state. -/
theorem run_locals {protocol : Protocol S τ} {initial : κ → τ} (holds : κ → τ → Prop)
    (starts : ∀ owner, holds owner (initial owner))
    (keeps : ∀ owner state op reply, holds owner state → holds owner (protocol.next state op reply))
    {labels : List (Label S κ)} {pool : Pool S ε α κ σ}
    (run : machine.system.Run ⟨start, []⟩ labels pool) :
    (locals protocol initial labels).length = pool.tasks.length ∧
      ∀ (index : Nat) (state : τ) (task : Task S ε α κ),
        (locals protocol initial labels)[index]? = some state →
          pool.tasks[index]? = some task → holds task.owner state := by
  induction run with
  | nil => exact ⟨rfl, by simp⟩
  | snoc _ step ih =>
    obtain ⟨length, owned⟩ := ih
    rw [locals_snoc]
    cases step with
    | spawn owner =>
      refine ⟨by simp [advance, length], fun index state task here there => ?_⟩
      simp only [advance, List.getElem?_append, length] at here there
      split at here <;> rename_i old
      · rw [if_pos old] at there
        exact owned index state task here there
      · rw [if_neg old] at there
        rw [List.getElem?_singleton] at here there
        split at here
        · rename_i last
          rw [if_pos last] at there
          obtain rfl := Option.some.inj here
          obtain rfl := Option.some.inj there
          exact starts owner
        · cases here
    | perform position owner op next world ready =>
      refine ⟨by simp [advance, length], fun index state task here there => ?_⟩
      simp only [advance, List.getElem?_modify, List.getElem?_set] at here there
      obtain ⟨old, found, changed⟩ := Option.map_eq_some_iff.mp here
      by_cases same : position = index
      · subst same
        rw [if_pos rfl] at changed there
        split at there
        · obtain rfl := Option.some.inj there
          subst changed
          exact keeps owner old op _ (owned position old _ found ready)
        · cases there
      · rw [if_neg same] at changed there
        subst changed
        exact owned index _ task found there
    | kill position =>
      refine ⟨by simp [advance, length], fun index state task here there => ?_⟩
      rw [List.getElem?_modify] at there
      obtain ⟨old, found, rfl⟩ := Option.map_eq_some_iff.mp there
      split <;> exact owned index state old here found
    | crash =>
      refine ⟨by simp [advance, length], fun index state task here there => ?_⟩
      rw [List.getElem?_map] at there
      obtain ⟨old, found, rfl⟩ := Option.map_eq_some_iff.mp there
      exact owned index state old here found

/-! ## Scripted runs -/

/-- The scheduler's choice of a step. -/
inductive Choice (S : Signature) (κ : Type)
  | spawn (owner : κ)
  | perform (index : Nat) (world : World S)
  | kill (index : Nat)
  | crash

/-- The step a choice makes, when it can be made. -/
def choose (machine : Machine S ε α κ σ) (pool : Pool S ε α κ σ) :
    Choice S κ → Option (Label S κ × Pool S ε α κ σ)
  | .spawn owner =>
    some (.spawn owner, ⟨pool.shared, pool.tasks ++ [⟨owner, some (machine.program owner)⟩]⟩)
  | .perform index world =>
    match pool.tasks[index]? with
    | some ⟨owner, some (.call op next)⟩ =>
      let answer := machine.perform owner world pool.shared op
      some (.perform index owner op answer.1,
        ⟨answer.2, pool.tasks.set index ⟨owner, some (next answer.1)⟩⟩)
    | _ => none
  | .kill index => some (.kill index, ⟨pool.shared, pool.tasks.modify index Task.stop⟩)
  | .crash => some (.crash, ⟨machine.restart pool.shared, pool.tasks.map Task.stop⟩)

/-- A choice makes a step. -/
theorem choose_step {pool after : Pool S ε α κ σ} {choice : Choice S κ} {label : Label S κ}
    (made : machine.choose pool choice = some (label, after)) : machine.Step pool label after := by
  cases choice with
  | spawn owner =>
    simp only [choose, Option.some.injEq, Prod.mk.injEq] at made
    obtain ⟨rfl, rfl⟩ := made
    exact .spawn pool owner
  | perform index world =>
    simp only [choose] at made
    split at made
    · rename_i owner op next ready
      simp only [Option.some.injEq, Prod.mk.injEq] at made
      obtain ⟨rfl, rfl⟩ := made
      exact .perform pool index owner op next world ready
    · cases made
  | kill index =>
    simp only [choose, Option.some.injEq, Prod.mk.injEq] at made
    obtain ⟨rfl, rfl⟩ := made
    exact .kill pool index
  | crash =>
    simp only [choose, Option.some.injEq, Prod.mk.injEq] at made
    obtain ⟨rfl, rfl⟩ := made
    exact .crash pool

/-- The labels and the last pool of a script, when every choice can be made. -/
def play (machine : Machine S ε α κ σ) :
    Pool S ε α κ σ → List (Choice S κ) → Option (List (Label S κ) × Pool S ε α κ σ)
  | pool, [] => some ([], pool)
  | pool, choice :: script =>
    match machine.choose pool choice with
    | some (label, next) => (machine.play next script).map fun (labels, last) => (label :: labels, last)
    | none => none

/-- A script that can be played is a run. -/
theorem play_run {pool last : Pool S ε α κ σ} {script : List (Choice S κ)}
    {labels : List (Label S κ)} (played : machine.play pool script = some (labels, last)) :
    machine.system.Run pool labels last := by
  induction script generalizing pool labels with
  | nil =>
    simp only [play, Option.some.injEq, Prod.mk.injEq] at played
    obtain ⟨rfl, rfl⟩ := played
    exact .nil
  | cons choice script ih =>
    simp only [play] at played
    split at played
    · rename_i label next made
      obtain ⟨⟨later, final⟩, rest, same⟩ := Option.map_eq_some_iff.mp played
      simp only [Prod.mk.injEq] at same
      obtain ⟨rfl, rfl⟩ := same
      exact (System.Run.single (choose_step made)).append (ih rest)
    · cases played

/-- Every step of a script passes a test. -/
def passes (machine : Machine S ε α κ σ) (allows : Pool S ε α κ σ → Label S κ → Bool) :
    Pool S ε α κ σ → List (Choice S κ) → Bool
  | _, [] => true
  | pool, choice :: script =>
    match machine.choose pool choice with
    | some (label, next) => allows pool label && machine.passes allows next script
    | none => false

/-- A script that can be played and passes a test is a run of steps that do. -/
theorem play_within {allows : Pool S ε α κ σ → Label S κ → Bool} {pool last : Pool S ε α κ σ}
    {script : List (Choice S κ)} {labels : List (Label S κ)}
    (played : machine.play pool script = some (labels, last))
    (passed : machine.passes allows pool script = true) :
    (machine.within allows).Run pool labels last := by
  induction script generalizing pool labels with
  | nil =>
    simp only [play, Option.some.injEq, Prod.mk.injEq] at played
    obtain ⟨rfl, rfl⟩ := played
    exact .nil
  | cons choice script ih =>
    simp only [play] at played
    split at played
    · rename_i label next made
      obtain ⟨⟨later, final⟩, rest, same⟩ := Option.map_eq_some_iff.mp played
      simp only [Prod.mk.injEq] at same
      obtain ⟨rfl, rfl⟩ := same
      simp only [passes, made, Bool.and_eq_true] at passed
      have step : (machine.within allows).step pool label next := ⟨choose_step made, passed.1⟩
      exact (System.Run.single step).append (ih rest passed.2)
    · cases played

end Machine

end Effect
