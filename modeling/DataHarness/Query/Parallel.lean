import DataHarness.Library.Semaphore
import DataHarness.Python

/-!
# Calls of sources side by side

`HarnessGateway` lets the queries and searches of a source run inside a semaphore of that source,
which it makes when the source is first called, with the parallelism of its connector. Whatever
calls run side by side, the calls of a source go as if no other source were called: no more of them
run than its connector declares, and what other sources are doing holds none of them up
(`separate_run`).
-/

namespace DataHarness

open Asyncio

variable {τ : Type} [DecidableEq τ]

/-- `HarnessGateway._semaphores`, each with the calls that use it. -/
abbrev Semaphores (τ : Type) := Dict (Room τ)

namespace Semaphores

/-- `_semaphore`; the registry gives the parallelism of the connectors it knows. -/
def semaphore (registry : String → Option Nat) (semaphores : Semaphores τ) (source : String) :
    Option (Room τ) :=
  match semaphores.get? source with
  | some room => some room
  | none => (registry source).map Room.fresh

/-- What becomes of the semaphores when something happens to a call of a source; none where it
cannot happen. -/
def next (registry : String → Option Nat) (semaphores : Semaphores τ)
    (event : String × Event τ) : Option (Semaphores τ) := do
  let room ← semaphores.semaphore registry event.1
  let after ← room.next event.2
  return semaphores.set event.1 after

/-- What becomes of them in a run of events. -/
def run (registry : String → Option Nat) (semaphores : Semaphores τ)
    (events : List (String × Event τ)) : Option (Semaphores τ) :=
  events.foldlM (next registry) semaphores

/-- What happens to the calls of a source. -/
def ofSource (source : String) (events : List (String × Event τ)) : List (Event τ) :=
  (events.filter fun event => event.1 = source).map Prod.snd

variable {registry : String → Option Nat} {semaphores after : Semaphores τ} {source : String}
  {events : List (String × Event τ)} {limit : Nat} {room : Room τ}

omit [DecidableEq τ] in
/-- The semaphore of a source after that of one of the sources was set. -/
theorem semaphore_set (other : String) (changed : Room τ) :
    semaphore registry (semaphores.set other changed) source =
      if other = source then some changed else semaphores.semaphore registry source := by
  unfold semaphore
  rw [Dict.get?_set]
  by_cases same : other = source
  · rw [if_pos same, if_pos same]
  · rw [if_neg same, if_neg same]

/-- A step of the semaphores is one of the semaphore of its source. -/
theorem next_eq_some {event : String × Event τ} :
    semaphores.next registry event = some after ↔
      ∃ room changed, semaphores.semaphore registry event.1 = some room ∧
        room.next event.2 = some changed ∧ after = semaphores.set event.1 changed := by
  unfold next
  constructor
  · intro moved
    obtain ⟨room, found, moved⟩ := Option.bind_eq_some_iff.mp moved
    obtain ⟨changed, moved, same⟩ := Option.bind_eq_some_iff.mp moved
    exact ⟨room, changed, found, moved, (Option.some.inj same).symm⟩
  · rintro ⟨room, changed, found, moved, rfl⟩
    exact Option.bind_eq_some_iff.mpr ⟨room, found,
      Option.bind_eq_some_iff.mpr ⟨changed, moved, rfl⟩⟩

/-- The semaphore of a source goes through what happens to the calls of that source, and through
nothing else. -/
theorem run_alone (found : semaphores.semaphore registry source = some room)
    (ran : semaphores.run registry events = some after) :
    ∃ last, after.semaphore registry source = some last ∧
      room.run (ofSource source events) = some last := by
  induction events generalizing semaphores room with
  | nil =>
    obtain rfl := Option.some.inj ran
    exact ⟨room, found, rfl⟩
  | cons event events ih =>
    obtain ⟨middle, moved, rest⟩ := Option.bind_eq_some_iff.mp ran
    obtain ⟨own, changed, held, step, rfl⟩ := next_eq_some.mp moved
    have kept := @semaphore_set τ registry semaphores source event.1 changed
    by_cases same : event.1 = source
    · rw [if_pos same] at kept
      rw [same, found] at held
      obtain rfl := Option.some.inj held
      obtain ⟨last, there, run⟩ := ih kept rest
      have split : ofSource source (event :: events) = event.2 :: ofSource source events := by
        unfold ofSource
        rw [List.filter_cons, if_pos (decide_eq_true same), List.map_cons]
      rw [split]
      exact ⟨last, there, Option.bind_eq_some_iff.mpr ⟨changed, step, run⟩⟩
    · rw [if_neg same, found] at kept
      obtain ⟨last, there, run⟩ := ih kept rest
      have split : ofSource source (event :: events) = ofSource source events := by
        unfold ofSource
        rw [List.filter_cons, if_neg (by simpa using same)]
      rw [split]
      exact ⟨last, there, run⟩

/-! ## Sources side by side -/

/-- How the calls of a source go, whatever other sources are called. -/
structure Separate (registry : String → Option Nat) (events : List (String × Event τ))
    (semaphores : Semaphores τ) (source : String) (limit : Nat) (room : Room τ) : Prop where
  /-- They go as they do alone. -/
  alone : (Room.fresh limit).run (ofSource source events) = some room
  /-- No more of them run than the connector declares. -/
  bounded : room.inside.length ≤ limit
  /-- One that comes when fewer run and none waits runs at once. -/
  prompt : ∀ task, task ∉ room.tasks → room.semaphore.waiters = [] → room.inside.length < limit →
    ∃ after entered, semaphores.next registry (source, .arrive task) = some after ∧
      after.semaphore registry source = some entered ∧ entered.inside = room.inside ++ [task]
  /-- What happens to the calls of another source changes nothing. -/
  untouched : ∀ other event after, other ≠ source →
    semaphores.next registry (other, event) = some after →
      after.semaphore registry source = some room
  /-- While one waits or runs, one of those that are there can run again or leave. -/
  progress : room.tasks ≠ [] → ∃ event after, event.proceeds = true ∧
    semaphores.next registry (source, event) = some after

/-- Whatever becomes of the calls of a gateway, in whatever order, those of a source go as they do
alone. -/
theorem separate_run (known : registry source = some limit) (positive : 0 < limit)
    (ran : run registry .empty events = some semaphores) :
    ∃ room, semaphores.semaphore registry source = some room ∧
      Separate registry events semaphores source limit room := by
  have first : semaphore registry (.empty : Semaphores τ) source = some (Room.fresh limit) := by
    show (registry source).map Room.fresh = _
    rw [known]
    rfl
  obtain ⟨room, found, alone⟩ := run_alone first ran
  have sound := (Room.Sound.fresh limit).run alone
  refine ⟨room, found, alone, sound.bounded, ?_, ?_, ?_⟩
  · intro task outside idle fewer
    have conserved := sound.conserved
    have none : room.semaphore.granted = 0 := by
      unfold Semaphore.granted
      rw [idle]
      rfl
    have free : room.semaphore.locked = false := by
      unfold Semaphore.locked
      rw [idle, List.any_nil, Bool.or_false, beq_eq_false_iff_ne]
      omega
    obtain ⟨entered, moved, inside⟩ : ∃ entered, room.next (.arrive task) = some entered ∧
        entered.inside = room.inside ++ [task] := by
      rw [Room.next, if_neg outside, free]
      exact ⟨_, rfl, rfl⟩
    have stepped : semaphores.next registry (source, .arrive task) =
        some (semaphores.set source entered) := next_eq_some.mpr ⟨room, entered, found, moved, rfl⟩
    refine ⟨_, entered, stepped, ?_, inside⟩
    rw [semaphore_set, if_pos rfl]
  · intro other event after apart moved
    obtain ⟨own, changed, -, -, rfl⟩ := next_eq_some.mp moved
    rw [semaphore_set, if_neg apart]
    exact found
  · intro busy
    obtain ⟨event, changed, proceeds, moved⟩ := sound.progress positive busy
    exact ⟨event, _, proceeds, next_eq_some.mpr ⟨room, changed, found, moved, rfl⟩⟩

/-- Two sources, of which one runs one call at a time and the other two. -/
def twoSources (source : String) : Option Nat :=
  if source = "erp" then some 1 else if source = "crm" then some 2 else none

/-- A second call of one source waits while two calls of the other run. -/
theorem separate_run_two : ∃ semaphores : Semaphores Nat,
    run twoSources .empty
      [("erp", .arrive 1), ("crm", .arrive 2), ("erp", .arrive 3), ("crm", .arrive 4)] =
        some semaphores ∧
      ∃ room, semaphores.semaphore twoSources "crm" = some room ∧
        Separate twoSources
          [("erp", .arrive 1), ("crm", .arrive 2), ("erp", .arrive 3), ("crm", .arrive 4)]
          semaphores "crm" 2 room :=
  ⟨_, rfl, separate_run rfl Nat.two_pos rfl⟩

end Semaphores

end DataHarness
