import DataHarness.Library.Semaphore
import Mathlib.Data.List.Induction
import Mathlib.Order.MinMax

/-!
# Calls of a worker side by side

`ConnectorWorkerClient.invoke` runs each call inside the client's semaphore and counts the calls
that run. Whatever the event loop does with its calls, also when it cancels them while they wait or
when they were just woken, the counters count: `_active` the calls that run,
`max_observed_parallelism` the most that ever ran at once, which is never more than the limit. No
call starts while one that came before it is pending, no call waits for ever, and nothing is left
behind (`governed_run`).
-/

namespace DataHarness

open Asyncio

namespace ConnectorWorkerClient

/-- The semaphore of a client and its counters. -/
structure Calls (τ : Type) where
  room : Room τ
  /-- `_active`. -/
  active : Int
  /-- `max_observed_parallelism`. -/
  maxObserved : Int
deriving DecidableEq

variable {τ : Type} [DecidableEq τ]

namespace Calls

/-- `__init__`. -/
def initial (maxParallelism : Nat) : Calls τ := ⟨Room.fresh maxParallelism, 0, 0⟩

/-- What `invoke` counts before it runs a call. -/
def enter (calls : Calls τ) : Calls τ where
  room := calls.room
  active := calls.active + 1
  maxObserved := max calls.maxObserved (calls.active + 1)

/-- What becomes of a client; none where the event cannot happen. Nothing else runs between a permit
and its count. -/
def next (calls : Calls τ) (event : Event τ) : Option (Calls τ) :=
  match calls.room.next event with
  | none => none
  | some room =>
    match event with
    | .arrive task | .resume task =>
      if task ∈ room.inside then some (enter { calls with room }) else some { calls with room }
    | .leave _ => some { calls with room, active := calls.active - 1 }
    | .cancel _ => some { calls with room }

/-- What becomes of a client in a run of events. -/
def run (calls : Calls τ) (events : List (Event τ)) : Option (Calls τ) := events.foldlM next calls

/-! ## What the counters count -/

variable {calls after : Calls τ} {event : Event τ} {limit : Nat} {events : List (Event τ)}

/-- A step of a client is one of its semaphore. -/
theorem room_next (next : calls.next event = some after) :
    calls.room.next event = some after.room := by
  unfold Calls.next at next
  split at next
  · cases next
  · rename_i room moved
    rw [moved]
    split at next
    · split at next
      · exact congrArg (fun calls => some calls.room) (Option.some.inj next)
      · exact congrArg (fun calls => some calls.room) (Option.some.inj next)
    · split at next
      · exact congrArg (fun calls => some calls.room) (Option.some.inj next)
      · exact congrArg (fun calls => some calls.room) (Option.some.inj next)
    · exact congrArg (fun calls => some calls.room) (Option.some.inj next)
    · exact congrArg (fun calls => some calls.room) (Option.some.inj next)

/-- A client steps when its semaphore does. -/
theorem exists_next {room : Room τ} (moved : calls.room.next event = some room) :
    ∃ after, calls.next event = some after := by
  unfold Calls.next
  rw [moved]
  cases event with
  | arrive task =>
    by_cases entered : task ∈ room.inside
    · exact ⟨_, if_pos entered⟩
    · exact ⟨_, if_neg entered⟩
  | resume task =>
    by_cases entered : task ∈ room.inside
    · exact ⟨_, if_pos entered⟩
    · exact ⟨_, if_neg entered⟩
  | leave task => exact ⟨_, rfl⟩
  | cancel task => exact ⟨_, rfl⟩

/-- The counters of a client whose semaphore is sound are those of the calls that run. -/
structure Counts (limit : Nat) (calls : Calls τ) : Prop where
  sound : calls.room.Sound limit
  active : calls.active = calls.room.inside.length
  observed : calls.active ≤ calls.maxObserved

/-- A step keeps the count, and the most that were counted is the most so far. -/
theorem Counts.next (counts : calls.Counts limit) (next : calls.next event = some after) :
    after.Counts limit ∧ after.maxObserved = max calls.maxObserved after.active := by
  have moved := room_next next
  have sound := counts.sound.next moved
  have active := counts.active
  have observed := counts.observed
  unfold Calls.next at next
  rw [moved] at next
  rcases counts.sound.inside_cases moved with ⟨task, same, outside, inside⟩ | ⟨task, rfl, member,
    inside⟩ | ⟨stays, inside, outside⟩
  · have entered : task ∈ after.room.inside := by
      rw [inside]
      exact List.mem_append_right _ (List.mem_singleton_self _)
    have counted : some (enter { calls with room := after.room }) = some after := by
      rcases same with rfl | rfl
      · exact (if_pos entered).symm.trans next
      · exact (if_pos entered).symm.trans next
    have count : after.active = calls.active + 1 ∧
        after.maxObserved = max calls.maxObserved (calls.active + 1) := by
      rw [← Option.some.inj counted]
      exact ⟨rfl, rfl⟩
    refine ⟨⟨sound, ?_, ?_⟩, ?_⟩
    · rw [count.1, inside, List.length_append, List.length_singleton, active]
      rfl
    · rw [count.1, count.2]
      exact le_max_right _ _
    · rw [count.1, count.2]
  · have count : after.active = calls.active - 1 ∧ after.maxObserved = calls.maxObserved := by
      rw [← Option.some.inj next]
      exact ⟨rfl, rfl⟩
    have some := List.length_pos_of_mem member
    refine ⟨⟨sound, ?_, ?_⟩, ?_⟩
    · rw [count.1, inside, List.length_erase_of_mem member, active]
      omega
    · rw [count.1, count.2]
      omega
    · rw [count.1, count.2, max_eq_left]
      omega
  · have counted : some { calls with room := after.room } = some after := by
      cases event with
      | arrive task =>
        have apart : task ∉ after.room.inside := inside ▸ outside task (.inl rfl)
        exact (if_neg apart).symm.trans next
      | resume task =>
        have apart : task ∉ after.room.inside := inside ▸ outside task (.inr rfl)
        exact (if_neg apart).symm.trans next
      | leave task => exact absurd rfl (stays task)
      | cancel task => exact next
    have count : after.active = calls.active ∧ after.maxObserved = calls.maxObserved := by
      rw [← Option.some.inj counted]
      exact ⟨rfl, rfl⟩
    refine ⟨⟨sound, ?_, ?_⟩, ?_⟩
    · rw [count.1, inside, active]
    · rw [count.1, count.2]
      exact observed
    · rw [count.1, count.2, max_eq_left observed]

/-- A run ends with its last event. -/
theorem run_snoc (ran : calls.run (events ++ [event]) = some after) :
    ∃ before, calls.run events = some before ∧ before.next event = some after := by
  unfold run at ran ⊢
  rw [List.foldlM_append] at ran
  obtain ⟨before, first, last⟩ := Option.bind_eq_some_iff.mp ran
  obtain ⟨other, next, same⟩ := Option.bind_eq_some_iff.mp last
  obtain rfl := Option.some.inj same
  exact ⟨before, first, next⟩

/-- A run keeps the count. -/
theorem Counts.run (counts : calls.Counts limit) (ran : calls.run events = some after) :
    after.Counts limit := by
  induction events using List.reverseRecOn generalizing after with
  | nil =>
    obtain rfl := Option.some.inj ran
    exact counts
  | append_singleton events event ih =>
    obtain ⟨before, first, next⟩ := run_snoc ran
    exact ((ih first).next next).1

omit [DecidableEq τ] in
/-- A client that has run no call counts none. -/
theorem counts_initial (limit : Nat) : (initial limit : Calls τ).Counts limit :=
  ⟨Room.Sound.fresh limit, rfl, le_refl _⟩

/-! ## Calls side by side -/

/-- What a client does with its calls, after a run of events from the start. -/
structure Governed (limit : Nat) (events : List (Event τ)) (calls : Calls τ) : Prop where
  /-- The calls that run are counted, and are no more than the limit. -/
  counted : calls.active = calls.room.inside.length ∧ calls.room.inside.length ≤ limit
  /-- At no time of the run were more calls running than were observed at most. -/
  observed : ∀ front, front <+: events → ∀ before,
    (initial limit : Calls τ).run front = some before →
      before.room.inside.length ≤ calls.maxObserved
  /-- At some time of the run as many were. -/
  reached : ∃ front, front <+: events ∧ ∃ before,
    (initial limit : Calls τ).run front = some before ∧
      calls.maxObserved = before.room.inside.length
  /-- A call that starts to run came with nobody waiting, or was woken as the first pending one. -/
  inOrder : ∀ event after task, calls.next event = some after → task ∈ after.room.inside →
    task ∉ calls.room.inside →
      (event = .arrive task ∧ ∀ waiter ∈ calls.room.semaphore.waiters, waiter.2 = .cancelled) ∨
        event = .resume task ∧ ∃ front back,
          calls.room.semaphore.waiters = front ++ (task, .granted) :: back ∧
            ∀ waiter ∈ front, waiter.2 ≠ .pending
  /-- While a call waits or runs, one of those that are there can run again or leave. -/
  progress : calls.room.tasks ≠ [] →
    ∃ event after, event.proceeds = true ∧ calls.next event = some after
  /-- If no more calls come, those that are there are through after a bounded number of steps, and
  leave the semaphore as it was at the start, and no call counted. -/
  through : ∀ later after, (∀ event ∈ later, event.arrives = false) →
    calls.run later = some after → later.length ≤ calls.room.work ∧
      (after.room.tasks = [] → after.room = Room.fresh limit ∧ after.active = 0)

/-- A step that lets no call come observes no more calls than before. -/
theorem Counts.still (counts : calls.Counts limit) (next : calls.next event = some after) :
    calls.maxObserved ≤ after.maxObserved := by
  rw [(counts.next next).2]
  exact le_max_left _ _

/-- The semaphore of a client goes through the events. -/
theorem room_run (ran : calls.run events = some after) :
    calls.room.run events = some after.room := by
  induction events generalizing calls with
  | nil =>
    obtain rfl := Option.some.inj ran
    rfl
  | cons event events ih =>
    obtain ⟨middle, next, rest⟩ := Option.bind_eq_some_iff.mp ran
    exact Option.bind_eq_some_iff.mpr ⟨middle.room, room_next next, ih rest⟩

/-- What was observed in a run is the most that ran at a time of it. -/
theorem observed_run (ran : (initial limit : Calls τ).run events = some calls) :
    (∀ front, front <+: events → ∀ before, (initial limit : Calls τ).run front = some before →
        before.room.inside.length ≤ calls.maxObserved) ∧
      ∃ front, front <+: events ∧ ∃ before, (initial limit : Calls τ).run front = some before ∧
        calls.maxObserved = before.room.inside.length := by
  induction events using List.reverseRecOn generalizing calls with
  | nil =>
    obtain rfl := Option.some.inj ran
    constructor
    · intro front early before upto
      obtain rfl := List.prefix_nil.mp early
      obtain rfl := Option.some.inj upto
      exact le_refl _
    · exact ⟨[], List.prefix_rfl, initial limit, rfl, rfl⟩
  | append_singleton events event ih =>
    obtain ⟨last, first, next⟩ := run_snoc ran
    obtain ⟨least, front, early, before, upto, most⟩ := ih first
    have counts := (counts_initial limit).run first
    obtain ⟨counted, larger⟩ := counts.next next
    constructor
    · intro other inside some found
      rcases List.prefix_concat_iff.mp inside with rfl | within
      · obtain rfl := Option.some.inj (found.symm.trans ran)
        rw [← counted.active]
        exact counted.observed
      · exact (least other within some found).trans (counts.still next)
    · rcases max_cases last.maxObserved calls.active with ⟨same, -⟩ | ⟨same, -⟩
      · rw [same] at larger
        exact ⟨front, early.trans (List.prefix_append _ _), before, upto, larger.trans most⟩
      · rw [same] at larger
        exact ⟨_, List.prefix_rfl, calls, ran, larger.trans counted.active⟩

/-- Whatever becomes of the calls of a client, in whatever order, they are governed. -/
theorem governed_run (some : 0 < limit) (ran : (initial limit : Calls τ).run events = .some calls) :
    calls.Governed limit events := by
  have counts := (counts_initial limit).run ran
  obtain ⟨observed, reached⟩ := observed_run ran
  constructor
  · exact ⟨counts.active, counts.sound.bounded⟩
  · exact observed
  · exact reached
  · intro event after task next entered outside
    exact counts.sound.enters (room_next next) entered outside
  · intro busy
    obtain ⟨event, room, proceeds, moved⟩ := counts.sound.progress some busy
    obtain ⟨after, next⟩ := exists_next moved
    exact ⟨event, after, proceeds, next⟩
  · intro later after still rest
    have bounded := counts.sound.run_length (room_run rest) still
    refine ⟨by omega, fun gone => ?_⟩
    have ended := counts.run rest
    have drained := ended.sound.drained gone
    refine ⟨drained, ?_⟩
    rw [ended.active, drained]
    rfl

/-- Three calls of a client that runs one at a time: the second is cancelled when the first has
handed it the permit, which then goes to the third. -/
def handedOn : List (Event Nat) :=
  [.arrive 1, .arrive 2, .arrive 3, .leave 1, .cancel 2, .resume 2, .resume 3, .leave 3]

/-- They leave the client as it was, with one call observed. -/
theorem governed_run_handed : (⟨Room.fresh 1, 0, 1⟩ : Calls Nat).Governed 1 handedOn :=
  governed_run Nat.one_pos rfl

end Calls

end ConnectorWorkerClient

end DataHarness
