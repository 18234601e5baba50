import Mathlib.Data.List.Nodup
import Mathlib.Data.List.Count

/-!
# Counting semaphores of an event loop

`asyncio.Semaphore` with the tasks that wait for it and those that hold it, in every order in which
an event loop can resume, cancel and finish them. A release hands its permit to the first waiter
that is not done, whose task runs later; a task that is cancelled in between gives the permit back.

Permits are neither lost nor made (`Sound.conserved`), tasks enter in the order in which they came
(`Sound.enters`), and no wake-up is lost: while a task waits, one that was woken has yet to run, or
all permits are held (`Sound.served`). So the tasks that are there are all through after a bounded
number of steps (`Room.run_length`), and then all permits are back (`Sound.drained`).
-/

namespace Asyncio

/-- The future of a waiter, with what became of its task. -/
inductive Future
  | pending
  /-- It has its result, and its task is to run. -/
  | granted
  /-- It has its result, and its task was cancelled since. -/
  | revoked
  | cancelled
deriving DecidableEq

/-- A permit was handed to the waiter. -/
def Future.taken : Future → Bool
  | .granted | .revoked => true
  | .pending | .cancelled => false

/-- `asyncio.Semaphore`; a waiter is its task and its future. -/
structure Semaphore (τ : Type) where
  value : Nat
  waiters : List (τ × Future)
deriving DecidableEq

variable {τ : Type}

namespace Semaphore

/-- `locked`. -/
def locked (semaphore : Semaphore τ) : Bool :=
  semaphore.value == 0 || semaphore.waiters.any fun waiter => decide (waiter.2 ≠ .cancelled)

/-- The waiters when the first of them that is not done gets its result, if there is one. -/
def wakeFirst : List (τ × Future) → Option (List (τ × Future))
  | [] => none
  | waiter :: rest =>
    if waiter.2 = .pending then some ((waiter.1, .granted) :: rest)
    else (wakeFirst rest).map (waiter :: ·)

/-- `_wake_up_next`. -/
def wakeUpNext (semaphore : Semaphore τ) : Semaphore τ :=
  match wakeFirst semaphore.waiters with
  | none => semaphore
  | some waiters => ⟨semaphore.value - 1, waiters⟩

/-- `release`. -/
def release (semaphore : Semaphore τ) : Semaphore τ :=
  wakeUpNext ⟨semaphore.value + 1, semaphore.waiters⟩

/-- How many waiters have a permit. -/
def granted (semaphore : Semaphore τ) : Nat := semaphore.waiters.countP fun waiter => waiter.2.taken

/-! ## Waking -/

/-- Nobody is woken when nobody is pending. -/
theorem wakeFirst_eq_none {waiters : List (τ × Future)} :
    wakeFirst waiters = none ↔ ∀ waiter ∈ waiters, waiter.2 ≠ .pending := by
  induction waiters with
  | nil => exact ⟨fun _ _ member => absurd member List.not_mem_nil, fun _ => rfl⟩
  | cons waiter waiters ih =>
    rw [wakeFirst, List.forall_mem_cons]
    by_cases pending : waiter.2 = .pending
    · rw [if_pos pending]
      constructor
      · intro nobody
        cases nobody
      · intro both
        exact absurd pending both.1
    · rw [if_neg pending, Option.map_eq_none_iff, ih]
      exact ⟨fun rest => ⟨pending, rest⟩, And.right⟩

/-- The waiter that is woken is the first that is pending. -/
theorem exists_woken {waiters woken : List (τ × Future)} (wakes : wakeFirst waiters = some woken) :
    ∃ front task back, waiters = front ++ (task, .pending) :: back ∧
      (∀ waiter ∈ front, waiter.2 ≠ .pending) ∧ woken = front ++ (task, .granted) :: back := by
  induction waiters generalizing woken with
  | nil => cases wakes
  | cons waiter waiters ih =>
    rw [wakeFirst] at wakes
    by_cases pending : waiter.2 = .pending
    · rw [if_pos pending] at wakes
      refine ⟨[], waiter.1, waiters, ?_, fun _ member => absurd member List.not_mem_nil,
        (Option.some.inj wakes).symm⟩
      rw [← pending]
      rfl
    · rw [if_neg pending] at wakes
      obtain ⟨rest, later, rfl⟩ := Option.map_eq_some_iff.mp wakes
      obtain ⟨front, task, back, rfl, done, rfl⟩ := ih later
      exact ⟨waiter :: front, task, back, rfl, List.forall_mem_cons.mpr ⟨pending, done⟩, rfl⟩

/-- Either nobody is pending, and nothing happens, or the first who is gets a permit. -/
theorem wakeUpNext_cases (semaphore : Semaphore τ) :
    ((∀ waiter ∈ semaphore.waiters, waiter.2 ≠ .pending) ∧ semaphore.wakeUpNext = semaphore) ∨
      ∃ front task back, semaphore.waiters = front ++ (task, .pending) :: back ∧
        (∀ waiter ∈ front, waiter.2 ≠ .pending) ∧
        semaphore.wakeUpNext = ⟨semaphore.value - 1, front ++ (task, .granted) :: back⟩ := by
  unfold wakeUpNext
  cases wakes : wakeFirst semaphore.waiters with
  | none => exact .inl ⟨wakeFirst_eq_none.mp wakes, rfl⟩
  | some woken =>
    obtain ⟨front, task, back, split, done, rfl⟩ := exists_woken wakes
    exact .inr ⟨front, task, back, split, done, rfl⟩

/-- Waking changes no waiter's task. -/
theorem tasks_wakeUpNext (semaphore : Semaphore τ) :
    semaphore.wakeUpNext.waiters.map Prod.fst = semaphore.waiters.map Prod.fst := by
  rcases semaphore.wakeUpNext_cases with ⟨-, same⟩ | ⟨front, task, back, split, -, woken⟩
  · rw [same]
  · rw [woken, split, List.map_append, List.map_append, List.map_cons, List.map_cons]

/-- A free permit that is handed over is free no more. -/
theorem permits_wakeUpNext {semaphore : Semaphore τ} (free : 0 < semaphore.value) :
    semaphore.wakeUpNext.value + semaphore.wakeUpNext.granted =
      semaphore.value + semaphore.granted := by
  unfold granted
  rcases semaphore.wakeUpNext_cases with ⟨-, same⟩ | ⟨front, task, back, split, -, woken⟩
  · rw [same]
  · have before : ((task, Future.pending).2.taken) = false := rfl
    have after : ((task, Future.granted).2.taken) = true := rfl
    rw [woken, split]
    dsimp only
    rw [List.countP_append, List.countP_append, List.countP_cons, List.countP_cons, before, after]
    simp only [Bool.false_eq_true, if_false, if_true]
    omega

/-- Nobody who is pending came before one who has a permit. -/
def Ordered (waiters : List (τ × Future)) : Prop :=
  waiters.Pairwise fun earlier later => earlier.2 = .pending → later.2.taken = false

/-- Who is woken is the first that is pending, so that the order stays. -/
theorem ordered_wakeUpNext {semaphore : Semaphore τ} (ordered : Ordered semaphore.waiters) :
    Ordered semaphore.wakeUpNext.waiters := by
  rcases semaphore.wakeUpNext_cases with ⟨-, same⟩ | ⟨front, task, back, split, done, woken⟩
  · rw [same]
    exact ordered
  · rw [split] at ordered
    rw [woken]
    unfold Ordered at ordered ⊢
    rw [List.pairwise_append, List.pairwise_cons] at ordered ⊢
    refine ⟨ordered.1, ⟨?_, ordered.2.1.2⟩, ?_⟩
    · intro _ _ pending
      cases pending
    · intro waiter member _ _ pending
      exact absurd pending (done waiter member)

/-- While somebody is pending, all permits are taken, or somebody who has one is yet to run. -/
def Served (semaphore : Semaphore τ) : Prop :=
  (∃ waiter ∈ semaphore.waiters, waiter.2 = .pending) →
    semaphore.value = 0 ∨ ∃ waiter ∈ semaphore.waiters, waiter.2.taken = true

/-- When somebody was to be woken, somebody is who is yet to run. -/
theorem served_wakeUpNext (semaphore : Semaphore τ) : semaphore.wakeUpNext.Served := by
  rintro ⟨waiter, member, pending⟩
  rcases semaphore.wakeUpNext_cases with ⟨none, same⟩ | ⟨front, task, back, -, -, woken⟩
  · rw [same] at member
    exact absurd pending (none waiter member)
  · right
    rw [woken]
    exact ⟨(task, .granted), List.mem_append_right _ List.mem_cons_self, rfl⟩

end Semaphore

/-! ## Tasks -/

/-- What the event loop does with a task. -/
inductive Event (τ : Type)
  /-- It comes to `async with semaphore`. -/
  | arrive (task : τ)
  /-- It is cancelled while it waits. -/
  | cancel (task : τ)
  /-- It runs again after its future was done. -/
  | resume (task : τ)
  /-- It leaves `async with semaphore`, in whatever way. -/
  | leave (task : τ)
deriving DecidableEq

/-- A semaphore, and the tasks that hold a permit, in the order in which they entered. -/
structure Room (τ : Type) where
  semaphore : Semaphore τ
  inside : List τ
deriving DecidableEq

/-- A semaphore that nobody has used. -/
def Room.fresh (bound : Nat) : Room τ := ⟨⟨bound, []⟩, []⟩

variable [DecidableEq τ]

/-- The waiters but for a task. -/
def without (waiters : List (τ × Future)) (task : τ) : List (τ × Future) :=
  waiters.filter fun waiter => decide (waiter.1 ≠ task)

/-- The waiters with another future of a task. -/
def withFuture (waiters : List (τ × Future)) (task : τ) (future : Future) : List (τ × Future) :=
  waiters.map fun waiter => if waiter.1 = task then (task, future) else waiter

/-- The tasks that wait or hold a permit. -/
def Room.tasks (room : Room τ) : List τ := room.semaphore.waiters.map Prod.fst ++ room.inside

/-- What becomes of a room; none where the event cannot happen. -/
def Room.next (room : Room τ) : Event τ → Option (Room τ)
  | .arrive task =>
    if task ∈ room.tasks then none
    else if room.semaphore.locked then
      some { room with semaphore.waiters := room.semaphore.waiters ++ [(task, .pending)] }
    else some ⟨{ room.semaphore with value := room.semaphore.value - 1 }, room.inside ++ [task]⟩
  | .cancel task =>
    match room.semaphore.waiters.lookup task with
    | some .pending => some { room with
        semaphore.waiters := withFuture room.semaphore.waiters task .cancelled }
    | some .granted => some { room with
        semaphore.waiters := withFuture room.semaphore.waiters task .revoked }
    | _ => none
  | .resume task =>
    let rest : Semaphore τ := ⟨room.semaphore.value, without room.semaphore.waiters task⟩
    match room.semaphore.waiters.lookup task with
    | some .granted =>
      some ⟨if 0 < rest.value then rest.wakeUpNext else rest, room.inside ++ [task]⟩
    | some .revoked => some ⟨rest.release, room.inside⟩
    | some .cancelled => some ⟨rest, room.inside⟩
    | _ => none
  | .leave task =>
    if task ∈ room.inside then some ⟨room.semaphore.release, room.inside.erase task⟩ else none

/-- What becomes of a room in a run of events. -/
def Room.run (room : Room τ) (events : List (Event τ)) : Option (Room τ) :=
  events.foldlM Room.next room

/-! ## Steps -/

/-- The place of a task that waits once. -/
theorem exists_place {waiters : List (τ × Future)} (distinct : (waiters.map Prod.fst).Nodup)
    {task : τ} {future : Future} (found : waiters.lookup task = some future) :
    ∃ front back, waiters = front ++ (task, future) :: back ∧
      without waiters task = front ++ back ∧
      ∀ other, withFuture waiters task other = front ++ (task, other) :: back := by
  obtain ⟨front, back, rfl, before⟩ := List.lookup_eq_some_iff.mp found
  rw [List.map_append, List.map_cons, List.nodup_append, List.nodup_cons] at distinct
  have early : ∀ waiter ∈ front, waiter.1 ≠ task := by
    intro waiter member same
    have apart := before waiter member
    rw [same] at apart
    simp at apart
  have late : ∀ waiter ∈ back, waiter.1 ≠ task := by
    intro waiter member same
    have listed : waiter.1 ∈ back.map Prod.fst := List.mem_map_of_mem member
    rw [same] at listed
    exact distinct.2.1.1 listed
  refine ⟨front, back, rfl, ?_, fun other => ?_⟩
  · have first : front.filter (fun waiter => decide (waiter.1 ≠ task)) = front :=
      List.filter_eq_self.mpr fun waiter member => decide_eq_true (early waiter member)
    have second : back.filter (fun waiter => decide (waiter.1 ≠ task)) = back :=
      List.filter_eq_self.mpr fun waiter member => decide_eq_true (late waiter member)
    unfold without
    rw [List.filter_append, List.filter_cons_of_neg (by simp), first, second]
  · have kept : ∀ others : List (τ × Future), (∀ waiter ∈ others, waiter.1 ≠ task) →
        others.map (fun waiter => if waiter.1 = task then (task, other) else waiter) = others := by
      intro others apart
      have same : ∀ waiter ∈ others,
          (if waiter.1 = task then (task, other) else waiter) = id waiter :=
        fun waiter member => if_neg (apart waiter member)
      rw [List.map_congr_left same, List.map_id]
    unfold withFuture
    rw [List.map_append, List.map_cons, kept front early, kept back late, if_pos rfl]

/-- What can happen to a room. -/
inductive Room.Step : Room τ → Event τ → Room τ → Prop
  | wait {semaphore : Semaphore τ} {inside : List τ} {task : τ}
    (fresh : task ∉ (Room.mk semaphore inside).tasks) (locked : semaphore.locked = true) :
    Step ⟨semaphore, inside⟩ (.arrive task)
      ⟨⟨semaphore.value, semaphore.waiters ++ [(task, .pending)]⟩, inside⟩
  | enter {semaphore : Semaphore τ} {inside : List τ} {task : τ}
    (fresh : task ∉ (Room.mk semaphore inside).tasks) (free : semaphore.locked = false) :
    Step ⟨semaphore, inside⟩ (.arrive task)
      ⟨⟨semaphore.value - 1, semaphore.waiters⟩, inside ++ [task]⟩
  | giveUp {value : Nat} {front back : List (τ × Future)} {inside : List τ} {task : τ} :
    Step ⟨⟨value, front ++ (task, .pending) :: back⟩, inside⟩ (.cancel task)
      ⟨⟨value, front ++ (task, .cancelled) :: back⟩, inside⟩
  | revoke {value : Nat} {front back : List (τ × Future)} {inside : List τ} {task : τ} :
    Step ⟨⟨value, front ++ (task, .granted) :: back⟩, inside⟩ (.cancel task)
      ⟨⟨value, front ++ (task, .revoked) :: back⟩, inside⟩
  | wake {value : Nat} {front back : List (τ × Future)} {inside : List τ} {task : τ} :
    Step ⟨⟨value, front ++ (task, .granted) :: back⟩, inside⟩ (.resume task)
      ⟨if 0 < value then Semaphore.wakeUpNext ⟨value, front ++ back⟩ else ⟨value, front ++ back⟩,
        inside ++ [task]⟩
  | giveBack {value : Nat} {front back : List (τ × Future)} {inside : List τ} {task : τ} :
    Step ⟨⟨value, front ++ (task, .revoked) :: back⟩, inside⟩ (.resume task)
      ⟨Semaphore.release ⟨value, front ++ back⟩, inside⟩
  | drop {value : Nat} {front back : List (τ × Future)} {inside : List τ} {task : τ} :
    Step ⟨⟨value, front ++ (task, .cancelled) :: back⟩, inside⟩ (.resume task)
      ⟨⟨value, front ++ back⟩, inside⟩
  | leave {semaphore : Semaphore τ} {inside : List τ} {task : τ} (member : task ∈ inside) :
    Step ⟨semaphore, inside⟩ (.leave task) ⟨semaphore.release, inside.erase task⟩

/-- Nothing else happens to a room whose tasks are distinct. -/
theorem Room.step_of_next {room after : Room τ} {event : Event τ} (distinct : room.tasks.Nodup)
    (next : room.next event = some after) : room.Step event after := by
  obtain ⟨⟨value, waiters⟩, inside⟩ := room
  have waiting : (waiters.map Prod.fst).Nodup := (List.nodup_append.mp distinct).1
  cases event with
  | arrive task =>
    rw [Room.next] at next
    split at next
    · cases next
    · rename_i fresh
      split at next
      · rename_i locked
        obtain rfl := Option.some.inj next
        exact .wait fresh locked
      · rename_i free
        obtain rfl := Option.some.inj next
        exact .enter fresh (Bool.not_eq_true _ ▸ free)
  | cancel task =>
    rw [Room.next] at next
    split at next
    · rename_i found
      obtain ⟨front, back, rfl, -, changed⟩ := exists_place waiting found
      obtain rfl := Option.some.inj next
      rw [changed]
      exact .giveUp
    · rename_i found
      obtain ⟨front, back, rfl, -, changed⟩ := exists_place waiting found
      obtain rfl := Option.some.inj next
      rw [changed]
      exact .revoke
    · cases next
  | resume task =>
    rw [Room.next] at next
    dsimp only at next
    split at next
    · rename_i found
      obtain ⟨front, back, rfl, removed, -⟩ := exists_place waiting found
      obtain rfl := Option.some.inj next
      rw [removed]
      exact .wake
    · rename_i found
      obtain ⟨front, back, rfl, removed, -⟩ := exists_place waiting found
      obtain rfl := Option.some.inj next
      rw [removed]
      exact .giveBack
    · rename_i found
      obtain ⟨front, back, rfl, removed, -⟩ := exists_place waiting found
      obtain rfl := Option.some.inj next
      rw [removed]
      exact .drop
    · cases next
  | leave task =>
    rw [Room.next] at next
    split at next
    · rename_i member
      obtain rfl := Option.some.inj next
      exact .leave member
    · cases next

/-! ## The invariant -/

omit [DecidableEq τ] in
/-- The permits of waiters, one of them apart. -/
theorem Semaphore.granted_split (value : Nat) (front back : List (τ × Future)) (task : τ)
    (future : Future) :
    Semaphore.granted ⟨value, front ++ (task, future) :: back⟩ =
      Semaphore.granted ⟨value, front ++ back⟩ + if future.taken then 1 else 0 := by
  unfold granted
  dsimp only
  rw [List.countP_append, List.countP_append, List.countP_cons, Nat.add_assoc]

omit [DecidableEq τ] in
/-- A permit that is released is free, or handed over. -/
theorem Semaphore.permits_release (semaphore : Semaphore τ) :
    semaphore.release.value + semaphore.release.granted =
      semaphore.value + 1 + semaphore.granted :=
  @permits_wakeUpNext τ ⟨semaphore.value + 1, semaphore.waiters⟩ (Nat.succ_pos _)

omit [DecidableEq τ] in
/-- A semaphore that is not locked has a permit, and nobody who waits for one. -/
theorem Semaphore.free_of_unlocked {semaphore : Semaphore τ} (free : semaphore.locked = false) :
    0 < semaphore.value ∧ ∀ waiter ∈ semaphore.waiters, waiter.2 = .cancelled := by
  simp only [locked, Bool.or_eq_false_iff, beq_eq_false_iff_ne, List.any_eq_false,
    decide_eq_true_eq, not_not] at free
  exact ⟨Nat.pos_of_ne_zero free.1, free.2⟩

/-- What holds of every room that is used from the start with a number of permits. -/
structure Room.Sound (bound : Nat) (room : Room τ) : Prop where
  /-- A permit is free, or handed to a waiter, or held. -/
  conserved : room.semaphore.value + room.semaphore.granted + room.inside.length = bound
  /-- No wake-up is lost. -/
  served : room.semaphore.Served
  /-- Permits are handed over in the order of arrival. -/
  ordered : Semaphore.Ordered room.semaphore.waiters
  /-- A task waits or holds a permit once. -/
  distinct : room.tasks.Nodup

namespace Room

variable {room after : Room τ} {event : Event τ} {bound : Nat}

omit [DecidableEq τ] in
/-- An unused room is sound. -/
theorem Sound.fresh (bound : Nat) : (Room.fresh bound : Room τ).Sound bound where
  conserved := rfl
  served := by
    rintro ⟨waiter, member, -⟩
    cases member
  ordered := .nil
  distinct := .nil

/-- A step neither loses a permit nor makes one. -/
theorem Step.conserved (step : room.Step event after)
    (conserved : room.semaphore.value + room.semaphore.granted + room.inside.length = bound) :
    after.semaphore.value + after.semaphore.granted + after.inside.length = bound := by
  cases step with
  | @wait semaphore inside task fresh locked =>
    have more := Semaphore.granted_split semaphore.value semaphore.waiters [] task .pending
    rw [List.append_nil] at more
    dsimp only at conserved ⊢
    rw [more]
    exact conserved
  | @enter semaphore inside task fresh free =>
    have some := (Semaphore.free_of_unlocked free).1
    show semaphore.value - 1 + semaphore.granted + (inside ++ [task]).length = bound
    rw [List.length_append, List.length_singleton]
    dsimp only at conserved
    omega
  | @giveUp value front back inside task =>
    rw [Semaphore.granted_split] at conserved ⊢
    exact conserved
  | @revoke value front back inside task =>
    rw [Semaphore.granted_split] at conserved ⊢
    exact conserved
  | @wake value front back inside task =>
    rw [Semaphore.granted_split] at conserved
    have one : (if Future.granted.taken = true then 1 else 0) = 1 := rfl
    rw [one] at conserved
    dsimp only at conserved ⊢
    rw [List.length_append, List.length_singleton]
    by_cases some : 0 < value
    · have kept := @Semaphore.permits_wakeUpNext τ ⟨value, front ++ back⟩ some
      rw [if_pos some, kept]
      dsimp only
      omega
    · rw [if_neg some]
      dsimp only
      omega
  | @giveBack value front back inside task =>
    rw [Semaphore.granted_split] at conserved
    have one : (if Future.revoked.taken = true then 1 else 0) = 1 := rfl
    have released := Semaphore.permits_release ⟨value, front ++ back⟩
    rw [one] at conserved
    dsimp only at conserved released ⊢
    omega
  | @drop value front back inside task =>
    rw [Semaphore.granted_split] at conserved
    exact conserved
  | @leave semaphore inside task member =>
    have released := Semaphore.permits_release semaphore
    have some := List.length_pos_of_mem member
    dsimp only at conserved ⊢
    rw [List.length_erase_of_mem member]
    omega

/-- A step loses no wake-up. -/
theorem Step.served (step : room.Step event after) (served : room.semaphore.Served) :
    after.semaphore.Served := by
  cases step with
  | @wait semaphore inside task fresh locked =>
    rintro -
    simp only [Semaphore.locked, Bool.or_eq_true, beq_iff_eq, List.any_eq_true,
      decide_eq_true_eq] at locked
    have taken : semaphore.value = 0 ∨ ∃ waiter ∈ semaphore.waiters, waiter.2.taken = true := by
      rcases locked with none | ⟨waiter, member, active⟩
      · exact .inl none
      · cases future : waiter.2 with
        | pending => exact served ⟨waiter, member, future⟩
        | granted => exact .inr ⟨waiter, member, congrArg Future.taken future⟩
        | revoked => exact .inr ⟨waiter, member, congrArg Future.taken future⟩
        | cancelled => exact absurd future active
    exact taken.imp_right fun ⟨waiter, member, has⟩ => ⟨waiter, List.mem_append_left _ member, has⟩
  | enter fresh free =>
    rintro ⟨waiter, member, pending⟩
    have done := (Semaphore.free_of_unlocked free).2 waiter member
    rw [pending] at done
    cases done
  | @giveUp value front back inside task =>
    rintro ⟨waiter, member, pending⟩
    have before : ∃ waiter ∈ front ++ (task, Future.pending) :: back, waiter.2 = .pending :=
      ⟨(task, .pending), List.mem_append_right _ List.mem_cons_self, rfl⟩
    refine (served before).imp_right ?_
    rintro ⟨other, here, has⟩
    refine ⟨other, ?_, has⟩
    rcases List.mem_append.mp here with early | later
    · exact List.mem_append_left _ early
    · rcases List.mem_cons.mp later with rfl | late
      · cases has
      · exact List.mem_append_right _ (List.mem_cons_of_mem _ late)
  | @revoke value front back inside task =>
    rintro -
    exact .inr ⟨(task, .revoked), List.mem_append_right _ List.mem_cons_self, rfl⟩
  | @wake value front back inside task =>
    by_cases some : 0 < value
    · show Semaphore.Served (if 0 < value then _ else _)
      rw [if_pos some]
      exact Semaphore.served_wakeUpNext _
    · show Semaphore.Served (if 0 < value then _ else _)
      rw [if_neg some]
      rintro -
      exact .inl (Nat.eq_zero_of_not_pos some)
  | giveBack => exact Semaphore.served_wakeUpNext _
  | @drop value front back inside task =>
    rintro ⟨waiter, member, pending⟩
    have inner : ∀ other ∈ front ++ back, other ∈ front ++ (task, Future.cancelled) :: back := by
      intro other here
      rcases List.mem_append.mp here with early | late
      · exact List.mem_append_left _ early
      · exact List.mem_append_right _ (List.mem_cons_of_mem _ late)
    refine (served ⟨waiter, inner waiter member, pending⟩).imp_right ?_
    rintro ⟨other, here, has⟩
    refine ⟨other, ?_, has⟩
    rcases List.mem_append.mp here with early | later
    · exact List.mem_append_left _ early
    · rcases List.mem_cons.mp later with rfl | late
      · cases has
      · exact List.mem_append_right _ late
  | leave member => exact Semaphore.served_wakeUpNext _

omit [DecidableEq τ] in
/-- The order stays when a waiter's future changes that is not pending then, and whose permit, if it
has one then, it had before. -/
theorem ordered_changed {front back : List (τ × Future)} {task : τ} {before future : Future}
    (ordered : Semaphore.Ordered (front ++ (task, before) :: back)) (done : future ≠ .pending)
    (had : future.taken = true → before.taken = true) :
    Semaphore.Ordered (front ++ (task, future) :: back) := by
  unfold Semaphore.Ordered at ordered ⊢
  rw [List.pairwise_append, List.pairwise_cons] at ordered ⊢
  refine ⟨ordered.1, ⟨fun _ _ pending => absurd pending done, ordered.2.1.2⟩, ?_⟩
  intro waiter member later among pending
  rcases List.mem_cons.mp among with rfl | late
  · have none := ordered.2.2 waiter member _ List.mem_cons_self pending
    by_contra taken
    rw [Bool.not_eq_false] at taken
    rw [had taken] at none
    cases none
  · exact ordered.2.2 waiter member later (List.mem_cons_of_mem _ late) pending

omit [DecidableEq τ] in
/-- It stays when a waiter is gone. -/
theorem ordered_removed {front back : List (τ × Future)} {waiter : τ × Future}
    (ordered : Semaphore.Ordered (front ++ waiter :: back)) :
    Semaphore.Ordered (front ++ back) :=
  ordered.sublist ((List.sublist_cons_self waiter back).append_left front)

/-- A step keeps the order. -/
theorem Step.ordered (step : room.Step event after)
    (ordered : Semaphore.Ordered room.semaphore.waiters) :
    Semaphore.Ordered after.semaphore.waiters := by
  cases step with
  | wait fresh locked =>
    unfold Semaphore.Ordered at ordered ⊢
    refine List.pairwise_append.mpr ⟨ordered, List.pairwise_singleton _ _, ?_⟩
    intro waiter member later among pending
    rw [List.mem_singleton.mp among]
    rfl
  | enter fresh free => exact ordered
  | giveUp => exact ordered_changed ordered Future.noConfusion fun has => by cases has
  | revoke => exact ordered_changed ordered Future.noConfusion fun _ => rfl
  | @wake value front back inside task =>
    have removed := ordered_removed ordered
    show Semaphore.Ordered (Semaphore.waiters (if 0 < value then _ else _))
    by_cases some : 0 < value
    · rw [if_pos some]
      exact Semaphore.ordered_wakeUpNext removed
    · rw [if_neg some]
      exact removed
  | @giveBack value front back inside task =>
    exact @Semaphore.ordered_wakeUpNext τ ⟨value + 1, front ++ back⟩
      (ordered_removed ordered)
  | drop => exact ordered_removed ordered
  | @leave semaphore inside task member =>
    exact @Semaphore.ordered_wakeUpNext τ ⟨semaphore.value + 1, semaphore.waiters⟩
      ordered

/-- A step keeps tasks distinct. -/
theorem Step.distinct (step : room.Step event after) (distinct : room.tasks.Nodup) :
    after.tasks.Nodup := by
  cases step with
  | @wait semaphore inside task fresh locked =>
    have moved : (Room.mk ⟨semaphore.value, semaphore.waiters ++ [(task, .pending)]⟩ inside).tasks =
        semaphore.waiters.map Prod.fst ++ task :: inside := by
      unfold tasks
      simp
    rw [moved, List.nodup_middle]
    exact List.nodup_cons.mpr ⟨fresh, distinct⟩
  | @enter semaphore inside task fresh free =>
    have moved : (Room.mk ⟨semaphore.value - 1, semaphore.waiters⟩ (inside ++ [task])).tasks =
        (Room.mk semaphore inside).tasks ++ [task] := (List.append_assoc _ _ _).symm
    rw [moved]
    exact List.nodup_append.mpr ⟨distinct, List.nodup_singleton _, fun other here own same => by
      intro equal
      rw [equal, List.mem_singleton.mp same] at here
      exact fresh here⟩
  | @giveUp value front back inside task =>
    unfold tasks at distinct ⊢
    simpa using distinct
  | @revoke value front back inside task =>
    unfold tasks at distinct ⊢
    simpa using distinct
  | @wake value front back inside task =>
    have waiters : (Semaphore.waiters (if 0 < value then Semaphore.wakeUpNext ⟨value, front ++ back⟩
        else ⟨value, front ++ back⟩)).map Prod.fst = (front ++ back).map Prod.fst := by
      by_cases some : 0 < value
      · rw [if_pos some]
        exact Semaphore.tasks_wakeUpNext _
      · rw [if_neg some]
    unfold tasks at distinct ⊢
    dsimp only at distinct ⊢
    rw [waiters, ← List.append_assoc]
    rw [List.map_append, List.map_cons, List.append_assoc, List.cons_append, List.nodup_middle,
      ← List.append_assoc, ← List.map_append] at distinct
    have rotated := (List.perm_append_singleton task
      ((front ++ back).map Prod.fst ++ inside)).symm.nodup distinct
    exact rotated
  | @giveBack value front back inside task =>
    have waiters : (Semaphore.release ⟨value, front ++ back⟩).waiters.map Prod.fst =
        (front ++ back).map Prod.fst := Semaphore.tasks_wakeUpNext _
    unfold tasks at distinct ⊢
    dsimp only at distinct ⊢
    rw [waiters]
    refine distinct.sublist (List.Sublist.append_right (List.Sublist.map _ ?_) _)
    exact (List.sublist_cons_self _ back).append_left front
  | @drop value front back inside task =>
    unfold tasks at distinct ⊢
    dsimp only at distinct ⊢
    refine distinct.sublist (List.Sublist.append_right (List.Sublist.map _ ?_) _)
    exact (List.sublist_cons_self _ back).append_left front
  | @leave semaphore inside task member =>
    have waiters : semaphore.release.waiters.map Prod.fst = semaphore.waiters.map Prod.fst :=
      Semaphore.tasks_wakeUpNext _
    unfold tasks at distinct ⊢
    dsimp only at distinct ⊢
    rw [waiters]
    exact distinct.sublist (List.Sublist.append_left List.erase_sublist _)

/-- What can happen to a sound room leaves it sound. -/
theorem Sound.next (sound : room.Sound bound) (next : room.next event = some after) :
    after.Sound bound := by
  have step := step_of_next sound.distinct next
  exact ⟨step.conserved sound.conserved, step.served sound.served, step.ordered sound.ordered,
    step.distinct sound.distinct⟩

/-- A step lets a task in, or out, or changes nobody's place. -/
theorem Sound.inside_cases (sound : room.Sound bound) (next : room.next event = some after) :
    (∃ task, (event = .arrive task ∨ event = .resume task) ∧ task ∉ room.inside ∧
        after.inside = room.inside ++ [task]) ∨
      (∃ task, event = .leave task ∧ task ∈ room.inside ∧
        after.inside = room.inside.erase task) ∨
      (∀ task, event ≠ .leave task) ∧ after.inside = room.inside ∧
        ∀ task, event = .arrive task ∨ event = .resume task → task ∉ room.inside := by
  have distinct := sound.distinct
  have outside : ∀ {front back : List (τ × Future)} {inside : List τ} {task : τ} {value : Nat}
      {future : Future},
      (Room.mk ⟨value, front ++ (task, future) :: back⟩ inside).tasks.Nodup → task ∉ inside := by
    intro front back inside task value future apart member
    have waits : task ∈ (front ++ (task, future) :: back).map Prod.fst :=
      List.mem_map.mpr ⟨(task, future), List.mem_append_right _ List.mem_cons_self, rfl⟩
    exact (List.nodup_append.mp apart).2.2 task waits task member rfl
  cases step_of_next distinct next with
  | @wait semaphore inside task fresh locked =>
    refine .inr (.inr ⟨fun _ same => (by cases same), rfl, ?_⟩)
    rintro other (same | same)
    · rw [← Event.arrive.inj same]
      exact fun member => fresh (List.mem_append_right _ member)
    · cases same
  | @enter semaphore inside task fresh free =>
    exact .inl ⟨task, .inl rfl, fun member => fresh (List.mem_append_right _ member), rfl⟩
  | @giveUp value front back inside task =>
    refine .inr (.inr ⟨fun _ same => (by cases same), rfl, ?_⟩)
    rintro other (same | same) <;> cases same
  | @revoke value front back inside task =>
    refine .inr (.inr ⟨fun _ same => (by cases same), rfl, ?_⟩)
    rintro other (same | same) <;> cases same
  | @wake value front back inside task =>
    exact .inl ⟨task, .inr rfl, outside distinct, rfl⟩
  | @giveBack value front back inside task =>
    refine .inr (.inr ⟨fun _ same => (by cases same), rfl, ?_⟩)
    rintro other (same | same)
    · cases same
    · rw [← Event.resume.inj same]
      exact outside distinct
  | @drop value front back inside task =>
    refine .inr (.inr ⟨fun _ same => (by cases same), rfl, ?_⟩)
    rintro other (same | same)
    · cases same
    · rw [← Event.resume.inj same]
      exact outside distinct
  | @leave semaphore inside task member => exact .inr (.inl ⟨task, rfl, member, rfl⟩)

/-- So does every run. -/
theorem Sound.run {events : List (Event τ)} (sound : room.Sound bound)
    (ran : room.run events = some after) : after.Sound bound := by
  induction events generalizing room with
  | nil =>
    obtain rfl := Option.some.inj ran
    exact sound
  | cons event events ih =>
    obtain ⟨middle, next, rest⟩ := Option.bind_eq_some_iff.mp ran
    exact ih (sound.next next) rest

omit [DecidableEq τ] in
/-- No more tasks hold a permit than there are. -/
theorem Sound.bounded (sound : room.Sound bound) : room.inside.length ≤ bound := by
  have conserved := sound.conserved
  omega

/-- A task enters with nobody pending before it: it finds a permit and nobody waiting, or it was
woken as the first that was pending. -/
theorem Sound.enters (sound : room.Sound bound) (next : room.next event = some after) {task : τ}
    (entered : task ∈ after.inside) (outside : task ∉ room.inside) :
    (event = .arrive task ∧ ∀ waiter ∈ room.semaphore.waiters, waiter.2 = .cancelled) ∨
      event = .resume task ∧ ∃ front back,
        room.semaphore.waiters = front ++ (task, .granted) :: back ∧
          ∀ waiter ∈ front, waiter.2 ≠ .pending := by
  have ordered := sound.ordered
  cases step_of_next sound.distinct next with
  | enter fresh free =>
    obtain rfl := List.mem_singleton.mp ((List.mem_append.mp entered).resolve_left outside)
    exact .inl ⟨rfl, (Semaphore.free_of_unlocked free).2⟩
  | @wake value front back inside other =>
    obtain rfl := List.mem_singleton.mp ((List.mem_append.mp entered).resolve_left outside)
    refine .inr ⟨rfl, front, back, rfl, fun waiter member pending => ?_⟩
    have none := (List.pairwise_append.mp ordered).2.2 waiter member _ List.mem_cons_self pending
    cases none
  | leave member => exact absurd (List.mem_of_mem_erase entered) outside
  | wait => exact absurd entered outside
  | giveUp => exact absurd entered outside
  | revoke => exact absurd entered outside
  | giveBack => exact absurd entered outside
  | drop => exact absurd entered outside

/-! ## Progress -/

end Room

/-- A task comes. -/
def Event.arrives : Event τ → Bool
  | .arrive _ => true
  | _ => false

/-- A task goes on: it runs again, or it leaves. -/
def Event.proceeds : Event τ → Bool
  | .resume _ | .leave _ => true
  | .arrive _ | .cancel _ => false

/-- How often a waiter's task can be met before it is through. -/
def Future.work : Future → Nat
  | .pending => 3
  | .granted => 2
  | .revoked | .cancelled => 1

/-- How often the tasks of waiters can be met. -/
def waiting : List (τ × Future) → Nat
  | [] => 0
  | waiter :: rest => waiter.2.work + waiting rest

/-- How often the tasks that are there can be met before they are through. -/
def Room.work (room : Room τ) : Nat := waiting room.semaphore.waiters + room.inside.length

omit [DecidableEq τ] in
/-- The work of waiters, one of them apart. -/
theorem waiting_split (front back : List (τ × Future)) (waiter : τ × Future) :
    waiting (front ++ waiter :: back) = waiting (front ++ back) + waiter.2.work := by
  induction front with
  | nil => exact Nat.add_comm _ _
  | cons first front ih =>
    rw [List.cons_append, List.cons_append, waiting, waiting, ih, Nat.add_assoc]

omit [DecidableEq τ] in
/-- Waking makes no work. -/
theorem waiting_wakeUpNext (semaphore : Semaphore τ) :
    waiting semaphore.wakeUpNext.waiters ≤ waiting semaphore.waiters := by
  rcases semaphore.wakeUpNext_cases with ⟨-, same⟩ | ⟨front, task, back, split, -, woken⟩
  · exact Nat.le_of_eq (congrArg (fun semaphore => waiting semaphore.waiters) same)
  · rw [woken, split, waiting_split, waiting_split]
    simp only [Future.work]
    omega

namespace Room

variable {room after : Room τ} {event : Event τ} {bound : Nat}

/-- Whatever happens but that a task comes is work done. -/
theorem Step.work (step : room.Step event after) (still : event.arrives = false) :
    after.work < room.work := by
  unfold Room.work
  cases step with
  | wait fresh locked => cases still
  | enter fresh free => cases still
  | @giveUp value front back inside task =>
    dsimp only
    rw [waiting_split, waiting_split]
    simp only [Future.work]
    omega
  | @revoke value front back inside task =>
    dsimp only
    rw [waiting_split, waiting_split]
    simp only [Future.work]
    omega
  | @wake value front back inside task =>
    have less : waiting (Semaphore.waiters (if 0 < value then
        Semaphore.wakeUpNext ⟨value, front ++ back⟩ else ⟨value, front ++ back⟩)) ≤
          waiting (front ++ back) := by
      split
      · exact waiting_wakeUpNext _
      · exact Nat.le_refl _
    dsimp only
    rw [waiting_split, List.length_append, List.length_singleton]
    simp only [Future.work]
    omega
  | @giveBack value front back inside task =>
    have less := waiting_wakeUpNext (⟨value + 1, front ++ back⟩ : Semaphore τ)
    dsimp only at less ⊢
    rw [waiting_split]
    simp only [Future.work, Semaphore.release]
    omega
  | @drop value front back inside task =>
    dsimp only
    rw [waiting_split]
    simp only [Future.work]
    omega
  | @leave semaphore inside task member =>
    have less := waiting_wakeUpNext (⟨semaphore.value + 1, semaphore.waiters⟩ : Semaphore τ)
    have some := List.length_pos_of_mem member
    dsimp only at less ⊢
    rw [List.length_erase_of_mem member]
    simp only [Semaphore.release]
    omega

/-- A run in which no task comes is bounded by the work of those that are there. -/
theorem Sound.run_length {events : List (Event τ)} (sound : room.Sound bound)
    (ran : room.run events = some after) (still : ∀ event ∈ events, event.arrives = false) :
    events.length + after.work ≤ room.work := by
  induction events generalizing room with
  | nil =>
    obtain rfl := Option.some.inj ran
    exact Nat.le_of_eq (Nat.zero_add _)
  | cons event events ih =>
    obtain ⟨middle, next, rest⟩ := Option.bind_eq_some_iff.mp ran
    have less := (step_of_next sound.distinct next).work (still event List.mem_cons_self)
    have more := ih (sound.next next) rest fun other member =>
      still other (List.mem_cons_of_mem _ member)
    rw [List.length_cons]
    omega

/-- A waiter that is done is resumed. -/
theorem exists_resumed {task : τ} {future : Future} (distinct : room.tasks.Nodup)
    (member : (task, future) ∈ room.semaphore.waiters) (done : future ≠ .pending) :
    ∃ after, room.next (.resume task) = some after := by
  have waiting : (room.semaphore.waiters.map Prod.fst).Nodup := (List.nodup_append.mp distinct).1
  have found : room.semaphore.waiters.lookup task = some future := by
    obtain ⟨front, back, split⟩ := List.append_of_mem member
    rw [split, List.map_append, List.map_cons, List.nodup_append] at waiting
    rw [split, List.lookup_eq_some_iff]
    refine ⟨front, back, rfl, fun other among => ?_⟩
    rw [bne_iff_ne]
    intro same
    exact waiting.2.2 other.1 (List.mem_map_of_mem among) task List.mem_cons_self same.symm
  rw [Room.next]
  dsimp only
  rw [found]
  cases future with
  | pending => exact absurd rfl done
  | granted => exact ⟨_, rfl⟩
  | revoked => exact ⟨_, rfl⟩
  | cancelled => exact ⟨_, rfl⟩

/-- While tasks are there, one can be resumed or leave. -/
theorem Sound.progress (sound : room.Sound bound) (some : 0 < bound) (busy : room.tasks ≠ []) :
    ∃ event after, event.proceeds = true ∧ room.next event = .some after := by
  have resumes : (∃ waiter ∈ room.semaphore.waiters, waiter.2 ≠ .pending) →
      ∃ event after, event.proceeds = true ∧ room.next event = .some after := by
    rintro ⟨waiter, member, done⟩
    obtain ⟨after, next⟩ := exists_resumed sound.distinct member done
    exact ⟨.resume waiter.1, after, rfl, next⟩
  have leaves : room.inside ≠ [] →
      ∃ event after, event.proceeds = true ∧ room.next event = .some after := by
    intro held
    obtain ⟨task, rest, split⟩ := List.exists_cons_of_ne_nil held
    have member : task ∈ room.inside := split ▸ List.mem_cons_self
    exact ⟨.leave task, _, rfl, if_pos member⟩
  by_cases held : room.inside = []
  · by_cases done : ∃ waiter ∈ room.semaphore.waiters, waiter.2 ≠ .pending
    · exact resumes done
    · -- Everybody is pending, so all permits are held, though nobody holds one.
      have pending : ∀ waiter ∈ room.semaphore.waiters, waiter.2 = .pending := by
        intro waiter member
        by_contra other
        exact done ⟨waiter, member, other⟩
      have none : room.semaphore.granted = 0 := by
        refine List.countP_eq_zero.mpr fun waiter member => ?_
        rw [pending waiter member]
        exact Bool.false_ne_true
      have conserved := sound.conserved
      rw [none, held, List.length_nil] at conserved
      cases waiters : room.semaphore.waiters with
      | nil =>
        exact absurd (show room.tasks = [] by rw [tasks, waiters, held]; rfl) busy
      | cons waiter rest =>
        have first : waiter ∈ room.semaphore.waiters := waiters ▸ List.mem_cons_self
        rcases sound.served ⟨waiter, first, pending waiter first⟩ with zero | ⟨other, here, has⟩
        · omega
        · rw [pending other here] at has
          cases has
  · exact leaves held

omit [DecidableEq τ] in
/-- When no task is there all permits are free. -/
theorem Sound.drained (sound : room.Sound bound) (gone : room.tasks = []) :
    room = Room.fresh bound := by
  obtain ⟨⟨value, waiters⟩, inside⟩ := room
  obtain ⟨none, empty⟩ := List.append_eq_nil_iff.mp gone
  have conserved := sound.conserved
  rw [List.map_eq_nil_iff] at none
  subst none empty
  obtain rfl : value = bound := conserved
  rfl

end Room

end Asyncio
