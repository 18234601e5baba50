import Mathlib.Data.List.Basic
import Mathlib.Order.Lattice

/-!
# Reading a stream up to a limit

A stream gives some of the items it is asked for, at least one until its end; how many is its own
affair. A reader asks for a number of items at a time, and for no more than would exceed its limit by
one. So it takes one item too many at most, and tells a stream that is too long from one that has
ended exactly at the limit (`read_spec`).
-/

namespace Reading

variable {β ε : Type}

/-! ## The stream -/

/-- What a stream gives of its rest when it is asked for a number of items and would give some
number: at least one item, and everything when the number is negative. -/
def give (wish : Nat) (rest : List β) (asked : Int) : List β :=
  if asked < 0 then rest else rest.take (min asked.toNat (max 1 wish))

/-- A stream may give any number of items from one to as many as it is asked for. -/
theorem exists_give (rest : List β) {asked : Int} {size : Nat} (some : 0 < size)
    (within : (size : Int) ≤ asked) : ∃ wish, give wish rest asked = rest.take size := by
  have forward : ¬ asked < 0 := by omega
  have number : min asked.toNat (max 1 size) = size := by omega
  refine ⟨size, ?_⟩
  unfold give
  rw [if_neg forward, number]

section Give

variable {wish : Nat} {rest : List β} {asked : Int}

/-- A stream gives no more than it is asked for. -/
theorem length_give_le (positive : 0 < asked) : ((give wish rest asked).length : Int) ≤ asked := by
  have forward : ¬ asked < 0 := by omega
  unfold give
  rw [if_neg forward, List.length_take]
  omega

/-- A stream that gives nothing has ended. -/
theorem ended_of_give (positive : 0 < asked) (nothing : (give wish rest asked).length = 0) :
    rest = [] := by
  have forward : ¬ asked < 0 := by omega
  unfold give at nothing
  rw [if_neg forward, List.length_take] at nothing
  have none : rest.length = 0 := by omega
  exact List.eq_nil_of_length_eq_zero none

/-- What a stream gives comes off the front of what it holds. -/
theorem give_append (wish : Nat) (rest : List β) (asked : Int) :
    give wish rest asked ++ rest.drop (give wish rest asked).length = rest := by
  unfold give
  by_cases backward : asked < 0
  · rw [if_pos backward, List.drop_length, List.append_nil]
  · rw [if_neg backward]
    have size := List.length_take (i := min asked.toNat (max 1 wish)) (l := rest)
    by_cases short : rest.length ≤ min asked.toNat (max 1 wish)
    · rw [List.take_of_length_le short, List.drop_length, List.append_nil]
    · have own : (rest.take (min asked.toNat (max 1 wish))).length =
          min asked.toNat (max 1 wish) := by omega
      rw [own, List.take_append_drop]

/-- A stream gives any part of its front that is no longer than what it is asked for, and nothing
only at its end. -/
theorem gives_iff (positive : 0 < asked) {chunk : List β} :
    (∃ wish, give wish rest asked = chunk) ↔
      chunk <+: rest ∧ (chunk.length : Int) ≤ asked ∧ (chunk = [] → rest = []) := by
  constructor
  · rintro ⟨wish, rfl⟩
    refine ⟨⟨_, give_append wish rest asked⟩, length_give_le positive, fun nothing => ?_⟩
    exact ended_of_give positive (by rw [nothing, List.length_nil])
  · rintro ⟨front, within, ends⟩
    by_cases nothing : chunk = []
    · refine ⟨1, ?_⟩
      have whole := give_append 1 rest asked
      rw [ends nothing] at whole ⊢
      rw [nothing]
      exact (List.append_eq_nil_iff.mp whole).1
    · have some : 0 < chunk.length := List.length_pos_iff.mpr nothing
      obtain ⟨wish, gives⟩ := exists_give rest some within
      exact ⟨wish, gives.trans (List.prefix_iff_eq_take.mp front).symm⟩

end Give

/-! ## The reader -/

/-- Where a reader is. -/
structure State (β : Type) where
  chunks : List (List β)
  size : Nat
  /-- What the stream still holds. -/
  rest : List β
  /-- The numbers of items the stream was asked for, in order. -/
  requests : List Int

/-- A reader that has read nothing. -/
def State.initial (content : List β) : State β := ⟨[], 0, content, []⟩

/-- How many items a reader asks for: no more than fit, and one. -/
def request (most limit : Int) (size : Nat) : Int := min most (limit - size + 1)

/-- Read until the stream gives nothing or there are too many items, with a number of requests at
most. The stream would give a number of items for each request. -/
def read (most limit : Int) (tooLong : ε) (wishes : Nat → Nat) :
    Nat → State β → Option (Except ε (List β) × State β)
  | 0, _ => none
  | fuel + 1, state =>
    let asked := request most limit state.size
    let chunk := give (wishes state.requests.length) state.rest asked
    let size := state.size + chunk.length
    let rest := state.rest.drop chunk.length
    let requests := state.requests ++ [asked]
    if chunk.length = 0 then some (.ok state.chunks.flatten, ⟨state.chunks, size, rest, requests⟩)
    else if limit < size then some (.error tooLong, ⟨state.chunks, size, rest, requests⟩)
    else read most limit tooLong wishes fuel ⟨state.chunks ++ [chunk], size, rest, requests⟩

/-- What holds while a reader goes on. -/
structure Sound (limit : Int) (content : List β) (state : State β) : Prop where
  /-- What is read and what is left are the content. -/
  split : state.chunks.flatten ++ state.rest = content
  /-- The size is that of what is read. -/
  size : state.size = state.chunks.flatten.length
  /-- It is within the limit. -/
  within : (state.size : Int) ≤ limit
  /-- Every request was for some items. -/
  asked : ∀ number ∈ state.requests, 0 < number

/-- How reading ends. -/
structure Outcome (limit : Int) (content : List β) (tooLong : ε) (result : Except ε (List β))
    (final : State β) : Prop where
  /-- Every request was for some items. -/
  asked : ∀ number ∈ final.requests, 0 < number
  /-- One item more than the limit is taken at most. -/
  consumed : (content.length : Int) - final.rest.length ≤ limit + 1
  /-- A content within the limit is returned. -/
  whole : (content.length : Int) ≤ limit → result = .ok content
  /-- A longer one is an exception. -/
  longer : limit < content.length → result = .error tooLong

section Read

variable {most limit : Int} {tooLong : ε} {wishes : Nat → Nat} {content : List β} {state : State β}

/-- A reader within its limit asks for some items, and for no more than exceed it by one. -/
theorem request_bounds (positive : 0 < most) (within : (state.size : Int) ≤ limit) :
    0 < request most limit state.size ∧ request most limit state.size + state.size ≤ limit + 1 := by
  unfold request
  omega

/-- With one more request for some items, every request was for some. -/
theorem Sound.requests (sound : Sound limit content state) {asked : Int} (positive : 0 < asked) :
    ∀ number ∈ state.requests ++ [asked], 0 < number := by
  intro number member
  rcases List.mem_append.mp member with earlier | last
  · exact sound.asked number earlier
  · rw [List.mem_singleton.mp last]
    exact positive

/-- What is read and what is left have the length of the content. -/
theorem Sound.length (sound : Sound limit content state) :
    state.size + state.rest.length = content.length := by
  rw [sound.size, ← List.length_append, sound.split]

section Step

variable {asked : Int} {chunk : List β}

/-- At the end of the stream the reader has read the content. -/
theorem Sound.ended (sound : Sound limit content state) (positive : 0 < asked)
    (ended : state.rest = []) (size : Nat) (tooLong : ε) :
    Outcome limit content tooLong (.ok state.chunks.flatten)
      ⟨state.chunks, size, state.rest.drop chunk.length, state.requests ++ [asked]⟩ := by
  have all : state.chunks.flatten = content := by
    rw [← sound.split, ended, List.append_nil]
  have whole := sound.length
  have within := sound.within
  have none : state.rest.length = 0 := by rw [ended]; rfl
  refine ⟨sound.requests positive, ?_, ?_, ?_⟩
  · show (content.length : Int) - (state.rest.drop chunk.length).length ≤ limit + 1
    omega
  · intro _
    rw [all]
  · intro long
    omega

/-- A chunk that goes beyond the limit does so by one item. -/
theorem Sound.overrun (sound : Sound limit content state)
    (bounds : 0 < asked ∧ asked + state.size ≤ limit + 1) (few : (chunk.length : Int) ≤ asked)
    (front : chunk ++ state.rest.drop chunk.length = state.rest)
    (large : limit < ((state.size + chunk.length : Nat) : Int)) (size : Nat) (tooLong : ε) :
    Outcome limit content tooLong (.error tooLong)
      ⟨state.chunks, size, state.rest.drop chunk.length, state.requests ++ [asked]⟩ := by
  have whole := sound.length
  have length : chunk.length + (state.rest.drop chunk.length).length = state.rest.length := by
    rw [← List.length_append, front]
  refine ⟨sound.requests bounds.1, ?_, ?_, ?_⟩
  · show (content.length : Int) - (state.rest.drop chunk.length).length ≤ limit + 1
    omega
  · intro small
    omega
  · intro _
    rfl

/-- A chunk within the limit is read. -/
theorem Sound.next (sound : Sound limit content state) (positive : 0 < asked)
    (front : chunk ++ state.rest.drop chunk.length = state.rest)
    (small : ¬ limit < ((state.size + chunk.length : Nat) : Int)) :
    Sound limit content ⟨state.chunks ++ [chunk], state.size + chunk.length,
      state.rest.drop chunk.length, state.requests ++ [asked]⟩ := by
  refine ⟨?_, ?_, ?_, sound.requests positive⟩
  · show (state.chunks ++ [chunk]).flatten ++ state.rest.drop chunk.length = content
    rw [List.flatten_append, List.flatten_singleton, List.append_assoc, front, sound.split]
  · show state.size + chunk.length = (state.chunks ++ [chunk]).flatten.length
    rw [List.flatten_append, List.flatten_singleton, List.length_append, sound.size]
  · show ((state.size + chunk.length : Nat) : Int) ≤ limit
    omega

end Step

/-- From a sound state reading ends, with as many requests as the stream holds items, and one. -/
theorem read_ends (positive : 0 < most) {fuel : Nat} (sound : Sound limit content state)
    (enough : state.rest.length < fuel) :
    ∃ result final, read most limit tooLong wishes fuel state = some (result, final) ∧
      Outcome limit content tooLong result final := by
  induction fuel generalizing state with
  | zero => omega
  | succ fuel ih =>
    let asked := request most limit state.size
    let chunk := give (wishes state.requests.length) state.rest asked
    have bounds : 0 < asked ∧ asked + state.size ≤ limit + 1 :=
      request_bounds positive sound.within
    have few : (chunk.length : Int) ≤ asked := length_give_le bounds.1
    have front : chunk ++ state.rest.drop chunk.length = state.rest := give_append _ _ _
    unfold read
    by_cases nothing : chunk.length = 0
    · have ended : state.rest = [] := ended_of_give bounds.1 nothing
      exact ⟨_, _, if_pos nothing, sound.ended bounds.1 ended _ _⟩
    · by_cases large : limit < ((state.size + chunk.length : Nat) : Int)
      · exact ⟨_, _, (if_neg nothing).trans (if_pos large),
          sound.overrun bounds few front large _ _⟩
      · have length := congrArg List.length front
        rw [List.length_append] at length
        obtain ⟨result, final, reads, outcome⟩ := ih (sound.next bounds.1 front large) (by
          show (state.rest.drop chunk.length).length < fuel
          omega)
        exact ⟨result, final, (if_neg nothing).trans ((if_neg large).trans reads), outcome⟩

/-- Reading a stream ends with its content, or with an exception exactly when it is longer than the
limit. -/
theorem read_spec (positive : 0 < most) (limited : 0 ≤ limit) (tooLong : ε) (wishes : Nat → Nat)
    (content : List β) :
    ∃ result final, read most limit tooLong wishes (content.length + 1) (.initial content) =
        some (result, final) ∧ Outcome limit content tooLong result final := by
  have sound : Sound limit content (.initial content) :=
    ⟨rfl, rfl, limited, fun number member => by cases member⟩
  exact read_ends positive sound (Nat.lt_succ_self _)

end Read

end Reading
