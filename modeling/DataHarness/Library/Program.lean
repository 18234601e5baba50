import Mathlib.Data.List.Induction

/-!
# Programs that call on what surrounds them

A program ends with a value or an exception, or makes a call and goes on with the reply. A
coroutine written this way can be stopped between any two calls, so one definition serves a
sequential run and every interleaving.

Three ways of reasoning are provided. `Makes` bounds the calls a program may ever make.
`Follows` is a weakest precondition against a `Protocol`: a local state that permits calls
and changes with each reply. `Trace` lists the calls of one run; a program that follows the
protocol of its own history makes every call with what it had seen before
(`Follows.history`).
-/

namespace Effect

/-- The calls a program may make, and the type of the reply to each. -/
structure Signature where
  /-- The calls. -/
  Op : Type
  /-- The reply to a call. -/
  Reply : Op → Type

/-- A call with the reply it was given. -/
abbrev Signature.Event (S : Signature) : Type := (op : S.Op) × S.Reply op

/-- A program over a signature, with its exceptions and its result. -/
inductive Program (S : Signature) (ε α : Type) : Type
  | ret (value : α)
  | raise (error : ε)
  | call (op : S.Op) (next : S.Reply op → Program S ε α)

variable {S : Signature} {ε α β : Type}

namespace Program

/-- Run a program and go on with its value. -/
def bind : Program S ε α → (α → Program S ε β) → Program S ε β
  | ret value, rest => rest value
  | raise error, _ => raise error
  | call op next, rest => call op fun reply => (next reply).bind rest

/-- `try`: run a program and return its outcome, when the exception is one to catch. -/
def attempt (catches : ε → Bool) : Program S ε α → Program S ε (Except ε α)
  | ret value => ret (.ok value)
  | raise error => if catches error then ret (.error error) else raise error
  | call op next => call op fun reply => (next reply).attempt catches

instance : Monad (Program S ε) where
  pure := ret
  bind := bind

/-- Make one call and return its reply. -/
def perform (op : S.Op) : Program S ε (S.Reply op) := call op ret

/-- Return the value of an outcome or raise its exception. -/
def ofExcept : Except ε α → Program S ε α
  | .ok value => ret value
  | .error error => raise error

/-- The sequence of the monad is `bind`. -/
@[simp] theorem bind_eq (program : Program S ε α) (rest : α → Program S ε β) :
    program >>= rest = program.bind rest := rfl

/-- The value of the monad is `ret`. -/
@[simp] theorem pure_eq (value : α) : (pure value : Program S ε α) = ret value := rfl

/-- A value is handed on. -/
@[simp] theorem ret_bind (value : α) (rest : α → Program S ε β) :
    (ret value).bind rest = rest value := rfl

/-- An exception ends the sequence. -/
@[simp] theorem raise_bind (error : ε) (rest : α → Program S ε β) :
    (raise error).bind rest = raise error := rfl

/-- A call comes first in a sequence. -/
@[simp] theorem call_bind (op : S.Op) (next : S.Reply op → Program S ε α)
    (rest : α → Program S ε β) :
    (call op next).bind rest = call op fun reply => (next reply).bind rest := rfl

/-! ## The calls a program may make -/

/-- Every call the program makes, whatever the replies, is among the allowed ones. -/
def Makes (allowed : S.Op → Prop) : Program S ε α → Prop
  | ret _ => True
  | raise _ => True
  | call op next => allowed op ∧ ∀ reply, (next reply).Makes allowed

variable {allowed : S.Op → Prop}

/-- A value makes no call. -/
@[simp] theorem makes_ret (value : α) : (ret value : Program S ε α).Makes allowed := trivial

/-- An exception makes no call. -/
@[simp] theorem makes_raise (error : ε) : (raise error : Program S ε α).Makes allowed := trivial

/-- A call is made, and then those of what goes on with its reply. -/
@[simp] theorem makes_call (op : S.Op) (next : S.Reply op → Program S ε α) :
    (call op next).Makes allowed ↔ allowed op ∧ ∀ reply, (next reply).Makes allowed := Iff.rfl

/-- A single call is the only one made. -/
@[simp] theorem makes_perform (op : S.Op) :
    (perform op : Program S ε _).Makes allowed ↔ allowed op := by
  simp [perform]

/-- An outcome makes no call. -/
@[simp] theorem makes_ofExcept (outcome : Except ε α) :
    (ofExcept outcome : Program S ε α).Makes allowed := by
  cases outcome <;> trivial

/-- Allowing more calls keeps a program within them. -/
theorem Makes.mono {more : S.Op → Prop} {program : Program S ε α}
    (makes : program.Makes allowed) (wider : ∀ op, allowed op → more op) :
    program.Makes more := by
  induction program with
  | ret value => trivial
  | raise error => trivial
  | call op next ih => exact ⟨wider op makes.1, fun reply => ih reply (makes.2 reply)⟩

/-- Programs in order make the calls of both. -/
theorem Makes.bind {program : Program S ε α} {rest : α → Program S ε β}
    (first : program.Makes allowed) (second : ∀ value, (rest value).Makes allowed) :
    (program.bind rest).Makes allowed := by
  induction program with
  | ret value => exact second value
  | raise error => trivial
  | call op next ih => exact ⟨first.1, fun reply => ih reply (first.2 reply)⟩

/-- An attempted program makes its own calls. -/
theorem Makes.attempt {program : Program S ε α} {catches : ε → Bool}
    (body : program.Makes allowed) : (program.attempt catches).Makes allowed := by
  induction program with
  | ret value => trivial
  | raise error =>
    simp only [Program.attempt]
    split <;> trivial
  | call op next ih => exact ⟨body.1, fun reply => ih reply (body.2 reply)⟩

end Program

/-! ## Protocols -/

/-- A local state that permits calls, knows what replies they can have, and changes with
each reply. -/
structure Protocol (S : Signature) (τ : Type) where
  /-- The calls permitted in a state. -/
  may : τ → S.Op → Prop
  /-- The replies a permitted call can have. -/
  can : (op : S.Op) → S.Reply op → Prop
  /-- The state after a reply. -/
  next : τ → (op : S.Op) → S.Reply op → τ

variable {τ : Type} {protocol : Protocol S τ}

namespace Program

/-- The program makes only permitted calls from a local state, and ends with an outcome and
a local state that satisfy the postcondition. -/
def Follows (protocol : Protocol S τ) (state : τ) :
    Program S ε α → (Except ε α → τ → Prop) → Prop
  | ret value, post => post (.ok value) state
  | raise error, post => post (.error error) state
  | call op next, post => protocol.may state op ∧
      ∀ reply, protocol.can op reply → (next reply).Follows protocol (protocol.next state op reply) post

/-- A value has to meet the postcondition where it is returned. -/
@[simp] theorem follows_ret (state : τ) (value : α) (post : Except ε α → τ → Prop) :
    (ret value : Program S ε α).Follows protocol state post ↔ post (.ok value) state := Iff.rfl

/-- An exception has to meet the postcondition where it is raised. -/
@[simp] theorem follows_raise (state : τ) (error : ε) (post : Except ε α → τ → Prop) :
    (raise error : Program S ε α).Follows protocol state post ↔ post (.error error) state :=
  Iff.rfl

/-- A call has to be permitted, and the rest to follow after each reply it can have. -/
@[simp] theorem follows_call (state : τ) (op : S.Op) (next : S.Reply op → Program S ε α)
    (post : Except ε α → τ → Prop) :
    (call op next).Follows protocol state post ↔ protocol.may state op ∧
      ∀ reply, protocol.can op reply →
        (next reply).Follows protocol (protocol.next state op reply) post := Iff.rfl

/-- Returning or raising an outcome ends with it. -/
theorem follows_ofExcept (state : τ) (outcome : Except ε α) :
    (ofExcept outcome).Follows protocol state fun ended final => ended = outcome ∧ final = state := by
  cases outcome <;> exact ⟨rfl, rfl⟩

/-- A weaker postcondition is followed as well. -/
theorem Follows.mono {state : τ} {program : Program S ε α} {post weaker : Except ε α → τ → Prop}
    (follows : program.Follows protocol state post)
    (implied : ∀ outcome final, post outcome final → weaker outcome final) :
    program.Follows protocol state weaker := by
  induction program generalizing state with
  | ret value => exact implied _ _ follows
  | raise error => exact implied _ _ follows
  | call op next ih =>
    exact ⟨follows.1, fun reply possible => ih reply (follows.2 reply possible)⟩

/-- The sequencing rule. -/
theorem Follows.bind {state : τ} {program : Program S ε α} {rest : α → Program S ε β}
    {middle : Except ε α → τ → Prop} {post : Except ε β → τ → Prop}
    (first : program.Follows protocol state middle)
    (value : ∀ v final, middle (.ok v) final → (rest v).Follows protocol final post)
    (error : ∀ e final, middle (.error e) final → post (.error e) final) :
    (program.bind rest).Follows protocol state post := by
  induction program generalizing state with
  | ret v => exact value v state first
  | raise e => exact error e state first
  | call op next ih =>
    exact ⟨first.1, fun reply possible => ih reply (first.2 reply possible)⟩

/-- The sequencing rule when nothing is asked of where a program ends. -/
theorem Follows.bind_any {state : τ} {program : Program S ε α} {rest : α → Program S ε β}
    (first : program.Follows protocol state fun _ _ => True)
    (value : ∀ v final, (rest v).Follows protocol final fun _ _ => True) :
    (program.bind rest).Follows protocol state fun _ _ => True :=
  first.bind (fun v final _ => value v final) fun _ _ _ => trivial

/-- The rule of `try`. -/
theorem Follows.attempt {state : τ} {program : Program S ε α} {catches : ε → Bool}
    {middle : Except ε α → τ → Prop} {post : Except ε (Except ε α) → τ → Prop}
    (body : program.Follows protocol state middle)
    (caught : ∀ outcome final, middle outcome final → post (.ok outcome) final)
    (uncaught : ∀ error final, middle (.error error) final → post (.error error) final) :
    (program.attempt catches).Follows protocol state post := by
  induction program generalizing state with
  | ret v => exact caught _ state body
  | raise e =>
    simp only [Program.attempt]
    split
    · exact caught _ state body
    · exact uncaught e state body
  | call op next ih =>
    exact ⟨body.1, fun reply possible => ih reply (body.2 reply possible)⟩

/-- What holds of a local state, permits the allowed calls and is kept by them holds where a
program within them ends. -/
theorem Makes.follows_keeping {allowed : S.Op → Prop} {holds : τ → Prop} {state : τ}
    {program : Program S ε α} (makes : program.Makes allowed) (start : holds state)
    (permitted : ∀ state op, holds state → allowed op → protocol.may state op)
    (keeps : ∀ state op reply, holds state → allowed op → holds (protocol.next state op reply)) :
    program.Follows protocol state fun _ final => holds final := by
  induction program generalizing state with
  | ret value => exact start
  | raise error => exact start
  | call op next ih =>
    exact ⟨permitted state op start makes.1, fun reply _ =>
      ih reply (makes.2 reply) (keeps state op reply start makes.1)⟩

/-- A program whose calls are all permitted in a state and leave it as it is ends in it. -/
theorem Makes.follows {allowed : S.Op → Prop} {state : τ} {program : Program S ε α}
    (makes : program.Makes allowed) (permitted : ∀ op, allowed op → protocol.may state op)
    (neutral : ∀ op reply, allowed op → protocol.next state op reply = state) :
    program.Follows protocol state fun _ final => final = state := by
  refine makes.follows_keeping rfl ?_ ?_
  · rintro _ op rfl
    exact permitted op
  · rintro _ op reply rfl
    exact neutral op reply

/-- A program whose calls are permitted in every state ends somewhere. -/
theorem Makes.follows_any {allowed : S.Op → Prop} {program : Program S ε α}
    (makes : program.Makes allowed)
    (permitted : ∀ op, allowed op → ∀ state, protocol.may state op) (state : τ) :
    program.Follows protocol state fun _ _ => True :=
  makes.follows_keeping trivial (fun state op _ within => permitted op within state)
    fun _ _ _ _ _ => trivial

/-! ## Traces -/

/-- The calls of one run of a program, and the program that is left. -/
inductive Trace : Program S ε α → List S.Event → Program S ε α → Prop
  | nil (program : Program S ε α) : Trace program [] program
  | cons {op : S.Op} {next : S.Reply op → Program S ε α} {reply : S.Reply op}
      {events : List S.Event} {left : Program S ε α} :
    Trace (next reply) events left → Trace (call op next) (⟨op, reply⟩ :: events) left

/-- A trace goes on with the call the program that is left makes. -/
theorem Trace.snoc {program : Program S ε α} {events : List S.Event} {op : S.Op}
    {next : S.Reply op → Program S ε α} (trace : Trace program events (call op next))
    (reply : S.Reply op) : Trace program (events ++ [⟨op, reply⟩]) (next reply) := by
  generalize same : call op next = left at trace
  induction trace with
  | nil =>
    subst same
    exact .cons (.nil _)
  | cons _ ih => exact .cons (ih same)

/-- A trace of programs in order ends inside the first one, or runs it to a value and goes on
with the second. -/
theorem Trace.of_bind {program : Program S ε α} {rest : α → Program S ε β}
    {events : List S.Event} {left : Program S ε β} (trace : Trace (program.bind rest) events left) :
    (∃ inner, Trace program events inner ∧ left = inner.bind rest) ∨
      ∃ before after value, events = before ++ after ∧ Trace program before (ret value) ∧
        Trace (rest value) after left := by
  induction program generalizing events with
  | ret value => exact .inr ⟨[], events, value, rfl, .nil _, trace⟩
  | raise error =>
    cases trace
    exact .inl ⟨_, .nil _, rfl⟩
  | call op next ih =>
    cases trace with
    | nil => exact .inl ⟨_, .nil _, rfl⟩
    | @cons _ _ reply later _ tail =>
      rcases ih reply tail with ⟨inner, ran, rfl⟩ | ⟨before, after, value, rfl, ran, tail⟩
      · exact .inl ⟨inner, ran.cons, rfl⟩
      · exact .inr ⟨_ :: before, after, value, rfl, ran.cons, tail⟩

/-- A program within its allowed calls makes only those. -/
theorem Makes.trace {allowed : S.Op → Prop} {program left : Program S ε α}
    {events : List S.Event} (makes : program.Makes allowed) (trace : Trace program events left) :
    ∀ event ∈ events, allowed event.1 := by
  induction trace with
  | nil => simp
  | cons _ ih =>
    intro event member
    rcases List.mem_cons.mp member with rfl | member
    · exact makes.1
    · exact ih (makes.2 _) event member

/-- The last call of a trace of programs in order, when the first one never makes it, is made by
the second. -/
theorem Trace.last_second {allowed : S.Op → Prop} {program : Program S ε α}
    {rest : α → Program S ε β} {events : List S.Event} {event : S.Event} {left : Program S ε β}
    (makes : program.Makes allowed) (other : ¬ allowed event.1)
    (trace : Trace (program.bind rest) (events ++ [event]) left) :
    ∃ before after value, events = before ++ after ∧ Trace program before (ret value) ∧
      Trace (rest value) (after ++ [event]) left := by
  rcases trace.of_bind with ⟨inner, ran, -⟩ | ⟨before, after, value, same, ran, tail⟩
  · exact absurd (makes.trace ran event (by simp)) other
  · rcases List.eq_nil_or_concat after with rfl | ⟨earlier, last, rfl⟩
    · rw [List.append_nil] at same
      exact absurd (makes.trace ran event (by simp [← same])) other
    · rw [List.concat_eq_append, ← List.append_assoc] at same
      obtain ⟨rfl, single⟩ := List.append_inj' same rfl
      obtain rfl := List.head_eq_of_cons_eq single
      exact ⟨before, earlier, value, rfl, ran, by simpa using tail⟩

/-- The last call of a trace of programs in order, when the second one never makes it, is made
by the first. -/
theorem Trace.last_first {allowed : S.Op → Prop} {program : Program S ε α}
    {rest : α → Program S ε β} {events : List S.Event} {event : S.Event} {left : Program S ε β}
    (makes : ∀ value, (rest value).Makes allowed) (other : ¬ allowed event.1)
    (trace : Trace (program.bind rest) (events ++ [event]) left) :
    ∃ inner, Trace program (events ++ [event]) inner := by
  rcases trace.of_bind with ⟨inner, ran, -⟩ | ⟨before, after, value, same, ran, tail⟩
  · exact ⟨inner, ran⟩
  · rcases List.eq_nil_or_concat after with rfl | ⟨earlier, last, rfl⟩
    · rw [List.append_nil] at same
      exact ⟨_, same ▸ ran⟩
    · rw [List.concat_eq_append, ← List.append_assoc] at same
      obtain ⟨-, single⟩ := List.append_inj' same rfl
      obtain rfl := List.head_eq_of_cons_eq single
      exact absurd ((makes value).trace tail event (by simp)) other

end Program

/-- The local state after some calls. -/
def Protocol.after (protocol : Protocol S τ) (state : τ) (events : List S.Event) : τ :=
  events.foldl (fun state event => protocol.next state event.1 event.2) state

/-- One more call moves the local state once more. -/
theorem Protocol.after_snoc (protocol : Protocol S τ) (state : τ) (events : List S.Event)
    (event : S.Event) : protocol.after state (events ++ [event]) =
      protocol.next (protocol.after state events) event.1 event.2 := by
  simp [Protocol.after]

/-- Every call is made in a local state that permits it. -/
def Protocol.Permits (protocol : Protocol S τ) (state : τ) (events : List S.Event) : Prop :=
  ∀ before event after, events = before ++ event :: after →
    protocol.may (protocol.after state before) event.1

/-- The first calls are permitted as well. -/
theorem Protocol.Permits.of_append {state : τ} {first second : List S.Event}
    (permitted : protocol.Permits state (first ++ second)) : protocol.Permits state first := by
  rintro before event after rfl
  exact permitted before event (after ++ second) (by simp)

/-- What holds before some permitted calls and is kept by each of them holds after them. -/
theorem Protocol.Permits.invariant {state : τ} {events : List S.Event}
    (permitted : protocol.Permits state events) (holds : List S.Event → τ → Prop)
    (start : holds [] state)
    (keeps : ∀ past state event, holds past state → protocol.may state event.1 →
      holds (past ++ [event]) (protocol.next state event.1 event.2)) :
    holds events (protocol.after state events) := by
  induction events using List.reverseRecOn with
  | nil => exact start
  | append_singleton events event ih =>
    rw [Protocol.after_snoc]
    exact keeps events _ event (ih permitted.of_append) (permitted events event [] rfl)

/-- A program that follows a protocol makes every call of a trace, whose replies are possible, in a
local state that permits it, and what is left follows the protocol. -/
theorem Program.Follows.trace {state : τ} {program left : Program S ε α}
    {post : Except ε α → τ → Prop} {events : List S.Event}
    (follows : program.Follows protocol state post) (trace : Program.Trace program events left)
    (possible : ∀ event ∈ events, protocol.can event.1 event.2) :
    protocol.Permits state events ∧ left.Follows protocol (protocol.after state events) post := by
  induction trace generalizing state with
  | nil => exact ⟨fun _ _ _ same => by simp at same, follows⟩
  | @cons op next reply later left tail ih =>
    have first : protocol.can op reply := possible ⟨op, reply⟩ (by simp)
    obtain ⟨permitted, onward⟩ := ih (follows.2 reply first) fun event member =>
      possible event (List.mem_cons_of_mem _ member)
    refine ⟨?_, onward⟩
    intro before event after same
    cases before with
    | nil =>
      obtain ⟨rfl, -⟩ := List.cons.inj same
      exact follows.1
    | cons front before =>
      obtain ⟨rfl, rest⟩ := List.cons.inj same
      exact permitted before event after rest

/-- The protocol whose state is the history of calls, each permitted by what came before. -/
def Protocol.history (permits : List S.Event → S.Op → Prop) : Protocol S (List S.Event) where
  may := permits
  can _ _ := True
  next past op reply := past ++ [⟨op, reply⟩]

/-- One call adds itself to the history. -/
theorem Program.perform_history {permits : List S.Event → S.Op → Prop} {past : List S.Event}
    {op : S.Op} (permitted : permits past op) :
    (Program.perform op : Program S ε _).Follows (Protocol.history permits) past fun ended final =>
      ∃ reply, ended = .ok reply ∧ final = past ++ [⟨op, reply⟩] :=
  ⟨permitted, fun reply _ => ⟨reply, rfl, rfl⟩⟩

/-- A program whose calls are permitted after every history adds to the one it starts from. -/
theorem Program.Makes.follows_history {permits : List S.Event → S.Op → Prop}
    {allowed : S.Op → Prop} {program : Program S ε α} (makes : program.Makes allowed)
    (permitted : ∀ past op, allowed op → permits past op) (past : List S.Event) :
    program.Follows (Protocol.history permits) past fun _ final => past <+: final :=
  makes.follows_keeping (List.prefix_refl past) (fun final op _ within => permitted final op within)
    fun _ _ _ grown _ => grown.trans (List.prefix_append _ _)

/-- The history after some calls has them at its end. -/
@[simp] theorem Protocol.history_after (permits : List S.Event → S.Op → Prop)
    (past events : List S.Event) : (Protocol.history permits).after past events = past ++ events := by
  induction events generalizing past with
  | nil => simp [Protocol.after]
  | cons event events ih =>
    have tail := ih (past ++ [event])
    simpa [Protocol.after, Protocol.history] using tail

/-- A program that follows the protocol of its history makes every call with what it had seen
before, and its postcondition holds of the history it ends with. -/
theorem Program.Follows.history {permits : List S.Event → S.Op → Prop} {past : List S.Event}
    {program left : Program S ε α} {post : Except ε α → List S.Event → Prop}
    {events : List S.Event}
    (follows : program.Follows (Protocol.history permits) past post)
    (trace : Program.Trace program events left) :
    (∀ before event after, events = before ++ event :: after →
        permits (past ++ before) event.1) ∧
      left.Follows (Protocol.history permits) (past ++ events) post := by
  have all := follows.trace trace fun _ _ => trivial
  simp only [Protocol.Permits, Protocol.history_after] at all
  exact all

end Effect
