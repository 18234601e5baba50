import DataHarness.Library.Transition
import DataHarness.Live.Mutation

/-!
# Concurrent calls with one request

Any number of calls of `mutate` run their statements against the same tables, each statement on the
rows that are committed when it runs. An update waits while another call has an uncommitted one, and
then sees what that call committed.

The order changes once at most in every run (`changes_le_one`). A call that found no key may still
run its update after another call has committed the change; it then reports that the order is not as
expected, although the request was applied. In runs without such an update every call that returns
after the change reports success (`mutate_idempotent`).
-/

namespace DataHarness

namespace PostgreSQLLiveConnector

open Transition

/-! ## Calls -/

/-- Where a call of `mutate` is. -/
inductive Phase
  | ready
  | connected
  /-- The lookup found no key. -/
  | absent
  /-- The update found no order as expected. -/
  | missed
  /-- The order is updated, and the key not inserted yet. -/
  | updated (order : ServiceOrder)
  /-- The answer stands, and the transaction is not committed yet. -/
  | closing (reply : MutationReply) (written : Option Written)
  /-- The transaction is committed. -/
  | leaving (reply : MutationReply)
  | ended (answer : Except MutationError MutationReply)

namespace Phase

/-- The row a call has updated and not committed. -/
def pending : Phase → Option ServiceOrder
  | .updated order => some order
  | .closing _ (some (order, _)) => some order
  | _ => none

/-- A call holds the lock on the row of its key, which `FOR UPDATE` takes when there is one. -/
def locking : Phase → Bool
  | .closing reply none => reply.replayed
  | _ => false

/-- A call has not ended. -/
def running : Phase → Bool
  | .ended _ => false
  | _ => true

/-- A call is about to report that it failed. -/
def failing : Phase → Bool
  | .missed => true
  | .closing reply _ => !reply.success
  | .leaving reply => !reply.success
  | _ => false

end Phase

/-- What a call does in one step. -/
inductive CallStatement
  | check
  | lookup
  | update
  | current
  | insert
  | commit (written : Option Written)
  | raised
  | returned (reply : MutationReply)

/-- A statement commits a change of the order. -/
def CallStatement.changes : CallStatement → Bool
  | .commit (some _) => true
  | _ => false

variable {ι : Type}

/-- The committed tables and the calls. -/
structure Source (ι : Type) where
  tables : Tables
  phase : ι → Phase

/-- The tables before the first call. -/
def Source.initial (tables : Tables) : Source ι := ⟨tables, fun _ => .ready⟩

/-- How often a run changes the order. -/
def changes (labels : List (ι × CallStatement)) : Nat := labels.countP fun label => label.2.changes

/-- The key of a mutation is bound to its request. -/
def Mutation.bound (mutation : Mutation) (tables : Tables) : Bool :=
  match tables.idempotency mutation.idempotencyKey with
  | some row => decide (row.requestDigest = mutation.requestDigest)
  | none => false

variable [DecidableEq ι]

/-- One call goes on to a phase. -/
def Source.move (source : Source ι) (call : ι) (phase : Phase) : Source ι :=
  ⟨source.tables, fun other => if other = call then phase else source.phase other⟩

section Steps

variable [Psycopg]

/-- A statement of a call whose request passed its checks. Every one of them may raise instead, and
takes back what the transaction has written. -/
inductive Step (mutation : Mutation) (source : Source ι) : ι × CallStatement → Source ι → Prop
  | check {call : ι} : source.phase call = .ready →
    Step mutation source (call, .check) (source.move call .connected)
  | absent {call : ι} : source.phase call = .connected →
    lookup mutation (source.tables.idempotency mutation.idempotencyKey) = .absent →
    Step mutation source (call, .lookup) (source.move call .absent)
  | conflict {call : ι} {error : MutationError} : source.phase call = .connected →
    lookup mutation (source.tables.idempotency mutation.idempotencyKey) = .conflict error →
    (∀ other, (source.phase other).locking = false) →
    Step mutation source (call, .lookup) (source.move call (.ended (.error error)))
  | replay {call : ι} {reply : MutationReply} : source.phase call = .connected →
    lookup mutation (source.tables.idempotency mutation.idempotencyKey) = .replay reply →
    (∀ other, (source.phase other).locking = false) →
    Step mutation source (call, .lookup) (source.move call (.closing reply none))
  | reject {call : ι} {error : MutationError} : source.phase call = .absent →
    update mutation (source.tables.serviceOrders mutation.serviceOrderId) = .error error →
    Step mutation source (call, .update) (source.move call (.ended (.error error)))
  | miss {call : ι} : source.phase call = .absent →
    update mutation (source.tables.serviceOrders mutation.serviceOrderId) = .ok none →
    Step mutation source (call, .update) (source.move call .missed)
  | write {call : ι} {order : ServiceOrder} : source.phase call = .absent →
    update mutation (source.tables.serviceOrders mutation.serviceOrderId) = .ok (some order) →
    (∀ other, (source.phase other).pending = none) →
    Step mutation source (call, .update) (source.move call (.updated order))
  | current {call : ι} : source.phase call = .missed →
    Step mutation source (call, .current) (source.move call
      (.closing (stale (source.tables.serviceOrders mutation.serviceOrderId)) none))
  | insert {call : ι} {order : ServiceOrder} : source.phase call = .updated order →
    source.tables.idempotency mutation.idempotencyKey = none →
    Step mutation source (call, .insert) (source.move call
      (.closing (applied mutation order) (some (order, inserted mutation order))))
  | duplicate {call : ι} {order : ServiceOrder} {row : IdempotencyRow} :
    source.phase call = .updated order →
    source.tables.idempotency mutation.idempotencyKey = some row →
    Step mutation source (call, .insert) (source.move call
      (.ended (.error (.other "duplicate key value violates unique constraint"))))
  | commit {call : ι} {reply : MutationReply} {written : Option Written} :
    source.phase call = .closing reply written →
    Step mutation source (call, .commit written)
      ⟨source.tables.commit mutation written, (source.move call (.leaving reply)).phase⟩
  | raised {call : ι} {error : MutationError} : (source.phase call).running = true →
    Step mutation source (call, .raised) (source.move call (.ended (.error error)))
  | returned {call : ι} {reply : MutationReply} : source.phase call = .leaving reply →
    Step mutation source (call, .returned reply) (source.move call (.ended (.ok reply)))

/-- A call whose request fails its checks raises. -/
inductive Refusal (error : MutationError) (source : Source ι) : ι × CallStatement → Source ι → Prop
  | check {call : ι} : source.phase call = .ready →
    Refusal error source (call, .check) (source.move call (.ended (.error error)))

/-- The transactions of calls whose request passed its checks. -/
def transactions (mutation : Mutation) : System (Source ι) (ι × CallStatement) := ⟨Step mutation⟩

/-- The calls of `mutate` with one request. -/
def calls [Stdlib] [ValueText] (request : List (String × Json.Value)) :
    System (Source ι) (ι × CallStatement) :=
  match checkMutation request with
  | .error error => ⟨Refusal error⟩
  | .ok mutation => transactions mutation

/-! ## What a step can do -/

omit [Psycopg] in
/-- The phase of a call that moved. -/
@[simp] theorem Source.move_self (source : Source ι) (call : ι) (phase : Phase) :
    (source.move call phase).phase call = phase := if_pos rfl

omit [Psycopg] in
/-- The phases of the other calls. -/
theorem Source.move_other (source : Source ι) {call other : ι} (different : other ≠ call)
    (phase : Phase) : (source.move call phase).phase other = source.phase other := if_neg different

/-- A phase a call may go on to without an update of its own. -/
structure Keeps (mutation : Mutation) (former phase : Phase) : Prop where
  /-- A pending row was pending before. -/
  pending : ∀ order, phase.pending = some order → former.pending = some order
  /-- The row of the key has the digest of the request. -/
  row : ∀ reply order row, phase = .closing reply (some (order, row)) →
    row.requestDigest = mutation.requestDigest

omit [DecidableEq ι] [Psycopg] in
/-- A phase without a pending row may always come next. -/
theorem Keeps.quiet {mutation : Mutation} {former phase : Phase} (nothing : phase.pending = none) :
    Keeps mutation former phase where
  pending order some := by
    rw [nothing] at some
    cases some
  row reply order row same := by
    rw [same] at nothing
    cases nothing

omit [Psycopg] in
/-- A key that is found for its request is answered with success. -/
theorem lookup_replay {mutation : Mutation} {row : Option IdempotencyRow} {reply : MutationReply}
    (found : lookup mutation row = .replay reply) : reply.success = true := by
  cases row with
  | none => cases found
  | some row =>
    unfold lookup at found
    dsimp only at found
    by_cases own : row.requestDigest = mutation.requestDigest
    · rw [if_pos own] at found
      cases found
      rfl
    · rw [if_neg own] at found
      cases found

/-- A step updates the order, misses it, commits a change, or none of these; then a call that is
failing was failing before. -/
theorem step_cases {mutation : Mutation} {source next : Source ι} {label : ι × CallStatement}
    (step : Step mutation source label next) :
    (label.2.changes = false ∧ ∃ phase, next = source.move label.1 phase ∧
      Keeps mutation (source.phase label.1) phase ∧
        (phase.failing = true → (source.phase label.1).failing = true)) ∨
    (label.2 = .update ∧ ∃ order, next = source.move label.1 (.updated order) ∧
      update mutation (source.tables.serviceOrders mutation.serviceOrderId) = .ok (some order) ∧
        ∀ other, (source.phase other).pending = none) ∨
    (label.2 = .update ∧ next = source.move label.1 .missed ∧
      update mutation (source.tables.serviceOrders mutation.serviceOrderId) = .ok none) ∨
    (∃ reply order row, label.2 = .commit (some (order, row)) ∧
      source.phase label.1 = .closing reply (some (order, row)) ∧
        next = ⟨source.tables.commit mutation (some (order, row)),
          (source.move label.1 (.leaving reply)).phase⟩) := by
  cases step with
  | check => exact .inl ⟨rfl, _, rfl, .quiet rfl, fun failing => by cases failing⟩
  | absent => exact .inl ⟨rfl, _, rfl, .quiet rfl, fun failing => by cases failing⟩
  | conflict => exact .inl ⟨rfl, _, rfl, .quiet rfl, fun failing => by cases failing⟩
  | @replay call reply _ found =>
    refine .inl ⟨rfl, _, rfl, .quiet rfl, fun failing => ?_⟩
    have success : (!reply.success) = true := failing
    rw [lookup_replay found] at success
    cases success
  | reject => exact .inl ⟨rfl, _, rfl, .quiet rfl, fun failing => by cases failing⟩
  | miss _ none => exact .inr (.inr (.inl ⟨rfl, rfl, none⟩))
  | write _ some alone => exact .inr (.inl ⟨rfl, _, rfl, some, alone⟩)
  | current missed =>
    refine .inl ⟨rfl, _, rfl, .quiet rfl, fun _ => ?_⟩
    dsimp only
    rw [missed]
    rfl
  | insert updated =>
    refine .inl ⟨rfl, _, rfl, ⟨fun order some => ?_, fun _ _ _ same => ?_⟩, fun failing => ?_⟩
    · dsimp only
      rw [updated]
      exact some
    · cases same
      rfl
    · cases failing
  | duplicate => exact .inl ⟨rfl, _, rfl, .quiet rfl, fun failing => by cases failing⟩
  | @commit call reply written closing =>
    cases written with
    | none =>
      refine .inl ⟨rfl, _, rfl, .quiet rfl, fun failing => ?_⟩
      dsimp only
      rw [closing]
      exact failing
    | some written => exact .inr (.inr (.inr ⟨reply, written.1, written.2, rfl, closing, rfl⟩))
  | raised => exact .inl ⟨rfl, _, rfl, .quiet rfl, fun failing => by cases failing⟩
  | returned => exact .inl ⟨rfl, _, rfl, .quiet rfl, fun failing => by cases failing⟩

/-! ## Every run -/

omit [Psycopg] in
/-- A pending row behind a move is one of the call that moved, or was there before. -/
theorem pending_move {source : Source ι} {call other : ι} {phase : Phase} {order : ServiceOrder}
    (some : ((source.move call phase).phase other).pending = .some order) :
    (other = call ∧ phase.pending = .some order) ∨
      (other ≠ call ∧ (source.phase other).pending = .some order) := by
  by_cases same : other = call
  · rw [same, Source.move_self] at some
    exact .inl ⟨same, some⟩
  · rw [Source.move_other source same] at some
    exact .inr ⟨same, some⟩

/-- What holds in every run, behind the statements that ran. -/
structure Exclusive (mutation : Mutation) (start : Tables) (labels : List (ι × CallStatement))
    (source : Source ι) : Prop where
  /-- No two calls have a pending row. -/
  alone : ∀ call other order order', (source.phase call).pending = some order →
    (source.phase other).pending = some order' → call = other
  /-- A pending row is the update of the committed one. -/
  pending : ∀ call order, (source.phase call).pending = some order →
    update mutation (source.tables.serviceOrders mutation.serviceOrderId) = .ok (some order)
  /-- The row of a key that is inserted has the digest of the request. -/
  row : ∀ call reply order row, source.phase call = .closing reply (some (order, row)) →
    row.requestDigest = mutation.requestDigest
  /-- Before the change the tables are as they were. -/
  before : changes labels = 0 → source.tables = start
  /-- After it the key is bound, and the order as no update of the request expects it. -/
  after : 0 < changes labels → changes labels = 1 ∧ mutation.bound source.tables = true ∧
    update mutation (source.tables.serviceOrders mutation.serviceOrderId) = .ok none

omit [DecidableEq ι] [Psycopg] in
/-- A statement that commits no change leaves the number of changes. -/
theorem changes_kept {labels : List (ι × CallStatement)} {label : ι × CallStatement}
    (kept : label.2.changes = false) : changes (labels ++ [label]) = changes labels := by
  unfold changes
  rw [List.countP_append, List.countP_singleton, kept]
  rfl

omit [DecidableEq ι] [Psycopg] in
/-- A statement that commits a change is one more. -/
theorem changes_more {labels : List (ι × CallStatement)} {label : ι × CallStatement}
    (more : label.2.changes = true) : changes (labels ++ [label]) = changes labels + 1 := by
  unfold changes
  rw [List.countP_append, List.countP_singleton, more]
  rfl

omit [Psycopg] in
/-- The key is bound once a row with the digest of the request is committed. -/
theorem bound_commit {mutation : Mutation} {tables : Tables} {order : ServiceOrder}
    {row : IdempotencyRow} (own : row.requestDigest = mutation.requestDigest) :
    mutation.bound (tables.commit mutation (some (order, row))) = true := by
  unfold Mutation.bound Tables.commit
  dsimp only
  rw [Function.update_self]
  exact decide_eq_true own

namespace Exclusive

variable {mutation : Mutation} {start : Tables} {labels : List (ι × CallStatement)}
  {source : Source ι}

omit [DecidableEq ι] in
/-- Nothing is pending where no update goes through. -/
theorem nothing_pending (exclusive : Exclusive mutation start labels source)
    (none : update mutation (source.tables.serviceOrders mutation.serviceOrderId) = .ok none)
    (call : ι) : (source.phase call).pending = .none := by
  cases some : (source.phase call).pending with
  | none => rfl
  | some order =>
    have updated := exclusive.pending call order some
    rw [none] at updated
    cases updated

omit [DecidableEq ι] in
/-- Before the first statement nothing is pending. -/
theorem initial (mutation : Mutation) (start : Tables) :
    Exclusive mutation start ([] : List (ι × CallStatement)) (Source.initial start) where
  alone call other order order' some := by cases some
  pending call order some := by cases some
  row call reply order row same := by cases same
  before _ := rfl
  after some := by cases some

/-- A step without an update or a change. -/
theorem keep (exclusive : Exclusive mutation start labels source) {label : ι × CallStatement}
    {phase : Phase} (same : label.2.changes = false)
    (keeps : Keeps mutation (source.phase label.1) phase) :
    Exclusive mutation start (labels ++ [label]) (source.move label.1 phase) := by
  have former : ∀ call order, ((source.move label.1 phase).phase call).pending = some order →
      (source.phase call).pending = some order := by
    intro call order some
    rcases pending_move some with ⟨rfl, own⟩ | ⟨-, other⟩
    · exact keeps.pending order own
    · exact other
  refine ⟨?_, ?_, ?_, ?_, ?_⟩
  · intro call other order order' left right
    exact exclusive.alone call other order order' (former _ _ left) (former _ _ right)
  · intro call order some
    exact exclusive.pending call order (former _ _ some)
  · intro call reply order row closing
    by_cases own : call = label.1
    · rw [own, Source.move_self] at closing
      exact keeps.row reply order row closing
    · rw [Source.move_other source own] at closing
      exact exclusive.row call reply order row closing
  · rw [changes_kept same]
    exact exclusive.before
  · rw [changes_kept same]
    exact exclusive.after

/-- An update of a call while nothing is pending. -/
theorem write (exclusive : Exclusive mutation start labels source) {label : ι × CallStatement}
    {order : ServiceOrder} (same : label.2.changes = false)
    (updated : update mutation (source.tables.serviceOrders mutation.serviceOrderId) =
      .ok (some order))
    (alone : ∀ other, (source.phase other).pending = none) :
    Exclusive mutation start (labels ++ [label]) (source.move label.1 (.updated order)) := by
  have only : ∀ call found, ((source.move label.1 (.updated order)).phase call).pending =
      some found → call = label.1 ∧ order = found := by
    intro call found some
    rcases pending_move some with ⟨own, new⟩ | ⟨-, other⟩
    · exact ⟨own, Option.some.inj new⟩
    · rw [alone call] at other
      cases other
  refine ⟨?_, ?_, ?_, ?_, ?_⟩
  · intro call other found found' left right
    rw [(only _ _ left).1, (only _ _ right).1]
  · intro call found some
    rw [← (only _ _ some).2]
    exact updated
  · intro call reply found row closing
    have pending := (only call found (congrArg Phase.pending closing)).1
    rw [pending, Source.move_self] at closing
    cases closing
  · rw [changes_kept same]
    exact exclusive.before
  · rw [changes_kept same]
    exact exclusive.after

/-- The commit of the change. -/
theorem commit (exclusive : Exclusive mutation start labels source) {label : ι × CallStatement}
    {reply : MutationReply} {order : ServiceOrder} {row : IdempotencyRow}
    (more : label.2.changes = true)
    (closing : source.phase label.1 = .closing reply (some (order, row))) :
    Exclusive mutation start (labels ++ [label])
      ⟨source.tables.commit mutation (some (order, row)),
        (source.move label.1 (.leaving reply)).phase⟩ := by
  have pending : (source.phase label.1).pending = some order := by
    rw [closing]
    rfl
  have updated := exclusive.pending _ _ pending
  have first : changes labels = 0 := by
    by_contra some
    have stale := (exclusive.after (Nat.pos_of_ne_zero some)).2.2
    rw [stale] at updated
    cases updated
  have nothing : ∀ call, ((source.move label.1 (.leaving reply)).phase call).pending = none := by
    intro call
    cases some : ((source.move label.1 (.leaving reply)).phase call).pending with
    | none => rfl
    | some found =>
      rcases pending_move some with ⟨-, own⟩ | ⟨different, other⟩
      · cases own
      · exact absurd (exclusive.alone _ _ _ _ other pending) different
  refine ⟨?_, ?_, ?_, ?_, ?_⟩
  · intro call other found found' some
    rw [nothing call] at some
    cases some
  · intro call found some
    rw [nothing call] at some
    cases some
  · intro call answer found other same
    have pending := nothing call
    rw [same] at pending
    cases pending
  · rw [changes_more more]
    intro none
    omega
  · intro _
    refine ⟨?_, bound_commit (exclusive.row _ _ _ _ closing), ?_⟩
    · rw [changes_more more, first]
    · unfold Tables.commit
      dsimp only
      rw [Function.update_self]
      exact update_updated updated

/-- Every step keeps what holds in every run. -/
theorem step (exclusive : Exclusive mutation start labels source) {label : ι × CallStatement}
    {next : Source ι} (step : Step mutation source label next) :
    Exclusive mutation start (labels ++ [label]) next := by
  rcases step_cases step with ⟨same, phase, rfl, keeps, -⟩ |
    ⟨kind, order, rfl, updated, alone⟩ | ⟨kind, rfl, -⟩ |
    ⟨reply, order, row, kind, closing, rfl⟩
  · exact exclusive.keep same keeps
  · exact exclusive.write (by rw [kind]; rfl) updated alone
  · exact exclusive.keep (by rw [kind]; rfl) (.quiet rfl)
  · exact exclusive.commit (by rw [kind]; rfl) closing

/-- Every run keeps it. -/
theorem of_run (run : (transactions mutation).Run (Source.initial start) labels source) :
    Exclusive mutation start labels source :=
  run.invariant (Exclusive mutation start) (initial mutation start)
    fun _ _ _ _ _ exclusive step => exclusive.step step

omit [DecidableEq ι] in
/-- The order changes once at most. -/
theorem changes_le_one (exclusive : Exclusive mutation start labels source) :
    changes labels ≤ 1 := by
  by_cases none : changes labels = 0
  · omega
  · exact (exclusive.after (Nat.pos_of_ne_zero none)).1.le

omit [DecidableEq ι] in
/-- The key is bound behind the change, and from the start where it was bound before. -/
theorem bound (exclusive : Exclusive mutation start labels source)
    (applied : mutation.bound start = true ∨ 0 < changes labels) :
    mutation.bound source.tables = true := by
  by_cases none : changes labels = 0
  · rw [exclusive.before none]
    rcases applied with bound | some
    · exact bound
    · omega
  · exact (exclusive.after (Nat.pos_of_ne_zero none)).2.1

end Exclusive

/-! ## Runs whose updates are in time -/

/-- A call that is failing has seen an order that is not as expected, and no change is committed. -/
def Truthful (mutation : Mutation) (source : Source ι) : Prop :=
  ∀ call, (source.phase call).failing = true → mutation.bound source.tables = false ∧
    update mutation (source.tables.serviceOrders mutation.serviceOrderId) = .ok none

/-- A step whose update is in time keeps the calls truthful. -/
theorem Truthful.step {mutation : Mutation} {start : Tables} {labels : List (ι × CallStatement)}
    {source next : Source ι} {label : ι × CallStatement} (truthful : Truthful mutation source)
    (exclusive : Exclusive mutation start labels source)
    (step : Step mutation source label next)
    (timely : label.2 = .update → mutation.bound source.tables = false) :
    Truthful mutation next := by
  intro call failing
  rcases step_cases step with ⟨-, phase, rfl, -, former⟩ | ⟨-, order, rfl, updated, -⟩ |
    ⟨kind, rfl, none⟩ | ⟨reply, order, row, -, closing, rfl⟩
  · by_cases own : call = label.1
    · rw [own, Source.move_self] at failing
      exact truthful label.1 (former failing)
    · rw [Source.move_other source own] at failing
      exact truthful call failing
  · -- An update that goes through finds the order as expected, so that no call is failing.
    by_cases own : call = label.1
    · rw [own, Source.move_self] at failing
      cases failing
    · rw [Source.move_other source own] at failing
      exact truthful call failing
  · exact ⟨timely kind, none⟩
  · have pending : (source.phase label.1).pending = some order := by
      rw [closing]
      rfl
    have failed : ∃ other, (source.phase other).failing = true := by
      by_cases own : call = label.1
      · rw [own] at failing
        have same := source.move_self label.1 (.leaving reply)
        rw [same] at failing
        exact ⟨label.1, by rw [closing]; exact failing⟩
      · have same := source.move_other own (.leaving reply)
        rw [same] at failing
        exact ⟨call, failing⟩
    obtain ⟨other, failed⟩ := failed
    have nothing := exclusive.nothing_pending (truthful other failed).2 label.1
    rw [pending] at nothing
    cases nothing

/-- In a run whose updates are in time every call is truthful. -/
theorem truthful_of_run {mutation : Mutation} {start : Tables} {labels : List (ι × CallStatement)}
    {source : Source ι}
    (run : ((transactions mutation).restrict fun source label =>
      label.2 = .update → mutation.bound source.tables = false).Run (Source.initial start) labels
        source) :
    Truthful mutation source :=
  run.invariant (fun _ source => Truthful mutation source) (fun _ failing => by cases failing)
    fun _ _ _ _ before truthful step =>
      truthful.step (Exclusive.of_run before.unrestrict) step.1 step.2

/-- Behind the change a call that returns reports success. -/
theorem success_of_run {mutation : Mutation} {start : Tables} {labels : List (ι × CallStatement)}
    {source next : Source ι} {call : ι} {reply : MutationReply}
    (run : ((transactions mutation).restrict fun source label =>
      label.2 = .update → mutation.bound source.tables = false).Run (Source.initial start) labels
        source)
    (step : Step mutation source (call, .returned reply) next)
    (applied : mutation.bound start = true ∨ 0 < changes labels) : reply.success = true := by
  cases step with
  | returned leaving =>
    by_contra failed
    have failing : (source.phase call).failing = true := by
      rw [leaving]
      exact congrArg (!·) (Bool.eq_false_iff.mpr failed)
    have bound := (Exclusive.of_run run.unrestrict).bound applied
    rw [(truthful_of_run run call failing).1] at bound
    cases bound

/-! ## Requests -/

section Request

variable [Stdlib] [ValueText]

/-- The calls of a request that passes its checks are transactions. -/
theorem calls_ok {request : List (String × Json.Value)} {mutation : Mutation}
    (checked : checkMutation request = .ok mutation) :
    (calls request : System (Source ι) (ι × CallStatement)) = transactions mutation := by
  unfold calls
  rw [checked]

/-- A request is applied: its key is bound to it in the tables. -/
def Applied (request : List (String × Json.Value)) (tables : Tables) : Bool :=
  match checkMutation request with
  | .error _ => false
  | .ok mutation => mutation.bound tables

/-- A step is not an update of a request that is applied already. -/
def Timely (request : List (String × Json.Value)) (source : Source ι)
    (label : ι × CallStatement) : Prop :=
  label.2 = .update → Applied request source.tables = false

omit [DecidableEq ι] in
/-- The service order changes once at most, and every call that returns behind the change reports
success. -/
structure Idempotent (request : List (String × Json.Value)) (start : Tables)
    (labels : List (ι × CallStatement)) : Prop where
  once : changes labels ≤ 1
  success : ∀ before call reply after, labels = before ++ (call, .returned reply) :: after →
    (Applied request start = true ∨ 0 < changes before) → reply.success = true

omit [Psycopg] [Stdlib] [ValueText] in
/-- Calls that are refused only check. -/
theorem refusal_checks {error : MutationError} {start source : Source ι}
    {labels : List (ι × CallStatement)}
    (run : (⟨Refusal error⟩ : System (Source ι) (ι × CallStatement)).Run start labels source) :
    ∀ label ∈ labels, label.2 = .check := by
  refine run.invariant (fun labels _ => ∀ label ∈ labels, label.2 = .check)
    (fun label member => by cases member) ?_
  intro labels source label next _ checks step other member
  rcases List.mem_append.mp member with earlier | last
  · exact checks other earlier
  · rw [List.mem_singleton.mp last]
    cases step with
    | check => rfl

/-- In every run the order changes once at most. -/
theorem changes_le_one {request : List (String × Json.Value)} {start : Tables}
    {labels : List (ι × CallStatement)} {source : Source ι}
    (run : (calls request).Run (Source.initial start) labels source) : changes labels ≤ 1 := by
  cases checked : checkMutation request with
  | error error =>
    have system : calls request = (⟨Refusal error⟩ : System (Source ι) (ι × CallStatement)) := by
      unfold calls
      rw [checked]
    rw [system] at run
    have none : changes labels = 0 := by
      refine List.countP_eq_zero.mpr fun label member => ?_
      rw [refusal_checks run label member]
      decide
    omega
  | ok mutation =>
    rw [calls_ok checked] at run
    exact (Exclusive.of_run run).changes_le_one

/-- In a run in which no call runs its update once the request is applied, the service order changes
once at most and every call that returns behind the change reports success. -/
theorem mutate_idempotent {request : List (String × Json.Value)} {start : Tables}
    {labels : List (ι × CallStatement)} {source : Source ι}
    (run : ((calls request).restrict (Timely request)).Run (Source.initial start) labels source) :
    Idempotent request start labels := by
  refine ⟨changes_le_one run.unrestrict, ?_⟩
  intro before call reply after whole applied
  rw [whole] at run
  obtain ⟨middle, next, upto, step⟩ := run.of_split
  have returned := step.1
  unfold calls at returned
  cases checked : checkMutation request with
  | error error =>
    rw [checked] at returned
    cases returned
  | ok mutation =>
    rw [checked] at returned
    have own : ∀ tables, Applied request tables = mutation.bound tables := by
      intro tables
      unfold Applied
      rw [checked]
    rw [calls_ok checked] at upto
    rw [own] at applied
    refine success_of_run (upto.widen _ ?_) returned applied
    intro source label timely update
    rw [← own]
    exact timely update

/-- Two calls that both look the key up before one of them updates the order; the other one then runs
its update when the change is committed. -/
def raceLabels (mutation : Mutation) (order : ServiceOrder) : List (Bool × CallStatement) :=
  [(false, .check), (true, .check), (false, .lookup), (true, .lookup), (false, .update),
    (false, .insert), (false, .commit (some (order, inserted mutation order))), (true, .update),
    (true, .current), (true, .commit none), (true, .returned (stale (some order)))]

omit [Stdlib] [ValueText] in
/-- Whatever the request, if its order is as it expects and its key is free, the race can happen. -/
theorem race {mutation : Mutation} {start : Tables} {order : ServiceOrder}
    (free : start.idempotency mutation.idempotencyKey = none)
    (updated : update mutation (start.serviceOrders mutation.serviceOrderId) = .ok (some order)) :
    ∃ source, (transactions mutation).Run (Source.initial start) (raceLabels mutation order)
      source := by
  have absent : lookup mutation (start.idempotency mutation.idempotencyKey) = .absent := by
    rw [free]
    rfl
  have row : (start.commit mutation (some (order, inserted mutation order))).serviceOrders
      mutation.serviceOrderId = some order := Function.update_self _ _ _
  have missed : update mutation
      ((start.commit mutation (some (order, inserted mutation order))).serviceOrders
        mutation.serviceOrderId) = .ok none := by
    rw [row]
    exact update_updated updated
  have answer : Phase.leaving (stale ((start.commit mutation
      (some (order, inserted mutation order))).serviceOrders mutation.serviceOrderId)) =
      .leaving (stale (some order)) := congrArg (fun row => Phase.leaving (stale row)) row
  refine ⟨_, .cons (.check rfl) <| .cons (.check rfl) <| .cons (.absent rfl absent) <|
    .cons (.absent rfl absent) <| .cons (.write rfl updated ?_) <| .cons (.insert rfl free) <|
    .cons (.commit rfl) <| .cons (.miss rfl missed) <| .cons (.current rfl) <|
    .cons (.commit rfl) <| .cons (.returned answer) .nil⟩
  intro other
  cases other <;> rfl

/-- Two calls of which the second looks the key up when the first has committed, and replays it. -/
def replayLabels (mutation : Mutation) (order : ServiceOrder) : List (Bool × CallStatement) :=
  [(false, .check), (true, .check), (false, .lookup), (false, .update), (false, .insert),
    (false, .commit (some (order, inserted mutation order))), (true, .lookup),
    (false, .returned (applied mutation order)), (true, .commit none),
    (true, .returned ⟨true, true, toString order.recordVersion, true⟩)]

/-- Whatever the request, if its order is as it expects and its key is free, two calls can run in
time. -/
theorem replays {request : List (String × Json.Value)} {mutation : Mutation} {start : Tables}
    {order : ServiceOrder} (checked : checkMutation request = .ok mutation)
    (free : start.idempotency mutation.idempotencyKey = none)
    (updated : update mutation (start.serviceOrders mutation.serviceOrderId) = .ok (some order)) :
    ∃ source, ((calls request).restrict (Timely request)).Run (Source.initial start)
      (replayLabels mutation order) source := by
  have absent : lookup mutation (start.idempotency mutation.idempotencyKey) = .absent := by
    rw [free]
    rfl
  have unbound : Applied request start = false := by
    unfold Applied Mutation.bound
    rw [checked]
    dsimp only
    rw [free]
  have row : (start.commit mutation (some (order, inserted mutation order))).idempotency
      mutation.idempotencyKey = some (inserted mutation order) := Function.update_self _ _ _
  have found : lookup mutation ((start.commit mutation
      (some (order, inserted mutation order))).idempotency mutation.idempotencyKey) =
        .replay ⟨true, true, toString order.recordVersion, true⟩ := by
    rw [row]
    exact if_pos rfl
  rw [calls_ok checked]
  refine ⟨_, .cons ⟨.check rfl, fun update => by cases update⟩ <|
    .cons ⟨.check rfl, fun update => by cases update⟩ <|
    .cons ⟨.absent rfl absent, fun update => by cases update⟩ <|
    .cons ⟨.write rfl updated ?_, fun _ => unbound⟩ <|
    .cons ⟨.insert rfl free, fun update => by cases update⟩ <|
    .cons ⟨.commit rfl, fun update => by cases update⟩ <|
    .cons ⟨.replay rfl found ?_, fun update => by cases update⟩ <|
    .cons ⟨.returned rfl, fun update => by cases update⟩ <|
    .cons ⟨.commit rfl, fun update => by cases update⟩ <|
    .cons ⟨.returned rfl, fun update => by cases update⟩ .nil⟩
  · intro other
    cases other <;> rfl
  · intro other
    cases other <;> rfl

/-- The call that comes late reports a failure, although the request is applied. -/
theorem race_not_idempotent {request : List (String × Json.Value)} {mutation : Mutation}
    {start : Tables} {order : ServiceOrder} (checked : checkMutation request = .ok mutation)
    (free : start.idempotency mutation.idempotencyKey = none)
    (updated : update mutation (start.serviceOrders mutation.serviceOrderId) = .ok (some order)) :
    ∃ (labels : List (Bool × CallStatement)) (source : Source Bool),
      (calls request).Run (Source.initial start) labels source ∧
        ¬ Idempotent request start labels := by
  obtain ⟨source, run⟩ := race free updated
  rw [← calls_ok checked] at run
  refine ⟨raceLabels mutation order, source, run, fun idempotent => ?_⟩
  have success := idempotent.success ((raceLabels mutation order).take 10) true
    (stale (some order)) [] rfl (.inr Nat.one_pos)
  cases success

end Request

end Steps

/-! ## One order -/

/-- The request to resolve an order. -/
def resolveRequest : List (String × Json.Value) :=
  [("action_id", .str "a1"), ("asset_id", .str "service_orders"),
    ("operation", .str "resolve-service-order"),
    ("parameters", .obj [("serviceOrderId", .str "SO1001"), ("resolution", .str "replaced pump")]),
    ("preconditions", .obj [("recordVersion", .int 1), ("expectedResolution", .null)]),
    ("idempotency_key", .str "k1")]

/-- The first version of every order, without a resolution, and no key. -/
def freshTables : Tables := ⟨fun _ => some ⟨1, none⟩, fun _ => none⟩

/-- What the request asks for. -/
theorem checkMutation_resolve :
    letI : Stdlib := .transparent
    letI : ValueText := ⟨Json.dumps⟩
    letI : Psycopg := .textual
    checkMutation resolveRequest =
      .ok ⟨"a1", "k1", digest (.obj resolveRequest), "SO1001", .str "replaced pump", .null, 1⟩ := rfl

/-- Two calls with one request, of which one reports a failure once the other has committed. -/
theorem late_call_reports_failure :
    letI : Stdlib := .transparent
    letI : ValueText := ⟨Json.dumps⟩
    letI : Psycopg := .textual
    ¬ ∀ (labels : List (Bool × CallStatement)) (source : Source Bool),
      (calls resolveRequest).Run (Source.initial freshTables) labels source →
        Idempotent resolveRequest freshTables labels := by
  intro claim
  obtain ⟨labels, source, run, failed⟩ :=
    @race_not_idempotent .textual .transparent ⟨Json.dumps⟩ _ _ freshTables
      ⟨2, some "replaced pump"⟩ checkMutation_resolve rfl rfl
  exact failed (claim labels source run)

/-- A second call with the same request, which looks its key up once the first one has committed,
replays the change: the order changes once and both report success. -/
theorem mutate_idempotent_replayed :
    letI : Stdlib := .transparent
    letI : ValueText := ⟨Json.dumps⟩
    letI : Psycopg := .textual
    Idempotent resolveRequest freshTables (replayLabels
      ⟨"a1", "k1", digest (.obj resolveRequest), "SO1001", .str "replaced pump", .null, 1⟩
      ⟨2, some "replaced pump"⟩) := by
  obtain ⟨source, run⟩ := @replays .textual .transparent ⟨Json.dumps⟩ resolveRequest _ freshTables
    ⟨2, some "replaced pump"⟩ checkMutation_resolve rfl rfl
  exact @mutate_idempotent _ _ .textual .transparent ⟨Json.dumps⟩ _ _ _ source run

end PostgreSQLLiveConnector

end DataHarness
