import DataHarness.Gateway.Gates
import DataHarness.Gateway.Outcomes
import DataHarness.Gateway.Surroundings

/-!
# The durable gateway refines the in-memory one

Where every mutation succeeds, a journal says of every binding what the table of idempotency keys
says (`Matching`): the plan that is bound, and its receipt as it is read back. A call that begins a
plan leaves the journal ahead of the table until the outcome is recorded (`Ahead`); in between no
call raises, as long as the clock tells its time zone.
-/

namespace DataHarness

open Effect Program ActionGateway

/-- A reply in a run where every source is registered and applies what it is sent. -/
def GatewayOp.Succeeds : (op : GatewayOp) → op.Reply → Prop
  | .connector _, reply => ∃ handle, reply = .ok handle
  | .await (.mutate _ _), reply => ∃ result : PyValue, reply = .ok result ∧
      result.isMapping = true ∧ succeeded result = true
  | _, _ => True

/-- A table of idempotency keys. -/
abbrev KeyTable : Type := List (Binding × String × Receipt)

section Gateways

variable {σ : Type}

/-- The state of an in-memory gateway and that of a durable one: the surroundings and the ledgers
are the same, and the table and the journal are related. -/
structure Mirrors (gateway : Nat) (holds : KeyTable → Journal → Prop)
    (memory durable : Shared × σ) : Prop where
  surroundings : memory.2 = durable.2
  audit : (memory.1.gateways gateway).audit = (durable.1.gateways gateway).audit
  holds : holds (memory.1.gateways gateway).idempotency durable.1.journal

variable [Stdlib]

/-- A journal has a binding as a table has it: the plan and its receipt. -/
def Journal.Binds (journal : Journal) (binding : Binding) : Option (String × Receipt) → Prop
  | none => journal.records.find? binding = none
  | some (digest, receipt) => ∃ row, journal.records.find? binding = some row ∧
      row.actionDigest = digest ∧ row.Shape .executed (some receipt)

/-- A table and a journal say the same of every binding. -/
def Matching (table : KeyTable) (journal : Journal) : Prop :=
  ∀ binding, journal.Binds binding (table.lookup binding)

/-- The journal has a plan in a state without an outcome, of which the table says nothing. -/
structure Ahead (action : SourceActionPlan) (state : DurableActionState) (table : KeyTable)
    (journal : Journal) : Prop where
  row : ∃ row, journal.records.find? action.binding = some row ∧
    row.actionDigest = action.digest ∧ row.Shape state none
  others : ∀ binding, binding ≠ action.binding → journal.Binds binding (table.lookup binding)

section Steps

variable (surroundings : Surroundings σ) (key : IntegrityKey) {gateway : Nat}
  {holds : KeyTable → Journal → Prop} {memory durable : Shared × σ}

end Steps

/-! ## What a journal does with a binding -/

section Journals

variable (key : IntegrityKey) {journal : Journal} {table : KeyTable} {action : SourceActionPlan}

/-- A binding that a journal has is read as the record of its shape. -/
theorem get_of_shape {row : RecordRow} {state : DurableActionState} {receipt : Option Receipt}
    (present : journal.records.find? action.binding = some row)
    (same : row.actionDigest = action.digest) (shape : row.Shape state receipt) :
    ∃ found, record row = .ok found ∧ journal.get action.binding = .ok (some found) ∧
      found.actionDigest = action.digest ∧ found.state = state ∧
        found.receipt = receipt.map SourceMutationReceipt.stored := by
  obtain ⟨found, read, decoded, stored⟩ := shape.read
  exact ⟨found, read, Journal.get_of_row present read,
    (reads_of_record read).actionDigest.trans same, decoded, stored⟩

/-- A binding with the row it had is bound as it was. -/
theorem Journal.Binds.keep {after : Journal} {binding : Binding}
    {bound : Option (String × Receipt)} (binds : journal.Binds binding bound)
    (kept : after.records.find? binding = journal.records.find? binding) :
    after.Binds binding bound := by
  unfold Journal.Binds at binds ⊢
  rw [kept]
  exact binds

omit key in
/-- The check lets the plan go on whose digest is bound. -/
theorem checked_of_writable (writes : writable action.toJson = true) (message : String) :
    action.checkDigest action.digest message = .ok () :=
  SourceActionPlan.checkDigest_eq_ok.mpr (SourceActionPlan.digested_of_writable writes)

/-- A plan that the table does not know is prepared. -/
theorem Matching.prepare (writes : writable action.toJson = true)
    (matching : Matching table journal) (missing : table.lookup action.binding = none) (decisionId : String) (now : DateTime) :
    journal.reply key (.prepare action decisionId now) = .ok none ∧
      Ahead action .prepared table (journal.commit key (.prepare action decisionId now)) := by
  have absent : journal.records.find? action.binding = none := by
    have binds := matching action.binding
    rw [missing] at binds
    exact binds
  have written : journal.transact key (.prepare action decisionId now) =
      .ok (none, journal.writePrepared key action decisionId now absent) := by
    apply (Journal.prepare_of_missing absent decisionId now).trans
    rw [SourceActionPlan.takeDigest_eq_ok.mpr (SourceActionPlan.digested_of_writable writes)]
    rfl
  have rows := journal.find?_writePrepared key action now decisionId absent
  unfold Journal.reply Journal.commit
  rw [written]
  refine ⟨rfl, ⟨_, (rows _).trans (if_pos rfl), rfl, by simp, rfl, ⟨now, rfl⟩, ⟨now, rfl⟩, rfl⟩,
    fun binding other => ?_⟩
  exact (matching binding).keep ((rows binding).trans (if_neg (Ne.symm other)))

/-- A plan that is prepared is begun. -/
theorem Ahead.begin (writes : writable action.toJson = true)
    (ahead : Ahead action .prepared table journal) (now : DateTime) :
    journal.reply key (.begin action now) = .ok none ∧
      Ahead action .executing table (journal.commit key (.begin action now)) := by
  obtain ⟨row, present, same, shape⟩ := ahead.row
  obtain ⟨found, read, -, own, state, -⟩ := get_of_shape present same shape
  have written : journal.transact key (.begin action now) =
      .ok (none, journal.writeExecuting key action now found.attempts) := by
    show journal.begin key action now = _
    simp [Journal.begin, present, read, own, state, checked_of_writable writes]
  have rows := journal.find?_writeExecuting key action now found.attempts
  have updated := rows action.binding
  dsimp only at updated
  rw [if_pos rfl, present, Option.map_some] at updated
  unfold Journal.reply Journal.commit
  rw [written]
  refine ⟨rfl, ⟨_, updated, same, by simp, rfl, shape.started, ⟨now, rfl⟩, shape.receipt⟩,
    fun binding other => ?_⟩
  exact (ahead.others binding other).keep ((rows binding).trans (if_neg other))

/-- A journal that is ahead of the table reads the record of its plan. -/
theorem Ahead.reads {state : DurableActionState} (ahead : Ahead action state table journal) :
    ∃ found, journal.get action.binding = .ok (some found) ∧
      found.actionDigest = action.digest ∧ found.state = state := by
  obtain ⟨row, present, same, shape⟩ := ahead.row
  obtain ⟨found, read, got, own, decoded, -⟩ := get_of_shape present same shape
  exact ⟨found, got, own, decoded⟩

/-- A journal that matches the table reads the record of a plan that the table has. -/
theorem Matching.reads (matching : Matching table journal) {digest : String} {receipt : Receipt}
    (bound : table.lookup action.binding = some (digest, receipt)) :
    ∃ found, journal.get action.binding = .ok (some found) := by
  have binds := matching action.binding
  rw [bound] at binds
  obtain ⟨row, present, own, shape⟩ := binds
  obtain ⟨found, read, -, -⟩ := shape.read
  exact ⟨found, Journal.get_of_row present read⟩

/-- A plan that is executing is completed, and the table remembers it. -/
theorem Ahead.complete (writes : writable action.toJson = true)
    (ahead : Ahead action .executing table journal) (receipt : Receipt) (now : DateTime) :
    journal.reply key (.complete action receipt now) = .ok none ∧
      Matching ((action.binding, action.digest, receipt) :: table)
        (journal.commit key (.complete action receipt now)) := by
  obtain ⟨row, present, same, shape⟩ := ahead.row
  have written : journal.transact key (.complete action receipt now) =
      .ok (none, journal.writeFinished key action .executed (some receipt)
        (some receipt.sourceVersion) now none) := by
    show journal.finish key action .executed _ _ now none = _
    simp [Journal.finish, present, same, checked_of_writable writes]
  have rows := journal.find?_writeFinished key action now .executed (some receipt)
    (some receipt.sourceVersion) none
  unfold Journal.reply Journal.commit
  rw [written]
  refine ⟨rfl, fun binding => ?_⟩
  by_cases here : binding = action.binding
  · have updated := rows action.binding
    dsimp only at updated
    rw [if_pos rfl, present, Option.map_some] at updated
    rw [here, List.lookup_cons_self]
    exact ⟨_, updated, same, by simp, rfl, shape.started, ⟨now, rfl⟩, rfl⟩
  · have skipped : ((action.binding, action.digest, receipt) :: table).lookup binding =
        table.lookup binding := by
      have differs : (binding == action.binding) = false := by simpa using here
      rw [List.lookup_cons, differs]
    rw [skipped]
    exact (ahead.others binding here).keep ((rows binding).trans (if_neg here))

/-- A plan that is bound is read with its receipt, and another plan under its key is refused. -/
theorem Matching.replays (writes : writable action.toJson = true)
    (matching : Matching table journal) {digest : String} {receipt : Receipt}
    (bound : table.lookup action.binding = some (digest, receipt)) (decisionId : String)
    (now : DateTime) :
    (digest ≠ action.digest → journal.reply key (.prepare action decisionId now) =
      .error (.idempotencyConflict "idempotency key was already bound to another action")) ∧
    (digest = action.digest → ∃ found, journal.reply key (.prepare action decisionId now) =
        .ok (some found) ∧ found.state = .executed ∧ found.receipt = some receipt.stored ∧
          journal.commit key (.prepare action decisionId now) = journal) := by
  have binds := matching action.binding
  rw [bound] at binds
  obtain ⟨row, present, own, shape⟩ := binds
  obtain ⟨found, read, state, stored⟩ := shape.read
  have decoded := (reads_of_record read).actionDigest.trans own
  have own := SourceActionPlan.digested_of_writable writes
  have ran : journal.transact key (.prepare action decisionId now) =
      (action.checkDigest digest Journal.boundMessage).map fun _ => (some found, journal) := by
    apply (Journal.prepare_of_present present decisionId now).trans
    rw [read, ← decoded]
    rfl
  unfold Journal.reply Journal.commit
  rw [ran]
  constructor
  · intro differs
    obtain ⟨error, refused, conflict⟩ := SourceActionPlan.checkDigest_refused
      (show action.digested ≠ .ok digest by rw [own]; simpa using Ne.symm differs)
      Journal.boundMessage
    rw [refused, conflict _ own]
    rfl
  · intro same
    rw [same, SourceActionPlan.checkDigest_eq_ok.mpr own]
    exact ⟨found, rfl, state, stored, rfl⟩

end Journals

/-! ## Calls of both classes -/

section Rules

variable {surroundings : Surroundings σ} {key : IntegrityKey} {gateway : Nat}
  {holds : KeyTable → Journal → Prop} {α β : Type}
  {after : Except ActionError α → Except ActionError β → Shared × σ → Shared × σ → Prop}

end Rules

/-! ## The methods -/

/-- The call is of a method that only the durable class has. -/
def GatewayCall.reconciles : GatewayCall → Bool
  | .reconcile _ _ => true
  | _ => false

section Methods

variable {surroundings : Surroundings σ} {key : IntegrityKey} {gateway : Nat}
  {action : SourceActionPlan} {identity : RequestIdentity} {decision : PolicyDecision}
  {started : DateTime}

/-- Both runs have a mutation answered with the same success, whose version can be written. -/
def Applied (gateway : Nat) (holds : KeyTable → Journal → Prop)
    (outcome result : Except ActionError PyValue) (memory durable : Shared × σ) : Prop :=
  (∃ answer : PyValue, (succeeded answer = true ∧ versioned answer = true) ∧
      outcome = .ok answer ∧ result = .ok answer) ∧
    Mirrors gateway holds memory durable

end Methods

/-! ## Sessions -/

/-- The mutations an activity requests, in order. -/
def Activity.mutations (activity : Activity) : List (String × MutationRequest) :=
  activity.events.flatMap mutationsOf

section Sessions

variable (surroundings : Surroundings σ) (key : IntegrityKey) (gateway : Nat)

end Sessions

end Gateways

/-! ## Small sessions -/

end DataHarness
