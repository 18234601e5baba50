import DataHarness.Gateway.Alike
import DataHarness.Gateway.Surroundings

/-!
# Gateways with two telemetry sinks

The same gateway runs in the same surroundings with two telemetry sinks, each of which may raise an
`Exception` at any emit. The clock tells the time of the surroundings, so reading it once more
changes nothing. Then both runs make the same calls of the connectors and end alike, and both audit
ledgers verify: every program keeps the relation of the two states (`Level`).
-/

namespace DataHarness

open Effect ActionGateway

/-- Surroundings without telemetry. -/
structure TimedSurroundings (σ : Type) where
  /-- The clock depends on the state alone, and reading it leaves the state as it is. -/
  clock : σ → DateTime
  /-- The reply to any other call, and the state after it. -/
  respond : σ → (op : GatewayOp) → op.Reply × σ
  /-- The state after an emit, which takes its time whether it succeeds or not. -/
  emitted : σ → σ

/-- A telemetry sink with a state of its own. -/
structure Telemetry (ρ : Type) where
  /-- `await telemetry.emit(event)`. -/
  emit : ρ → TelemetryEvent → Except ActionError Unit × ρ
  /-- It raises nothing but an `Exception`. -/
  exceptions : ∀ memory event error, (emit memory event).1 = .error error →
    error.isException = true

/-- The connector calls a gateway makes. -/
def sourceCalls : gatewaySignature.Event → List ConnectorCall
  | ⟨.invoke call, _⟩ => [call]
  | _ => []

/-- The calls that are answered by surroundings without clock and telemetry. -/
def GatewayOp.outside : GatewayOp → Bool
  | .verifyApproval _ _ _ _ _ => true
  | .evaluate _ => true
  | .connector _ => true
  | .invoke _ => true
  | .await _ => true
  | .afterMutation _ _ => true
  | _ => false

section Telemetries

variable {σ ρ τ : Type}

/-- Surroundings with a telemetry sink. -/
def TimedSurroundings.withTelemetry (surroundings : TimedSurroundings σ) (telemetry : Telemetry ρ) :
    Surroundings (σ × ρ) where
  respond state op :=
    match op with
    | .now => (surroundings.clock state.1, state)
    | .emit event =>
      let sent := telemetry.emit state.2 event
      (sent.1, surroundings.emitted state.1, sent.2)
    | op =>
      let answer := surroundings.respond state.1 op
      (answer.1, answer.2, state.2)

/-- Two bindings of a key are to one digest, with receipts that are alike. -/
def BoundAlike (left right : String × Receipt) : Prop :=
  left.1 = right.1 ∧ left.2.Alike right.2

variable [Stdlib]

/-- A gateway with one telemetry sink and the same with another: the surroundings are the same, what
is remembered is alike, and both audit ledgers verify. -/
structure Level (gateway : Nat) (left : Shared × σ × ρ) (right : Shared × σ × τ) : Prop where
  surroundings : left.2.1 = right.2.1
  table : ∀ binding, Option.Rel BoundAlike
    ((left.1.gateways gateway).idempotency.lookup binding)
    ((right.1.gateways gateway).idempotency.lookup binding)
  journal : left.1.journal.Alike right.1.journal
  verified : (left.1.gateways gateway).audit.verify = true ∧
    (right.1.gateways gateway).audit.verify = true

/-- A gateway with two telemetry sinks: the calls of connectors are seen. -/
def telemetries (surroundings : TimedSurroundings σ) (left : Telemetry ρ) (right : Telemetry τ)
    (key : IntegrityKey) (gateway : Nat) : Sides gatewaySignature (Shared × σ × ρ)
      (Shared × σ × τ) gatewaySignature.Event gatewaySignature.Event ConnectorCall where
  left := (surroundings.withTelemetry left).act key gateway
  right := (surroundings.withTelemetry right).act key gateway
  seenLeft := sourceCalls
  seenRight := sourceCalls
  fine _ := True

/-- Both runs make the same connector calls and end alike. -/
abbrev RunAlike (surroundings : TimedSurroundings σ) (left : Telemetry ρ) (right : Telemetry τ)
    (key : IntegrityKey) (gateway : Nat) {α β : Type} (values : α → β → Prop)
    (program : GatewayProgram α) (other : GatewayProgram β) : Prop :=
  (telemetries surroundings left right key gateway).Keeps (Level gateway) values ActionError.Alike
    program other

variable {surroundings : TimedSurroundings σ} {left : Telemetry ρ} {right : Telemetry τ}
  {key : IntegrityKey} {gateway : Nat} {α β : Type} {values : α → β → Prop}

/-! ## Calls -/

section Calls

/-- A call is answered alike by the surroundings. -/
theorem alike_outside {op : GatewayOp} (outside : op.outside = true)
    {next : op.Reply → GatewayProgram α} {onward : op.Reply → GatewayProgram β}
    (rest : ∀ reply, RunAlike surroundings left right key gateway values (next reply)
      (onward reply)) :
    RunAlike surroundings left right key gateway values (.call op next) (.call op onward) := by
  apply Sides.Keeps.call (fun reply answer : op.Reply => reply = answer)
  · intro start other level
    obtain ⟨shared, state, memory⟩ := start
    obtain ⟨another, same, record⟩ := other
    obtain ⟨surroundings', table, journal, verified⟩ := level
    dsimp only at surroundings' table journal verified
    subst surroundings'
    cases op with
    | verifyApproval => exact ⟨rfl, rfl, rfl, table, journal, verified⟩
    | evaluate => exact ⟨rfl, rfl, rfl, table, journal, verified⟩
    | connector => exact ⟨rfl, rfl, rfl, table, journal, verified⟩
    | invoke => exact ⟨rfl, rfl, rfl, table, journal, verified⟩
    | await => exact ⟨rfl, rfl, rfl, table, journal, verified⟩
    | afterMutation => exact ⟨rfl, rfl, rfl, table, journal, verified⟩
    | _ => cases outside
  · intro reply answer same
    subst same
    exact rest reply

/-- Both runs read the same time. -/
theorem alike_now (zoned : ∀ state, (surroundings.clock state).aware = true)
    {next : DateTime → GatewayProgram α} {onward : DateTime → GatewayProgram β}
    (rest : ∀ time, time.aware = true → RunAlike surroundings left right key gateway values
      (next time) (onward time)) :
    RunAlike surroundings left right key gateway values (now.bind next) (now.bind onward) := by
  apply Sides.Keeps.call (fun reply answer : DateTime => reply = answer ∧ reply.aware = true)
  · intro start other level
    have same := congrArg surroundings.clock level.surroundings
    exact ⟨rfl, ⟨same, zoned _⟩, level⟩
  · intro reply answer told
    rw [← told.1]
    exact rest reply told.2

/-- The ledger of the left run may take an entry. -/
theorem Level.auditLeft {start : Shared × σ × ρ} {other : Shared × σ × τ}
    (level : Level gateway start other) {ledger : ActionAuditLedger}
    (verified : ledger.verify = true) :
    Level gateway (start.1.set gateway { start.1.gateways gateway with audit := ledger }, start.2)
      other := by
  refine ⟨level.surroundings, ?_, level.journal, ?_, level.verified.2⟩
  · simpa [Shared.set] using level.table
  · simpa [Shared.set] using verified

/-- The ledger of the right run may take an entry. -/
theorem Level.auditRight {start : Shared × σ × ρ} {other : Shared × σ × τ}
    (level : Level gateway start other) {ledger : ActionAuditLedger}
    (verified : ledger.verify = true) :
    Level gateway start
      (other.1.set gateway { other.1.gateways gateway with audit := ledger }, other.2) := by
  refine ⟨level.surroundings, ?_, level.journal, level.verified.1, ?_⟩
  · simpa [Shared.set] using level.table
  · simpa [Shared.set] using verified

/-- Both runs append an entry. -/
theorem alike_append {time : DateTime} (aware : time.aware = true) (eventType actionId : String)
    (attributes others : List (String × Json.Value)) {next : AuditEntry → GatewayProgram α}
    {onward : AuditEntry → GatewayProgram β}
    (rest : ∀ entry other, RunAlike surroundings left right key gateway values (next entry)
      (onward other)) :
    RunAlike surroundings left right key gateway values
      ((append eventType actionId time attributes).bind next)
      ((append eventType actionId time others).bind onward) := by
  apply Sides.Keeps.call (fun reply answer : Except ActionError AuditEntry =>
    (∃ entry, reply = .ok entry) ∧ ∃ entry, answer = .ok entry)
  · intro start other level
    obtain ⟨entry, ledger, appended, acted⟩ := (surroundings.withTelemetry left).act_audit key
      gateway aware eventType actionId attributes start
    obtain ⟨second, another, added, taken⟩ := (surroundings.withTelemetry right).act_audit key
      gateway aware eventType actionId others other
    have kept := (level.auditLeft (ActionAuditLedger.verify_append level.verified.1 appended))
    unfold telemetries
    dsimp only
    rw [acted, taken]
    exact ⟨rfl, ⟨⟨entry, rfl⟩, second, rfl⟩,
      kept.auditRight (ActionAuditLedger.verify_append level.verified.2 added)⟩
  · rintro reply answer ⟨⟨entry, rfl⟩, other, rfl⟩
    exact rest entry other

/-- Both runs count their entries. -/
theorem alike_auditLength {next : Nat → GatewayProgram α} {onward : Nat → GatewayProgram β}
    (rest : ∀ count other, RunAlike surroundings left right key gateway values (next count)
      (onward other)) :
    RunAlike surroundings left right key gateway values (.call .auditLength next)
      (.call .auditLength onward) :=
  Sides.Keeps.call (fun _ _ => True) (fun _ _ level => ⟨rfl, trivial, level⟩) fun _ _ _ => rest _ _

/-- Both runs look up a key. -/
theorem alike_lookup {binding : Binding} {next : Option (String × Receipt) → GatewayProgram α}
    {onward : Option (String × Receipt) → GatewayProgram β}
    (rest : ∀ found other, Option.Rel BoundAlike found other →
      RunAlike surroundings left right key gateway values (next found) (onward other)) :
    RunAlike surroundings left right key gateway values (.call (.lookup binding) next)
      (.call (.lookup binding) onward) :=
  Sides.Keeps.call (Option.Rel BoundAlike)
    (fun _ _ level => ⟨rfl, level.table binding, level⟩) rest

/-- Both runs bind a key to receipts that are alike. -/
theorem alike_remember {binding : Binding} {digest : String} {receipt other : Receipt}
    (receipts : receipt.Alike other) {next : Unit → GatewayProgram α}
    {onward : Unit → GatewayProgram β}
    (rest : RunAlike surroundings left right key gateway values (next ()) (onward ())) :
    RunAlike surroundings left right key gateway values
      (.call (.remember binding digest receipt) next)
      (.call (.remember binding digest other) onward) := by
  apply Sides.Keeps.call (fun _ _ => True)
  · intro start final level
    refine ⟨rfl, trivial, level.surroundings, fun another => ?_, level.journal, ?_⟩
    · simp only [telemetries, Surroundings.act, perform, Shared.set, if_pos, List.lookup_cons]
      by_cases here : another = binding
      · rw [here, beq_self_eq_true]
        exact .some ⟨rfl, receipts⟩
      · have differs : (another == binding) = false := by simpa using here
        rw [differs]
        exact level.table another
    · simpa [telemetries, Surroundings.act, perform, Shared.set] using level.verified
  · intro reply answer _
    exact rest

/-- Both runs read the journal. -/
theorem alike_get {binding : Binding}
    {next : Except ActionError (Option DurableActionRecord) → GatewayProgram α}
    {onward : Except ActionError (Option DurableActionRecord) → GatewayProgram β}
    (rest : ∀ found other,
      Together (Option.Rel DurableActionRecord.Alike) ActionError.Alike found other →
        RunAlike surroundings left right key gateway values (next found) (onward other)) :
    RunAlike surroundings left right key gateway values (.call (.get binding) next)
      (.call (.get binding) onward) :=
  Sides.Keeps.call (Together (Option.Rel DurableActionRecord.Alike) ActionError.Alike)
    (fun _ _ level => ⟨rfl, get_alike level.journal binding, level⟩) rest

/-- Both runs make a transaction. -/
theorem alike_journal {tx other : JournalTx} (txs : tx.Alike other)
    {next : Except ActionError (Option DurableActionRecord) → GatewayProgram α}
    {onward : Except ActionError (Option DurableActionRecord) → GatewayProgram β}
    (rest : ∀ found answer,
      Together (Option.Rel DurableActionRecord.Alike) ActionError.Alike found answer →
        RunAlike surroundings left right key gateway values (next found) (onward answer)) :
    RunAlike surroundings left right key gateway values (.call (.journal tx) next)
      (.call (.journal other) onward) :=
  Sides.Keeps.call (Together (Option.Rel DurableActionRecord.Alike) ActionError.Alike)
    (fun _ _ level => ⟨rfl, reply_alike level.journal txs, level.surroundings, level.table,
      commit_alike level.journal txs, level.verified⟩) rest

end Calls

/-! ## Telemetry -/

section Emits

/-- What both runs have in common after an emit. -/
abbrev Emitted (gateway : Nat) (outcome result : Except ActionError Unit)
    (final : Shared × σ × ρ) (last : Shared × σ × τ) : Prop :=
  Together (fun _ _ => True) ActionError.Alike outcome result ∧ Level gateway final last

/-- The left run may record that its emit failed. -/
theorem relates_failedLeft (zoned : ∀ state, (surroundings.clock state).aware = true)
    (actionId : String) (attributes : List (String × Json.Value)) {second : GatewayProgram Unit}
    (rest : (telemetries surroundings left right key gateway).Relates (Level gateway) (.ret ())
      second (Emitted gateway)) :
    (telemetries surroundings left right key gateway).Relates (Level gateway)
      (now.bind fun failed => (append "telemetry-failed" actionId failed attributes).bind fun _ =>
        .ret ()) second (Emitted gateway) := by
  apply Sides.Relates.callLeft (fun (time : DateTime) start other =>
    time.aware = true ∧ Level gateway start other)
  · intro start other level _
    exact ⟨rfl, zoned _, level⟩
  · intro time
    apply Sides.Relates.assuming
    intro aware
    apply Sides.Relates.callLeft (fun (reply : Except ActionError AuditEntry) start other =>
      (∃ entry, reply = .ok entry) ∧ Level gateway start other)
    · intro start other level _
      obtain ⟨entry, ledger, appended, acted⟩ := (surroundings.withTelemetry left).act_audit key
        gateway aware "telemetry-failed" actionId attributes start
      unfold telemetries
      dsimp only
      rw [acted]
      exact ⟨rfl, ⟨entry, rfl⟩,
        level.auditLeft (ActionAuditLedger.verify_append level.verified.1 appended)⟩
    · intro reply
      apply Sides.Relates.assuming
      rintro ⟨entry, rfl⟩
      exact rest

/-- The right run may record that its emit failed. -/
theorem relates_failedRight (zoned : ∀ state, (surroundings.clock state).aware = true)
    (actionId : String) (attributes : List (String × Json.Value)) {first : GatewayProgram Unit}
    (rest : (telemetries surroundings left right key gateway).Relates (Level gateway) first
      (.ret ()) (Emitted gateway)) :
    (telemetries surroundings left right key gateway).Relates (Level gateway) first
      (now.bind fun failed => (append "telemetry-failed" actionId failed attributes).bind fun _ =>
        .ret ()) (Emitted gateway) := by
  apply Sides.Relates.callRight (fun (time : DateTime) start other =>
    time.aware = true ∧ Level gateway start other)
  · intro start other level
    exact ⟨rfl, zoned _, level⟩
  · intro time
    apply Sides.Relates.assuming
    intro aware
    apply Sides.Relates.callRight (fun (reply : Except ActionError AuditEntry) start other =>
      (∃ entry, reply = .ok entry) ∧ Level gateway start other)
    · intro start other level
      obtain ⟨entry, ledger, appended, acted⟩ := (surroundings.withTelemetry right).act_audit key
        gateway aware "telemetry-failed" actionId attributes other
      unfold telemetries
      dsimp only
      rw [acted]
      exact ⟨rfl, ⟨entry, rfl⟩,
        level.auditRight (ActionAuditLedger.verify_append level.verified.2 appended)⟩
    · intro reply
      apply Sides.Relates.assuming
      rintro ⟨entry, rfl⟩
      exact rest

/-- A sink returns, or raises an exception that is caught. -/
def Handled (reply : Except ActionError Unit) : Prop :=
  ∀ error, reply = .error error → error.isException = true

omit [Stdlib] in
/-- What a sink replies is handled. -/
theorem Telemetry.handled (telemetry : Telemetry ρ) (memory : ρ) (event : TelemetryEvent) :
    Handled (telemetry.emit memory event).1 := telemetry.exceptions memory event

/-- What `_emit_event` does with the reply of its sink. -/
def noted (event : TelemetryEvent) (actionId : String) (reply : Except ActionError Unit) :
    GatewayProgram Unit :=
  match reply with
  | .ok _ => .ret ()
  | .error _ => now.bind fun failed =>
    (append "telemetry-failed" actionId failed [("event_name", .str event.name)]).bind fun _ =>
      .ret ()

omit [Stdlib] in
/-- `_emit_event` notes a reply that is handled. -/
theorem noted_of_handled {reply : Except ActionError Unit} (handled : Handled reply)
    (event : TelemetryEvent) (actionId : String) :
    (((Program.ofExcept reply : GatewayProgram Unit).attempt ActionError.isException).bind
      fun sent => match sent with
        | .ok _ => .ret ()
        | .error error => noted event actionId (.error error)) = noted event actionId reply := by
  cases reply with
  | ok done => rfl
  | error error =>
    unfold Program.ofExcept Program.attempt
    rw [if_pos (handled error rfl)]
    rfl

/-- Both runs emit an event, whatever their sinks do with it. -/
theorem alike_emitEvent (zoned : ∀ state, (surroundings.clock state).aware = true)
    (event other : TelemetryEvent) (actionId : String) :
    RunAlike surroundings left right key gateway (fun _ _ => True) (emitEvent event actionId)
      (emitEvent other actionId) := by
  apply Sides.Relates.call (fun (reply answer : Except ActionError Unit) start final =>
    (Handled reply ∧ Handled answer) ∧ Level gateway start final)
  · intro start final level _
    exact ⟨rfl, ⟨left.handled _ _, right.handled _ _⟩,
      congrArg surroundings.emitted level.surroundings, level.table, level.journal, level.verified⟩
  · intro reply answer
    apply Sides.Relates.assuming
    rintro ⟨handled, fine⟩
    have first := noted_of_handled handled event actionId
    have second := noted_of_handled fine other actionId
    have noting : (telemetries surroundings left right key gateway).Relates (Level gateway)
        (noted event actionId reply) (noted other actionId answer) (Emitted gateway) := by
      have done : (telemetries surroundings left right key gateway).Relates (Level gateway)
          (.ret ()) (.ret ()) (Emitted gateway) :=
        Sides.Relates.ret fun _ _ level => ⟨.ok trivial, level⟩
      cases reply with
      | ok sent =>
        cases answer with
        | ok returned => exact done
        | error thrown => exact relates_failedRight zoned _ _ done
      | error error =>
        apply relates_failedLeft zoned
        cases answer with
        | ok returned => exact done
        | error thrown => exact relates_failedRight zoned _ _ done
    rw [← first, ← second] at noting
    exact noting

end Emits

end Telemetries

end DataHarness
