import DataHarness.Gateway.Progress
import DataHarness.Gateway.Reconcile

/-!
# What a durable gateway goes by

A call of the durable gateway dispatches only a plan that it has begun, records a success only of a
plan it has seen proof of, and returns a receipt only of such a plan (`program_evidenced`). A proof
is an answer of the source, to the mutation or to a reconciliation, or an executed record it has
read (`Proven`). What these calls mean outside the task is left to the system around it.
-/

namespace DataHarness

open Effect Program ActionGateway DurableActionGateway

/-- The mutation of a plan. -/
def mutateCall (plan : SourceActionPlan) : ConnectorCall :=
  .mutate plan.sourceId (mutationRequest plan)

/-- A plan was begun, whatever record `begin` returned. -/
def BegunIn (plan : SourceActionPlan) (history : List gatewaySignature.Event) : Prop :=
  ∃ now reply, (⟨.journal (.begin plan now),
    (.ok reply : Except ActionError (Option DurableActionRecord))⟩ :
      gatewaySignature.Event) ∈ history

/-- The source answered a call. -/
def AnsweredIn (call : ConnectorCall) (result : PyValue) (history : List gatewaySignature.Event) :
    Prop :=
  (⟨.await call, (.ok result : Except ActionError PyValue)⟩ : gatewaySignature.Event) ∈ history

/-- A record was read under a binding. -/
def ReadIn (binding : Binding) (record : DurableActionRecord)
    (history : List gatewaySignature.Event) : Prop :=
  (⟨.get binding, (.ok (some record) : Except ActionError (Option DurableActionRecord))⟩ :
    gatewaySignature.Event) ∈ history

/-- A plan was prepared, with what `prepare` returned. -/
def PreparedIn (plan : SourceActionPlan) (reply : Option DurableActionRecord)
    (history : List gatewaySignature.Event) : Prop :=
  ∃ decisionId now, (⟨.journal (.prepare plan decisionId now),
    (.ok reply : Except ActionError (Option DurableActionRecord))⟩ :
      gatewaySignature.Event) ∈ history

variable [Stdlib]

/-- The calls made so far prove that a plan was applied. -/
inductive Proven (plan : SourceActionPlan) (history : List gatewaySignature.Event) : Prop
  /-- The source answered its mutation with success. -/
  | applied (result : PyValue) (answered : AnsweredIn (mutateCall plan) result history)
    (mapping : result.isMapping = true) (success : succeeded result = true)
  /-- The source answered its reconciliation with a proof. -/
  | reconciled (result : PyValue) (answered : AnsweredIn (reconcileCall plan) result history)
    (proof : proves result = true)
  /-- Its executed record was read. -/
  | read (record : DurableActionRecord) (read : ReadIn plan.binding record history)
    (executed : record.state = .executed) (own : record.actionDigest = plan.digest)
  /-- Its executed record was returned by `prepare`. -/
  | found (record : DurableActionRecord) (prepared : PreparedIn plan (some record) history)
    (executed : record.state = .executed)
  /-- It was prepared, and the record read back was executed. -/
  | overtaken (record : DurableActionRecord) (prepared : PreparedIn plan none history)
    (read : ReadIn plan.binding record history) (executed : record.state = .executed)

/-- A dispatch is of a plan that was begun, and a success is recorded of a proven one. -/
def Evidenced (history : List gatewaySignature.Event) (op : GatewayOp) : Prop :=
  match op with
  | .invoke (.mutate sourceId request) => ∃ plan, BegunIn plan history ∧
      ConnectorCall.mutate sourceId request = mutateCall plan
  | .journal (.complete plan _ _) => Proven plan history
  | _ => True

/-- The call neither dispatches a mutation nor records a success. -/
def GatewayOp.unclaiming : GatewayOp → Bool
  | .invoke (.mutate _ _) => false
  | .journal (.complete _ _ _) => false
  | _ => true

/-- Such a call needs no evidence. -/
theorem evidenced_of_unclaiming (history : List gatewaySignature.Event) (op : GatewayOp)
    (unclaiming : op.unclaiming = true) : Evidenced history op := by
  cases op with
  | invoke call =>
    cases call with
    | mutate => cases unclaiming
    | reconcile => trivial
  | journal tx =>
    cases tx with
    | complete => cases unclaiming
    | _ => trivial
  | _ => trivial

omit [Stdlib] in
/-- A plain call is such a call. -/
theorem unclaiming_of_plain (op : GatewayOp) (plain : op.plain = true) : op.unclaiming = true := by
  cases op with
  | invoke => cases plain
  | journal => cases plain
  | _ => rfl

/-- What was proven stays proven. -/
theorem Proven.mono {plan : SourceActionPlan} {history longer : List gatewaySignature.Event}
    (proven : Proven plan history) (grown : history <+: longer) : Proven plan longer := by
  have prepared : ∀ reply, PreparedIn plan reply history → PreparedIn plan reply longer := by
    rintro reply ⟨decisionId, now, member⟩
    exact ⟨decisionId, now, grown.subset member⟩
  cases proven with
  | applied result answered mapping success =>
    exact .applied result (grown.subset answered) mapping success
  | reconciled result answered proof => exact .reconciled result (grown.subset answered) proof
  | read record read executed own => exact .read record (grown.subset read) executed own
  | found record returned executed => exact .found record (prepared _ returned) executed
  | overtaken record wrote read executed =>
    exact .overtaken record (prepared _ wrote) (grown.subset read) executed

/-- A receipt that is returned is of a proven plan. -/
def ReturnsProven (plan : SourceActionPlan) (outcome : Except ActionError StoredReceipt)
    (history : List gatewaySignature.Event) : Prop :=
  ∀ receipt, outcome = .ok receipt → Proven plan history

/-! ## The rules for the pieces -/

section Rules

variable {α β : Type} {plan : SourceActionPlan} {past : List gatewaySignature.Event}

/-- What raises returns no receipt. -/
theorem returnsProven_error (error : ActionError) (history : List gatewaySignature.Event) :
    ReturnsProven plan (.error error) history := by
  intro receipt same
  cases same

/-- What follows a program that makes no claims goes on from a longer history. -/
theorem unclaiming_bind {program : GatewayProgram α} {rest : α → GatewayProgram β}
    {post : Except ActionError β → List gatewaySignature.Event → Prop}
    (makes : program.Makes fun op : GatewayOp => op.unclaiming = true)
    (onward : ∀ value history, past <+: history →
      (rest value).Follows (Protocol.history Evidenced) history post)
    (raises : ∀ error history, post (.error error) history) :
    (program.bind rest).Follows (Protocol.history Evidenced) past post :=
  (makes.follows_history evidenced_of_unclaiming past).bind onward
    fun error history _ => raises error history

/-- A program that makes no claims and raises after all returns no receipt. -/
theorem unclaiming_raises {program : GatewayProgram α} (error : ActionError)
    (makes : program.Makes fun op : GatewayOp => op.unclaiming = true) :
    (program.bind fun _ => (Program.raise error : GatewayProgram StoredReceipt)).Follows
      (Protocol.history Evidenced) past (ReturnsProven plan) :=
  unclaiming_bind makes (fun _ history _ => returnsProven_error error history) returnsProven_error

omit [Stdlib] in
/-- A write method ends with the record that the transaction returned or that was read after it. -/
theorem transaction_history {permits : List gatewaySignature.Event → GatewayOp → Prop}
    (tx : JournalTx) (permitted : permits past (.journal tx))
    (reads : ∀ history, permits history (.get tx.action.binding)) :
    (transaction tx).Follows (Protocol.history permits) past fun outcome history =>
      past <+: history ∧ ∀ record, outcome = .ok record →
        (⟨.journal tx, (.ok (some record) : Except ActionError (Option DurableActionRecord))⟩ :
            gatewaySignature.Event) ∈ history ∨
          (⟨.journal tx, (.ok none : Except ActionError (Option DurableActionRecord))⟩ :
              gatewaySignature.Event) ∈ history ∧ ReadIn tx.action.binding record history := by
  refine ⟨permitted, fun reply _ => ?_⟩
  have grown : past <+: past ++ [(⟨.journal tx, reply⟩ : gatewaySignature.Event)] :=
    List.prefix_append _ _
  cases reply with
  | error error => exact ⟨grown, fun record same => by cases same⟩
  | ok returned =>
    cases returned with
    | some record =>
      refine ⟨grown, fun found same => .inl ?_⟩
      cases same
      simp [Protocol.history]
    | none =>
      refine ⟨reads _, fun updated _ => ?_⟩
      have longer := grown.trans (List.prefix_append _
        [(⟨.get tx.action.binding, updated⟩ : gatewaySignature.Event)])
      cases updated with
      | error error => exact ⟨longer, fun record same => by cases same⟩
      | ok found =>
        cases found with
        | none => exact ⟨longer, fun record same => by cases same⟩
        | some record =>
          refine ⟨longer, fun found same => .inr ⟨?_, ?_⟩⟩
          · simp [Protocol.history]
          · cases same
            simp [ReadIn, Protocol.history]

end Rules

/-! ## The coroutines -/

section Coroutines

variable {plan : SourceActionPlan} {past : List gatewaySignature.Event}

/-- A dispatch of a plan that was begun ends with a mapping only if the source answered it. -/
theorem mutate_evidenced (begun : BegunIn plan past) :
    (mutate plan).Follows (Protocol.history Evidenced) past fun outcome history =>
      past <+: history ∧ ∀ result, outcome = .ok result →
        AnsweredIn (mutateCall plan) result history ∧ result.isMapping = true := by
  refine ⟨⟨plan, begun, rfl⟩, fun _ _ => ⟨trivial, fun reply _ => ?_⟩⟩
  have grown : past <+: (past ++ [(⟨.invoke (mutateCall plan), ()⟩ : gatewaySignature.Event)]) ++
      [(⟨.await (mutateCall plan), reply⟩ : gatewaySignature.Event)] :=
    (List.prefix_append _ _).trans (List.prefix_append _ _)
  cases reply with
  | error error => exact ⟨grown, fun result same => by cases same⟩
  | ok answer =>
    change Follows _ _ (if answer.isMapping = true then .ret answer else .raise _) _
    by_cases mapping : answer.isMapping = true
    · rw [if_pos mapping]
      refine ⟨grown, fun result same => ?_⟩
      cases same
      exact ⟨by simp [AnsweredIn, Protocol.history, mutateCall], mapping⟩
    · rw [if_neg mapping]
      exact ⟨grown, fun result same => by cases same⟩

/-- The `try` block of `execute` returns what the source answered. -/
theorem mutateThen_evidenced (begun : BegunIn plan past) :
    (mutateThen plan).Follows (Protocol.history Evidenced) past fun outcome history =>
      past <+: history ∧ ∀ result, outcome = .ok result →
        AnsweredIn (mutateCall plan) result history ∧ result.isMapping = true := by
  apply (mutate_evidenced begun).bind
  · intro result history answered
    have after : (ask (.afterMutation plan result)).Makes
        fun op : GatewayOp => op.unclaiming = true := makes_ask rfl
    apply (after.follows_history evidenced_of_unclaiming history).bind
    · intro hooked longer grown
      apply Follows.bind (follows_ofExcept _ hooked)
      · rintro _ _ ⟨-, rfl⟩
        refine ⟨answered.1.trans grown, fun returned same => ?_⟩
        cases same
        obtain ⟨answer, mapping⟩ := answered.2 result rfl
        exact ⟨grown.subset answer, mapping⟩
      · rintro _ _ ⟨-, rfl⟩
        exact ⟨answered.1.trans grown, fun returned same => by cases same⟩
    · intro error longer grown
      exact ⟨answered.1.trans grown, fun returned same => by cases same⟩
  · intro error history answered
    exact ⟨answered.1, fun returned same => by cases same⟩

/-- An unknown outcome returns no receipt. -/
theorem outcomeUnknown_evidenced (identity : RequestIdentity) :
    (outcomeUnknown plan identity).Follows (Protocol.history Evidenced) past
      (ReturnsProven plan) := by
  apply unclaiming_bind (now_makes unclaiming_of_plain) _ returnsProven_error
  intro failed history _
  apply Follows.bind (transaction_history _ trivial fun _ => trivial)
  · intro record history _
    exact unclaiming_raises _ (emit_makes unclaiming_of_plain ..)
  · exact fun error history _ => returnsProven_error error history

/-- The recording of a success, and what is returned of it. -/
theorem complete_evidenced {α : Type} {rest : DurableActionRecord → GatewayProgram α}
    {receipt : Receipt} {completed : DateTime}
    {post : Except ActionError α → List gatewaySignature.Event → Prop}
    (proven : Proven plan past)
    (onward : ∀ record history, Proven plan history →
      (rest record).Follows (Protocol.history Evidenced) history post)
    (raises : ∀ error history, post (.error error) history) :
    ((transaction (.complete plan receipt completed)).bind rest).Follows
      (Protocol.history Evidenced) past post := by
  apply Follows.bind (transaction_history _ proven fun _ => trivial)
  · intro record history recorded
    exact onward record history (proven.mono recorded.1)
  · exact fun error history _ => raises error history

/-- What is returned once telemetry was emitted is of a proven plan. -/
theorem returns_evidenced {receipt : StoredReceipt} {stage : String} {identity : RequestIdentity}
    {attributes : List (String × Json.Value)} (proven : Proven plan past) :
    ((emit stage plan identity attributes).bind fun _ => .ret receipt).Follows
      (Protocol.history Evidenced) past (ReturnsProven plan) := by
  apply unclaiming_bind (emit_makes unclaiming_of_plain ..) _ returnsProven_error
  intro sent history grown receipt _
  exact proven.mono grown

/-- The answer to a mutation is recorded as a success only if it is a proof. -/
theorem connectorAnswered_evidenced (identity : RequestIdentity) (decision : PolicyDecision)
    (started : DateTime) {result : PyValue} (answered : AnsweredIn (mutateCall plan) result past)
    (mapping : result.isMapping = true) :
    (DurableActionGateway.connectorAnswered plan identity decision started result).Follows
      (Protocol.history Evidenced) past (ReturnsProven plan) := by
  apply unclaiming_bind (now_makes unclaiming_of_plain) _ returnsProven_error
  intro completed clocked grown
  apply unclaiming_bind (makes_ofExcept _) _ returnsProven_error
  intro version told further
  apply unclaiming_bind (append_makes unclaiming_of_plain ..) _ returnsProven_error
  intro audit audited longer
  apply unclaiming_bind (makes_ask rfl) _ returnsProven_error
  intro count counted longest
  have kept := (grown.trans (further.trans (longer.trans longest))).subset answered
  by_cases success : succeeded result = true
  · rw [if_pos success]
    apply complete_evidenced (.applied result kept mapping success) _ returnsProven_error
    exact fun record history proven => returns_evidenced proven
  · rw [if_neg success]
    apply Follows.bind (transaction_history _ trivial fun _ => trivial)
    · intro record history _
      exact unclaiming_raises _ (emit_makes unclaiming_of_plain ..)
    · exact fun error history _ => returnsProven_error error history

/-- The dispatch of a plan that was begun. -/
theorem dispatch_evidenced (identity : RequestIdentity) (decision : PolicyDecision)
    (started : DateTime) (begun : BegunIn plan past) :
    (DurableActionGateway.dispatch plan identity decision started).Follows
      (Protocol.history Evidenced) past (ReturnsProven plan) := by
  apply unclaiming_bind (connector_makes unclaiming_of_plain _) _ returnsProven_error
  intro handle history grown
  have still : BegunIn plan history := by
    obtain ⟨now, reply, member⟩ := begun
    exact ⟨now, reply, grown.subset member⟩
  have attempted : ((mutateThen plan).attempt ActionError.isException).Follows
      (Protocol.history Evidenced) history fun ended later => ∀ outcome result,
        ended = .ok outcome → outcome = .ok result →
          AnsweredIn (mutateCall plan) result later ∧ result.isMapping = true := by
    apply (mutateThen_evidenced still).attempt
    · intro outcome later answered outcome' result same returned
      cases same
      exact answered.2 result returned
    · intro error later _ outcome result same
      cases same
  apply attempted.bind
  · intro outcome later given
    cases outcome with
    | error error => exact outcomeUnknown_evidenced identity
    | ok result =>
      obtain ⟨answered, mapping⟩ := given _ result rfl rfl
      exact connectorAnswered_evidenced identity decision started answered mapping
  · exact fun error later _ => returnsProven_error error later

/-- A replay of a proven plan. -/
theorem replay_evidenced (identity : RequestIdentity) (started : DateTime) (receipt : StoredReceipt)
    (proven : Proven plan past) :
    (replay plan identity started receipt).Follows (Protocol.history Evidenced) past
      (ReturnsProven plan) := by
  apply unclaiming_bind (append_makes unclaiming_of_plain ..) _ returnsProven_error
  intro audit history grown
  exact returns_evidenced (proven.mono grown)

/-- `execute` after its checks. -/
theorem executeChecked_evidenced (identity : RequestIdentity) (decision : PolicyDecision)
    (started : DateTime) :
    (DurableActionGateway.executeChecked plan identity decision started).Follows
      (Protocol.history Evidenced) past (ReturnsProven plan) := by
  apply Follows.bind (transaction_history _ trivial fun _ => trivial)
  · intro record history prepared
    unfold executePrepared
    split
    · rename_i receipt executed _
      refine replay_evidenced identity started receipt ?_
      rcases prepared.2 record rfl with returned | ⟨wrote, read⟩
      · exact .found record ⟨_, _, returned⟩ executed
      · exact .overtaken record ⟨_, _, wrote⟩ read executed
    · apply Follows.bind (transaction_history _ trivial fun _ => trivial)
      · intro found later begun
        apply dispatch_evidenced
        rcases begun.2 found rfl with returned | ⟨wrote, -⟩
        · exact ⟨_, _, returned⟩
        · exact ⟨_, _, wrote⟩
      · exact fun error later _ => returnsProven_error error later
  · exact fun error history _ => returnsProven_error error history

/-- `execute`. -/
theorem execute_evidenced (preview : ActionPreview) (identity : RequestIdentity)
    (approval : Option ActionApproval) :
    (DurableActionGateway.execute plan preview identity approval).Follows
      (Protocol.history Evidenced) past (ReturnsProven plan) := by
  apply unclaiming_bind (passGates_makes unclaiming_of_plain ..) _ returnsProven_error
  intro checked history _
  exact executeChecked_evidenced identity checked.2 checked.1

/-- The question of `reconcile` to the source. -/
theorem askSource_evidenced (identity : RequestIdentity) (decision : PolicyDecision)
    (startedAt : DateTime) :
    (askSource plan identity decision startedAt).Follows (Protocol.history Evidenced) past
      (ReturnsProven plan) := by
  apply unclaiming_bind (connector_makes unclaiming_of_plain _) _ returnsProven_error
  intro handle history _
  by_cases reconciles : handle.hasReconcile = true
  · rw [if_pos reconciles]
    refine ⟨trivial, fun _ _ => ⟨trivial, fun reply _ => ?_⟩⟩
    cases reply with
    | error error => exact returnsProven_error error _
    | ok result =>
      change (reconciled plan identity decision startedAt result).Follows _ _ _
      unfold reconciled
      by_cases proof : proves result = true
      · rw [if_pos proof]
        apply unclaiming_bind (now_makes unclaiming_of_plain) _ returnsProven_error
        intro completed clocked grown
        apply unclaiming_bind (makes_ofExcept _) _ returnsProven_error
        intro version told further
        apply unclaiming_bind (append_makes unclaiming_of_plain ..) _ returnsProven_error
        intro audit audited longer
        refine complete_evidenced (.reconciled result ?_ proof) (fun record history proven =>
          returns_evidenced proven) returnsProven_error
        exact (grown.trans (further.trans longer)).subset (by
          simp [Protocol.history, reconcileCall])
      · rw [if_neg proof]
        apply unclaiming_bind (now_makes unclaiming_of_plain) _ returnsProven_error
        intro failed clocked _
        apply Follows.bind (transaction_history _ trivial fun _ => trivial)
        · exact fun record later _ => returnsProven_error _ later
        · exact fun error later _ => returnsProven_error error later
  · rw [if_neg reconciles]
    exact returnsProven_error _ history

/-- `reconcile`. -/
theorem reconcile_evidenced (identity : RequestIdentity) :
    (reconcile plan identity).Follows (Protocol.history Evidenced) past (ReturnsProven plan) := by
  apply unclaiming_bind (authorize_makes unclaiming_of_plain ..) _ returnsProven_error
  intro decision history _
  by_cases allowed : decision.allowed = true
  · rw [if_pos allowed]
    refine ⟨trivial, fun reply _ => ?_⟩
    cases reply with
    | error error => exact returnsProven_error error _
    | ok found =>
      change (reconcileRecord plan identity decision found).Follows _ _ _
      cases found with
      | none => exact returnsProven_error _ _
      | some record =>
        unfold reconcileRecord
        dsimp only
        split
        · exact returnsProven_error _ _
        · rename_i checked
          split
          · rename_i receipt executed holds
            intro returned _
            exact .read record (by simp [ReadIn, Protocol.history]) executed
              (Journal.of_checkDigest checked)
          · exact askSource_evidenced identity decision record.startedAt
          · exact askSource_evidenced identity decision record.startedAt
          · exact returnsProven_error _ _
  · rw [if_neg allowed]
    exact returnsProven_error _ history

end Coroutines

/-- Every call of a durable gateway goes by evidence, and a receipt it returns is of a plan that its
calls prove to be applied. -/
theorem program_evidenced (call : GatewayCall) :
    (call.program .durable).Follows (Protocol.history Evidenced) [] fun outcome history =>
      ∀ receipt, outcome = .ok (.receipt receipt) → Proven call.executed history := by
  have returns : ∀ {plan : SourceActionPlan} {program : GatewayProgram StoredReceipt}
      {past : List gatewaySignature.Event},
      program.Follows (Protocol.history Evidenced) past (ReturnsProven plan) →
        (program.bind fun receipt => .ret (.receipt receipt)).Follows (Protocol.history Evidenced)
          past fun outcome history =>
            ∀ receipt, outcome = .ok (Returned.receipt receipt) → Proven plan history := by
    intro plan program past follows
    apply follows.bind
    · intro receipt history proven _ _
      exact proven receipt rfl
    · intro error history _ receipt same
      cases same
  cases call with
  | preview action identity ttl =>
    refine unclaiming_bind (preview_makes unclaiming_of_plain ..) ?_ ?_
    · intro shown history _ receipt same
      cases same
    · intro error history receipt same
      cases same
  | execute action preview identity approval => exact returns (execute_evidenced ..)
  | compensate original receipt identity approval =>
    cases declared : original.compensation with
    | none =>
      simp only [GatewayCall.program, GatewayKind.compensate, declared]
      intro receipt same
      cases same
    | some spec =>
      simp only [GatewayCall.program, GatewayKind.compensate, GatewayCall.executed, declared]
      apply returns
      apply unclaiming_bind (previewCompensation_makes unclaiming_of_plain ..) _ returnsProven_error
      intro shown history _
      apply Follows.bind (execute_evidenced shown identity none)
      · intro compensated later proven
        have recorded := recordCompensation_makes unclaiming_of_plain original receipt compensated
        apply (recorded.follows_history evidenced_of_unclaiming later).mono
        intro outcome final grown returned _
        exact (proven compensated rfl).mono grown
      · exact fun error later _ => returnsProven_error error later
  | reconcile action identity => exact returns (reconcile_evidenced identity)

end DataHarness
