import DataHarness.Gateway.Deployment
import Mathlib.Data.List.Perm.Subperm

/-!
# Gateways over the lab sources

`LabMutationConnector` is a source of the kind a deployment needs, so whatever happens between the
durable gateways and their lab sources, the journal, the receipts and the sources agree, and no plan
has two effects (`deployment_agrees`). A gateway that crashes after its request was served learns of
the effect by reconciliation.
-/

namespace DataHarness

open Effect Transition ActionGateway DurableActionGateway

/-! ## The lab source -/

namespace LabResult

variable (result : LabResult)

/-- A flag of a mapping that is behind its first item. -/
theorem flagged_bool (key : String) (flag : Bool) (entries : List (PyKey × PyValue)) (text : String)
    (found : lookupKey key entries = some (.bool flag)) :
    (PyValue.mapping entries text).flagged key = flag := by
  have get : (PyValue.mapping entries text).get key = some (.bool flag) := found
  unfold PyValue.flagged
  rw [get]
  cases flag <;> rfl

/-- The answer to a mutation reports success exactly if its result does. -/
@[simp] theorem succeeded_answer :
    succeeded result.answer = (result.success && result.postconditionsMet) := by
  have success : result.answer.flagged "success" = result.success := flagged_bool _ _ _ _ rfl
  have met : result.answer.flagged "postconditions_met" = result.postconditionsMet :=
    flagged_bool _ _ _ _ (by simp [items, lookupKey])
  rw [succeeded, success, met]

/-- So does the answer to a repeated one. -/
@[simp] theorem succeeded_replayed :
    succeeded result.replayed = (result.success && result.postconditionsMet) := by
  have success : result.replayed.flagged "success" = result.success := flagged_bool _ _ _ _ rfl
  have met : result.replayed.flagged "postconditions_met" = result.postconditionsMet :=
    flagged_bool _ _ _ _ (by simp [items, lookupKey])
  rw [succeeded, success, met]

/-- So does the answer to a reconciliation. -/
@[simp] theorem proves_reconciled :
    proves result.reconciled = (result.success && result.postconditionsMet) := by
  have applied : result.reconciled.flagged "applied" = result.success := flagged_bool _ _ _ _ rfl
  have met : result.reconciled.flagged "postconditions_met" = result.postconditionsMet :=
    flagged_bool _ _ _ _ (by simp [items, lookupKey])
  rw [proves, applied, met]
  rfl

end LabResult

namespace LabMutationConnector

variable [FloatNumbers]

/-- The answer of the connector to a call. -/
def receive (connector : LabMutationConnector) :
    ConnectorCall → Except ActionError PyValue × LabMutationConnector
  | .mutate _ request => connector.mutate request
  | .reconcile _ request => (.ok (connector.reconcile request), connector)

/-- The action applied under a key, and whether its postconditions were met. -/
def outcome (connector : LabMutationConnector) (key : String) : Option (String × Bool) :=
  (connector.idempotency.get? key).map fun held =>
    (held.1, held.2.success && held.2.postconditionsMet)

/-- An answer to a mutation that vouches for it tells what its key holds. -/
theorem vouched_mutate (connector : LabMutationConnector) (request : MutationRequest)
    {result : PyValue} (answered : (connector.mutate request).1 = .ok result)
    (success : succeeded result = true) :
    (connector.mutate request).2.outcome request.idempotencyKey =
      some (request.actionId, true) := by
  have unrefused : result ≠ connector.refused.answer := by
    rintro rfl
    simp [refused] at success
  unfold mutate at answered ⊢
  split at answered
  · rename_i actionId held found
    split at answered
    · exact absurd (Except.ok.inj answered).symm unrefused
    · rename_i same
      rw [if_neg same]
      obtain rfl := Except.ok.inj answered
      rw [LabResult.succeeded_replayed] at success
      rw [outcome, found, Option.map_some, success, not_not.mp same]
  · split at answered
    · cases answered
    · exact absurd (Except.ok.inj answered).symm unrefused
    · split at answered
      · cases answered
      · rename_i newValue read
        split at answered
        · cases answered
        · rename_i text told
          obtain rfl := Except.ok.inj answered
          rw [LabResult.succeeded_answer] at success
          rw [outcome]
          simp [applying, success]

omit [FloatNumbers] in
/-- So does an answer to a reconciliation. -/
theorem vouched_reconcile (connector : LabMutationConnector) (request : ReconcileRequest)
    (proof : proves (connector.reconcile request) = true) :
    connector.outcome request.idempotencyKey = some (request.actionId, true) := by
  have unrefused : connector.reconcile request ≠ connector.refused.reconciled := by
    intro same
    rw [same, LabResult.proves_reconciled] at proof
    cases proof
  unfold reconcile at proof unrefused
  split at proof
  · rename_i free
    rw [free] at unrefused
    exact absurd rfl unrefused
  · rename_i actionId held found
    rw [found] at unrefused
    split at proof
    · rename_i other
      exact absurd (if_pos other) unrefused
    · rename_i same
      rw [LabResult.proves_reconciled] at proof
      rw [outcome, found, Option.map_some, proof, not_not.mp same]

/-- The connector binds each key it applies to one action. -/
def source : MutationSource LabMutationConnector where
  receive := receive
  outcome := outcome
  kept connector call key found present := by
    cases call with
    | reconcile => exact present
    | mutate sourceId request =>
      obtain ⟨held, there, same⟩ := Option.map_eq_some_iff.mp present
      have still : (connector.mutate request).2.idempotency.get? key = some held :=
        receiver.held_receive request there
      show ((connector.mutate request).2.idempotency.get? key).map _ = some found
      rw [still, Option.map_some, same]
  only connector call key found present := by
    cases call with
    | reconcile => exact .inl present
    | mutate sourceId request =>
      change (connector.mutate request).2.outcome key = some found at present
      rcases mutate_cases connector request with kept | ⟨free, -, newValue, text, -, applied⟩
      · rw [kept] at present
        exact .inl present
      · rw [applied, outcome] at present
        by_cases here : request.idempotencyKey = key
        · simp only [applying, Dict.get?_set, here, if_true, Option.map_some,
            Option.some.injEq] at present
          exact .inr ⟨rfl, here.symm, by rw [← present]; rfl⟩
        · simp only [applying, Dict.get?_set, here, if_false] at present
          exact .inl present
  vouched connector call result answered vouches := by
    cases call with
    | mutate sourceId request =>
      have success : succeeded result = true := by
        simp only [ConnectorCall.vouches, Bool.and_eq_true] at vouches
        exact vouches.2
      exact vouched_mutate connector request answered success
    | reconcile sourceId request =>
      obtain rfl := Except.ok.inj answered
      exact vouched_reconcile connector request vouches

end LabMutationConnector

/-! ## The gateways and their lab sources -/

section Lab

variable [Stdlib] [FloatNumbers] {key : IntegrityKey} {events : List DeploymentEvent}
  {start : String → LabMutationConnector} {last : Deployment LabMutationConnector}

/-- A source has received some mutations, one after the other. -/
theorem run_sources
    (run : (Deployment.system key LabMutationConnector.source).Run (.initial start) events last)
    (sourceId : String) :
    ∃ requests, last.sources sourceId =
      LabMutationConnector.receiver.after (start sourceId) requests := by
  induction run with
  | nil => exact ⟨[], rfl⟩
  | snoc before step ih =>
    obtain ⟨requests, same⟩ := ih
    cases step with
    | gateway label after moves delivered => exact ⟨requests, same⟩
    | source call sent =>
      rename_i deployment
      by_cases here : sourceId = call.sourceId
      · have served : (deployment.serve LabMutationConnector.source call).sources sourceId =
            ((deployment.sources sourceId).receive call).2 := by
          rw [here]
          exact if_pos rfl
        cases call with
        | reconcile other request => exact ⟨requests, served.trans same⟩
        | mutate other request =>
          refine ⟨requests ++ [request], ?_⟩
          rw [served, same, Receiver.after_append]
          rfl
      · have still : (deployment.serve LabMutationConnector.source call).sources sourceId =
            deployment.sources sourceId := if_neg here
        exact ⟨requests, still.trans same⟩

omit [FloatNumbers] in
/-- A record has the action id of every plan with its digest, when SHA-256 has no collision. -/
theorem record_actionId (injective : Sha256Injective)
    (run : (gateways key fun _ => .durable).system.Run ⟨.initial, []⟩ (Deployment.labels events)
      last.pool) {row : RecordRow} (member : row ∈ last.journal.records.rows)
    {plan : SourceActionPlan} (digest : row.actionDigest = plan.digest) :
    row.actionId = plan.actionId := by
  have replayed : last.journal =
      Journal.replay key .empty (transactions (Deployment.labels events)) := run_journal run
  rw [replayed] at member
  have identified := replay_identified injective key (transactions (Deployment.labels events))
  obtain ⟨prepared, named, same⟩ := identified.planned row member
  rw [named]
  exact SourceActionPlan.actionId_of_digest injective (same.symm.trans digest)

/-- Whatever the gateways do, in any interleaving, with crashes, and with requests that are served
late, more than once or not at all: a record is executed only if its source applied its action with
the postconditions met, a source has applied only actions whose records have left the prepared
state, each of them once, and a receipt is returned only of a plan that was applied. -/
theorem deployment_agrees (injective : Sha256Injective) (assets values : String → String)
    (versions : String → Int)
    (run : (Deployment.system key LabMutationConnector.source).Run
      (.initial fun sourceId => .initial (assets sourceId) (values sourceId) (versions sourceId))
      events last) :
    (∀ row ∈ last.journal.records.rows, row.state = DurableActionState.executed.value →
      (last.sources row.sourceId).outcome row.idempotencyKey = some (row.actionId, true)) ∧
    (∀ sourceId key actionId met, (last.sources sourceId).outcome key = some (actionId, met) →
      ∃ row ∈ last.journal.records.rows, row.binding = (sourceId, key) ∧
        row.actionId = actionId ∧ row.state ≠ DurableActionState.prepared.value) ∧
    (∀ task ∈ last.pool.tasks, ∀ receipt, task.rest = some (.ret (.receipt receipt)) →
      (last.sources task.owner.call.executed.sourceId).outcome
        task.owner.call.executed.idempotencyKey =
          some (task.owner.call.executed.actionId, true)) ∧
    ∀ sourceId, (last.sources sourceId).mutationCount ≤
      last.journal.records.rows.countP fun row =>
        decide (row.sourceId = sourceId ∧ row.state ≠ DurableActionState.prepared.value) := by
  have fresh : ∀ sourceId key, LabMutationConnector.source.outcome
      (LabMutationConnector.initial (assets sourceId) (values sourceId) (versions sourceId)) key =
        none := fun _ _ => rfl
  have sound := Deployment.run_sound injective fresh run
  have ran := Deployment.run_gateways run
  have begun : ∀ sourceId key actionId met,
      (last.sources sourceId).outcome key = some (actionId, met) →
        ∃ row ∈ last.journal.records.rows, row.binding = (sourceId, key) ∧
          row.actionId = actionId ∧ row.state ≠ DurableActionState.prepared.value := by
    intro sourceId key actionId met present
    obtain ⟨plan, bound, named, row, found, digest, left⟩ :=
      sound.started sourceId key (actionId, met) present
    have member := Table.mem_of_find? found
    refine ⟨row, member, ?_, ?_, left⟩
    · rw [Table.key_of_find? found, bound]
    · rw [record_actionId injective ran member digest, named]
  refine ⟨?_, begun, ?_, ?_⟩
  · intro row member executed
    obtain ⟨plan, bound, digest, applied⟩ :=
      sound.executed row.binding row (Table.find?_of_mem member) executed
    obtain ⟨sourceId, idempotencyKey⟩ := Prod.mk.inj bound
    have named := record_actionId injective ran member digest.symm
    rw [named, ← sourceId, ← idempotencyKey]
    exact applied
  · intro task member receipt returned
    exact Deployment.applied_of_returned injective run sound member returned
  · intro sourceId
    obtain ⟨requests, same⟩ := run_sources run sourceId
    let applied := LabMutationConnector.receiver.applied (.initial (assets sourceId)
      (values sourceId) (versions sourceId)) requests
    let started := last.journal.records.rows.filter fun row =>
      decide (row.sourceId = sourceId ∧ row.state ≠ DurableActionState.prepared.value)
    have count : (last.sources sourceId).mutationCount =
        (applied.map MutationRequest.idempotencyKey).length := by
      rw [same, LabMutationConnector.mutationCount_after, List.length_map]
      exact Nat.zero_add _
    have unique : (applied.map MutationRequest.idempotencyKey).Nodup :=
      LabMutationConnector.receiver.nodup_applied _ requests
    have inside : applied.map MutationRequest.idempotencyKey ⊆
        started.map RecordRow.idempotencyKey := by
      intro name member
      have held := (LabMutationConnector.receiver.held_iff_applied requests name).mpr
        (.inr (List.mem_map.mp member))
      obtain ⟨⟨actionId, result⟩, held⟩ := Option.isSome_iff_exists.mp held
      have present : (last.sources sourceId).outcome name =
          some (actionId, result.success && result.postconditionsMet) := by
        rw [same, LabMutationConnector.outcome]
        exact congrArg (Option.map _) held
      obtain ⟨row, member, bound, -, left⟩ := begun sourceId name _ _ present
      obtain ⟨own, named⟩ := Prod.mk.inj bound
      refine List.mem_map.mpr ⟨row, List.mem_filter.mpr ⟨member, ?_⟩, named⟩
      exact decide_eq_true ⟨own, left⟩
    have most := (List.subperm_of_subset unique inside).length_le
    have kept : (started.map RecordRow.idempotencyKey).length = started.length := List.length_map _
    rw [kept] at most
    rw [count, List.countP_eq_length_filter]
    exact most

end Lab

/-! ## A run -/

namespace Deployment

deriving instance DecidableEq for Json.FloatText, Scalar, Dict, MutationRequest, ReconcileRequest,
  ConnectorCall

/-- The surroundings of the gateways, with the answers the sources gave. -/
def answering {σ : Type} (deployment : Deployment σ) (world : World gatewaySignature) :
    World gatewaySignature
  | .await call =>
    match deployment.answers.lookup call with
    | some result => .ok result
    | none => .error (.other "no answer")
  | op => world op

/-- What decides the next step of a deployment. -/
inductive Choice
  | gateway (choice : Machine.Choice gatewaySignature Owner)
  /-- A source serves the call that was sent last. -/
  | serve

variable {σ : Type} [Stdlib]

/-- The step a choice makes, when it can be made. -/
def choose (key : IntegrityKey) (source : MutationSource σ) (deployment : Deployment σ) :
    Choice → Option (DeploymentEvent × Deployment σ)
  | .gateway choice =>
    let informed : Machine.Choice gatewaySignature Owner :=
      match choice with
      | .perform index world => .perform index (deployment.answering world)
      | other => other
    match (gateways key fun _ => .durable).choose deployment.pool informed with
    | some (label, pool) => some (.gateway label, { deployment with
        pool
        requested := (invoked? label).toList ++ deployment.requested })
    | none => none
  | .serve =>
    match deployment.requested with
    | call :: _ => some (.source call, deployment.serve source call)
    | [] => none

variable {key : IntegrityKey} {source : MutationSource σ}

omit [Stdlib] in
/-- What the surroundings answer to a call was given as an answer. -/
theorem delivered_answering (deployment : Deployment σ) (world : World gatewaySignature)
    (index : Nat) (owner : Owner) (call : ConnectorCall) :
    Delivered deployment.answers
      (.perform index owner (.await call) (deployment.answering world (.await call))) := by
  unfold answering
  dsimp only
  split
  · rename_i result found
    exact Table.mem_of_lookup found
  · trivial

/-- A choice makes a step. -/
theorem choose_step {deployment after : Deployment σ} {choice : Choice} {event : DeploymentEvent}
    (made : deployment.choose key source choice = some (event, after)) :
    Step key source deployment event after := by
  cases choice with
  | serve =>
    simp only [choose] at made
    split at made
    · rename_i call rest sent
      obtain ⟨rfl, rfl⟩ := Prod.mk.inj (Option.some.inj made)
      exact .source deployment call (by rw [sent]; exact List.mem_cons_self)
    · cases made
  | gateway choice =>
    simp only [choose] at made
    split at made
    · rename_i label pool chosen
      obtain ⟨rfl, rfl⟩ := Prod.mk.inj (Option.some.inj made)
      have moves := Machine.choose_step chosen
      refine .gateway deployment label pool moves ?_
      cases choice with
      | perform index world =>
        simp only [Machine.choose] at chosen
        split at chosen
        · rename_i owner op next ready
          obtain ⟨rfl, rfl⟩ := Prod.mk.inj (Option.some.inj chosen)
          cases op with
          | await call => exact delivered_answering deployment world index owner call
          | _ => trivial
        · cases chosen
      | _ =>
        obtain ⟨rfl, rfl⟩ := Prod.mk.inj (Option.some.inj chosen)
        trivial
    · cases made

/-- Play a script, as far as every choice can be made. -/
def play (key : IntegrityKey) (source : MutationSource σ) :
    Deployment σ → List Choice → Option (Deployment σ)
  | deployment, [] => some deployment
  | deployment, choice :: script =>
    match deployment.choose key source choice with
    | some (_, next) => play key source next script
    | none => none

/-- A script that can be played is a run. -/
theorem play_run {deployment last : Deployment σ} {script : List Choice}
    (played : play key source deployment script = some last) :
    ∃ events, (system key source).Run deployment events last := by
  induction script generalizing deployment with
  | nil =>
    obtain rfl := Option.some.inj played
    exact ⟨[], .nil⟩
  | cons choice script ih =>
    simp only [play] at played
    split at played
    · rename_i event next chosen
      obtain ⟨events, run⟩ := ih played
      exact ⟨event :: events, .cons (choose_step chosen) run⟩
    · cases played

end Deployment

/-- One member has one key. -/
theorem distinct_newValue (value : Scalar) :
    ([("newValue", value)].map Prod.fst).Nodup := List.nodup_singleton _

/-- The version and the value that an order is expected to have are two preconditions. -/
theorem distinct_expected (version value : Scalar) :
    ([("expectedVersion", version), ("expectedValue", value)].map Prod.fst).Nodup := by
  simp

/-- The texts of the plan are not empty. -/
theorem orderHold_identity :
    ∀ value ∈ ["action", "erp", "orders", "set", "first", "hold"], value ≠ "" := by
  simp

/-- Neither are its parameters and its preconditions. -/
theorem orderHold_content (parameter : String × Scalar) (precondition : String × Scalar)
    (parameters preconditions : List (String × Scalar)) :
    parameter :: parameters ≠ [] ∧ precondition :: preconditions ≠ [] :=
  ⟨List.cons_ne_nil _ _, List.cons_ne_nil _ _⟩

/-- A plan of low risk needs no approval. -/
theorem orderHold_approval : ActionRisk.low = .high → ApprovalMode.none = .human := by
  simp

/-- A plan for an order that is open, in its first version. -/
def orderHold : SourceActionPlan where
  actionId := "action"
  sourceId := "erp"
  assetId := "orders"
  operation := "set"
  parameters := ⟨[("newValue", .str "held")], distinct_newValue _⟩
  preconditions := ⟨[("expectedVersion", .int 1), ("expectedValue", .str "open")],
    distinct_expected _ _⟩
  idempotencyKey := "first"
  risk := .low
  approvalMode := .none
  purpose := "hold"
  compensation := none
  identity := orderHold_identity
  content := orderHold_content _ _ _ _
  approval := orderHold_approval

/-- So many calls of one task. -/
def deploymentCalls (index count : Nat) : List Deployment.Choice :=
  List.replicate count (.gateway (.perform index (obliging (.error .assertionError))))

/-- The gateway sends a mutation and crashes, the source serves it twice, and another gateway
reconciles the plan. -/
def servedAfterCrash [Stdlib] : List Deployment.Choice :=
  .gateway (.spawn (smallExecution 0 orderHold)) :: deploymentCalls 0 9 ++
    [.gateway .crash, .serve, .serve, .gateway (.spawn (smallReconciliation 1 orderHold))] ++
      deploymentCalls 1 5 ++ .serve :: deploymentCalls 1 6

/-- The order, before anything was sent. -/
def orders (_ : String) : LabMutationConnector := .initial "orders" "open" 1

/-- The effect of the request of a crashed gateway is found, and there is one. -/
theorem deployment_agrees_crashed : letI := Stdlib.transparent
    letI := FloatNumbers.refusing
    ∃ events, ∃ last : Deployment LabMutationConnector,
      (Deployment.system .small LabMutationConnector.source).Run (.initial orders) events last ∧
        ∃ row ∈ last.journal.records.rows, row.state = DurableActionState.executed.value ∧
          (last.sources row.sourceId).outcome row.idempotencyKey = some (row.actionId, true) := by
  let := Stdlib.transparent
  let := FloatNumbers.refusing
  have passed : (Deployment.play .small LabMutationConnector.source (.initial orders)
      servedAfterCrash).any (fun last => last.journal.records.rows.any fun row =>
        decide (row.state = DurableActionState.executed.value)) = true := by
    decide +kernel
  obtain ⟨last, played, seen⟩ := (Option.any_eq_true _ _).mp passed
  obtain ⟨events, run⟩ := Deployment.play_run played
  obtain ⟨row, member, executed⟩ := List.any_eq_true.mp seen
  refine ⟨events, last, run, row, member, of_decide_eq_true executed, ?_⟩
  exact (deployment_agrees Stdlib.transparent_sha256 (fun _ => "orders") (fun _ => "open")
    (fun _ => 1) run).1 row member (of_decide_eq_true executed)

end DataHarness
