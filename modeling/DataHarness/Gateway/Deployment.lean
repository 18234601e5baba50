import DataHarness.Durability.Invariant
import DataHarness.Gateway.Evidence
import DataHarness.Gateway.Source

/-!
# Gateways, a journal and the sources behind them

Durable gateways over one journal, in any interleaving and with crashes, and the sources they send
mutations to. A request that was sent may be served late, more than once or never, and an answer may
come late or get lost. A source that applies a key once (`MutationSource`) and the journal agree all
the same: what the journal calls executed was applied, what was applied was begun
(`Deployment.Sound`), and a returned receipt is of a plan that was applied.
-/

namespace DataHarness

open Effect Transition ActionGateway DurableActionGateway

/-! ## Sources -/

namespace ConnectorCall

/-- The source a call goes to. -/
def sourceId : ConnectorCall → String
  | .mutate sourceId _ => sourceId
  | .reconcile sourceId _ => sourceId

/-- The idempotency key of a call. -/
def key : ConnectorCall → String
  | .mutate _ request => request.idempotencyKey
  | .reconcile _ request => request.idempotencyKey

/-- The action of a call. -/
def actionId : ConnectorCall → String
  | .mutate _ request => request.actionId
  | .reconcile _ request => request.actionId

/-- The call is a mutation. -/
def mutates : ConnectorCall → Bool
  | .mutate _ _ => true
  | .reconcile _ _ => false

/-- What a gateway takes as a proof that the action was applied. -/
def vouches (call : ConnectorCall) (result : PyValue) : Bool :=
  match call with
  | .mutate _ _ => result.isMapping && succeeded result
  | .reconcile _ _ => proves result

end ConnectorCall

/-- A source of mutations that binds each key it applies to one action. -/
structure MutationSource (σ : Type) where
  /-- The answer to a call and the state after it. -/
  receive : σ → ConnectorCall → Except ActionError PyValue × σ
  /-- The action applied under a key, and whether its postconditions were met. -/
  outcome : σ → String → Option (String × Bool)
  /-- What was applied stays applied. -/
  kept : ∀ state call key found, outcome state key = some found →
    outcome (receive state call).2 key = some found
  /-- Only a mutation applies something, under its own key and for its own action. -/
  only : ∀ state call key found, outcome (receive state call).2 key = some found →
    outcome state key = some found ∨
      call.mutates = true ∧ key = call.key ∧ found.1 = call.actionId
  /-- An answer that is taken as a proof is one. -/
  vouched : ∀ state call result, (receive state call).1 = .ok result → call.vouches result = true →
    outcome (receive state call).2 call.key = some (call.actionId, true)

/-! ## The system -/

/-- The gateways and what surrounds them. -/
structure Deployment (σ : Type) where
  /-- The tasks of the gateways, over one journal. -/
  pool : Pool gatewaySignature ActionError Returned Owner Shared
  /-- The sources by id. -/
  sources : String → σ
  /-- The calls that were sent to a source. -/
  requested : List ConnectorCall
  /-- The answers the sources gave. -/
  answers : List (ConnectorCall × PyValue)

/-- A step of a deployment: of the gateways, or of a source that serves a call. -/
inductive DeploymentEvent
  | gateway (label : Label gatewaySignature Owner)
  | source (call : ConnectorCall)

/-- The step of the gateways, if it is one. -/
def DeploymentEvent.label? : DeploymentEvent → Option (Label gatewaySignature Owner)
  | .gateway label => some label
  | .source _ => none

/-- The call a step sends to a source. -/
def invoked? : Label gatewaySignature Owner → Option ConnectorCall
  | .perform _ _ (.invoke call) _ => some call
  | _ => none

/-- A result that is awaited was given as an answer to the call; a call may always fail. -/
def Delivered (answers : List (ConnectorCall × PyValue)) : Label gatewaySignature Owner → Prop
  | .perform _ _ (.await call) (.ok result) => (call, result) ∈ answers
  | _ => True

namespace Deployment

variable {σ : Type}

/-- The journal of the gateways. -/
def journal (deployment : Deployment σ) : Journal := deployment.pool.shared.journal

/-- A source serves a call. -/
def serve (source : MutationSource σ) (call : ConnectorCall) (deployment : Deployment σ) :
    Deployment σ :=
  let served := source.receive (deployment.sources call.sourceId) call
  { deployment with
    sources := fun other => if other = call.sourceId then served.2 else deployment.sources other
    answers := match served.1 with
      | .ok result => (call, result) :: deployment.answers
      | .error _ => deployment.answers }

/-- The gateways before any call, over an empty journal. -/
def initial (sources : String → σ) : Deployment σ := ⟨⟨.initial, []⟩, sources, [], []⟩

variable [Stdlib]

/-- One step: the gateways make a step, or a source serves a call that was sent to it. -/
inductive Step (key : IntegrityKey) (source : MutationSource σ) :
    Deployment σ → DeploymentEvent → Deployment σ → Prop
  | gateway (deployment : Deployment σ) (label : Label gatewaySignature Owner)
    (after : Pool gatewaySignature ActionError Returned Owner Shared)
    (moves : (gateways key fun _ => .durable).Step deployment.pool label after)
    (delivered : Delivered deployment.answers label) :
    Step key source deployment (.gateway label) { deployment with
      pool := after
      requested := (invoked? label).toList ++ deployment.requested }
  | source (deployment : Deployment σ) (call : ConnectorCall)
    (sent : call ∈ deployment.requested) :
    Step key source deployment (.source call) (deployment.serve source call)

/-- Deployments as a transition system. -/
def system (key : IntegrityKey) (source : MutationSource σ) :
    System (Deployment σ) DeploymentEvent where
  step := Step key source

/-- The steps of the gateways in a run. -/
def labels (events : List DeploymentEvent) : List (Label gatewaySignature Owner) :=
  events.filterMap DeploymentEvent.label?

/-! ## What a deployment has done -/

/-- A plan was applied at its source, with its postconditions met. -/
def Applied (source : MutationSource σ) (deployment : Deployment σ) (plan : SourceActionPlan) :
    Prop :=
  source.outcome (deployment.sources plan.sourceId) plan.idempotencyKey =
    some (plan.actionId, true)

/-- A plan with this binding and digest was applied. -/
def AppliedAs (source : MutationSource σ) (deployment : Deployment σ) (binding : Binding)
    (digest : String) : Prop :=
  ∃ plan : SourceActionPlan, plan.binding = binding ∧ plan.digest = digest ∧
    deployment.Applied source plan

end Deployment

section Journal

variable [Stdlib] {key : IntegrityKey} {journal : Journal} {plan : SourceActionPlan}

/-- The binding of a plan has a record with its digest. -/
def Journal.Bound (journal : Journal) (plan : SourceActionPlan) : Prop :=
  ∃ row, journal.records.find? plan.binding = some row ∧ row.actionDigest = plan.digest

/-- The binding of a plan has a record with its digest that is no longer prepared. -/
def Journal.Started (journal : Journal) (plan : SourceActionPlan) : Prop :=
  ∃ row, journal.records.find? plan.binding = some row ∧ row.actionDigest = plan.digest ∧
    row.state ≠ DurableActionState.prepared.value

/-- Every record is continued by the one under its binding. -/
def Journal.Keeps (journal later : Journal) : Prop :=
  ∀ binding row, journal.records.find? binding = some row →
    ∃ other, later.records.find? binding = some other ∧ Journal.Continues row other

/-- A transaction keeps every record. -/
theorem Journal.keeps_commit (key : IntegrityKey) (journal : Journal) (tx : JournalTx) :
    journal.Keeps (journal.commit key tx) := by
  intro binding row present
  have grown := Journal.extends_commit key journal tx
  obtain ⟨later, member, continues⟩ := grown.records row (Table.mem_of_find? present)
  refine ⟨later, ?_, continues⟩
  have found := Table.find?_of_mem member
  have same : later.binding = binding := by
    rw [← Table.key_of_find? present]
    show (later.sourceId, later.idempotencyKey) = (row.sourceId, row.idempotencyKey)
    rw [continues.sourceId, continues.idempotencyKey]
  rw [same] at found
  exact found

omit [Stdlib] in
/-- A journal keeps its own records. -/
theorem Journal.Keeps.refl (journal : Journal) : journal.Keeps journal :=
  fun _ row present => ⟨row, present, .refl row⟩

/-- A plan that was started stays started. -/
theorem Journal.Started.mono {later : Journal} (started : journal.Started plan)
    (keeps : journal.Keeps later) : later.Started plan := by
  obtain ⟨row, present, digest, left⟩ := started
  obtain ⟨other, found, continues⟩ := keeps _ row present
  exact ⟨other, found, continues.actionDigest.trans digest, continues.left left⟩

/-- A plan that is bound stays bound. -/
theorem Journal.Bound.mono {later : Journal} (bound : journal.Bound plan)
    (keeps : journal.Keeps later) : later.Bound plan := by
  obtain ⟨row, present, digest⟩ := bound
  obtain ⟨other, found, continues⟩ := keeps _ row present
  exact ⟨other, found, continues.actionDigest.trans digest⟩

/-- A transaction that ends without an exception has its plan bound. -/
theorem Journal.bound_of_reply {tx : JournalTx} {returned : Option DurableActionRecord}
    (replied : journal.reply key tx = .ok returned) :
    (journal.commit key tx).Bound tx.action := by
  rcases Journal.transact_cases (Journal.transact_of_reply replied) with
    ⟨row, found, -, kept, present, read, same⟩ | ⟨-, wrote⟩
  · refine ⟨row, by rw [kept]; exact present, ?_⟩
    rw [← (reads_of_record read).actionDigest, same]
  · obtain ⟨event, written, write⟩ := wrote.write
    exact ⟨written, write.present, write.bound⟩

/-- A `begin` that ends without an exception has its plan started. -/
theorem Journal.started_of_begin {now : DateTime} {returned : Option DurableActionRecord}
    (replied : journal.reply key (.begin plan now) = .ok returned) :
    (journal.commit key (.begin plan now)).Started plan := by
  obtain ⟨row, present, digest⟩ := Journal.bound_of_reply replied
  refine ⟨row, present, digest, fun prepared => ?_⟩
  cases returned with
  | none =>
    obtain ⟨-, started⟩ := unstarted_of_begin replied
    apply started
    intro other there
    obtain rfl := Option.some.inj (present.symm.trans there)
    exact prepared
  | some found =>
    obtain ⟨other, there, read, executed⟩ := Journal.executed_of_begin replied
    rw [(Journal.get_of_reply replied).1] at present
    obtain rfl := Option.some.inj (present.symm.trans there)
    have state := (reads_of_record read).state
    rw [executed, prepared] at state
    exact absurd (DurableActionState.value_injective state) (by decide)

/-- A record that is written as executed is written by `complete`. -/
theorem Rewritten.completes {tx : JournalTx} {written : RecordRow}
    (rewritten : Rewritten journal tx written)
    (executed : written.state = DurableActionState.executed.value) :
    ∃ receipt now, tx = .complete tx.action receipt now := by
  cases rewritten with
  | prepared => simp [Journal.preparedRow, DurableActionState.value] at executed
  | begun => simp [Journal.setExecuting, DurableActionState.value] at executed
  | finished _ outcome digest row closing present =>
    have state : outcome.state = .executed := DurableActionState.value_injective executed
    cases tx with
    | prepare => cases closing
    | «begin» => cases closing
    | complete action receipt now => exact ⟨receipt, now, rfl⟩
    | fail =>
      obtain rfl := Option.some.inj closing
      cases state
    | requireReconciliation =>
      obtain rfl := Option.some.inj closing
      cases state

end Journal

namespace Deployment

variable {σ : Type} [Stdlib] {key : IntegrityKey} {source : MutationSource σ}
  {deployment after : Deployment σ} {plan : SourceActionPlan}

/-! ## What every step keeps -/

/-- What every step keeps: what was applied, what was answered and the records. -/
structure Grows (source : MutationSource σ) (deployment after : Deployment σ) : Prop where
  applied : ∀ sourceId key found, source.outcome (deployment.sources sourceId) key = some found →
    source.outcome (after.sources sourceId) key = some found
  answers : ∀ answer ∈ deployment.answers, answer ∈ after.answers
  journal : deployment.journal.Keeps after.journal

omit [Stdlib] in
/-- A call that is served takes nothing back. -/
theorem serve_grows (call : ConnectorCall) :
    Grows source deployment (deployment.serve source call) where
  applied sourceId key found present := by
    show source.outcome (if sourceId = call.sourceId then _ else _) key = some found
    by_cases here : sourceId = call.sourceId
    · rw [if_pos here]
      rw [here] at present
      exact source.kept _ call key found present
    · rw [if_neg here]
      exact present
  answers answer member := by
    simp only [serve]
    split
    · exact List.mem_cons_of_mem _ member
    · exact member
  journal := .refl _

/-- A step of the gateways takes nothing back. -/
theorem step_grows {label : Label gatewaySignature Owner}
    {pool : Pool gatewaySignature ActionError Returned Owner Shared}
    {requested : List ConnectorCall}
    (moves : (gateways key fun _ => .durable).Step deployment.pool label pool) :
    Grows source deployment { deployment with pool, requested } where
  applied _ _ _ present := present
  answers _ member := member
  journal := by
    show deployment.pool.shared.journal.Keeps pool.shared.journal
    cases moves with
    | perform index owner op next world ready =>
      show deployment.pool.shared.journal.Keeps
        (perform key owner.gateway world deployment.pool.shared op).2.journal
      rw [perform_journal]
      cases op with
      | journal tx => exact Journal.keeps_commit key _ tx
      | _ => exact .refl _
    | _ => exact .refl _

/-- A plan that was applied stays applied. -/
theorem AppliedAs.mono {binding : Binding} {digest : String}
    (applied : deployment.AppliedAs source binding digest) (grows : Grows source deployment after) :
    after.AppliedAs source binding digest := by
  obtain ⟨plan, bound, same, done⟩ := applied
  exact ⟨plan, bound, same, grows.applied _ _ _ done⟩

/-- The plan with this binding and digest is the one that was applied. -/
theorem applied_of_appliedAs (injective : Sha256Injective)
    (applied : deployment.AppliedAs source plan.binding plan.digest) :
    deployment.Applied source plan := by
  obtain ⟨other, binding, digest, done⟩ := applied
  have named := SourceActionPlan.actionId_of_digest injective digest
  obtain ⟨sourceId, idempotencyKey⟩ := Prod.mk.inj binding
  unfold Applied at done ⊢
  rw [sourceId, idempotencyKey, named] at done
  exact done

/-- What a reply to a gateway says is so. -/
def Upholds (source : MutationSource σ) (deployment : Deployment σ) :
    gatewaySignature.Event → Prop
  | ⟨.await call, .ok result⟩ => (call, result) ∈ deployment.answers
  | ⟨.journal (.begin plan _), .ok _⟩ => deployment.journal.Started plan
  | ⟨.journal (.prepare plan _ _), .ok returned⟩ => deployment.journal.Bound plan ∧
      ∀ record : DurableActionRecord, returned = some record → record.state = .executed →
        deployment.AppliedAs source plan.binding plan.digest
  | ⟨.get binding, .ok (some record)⟩ =>
      (∃ row, deployment.journal.records.find? binding = some row ∧
        row.actionDigest = record.actionDigest) ∧
      (record.state = .executed → deployment.AppliedAs source binding record.actionDigest)
  | _ => True

/-- What a reply said stays so. -/
theorem Upholds.mono {event : gatewaySignature.Event} (upholds : deployment.Upholds source event)
    (grows : Grows source deployment after) : after.Upholds source event := by
  obtain ⟨op, reply⟩ := event
  cases op with
  | await call =>
    cases reply with
    | error error => trivial
    | ok result => exact grows.answers _ upholds
  | journal tx =>
    cases tx with
    | «begin» plan now =>
      cases reply with
      | error error => trivial
      | ok returned => exact Journal.Started.mono upholds grows.journal
    | prepare plan decisionId now =>
      cases reply with
      | error error => trivial
      | ok returned =>
        obtain ⟨bound, applied⟩ := upholds
        exact ⟨bound.mono grows.journal, fun record same executed =>
          (applied record same executed).mono grows⟩
    | _ => trivial
  | get binding =>
    cases reply with
    | error error => trivial
    | ok found =>
      cases found with
      | none => trivial
      | some record =>
        obtain ⟨⟨row, present, digest⟩, applied⟩ := upholds
        obtain ⟨later, there, continues⟩ := grows.journal _ row present
        exact ⟨⟨later, there, continues.actionDigest.trans digest⟩, fun executed =>
          (applied executed).mono grows⟩
  | _ => trivial

/-! ## The invariant -/

/-- What holds of every deployment, by the calls its gateways have made. -/
structure Sound (source : MutationSource σ) (labels : List (Label gatewaySignature Owner))
    (deployment : Deployment σ) : Prop where
  /-- What was replied to a gateway is so. -/
  upheld : ∀ index owner op reply, Label.perform index owner op reply ∈ labels →
    deployment.Upholds source ⟨op, reply⟩
  /-- A mutation that was sent is of a plan that was started. -/
  requested : ∀ sourceId request, ConnectorCall.mutate sourceId request ∈ deployment.requested →
    ∃ plan, ConnectorCall.mutate sourceId request = mutateCall plan ∧
      deployment.journal.Started plan
  /-- An answer that is taken as a proof is one. -/
  answers : ∀ call result, (call, result) ∈ deployment.answers → call.vouches result = true →
    source.outcome (deployment.sources call.sourceId) call.key = some (call.actionId, true)
  /-- What the journal calls executed was applied. -/
  executed : ∀ binding row, deployment.journal.records.find? binding = some row →
    row.state = DurableActionState.executed.value →
      deployment.AppliedAs source binding row.actionDigest
  /-- What was applied is of a plan that was started. -/
  started : ∀ sourceId key found, source.outcome (deployment.sources sourceId) key = some found →
    ∃ plan : SourceActionPlan, plan.binding = (sourceId, key) ∧ plan.actionId = found.1 ∧
      deployment.journal.Started plan

variable {labels : List (Label gatewaySignature Owner)}

/-- A plan that the calls of a gateway prove to be applied was applied. -/
theorem Sound.applied_of_proven (injective : Sha256Injective)
    (sound : Sound source labels deployment) {history : List gatewaySignature.Event}
    (upheld : ∀ event ∈ history, deployment.Upholds source event)
    (proven : Proven plan history) : deployment.Applied source plan := by
  cases proven with
  | applied result answered mapping success =>
    have given : (mutateCall plan, result) ∈ deployment.answers := upheld _ answered
    have vouches : (mutateCall plan).vouches result = true := by
      simp [mutateCall, ConnectorCall.vouches, mapping, success]
    exact sound.answers _ result given vouches
  | reconciled result answered proof =>
    have given : (reconcileCall plan, result) ∈ deployment.answers := upheld _ answered
    exact sound.answers _ result given proof
  | read record read executed own =>
    have said : deployment.Upholds source ⟨.get plan.binding, .ok (some record)⟩ := upheld _ read
    have applied := said.2 executed
    rw [own] at applied
    exact applied_of_appliedAs injective applied
  | found record prepared executed =>
    obtain ⟨decisionId, now, member⟩ := prepared
    have said : deployment.Upholds source
        ⟨.journal (.prepare plan decisionId now), .ok (some record)⟩ := upheld _ member
    exact applied_of_appliedAs injective (said.2 record rfl executed)
  | overtaken record prepared read executed =>
    obtain ⟨decisionId, now, member⟩ := prepared
    have wrote : deployment.Upholds source ⟨.journal (.prepare plan decisionId now), .ok none⟩ :=
      upheld _ member
    have said : deployment.Upholds source ⟨.get plan.binding, .ok (some record)⟩ := upheld _ read
    obtain ⟨row, present, digest⟩ := wrote.1
    obtain ⟨⟨other, there, own⟩, applied⟩ := said
    obtain rfl := Option.some.inj (present.symm.trans there)
    rw [digest] at own
    rw [← own] at applied
    exact applied_of_appliedAs injective (applied executed)

omit [Stdlib] in
/-- A call of one task is a call of the run. -/
theorem performed_of_made {index : Nat} {event : gatewaySignature.Event}
    (made : event ∈ Machine.made labels index) :
    ∃ owner, Label.perform index owner event.1 event.2 ∈ labels := by
  obtain ⟨label, member, shown⟩ := List.mem_filterMap.mp made
  cases label with
  | perform position owner op reply =>
    simp only at shown
    split at shown
    · rename_i here
      obtain rfl := Option.some.inj shown
      rw [here] at member
      exact ⟨owner, member⟩
    · cases shown
  | _ => cases shown

/-- What was replied to one task is so. -/
theorem Sound.upheld_of_made (sound : Sound source labels deployment) {index : Nat} :
    ∀ event ∈ Machine.made labels index, deployment.Upholds source event := by
  intro event made
  obtain ⟨owner, member⟩ := performed_of_made made
  exact sound.upheld index owner event.1 event.2 member

/-- A source that serves a call that was sent keeps the invariant. -/
theorem Sound.serve (sound : Sound source labels deployment) {call : ConnectorCall}
    (sent : call ∈ deployment.requested) :
    Sound source labels (deployment.serve source call) := by
  have grows : Grows source deployment (deployment.serve source call) := serve_grows call
  refine ⟨?_, sound.requested, ?_, ?_, ?_⟩
  · intro index owner op reply member
    exact (sound.upheld index owner op reply member).mono grows
  · intro other result given vouches
    have either : (source.receive (deployment.sources call.sourceId) call).1 = .ok result ∧
        other = call ∨ (other, result) ∈ deployment.answers := by
      simp only [Deployment.serve] at given
      split at given
      · rename_i answer answered
        rcases List.mem_cons.mp given with new | old
        · obtain ⟨rfl, rfl⟩ := Prod.mk.inj new
          exact .inl ⟨answered, rfl⟩
        · exact .inr old
      · exact .inr given
    rcases either with ⟨answered, rfl⟩ | old
    · have served : (deployment.serve source other).sources other.sourceId =
          (source.receive (deployment.sources other.sourceId) other).2 := if_pos rfl
      rw [served]
      exact source.vouched _ other result answered vouches
    · exact grows.applied _ _ _ (sound.answers other result old vouches)
  · intro binding row present executed
    exact (sound.executed binding row present executed).mono grows
  · intro sourceId key found present
    by_cases here : sourceId = call.sourceId
    · subst here
      have served : (deployment.serve source call).sources call.sourceId =
          (source.receive (deployment.sources call.sourceId) call).2 := if_pos rfl
      rw [served] at present
      rcases source.only _ call key found present with old | ⟨mutates, rfl, named⟩
      · exact sound.started _ key found old
      · cases call with
        | reconcile => cases mutates
        | mutate sourceId request =>
          obtain ⟨plan, same, started⟩ := sound.requested sourceId request sent
          obtain ⟨rfl, rfl⟩ := ConnectorCall.mutate.inj same
          exact ⟨plan, rfl, named.symm, started⟩
    · have still : (deployment.serve source call).sources sourceId = deployment.sources sourceId :=
        if_neg here
      rw [still] at present
      exact sound.started sourceId key found present

/-- The reply to a call of a gateway is so afterwards. -/
theorem Sound.upholds_perform (sound : Sound source labels deployment) {gateway : Nat}
    {world : World gatewaySignature} {op : GatewayOp} {shared : Shared}
    (after : shared.journal = (perform key gateway world deployment.pool.shared op).2.journal)
    {tasks : List (Task gatewaySignature ActionError Returned Owner)}
    {requested : List ConnectorCall} {index : Nat} {owner : Owner}
    (delivered : Delivered deployment.answers
      (.perform index owner op (perform key gateway world deployment.pool.shared op).1)) :
    Upholds source { deployment with pool := ⟨shared, tasks⟩, requested }
      ⟨op, (perform key gateway world deployment.pool.shared op).1⟩ := by
  rw [perform_journal] at after
  cases op with
  | await call =>
    generalize (perform key gateway world deployment.pool.shared (.await call)).1 = reply
      at delivered
    cases reply with
    | error error => trivial
    | ok result => exact delivered
  | get binding =>
    show Upholds source _ ⟨.get binding, deployment.pool.shared.journal.get binding⟩
    cases read : deployment.pool.shared.journal.get binding with
    | error error => trivial
    | ok found =>
      cases found with
      | none => trivial
      | some record =>
        obtain ⟨row, present, decoded⟩ := Journal.row_of_get read
        have reads := reads_of_record decoded
        refine ⟨⟨row, ?_, reads.actionDigest.symm⟩, fun executed => ?_⟩
        · show shared.journal.records.find? binding = some row
          rw [after]
          exact present
        · rw [reads.actionDigest]
          exact sound.executed binding row present (by rw [← reads.state, executed])
  | journal tx =>
    show Upholds source _ ⟨.journal tx, deployment.pool.shared.journal.reply key tx⟩
    cases replied : deployment.pool.shared.journal.reply key tx with
    | error error => cases tx <;> trivial
    | ok returned =>
      cases tx with
      | «begin» plan now =>
        show shared.journal.Started plan
        rw [after]
        exact Journal.started_of_begin replied
      | prepare plan decisionId now =>
        refine ⟨?_, fun record same executed => ?_⟩
        · show shared.journal.Bound plan
          rw [after]
          exact Journal.bound_of_reply replied
        · subst same
          obtain ⟨row, present, read⟩ := Journal.row_of_get (Journal.get_of_reply replied).2
          have bound := Journal.bound_of_reply replied
          rw [(Journal.get_of_reply replied).1] at bound
          obtain ⟨other, there, digest⟩ := bound
          obtain rfl := Option.some.inj (present.symm.trans there)
          have state : row.state = DurableActionState.executed.value := by
            rw [← (reads_of_record read).state, executed]
          have applied := sound.executed _ row present state
          rw [digest] at applied
          exact applied
      | _ => trivial
  | _ => trivial

/-- A step of the gateways whose calls go by evidence keeps the invariant. -/
theorem Sound.gateway (injective : Sha256Injective) (sound : Sound source labels deployment)
    {label : Label gatewaySignature Owner}
    {pool : Pool gatewaySignature ActionError Returned Owner Shared}
    (moves : (gateways key fun _ => .durable).Step deployment.pool label pool)
    (delivered : Delivered deployment.answers label)
    (evidenced : ∀ index owner op reply, label = .perform index owner op reply →
      Evidenced (Machine.made labels index) op) :
    Sound source (labels ++ [label]) { deployment with
      pool
      requested := (invoked? label).toList ++ deployment.requested } := by
  have grows : Grows source deployment { deployment with
      pool
      requested := (invoked? label).toList ++ deployment.requested } := step_grows moves
  have keeps : deployment.journal.Keeps pool.shared.journal := grows.journal
  refine ⟨?_, ?_, sound.answers, ?_, ?_⟩
  · intro index owner op reply member
    rcases List.mem_append.mp member with old | new
    · exact (sound.upheld index owner op reply old).mono grows
    · rw [← List.mem_singleton.mp new] at moves delivered ⊢
      cases moves with
      | perform _ _ _ next world ready => exact sound.upholds_perform rfl delivered
  · intro sourceId request member
    rcases List.mem_append.mp member with new | old
    · have sent : invoked? label = some (.mutate sourceId request) := Option.mem_toList.mp new
      unfold invoked? at sent
      split at sent
      · rename_i index owner asked reply
        obtain rfl := Option.some.inj sent
        obtain ⟨plan, ⟨now, returned, begun⟩, same⟩ := evidenced index owner _ reply rfl
        have started : deployment.journal.Started plan := sound.upheld_of_made _ begun
        exact ⟨plan, same, started.mono keeps⟩
      · cases sent
    · obtain ⟨plan, same, started⟩ := sound.requested sourceId request old
      exact ⟨plan, same, started.mono keeps⟩
  · intro binding row present executed
    have kept : deployment.journal.records.find? binding = some row →
        deployment.AppliedAs source binding row.actionDigest := fun before =>
      sound.executed binding row before executed
    have goal : deployment.AppliedAs source binding row.actionDigest := by
      change pool.shared.journal.records.find? binding = some row at present
      cases moves with
      | perform index owner op next world ready =>
        change (perform key owner.gateway world deployment.pool.shared op).2.journal.records.find?
          binding = some row at present
        rw [perform_journal] at present
        cases op with
        | journal tx =>
          change (deployment.pool.shared.journal.commit key tx).records.find? binding = some row
            at present
          rcases Journal.commit_cases key deployment.pool.shared.journal tx with same | wrote
          · rw [same] at present
            exact kept present
          · obtain ⟨event, written, write⟩ := wrote.write
            rw [write.find?] at present
            split at present
            · rename_i here
              obtain rfl := Option.some.inj present
              obtain ⟨receipt, now, completes⟩ := write.change.completes executed
              have proven := evidenced index owner (.journal tx) _ rfl
              rw [completes] at proven
              have applied := sound.applied_of_proven injective sound.upheld_of_made proven
              exact ⟨tx.action, here, write.bound.symm, applied⟩
            · exact kept present
        | _ => exact kept present
      | _ => exact kept present
    exact goal.mono grows
  · intro sourceId key found present
    obtain ⟨plan, bound, named, started⟩ := sound.started sourceId key found present
    exact ⟨plan, bound, named, started.mono keeps⟩

/-! ## Every run -/

variable {start : String → σ} {events : List DeploymentEvent}

/-- The steps of the gateways in a run are a run of the gateways. -/
theorem run_gateways (run : (system key source).Run (initial start) events deployment) :
    (gateways key fun _ => .durable).system.Run ⟨.initial, []⟩ (Deployment.labels events)
      deployment.pool := by
  induction run with
  | nil => exact .nil
  | snoc before step ih =>
    rw [Deployment.labels, List.filterMap_append]
    cases step with
    | gateway label after moves delivered => exact ih.snoc moves
    | source call sent =>
      simp only [List.filterMap_cons, List.filterMap_nil, DeploymentEvent.label?, List.append_nil]
      exact ih

/-- Every deployment that starts with sources that have applied nothing is sound. -/
theorem run_sound (injective : Sha256Injective)
    (fresh : ∀ sourceId key, source.outcome (start sourceId) key = none)
    (run : (system key source).Run (initial start) events deployment) :
    Sound source (Deployment.labels events) deployment := by
  induction run with
  | nil =>
    have unapplied : ∀ {α : Prop} sourceId key found,
        source.outcome (start sourceId) key = some found → α := by
      intro α sourceId key found present
      rw [fresh] at present
      cases present
    refine ⟨?_, ?_, ?_, ?_, fun sourceId key found present => unapplied _ _ _ present⟩
    · intro index owner op reply member
      cases member
    · intro sourceId request member
      cases member
    · intro call result member
      cases member
    · intro binding row present
      cases present
  | snoc before step ih =>
    have ran := run_gateways before
    rw [Deployment.labels, List.filterMap_append]
    cases step with
    | gateway label after moves delivered =>
      refine ih.gateway injective moves delivered ?_
      rintro index owner op reply rfl
      have last := ran.snoc (show (gateways key fun _ => .durable).system.step _ _ _ from moves)
      obtain ⟨left, trace⟩ := Machine.run_call last
      have permitted := ((program_evidenced owner.call).history trace).1 _ _ [] rfl
      exact permitted
    | source call sent =>
      simp only [List.filterMap_cons, List.filterMap_nil, DeploymentEvent.label?, List.append_nil]
      exact ih.serve sent

/-- A receipt that a call has returned is of a plan that was applied. -/
theorem applied_of_returned (injective : Sha256Injective)
    (run : (system key source).Run (initial start) events deployment)
    (sound : Sound source (Deployment.labels events) deployment)
    {task : Task gatewaySignature ActionError Returned Owner}
    (member : task ∈ deployment.pool.tasks) {receipt : StoredReceipt}
    (returned : task.rest = some (.ret (.receipt receipt))) :
    deployment.Applied source task.owner.call.executed := by
  obtain ⟨index, here⟩ := List.mem_iff_getElem?.mp member
  obtain ⟨left, trace, kept⟩ := (Machine.run_trace (run_gateways run)).2 index task here
  obtain rfl := kept _ returned
  have ends := ((program_evidenced task.owner.call).history trace).2
  have proven : Proven task.owner.call.executed (Machine.made (Deployment.labels events) index) :=
    ends receipt rfl
  exact sound.applied_of_proven injective sound.upheld_of_made proven

end Deployment

end DataHarness
