import DataHarness.Gateway.Binding
import DataHarness.Saga.Session
import Mathlib.Algebra.GroupWithZero.Nat
import Mathlib.Algebra.Order.BigOperators.Group.List

/-!
# Effects of a session happen once

In a session of one in-memory gateway whose clock tells its time zone, the source applies a plan at
most once, and compensates it at most once, after it was applied. A clock that stops telling its time
zone after the source has answered leaves the key of the plan free, and a retry applies it again.
-/

namespace DataHarness

open Effect Transition

section Content

variable [Stdlib] (injective : Sha256Injective) {left right : SourceActionPlan}

include injective

/-- Plans with one digest have the same binding, asset and action id. -/
theorem names_of_digest (same : left.digest = right.digest) :
    left.actionId = right.actionId ∧ left.assetId = right.assetId ∧
      left.binding = right.binding := by
  have members := Json.members_of_canonical (digest_injective injective same)
  have action := SourceActionPlan.actionId_of_digest injective same
  have asset := (members ("asset_id", .str left.assetId)).mp
    (by simp [Json.canonicalMembers, Json.canonical])
  have source := (members ("source_id", .str left.sourceId)).mp
    (by simp [Json.canonicalMembers, Json.canonical])
  have bound := (members ("idempotency_key", .str left.idempotencyKey)).mp
    (by simp [Json.canonicalMembers, Json.canonical])
  refine ⟨action, ?_, ?_⟩
  · simpa [Json.canonicalMembers, Json.canonical] using asset
  · unfold SourceActionPlan.binding
    rw [Prod.mk.injEq]
    constructor
    · simpa [Json.canonicalMembers, Json.canonical] using source
    · simpa [Json.canonicalMembers, Json.canonical] using bound

/-- Plans with one digest have the same compensation, up to the order of its entries. -/
theorem compensation_of_digest (same : left.digest = right.digest) {spec other : CompensationSpec}
    (first : left.compensation = some spec) (second : right.compensation = some other) :
    spec.operation = other.operation ∧
      Json.canonical spec.parameters.toJson = Json.canonical other.parameters.toJson ∧
        Json.canonical spec.preconditions.toJson = Json.canonical other.preconditions.toJson := by
  have whole := Json.members_of_canonical (digest_injective injective same)
  have among := (whole ("compensation", Json.canonical spec.toJson)).mp
    (by simp [Json.canonicalMembers, first])
  have equal : Json.canonical spec.toJson = Json.canonical other.toJson := by
    simpa [Json.canonicalMembers, second] using among
  have members := Json.members_of_canonical equal
  have operation := (members ("operation", .str spec.operation)).mp
    (by simp [Json.canonicalMembers, Json.canonical])
  have parameters := (members ("parameters", Json.canonical spec.parameters.toJson)).mp
    (by simp [Json.canonicalMembers])
  have preconditions := (members ("preconditions", Json.canonical spec.preconditions.toJson)).mp
    (by simp [Json.canonicalMembers])
  refine ⟨?_, ?_, ?_⟩
  · simpa [Json.canonicalMembers, Json.canonical] using operation
  · simpa [Json.canonicalMembers] using parameters
  · simpa [Json.canonicalMembers] using preconditions

/-- The compensations of plans with one digest have one digest. -/
theorem compensating_digest_congr (same : left.digest = right.digest) {spec other : CompensationSpec}
    (first : left.compensation = some spec) (second : right.compensation = some other) :
    (left.compensating spec).digest = (right.compensating other).digest := by
  obtain ⟨action, asset, binding⟩ := names_of_digest injective same
  obtain ⟨source, bound⟩ := Prod.mk.inj binding
  obtain ⟨operation, parameters, preconditions⟩ :=
    compensation_of_digest injective same first second
  have equal : Json.canonical (left.compensating spec).toJson =
      Json.canonical (right.compensating other).toJson := by
    simp only [SourceActionPlan.toJson, SourceActionPlan.compensating, Json.canonical,
      Json.canonicalMembers, action, asset, source, bound, operation, parameters, preconditions]
  unfold SourceActionPlan.digest DataHarness.digest Json.dumps
  rw [equal]

end Content

/-! ## Effects over a run -/

/-- How often an activity applied a plan of a digest. -/
def Activity.applications [Stdlib] (activity : Activity) (digest : String) : Nat :=
  if activity.plansDigest digest then activity.successes else 0

/-- How often an activity applied the compensation of a plan of a digest. -/
def Activity.compensations [Stdlib] (activity : Activity) (digest : String) : Nat :=
  if activity.compensatesDigest digest then activity.successes else 0

section Once

variable [Stdlib] {key : IntegrityKey} {gateway : Nat} {start shared : Shared}
  {history : List Activity}

/-- The effects of a run are bound in the table, each with a receipt of its plan, and no plan was
applied twice. -/
structure Accounted (gateway : Nat) (history : List Activity) (shared : Shared) : Prop where
  bound : ∀ activity ∈ history, activity.successes = 0 ∨ ∃ plan receipt,
    activity.call.plan? = some plan ∧ (plan.binding, plan.digest, receipt) ∈ shared.table gateway
  sound : SoundTable gateway shared
  once : ∀ digest, (history.map (Activity.applications · digest)).sum ≤ 1

/-- An activity that applied a plan of a digest has such a plan. -/
theorem planned_of_applications {activity : Activity} {digest : String}
    (applied : activity.applications digest ≠ 0) :
    activity.successes ≠ 0 ∧ ∃ plan, activity.call.plan? = some plan ∧ plan.digest = digest := by
  unfold Activity.applications at applied
  split at applied
  · rename_i plans
    unfold Activity.plansDigest at plans
    obtain ⟨plan, called, same⟩ := (Option.any_eq_true _ _).mp plans
    exact ⟨applied, plan, called, beq_iff_eq.mp same⟩
  · exact absurd rfl applied

/-- An activity applies a plan no more often than the source answered it with success. -/
theorem applications_le (activity : Activity) (digest : String) :
    activity.applications digest ≤ activity.successes := by
  unfold Activity.applications
  split
  · exact Nat.le_refl _
  · exact Nat.zero_le _

/-- One more activity is accounted for. -/
theorem Accounted.step (injective : Sha256Injective) {activity : Activity} {next : Shared}
    (accounted : Accounted gateway history shared)
    (performed : activity.Performed key .action gateway shared next) (tells : activity.Tells) :
    Accounted gateway (history ++ [activity]) next := by
  have grown := tableGrown_of_performed performed
  have concluded := success_bound performed tells
  constructor
  · intro other member
    rcases List.mem_append.mp member with old | new
    · rcases accounted.bound other old with none | ⟨plan, receipt, called, held⟩
      · exact .inl none
      · exact .inr ⟨plan, receipt, called, grown.kept held⟩
    · rw [List.mem_singleton.mp new]
      rcases concluded with none | ⟨-, plan, called, -, receipt, held⟩
      · exact .inl none
      · exact .inr ⟨plan, receipt, called, held⟩
  · exact accounted.sound.performed performed tells
  · intro digest
    rw [List.map_append, List.sum_append, List.map_singleton, List.sum_singleton]
    have earlier := accounted.once digest
    have bounded := applications_le activity digest
    by_cases applied : activity.applications digest = 0
    · omega
    · obtain ⟨answered, plan, called, same⟩ := planned_of_applications applied
      rcases concluded with none | ⟨one, other, called', free, -⟩
      · exact absurd none answered
      · obtain rfl := Option.some.inj (called.symm.trans called')
        -- a plan of this digest applied before had bound the key that was free
        have fresh : (history.map (Activity.applications · digest)).sum = 0 := by
          apply List.sum_eq_zero
          intro count member
          obtain ⟨before, inside, rfl⟩ := List.mem_map.mp member
          by_contra again
          obtain ⟨success, first, planned, equal⟩ := planned_of_applications again
          rcases accounted.bound before inside with none | ⟨kept, receipt, shown, held⟩
          · exact success none
          · obtain rfl := Option.some.inj (planned.symm.trans shown)
            have binding := (names_of_digest injective (equal.trans same.symm)).2.2
            exact free _ held binding
        omega

/-- The effects of a run of a gateway with an empty table are accounted for. -/
theorem accounted_of_run (injective : Sha256Injective) (fresh : start.table gateway = [])
    (run : (sequence key .action gateway).Run start history shared)
    (tells : ∀ activity ∈ history, activity.Tells) : Accounted gateway history shared := by
  induction run with
  | nil =>
    refine ⟨fun _ none => (nomatch none), ?_, fun _ => by simp⟩
    intro entry member
    rw [fresh] at member
    cases member
  | snoc _ step ih =>
    have before := ih fun activity member => tells activity (List.mem_append_left _ member)
    exact before.step injective step (tells _ (by simp))

/-- An activity that applied a compensation of a digest compensates a plan of it. -/
theorem compensated_of_compensations {activity : Activity} {digest : String}
    (applied : activity.compensations digest ≠ 0) :
    activity.successes ≠ 0 ∧ ∃ original receipt identity approval,
      activity.call = .compensate original receipt identity approval ∧
        original.digest = digest := by
  unfold Activity.compensations at applied
  split at applied
  · rename_i compensates
    unfold Activity.compensatesDigest at compensates
    split at compensates
    · rename_i original receipt identity approval called
      exact ⟨applied, original, receipt, identity, approval, called, beq_iff_eq.mp compensates⟩
    · cases compensates
  · exact absurd rfl applied

/-- The compensations of one plan in a run all apply one derived plan. -/
theorem compensations_le (injective : Sha256Injective) (accounted : Accounted gateway history shared)
    (digest : String) : ∃ derived, ∀ activity ∈ history,
      activity.compensations digest ≤ activity.applications derived := by
  by_cases none : ∀ activity ∈ history, activity.compensations digest = 0
  · exact ⟨"", fun activity member => by rw [none activity member]; exact Nat.zero_le _⟩
  · rw [not_forall] at none
    obtain ⟨first, undoes⟩ := none
    rw [Classical.not_imp] at undoes
    obtain ⟨member, applied⟩ := undoes
    obtain ⟨answered, original, receipt, identity, approval, called, same⟩ :=
      compensated_of_compensations applied
    have planned := (accounted.bound first member).resolve_left answered
    obtain ⟨plan, -, derived, -⟩ := planned
    rw [called] at derived
    obtain ⟨spec, declared, -⟩ := Option.map_eq_some_iff.mp derived
    refine ⟨(original.compensating spec).digest, fun activity inside => ?_⟩
    by_cases idle : activity.compensations digest = 0
    · omega
    · obtain ⟨success, other, given, agent, consent, calls, equal⟩ :=
        compensated_of_compensations idle
      obtain ⟨undone, -, shown, -⟩ := (accounted.bound activity inside).resolve_left success
      rw [calls] at shown
      obtain ⟨spec', declared', rfl⟩ := Option.map_eq_some_iff.mp shown
      have digests := compensating_digest_congr injective (equal.trans same.symm) declared' declared
      have plans : activity.plansDigest (original.compensating spec).digest = true := by
        simp [Activity.plansDigest, calls, GatewayCall.plan?, declared', digests]
      unfold Activity.applications Activity.compensations
      rw [if_pos plans]
      split
      · exact Nat.le_refl _
      · exact Nat.zero_le _

/-- The compensation of a plan is applied at most once. -/
theorem compensated_once (injective : Sha256Injective) (accounted : Accounted gateway history shared)
    (digest : String) : (history.map (Activity.compensations · digest)).sum ≤ 1 := by
  obtain ⟨derived, bounded⟩ := compensations_le injective accounted digest
  calc
    (history.map (Activity.compensations · digest)).sum
        ≤ (history.map (Activity.applications · derived)).sum := List.sum_le_sum bounded
    _ ≤ 1 := accounted.once derived

/-- A compensation that is dispatched, with a receipt that an execution before it returned, comes
after its plan was applied. -/
theorem forwarded_of_compensation (injective : Sha256Injective) (fresh : start.table gateway = [])
    (run : (sequence key .action gateway).Run start history shared)
    (tells : ∀ activity ∈ history, activity.Tells) {before after : List Activity}
    {activity earlier : Activity} (split : history = before ++ activity :: after)
    {original action : SourceActionPlan} {receipt : StoredReceipt} {identity agent : RequestIdentity}
    {approval consent : Option ActionApproval} {shown : ActionPreview}
    (called : activity.call = .compensate original receipt identity approval)
    (dispatches : activity.Dispatches) (member : earlier ∈ before)
    (executed : earlier.call = .execute action shown agent consent)
    (returned : earlier.outcome = .ok (.receipt receipt)) :
    ∃ forward ∈ before, forward.Forwards original := by
  subst split
  obtain ⟨state, next, -, performed⟩ := run.of_split
  have digest := digest_of_dispatched called performed dispatches
  obtain ⟨front, back, rfl⟩ := List.append_of_mem member
  rw [List.append_assoc, List.cons_append] at run
  obtain ⟨middle, last, upto, execution⟩ := run.of_split
  have accounted := accounted_of_run injective fresh upto fun other inside =>
    tells other (by simp [inside])
  have own := digest_of_returned accounted.sound executed execution (tells earlier (by simp))
    returned
  have same : action.digest = original.digest := by
    rw [digest] at own
    exact (Json.Value.str.inj own).symm
  rcases execute_receipt executed execution returned with ⟨-, applies⟩ | ⟨replayed, -⟩
  · exact ⟨earlier, member, action, by rw [executed]; rfl, applies, same⟩
  · obtain ⟨first, held⟩ := held_of_replay executed execution returned replayed
    obtain ⟨source, among, plan, planned, applies, -, equal⟩ := bindings_applied fresh upto _ held
    exact ⟨source, List.mem_append_left _ among, plan, planned, applies, equal.trans same⟩

/-! ## Sessions -/

/-- Every receipt that a session passes to `compensate` itself was returned by an execution before
it. -/
def OwnReceipts (labels : List SessionStep) : Prop :=
  ∀ before activity after original receipt identity approval,
    labels = before ++ .call activity :: after →
      activity.call = .compensate original receipt identity approval →
        ∃ earlier ∈ DataHarness.performed before, ∃ action shown agent consent,
          earlier.call = .execute action shown agent consent ∧
            earlier.outcome = .ok (.receipt receipt)

omit [Stdlib] in
/-- An activity of a session is one of the activities of a step, after those of the steps before. -/
theorem step_of_activity {labels : List SessionStep} {before after : List Activity}
    {activity : Activity} (split : performed labels = before ++ activity :: after) :
    ∃ earlier label later front back, labels = earlier ++ label :: later ∧
      label.activities = front ++ activity :: back ∧ before = performed earlier ++ front := by
  induction labels generalizing before with
  | nil => simp [performed] at split
  | cons label labels ih =>
    have unfolded : label.activities ++ performed labels = before ++ activity :: after := split
    rcases List.append_eq_append_iff.mp unfolded with ⟨more, grown, rest⟩ | ⟨more, shrunk, rest⟩
    · obtain ⟨earlier, inner, later, front, back, rfl, same, rfl⟩ := ih rest
      exact ⟨label :: earlier, inner, later, front, back, rfl, same, by
        rw [grown, ← List.append_assoc]; rfl⟩
    · cases more with
      | nil =>
        obtain ⟨earlier, inner, later, front, back, rfl, same, empty⟩ :=
          @ih [] (by simpa using rest.symm)
        refine ⟨label :: earlier, inner, later, front, back, rfl, same, ?_⟩
        have whole : performed (label :: earlier) = label.activities ++ performed earlier := rfl
        rw [whole, List.append_assoc, ← empty, shrunk]
        simp
      | cons first more =>
        obtain ⟨rfl, -⟩ := List.cons.inj rest
        exact ⟨[], label, labels, before, more, rfl, shrunk, rfl⟩

/-- Every receipt of a compensation in a session was returned by an execution before it. -/
theorem returned_of_compensation {labels : List SessionStep} {kind : GatewayKind}
    (run : (sessions key kind gateway).Run start labels shared) (own : OwnReceipts labels)
    {before after : List Activity} {activity : Activity}
    (split : performed labels = before ++ activity :: after) {original : SourceActionPlan}
    {receipt : StoredReceipt} {identity : RequestIdentity} {approval : Option ActionApproval}
    (called : activity.call = .compensate original receipt identity approval) :
    ∃ earlier ∈ before, ∃ action shown agent consent,
      earlier.call = .execute action shown agent consent ∧
        earlier.outcome = .ok (.receipt receipt) := by
  obtain ⟨past, label, later, front, back, rfl, inside, rfl⟩ := step_of_activity split
  cases label with
  | call other =>
    cases front with
    | nil =>
      obtain ⟨rfl, -⟩ := List.cons.inj inside
      obtain ⟨earlier, member, execution⟩ := own past other later _ _ _ _ rfl called
      exact ⟨earlier, List.mem_append_left _ member, execution⟩
    | cons first front => simp [SessionStep.activities] at inside
  | saga agent steps activities outcome =>
    rw [List.append_cons] at run
    obtain ⟨middle, upto⟩ := run.of_append
    obtain ⟨step, -, rfl, executing, member, ⟨shown, executed⟩, returned, -⟩ :=
      compensates_completed upto front activity back original receipt identity approval inside called
    exact ⟨executing, List.mem_append_right _ member, _, shown, _, _, executed, returned⟩

/-- In every session of an in-memory gateway whose clock tells its time zone and whose connectors name
versions that can be written, with no receipt compensated that the gateway did not return, each plan
is applied at most once, the compensation of each plan is applied at most once, and none is
dispatched before its plan was applied. -/
theorem effects_once (injective : Sha256Injective) {labels : List SessionStep}
    (fresh : start.table gateway = [])
    (run : (sessions key .action gateway).Run start labels shared) (own : OwnReceipts labels)
    (tells : ∀ activity ∈ performed labels, activity.Tells) :
    (∀ digest, ((performed labels).map (Activity.applications · digest)).sum ≤ 1) ∧
      (∀ digest, ((performed labels).map (Activity.compensations · digest)).sum ≤ 1) ∧
        ∀ before activity after original receipt identity approval,
          performed labels = before ++ activity :: after →
            activity.call = .compensate original receipt identity approval →
              activity.Dispatches → ∃ earlier ∈ before, earlier.Forwards original := by
  have sequence := session_sequence run
  have accounted := accounted_of_run injective fresh sequence tells
  refine ⟨accounted.once, compensated_once injective accounted, ?_⟩
  intro before activity after original receipt identity approval split called dispatches
  obtain ⟨earlier, member, action, shown, agent, consent, executed, returned⟩ :=
    returned_of_compensation run own split called
  exact forwarded_of_compensation injective fresh sequence tells split called dispatches member
    executed returned

end Once

/-! ## Small sessions -/

/-- The reply, if it is a reading of the clock or an answer to a mutation, tells its time zone or
names a version that can be written. -/
def tellsAll : gatewaySignature.Event → Bool
  | ⟨.now, time⟩ => DateTime.aware time
  | ⟨.await (.mutate _ _), .ok result⟩ => ActionGateway.versioned result
  | _ => true

/-- Such a reply tells what a gateway needs. -/
theorem tells_of_tellsAll {event : gatewaySignature.Event} (tells : tellsAll event = true) :
    event.1.Tells event.2 := by
  obtain ⟨op, reply⟩ := event
  cases op with
  | now => exact tells
  | await call =>
    cases call with
    | mutate sourceId request =>
      cases reply with
      | error error => trivial
      | ok result => exact tells
    | reconcile sourceId request => trivial
  | _ => trivial

/-- Activities with such replies only. -/
def allTell (activities : List Activity) : Bool :=
  activities.all fun activity => activity.events.all tellsAll

/-- They tell what a gateway needs. -/
theorem tells_of_allTell {activities : List Activity} (tells : allTell activities = true) :
    ∀ activity ∈ activities, activity.Tells := by
  intro activity member event among
  have inside := List.all_eq_true.mp tells activity member
  exact tells_of_tellsAll (List.all_eq_true.mp inside event among)

/-- A session that calls no compensation itself has only its own receipts. -/
theorem ownReceipts_of_uncompensated {labels : List SessionStep}
    (none : ∀ activity, .call activity ∈ labels → activity.call.compensates = false) :
    OwnReceipts labels := by
  intro before activity after original receipt identity approval split called
  have uncompensated := none activity (by simp [split])
  rw [called] at uncompensated
  cases uncompensated

/-- A saga that fails late applies its first plan once and compensates it once. -/
theorem effects_once_small : letI := Stdlib.transparent
    ∃ activities outcome after,
      (sessions .small .action 0).Run .initial
        [.saga .small refusedLate activities outcome] after ∧
      (activities.map (Activity.compensations · reversible.digest)).sum = 1 ∧
        (∀ digest, (activities.map (Activity.applications · digest)).sum ≤ 1) ∧
          ∀ digest, (activities.map (Activity.compensations · digest)).sum ≤ 1 := by
  let := Stdlib.transparent
  obtain ⟨activities, outcome, after, step, seen⟩ := @step_of_evaluated _ .small .action 0 .small
    twoConnectors refusedLate .initial (fun activities _ _ => allTell activities &&
      (activities.map (Activity.compensations · reversible.digest)).sum == 1) (by decide +kernel)
  rw [Bool.and_eq_true, beq_iff_eq] at seen
  have same : performed [.saga .small refusedLate activities outcome] = activities := by
    simp [performed, SessionStep.activities]
  have tells := tells_of_allTell seen.1
  rw [← same] at tells
  obtain ⟨applied, compensated, -⟩ := effects_once Stdlib.transparent_sha256 rfl
    (System.Run.single step) (ownReceipts_of_uncompensated (by simp)) tells
  rw [same] at applied compensated
  exact ⟨activities, outcome, after, System.Run.single step, seen.2, applied, compensated⟩

/-- Surroundings that allow everything, with a clock that tells its time zone at its first reading
only. -/
def fadingClock (readings : Nat) : World gatewaySignature
  | .now => if readings = 0 then noon else { noon with utcoffset := none }
  | op => obliging (.ok successful) op

/-- The readings of the clock in a call. -/
def GatewayOp.readings : GatewayOp → Nat
  | .now => 1
  | _ => 0

section Fading

variable [Stdlib] (key : IntegrityKey) (gateway : Nat)

/-- A call beside the number of readings before it. -/
def performFading (state : Shared × Nat) (op : GatewayOp) :
    gatewaySignature.Event × op.Reply × Shared × Nat :=
  let answer := perform key gateway (fadingClock state.2) state.1 op
  (⟨op, answer.1⟩, answer.1, answer.2, state.2 + op.readings)

/-- An execution with a clock that stops telling its time zone, and the state after it. -/
def fadingExecution (action : SourceActionPlan) (before : Shared) : Activity × Shared :=
  let call : GatewayCall := .execute action action.smallPreview .small none
  let ran := (call.program .action).evaluate (performFading key gateway) (before, 0)
  (⟨call, ran.1, ran.2.1⟩, ran.2.2.1)

/-- Such an execution is an activity. -/
theorem fadingExecution_performed (action : SourceActionPlan) (before : Shared) :
    (fadingExecution key gateway action before).1.Performed key .action gateway before
      (fadingExecution key gateway action before).2 := by
  let call : GatewayCall := .execute action action.smallPreview .small none
  have sound : ∀ state op, (((gateways key fun _ => .action).alone ⟨gateway, call⟩).beside Nat).acts
      state op (performFading key gateway state op).1 (performFading key gateway state op).2.1
      (performFading key gateway state op).2.2 :=
    fun state op => ⟨rfl, fadingClock state.2, rfl⟩
  exact (Runs.of_evaluate _ sound (call.program .action) (before, 0)).of_beside

end Fading

/-- A retry applies a plan again after the clock has stopped telling its time zone. -/
theorem applied_twice : letI := Stdlib.transparent
    ∃ labels after, (sessions .small .action 0).Run .initial labels after ∧ OwnReceipts labels ∧
      ∃ digest, 1 < ((performed labels).map (Activity.applications · digest)).sum := by
  let := Stdlib.transparent
  let first := fadingExecution .small 0 reversible .initial
  let second := fadingExecution .small 0 reversible first.2
  have before : (sessions .small .action 0).step .initial (.call first.1) first.2 :=
    fadingExecution_performed .small 0 reversible .initial
  have retried : (sessions .small .action 0).step first.2 (.call second.1) second.2 :=
    fadingExecution_performed .small 0 reversible first.2
  have twice : decide (1 < ((performed [.call first.1, .call second.1]).map
      (Activity.applications · reversible.digest)).sum) = true := by decide +kernel
  refine ⟨[.call first.1, .call second.1], second.2, (System.Run.single before).snoc retried, ?_,
    reversible.digest, of_decide_eq_true twice⟩
  apply ownReceipts_of_uncompensated
  intro activity member
  rcases List.mem_cons.mp member with same | same
  · cases same
    rfl
  · cases List.mem_singleton.mp same
    rfl

end DataHarness
