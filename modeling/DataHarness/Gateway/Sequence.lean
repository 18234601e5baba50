import DataHarness.Gateway.Effects

/-!
# Calls on one gateway, one after the other

A sequential run of a gateway is a list of activities: each call with the calls it made and how it
ended. The table of idempotency keys holds only plans that the source applied in an earlier
activity (`bindings_applied`), so a replayed receipt has an effect behind it.
-/

namespace DataHarness

open Effect Transition ActionGateway

/-- One call of a gateway method, the calls it made and how it ended. -/
structure Activity where
  call : GatewayCall
  events : List gatewaySignature.Event
  outcome : Except ActionError Returned

/-- The call dispatched a mutation. -/
def Activity.Dispatches (activity : Activity) : Prop :=
  ∃ event ∈ activity.events, event.1.dispatches = true

/-- The call dispatched a plan, and the source answered that it was applied. -/
def Activity.Applies (activity : Activity) (plan : SourceActionPlan) : Prop :=
  AppliedIn plan activity.events

/-- The plan that a call may dispatch. -/
def GatewayCall.plan? : GatewayCall → Option SourceActionPlan
  | .preview _ _ _ => none
  | .execute action _ _ _ => some action
  | .compensate original _ _ _ => original.compensation.map original.compensating
  | .reconcile _ _ => none

variable [Stdlib]

/-- A plan with a digest was applied to the source. -/
def Activity.AppliesDigest (activity : Activity) (binding : Binding) (digest : String) : Prop :=
  ∃ plan, activity.call.plan? = some plan ∧ activity.Applies plan ∧ plan.binding = binding ∧
    plan.digest = digest

/-- An activity runs its call to its end on one gateway object of a class. -/
def Activity.Performed (key : IntegrityKey) (kind : GatewayKind) (gateway : Nat)
    (activity : Activity) (before after : Shared) : Prop :=
  Runs ((gateways key fun _ => kind).alone ⟨gateway, activity.call⟩) (activity.call.program kind)
    before activity.events activity.outcome after

/-- Activities of one gateway object, one after the other. -/
def sequence (key : IntegrityKey) (kind : GatewayKind) (gateway : Nat) : System Shared Activity where
  step before activity after := activity.Performed key kind gateway before after

section Activities

variable {key : IntegrityKey} {kind : GatewayKind} {gateway : Nat} {activity : Activity}
  {before after : Shared}

/-- What a call follows to its end holds of its activity. -/
theorem Activity.Performed.follows {τ : Type} {protocol : Protocol gatewaySignature τ} {state : τ}
    {post : Except ActionError Returned → τ → Prop}
    (performed : activity.Performed key kind gateway before after)
    (follows : (activity.call.program kind).Follows protocol state post)
    (possible : ∀ event ∈ activity.events, protocol.can event.1 event.2) :
    protocol.Permits state activity.events ∧
      post activity.outcome (protocol.after state activity.events) := by
  obtain ⟨permitted, ended⟩ := follows.trace performed.trace possible
  refine ⟨permitted, ?_⟩
  cases shown : activity.outcome with
  | ok returned =>
    rw [shown] at ended
    exact ended
  | error error =>
    rw [shown] at ended
    exact ended

/-- The calls a program may make are the calls its activity made. -/
theorem Activity.Performed.makes {allowed : GatewayOp → Prop}
    (performed : activity.Performed key kind gateway before after)
    (makes : (activity.call.program kind).Makes allowed) :
    ∀ event ∈ activity.events, allowed event.1 := makes.trace performed.trace

/-! ## What an activity returns -/

/-- A preview is steady. -/
theorem preview_steady {action : SourceActionPlan} {identity : RequestIdentity} {ttl : Int}
    (called : activity.call = .preview action identity ttl)
    (performed : activity.Performed key kind gateway before after) :
    ∀ event ∈ activity.events, event.1.steady = true := by
  have makes : (activity.call.program kind).Makes fun op : GatewayOp => op.steady = true := by
    rw [called]
    exact Program.Makes.bind (preview_makes GatewayOp.steady_of_plain ..) fun _ => trivial
  exact performed.makes makes

/-- An execution follows the protocol of its plan, and its receipt tells what it has done. -/
theorem execute_follows_phase {action : SourceActionPlan} {shown : ActionPreview}
    {identity : RequestIdentity} {approval : Option ActionApproval}
    (called : activity.call = .execute action shown identity approval)
    (performed : activity.Performed key kind gateway before after) :
    (mutationProtocol action).Permits .fresh activity.events ∧
      ∀ receipt, activity.outcome = .ok (.receipt receipt) →
        Tells kind action receipt ((mutationProtocol action).after .fresh activity.events) := by
  have follows : (activity.call.program kind).Follows (mutationProtocol action) .fresh
      fun ended phase => ∀ receipt, ended = .ok (.receipt receipt) →
        Tells kind action receipt phase := by
    rw [called]
    apply (execute_phase kind shown identity approval).bind
    · intro returned final told receipt same
      cases same
      exact told returned rfl
    · exact fun _ _ _ _ same => nomatch same
  exact performed.follows follows fun _ _ => trivial

/-- The receipt of a replay comes from a call that dispatched nothing, one that says `executed` from
a call that the source answered with success. -/
theorem execute_receipt {action : SourceActionPlan} {shown : ActionPreview}
    {identity : RequestIdentity} {approval : Option ActionApproval} {receipt : StoredReceipt}
    (called : activity.call = .execute action shown identity approval)
    (performed : activity.Performed key kind gateway before after)
    (returned : activity.outcome = .ok (.receipt receipt)) :
    receipt.state = .executed ∧ activity.Applies action ∨
      receipt.state = .alreadyExecuted ∧ ¬ activity.Dispatches := by
  obtain ⟨permitted, telling⟩ := execute_follows_phase called performed
  have shows := shown_after permitted
  rcases telling receipt returned with ⟨executed, applied⟩ | ⟨replayed, found⟩
  · rw [applied] at shows
    exact .inl ⟨executed, shows⟩
  · have idle : ∀ event ∈ activity.events, event.1.commits = false := by
      cases kind with
      | action =>
        rw [found] at shows
        exact shows.1
      | durable =>
        rw [found] at shows
        exact shows
    refine .inr ⟨replayed, ?_⟩
    rintro ⟨⟨op, reply⟩, among, dispatches⟩
    have still := idle _ among
    cases op with
    | invoke call =>
      cases call with
      | mutate => cases still
      | reconcile => cases dispatches
    | _ => cases dispatches

/-! ## The in-memory table -/

/-- An activity of the in-memory gateway follows the protocol of its plan or is steady. -/
theorem action_permits (performed : activity.Performed key .action gateway before after) :
    (∃ plan, activity.call.plan? = some plan ∧
      (mutationProtocol plan).Permits .fresh activity.events) ∨
      ∀ event ∈ activity.events, event.1.steady = true := by
  cases called : activity.call with
  | preview action identity ttl => exact .inr (preview_steady called performed)
  | execute action shown identity approval =>
    exact .inl ⟨action, rfl, (execute_follows_phase called performed).1⟩
  | compensate original receipt identity approval =>
    cases declared : original.compensation with
    | none =>
      have makes : (activity.call.program .action).Makes fun op : GatewayOp => op.steady = true := by
        rw [called]
        simp only [GatewayCall.program, GatewayKind.compensate, declared]
        trivial
      exact .inr (performed.makes makes)
    | some spec =>
      have follows : (activity.call.program .action).Follows
          (mutationProtocol (original.compensating spec)) .fresh fun _ _ => True := by
        rw [called]
        exact (compensate_phase .action declared receipt identity approval).bind
          (fun _ _ _ => trivial) fun _ _ _ => trivial
      exact .inl ⟨original.compensating spec, by simp [GatewayCall.plan?, declared],
        (performed.follows follows fun _ _ => trivial).1⟩
  | reconcile action identity =>
    have makes : (activity.call.program .action).Makes fun op : GatewayOp => op.steady = true := by
      rw [called]
      trivial
    exact .inr (performed.makes makes)

/-- The table of one gateway. -/
abbrev Shared.table (shared : Shared) (gateway : Nat) : List (Binding × String × Receipt) :=
  (shared.gateways gateway).idempotency

/-- A call adds to the table of its gateway only the binding it remembers. -/
theorem mem_table_perform {world : World gatewaySignature} {shared : Shared} {op : GatewayOp}
    {entry : Binding × String × Receipt}
    (member : entry ∈ (perform key gateway world shared op).2.table gateway) :
    entry ∈ shared.table gateway ∨ op = .remember entry.1 entry.2.1 entry.2.2 := by
  cases op with
  | audit eventType actionId occurredAt attributes =>
    refine .inl ?_
    unfold perform at member
    dsimp only at member
    split at member
    · simpa [Shared.set, Shared.table] using member
    · exact member
  | remember binding digest receipt =>
    simp only [perform, Shared.table, Shared.set, if_pos, List.mem_cons] at member
    rcases member with rfl | old
    · exact .inr rfl
    · exact .inl old
  | _ => exact .inl member

/-- What the table of a gateway holds after some of its calls was there before or is remembered by
one of them, and so was what they looked up. -/
structure TableFrom (gateway : Nat) (before : Shared) (events : List gatewaySignature.Event)
    (shared : Shared) : Prop where
  held : ∀ entry ∈ shared.table gateway, entry ∈ before.table gateway ∨
    ∃ reply, ⟨.remember entry.1 entry.2.1 entry.2.2, reply⟩ ∈ events
  found : ∀ binding digest receipt, ⟨.lookup binding, some (digest, receipt)⟩ ∈ events →
    (binding, digest, receipt) ∈ before.table gateway ∨
      ∃ reply, ⟨.remember binding digest receipt, reply⟩ ∈ events

/-- One call keeps the table accounted for. -/
theorem TableFrom.step {shared next : Shared} {events : List gatewaySignature.Event}
    (accounted : TableFrom gateway before events shared) {world : World gatewaySignature}
    {op : GatewayOp} {reply : op.Reply}
    (performed : perform key gateway world shared op = (reply, next)) :
    TableFrom gateway before (events ++ [⟨op, reply⟩]) next := by
  constructor
  · intro entry member
    have shown := congrArg Prod.snd performed
    rw [← show (perform key gateway world shared op).2 = next from shown] at member
    rcases mem_table_perform member with old | remembered
    · rcases accounted.held entry old with first | ⟨answer, among⟩
      · exact .inl first
      · exact .inr ⟨answer, List.mem_append_left _ among⟩
    · subst remembered
      exact .inr ⟨reply, by simp⟩
  · intro binding digest receipt member
    have remembered : ∀ entry : Binding × String × Receipt, entry ∈ shared.table gateway →
        entry ∈ before.table gateway ∨
          ∃ answer, ⟨.remember entry.1 entry.2.1 entry.2.2, answer⟩ ∈ events ++ [⟨op, reply⟩] := by
      intro entry old
      rcases accounted.held entry old with first | ⟨answer, among⟩
      · exact .inl first
      · exact .inr ⟨answer, List.mem_append_left _ among⟩
    rcases List.mem_append.mp member with old | new
    · rcases accounted.found binding digest receipt old with first | ⟨answer, among⟩
      · exact .inl first
      · exact .inr ⟨answer, List.mem_append_left _ among⟩
    · have same := List.mem_singleton.mp new
      obtain ⟨rfl, answer⟩ := Sigma.mk.inj same
      obtain rfl := eq_of_heq answer
      have looked : (shared.table gateway).lookup binding = some (digest, receipt) :=
        congrArg Prod.fst performed
      obtain ⟨front, back, split, -⟩ := List.lookup_eq_some_iff.mp looked
      exact remembered (binding, digest, receipt) (by rw [split]; simp)

/-- An activity accounts for the table it leaves. -/
theorem table_of_performed (performed : activity.Performed key kind gateway before after) :
    TableFrom gateway before activity.events after := by
  have start : TableFrom gateway before [] before :=
    ⟨fun _ member => .inl member, fun _ _ _ none => nomatch none⟩
  apply performed.history (TableFrom gateway before) _ start
  rintro past state op record reply next accounted ⟨rfl, world, performed⟩
  exact accounted.step performed

/-- What an activity of the in-memory gateway adds to the table is a plan that it applied. -/
theorem applies_of_held (performed : activity.Performed key .action gateway before after)
    {entry : Binding × String × Receipt} (member : entry ∈ after.table gateway) :
    entry ∈ before.table gateway ∨ activity.AppliesDigest entry.1 entry.2.1 := by
  rcases (table_of_performed performed).held entry member with old | ⟨reply, remembered⟩
  · exact .inl old
  · refine .inr ?_
    rcases action_permits performed with ⟨plan, called, permitted⟩ | idle
    · obtain ⟨named, same, applied⟩ := applied_of_remember permitted remembered
      exact ⟨plan, called, applied, named.symm, same.symm⟩
    · exact absurd (idle _ remembered) (by simp [GatewayOp.steady])

/-- An activity of the in-memory gateway that the source answered with success applied its plan. -/
theorem applies_of_answered (performed : activity.Performed key .action gateway before after)
    {event : gatewaySignature.Event} (among : event ∈ activity.events)
    (answered : GatewayOp.applies event.1 event.2 = true) :
    ∃ plan, activity.call.plan? = some plan ∧ activity.Applies plan := by
  rcases action_permits performed with ⟨plan, called, permitted⟩ | steady
  · exact ⟨plan, called, applied_of_applies permitted among answered⟩
  · have still := steady event among
    rw [unsteady_of_applies answered] at still
    cases still

/-- A replay found its key bound to its digest before it started. -/
theorem held_of_replay {action : SourceActionPlan} {shown : ActionPreview}
    {identity : RequestIdentity} {approval : Option ActionApproval} {receipt : StoredReceipt}
    (called : activity.call = .execute action shown identity approval)
    (performed : activity.Performed key .action gateway before after)
    (returned : activity.outcome = .ok (.receipt receipt))
    (replayed : receipt.state = .alreadyExecuted) :
    ∃ first, (action.binding, action.digest, first) ∈ before.table gateway := by
  obtain ⟨permitted, telling⟩ := execute_follows_phase called performed
  have shows := shown_after permitted
  rcases telling receipt returned with ⟨executed, -⟩ | ⟨-, found⟩
  · rw [replayed] at executed
    cases executed
  · rw [found] at shows
    obtain ⟨idle, first, looked⟩ := shows
    rcases (table_of_performed performed).found _ _ _ looked with old | ⟨reply, remembered⟩
    · exact ⟨first, old⟩
    · exact absurd (idle _ remembered) (by simp [GatewayOp.commits])

/-- A gateway that starts with an empty table binds keys only to plans that the source applied. -/
theorem bindings_applied {start shared : Shared} {activities : List Activity}
    (fresh : start.table gateway = [])
    (run : (sequence key .action gateway).Run start activities shared) :
    ∀ entry ∈ shared.table gateway, ∃ activity ∈ activities,
      activity.AppliesDigest entry.1 entry.2.1 := by
  induction run with
  | nil =>
    intro entry member
    rw [fresh] at member
    cases member
  | snoc _ step ih =>
    intro entry member
    rcases applies_of_held step member with old | applied
    · obtain ⟨activity, among, applied⟩ := ih entry old
      exact ⟨activity, List.mem_append_left _ among, applied⟩
    · exact ⟨_, by simp, applied⟩

end Activities

end DataHarness
