import DataHarness.Gateway.Sequence

/-!
# Keys that one call binds

One call of the in-memory gateway dispatches its plan only where the key was free, and binds the
key of a plan that the source applied before it ends, as long as its clock tells the time zone and
the source names a version that can be written. So the table never loses an effect, and no plan is
applied under a key that is bound.
-/

namespace DataHarness

open Effect Program ActionGateway

/-- How far one call has come with the binding of its plan. -/
inductive BindingPhase
  /-- The key was not looked up. -/
  | checking
  /-- The key was bound. -/
  | bound (digest : String) (receipt : Receipt)
  /-- The key was free. -/
  | free
  /-- The source answered that the plan was applied, and the key is not bound. -/
  | owed
  /-- The source answered, and nothing is owed. -/
  | settled

/-- The clock tells its time zone, the audit ledger takes entries at such times, and the version a
successful answer names can be written. -/
def GatewayOp.Timely : (op : GatewayOp) → op.Reply → Prop
  | .now, time => DateTime.aware time = true
  | .audit _ _ occurredAt _, entry => occurredAt.aware = true → ∃ made, entry = .ok made
  | .await (.mutate _ _), .ok result => versioned result = true
  | _, _ => True

/-- A call looks up the key of its plan, dispatches the plan if the key was free, and binds the key
if the source applied it. -/
def bindingProtocol [Stdlib] (plan : SourceActionPlan) :
    Protocol gatewaySignature BindingPhase where
  may phase op :=
    match op with
    | .lookup binding => phase = .checking ∧ binding = plan.binding
    | .invoke (.mutate _ _) => phase = .free
    | .await (.mutate _ _) => phase = .free
    | .remember binding digest receipt =>
      phase = .owed ∧ binding = plan.binding ∧ digest = plan.digest ∧
        receipt.actionDigest = plan.digest
    | _ => True
  can := GatewayOp.Timely
  next phase op reply :=
    match op, reply with
    | .lookup _, some (digest, receipt) => .bound digest receipt
    | .lookup _, none => .free
    | .await (.mutate sourceId request), answer =>
      if GatewayOp.applies (.await (.mutate sourceId request)) answer then .owed else .settled
    | .remember _ _ _, _ => .settled
    | _, _ => phase

section Phases

variable [Stdlib] {plan : SourceActionPlan} {phase : BindingPhase}

/-- Steady calls are permitted in every phase. -/
theorem binding_may {op : GatewayOp} (steady : op.steady = true) :
    (bindingProtocol plan).may phase op := by
  cases op with
  | invoke call =>
    cases call with
    | mutate => cases steady
    | reconcile => trivial
  | await call =>
    cases call with
    | mutate => cases steady
    | reconcile => trivial
  | lookup => cases steady
  | remember => cases steady
  | _ => trivial

/-- Steady calls leave the phase as it is. -/
theorem binding_next {op : GatewayOp} (steady : op.steady = true) (reply : op.Reply) :
    (bindingProtocol plan).next phase op reply = phase := by
  cases op with
  | await call =>
    cases call with
    | mutate => cases steady
    | reconcile => rfl
  | lookup => cases steady
  | remember => cases steady
  | _ => rfl

/-- A steady program and what follows it in the same phase. -/
theorem binding_bind {α β : Type} {program : GatewayProgram α} {rest : α → GatewayProgram β}
    {post : Except ActionError β → BindingPhase → Prop}
    (makes : program.Makes fun op : GatewayOp => op.steady = true)
    (onward : ∀ value, (rest value).Follows (bindingProtocol plan) phase post)
    (raises : ∀ error, post (.error error) phase) :
    (program.bind rest).Follows (bindingProtocol plan) phase post := by
  have follows : program.Follows (bindingProtocol plan) phase fun _ final => final = phase :=
    makes.follows (fun _ steady => binding_may steady) fun _ reply steady =>
      binding_next steady reply
  apply follows.bind
  · intro value final same
    rw [same]
    exact onward value
  · intro error final same
    rw [same]
    exact raises error

/-- A dispatch that ended owes a binding exactly if it returns a successful answer, whose version
can be written. -/
def Owes (ended : Except ActionError PyValue) (phase : BindingPhase) : Prop :=
  (∃ result, ended = .ok result ∧ succeeded result = true ∧ versioned result = true ∧
      phase = .owed) ∨
    (∀ result, ended = .ok result → succeeded result = false) ∧ phase = .settled

/-- `mutate` owes a binding exactly if the source applied the plan. -/
theorem mutate_owes (action : SourceActionPlan) :
    (mutate action).Follows (bindingProtocol plan) .free Owes := by
  refine ⟨rfl, fun _ _ => ⟨rfl, fun reply told => ?_⟩⟩
  cases reply with
  | error error => exact .inr ⟨fun _ same => (by cases same), rfl⟩
  | ok answer =>
    have told : versioned answer = true := told
    change Follows _ ((bindingProtocol plan).next _ _ _)
      (if answer.isMapping = true then .ret answer else .raise _) _
    by_cases mapping : answer.isMapping = true
    · rw [if_pos mapping]
      by_cases success : succeeded answer = true
      · apply Or.inl
        exact ⟨answer, rfl, success, told, by
          simp [bindingProtocol, GatewayOp.applies, mapping, success]⟩
      · apply Or.inr
        constructor
        · intro result same
          cases same
          exact Bool.eq_false_iff.mpr success
        · simp [bindingProtocol, GatewayOp.applies, success]
    · rw [if_neg mapping]
      exact .inr ⟨fun _ same => (by cases same), by simp [bindingProtocol, GatewayOp.applies, mapping]⟩

/-- A call that ended owes nothing, and the receipt it returns is of its own plan or the one its key
was bound to. -/
def Concludes (plan : SourceActionPlan) (ended : Except ActionError StoredReceipt)
    (phase : BindingPhase) : Prop :=
  phase ≠ .owed ∧ ∀ receipt, ended = .ok receipt →
    receipt.actionDigest = .str plan.digest ∨
      ∃ first, phase = .bound plan.digest first ∧ receipt.actionDigest = .str first.actionDigest

/-- A call that raises concludes where nothing is owed. -/
theorem concludes_error (settled : phase ≠ .owed) (error : ActionError) :
    Concludes plan (.error error) phase := ⟨settled, fun _ same => nomatch same⟩

/-- A replay concludes with the receipt its key was bound to. -/
theorem replay_concludes (identity : RequestIdentity) (started : DateTime) (receipt : Receipt) :
    (replay plan identity started receipt.stored).Follows (bindingProtocol plan)
      (.bound plan.digest receipt) (Concludes plan) := by
  have raises := @concludes_error _ plan (.bound plan.digest receipt) (by simp)
  apply binding_bind (append_makes GatewayOp.steady_of_plain ..) _ raises
  intro audit
  apply binding_bind (emit_makes GatewayOp.steady_of_plain ..) _ raises
  intro sent
  refine ⟨by simp, fun returned same => ?_⟩
  cases same
  exact .inr ⟨receipt, rfl, rfl⟩

/-- What `ActionGateway` does once the connector has raised concludes. -/
theorem connectorFailed_concludes (identity : RequestIdentity) (decision : PolicyDecision)
    (started : DateTime) :
    (connectorFailed plan identity decision started).Follows (bindingProtocol plan) .settled
      (Concludes plan) := by
  have raises := @concludes_error _ plan .settled (by simp)
  apply binding_bind (now_makes GatewayOp.steady_of_plain) _ raises
  intro completed
  apply binding_bind (append_makes GatewayOp.steady_of_plain ..) _ raises
  intro audit
  apply binding_bind (makes_ask rfl) _ raises
  intro count
  apply binding_bind (emit_makes GatewayOp.steady_of_plain ..) _ raises
  exact fun _ => raises _

/-- A steady call is permitted in every phase. -/
theorem ask_bind {β : Type} {op : GatewayOp} {rest : op.Reply → GatewayProgram β}
    {post : Except ActionError β → BindingPhase → Prop} (steady : op.steady = true)
    (onward : ∀ reply, (rest reply).Follows (bindingProtocol plan) phase post) :
    ((ask op).bind rest).Follows (bindingProtocol plan) phase post := by
  refine ⟨binding_may steady, fun reply _ => ?_⟩
  rw [binding_next steady]
  exact onward reply

/-- The clock is read in every phase, and tells its time zone. -/
theorem now_bind {β : Type} {rest : DateTime → GatewayProgram β}
    {post : Except ActionError β → BindingPhase → Prop}
    (onward : ∀ time, time.aware = true → (rest time).Follows (bindingProtocol plan) phase post) :
    (now.bind rest).Follows (bindingProtocol plan) phase post := ⟨trivial, onward⟩

/-- An entry at a time that tells its time zone is added. -/
theorem append_bind {β : Type} {rest : AuditEntry → GatewayProgram β}
    {post : Except ActionError β → BindingPhase → Prop} {eventType actionId : String}
    {occurredAt : DateTime} {attributes : List (String × Json.Value)}
    (aware : occurredAt.aware = true)
    (onward : ∀ entry, (rest entry).Follows (bindingProtocol plan) phase post) :
    ((append eventType actionId occurredAt attributes).bind rest).Follows (bindingProtocol plan)
      phase post := by
  refine ⟨trivial, fun reply timely => ?_⟩
  obtain ⟨entry, rfl⟩ := timely aware
  exact onward entry

/-- What `ActionGateway` does once the connector has answered binds the key of a plan that was
applied. -/
theorem connectorAnswered_concludes (identity : RequestIdentity) (decision : PolicyDecision)
    (started : DateTime) {result : PyValue}
    (owes : succeeded result = true ∧ versioned result = true ∧ phase = .owed ∨
      succeeded result = false ∧ phase = .settled) :
    (connectorAnswered plan identity decision started result).Follows (bindingProtocol plan) phase
      (Concludes plan) := by
  have raises := @concludes_error _ plan .settled (by simp)
  rcases owes with ⟨success, told, rfl⟩ | ⟨failure, rfl⟩
  · obtain ⟨version, written⟩ := exists_version success told
    unfold connectorAnswered
    rw [written]
    apply now_bind
    intro completed aware
    apply append_bind aware
    intro audit
    apply ask_bind rfl
    intro count
    rw [if_pos success]
    refine ⟨⟨rfl, rfl, rfl, rfl⟩, fun _ _ => ?_⟩
    apply binding_bind (emit_makes GatewayOp.steady_of_plain ..) _ raises
    intro sent
    refine ⟨by simp, fun returned same => ?_⟩
    cases same
    exact .inl rfl
  · apply now_bind
    intro completed aware
    apply binding_bind (makes_ofExcept _) _ raises
    intro version
    apply append_bind aware
    intro audit
    apply ask_bind rfl
    intro count
    rw [if_neg (by simp [failure])]
    apply binding_bind (emit_makes GatewayOp.steady_of_plain ..) _ raises
    exact fun _ => raises _

/-- `ActionGateway.dispatch` concludes where the key was free. -/
theorem dispatch_concludes (identity : RequestIdentity) (decision : PolicyDecision)
    (started : DateTime) :
    (ActionGateway.dispatch plan identity decision started).Follows (bindingProtocol plan) .free
      (Concludes plan) := by
  apply binding_bind (connector_makes GatewayOp.steady_of_plain _) _
    (concludes_error (by simp))
  intro handle
  have attempted : ((mutate plan).attempt ActionError.isException).Follows (bindingProtocol plan)
      .free fun ended final => (∀ outcome, ended = .ok outcome → Owes outcome final) ∧
        ∀ error, ended = .error error → final = .settled := by
    apply (mutate_owes plan).attempt
    · intro outcome final owes
      refine ⟨?_, by simp⟩
      rintro _ ⟨⟩
      exact owes
    · rintro error final (⟨_, same, -⟩ | ⟨-, settled⟩)
      · cases same
      · exact ⟨by simp, fun _ _ => settled⟩
  apply attempted.bind
  · rintro outcome final ⟨owes, -⟩
    rcases owes outcome rfl with ⟨result, rfl, success, told, owed⟩ | ⟨failure, settled⟩
    · exact connectorAnswered_concludes identity decision started (.inl ⟨success, told, owed⟩)
    · cases outcome with
      | error error =>
        rw [settled]
        exact connectorFailed_concludes identity decision started
      | ok result =>
        exact connectorAnswered_concludes identity decision started
          (.inr ⟨failure result rfl, settled⟩)
  · rintro error final ⟨-, settled⟩
    exact concludes_error (by simp [settled error rfl]) error

/-- `ActionGateway.execute` concludes. -/
theorem execute_concludes (preview : ActionPreview) (identity : RequestIdentity)
    (approval : Option ActionApproval) :
    (GatewayKind.action.execute plan preview identity approval).Follows (bindingProtocol plan)
      .checking (Concludes plan) := by
  rw [kind_execute_eq]
  apply binding_bind (passGates_makes GatewayOp.steady_of_plain ..) _ (concludes_error (by simp))
  rintro ⟨started, decision⟩
  refine ⟨⟨rfl, rfl⟩, fun existing _ => ?_⟩
  match existing with
  | none => exact dispatch_concludes identity decision started
  | some (digest, receipt) =>
    change Follows _ (BindingPhase.bound digest receipt) (if digest ≠ plan.digest then _ else _) _
    by_cases other : digest ≠ plan.digest
    · rw [if_pos other]
      exact concludes_error (by simp) _
    · rw [if_neg other]
      rw [not_not.mp other]
      exact replay_concludes identity started receipt

/-- `compensate` owes nothing when it ends. -/
theorem compensate_concludes {original : SourceActionPlan} {spec : CompensationSpec}
    (declared : original.compensation = some spec) (receipt : StoredReceipt)
    (identity : RequestIdentity) (approval : Option ActionApproval) :
    (GatewayKind.action.compensate original receipt identity approval).Follows
      (bindingProtocol (original.compensating spec)) .checking fun _ phase => phase ≠ .owed := by
  simp only [GatewayKind.compensate, declared]
  apply binding_bind (previewCompensation_makes GatewayOp.steady_of_plain ..)
  · intro shown
    apply (execute_concludes shown identity none).bind
    · intro compensated final concludes
      apply binding_bind (now_makes GatewayOp.steady_of_plain)
      · intro completed
        apply binding_bind (append_makes GatewayOp.steady_of_plain ..)
        · exact fun _ => concludes.1
        · exact fun _ => concludes.1
      · exact fun _ => concludes.1
    · exact fun _ _ concludes => concludes.1
  · simp

/-! ## What the calls of a trace show -/

/-- How often the source answered with success. -/
def successCount (events : List gatewaySignature.Event) : Nat :=
  events.countP fun event => GatewayOp.applies event.1 event.2

omit [Stdlib] in
/-- One more call. -/
theorem successCount_snoc (events : List gatewaySignature.Event) (event : gatewaySignature.Event) :
    successCount (events ++ [event]) =
      successCount events + if GatewayOp.applies event.1 event.2 then 1 else 0 := by
  simp [successCount, List.countP_append, List.countP_cons]

/-- The call that found the key of a plan free. -/
def SourceActionPlan.unbound (plan : SourceActionPlan) : gatewaySignature.Event :=
  ⟨.lookup plan.binding, (none : Option (String × Receipt))⟩

/-- The calls bound the key of a plan. -/
def BoundIn (plan : SourceActionPlan) (events : List gatewaySignature.Event) : Prop :=
  ∃ receipt reply, ⟨.remember plan.binding plan.digest receipt, reply⟩ ∈ events

/-- What the calls made so far show of the binding phase they led to. -/
def BindingShown (plan : SourceActionPlan) (events : List gatewaySignature.Event) :
    BindingPhase → Prop
  | .checking => successCount events = 0
  | .bound digest receipt => successCount events = 0 ∧
      ⟨.lookup plan.binding, some (digest, receipt)⟩ ∈ events
  | .free => successCount events = 0 ∧ plan.unbound ∈ events
  | .owed => successCount events = 1 ∧ plan.unbound ∈ events
  | .settled => successCount events = 0 ∨
      successCount events = 1 ∧ plan.unbound ∈ events ∧ BoundIn plan events

/-- A call without a successful answer that leaves the phase shows no more. -/
theorem BindingShown.snoc {events : List gatewaySignature.Event}
    (shown : BindingShown plan events phase) {event : gatewaySignature.Event}
    (unanswered : GatewayOp.applies event.1 event.2 = false) :
    BindingShown plan (events ++ [event]) phase := by
  have same : successCount (events ++ [event]) = successCount events := by
    rw [successCount_snoc, unanswered]
    simp
  cases phase with
  | checking => exact same.trans shown
  | bound digest receipt => exact ⟨same.trans shown.1, List.mem_append_left _ shown.2⟩
  | free => exact ⟨same.trans shown.1, List.mem_append_left _ shown.2⟩
  | owed => exact ⟨same.trans shown.1, List.mem_append_left _ shown.2⟩
  | settled =>
    rcases shown with none | ⟨one, unbound, receipt, reply, bound⟩
    · exact .inl (same.trans none)
    · exact .inr ⟨same.trans one, List.mem_append_left _ unbound, receipt, reply,
        List.mem_append_left _ bound⟩

/-- One permitted call keeps to what the calls show. -/
theorem BindingShown.step {events : List gatewaySignature.Event}
    (shown : BindingShown plan events phase) {event : gatewaySignature.Event}
    (permitted : (bindingProtocol plan).may phase event.1) :
    BindingShown plan (events ++ [event]) ((bindingProtocol plan).next phase event.1 event.2) := by
  obtain ⟨op, reply⟩ := event
  by_cases steady : op.steady = true
  · rw [binding_next steady]
    apply shown.snoc
    by_contra answered
    rw [Bool.not_eq_false] at answered
    have moves := unsteady_of_applies answered
    rw [steady] at moves
    cases moves
  · cases op with
    | lookup binding =>
      obtain ⟨rfl, rfl⟩ := permitted
      have none : BindingShown plan (events ++ [⟨.lookup plan.binding, reply⟩]) .checking :=
        shown.snoc rfl
      match reply with
      | Option.none => exact ⟨none, by simp [SourceActionPlan.unbound]⟩
      | some (digest, receipt) => exact ⟨none, by simp⟩
    | invoke call =>
      cases call with
      | mutate sourceId request => exact shown.snoc rfl
      | reconcile => exact absurd rfl steady
    | await call =>
      cases call with
      | mutate sourceId request =>
        obtain rfl : phase = .free := permitted
        have counted := successCount_snoc events ⟨.await (.mutate sourceId request), reply⟩
        rw [shown.1] at counted
        by_cases answered : GatewayOp.applies (.await (.mutate sourceId request)) reply = true
        · change BindingShown plan _ (if _ then _ else _)
          rw [if_pos answered]
          rw [if_pos answered] at counted
          exact ⟨counted, List.mem_append_left _ shown.2⟩
        · change BindingShown plan _ (if _ then _ else _)
          rw [if_neg answered]
          rw [if_neg answered] at counted
          exact .inl counted
      | reconcile => exact absurd rfl steady
    | remember binding digest receipt =>
      obtain ⟨rfl, rfl, rfl, -⟩ := permitted
      have kept : BindingShown plan
          (events ++ [⟨.remember plan.binding plan.digest receipt, reply⟩]) .owed := shown.snoc rfl
      exact .inr ⟨kept.1, kept.2, receipt, reply, by simp⟩
    | _ => exact absurd rfl steady

/-- The calls of a fresh call show the binding phase they lead to. -/
theorem bindingShown_after {events : List gatewaySignature.Event}
    (permitted : (bindingProtocol plan).Permits .checking events) :
    BindingShown plan events ((bindingProtocol plan).after .checking events) :=
  permitted.invariant (BindingShown plan) rfl fun _ _ _ shown permitted => shown.step permitted

end Phases

/-! ## Activities of the in-memory gateway -/

/-- How often the source answered an activity with success. -/
def Activity.successes (activity : Activity) : Nat := successCount activity.events

/-- Every reading of the clock in an activity tells its time zone, and every success in it names a
version that can be written. -/
def Activity.Tells (activity : Activity) : Prop :=
  ∀ event ∈ activity.events, event.1.Tells event.2

section Activities

variable [Stdlib] {key : IntegrityKey} {kind : GatewayKind} {gateway : Nat} {activity : Activity}
  {before after : Shared}

/-- The audit ledger adds an entry at a time that tells its time zone. -/
theorem perform_timely {world : World gatewaySignature} {shared next : Shared} {op : GatewayOp}
    {reply : op.Reply} (performed : perform key gateway world shared op = (reply, next))
    (tells : op.Tells reply) : op.Timely reply := by
  cases op with
  | now => exact tells
  | await call =>
    cases call with
    | mutate =>
      cases reply with
      | error error => trivial
      | ok result => exact tells
    | reconcile => trivial
  | audit eventType actionId occurredAt attributes =>
    intro aware
    have replied : (perform key gateway world shared (.audit eventType actionId occurredAt
      attributes)).1 = reply := congrArg Prod.fst performed
    rw [← replied]
    simp only [perform, ActionAuditLedger.append, aware, if_true]
    exact ⟨_, rfl⟩
  | _ => trivial

/-- The replies to such an activity are timely. -/
theorem Activity.Performed.timely (performed : activity.Performed key kind gateway before after)
    (tells : activity.Tells) : ∀ event ∈ activity.events, event.1.Timely event.2 := by
  have start : ∀ event ∈ ([] : List gatewaySignature.Event),
      event.1.Tells event.2 → event.1.Timely event.2 :=
    fun _ none => nomatch none
  have all : ∀ event ∈ activity.events, event.1.Tells event.2 → event.1.Timely event.2 := by
    apply performed.history (fun past _ => ∀ event ∈ past,
      event.1.Tells event.2 → event.1.Timely event.2) _ start
    rintro past state op record reply next timely ⟨rfl, world, acted⟩ event member
    rcases List.mem_append.mp member with old | new
    · exact timely event old
    · rw [List.mem_singleton.mp new]
      exact perform_timely acted
  exact fun event member => all event member (tells event member)

omit [Stdlib] in
/-- A program that only makes steady calls has no successful answer. -/
theorem successes_of_steady (steady : ∀ event ∈ activity.events, event.1.steady = true) :
    activity.successes = 0 := by
  apply List.countP_eq_zero.mpr
  intro event member answered
  have moves := unsteady_of_applies answered
  rw [steady event member] at moves
  cases moves

/-- An activity concludes the binding of its plan, or makes only steady calls. -/
theorem binding_permits (performed : activity.Performed key .action gateway before after)
    (tells : activity.Tells) :
    (∃ plan, activity.call.plan? = some plan ∧
      (bindingProtocol plan).Permits .checking activity.events ∧
        (bindingProtocol plan).after .checking activity.events ≠ .owed) ∨
      ∀ event ∈ activity.events, event.1.steady = true := by
  have timely := performed.timely tells
  cases called : activity.call with
  | preview action identity ttl => exact .inr (preview_steady called performed)
  | execute action shown identity approval =>
    have follows : (activity.call.program .action).Follows (bindingProtocol action) .checking
        fun _ phase => phase ≠ .owed := by
      rw [called]
      exact (execute_concludes shown identity approval).bind
        (fun _ _ concludes => concludes.1) fun _ _ concludes => concludes.1
    exact .inl ⟨action, rfl, performed.follows follows timely⟩
  | compensate original receipt identity approval =>
    cases declared : original.compensation with
    | none =>
      have makes : (activity.call.program .action).Makes fun op : GatewayOp => op.steady = true := by
        rw [called]
        simp only [GatewayCall.program, GatewayKind.compensate, declared]
        trivial
      exact .inr (performed.makes makes)
    | some spec =>
      have follows : (activity.call.program .action).Follows
          (bindingProtocol (original.compensating spec)) .checking fun _ phase => phase ≠ .owed := by
        rw [called]
        exact (compensate_concludes declared receipt identity approval).bind
          (fun _ _ settled => settled) fun _ _ settled => settled
      exact .inl ⟨original.compensating spec, by simp [GatewayCall.plan?, declared],
        performed.follows follows timely⟩
  | reconcile action identity =>
    have makes : (activity.call.program .action).Makes fun op : GatewayOp => op.steady = true := by
      rw [called]
      trivial
    exact .inr (performed.makes makes)

/-- The table of a gateway after some of its calls has what it had and what they remembered, and had
nothing under a key they found free. -/
structure TableGrown (gateway : Nat) (before : Shared) (events : List gatewaySignature.Event)
    (shared : Shared) : Prop where
  kept : before.table gateway ⊆ shared.table gateway
  free : ∀ binding, ⟨.lookup binding, (none : Option (String × Receipt))⟩ ∈ events →
    ∀ entry ∈ before.table gateway, entry.1 ≠ binding
  remembered : ∀ binding digest receipt reply,
    ⟨.remember binding digest receipt, reply⟩ ∈ events →
      (binding, digest, receipt) ∈ shared.table gateway

/-- A call loses nothing from the table of its gateway. -/
theorem table_subset_perform {world : World gatewaySignature} {shared : Shared} (op : GatewayOp) :
    shared.table gateway ⊆ (perform key gateway world shared op).2.table gateway := by
  intro entry member
  cases op with
  | audit eventType actionId occurredAt attributes =>
    unfold perform
    dsimp only
    split
    · simpa [Shared.set, Shared.table] using member
    · exact member
  | remember binding digest receipt =>
    simp only [perform, Shared.table, Shared.set, if_pos]
    exact List.mem_cons_of_mem _ member
  | _ => exact member

/-- One call grows the table. -/
theorem TableGrown.step {shared next : Shared} {events : List gatewaySignature.Event}
    (grown : TableGrown gateway before events shared) {world : World gatewaySignature}
    {op : GatewayOp} {reply : op.Reply}
    (performed : perform key gateway world shared op = (reply, next)) :
    TableGrown gateway before (events ++ [⟨op, reply⟩]) next := by
  have replied : (perform key gateway world shared op).1 = reply := congrArg Prod.fst performed
  have shown : (perform key gateway world shared op).2 = next := congrArg Prod.snd performed
  have more : shared.table gateway ⊆ next.table gateway := by
    rw [← shown]
    exact table_subset_perform op
  constructor
  · exact fun entry member => more (grown.kept member)
  · intro binding member
    rcases List.mem_append.mp member with old | new
    · exact grown.free binding old
    · obtain ⟨rfl, answer⟩ := Sigma.mk.inj (List.mem_singleton.mp new)
      obtain rfl := eq_of_heq answer
      have looked : (shared.table gateway).lookup binding = none := replied
      rintro ⟨binding, value⟩ held rfl
      have absent := List.lookup_eq_none_iff.mp looked _ (grown.kept held)
      simp at absent
  · intro binding digest receipt answer member
    rcases List.mem_append.mp member with old | new
    · exact more (grown.remembered binding digest receipt answer old)
    · obtain ⟨rfl, -⟩ := Sigma.mk.inj (List.mem_singleton.mp new)
      rw [← shown]
      simp [perform, Shared.table, Shared.set]

/-- An activity grows the table of its gateway. -/
theorem tableGrown_of_performed (performed : activity.Performed key kind gateway before after) :
    TableGrown gateway before activity.events after := by
  have start : TableGrown gateway before [] before :=
    ⟨List.Subset.refl _, fun _ none => (nomatch none), fun _ _ _ _ none => nomatch none⟩
  apply performed.history (TableGrown gateway before) _ start
  rintro past state op record reply next grown ⟨rfl, world, performed⟩
  exact grown.step performed

/-- An activity had no success, or one with a plan whose key was free before and is bound after. -/
theorem success_bound (performed : activity.Performed key .action gateway before after)
    (tells : activity.Tells) :
    activity.successes = 0 ∨ activity.successes = 1 ∧ ∃ plan, activity.call.plan? = some plan ∧
      (∀ entry ∈ before.table gateway, entry.1 ≠ plan.binding) ∧
        ∃ receipt, (plan.binding, plan.digest, receipt) ∈ after.table gateway := by
  have grown := tableGrown_of_performed performed
  rcases binding_permits performed tells with ⟨plan, called, permitted, owed⟩ | steady
  · have shown := bindingShown_after permitted
    cases ended : (bindingProtocol plan).after .checking activity.events with
    | checking =>
      rw [ended] at shown
      exact .inl shown
    | bound digest receipt =>
      rw [ended] at shown
      exact .inl shown.1
    | free =>
      rw [ended] at shown
      exact .inl shown.1
    | owed => exact absurd ended owed
    | settled =>
      rw [ended] at shown
      rcases shown with none | ⟨one, unbound, receipt, reply, bound⟩
      · exact .inl none
      · exact .inr ⟨one, plan, called, grown.free _ unbound, receipt,
          grown.remembered _ _ _ _ bound⟩
  · exact .inl (successes_of_steady steady)

/-! ## Receipts and the table -/

/-- Every receipt of the table is one of the plan its key is bound to. -/
def SoundTable (gateway : Nat) (shared : Shared) : Prop :=
  ∀ entry ∈ shared.table gateway, entry.2.2.actionDigest = entry.2.1

/-- An activity keeps the receipts of the table sound. -/
theorem SoundTable.performed (sound : SoundTable gateway before)
    (performed : activity.Performed key .action gateway before after) (tells : activity.Tells) :
    SoundTable gateway after := by
  intro entry member
  rcases (table_of_performed performed).held entry member with old | ⟨reply, remembered⟩
  · exact sound entry old
  · rcases binding_permits performed tells with ⟨plan, -, permitted, -⟩ | steady
    · obtain ⟨earlier, later, same⟩ := List.append_of_mem remembered
      obtain ⟨-, -, digest, receipt⟩ := permitted earlier _ later same
      exact receipt.trans digest.symm
    · exact absurd (steady _ remembered) (by simp [GatewayOp.steady])

/-- The receipt that an execution returns is one of its plan. -/
theorem digest_of_returned {action : SourceActionPlan} {shown : ActionPreview}
    {identity : RequestIdentity} {approval : Option ActionApproval} {receipt : StoredReceipt}
    (sound : SoundTable gateway before)
    (called : activity.call = .execute action shown identity approval)
    (performed : activity.Performed key .action gateway before after) (tells : activity.Tells)
    (returned : activity.outcome = .ok (.receipt receipt)) :
    receipt.actionDigest = .str action.digest := by
  have follows : (activity.call.program .action).Follows (bindingProtocol action) .checking
      fun ended phase => ∀ receipt, ended = .ok (.receipt receipt) →
        Concludes action (.ok receipt) phase := by
    rw [called]
    apply (execute_concludes shown identity approval).bind
    · intro made final concludes receipt same
      cases same
      exact concludes
    · exact fun _ _ _ _ same => nomatch same
  obtain ⟨permitted, concludes⟩ := performed.follows follows (performed.timely tells)
  rcases (concludes receipt returned).2 receipt rfl with own | ⟨first, ended, same⟩
  · exact own
  · have shows := bindingShown_after permitted
    rw [ended] at shows
    rw [same]
    rcases (table_of_performed performed).found _ _ _ shows.2 with old | ⟨reply, remembered⟩
    · have held : first.actionDigest = action.digest := sound _ old
      rw [held]
    · obtain ⟨earlier, later, split⟩ := List.append_of_mem remembered
      obtain ⟨-, -, -, held⟩ := permitted earlier _ later split
      rw [held]

/-- A compensation that dispatches was given a receipt of its plan. -/
theorem digest_of_dispatched {original : SourceActionPlan} {receipt : StoredReceipt}
    {identity : RequestIdentity} {approval : Option ActionApproval}
    (called : activity.call = .compensate original receipt identity approval)
    (performed : activity.Performed key kind gateway before after)
    (dispatches : activity.Dispatches) : receipt.actionDigest = .str original.digest := by
  by_contra other
  have mismatch : previewCompensation.isDigest original receipt.actionDigest = false := by
    unfold previewCompensation.isDigest
    split
    · rename_i text shown
      apply Bool.eq_false_iff.mpr
      intro same
      rw [beq_iff_eq.mp same] at shown
      exact other shown
    · rfl
  have makes : (activity.call.program kind).Makes fun op : GatewayOp => op.dispatches = false := by
    rw [called]
    cases declared : original.compensation with
    | none =>
      simp only [GatewayCall.program, GatewayKind.compensate, declared]
      trivial
    | some spec =>
      simp only [GatewayCall.program, GatewayKind.compensate, declared, previewCompensation]
      rw [if_pos mismatch]
      cases original.takeDigest <;> trivial
  obtain ⟨event, member, dispatched⟩ := dispatches
  have still := performed.makes makes event member
  rw [dispatched] at still
  cases still

end Activities

end DataHarness
