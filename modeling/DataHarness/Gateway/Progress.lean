import DataHarness.Gateway.Dispatch

/-!
# How far a call has come with its key

`ActionGateway.execute` reads the table of idempotency keys before `connector.mutate` and writes
it after it. Between the lookup and the dispatch it awaits nothing, and neither does it between
the answer of the connector and the binding of the key; while it waits for the answer, other
calls run. Every call of an in-memory gateway follows this protocol (`program_progress`).
-/

namespace DataHarness

open Effect Program Transition

/-! ## The protocol of one call -/

/-- How far a call has come with its key. -/
inductive Phase
  /-- The key was not looked up, or the call has failed. -/
  | idle
  /-- The key was unbound. -/
  | missed
  /-- The connector was called. -/
  | pending
  /-- The connector reported success. -/
  | unsaved
  /-- The key is bound to the plan's digest. -/
  | bound
deriving DecidableEq

/-- The key and the digest of the plan a call executes, and how far it has come. -/
structure Progress where
  binding : Binding
  digest : String
  phase : Phase

/-- The connector answered with explicit success. -/
def reportsSuccess : Except ActionError PyValue → Bool
  | .ok result => result.isMapping && ActionGateway.succeeded result
  | .error _ => false

/-- A call looks up its own key, calls the connector only when the key was unbound, and binds it
after success; between the lookup and the call, and between the answer and the binding, it
awaits nothing. -/
def progressProtocol : Protocol gatewaySignature Progress where
  may state op :=
    match state.phase with
    | .idle => op.plain = true ∨ op = .lookup state.binding
    | .missed => (∃ sourceId, op = .connector sourceId) ∨ ∃ sourceId request,
        op = .invoke (.mutate sourceId request) ∧ (sourceId, request.idempotencyKey) = state.binding
    | .pending => ∃ sourceId request,
        op = .await (.mutate sourceId request) ∧ (sourceId, request.idempotencyKey) = state.binding
    | .unsaved => (op.plain = true ∧ op.suspends = false) ∨
        ∃ receipt, op = .remember state.binding state.digest receipt
    | .bound => op.plain = true
  can op reply :=
    match op, reply with
    | .now, time => DateTime.aware time = true
    | .audit _ _ occurredAt _, .error _ => occurredAt.aware = false
    | .await (.mutate _ _), .ok result => ActionGateway.versioned result = true
    | _, _ => True
  next state op reply :=
    match op, reply with
    | .lookup _, none => { state with phase := .missed }
    | .lookup _, some (digest, _) =>
      { state with phase := if digest = state.digest then .bound else .idle }
    | .invoke (.mutate _ _), _ => { state with phase := .pending }
    | .await (.mutate _ _), answer =>
      { state with phase := if reportsSuccess answer then .unsaved else .idle }
    | .remember _ _ _, _ => { state with phase := .bound }
    | _, _ => state

/-- A call ends outside its critical sections, and with a receipt only once its key is bound. -/
def progressEnds (outcome : Except ActionError StoredReceipt) (state : Progress) : Prop :=
  state.phase ≠ .unsaved ∧ state.phase ≠ .pending ∧
    ∀ receipt, outcome = .ok receipt → state.phase = .bound

/-- A plain call leaves a call where it is. -/
theorem progress_next {op : GatewayOp} (plain : op.plain = true) (state : Progress)
    (reply : op.Reply) : progressProtocol.next state op reply = state := by
  cases op with
  | invoke | await | lookup | remember => cases plain
  | _ => rfl

/-- No call changes the key or the digest. -/
theorem progress_own (state : Progress) (op : GatewayOp) (reply : op.Reply) :
    (progressProtocol.next state op reply).binding = state.binding ∧
      (progressProtocol.next state op reply).digest = state.digest := by
  cases op with
  | lookup binding => cases reply <;> exact ⟨rfl, rfl⟩
  | invoke call => cases call <;> exact ⟨rfl, rfl⟩
  | await call => cases call <;> exact ⟨rfl, rfl⟩
  | _ => exact ⟨rfl, rfl⟩

section Follows

open ActionGateway

variable {binding : Binding} {digest : String}

/-- Plain programs end where they start, before the lookup or after the binding. -/
theorem plain_follows {α : Type} {program : GatewayProgram α} {state : Progress}
    (makes : program.Makes fun op : GatewayOp => op.plain = true)
    (outside : state.phase = .idle ∨ state.phase = .bound) :
    program.Follows progressProtocol state fun _ final => final = state := by
  refine makes.follows (fun op plain => ?_) fun op reply plain => progress_next plain state reply
  rcases outside with idle | bound
  · simp only [progressProtocol, idle]
    exact .inl plain
  · simpa only [progressProtocol, bound] using plain

/-- Plain programs that raise end well before the lookup. -/
theorem raising_follows {α : Type} {program : GatewayProgram α}
    {rest : α → GatewayProgram StoredReceipt}
    (makes : program.Makes fun op : GatewayOp => op.plain = true)
    (raises : ∀ value, (rest value).Follows progressProtocol ⟨binding, digest, .idle⟩ progressEnds) :
    (program.bind rest).Follows progressProtocol ⟨binding, digest, .idle⟩ progressEnds := by
  refine Follows.bind (plain_follows makes (.inl rfl)) ?_ ?_
  · rintro value _ rfl
    exact raises value
  · rintro error _ rfl
    exact ⟨by simp, by simp, fun _ same => nomatch same⟩

/-- Plain programs that end with a receipt end well once the key is bound. -/
theorem bound_follows {program : GatewayProgram StoredReceipt}
    (makes : program.Makes fun op : GatewayOp => op.plain = true) :
    program.Follows progressProtocol ⟨binding, digest, .bound⟩ progressEnds := by
  refine Follows.mono (plain_follows makes (.inr rfl)) ?_
  rintro outcome _ rfl
  exact ⟨by simp, by simp, fun _ _ => rfl⟩

/-- A success is reported once the key is bound. -/
theorem reported_progress (stage : String) (action : SourceActionPlan)
    (identity : RequestIdentity) (attributes : List (String × Json.Value))
    (receipt : StoredReceipt) :
    ((emit stage action identity attributes).bind fun _ => ret receipt).Follows progressProtocol
      ⟨binding, digest, .bound⟩ progressEnds :=
  bound_follows (Makes.bind (emit_makes (fun _ plain => plain) ..) fun _ => makes_ret receipt)

/-- Raising ends well where no mutation is open. -/
theorem raise_ends {state : Progress} (error : ActionError)
    (outside : state.phase ≠ .unsaved ∧ state.phase ≠ .pending) :
    (raise error : GatewayProgram StoredReceipt).Follows progressProtocol state progressEnds :=
  ⟨outside.1, outside.2, fun _ same => nomatch same⟩

/-- How a call goes on from the end of its mutation: unsaved with a success, whose version can be
written, and idle with anything else. -/
def MutationEnds (binding : Binding) (digest : String) (outcome : Except ActionError PyValue)
    (final : Progress) : Prop :=
  match outcome with
  | .ok result => versioned result = true ∧
      final = ⟨binding, digest, if succeeded result then .unsaved else .idle⟩
  | .error _ => final = ⟨binding, digest, .idle⟩

/-- The call of the connector ends so. -/
theorem mutate_progress (action : SourceActionPlan) :
    ((mutate action).attempt ActionError.isException).Follows progressProtocol
      ⟨action.binding, digest, .missed⟩ fun outcome final =>
        match outcome with
        | .ok ended => MutationEnds action.binding digest ended final
        | .error _ => final = ⟨action.binding, digest, .idle⟩ := by
  have called : (mutate action).Follows progressProtocol ⟨action.binding, digest, .missed⟩
      (MutationEnds action.binding digest) := by
    refine ⟨.inr ⟨_, _, rfl, rfl⟩, fun _ _ => ⟨⟨_, _, rfl, rfl⟩, fun answer told => ?_⟩⟩
    cases answer with
    | error error => rfl
    | ok result =>
      have told : versioned result = true := told
      change ((if result.isMapping = true then ret result
        else raise (.typeError "connector mutation result must be a mapping") :
          GatewayProgram PyValue)).Follows progressProtocol
            ⟨action.binding, digest, if reportsSuccess (.ok result) then .unsaved else .idle⟩ _
      by_cases mapping : result.isMapping = true
      · simp only [reportsSuccess, mapping, Bool.true_and, if_true, follows_ret]
        exact ⟨told, rfl⟩
      · simp only [reportsSuccess, mapping, Bool.false_and, Bool.false_eq_true, if_false,
          follows_raise]
        rfl
  exact Follows.attempt called (fun outcome final ends => ends) fun error final same => same

variable [Stdlib]

/-- A failure of the connector leaves the call idle. -/
theorem connectorFailed_progress (action : SourceActionPlan) (identity : RequestIdentity)
    (decision : PolicyDecision) (started : DateTime) :
    (connectorFailed action identity decision started).Follows progressProtocol
      ⟨binding, digest, .idle⟩ progressEnds :=
  raising_follows (now_makes fun _ plain => plain) fun _ =>
    raising_follows (append_makes (fun _ plain => plain) ..) fun _ =>
      raising_follows (makes_ask rfl) fun _ =>
        raising_follows (emit_makes (fun _ plain => plain) ..) fun _ =>
          raise_ends _ (by simp)

/-- An answer of the connector leaves the call idle, or binds its key without awaiting. -/
theorem connectorAnswered_progress (action : SourceActionPlan) (identity : RequestIdentity)
    (decision : PolicyDecision) (started : DateTime) {result : PyValue}
    (told : versioned result = true) :
    (connectorAnswered action identity decision started result).Follows progressProtocol
      ⟨action.binding, action.digest, if succeeded result then .unsaved else .idle⟩
      progressEnds := by
  by_cases success : succeeded result = true
  · rw [if_pos success]
    obtain ⟨version, written⟩ := exists_version success told
    unfold connectorAnswered
    rw [written]
    refine ⟨.inl ⟨rfl, rfl⟩, fun completed aware => ⟨.inl ⟨rfl, rfl⟩, fun entry audited => ?_⟩⟩
    cases entry with
    -- the clock is aware of its offset, so the ledger accepts the entry
    | error error =>
      have naive : DateTime.aware completed = false := audited
      exact absurd (naive.symm.trans aware) (by decide)
    | ok audit =>
      refine ⟨.inl ⟨rfl, rfl⟩, fun count _ => ?_⟩
      simp only [success, if_true]
      refine ⟨.inr ⟨_, rfl⟩, fun _ _ => ?_⟩
      exact reported_progress ..
  · rw [if_neg success]
    refine raising_follows (now_makes fun _ plain => plain) fun completed =>
      raising_follows (makes_ofExcept _) fun version =>
        raising_follows (append_makes (fun _ plain => plain) ..) fun audit =>
          raising_follows (makes_ask rfl) fun count => ?_
    simp only [success, Bool.false_eq_true, if_false]
    exact raising_follows (emit_makes (fun _ plain => plain) ..) fun _ => raise_ends _ (by simp)

/-- A dispatch ends outside its critical sections. -/
theorem dispatch_progress (action : SourceActionPlan) (identity : RequestIdentity)
    (decision : PolicyDecision) (started : DateTime) :
    (ActionGateway.dispatch action identity decision started).Follows progressProtocol
      ⟨action.binding, action.digest, .missed⟩ progressEnds := by
  have registered : (connector action.sourceId).Follows progressProtocol
      ⟨action.binding, action.digest, .missed⟩ fun _ final =>
        final = ⟨action.binding, action.digest, .missed⟩ :=
    ⟨.inl ⟨_, rfl⟩, fun handle _ => by cases handle <;> rfl⟩
  refine Follows.bind registered ?_ ?_
  · rintro handle _ rfl
    refine Follows.bind (mutate_progress action) ?_ ?_
    · intro outcome final ends
      cases outcome with
      | error error =>
        obtain rfl : final = _ := ends
        exact connectorFailed_progress ..
      | ok result =>
        obtain ⟨told, rfl⟩ := ends
        exact connectorAnswered_progress action identity decision started told
    · rintro error _ rfl
      exact raise_ends error (by simp)
  · rintro error _ rfl
    exact raise_ends error (by simp)

/-- After its checks, `execute` looks its key up and then dispatches or replays. -/
theorem executeChecked_progress (action : SourceActionPlan) (identity : RequestIdentity)
    (decision : PolicyDecision) (started : DateTime) :
    (ActionGateway.executeChecked action identity decision started).Follows progressProtocol
      ⟨action.binding, action.digest, .idle⟩ progressEnds := by
  have asked : (ask (.lookup action.binding)).Follows progressProtocol
      ⟨action.binding, action.digest, .idle⟩ fun outcome final =>
        ∃ existing : Option (String × Receipt), outcome = .ok existing ∧
          final = progressProtocol.next ⟨action.binding, action.digest, .idle⟩
            (.lookup action.binding) existing :=
    ⟨.inr rfl, fun existing _ => ⟨existing, rfl, rfl⟩⟩
  refine Follows.bind asked ?_ (by simp)
  rintro existing _ ⟨_, ⟨⟩, rfl⟩
  cases existing with
  | none => exact dispatch_progress action identity decision started
  | some existing =>
    obtain ⟨digest, receipt⟩ := existing
    by_cases same : digest = action.digest
    · simp only [progressProtocol, same, if_true, ne_eq, not_true_eq_false, if_false]
      exact bound_follows (replay_makes (fun _ plain => plain) ..)
    · simp only [progressProtocol, same, if_false, ne_eq, not_false_eq_true, if_true]
      exact raise_ends _ ⟨nofun, nofun⟩

/-- `execute` follows the protocol of its plan. -/
theorem execute_progress (action : SourceActionPlan) (preview : ActionPreview)
    (identity : RequestIdentity) (approval : Option ActionApproval) :
    (ActionGateway.execute action preview identity approval).Follows progressProtocol
      ⟨action.binding, action.digest, .idle⟩ progressEnds :=
  raising_follows (passGates_makes (fun _ plain => plain) ..) fun _ =>
    executeChecked_progress action identity _ _

/-- The plan a call executes, or is about. -/
def GatewayCall.executed : GatewayCall → SourceActionPlan
  | .preview action _ _ => action
  | .execute action _ _ _ => action
  | .compensate original _ _ _ =>
    match original.compensation with
    | none => original
    | some spec => original.compensating spec
  | .reconcile action _ => action

/-- Where a call starts. -/
def GatewayCall.progress (call : GatewayCall) : Progress :=
  ⟨call.executed.binding, call.executed.digest, .idle⟩

/-- A call ends outside its critical sections, and with a receipt only once its key is bound. -/
def returnsBound (outcome : Except ActionError Returned) (state : Progress) : Prop :=
  state.phase ≠ .unsaved ∧ state.phase ≠ .pending ∧
    ∀ receipt, outcome = .ok (.receipt receipt) → state.phase = .bound

/-- Every call of an in-memory gateway follows the protocol of the plan it executes. -/
theorem program_progress (call : GatewayCall) :
    (call.program .action).Follows progressProtocol call.progress returnsBound := by
  have returns : ∀ {program : GatewayProgram StoredReceipt} {state : Progress},
      program.Follows progressProtocol state progressEnds →
        (program.bind fun receipt => ret (Returned.receipt receipt)).Follows progressProtocol state
          returnsBound := by
    intro program state follows
    refine Follows.bind follows (fun receipt final ends => ?_) fun error final ends => ?_
    · exact ⟨ends.1, ends.2.1, fun _ _ => ends.2.2 receipt rfl⟩
    · exact ⟨ends.1, ends.2.1, fun _ same => by cases same⟩
  cases call with
  | preview action identity ttl =>
    refine Follows.bind (plain_follows (preview_makes (fun _ plain => plain) ..) (.inl rfl)) ?_ ?_
    · rintro shown _ rfl
      exact ⟨by rintro ⟨⟩, by rintro ⟨⟩, by rintro _ ⟨⟩⟩
    · rintro error _ rfl
      exact ⟨by rintro ⟨⟩, by rintro ⟨⟩, by rintro _ ⟨⟩⟩
  | execute action preview identity approval =>
    exact returns (execute_progress action preview identity approval)
  | compensate original receipt identity approval =>
    refine returns ?_
    cases declared : original.compensation with
    | none =>
      simp only [GatewayKind.compensate, GatewayCall.progress, GatewayCall.executed, declared]
      exact raise_ends _ ⟨by rintro ⟨⟩, by rintro ⟨⟩⟩
    | some spec =>
      simp only [GatewayKind.compensate, GatewayCall.progress, GatewayCall.executed, declared]
      refine raising_follows (previewCompensation_makes (fun _ plain => plain) ..) fun shown => ?_
      refine Follows.bind (execute_progress (original.compensating spec) shown identity none) ?_ ?_
      · rintro compensated ⟨binding, digest, phase⟩ ends
        obtain rfl : phase = .bound := ends.2.2 compensated rfl
        exact bound_follows (recordCompensation_makes (fun _ plain => plain) ..)
      · exact fun error final ends => ⟨ends.1, ends.2.1, fun _ same => by cases same⟩
  | reconcile action identity => exact ⟨by rintro ⟨⟩, by rintro ⟨⟩, by rintro _ ⟨⟩⟩

end Follows

end DataHarness
