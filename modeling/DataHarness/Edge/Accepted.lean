import DataHarness.Edge.Totality

/-!
# Which delegations become plans

The delegation edge reads a payload as the northbound edge does, and refuses floats that are not
finite. A delegated action that has a payload beside the fields of a tool gives the plan of that
payload.
-/

namespace DataHarness

/-- The floats among the items of an object are finite. -/
def PyValue.Finite (value : PyValue) : Prop :=
  ∀ entries text, value = .mapping entries text →
    ∀ entry ∈ entries, ∀ number, entry.2 = .float number → isFinite number = true

/-- The floats of a compensation are finite. -/
def FiniteCompensation (value : Option PyValue) : Prop :=
  ∀ data text, value = some (.mapping data text) → ∀ key ∈ ["parameters", "preconditions"],
    ∀ part, lookupKey key data = some part → part.Finite

/-- The floats of a payload are finite. -/
structure ActionPayload.Finite (payload : ActionPayload) : Prop where
  parameters : payload.parameters.Finite
  preconditions : payload.preconditions.Finite
  compensation : FiniteCompensation payload.compensation

namespace A2AActionDelegationAdapter

/-- A scalar that is no exceptional number. -/
def finiteScalar (item : PyValue) : Bool :=
  match item.scalar? with
  | some (.float number) => isFinite number
  | some _ => true
  | none => false

/-- One item of the loop. -/
theorem scalarsFrom_cons {result : Dict Scalar} {name : String} {item : PyValue}
    {entries : Untrusted} {scalar : Scalar} (own : item.scalar? = some scalar)
    (finite : finiteScalar item = true) :
    scalarsFrom result ((.str name, item) :: entries) =
      scalarsFrom (result.set name scalar) entries := by
  unfold finiteScalar at finite
  rw [own] at finite
  conv_lhs => unfold scalarsFrom
  rw [own]
  cases scalar with
  | float number =>
    have small : isFinite number = true := finite
    simp [small]
  | _ => rfl

/-- An item that stops the loop. -/
theorem scalarsFrom_stops (result : Dict Scalar) {entry : PyKey × PyValue} (entries : Untrusted)
    (other : ¬ ((∃ name, entry.1 = .str name) ∧ finiteScalar entry.2 = true)) :
    ∃ failure, scalarsFrom result (entry :: entries) = .error failure := by
  obtain ⟨key, item⟩ := entry
  unfold scalarsFrom
  split
  · rename_i name scalar own
    split
    · rename_i number
      by_cases small : isFinite number = true
      · apply absurd _ other
        exact ⟨⟨name, rfl⟩, by simp [finiteScalar, own, small]⟩
      · rw [if_neg small]
        exact ⟨_, rfl⟩
    · rename_i single
      apply absurd _ other
      refine ⟨⟨name, rfl⟩, ?_⟩
      unfold finiteScalar
      rw [own]
      cases scalar with
      | float number => exact absurd rfl (single number)
      | _ => rfl
  · exact ⟨_, rfl⟩

/-- A finite scalar is a scalar that is finite if it is a float. -/
theorem finiteScalar_iff {item : PyValue} :
    finiteScalar item = true ↔
      item.scalar?.isSome = true ∧ ∀ number, item = .float number → isFinite number = true := by
  unfold finiteScalar
  cases item <;> simp [PyValue.scalar?]

/-- The loop adds the scalars to its result, when their floats are finite. -/
theorem scalarsFrom_eq_ok {result dict : Dict Scalar} {entries : Untrusted} :
    scalarsFrom result entries = .ok dict ↔
      (∃ items, NorthboundActionAdapter.scalarItems entries = some items ∧
        items.foldl (fun result entry => result.set entry.1 entry.2) result = dict) ∧
      ∀ entry ∈ entries, ∀ number, entry.2 = .float number → isFinite number = true := by
  induction entries generalizing result with
  | nil => simp [scalarsFrom, NorthboundActionAdapter.scalarItems]
  | cons entry entries ih =>
    obtain ⟨key, item⟩ := entry
    rw [List.forall_mem_cons]
    cases key with
    | other text => simp [scalarsFrom, NorthboundActionAdapter.scalarItems]
    | str name =>
      cases own : item.scalar? with
      | none => simp [scalarsFrom, NorthboundActionAdapter.scalarItems, own]
      | some scalar =>
        have items : NorthboundActionAdapter.scalarItems ((.str name, item) :: entries) =
            (NorthboundActionAdapter.scalarItems entries).map ((name, scalar) :: ·) := by
          simp [NorthboundActionAdapter.scalarItems, own, Option.map_eq_bind]
        have finite : finiteScalar item = true ↔
            ∀ number, item = .float number → isFinite number = true := by
          rw [finiteScalar_iff, own]
          simp
        rw [items, ← finite]
        by_cases small : finiteScalar item = true
        · rw [scalarsFrom_cons own small, ih]
          simp [small, Option.map_eq_some_iff]
        · obtain ⟨failure, stopped⟩ := scalarsFrom_stops result entries
            (fun fine => small fine.2 : ¬ ((∃ other, (PyKey.str name, item).1 = .str other) ∧
              finiteScalar (PyKey.str name, item).2 = true))
          rw [stopped]
          simp [small]

/-- The scalars of an object are what it reads as, when its floats are finite. -/
theorem scalars_eq_ok {value : PyValue} {dict : Dict Scalar} :
    scalars value = .ok dict ↔ value.Reads dict ∧ value.Finite := by
  unfold scalars
  split
  · rename_i entries text
    rw [scalarsFrom_eq_ok]
    constructor
    · rintro ⟨⟨items, read, made⟩, finite⟩
      refine ⟨⟨entries, text, items, rfl, read, made⟩, ?_⟩
      intro _ _ same
      obtain ⟨rfl, rfl⟩ := PyValue.mapping.inj same
      exact finite
    · rintro ⟨⟨_, _, items, same, read, made⟩, finite⟩
      obtain ⟨rfl, rfl⟩ := PyValue.mapping.inj same
      exact ⟨⟨items, read, made⟩, finite entries text rfl⟩
  · rename_i other
    apply iff_of_false
    · intro accepted
      cases accepted
    · rintro ⟨⟨entries, text, _, same, _⟩, _⟩
      exact other entries text same

/-- What the action model refuses is the only thing that is refused in its place. -/
theorem asRejection_iff {α : Type} {made : Except AdapterError α} {value : α} :
    asRejection made = .ok value ↔ made = .ok value := by
  unfold asRejection
  split <;> simp

/-- A compensation is what the value declares, when its floats are finite. -/
theorem compensation_eq_ok {value : PyValue} {declared : Option CompensationSpec} :
    compensation value = .ok declared ↔
      Declares (some value) declared ∧ FiniteCompensation (some value) := by
  have unstructured : (∀ data text, value ≠ .mapping data text) →
      FiniteCompensation (some value) := by
    intro other data text same
    exact absurd (Option.some.inj same) (other data text)
  cases value with
  | none =>
    rw [declares_of_missing (.inr rfl), and_iff_left (unstructured fun _ _ same => by cases same)]
    exact ⟨fun same => (Except.ok.inj same).symm, fun same => by rw [same]; rfl⟩
  | mapping data text =>
    unfold compensation
    rw [declares_mapping_iff]
    by_cases shape : keysEqual data ["operation", "parameters", "preconditions"] = true
    · dsimp only
      rw [if_neg (not_not.mpr shape), and_iff_right shape]
      simp only [bind_ok_iff, Untrusted.item_iff, written_eq_ok, scalars_eq_ok, construct_iff]
      constructor
      · rintro ⟨operation, named, name, told, given, parametrized, parameters, ⟨reads, first⟩,
          needed, conditioned, preconditions, ⟨checks, second⟩, spec, made, same⟩
        refine ⟨⟨operation, given, needed, name, parameters, preconditions, spec, named,
          parametrized, conditioned, reads, checks, told, made, (Except.ok.inj same).symm⟩, ?_⟩
        intro _ _ written key member part found
        obtain ⟨rfl, rfl⟩ := PyValue.mapping.inj (Option.some.inj written)
        rcases List.mem_cons.mp member with rfl | last
        · rw [parametrized] at found
          rw [← Option.some.inj found]
          exact first
        · obtain rfl := List.mem_singleton.mp last
          rw [conditioned] at found
          rw [← Option.some.inj found]
          exact second
      · rintro ⟨⟨operation, given, needed, name, parameters, preconditions, spec, named,
          parametrized, conditioned, reads, checks, told, made, rfl⟩, finite⟩
        have first := finite data text rfl "parameters" (by simp) given parametrized
        have second := finite data text rfl "preconditions" (by simp) needed conditioned
        exact ⟨operation, named, name, told, given, parametrized, parameters, ⟨reads, first⟩, needed,
          conditioned, preconditions, ⟨checks, second⟩, spec, made, rfl⟩
    · dsimp only
      rw [if_pos shape]
      apply iff_of_false
      · intro accepted
        cases accepted
      · exact fun declares => shape declares.1.1
  | _ =>
    apply iff_of_false
    · intro accepted
      cases accepted
    · exact fun declares => not_declares (by simp) (by simp) (by simp) declares.1

/-- The keys of a source action. -/
def actionKeys : List String :=
  ["actionId", "sourceId", "assetId", "operation", "parameters", "preconditions",
    "idempotencyKey", "risk", "approvalMode", "purpose", "compensation"]

/-- An envelope delegates a source action for the agent that runs it. -/
structure Delegates (envelope : Untrusted) (identity : RequestIdentity) (action : Untrusted) :
    Prop where
  shape : keysEqual envelope ["protocol", "taskId", "requestingAgent", "sourceAction"] = true
  protocol : (lookupKey "protocol" envelope).any (·.equals "a2a/1.0") = true
  task : (lookupKey "taskId" envelope).any (·.isText) = true
  agent : (lookupKey "requestingAgent" envelope).any (·.equals identity.agentId) = true
  sourceAction : ∃ text, lookupKey "sourceAction" envelope = some (.mapping action text)
  keys : keysEqual action actionKeys = true

/-- A source action is found exactly when it is delegated. -/
theorem sourceAction_eq_ok {envelope action : Untrusted} {identity : RequestIdentity} :
    sourceAction envelope identity = .ok action ↔ Delegates envelope identity action := by
  unfold sourceAction
  constructor
  · intro checked
    split at checked
    · cases checked
    rename_i envelope
    split at checked
    · cases checked
    rename_i task
    split at checked
    · cases checked
    rename_i agent
    split at checked
    · rename_i own text found
      split at checked
      · cases checked
      rename_i keys
      obtain rfl := Except.ok.inj checked
      rw [not_or, not_not, not_not] at envelope
      exact ⟨envelope.1, envelope.2, not_not.mp task, not_not.mp agent, ⟨text, found⟩,
        not_not.mp keys⟩
    · cases checked
  · intro delegates
    obtain ⟨text, found⟩ := delegates.sourceAction
    have keys := delegates.keys
    unfold actionKeys at keys
    simp [delegates.shape, delegates.protocol, delegates.task, delegates.agent, found, keys]

/-- A source action holds a payload beside the fields of a tool. -/
structure Copies (action : Untrusted) (tool : NorthboundTool) (payload : ActionPayload) :
    Prop where
  sourceId : lookupKey "sourceId" action = some (.str tool.sourceId)
  assetId : lookupKey "assetId" action = some (.str tool.assetId)
  operation : lookupKey "operation" action = some (.str tool.operation)
  risk : lookupKey "risk" action = some (.str tool.risk.value)
  approvalMode : lookupKey "approvalMode" action = some (.str tool.approvalMode.value)
  purpose : lookupKey "purpose" action = some (.str tool.purpose)
  actionId : lookupKey "actionId" action = some payload.actionId
  idempotencyKey : lookupKey "idempotencyKey" action = some payload.idempotencyKey
  parameters : lookupKey "parameters" action = some payload.parameters
  preconditions : lookupKey "preconditions" action = some payload.preconditions
  compensation : lookupKey "compensation" action = some (payload.compensation.getD .none)

/-- The text of a risk names it. -/
theorem enumerated_risk (risk : ActionRisk) :
    enumerated ActionRisk.ofValue risk.value = .ok risk := by
  cases risk <;> rfl

/-- The text of an approval mode names it. -/
theorem enumerated_approvalMode (mode : ApprovalMode) :
    enumerated ApprovalMode.ofValue mode.value = .ok mode := by
  cases mode <;> rfl

/-- A compensation that is missing or null declares the same as a null one. -/
theorem declares_getD {value : Option PyValue} {declared : Option CompensationSpec} :
    Declares (some (value.getD .none)) declared ↔ Declares value declared := by
  cases value with
  | none => rw [Option.getD_none, declares_of_missing (.inr rfl), declares_of_missing (.inl rfl)]
  | some value => rfl

/-- Neither has floats. -/
theorem finiteCompensation_getD {value : Option PyValue} :
    FiniteCompensation (some (value.getD .none)) ↔ FiniteCompensation value := by
  cases value with
  | none => simp [FiniteCompensation]
  | some value => rfl

/-- A delegated action of an exposed operation gives a plan exactly when its payload gives it and
has finite floats only. -/
theorem toActionPlan_eq_ok {adapter : A2AActionDelegationAdapter} {envelope action : Untrusted}
    {identity : RequestIdentity} {tool : NorthboundTool} {payload : ActionPayload}
    (delegates : Delegates envelope identity action) (copies : Copies action tool payload)
    (exposed : (tool.sourceId, tool.operation) ∈ adapter.allowedOperations)
    {made : SourceActionPlan} :
    adapter.toActionPlan envelope identity = .ok made ↔
      payload.Gives tool made ∧ payload.Finite := by
  have found := sourceAction_eq_ok.mpr delegates
  unfold toActionPlan plan
  rw [bind_ok_iff]
  constructor
  · rintro ⟨own, checked, accepted⟩
    rw [found] at checked
    obtain rfl := Except.ok.inj checked
    simp only [bind_ok_iff, Untrusted.item_iff, copies.sourceId, copies.operation,
      Option.some.injEq, exists_eq_left', PyValue.told, written_eq_ok, Except.ok.injEq, exposed, not_true_eq_false, if_false,
      copies.compensation, compensation_eq_ok, declares_getD, finiteCompensation_getD,
      asRejection_iff, construct_iff, copies.actionId, copies.assetId, copies.parameters,
      copies.preconditions, copies.idempotencyKey, copies.risk, copies.approvalMode,
      copies.purpose, scalars_eq_ok, enumerated_risk, enumerated_approvalMode] at accepted
    obtain ⟨declared, ⟨declares, third⟩, actionId, named, parameters, ⟨reads, first⟩, preconditions,
      ⟨checks, second⟩, idempotencyKey, bound, made⟩ := accepted
    exact ⟨⟨parameters, preconditions, declared, actionId, idempotencyKey, reads, checks, declares,
      named, bound, made⟩, first, second, third⟩
  · rintro ⟨⟨parameters, preconditions, declared, actionId, idempotencyKey, reads, checks, declares,
      named, bound, made⟩, finite⟩
    refine ⟨action, found, ?_⟩
    simp only [bind_ok_iff, Untrusted.item_iff, copies.sourceId, copies.operation,
      Option.some.injEq, exists_eq_left', PyValue.told, written_eq_ok, Except.ok.injEq, exposed, not_true_eq_false, if_false,
      copies.compensation, compensation_eq_ok, declares_getD, finiteCompensation_getD,
      asRejection_iff, construct_iff, copies.actionId, copies.assetId, copies.parameters,
      copies.preconditions, copies.idempotencyKey, copies.risk, copies.approvalMode,
      copies.purpose, scalars_eq_ok, enumerated_risk, enumerated_approvalMode]
    exact ⟨declared, ⟨declares, finite.compensation⟩, actionId, named, parameters,
      ⟨reads, finite.parameters⟩, preconditions, ⟨checks, finite.preconditions⟩, idempotencyKey,
      bound, made⟩

end A2AActionDelegationAdapter

end DataHarness
