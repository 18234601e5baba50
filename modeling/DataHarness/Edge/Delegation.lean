import DataHarness.Actions

/-!
# Delegated actions

`A2AActionDelegationAdapter` maps an untrusted envelope to a source action. The source and the
operation must be exposed by the adapter; the operation of a compensation is taken from the
envelope as it is.
-/

namespace DataHarness

/-- What an adapter raises. -/
inductive AdapterError
  | delegationRejected (message : String)
  | protocolRequestRejected (code : Int) (message : String)
  | valueError (message : String)
  | typeError (message : String)
  | keyError (key : String)
  | recursionError
  /-- Any other exception. -/
  | other (message : String)
deriving DecidableEq

/-- The contents of a mapping nobody has checked. -/
abbrev Untrusted : Type := List (PyKey × PyValue)

/-- `mapping[key]`. -/
def Untrusted.item (mapping : Untrusted) (key : String) : Except AdapterError PyValue :=
  match lookupKey key mapping with
  | some value => .ok value
  | none => .error (.keyError key)

/-- What is read under a key is there. -/
theorem Untrusted.of_item {mapping : Untrusted} {key : String} {value : PyValue}
    (read : mapping.item key = .ok value) : lookupKey key mapping = some value := by
  unfold item at read
  split at read
  · rename_i found
    rw [found, Except.ok.inj read]
  · cases read

/-- What `str` or `json.dumps` raises, raised by an adapter. -/
def AdapterError.ofWrite : WriteError → AdapterError
  | .valueError message => .valueError message
  | .typeError message => .typeError message
  | .recursionError => .recursionError
  | .other message => .other message

/-- A text that an adapter writes. -/
def written (text : Told) : Except AdapterError String := text.mapError AdapterError.ofWrite

/-- An adapter goes on with the text that is written. -/
theorem written_eq_ok {told : Told} {text : String} :
    written told = .ok text ↔ told = .ok text := mapError_eq_ok

/-- A constructor of the action model, called by an adapter. -/
def construct {α : Type} (made : Except String α) : Except AdapterError α :=
  made.mapError .valueError

/-- What is constructed was made. -/
theorem of_construct {α : Type} {made : Except String α} {value : α}
    (constructed : construct made = .ok value) : made = .ok value := by
  cases made with
  | error => cases constructed
  | ok own => exact congrArg Except.ok (Except.ok.inj constructed)

/-- `ActionRisk(text)` or `ApprovalMode(text)`; no adapter shows the message. -/
def enumerated {α : Type} (ofValue : String → Option α) (text : String) :
    Except AdapterError α :=
  match ofValue text with
  | some value => .ok value
  | none => .error (.valueError text)

/-- `A2AActionDelegationAdapter`: the exposed pairs of a source and an operation. -/
structure A2AActionDelegationAdapter where
  allowedOperations : List (String × String)

namespace A2AActionDelegationAdapter

/-- The checks of the envelope up to the structured source action. -/
def sourceAction (envelope : Untrusted) (identity : RequestIdentity) :
    Except AdapterError Untrusted :=
  if ¬ keysEqual envelope ["protocol", "taskId", "requestingAgent", "sourceAction"] ∨
      ¬ (lookupKey "protocol" envelope).any (·.equals "a2a/1.0") then
    .error (.delegationRejected "unsupported or over-broad delegation envelope")
  else if ¬ (lookupKey "taskId" envelope).any (·.isText) then
    .error (.delegationRejected "delegation task identity is required")
  else if ¬ (lookupKey "requestingAgent" envelope).any (·.equals identity.agentId) then
    .error (.delegationRejected "delegating agent does not match execution identity")
  else match lookupKey "sourceAction" envelope with
    | some (.mapping action _) =>
      if ¬ keysEqual action ["actionId", "sourceId", "assetId", "operation", "parameters",
          "preconditions", "idempotencyKey", "risk", "approvalMode", "purpose", "compensation"] then
        .error (.delegationRejected "delegated source action shape is not exact")
      else .ok action
    | _ => .error (.delegationRejected "delegation must contain a structured source action")

/-- The loop of `_scalars`. -/
def scalarsFrom (result : Dict Scalar) : Untrusted → Except AdapterError (Dict Scalar)
  | [] => .ok result
  | (key, item) :: rest =>
    match key, item.scalar? with
    | .str name, some scalar =>
      match scalar with
      | .float number =>
        if isFinite number then scalarsFrom (result.set name scalar) rest
        else .error (.delegationRejected "delegated numeric values must be finite")
      | _ => scalarsFrom (result.set name scalar) rest
    | _, _ => .error (.delegationRejected "delegated values must be scalar")

/-- `_scalars`. -/
def scalars : PyValue → Except AdapterError (Dict Scalar)
  | .mapping entries _ => scalarsFrom .empty entries
  | _ => .error (.delegationRejected "action parameters and preconditions must be objects")

/-- The compensation of an envelope. -/
def compensation : PyValue → Except AdapterError (Option CompensationSpec)
  | .none => .ok none
  | .mapping data _ =>
    if ¬ keysEqual data ["operation", "parameters", "preconditions"] then
      .error (.delegationRejected "compensation shape is not exact")
    else do
      let operation ← written (← Untrusted.item data "operation").told
      let parameters ← scalars (← Untrusted.item data "parameters")
      let preconditions ← scalars (← Untrusted.item data "preconditions")
      let spec ← construct (CompensationSpec.make operation parameters preconditions)
      .ok (some spec)
  | _ => .error (.delegationRejected "compensation must be structured or null")

/-- `except (TypeError, ValueError)` around the plan. -/
def asRejection {α : Type} : Except AdapterError α → Except AdapterError α
  | .error (.valueError _) | .error (.typeError _) =>
    .error (.delegationRejected "delegated source action values are invalid")
  | result => result

/-- The plan of an action, inside the `try`. -/
def plan (action : Untrusted) (sourceId operation : String)
    (compensation : Option CompensationSpec) : Except AdapterError SourceActionPlan := do
  let actionId ← written (← action.item "actionId").told
  let assetId ← written (← action.item "assetId").told
  let parameters ← scalars (← action.item "parameters")
  let preconditions ← scalars (← action.item "preconditions")
  let idempotencyKey ← written (← action.item "idempotencyKey").told
  let risk ← enumerated ActionRisk.ofValue (← written (← action.item "risk").told)
  let approvalMode ←
    enumerated ApprovalMode.ofValue (← written (← action.item "approvalMode").told)
  let purpose ← written (← action.item "purpose").told
  construct (SourceActionPlan.make actionId sourceId assetId operation parameters preconditions
    idempotencyKey risk approvalMode purpose compensation)

/-- `to_action_plan`. -/
def toActionPlan (adapter : A2AActionDelegationAdapter) (envelope : Untrusted)
    (identity : RequestIdentity) : Except AdapterError SourceActionPlan := do
  let action ← sourceAction envelope identity
  let sourceId ← written (← action.item "sourceId").told
  let operation ← written (← action.item "operation").told
  if (sourceId, operation) ∉ adapter.allowedOperations then
    .error (.delegationRejected "delegated operation is not exposed by this adapter")
  else do
    let declared ← compensation (← action.item "compensation")
    asRejection (plan action sourceId operation declared)

/-! ## What reaches a plan -/

variable {adapter : A2AActionDelegationAdapter} {envelope : Untrusted}
  {identity : RequestIdentity}

/-- The checks pass on the mapping under `sourceAction`. -/
theorem of_sourceAction {action : Untrusted}
    (checked : sourceAction envelope identity = .ok action) :
    ∃ text, lookupKey "sourceAction" envelope = some (.mapping action text) := by
  unfold sourceAction at checked
  split at checked
  · cases checked
  split at checked
  · cases checked
  split at checked
  · cases checked
  split at checked
  · rename_i own text found
    split at checked
    · cases checked
    · obtain rfl := Except.ok.inj checked
      exact ⟨text, found⟩
  · cases checked

/-- A declared compensation carries the operation of the envelope. -/
theorem of_compensation {value : PyValue} {declared : Option CompensationSpec}
    (accepted : compensation value = .ok declared) :
    (value.get "operation").map PyValue.text = declared.map (·.operation) := by
  cases value with
  | none =>
    obtain rfl := Except.ok.inj accepted
    rfl
  | mapping data text =>
    simp only [compensation] at accepted
    split at accepted
    · cases accepted
    obtain ⟨operation, read, accepted⟩ := of_bind_ok accepted
    obtain ⟨own, told, accepted⟩ := of_bind_ok accepted
    iterate 4 obtain ⟨_, -, accepted⟩ := of_bind_ok accepted
    obtain ⟨spec, constructed, accepted⟩ := of_bind_ok accepted
    obtain ⟨_, rfl⟩ := CompensationSpec.of_make (of_construct constructed)
    obtain rfl := Except.ok.inj accepted
    have found : lookupKey "operation" data = some operation := Untrusted.of_item read
    simp [PyValue.get, found, PyValue.text_of_told (written_eq_ok.mp told)]
  | _ => cases accepted

/-- The plan of an action has the given source, operation and compensation. -/
theorem of_plan {action : Untrusted} {sourceId operation : String}
    {declared : Option CompensationSpec} {made : SourceActionPlan}
    (accepted : asRejection (plan action sourceId operation declared) = .ok made) :
    made.sourceId = sourceId ∧ made.operation = operation ∧ made.compensation = declared := by
  have accepted : plan action sourceId operation declared = .ok made := by
    cases result : plan action sourceId operation declared with
    | ok => rwa [result] at accepted
    | error error =>
      rw [result] at accepted
      cases error <;> cases accepted
  -- The other fields are read one after the other.
  iterate 18 obtain ⟨_, -, accepted⟩ := of_bind_ok accepted
  obtain ⟨_, _, _, rfl⟩ := SourceActionPlan.of_make (of_construct accepted)
  exact ⟨rfl, rfl, rfl⟩

end A2AActionDelegationAdapter

end DataHarness
