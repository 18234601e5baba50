import DataHarness.Decode.Numbers
import DataHarness.Gateway.Calls
import DataHarness.Library.Receiver

/-!
# The mutation source of the labs

`LabMutationConnector` keeps one versioned value. It applies a mutation whose preconditions name the
version and the value it has, once for each idempotency key, and answers a repeated one with the
first result. So the mutations it has applied are a chain in which each one expected what the one
before it left (`Chained`), and no answer it gives is taken back (`mutate_once`).
-/

namespace DataHarness

open Effect

/-- What the source makes of numbers that are not whole. -/
class FloatNumbers where
  /-- `int(value)` of a float. -/
  truncated : Json.FloatText → Except ActionError Int

/-- A source that takes whole numbers only. -/
@[reducible] def FloatNumbers.refusing : FloatNumbers :=
  ⟨fun _ => .error (.valueError "cannot convert float NaN to integer")⟩

/-- What the source keeps of a mutation it applied. -/
structure LabResult where
  success : Bool
  postconditionsMet : Bool
  sourceVersion : String

namespace LabResult

/-- `str(flag)`. -/
def flagText (flag : Bool) : String := (PyValue.bool flag).text

/-- The items of an answer, its first flag under a name. -/
def items (result : LabResult) (first : String) : List (PyKey × PyValue) :=
  [(.str first, .bool result.success), (.str "postconditions_met", .bool result.postconditionsMet),
    (.str "source_version", .str result.sourceVersion)]

/-- `repr` of these items, between the braces; a version is digits behind a sign. -/
def itemsText (result : LabResult) (first : String) : String :=
  "'" ++ first ++ "': " ++ flagText result.success ++ ", 'postconditions_met': " ++
    flagText result.postconditionsMet ++ ", 'source_version': '" ++ result.sourceVersion ++ "'"

/-- The answer to the mutation it is the result of. -/
def answer (result : LabResult) : PyValue :=
  .mapping (result.items "success") ("\x7b" ++ result.itemsText "success" ++ "\x7d")

/-- `{**result, "already_applied": True}`. -/
def replayed (result : LabResult) : PyValue :=
  .mapping (result.items "success" ++ [(.str "already_applied", .bool true)])
    ("\x7b" ++ result.itemsText "success" ++ ", 'already_applied': True\x7d")

/-- The answer to a reconciliation. -/
def reconciled (result : LabResult) : PyValue :=
  .mapping (result.items "applied") ("\x7b" ++ result.itemsText "applied" ++ "\x7d")

end LabResult

/-- `LabMutationConnector`. -/
structure LabMutationConnector where
  assetId : String
  value : String
  version : Int
  mutationCount : Nat
  /-- `_idempotency`: the action and the result under each key. -/
  idempotency : Dict (String × LabResult)

namespace LabMutationConnector

/-- `LabMutationConnector(source_id, asset_id, initial_value, version=version)`. -/
def initial (assetId value : String) (version : Int) : LabMutationConnector :=
  ⟨assetId, value, version, 0, .empty⟩

/-- The answer to a mutation that is not applied. -/
def refused (connector : LabMutationConnector) : LabResult :=
  ⟨false, false, toString connector.version⟩

/-- `reconcile`. -/
def reconcile (connector : LabMutationConnector) (request : ReconcileRequest) : PyValue :=
  match connector.idempotency.get? request.idempotencyKey with
  | none => connector.refused.reconciled
  | some (actionId, result) =>
    if actionId ≠ request.actionId then connector.refused.reconciled else result.reconciled

/-- The result of a mutation that sets a value, written as a text. -/
def result (connector : LabMutationConnector) (newValue : Scalar) (text : String) : LabResult :=
  ⟨true, newValue.toPy.equals text, toString (connector.version + 1)⟩

/-- The source after a mutation was applied. -/
def applying (connector : LabMutationConnector) (request : MutationRequest) (newValue : Scalar)
    (text : String) : LabMutationConnector :=
  { connector with
    value := text
    version := connector.version + 1
    mutationCount := connector.mutationCount + 1
    idempotency := connector.idempotency.set request.idempotencyKey
      (request.actionId, connector.result newValue text) }

variable [FloatNumbers]

/-- `int(value)`. -/
def intOfScalar : Scalar → Except ActionError Int
  | .str text =>
    match intOfText text with
    | some number => .ok number
    | none => .error (.valueError "invalid literal for int() with base 10")
  | .int number => .ok number
  | .float number => FloatNumbers.truncated number
  | .bool flag => .ok (if flag then 1 else 0)
  | .none => .error (.typeError
      ("int() argument must be a string, a bytes-like object or a real number, not 'NoneType'"))

/-- `mapping[key]`. -/
def item (mapping : Dict Scalar) (key : String) : Except ActionError Scalar :=
  match mapping.get? key with
  | some value => .ok value
  | none => .error (.keyError key)

/-- `valid`: the request is for this asset, in the version and with the value it has. -/
def valid (connector : LabMutationConnector) (request : MutationRequest) :
    Except ActionError Bool :=
  if request.assetId ≠ connector.assetId then .ok false
  else do
    let expected ← item request.preconditions "expectedVersion"
    let version ← intOfScalar expected
    if version ≠ connector.version then return false
    else do
      let value ← item request.preconditions "expectedValue"
      let text ← value.toPy.told.mapError ActionError.ofWrite
      return text == connector.value

/-- `mutate`. -/
def mutate (connector : LabMutationConnector) (request : MutationRequest) :
    Except ActionError PyValue × LabMutationConnector :=
  match connector.idempotency.get? request.idempotencyKey with
  | some (actionId, result) =>
    if actionId ≠ request.actionId then (.ok connector.refused.answer, connector)
    else (.ok result.replayed, connector)
  | none =>
    match connector.valid request with
    | .error error => (.error error, connector)
    | .ok false => (.ok connector.refused.answer, connector)
    | .ok true =>
      match item request.parameters "newValue" with
      | .error error => (.error error, connector)
      | .ok newValue =>
        match newValue.toPy.told with
        | .error failure => (.error (.ofWrite failure), connector)
        | .ok text =>
          (.ok (connector.result newValue text).answer, connector.applying request newValue text)

/-! ## One mutation -/

/-- The request names a version and a value as its preconditions. -/
def Expects (request : MutationRequest) (version : Int) (value : String) : Prop :=
  (∃ expected, request.preconditions.get? "expectedVersion" = some expected ∧
      intOfScalar expected = .ok version) ∧
    ∃ expected, request.preconditions.get? "expectedValue" = some expected ∧
      expected.toPy.told = .ok value

/-- The request sets a value, written as a text. -/
def Sets (request : MutationRequest) (newValue : Scalar) (text : String) : Prop :=
  request.parameters.get? "newValue" = some newValue ∧ newValue.toPy.told = .ok text

omit [FloatNumbers] in
/-- An item that is there is the one that is read. -/
theorem get?_of_item {mapping : Dict Scalar} {key : String} {value : Scalar}
    (read : item mapping key = .ok value) : mapping.get? key = some value := by
  unfold item at read
  split at read
  · rename_i found
    rw [found, Except.ok.inj read]
  · cases read

/-- A valid request is for the asset and expects the version and the value it has. -/
theorem expects_of_valid {connector : LabMutationConnector} {request : MutationRequest}
    (valid : connector.valid request = .ok true) :
    request.assetId = connector.assetId ∧ Expects request connector.version connector.value := by
  unfold LabMutationConnector.valid at valid
  split at valid
  · cases valid
  · rename_i same
    obtain ⟨expected, named, valid⟩ := of_bind_ok valid
    obtain ⟨version, number, valid⟩ := of_bind_ok valid
    split at valid
    · cases valid
    · rename_i current
      obtain ⟨value, held, valid⟩ := of_bind_ok valid
      obtain ⟨text, written, valid⟩ := of_bind_ok valid
      have equal : text = connector.value := beq_iff_eq.mp (Except.ok.inj valid)
      have told : value.toPy.told = .ok connector.value := by
        rw [← equal]
        exact mapError_eq_ok.mp written
      refine ⟨not_not.mp same, ⟨expected, get?_of_item named, ?_⟩, value, get?_of_item held, told⟩
      rw [number, not_not.mp current]

/-- A mutation changes nothing, or its key is free, it expects what the source has, and it is
applied with the value it asks for. -/
theorem mutate_cases (connector : LabMutationConnector) (request : MutationRequest) :
    (connector.mutate request).2 = connector ∨
      connector.idempotency.get? request.idempotencyKey = none ∧
        Expects request connector.version connector.value ∧
          ∃ newValue text, Sets request newValue text ∧ connector.mutate request =
            (.ok (connector.result newValue text).answer,
              connector.applying request newValue text) := by
  unfold mutate
  split
  · split
    · exact .inl rfl
    · exact .inl rfl
  · rename_i free
    split
    · exact .inl rfl
    · exact .inl rfl
    · rename_i valid
      split
      · exact .inl rfl
      · rename_i newValue read
        split
        · exact .inl rfl
        · rename_i text told
          exact .inr ⟨free, (expects_of_valid valid).2, newValue, text,
            ⟨get?_of_item read, told⟩, rfl⟩

/-- The source as a receiver of mutations. -/
def receiver : Receiver LabMutationConnector MutationRequest (Except ActionError PyValue) String
    (String × LabResult) where
  receive := mutate
  held connector key := connector.idempotency.get? key
  key := MutationRequest.idempotencyKey
  own connector request other elsewhere := by
    rcases mutate_cases connector request with kept | ⟨-, -, newValue, text, -, changed⟩
    · rw [kept]
    · rw [changed]
      simp [applying, Ne.symm elsewhere]
  settled connector request outcome holds := by
    rcases mutate_cases connector request with kept | ⟨free, -⟩
    · exact kept
    · rw [holds] at free
      cases free

/-! ## Runs of mutations -/

/-- Each mutation expects the version and the value the one before it left, and sets a value. -/
def Chained (version : Int) (value : String) : List MutationRequest → Prop
  | [] => True
  | request :: later => Expects request version value ∧
      ∃ newValue text, Sets request newValue text ∧ Chained (version + 1) text later

/-- The value the last of some mutations has set. -/
def lastValue (value : String) (applied : List MutationRequest) : String :=
  applied.foldl
    (fun value request =>
      ((request.parameters.get? "newValue").bind (·.toPy.told.toOption)).getD value)
    value

variable {connector : LabMutationConnector} {request : MutationRequest}

/-- A mutation changes nothing and applies nothing, or applies what it asks for. -/
theorem receive_cases (connector : LabMutationConnector) (request : MutationRequest) :
    receiver.applies connector request = false ∧ (connector.mutate request).2 = connector ∨
      receiver.applies connector request = true ∧
        Expects request connector.version connector.value ∧
          ∃ newValue text, Sets request newValue text ∧ connector.mutate request =
            (.ok (connector.result newValue text).answer,
              connector.applying request newValue text) := by
  rcases mutate_cases connector request with kept | ⟨free, expects, newValue, text, asked, applied⟩
  · refine .inl ⟨?_, kept⟩
    have same : (receiver.receive connector request).2 = connector := kept
    rw [Receiver.applies, same]
    cases receiver.held connector (receiver.key request) with
    | none => rfl
    | some outcome => rfl
  · refine .inr ⟨?_, expects, newValue, text, asked, applied⟩
    have before : receiver.held connector (receiver.key request) = none := free
    have after : receiver.held (receiver.receive connector request).2 (receiver.key request) =
        some (request.actionId, connector.result newValue text) := by
      show (connector.mutate request).2.idempotency.get? request.idempotencyKey = _
      rw [applied]
      simp [applying]
    rw [Receiver.applies, before, after]
    rfl

/-- Every application counts one mutation. -/
theorem mutationCount_after (connector : LabMutationConnector) (requests : List MutationRequest) :
    (receiver.after connector requests).mutationCount =
      connector.mutationCount + (receiver.applied connector requests).length := by
  induction requests generalizing connector with
  | nil => rfl
  | cons request requests ih =>
    rw [Receiver.after_cons, ih, Receiver.applied_cons]
    rcases receive_cases connector request with
      ⟨idle, kept⟩ | ⟨applies, -, newValue, text, -, applied⟩
    · rw [show (receiver.receive connector request).2 = connector from kept, idle]
      rfl
    · rw [show receiver.receive connector request = _ from applied, applies]
      simp only [applying, if_true, List.length_cons]
      omega

/-- The mutations that were applied are a chain from the value before them to the one after. -/
theorem chained_after (connector : LabMutationConnector) (requests : List MutationRequest) :
    Chained connector.version connector.value (receiver.applied connector requests) ∧
      (receiver.after connector requests).version =
        connector.version + (receiver.applied connector requests).length ∧
      (receiver.after connector requests).value =
        lastValue connector.value (receiver.applied connector requests) := by
  induction requests generalizing connector with
  | nil => exact ⟨trivial, (Int.add_zero _).symm, rfl⟩
  | cons request requests ih =>
    rw [Receiver.after_cons, Receiver.applied_cons]
    rcases receive_cases connector request with
      ⟨idle, kept⟩ | ⟨applies, expects, newValue, text, asked, applied⟩
    · rw [show (receiver.receive connector request).2 = connector from kept, idle]
      exact ih connector
    · rw [show receiver.receive connector request = _ from applied, applies]
      obtain ⟨chain, version, value⟩ := ih (connector.applying request newValue text)
      refine ⟨⟨expects, newValue, text, asked, chain⟩, ?_, ?_⟩
      · rw [version]
        simp only [applying, if_true, List.length_cons]
        omega
      · rw [value]
        simp [applying, lastValue, asked.1, asked.2, Except.toOption]

/-- A mutation under a key that was applied is answered with the first result if it is of the same
action, and refused otherwise. -/
theorem mutate_of_held {actionId : String} {result : LabResult}
    (held : receiver.held connector request.idempotencyKey = some (actionId, result)) :
    connector.mutate request =
      (.ok (if request.actionId = actionId then result.replayed else connector.refused.answer),
        connector) := by
  have found : connector.idempotency.get? request.idempotencyKey = some (actionId, result) := held
  unfold mutate
  rw [found]
  by_cases same : request.actionId = actionId
  · simp [same]
  · simp [same, Ne.symm same]

/-- A reconciliation tells the result of the action its key was applied for. -/
theorem reconcile_of_held {question : ReconcileRequest} {actionId : String} {result : LabResult}
    (held : receiver.held connector question.idempotencyKey = some (actionId, result)) :
    connector.reconcile question =
      if question.actionId = actionId then result.reconciled else connector.refused.reconciled := by
  have found : connector.idempotency.get? question.idempotencyKey = some (actionId, result) := held
  unfold reconcile
  rw [found]
  by_cases same : question.actionId = actionId
  · simp [same]
  · simp [same, Ne.symm same]

/-- A mutation that was applied was answered with the result that its key holds from then on. -/
theorem answered_of_applied {requests : List MutationRequest}
    (member : request ∈ receiver.applied connector requests) :
    ∃ before later result, requests = before ++ request :: later ∧ result.success = true ∧
      ((receiver.after connector before).mutate request).1 = .ok result.answer ∧
        receiver.held (receiver.after connector requests) request.idempotencyKey =
          some (request.actionId, result) := by
  obtain ⟨before, later, outcome, split, applies, made, held⟩ := Receiver.received_of_applied member
  rcases receive_cases (receiver.after connector before) request with
    ⟨idle, -⟩ | ⟨-, -, newValue, text, -, applied⟩
  · rw [applies] at idle
    cases idle
  · have own : outcome =
        (request.actionId, (receiver.after connector before).result newValue text) := by
      have found : ((receiver.after connector before).mutate request).2.idempotency.get?
          request.idempotencyKey = some outcome := made
      rw [applied] at found
      simpa [applying] using found.symm
    refine ⟨before, later, _, split, rfl, by rw [applied], ?_⟩
    rw [← own]
    exact held

/-- Whatever mutations a source was sent: each key was applied once at most, the applied ones are a
chain in which each expected the version and the value it met, and the version counts them. Each was
answered with success, a repeated one gets that first result again, another action under its key is
refused, and a reconciliation tells exactly the actions that were applied. -/
theorem mutate_once (assetId value : String) (version : Int) (requests : List MutationRequest) :
    let start := initial assetId value version
    let last := receiver.after start requests
    let applied := receiver.applied start requests
    (applied.map MutationRequest.idempotencyKey).Nodup ∧ Chained version value applied ∧
      last.version = version + applied.length ∧ last.mutationCount = applied.length ∧
      last.value = lastValue value applied ∧
      (∀ request ∈ applied, ∃ before later, ∃ result : LabResult,
        requests = before ++ request :: later ∧ result.success = true ∧
        ((receiver.after start before).mutate request).1 = .ok result.answer ∧
        (∀ again : MutationRequest, again.idempotencyKey = request.idempotencyKey →
          last.mutate again = (.ok (if again.actionId = request.actionId then result.replayed
            else last.refused.answer), last)) ∧
        ∀ question : ReconcileRequest, question.idempotencyKey = request.idempotencyKey →
          last.reconcile question = if question.actionId = request.actionId then result.reconciled
            else last.refused.reconciled) ∧
      ∀ question : ReconcileRequest,
        (∀ request ∈ applied, request.idempotencyKey ≠ question.idempotencyKey) →
          last.reconcile question = last.refused.reconciled := by
  intro start last applied
  obtain ⟨chain, versions, current⟩ := chained_after start requests
  have counted := mutationCount_after start requests
  have unique : (applied.map receiver.key).Nodup := Receiver.nodup_applied start requests
  refine ⟨unique, chain, versions, ?_, current, ?_, ?_⟩
  · rw [counted]
    exact Nat.zero_add _
  · intro request member
    obtain ⟨before, later, result, split, success, answer, held⟩ := answered_of_applied member
    refine ⟨before, later, result, split, success, answer, ?_, ?_⟩
    · intro again same
      rw [← same] at held
      exact mutate_of_held held
    · intro question same
      rw [← same] at held
      exact reconcile_of_held held
  · intro question other
    have free : last.idempotency.get? question.idempotencyKey = none := by
      cases found : last.idempotency.get? question.idempotencyKey with
      | none => rfl
      | some outcome =>
        have held : (receiver.held last question.idempotencyKey).isSome = true := by
          show (last.idempotency.get? question.idempotencyKey).isSome = true
          rw [found]
          rfl
        rcases (Receiver.held_iff_applied requests _).mp held with before | ⟨request, member, same⟩
        · cases before
        · exact absurd same (other request member)
    unfold reconcile
    rw [free]

end LabMutationConnector

end DataHarness
