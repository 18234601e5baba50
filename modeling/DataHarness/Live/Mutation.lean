import DataHarness.Decode.Numbers
import DataHarness.Python
import Mathlib.Logic.Function.Basic

/-!
# The mutations of the PostgreSQL connector

`mutate` checks a request, and then runs three statements in one transaction: it looks the
idempotency key up, updates the service order if it is as the request expects, and inserts the key.
Each statement is a function here of the rows it reads, which are those of the primary keys.
-/

namespace DataHarness

/-- What `mutate` raises. -/
inductive MutationError
  | permissionError (message : String)
  | valueError (message : String)
  | typeError (message : String)
  /-- An exception of the database or its driver, or any other. -/
  | other (message : String)

/-- What `json.dumps` raises, raised by `mutate`. -/
def MutationError.ofWrite : WriteError → MutationError
  | .valueError message => .valueError message
  | .typeError message => .typeError message
  | .recursionError => .other "maximum recursion depth exceeded"
  | .other message => .other message

/-- What `mutate` answers. -/
structure MutationReply where
  success : Bool
  postconditionsMet : Bool
  sourceVersion : String
  replayed : Bool

/-- What the driver and the database make of a value that is neither a text nor null. -/
class Psycopg where
  /-- The text a column of texts holds once the value is assigned to it, none where that raises. -/
  assigned : Json.Value → Option String
  /-- `int(value)` of a float, none where it raises. -/
  truncated : Json.FloatText → Option Int

/-- A driver that takes texts only. -/
@[reducible] def Psycopg.textual : Psycopg := ⟨fun _ => none, fun _ => none⟩

namespace PostgreSQLLiveConnector

/-! ## The request -/

/-- What the transaction of a request goes by. -/
structure Mutation where
  actionId : String
  idempotencyKey : String
  requestDigest : String
  serviceOrderId : String
  requestedResolution : Json.Value
  expectedResolution : Json.Value
  expectedVersion : Int

/-- `operation in {"resolve-service-order", "restore-service-order"}`. -/
def allowlisted (operation : Option Json.Value) : Except MutationError Bool :=
  match operation with
  | some (.str text) =>
    .ok (decide (text = "resolve-service-order") || decide (text = "restore-service-order"))
  | some (.arr _) => .error (.typeError "unhashable type: 'list'")
  | some (.obj _) => .error (.typeError "unhashable type: 'dict'")
  | _ => .ok false

/-- The values of a mapping that has two keys and no other. -/
def exactly (first second : String) (value : Option Json.Value) (message : String) :
    Except MutationError (Json.Value × Json.Value) :=
  match value with
  | some (.obj members) =>
    match members.lookup first, members.lookup second with
    | some left, some right =>
      if members.all fun member => decide (member.1 = first) || decide (member.1 = second) then
        .ok (left, right)
      else .error (.valueError message)
    | _, _ => .error (.valueError message)
  | _ => .error (.valueError message)

section Request

variable [Stdlib] [ValueText] [Psycopg]

/-- `str(value)`. -/
def strOf (value : Json.Value) : String :=
  match value with
  | .str text => text
  | other => ValueText.str other

/-- `int(value)`. -/
def intOfValue (value : Json.Value) : Except MutationError Int :=
  match value with
  | .int number => .ok number
  | .bool flag => .ok (if flag then 1 else 0)
  | .float number =>
    match Psycopg.truncated number with
    | some number => .ok number
    | none => .error (.other "cannot convert float to integer")
  | .str text =>
    match intOfText text with
    | some number => .ok number
    | none => .error (.valueError "invalid literal for int() with base 10")
  | _ => .error
      (.typeError "int() argument must be a string, a bytes-like object or a real number")

/-- The checks of `mutate`, and what it reads from its request. -/
def checkMutation (request : List (String × Json.Value)) : Except MutationError Mutation := do
  if !fieldIs request "asset_id" "service_orders" then
    throw (.permissionError "PostgreSQL mutation is restricted to service_orders")
  if !(← allowlisted (request.lookup "operation")) then
    throw (.permissionError "PostgreSQL mutation operation is not allowlisted")
  let parameters ← exactly "serviceOrderId" "resolution" (request.lookup "parameters")
    "mutation parameters must identify one order and resolution"
  let preconditions ← exactly "recordVersion" "expectedResolution" (request.lookup "preconditions")
    "mutation requires exact version and value preconditions"
  let actionId := strOf ((request.lookup "action_id").getD (.str ""))
  let idempotencyKey := strOf ((request.lookup "idempotency_key").getD (.str ""))
  if actionId = "" ∨ idempotencyKey = "" then
    throw (.valueError "mutation action and idempotency identities are required")
  let requestDigest ← (digested (.obj request)).mapError MutationError.ofWrite
  let expectedVersion ← intOfValue preconditions.1
  return {
    actionId
    idempotencyKey
    requestDigest
    serviceOrderId := strOf parameters.1
    requestedResolution := parameters.2
    expectedResolution := preconditions.2
    expectedVersion }

end Request

/-! ## The tables -/

/-- A row of `service_orders`, as far as a mutation reads it. -/
structure ServiceOrder where
  recordVersion : Int
  /-- None for `NULL`. -/
  resolution : Option String

/-- A row of `harness_action_idempotency`. -/
structure IdempotencyRow where
  actionId : String
  requestDigest : String
  sourceVersion : Int

/-- The committed rows by their primary keys. -/
structure Tables where
  serviceOrders : String → Option ServiceOrder
  idempotency : String → Option IdempotencyRow

/-- What a mutation writes: its order and its key. -/
abbrev Written := ServiceOrder × IdempotencyRow

/-- The rows once what a transaction has written is committed. -/
def Tables.commit (tables : Tables) (mutation : Mutation) : Option Written → Tables
  | none => tables
  | some (order, row) =>
    ⟨Function.update tables.serviceOrders mutation.serviceOrderId (some order),
      Function.update tables.idempotency mutation.idempotencyKey (some row)⟩

/-! ## The statements -/

/-- What the lookup of the key finds. -/
inductive Lookup
  /-- Nothing. -/
  | absent
  /-- The key of another request. -/
  | conflict (error : MutationError)
  /-- The key of this request. -/
  | replay (reply : MutationReply)

/-- `SELECT request_digest, source_version … FOR UPDATE`, and what is made of it. -/
def lookup (mutation : Mutation) : Option IdempotencyRow → Lookup
  | none => .absent
  | some row =>
    if row.requestDigest = mutation.requestDigest then
      .replay ⟨true, true, toString row.sourceVersion, true⟩
    else .conflict (.valueError "source idempotency key is bound to another request")

section Update

variable [Psycopg]

/-- What a column of texts holds once a value is assigned to it. -/
def assigned : Json.Value → Option (Option String)
  | .str text => some (some text)
  | .null => some none
  | value => (Psycopg.assigned value).map some

/-- What a text is compared with by `IS NOT DISTINCT FROM`; other types have no comparison. -/
def compared : Json.Value → Option (Option String)
  | .str text => some (some text)
  | .null => some none
  | _ => none

/-- The conditional `UPDATE service_orders … RETURNING`: the new row, or none where the condition
fails. -/
def update (mutation : Mutation) (row : Option ServiceOrder) :
    Except MutationError (Option ServiceOrder) :=
  match assigned mutation.requestedResolution, compared mutation.expectedResolution with
  | some requested, some expected =>
    match row with
    | none => .ok none
    | some order =>
      if order.recordVersion = mutation.expectedVersion ∧ order.resolution = expected then
        if order.recordVersion < 2147483647 then .ok (some ⟨order.recordVersion + 1, requested⟩)
        else .error (.other "integer out of range")
      else .ok none
  | _, _ => .error (.other "the database refuses a parameter")

end Update

/-- The answer when the order is not as expected, from `SELECT record_version`. -/
def stale (row : Option ServiceOrder) : MutationReply :=
  ⟨false, false, (row.map fun order => toString order.recordVersion).getD "missing", false⟩

/-- `observed_resolution == requested_resolution`. -/
def sameResolution (observed : Option String) (requested : Json.Value) : Bool :=
  match observed, requested with
  | some text, value => isText value text
  | none, .null => true
  | none, _ => false

/-- The row the key is inserted with. -/
def inserted (mutation : Mutation) (order : ServiceOrder) : IdempotencyRow :=
  ⟨mutation.actionId, mutation.requestDigest, order.recordVersion⟩

/-- The answer when the order is updated. -/
def applied (mutation : Mutation) (order : ServiceOrder) : MutationReply :=
  ⟨true, sameResolution order.resolution mutation.requestedResolution,
    toString order.recordVersion, false⟩

/-- An order that was updated is not as the same request expects it. -/
theorem update_updated [Psycopg] {mutation : Mutation} {row : Option ServiceOrder}
    {order : ServiceOrder} (updated : update mutation row = .ok (some order)) :
    update mutation (some order) = .ok none := by
  unfold update at updated ⊢
  cases requested : assigned mutation.requestedResolution with
  | none =>
    rw [requested] at updated
    cases updated
  | some requested' =>
    rw [requested] at updated
    cases expected : compared mutation.expectedResolution with
    | none =>
      rw [expected] at updated
      cases updated
    | some expected' =>
      rw [expected] at updated
      dsimp only at updated ⊢
      cases row with
      | none => cases updated
      | some former =>
        dsimp only at updated
        by_cases matching : former.recordVersion = mutation.expectedVersion ∧
            former.resolution = expected'
        · rw [if_pos matching] at updated
          by_cases small : former.recordVersion < 2147483647
          · rw [if_pos small] at updated
            have same := Option.some.inj (Except.ok.inj updated)
            have later : order.recordVersion ≠ mutation.expectedVersion := by
              rw [← same, ← matching.1]
              show former.recordVersion + 1 ≠ former.recordVersion
              omega
            rw [if_neg fun both => later both.1]
          · rw [if_neg small] at updated
            cases updated
        · rw [if_neg matching] at updated
          cases updated

end PostgreSQLLiveConnector

end DataHarness
