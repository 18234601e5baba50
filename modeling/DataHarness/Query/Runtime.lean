import DataHarness.Library.Feed
import DataHarness.Models
import Mathlib.Algebra.GroupWithZero.Nat

/-!
# The policy-enforcing query gateway

`HarnessGateway.execute` asks the policy once, then hands on the batches of the connector while
their sizes and row counts stay within the limits. A deadline, a telemetry sink that fails or a
cancelled caller can stop it at every batch.
-/

namespace DataHarness

/-! ## What a batch counts for -/

mutual

/-- No number of a value is exceptional: `json.dumps(…, allow_nan=False)` goes through. -/
def finite : Json.Value → Bool
  | .float number => isFinite number
  | .arr items => finiteItems items
  | .obj members => finiteMembers members
  | _ => true

/-- The same for items. -/
def finiteItems : List Json.Value → Bool
  | [] => true
  | item :: items => finite item && finiteItems items

/-- The same for members. -/
def finiteMembers : List (String × Json.Value) → Bool
  | [] => true
  | member :: members => finite member.2 && finiteMembers members

end

/-- What a query raises. -/
inductive QueryError
  | keyError (message : String)
  | valueError (message : String)
  | typeError (message : String)
  | unsupportedCapability (connectorId : String) (capability : Capability)
  | policyDenied (decision : PolicyDecision)
  | labSourceUnavailable (message : String)
  | connectorDeadlineExceeded (message : String)
  | connectorResultViolation (message : String)
  | recursionError
  /-- Any other exception. -/
  | other (message : String)

/-- What `str` or `json.dumps` raises, as it leaves a query. -/
def QueryError.ofWrite : WriteError → QueryError
  | .valueError message => .valueError message
  | .typeError message => .typeError message
  | .recursionError => .recursionError
  | .other message => .other message

/-- The length of a payload as the gateway encodes it, or what `json.dumps` raises. -/
def Payload.measured : Payload → Except WriteError Nat
  | .bytes content => .ok content.length
  | .json value =>
    if ¬ finite value then .error (.valueError "Out of range float values are not JSON compliant")
    else if ¬ writable value then .error (.valueError longIntegerMessage)
    else .ok (Json.dumps value).utf8ByteSize
  | .unwritable failure _ => .error failure

/-- The length of a payload that can be encoded. -/
def Payload.encoded (payload : Payload) : Option Nat := payload.measured.toOption

/-- `json.dumps` raises what `except (TypeError, ValueError)` does not catch, such as a
`RecursionError` for a value that nests too deeply. -/
def Payload.Escapes (payload : Payload) : Prop :=
  ∃ failure, payload.measured = .error failure ∧ ¬ failure.Caught

/-- A JSON value is encoded if its numbers are written. -/
theorem Payload.encoded_json {value : Json.Value} (bounded : finite value = true)
    (short : writable value = true) :
    (Payload.json value).encoded = some (Json.dumps value).utf8ByteSize := by
  have written : (Payload.json value).measured = .ok (Json.dumps value).utf8ByteSize := by
    simp [measured, bounded, short]
  rw [encoded, written]
  rfl

/-- The length of a payload that is a list or a tuple. -/
def Payload.sequence : Payload → Option Nat
  | .json (.arr items) => some items.length
  | .unwritable _ length => length
  | _ => none

namespace HarnessGateway

/-- `_batch_bytes`: `except (TypeError, ValueError)` catches no other exception. -/
def batchBytes (batch : DataBatch) : Except QueryError Nat :=
  match batch.payload.measured with
  | .ok actual => .ok (max actual (batch.byteCount.getD 0))
  | .error (.valueError _) | .error (.typeError _) =>
    .error (.connectorResultViolation "connector payload is not finite JSON")
  | .error .recursionError => .error .recursionError
  | .error (.other message) => .error (.other message)

/-- The gateway counts a payload it can encode. -/
theorem batchBytes_of_encoded {batch : DataBatch} {size : Nat}
    (encoded : batch.payload.encoded = some size) :
    batchBytes batch = .ok (max size (batch.byteCount.getD 0)) := by
  have measured : batch.payload.measured = .ok size := by
    unfold Payload.encoded at encoded
    cases own : batch.payload.measured with
    | error failure =>
      rw [own] at encoded
      cases encoded
    | ok length =>
      rw [own] at encoded
      rw [Option.some.inj encoded]
  unfold batchBytes
  rw [measured]

/-- `_batch_rows`. -/
def batchRows (batch : DataBatch) : Except QueryError Nat :=
  match batch.payload.sequence with
  | some actual =>
    if batch.rowCount.any (· ≠ actual) then
      .error (.connectorResultViolation "connector row count does not match its payload")
    else .ok actual
  | none => .ok (batch.rowCount.getD 0)

/-- `total_bytes` and `total_rows`. -/
structure Totals where
  bytes : Nat
  rows : Nat

/-- The error of a row bound. -/
def rowViolation : QueryError :=
  .connectorResultViolation "connector returned more rows than requested"

/-- What is checked of a batch before it is handed on. -/
def account (maxResultBytes : Nat) (request : QueryRequest) (totals : Totals)
    (batch : DataBatch) : Except QueryError Totals := do
  let bytes ← batchBytes batch
  let rows ← batchRows batch
  let next : Totals := ⟨totals.bytes + bytes, totals.rows + rows⟩
  if maxResultBytes < next.bytes then
    .error (.connectorResultViolation "connector result exceeds its declared byte limit")
  else if request.limit < next.rows then .error rowViolation
  else if ¬ batch.sourceVersions.any (·.sourceId = request.sourceId) then
    .error (.connectorResultViolation "connector batch does not carry its source version")
  else .ok next

end HarnessGateway

/-! ## The gateway -/

/-- What a gateway uses of a connector. -/
structure QueryConnector where
  connectorId : String
  capabilities : List Capability
  maxResultBytes : Nat
  /-- The batches of a request, and the exception that ends them. -/
  execute : QueryRequest → Feed DataBatch QueryError

/-- `ConnectorRegistry`. -/
structure ConnectorRegistry where
  connectors : List QueryConnector
  /-- A connector is registered once. -/
  unique : (connectors.map (·.connectorId)).Nodup

/-- `get`. -/
def ConnectorRegistry.get (registry : ConnectorRegistry) (connectorId : String)
    (capability : Capability) : Except QueryError QueryConnector :=
  match registry.connectors.find? (·.connectorId = connectorId) with
  | none => .error (.keyError ("unknown connector: " ++ connectorId))
  | some connector =>
    if capability ∉ connector.capabilities then
      .error (.unsupportedCapability connectorId capability)
    else .ok connector

/-- What stops a query from outside: its deadline, or an exception of the telemetry sink or of
the caller. -/
inductive Interruption
  | deadline
  | exception (message : String)

/-- What the caller of a query sees of an interruption. -/
def Interruption.error (sourceId : String) : Interruption → QueryError
  | .deadline => .connectorDeadlineExceeded ("connector deadline exceeded: " ++ sourceId)
  | .exception message => .other message

/-- The interruptions of one query: of its authorization event, and at each batch. -/
structure Interruptions where
  authorized : Option String
  taken : Nat → Option Interruption
  emitted : Nat → Option Interruption

/-- No interruption. -/
def Interruptions.none : Interruptions := ⟨Option.none, fun _ => Option.none, fun _ => Option.none⟩

/-- What stops the delivery of the batches. -/
def Interruptions.stops (interruptions : Interruptions) (sourceId : String) :
    Feed.Stops QueryError where
  taken index := (interruptions.taken index).map (·.error sourceId)
  accounted index := (interruptions.emitted index).map (·.error sourceId)

/-- `HarnessGateway`. -/
structure HarnessGateway where
  registry : ConnectorRegistry
  policy : AuthorizationRequest → PolicyDecision

namespace HarnessGateway

variable (gateway : HarnessGateway) (interruptions : Interruptions)

/-- `_authorize`. -/
def authorize (request : QueryRequest) (identity : RequestIdentity) : Except QueryError Unit :=
  let decision := gateway.policy (request.authorization identity)
  match interruptions.authorized with
  | some message => .error (.other message)
  | none => if decision.allowed then .ok () else .error (.policyDenied decision)

/-- `execute`: what the caller gets of a query. -/
def execute (request : QueryRequest) (identity : RequestIdentity) : Feed DataBatch QueryError :=
  match gateway.registry.get request.sourceId .query with
  | .error error => ⟨[], some error⟩
  | .ok connector =>
    match gateway.authorize interruptions request identity with
    | .error error => ⟨[], some error⟩
    | .ok () =>
      let answer := connector.execute request
      Feed.deliver (interruptions.stops request.sourceId)
        (account connector.maxResultBytes request) answer.raised 0 ⟨0, 0⟩ answer.items

/-- Nothing from outside breaks the row bound. -/
theorem not_raises_rowViolation (interruptions : Interruptions) (sourceId : String) :
    ¬ (interruptions.stops sourceId).Raises rowViolation := by
  have foreign : ∀ interruption : Option Interruption,
      interruption.map (·.error sourceId) ≠ some rowViolation := by
    intro interruption same
    rcases interruption with _ | _ | _ <;> cases same
  rintro ⟨index, taken | emitted⟩
  · exact foreign _ taken
  · exact foreign _ emitted

/-- The authorization breaks no row bound. -/
theorem authorize_ne_rowViolation (gateway : HarnessGateway) (interruptions : Interruptions)
    (request : QueryRequest) (identity : RequestIdentity) :
    gateway.authorize interruptions request identity ≠ .error rowViolation := by
  unfold authorize
  cases interruptions.authorized with
  | some message =>
    intro same
    cases same
  | none =>
    dsimp only
    split
    · intro same
      cases same
    · intro same
      cases same

/-! ## Accounting for sound batches -/

variable {maxResultBytes : Nat} {request : QueryRequest}

/-- What a batch that can be counted adds to the totals. -/
structure Counts (request : QueryRequest) (batch : DataBatch) (bytes rows : Nat) : Prop where
  bytes : batchBytes batch = .ok bytes
  rows : batchRows batch = .ok rows
  versioned : batch.sourceVersions.any (·.sourceId = request.sourceId) = true

/-- Of a batch that can be counted only the two limits are checked. -/
theorem account_counted {batch : DataBatch} {bytes rows : Nat}
    (counts : Counts request batch bytes rows) (totals : Totals) :
    account maxResultBytes request totals batch =
      if maxResultBytes < totals.bytes + bytes then
        .error (.connectorResultViolation "connector result exceeds its declared byte limit")
      else if request.limit < (totals.rows + rows : Nat) then .error rowViolation
      else .ok ⟨totals.bytes + bytes, totals.rows + rows⟩ := by
  unfold account
  rw [counts.bytes, counts.rows]
  simp only [bind, Except.bind]
  rw [if_neg (not_not.mpr counts.versioned)]

/-- An account that goes through stays within the limits. -/
theorem of_account {totals next : Totals} {batch : DataBatch}
    (counted : account maxResultBytes request totals batch = .ok next) :
    ∃ bytes rows, Counts request batch bytes rows ∧
      next = ⟨totals.bytes + bytes, totals.rows + rows⟩ ∧ next.bytes ≤ maxResultBytes ∧
        (next.rows : Int) ≤ request.limit := by
  obtain ⟨bytes, measured, counted⟩ := of_bind_ok counted
  obtain ⟨rows, numbered, counted⟩ := of_bind_ok counted
  dsimp only at counted
  split at counted
  · cases counted
  rename_i small
  split at counted
  · cases counted
  rename_i few
  split at counted
  · cases counted
  rename_i versioned
  obtain rfl := Except.ok.inj counted
  exact ⟨bytes, rows, ⟨measured, numbered, not_not.mp versioned⟩, rfl, not_lt.mp small,
    not_lt.mp few⟩

/-- Totals within the limits stay within them. -/
theorem limits_of_fold {items : List DataBatch} {totals final : Totals}
    (few : (totals.rows : Int) ≤ request.limit) (small : totals.bytes ≤ maxResultBytes)
    (folded : items.foldlM (account maxResultBytes request) totals = .ok final) :
    (final.rows : Int) ≤ request.limit ∧ final.bytes ≤ maxResultBytes := by
  induction items generalizing totals with
  | nil =>
    obtain rfl := Except.ok.inj folded
    exact ⟨few, small⟩
  | cons batch items ih =>
    rw [List.foldlM_cons] at folded
    obtain ⟨next, counted, folded⟩ := of_bind_ok folded
    obtain ⟨_, _, _, _, small, few⟩ := of_account counted
    exact ih few small folded

variable {bytesOf rowsOf : DataBatch → Nat}

/-- The totals are the sums over the batches. -/
theorem totals_of_fold {items : List DataBatch} {totals final : Totals}
    (counts : ∀ batch ∈ items, Counts request batch (bytesOf batch) (rowsOf batch))
    (folded : items.foldlM (account maxResultBytes request) totals = .ok final) :
    final.bytes = totals.bytes + (items.map bytesOf).sum ∧
      final.rows = totals.rows + (items.map rowsOf).sum := by
  induction items generalizing totals with
  | nil =>
    obtain rfl := Except.ok.inj folded
    simp
  | cons batch items ih =>
    rw [List.foldlM_cons] at folded
    obtain ⟨next, counted, folded⟩ := of_bind_ok folded
    obtain ⟨bytes, rows, own, same, -, -⟩ := of_account counted
    have first := counts batch List.mem_cons_self
    have bytes_eq : bytesOf batch = bytes := Except.ok.inj (first.bytes.symm.trans own.bytes)
    have rows_eq : rowsOf batch = rows := Except.ok.inj (first.rows.symm.trans own.rows)
    obtain ⟨left, right⟩ := ih (fun other member => counts other (List.mem_cons_of_mem _ member))
      folded
    subst same
    rw [left, right, List.map_cons, List.map_cons, List.sum_cons, List.sum_cons, bytes_eq, rows_eq]
    dsimp only
    omega

/-- Batches within both limits are accepted. -/
theorem exists_fold {items : List DataBatch} (totals : Totals)
    (counts : ∀ batch ∈ items, Counts request batch (bytesOf batch) (rowsOf batch))
    (small : totals.bytes + (items.map bytesOf).sum ≤ maxResultBytes)
    (few : ((totals.rows + (items.map rowsOf).sum : Nat) : Int) ≤ request.limit) :
    ∃ final, items.foldlM (account maxResultBytes request) totals = .ok final := by
  induction items generalizing totals with
  | nil => exact ⟨totals, rfl⟩
  | cons batch items ih =>
    simp only [List.map_cons, List.sum_cons] at small few
    rw [List.foldlM_cons, account_counted (counts batch List.mem_cons_self)]
    rw [if_neg (by omega), if_neg (by omega)]
    apply ih _ (fun other member => counts other (List.mem_cons_of_mem _ member))
    · dsimp only
      omega
    · dsimp only
      omega

/-- Batches that break the row limit are found out when nothing stops the delivery. -/
theorem rows_within_limit {items : List DataBatch} {ending : Option QueryError}
    (counts : ∀ batch ∈ items, Counts request batch (bytesOf batch) (rowsOf batch))
    (small : (items.map bytesOf).sum ≤ maxResultBytes)
    (quiet : (Feed.deliver .never (account maxResultBytes request) ending 0 ⟨0, 0⟩ items).raised ≠
      some rowViolation) : ((items.map rowsOf).sum : Int) ≤ request.limit := by
  have positive := request.limited
  obtain ⟨final, rest, split, folded, ended⟩ := Feed.deliver_spec (.never : Feed.Stops QueryError)
    (account maxResultBytes request) ending 0 ⟨0, 0⟩ items
  generalize (Feed.deliver _ _ _ _ _ items).items = delivered at split folded
  generalize (Feed.deliver _ _ _ _ _ items).raised = raised at quiet ended
  subst split
  have sums := totals_of_fold
    (fun batch member => counts batch (List.mem_append_left rest member)) folded
  dsimp only at sums
  have limits := limits_of_fold (by simp; omega) (Nat.zero_le _) folded
  cases ended with
  | finished nothing =>
    subst nothing
    rw [List.append_nil]
    omega
  | stopped raises => exact absurd raises Feed.Stops.never_raises
  | refused next refused =>
    rename_i error batch later
    subst next
    have own := counts batch (by simp)
    rw [account_counted own] at refused
    simp only [List.map_append, List.map_cons, List.sum_append, List.sum_cons] at small
    rw [if_neg (by omega)] at refused
    split at refused
    · exact absurd (congrArg some (Except.error.inj refused).symm) quiet
    · cases refused

/-- Batches within the row limit never break it, whatever stops the delivery. -/
theorem raised_ne_rowViolation {items : List DataBatch} {ending : Option QueryError}
    (counts : ∀ batch ∈ items, Counts request batch (bytesOf batch) (rowsOf batch))
    (small : (items.map bytesOf).sum ≤ maxResultBytes) (fine : ending ≠ some rowViolation)
    (few : ((items.map rowsOf).sum : Int) ≤ request.limit) {stops : Feed.Stops QueryError}
    (outside : ¬ stops.Raises rowViolation) :
    (Feed.deliver stops (account maxResultBytes request) ending 0 ⟨0, 0⟩ items).raised ≠
      some rowViolation := by
  intro violated
  obtain ⟨final, rest, split, folded, ended⟩ := Feed.deliver_spec stops
    (account maxResultBytes request) ending 0 ⟨0, 0⟩ items
  generalize (Feed.deliver _ _ _ _ _ items).items = delivered at split folded
  rw [violated] at ended
  subst split
  have sums := totals_of_fold
    (fun batch member => counts batch (List.mem_append_left rest member)) folded
  dsimp only at sums
  generalize violation : some rowViolation = raised at ended
  cases ended with
  | finished _ => exact fine violation.symm
  | stopped raises =>
    obtain rfl := Option.some.inj violation
    exact outside raises
  | refused next refused =>
    rename_i error batch later
    obtain rfl := Option.some.inj violation
    subst next
    have own := counts batch (by simp)
    rw [account_counted own] at refused
    simp only [List.map_append, List.map_cons, List.sum_append, List.sum_cons] at small few
    rw [if_neg (by omega)] at refused
    rw [if_neg (by omega)] at refused
    cases refused

end HarnessGateway

end DataHarness
