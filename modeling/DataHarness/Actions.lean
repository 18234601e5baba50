import DataHarness.Policy

/-!
# Source actions, previews, approvals, receipts and the audit ledger

The data of governed source mutations. Every value carries what its constructor checks, so a
high-risk plan without human approval or a preview without an expiry cannot be built. The
audit ledger is an append-only chain of SHA-256 digests.
-/

namespace DataHarness

/-- The declared risk of an action. -/
inductive ActionRisk
  | low
  | medium
  | high
deriving DecidableEq

/-- The text of a risk. -/
def ActionRisk.value : ActionRisk → String
  | .low => "low"
  | .medium => "medium"
  | .high => "high"

/-- `ActionRisk(text)`, none where it raises. -/
def ActionRisk.ofValue (text : String) : Option ActionRisk :=
  [low, medium, high].find? fun risk => risk.value == text

/-- Who must approve an action. -/
inductive ApprovalMode
  | none
  | human
deriving DecidableEq

/-- The text of an approval mode. -/
def ApprovalMode.value : ApprovalMode → String
  | .none => "none"
  | .human => "human"

/-- `ApprovalMode(text)`, none where it raises. -/
def ApprovalMode.ofValue (text : String) : Option ApprovalMode :=
  [none, human].find? fun mode => mode.value == text

/-- The state a receipt reports. -/
inductive ActionState
  | executed
  | recovered
  | alreadyExecuted
  | compensated
  | failed
deriving DecidableEq

namespace ActionState

/-- The text of a state. -/
def value : ActionState → String
  | .executed => "executed"
  | .recovered => "recovered"
  | .alreadyExecuted => "already-executed"
  | .compensated => "compensated"
  | .failed => "failed"

/-- `ActionState(text)`, none where it raises. -/
def ofValue (text : String) : Option ActionState :=
  [executed, recovered, alreadyExecuted, compensated, failed].find? fun state =>
    state.value == text

/-- Every state is read back from its text. -/
@[simp] theorem ofValue_value (state : ActionState) : ofValue state.value = some state := by
  cases state <;> decide

end ActionState

/-- The action that undoes another one. -/
structure CompensationSpec where
  operation : String
  parameters : Dict Scalar
  preconditions : Dict Scalar
  /-- A compensation requires an operation, parameters and preconditions. -/
  required : operation ≠ "" ∧ parameters.entries ≠ [] ∧ preconditions.entries ≠ []

/-- `CompensationSpec(…)`; an error is the text of its `ValueError`. -/
def CompensationSpec.make (operation : String) (parameters preconditions : Dict Scalar) :
    Except String CompensationSpec :=
  if required : operation ≠ "" ∧ parameters.entries ≠ [] ∧ preconditions.entries ≠ [] then
    .ok ⟨operation, parameters, preconditions, required⟩
  else .error "compensation requires operation, parameters and preconditions"

/-- A compensation that is made holds what it is made of. -/
theorem CompensationSpec.of_make {operation : String} {parameters preconditions : Dict Scalar}
    {spec : CompensationSpec} (made : make operation parameters preconditions = .ok spec) :
    ∃ required, spec = ⟨operation, parameters, preconditions, required⟩ := by
  unfold make at made
  split at made
  · rename_i required
    exact ⟨required, (Except.ok.inj made).symm⟩
  · cases made

/-- A mutation of one asset of one source. -/
structure SourceActionPlan where
  actionId : String
  sourceId : String
  assetId : String
  operation : String
  parameters : Dict Scalar
  preconditions : Dict Scalar
  idempotencyKey : String
  risk : ActionRisk
  approvalMode : ApprovalMode
  purpose : String
  compensation : Option CompensationSpec
  /-- Source actions require identity. -/
  identity : ∀ value ∈ [actionId, sourceId, assetId, operation, idempotencyKey, purpose],
    value ≠ ""
  /-- Source actions require parameters and preconditions. -/
  content : parameters.entries ≠ [] ∧ preconditions.entries ≠ []
  /-- High-risk source actions require human approval. -/
  approval : risk = .high → approvalMode = .human

/-- `SourceActionPlan(…)`; an error is the text of its `ValueError`. -/
def SourceActionPlan.make (actionId sourceId assetId operation : String)
    (parameters preconditions : Dict Scalar) (idempotencyKey : String) (risk : ActionRisk)
    (approvalMode : ApprovalMode) (purpose : String) (compensation : Option CompensationSpec) :
    Except String SourceActionPlan :=
  if identity : ∀ value ∈ [actionId, sourceId, assetId, operation, idempotencyKey, purpose],
      value ≠ "" then
    if content : parameters.entries ≠ [] ∧ preconditions.entries ≠ [] then
      if approval : risk = .high → approvalMode = .human then
        .ok ⟨actionId, sourceId, assetId, operation, parameters, preconditions, idempotencyKey,
          risk, approvalMode, purpose, compensation, identity, content, approval⟩
      else .error "high-risk source actions require human approval"
    else .error "source actions require identity, parameters and preconditions"
  else .error "source actions require identity, parameters and preconditions"

/-- A plan that is made holds what it is made of. -/
theorem SourceActionPlan.of_make {actionId sourceId assetId operation : String}
    {parameters preconditions : Dict Scalar} {idempotencyKey : String} {risk : ActionRisk}
    {approvalMode : ApprovalMode} {purpose : String} {compensation : Option CompensationSpec}
    {plan : SourceActionPlan}
    (made : make actionId sourceId assetId operation parameters preconditions idempotencyKey risk
      approvalMode purpose compensation = .ok plan) :
    ∃ identity content approval, plan = ⟨actionId, sourceId, assetId, operation, parameters,
      preconditions, idempotencyKey, risk, approvalMode, purpose, compensation, identity, content,
      approval⟩ := by
  unfold make at made
  split at made
  · rename_i identity
    split at made
    · rename_i content
      split at made
      · rename_i approval
        exact ⟨identity, content, approval, (Except.ok.inj made).symm⟩
      · cases made
    · cases made
  · cases made

/-- A plan is made exactly of what identifies it, of content, and with the approval it needs. -/
theorem SourceActionPlan.exists_make_iff {actionId sourceId assetId operation : String}
    {parameters preconditions : Dict Scalar} {idempotencyKey : String} {risk : ActionRisk}
    {approvalMode : ApprovalMode} {purpose : String} {compensation : Option CompensationSpec} :
    (∃ plan, make actionId sourceId assetId operation parameters preconditions idempotencyKey risk
      approvalMode purpose compensation = .ok plan) ↔
      (∀ value ∈ [actionId, sourceId, assetId, operation, idempotencyKey, purpose], value ≠ "") ∧
        (parameters.entries ≠ [] ∧ preconditions.entries ≠ []) ∧
        (risk = .high → approvalMode = .human) := by
  constructor
  · rintro ⟨plan, made⟩
    obtain ⟨identity, content, approval, _⟩ := of_make made
    exact ⟨identity, content, approval⟩
  · rintro ⟨identity, content, approval⟩
    unfold make
    rw [dif_pos identity, dif_pos content, dif_pos approval]
    exact ⟨_, rfl⟩

/-- What an idempotency key is bound under: the source and the key. -/
abbrev Binding : Type := String × String

/-- The binding of a plan. -/
def SourceActionPlan.binding (plan : SourceActionPlan) : Binding :=
  (plan.sourceId, plan.idempotencyKey)

/-- A low-risk plan with one parameter and one precondition, for small runs. -/
def SourceActionPlan.small (actionId idempotencyKey : String)
    (named : actionId ≠ "" ∧ idempotencyKey ≠ "") : SourceActionPlan where
  actionId := actionId
  sourceId := "erp"
  assetId := "order"
  operation := "set"
  parameters := ⟨[("status", .str "held")], by simp⟩
  preconditions := ⟨[("version", .int 1)], by simp⟩
  idempotencyKey := idempotencyKey
  risk := .low
  approvalMode := .none
  purpose := "hold"
  compensation := none
  identity := by simp [named.1, named.2]
  content := by simp
  approval := by simp

/-- The first plan of a small run. -/
abbrev SourceActionPlan.first : SourceActionPlan := .small "action" "first" (by decide)

/-- The compensation entry of a plan's digest. -/
def CompensationSpec.toJson (spec : CompensationSpec) : Json.Value :=
  .obj [("operation", .str spec.operation), ("parameters", spec.parameters.toJson),
    ("preconditions", spec.preconditions.toJson)]

/-- What a plan's digest is taken over. -/
def SourceActionPlan.toJson (plan : SourceActionPlan) : Json.Value :=
  .obj [("action_id", .str plan.actionId), ("source_id", .str plan.sourceId),
    ("asset_id", .str plan.assetId), ("operation", .str plan.operation),
    ("parameters", plan.parameters.toJson), ("preconditions", plan.preconditions.toJson),
    ("idempotency_key", .str plan.idempotencyKey), ("risk", .str plan.risk.value),
    ("approval_mode", .str plan.approvalMode.value), ("purpose", .str plan.purpose),
    ("compensation", match plan.compensation with
      | none => .null
      | some spec => spec.toJson)]

variable [Stdlib]

/-- `SourceActionPlan.digest`, of a plan that `json.dumps` writes. -/
def SourceActionPlan.digest (plan : SourceActionPlan) : String := DataHarness.digest plan.toJson

/-- `SourceActionPlan.digest`: a plan with an integer that is too long has none. -/
def SourceActionPlan.digested (plan : SourceActionPlan) : Told :=
  DataHarness.digested plan.toJson

/-- A plan is digested exactly when its integers are written. -/
theorem SourceActionPlan.digested_eq_ok {plan : SourceActionPlan} {text : String} :
    plan.digested = .ok text ↔ writable plan.toJson = true ∧ plan.digest = text :=
  DataHarness.digested_eq_ok

/-- A plan whose integers are written has a digest. -/
theorem SourceActionPlan.digested_of_writable {plan : SourceActionPlan}
    (writes : writable plan.toJson = true) : plan.digested = .ok plan.digest :=
  digested_eq_ok.mpr ⟨writes, rfl⟩

/-- Plans with one digest have one action id, when SHA-256 has no collision. -/
theorem SourceActionPlan.actionId_of_digest (injective : Sha256Injective)
    {left right : SourceActionPlan} (same : left.digest = right.digest) :
    left.actionId = right.actionId := by
  have members := Json.members_of_canonical (digest_injective injective same)
    ("action_id", .str left.actionId)
  have present := members.mp (by simp [Json.canonicalMembers, Json.canonical])
  simpa [Json.canonicalMembers, Json.canonical] using present

/-- What a preview binds: the action, the policy, and how long it holds. -/
structure ActionPreview where
  previewId : String
  actionId : String
  actionDigest : String
  policyDigest : String
  policyDecisionId : String
  createdAt : DateTime
  expiresAt : DateTime
  allowed : Bool
  approvalRequired : Bool
  effects : List String
  /-- Preview timestamps are timezone-aware. -/
  aware : createdAt.aware = true ∧ expiresAt.aware = true
  /-- A preview is time-bounded and exposes effects. -/
  bounded : createdAt.before? expiresAt = some true ∧ effects ≠ []

/-- A preview of a plan that holds for a microsecond after noon. -/
def SourceActionPlan.smallPreview (action : SourceActionPlan) : ActionPreview where
  previewId := "preview"
  actionId := action.actionId
  actionDigest := action.digest
  policyDigest := "policy"
  policyDecisionId := "allow"
  createdAt := noon
  expiresAt := noon.add 1
  allowed := true
  approvalRequired := false
  effects := ["effect"]
  aware := by decide
  bounded := by decide

/-- A human approval of one action digest under one policy. -/
structure ActionApproval where
  approvalId : String
  actionDigest : String
  approverId : String
  policyDigest : String
  approvedAt : DateTime
  expiresAt : DateTime
  allowCompensation : Bool
  /-- Approval identity, action and policy binding are required. -/
  required : ∀ value ∈ [approvalId, actionDigest, approverId, policyDigest], value ≠ ""
  /-- Source action approvals require a human approver. -/
  human : "human:".toList.isPrefixOf approverId.toList = true
  /-- Approval timestamps are timezone-aware. -/
  aware : approvedAt.aware = true ∧ expiresAt.aware = true
  /-- An approval expires after it is granted. -/
  bounded : approvedAt.before? expiresAt = some true

/-- What an execution proves. The texts are strings when the gateway builds a receipt, and
whatever the stored JSON holds when the journal reads one back. -/
structure SourceMutationReceipt (τ : Type) where
  receiptId : τ
  actionId : τ
  actionDigest : τ
  idempotencyKey : τ
  state : ActionState
  startedAt : DateTime
  completedAt : DateTime
  sourceVersion : τ
  policyDecisionId : τ
  auditDigest : τ
  compensationOf : Option τ

/-- A receipt as the gateway builds it. -/
abbrev Receipt : Type := SourceMutationReceipt String

/-- A receipt as a caller may hold it, its texts any JSON value. -/
abbrev StoredReceipt : Type := SourceMutationReceipt Json.Value

/-- The receipt a caller holds when the gateway returns the one it built. -/
def SourceMutationReceipt.stored (receipt : Receipt) : StoredReceipt where
  receiptId := .str receipt.receiptId
  actionId := .str receipt.actionId
  actionDigest := .str receipt.actionDigest
  idempotencyKey := .str receipt.idempotencyKey
  state := receipt.state
  startedAt := receipt.startedAt
  completedAt := receipt.completedAt
  sourceVersion := .str receipt.sourceVersion
  policyDecisionId := .str receipt.policyDecisionId
  auditDigest := .str receipt.auditDigest
  compensationOf := receipt.compensationOf.map .str

/-- `to_contract`, the form the journal stores. -/
def SourceMutationReceipt.toContract (receipt : Receipt) : Json.Value :=
  .obj [("schemaVersion", .str "data.harness/v1"), ("receiptId", .str receipt.receiptId),
    ("actionId", .str receipt.actionId), ("actionDigest", .str receipt.actionDigest),
    ("idempotencyKey", .str receipt.idempotencyKey), ("state", .str receipt.state.value),
    ("startedAt", .str (isoformat receipt.startedAt)),
    ("completedAt", .str (isoformat receipt.completedAt)),
    ("sourceVersion", .str receipt.sourceVersion),
    ("policyDecisionId", .str receipt.policyDecisionId),
    ("auditDigest", .str receipt.auditDigest),
    ("compensationOf", match receipt.compensationOf with
      | none => .null
      | some original => .str original)]

/-- What an action call raises. -/
inductive ActionError
  | keyError (message : String)
  | valueError (message : String)
  | typeError (message : String)
  | assertionError
  | unsupportedCapability (connectorId : String) (capability : Capability)
  | policyDenied (decision : PolicyDecision)
  | approvalRequired (message : String)
  | previewMismatch (message : String)
  | idempotencyConflict (message : String)
  | actionExecutionFailed (receipt : StoredReceipt)
  | actionOutcomeUnknown (message : String)
  /-- Any other `Exception`. -/
  | other (message : String)
  /-- An exception outside `Exception`, such as a cancellation. -/
  | base (message : String)

/-- What `str(value)` raises, raised by an action call. -/
def ActionError.ofWrite : WriteError → ActionError
  | .valueError message => .valueError message
  | .typeError message => .typeError message
  | .recursionError => .other "maximum recursion depth exceeded"
  | .other message => .other message

section Digest

variable {plan : SourceActionPlan} {bound digest message : String}

/-- `action.digest` where a gateway or the journal takes it. -/
def SourceActionPlan.takeDigest (plan : SourceActionPlan) : Except ActionError String :=
  plan.digested.mapError ActionError.ofWrite

/-- The digest is taken of a plan that has one. -/
theorem SourceActionPlan.takeDigest_eq_ok :
    plan.takeDigest = .ok digest ↔ plan.digested = .ok digest := mapError_eq_ok

/-- `bound != action.digest`, for the plan that a key is bound to. -/
def SourceActionPlan.checkDigest (plan : SourceActionPlan) (bound message : String) :
    Except ActionError Unit :=
  match plan.takeDigest with
  | .error error => .error error
  | .ok digest => if bound ≠ digest then .error (.idempotencyConflict message) else .ok ()

/-- The check lets a plan with the digest that is bound go on. -/
theorem SourceActionPlan.checkDigest_eq_ok :
    plan.checkDigest bound message = .ok () ↔ plan.digested = .ok bound := by
  rw [← takeDigest_eq_ok, checkDigest]
  cases plan.takeDigest with
  | error error => simp
  | ok digest => simp [eq_comm]

/-- The check refuses a plan that has another digest, with a conflict, or none. -/
theorem SourceActionPlan.checkDigest_refused (different : plan.digested ≠ .ok bound)
    (message : String) :
    ∃ error, plan.checkDigest bound message = .error error ∧
      ∀ digest, plan.digested = .ok digest → error = .idempotencyConflict message := by
  cases own : plan.digested with
  | error failure =>
    have raised : plan.takeDigest = .error (.ofWrite failure) := by rw [takeDigest, own]; rfl
    exact ⟨.ofWrite failure, by rw [checkDigest, raised], by simp⟩
  | ok digest =>
    refine ⟨.idempotencyConflict message, ?_, fun _ _ => rfl⟩
    rw [checkDigest, takeDigest_eq_ok.mpr own]
    apply if_pos
    rintro rfl
    exact different own

end Digest

/-- `except Exception` catches it. -/
def ActionError.isException : ActionError → Bool
  | .base _ => false
  | _ => true

/-! ## The audit ledger -/

/-- One entry of the audit chain. -/
structure AuditEntry where
  sequence : Nat
  eventType : String
  actionId : String
  occurredAt : DateTime
  attributes : List (String × Json.Value)
  previousDigest : String
  digest : String

/-- What an entry's digest is taken over. -/
def auditBody (sequence : Nat) (eventType actionId : String) (occurredAt : DateTime)
    (attributes : List (String × Json.Value)) (previous : String) : Json.Value :=
  .obj [("sequence", .int sequence), ("event_type", .str eventType), ("action_id", .str actionId),
    ("occurred_at", .str (isoformat occurredAt)), ("attributes", .obj attributes),
    ("previous_digest", .str previous)]

/-- `ActionAuditLedger`: the entries in order. -/
structure ActionAuditLedger where
  entries : List AuditEntry

namespace ActionAuditLedger

/-- The digest before the first entry. -/
def genesis : String := "sha256:" ++ String.ofList (List.replicate 64 '0')

/-- `append`. -/
def append (ledger : ActionAuditLedger) (eventType actionId : String) (occurredAt : DateTime)
    (attributes : List (String × Json.Value)) :
    Except ActionError (AuditEntry × ActionAuditLedger) :=
  if occurredAt.aware then
    let previous := match ledger.entries.getLast? with
      | some entry => entry.digest
      | none => genesis
    let sequence := ledger.entries.length + 1
    let entry : AuditEntry := ⟨sequence, eventType, actionId, occurredAt, attributes, previous,
      DataHarness.digest (auditBody sequence eventType actionId occurredAt attributes previous)⟩
    .ok (entry, ⟨ledger.entries ++ [entry]⟩)
  else .error (.valueError "audit timestamps must be timezone-aware")

/-- A ledger takes an entry at a time that tells its zone. -/
theorem append_of_aware (ledger : ActionAuditLedger) (eventType actionId : String)
    {time : DateTime} (aware : time.aware = true) (attributes : List (String × Json.Value)) :
    ∃ entry after, ledger.append eventType actionId time attributes = .ok (entry, after) := by
  unfold append
  rw [if_pos aware]
  exact ⟨_, _, rfl⟩

/-- The loop of `verify` over the entries after a digest. -/
def verifyFrom (previous : String) : List AuditEntry → Bool
  | [] => true
  | entry :: entries =>
    if entry.previousDigest ≠ previous ∨ entry.digest ≠ DataHarness.digest (auditBody entry.sequence
        entry.eventType entry.actionId entry.occurredAt entry.attributes previous) then false
    else verifyFrom entry.digest entries

/-- `verify`. -/
def verify (ledger : ActionAuditLedger) : Bool := verifyFrom genesis ledger.entries

/-- The digest a next entry refers to. -/
def lastDigest (previous : String) (entries : List AuditEntry) : String :=
  match entries.getLast? with
  | some entry => entry.digest
  | none => previous

/-- Entries that verify, and one more that is taken over its own contents, verify. -/
theorem verifyFrom_snoc {previous : String} {entries : List AuditEntry}
    (verified : verifyFrom previous entries = true) {entry : AuditEntry}
    (refers : entry.previousDigest = lastDigest previous entries)
    (own : entry.digest = DataHarness.digest (auditBody entry.sequence entry.eventType
      entry.actionId entry.occurredAt entry.attributes entry.previousDigest)) :
    verifyFrom previous (entries ++ [entry]) = true := by
  induction entries generalizing previous with
  | nil =>
    have here : entry.previousDigest = previous := refers
    rw [here] at own
    simp [verifyFrom, here, ← own]
  | cons first rest ih =>
    rw [List.cons_append]
    unfold verifyFrom at verified ⊢
    split at verified
    · cases verified
    · rename_i sound
      rw [if_neg sound]
      apply ih verified
      rw [refers]
      cases rest with
      | nil => rfl
      | cons second later =>
        unfold lastDigest
        rw [List.getLast?_cons_cons]
        cases last : (second :: later).getLast? with
        | none => simp at last
        | some entry => rfl

/-- A ledger that verifies does so after `append`. -/
theorem verify_append {ledger after : ActionAuditLedger} {eventType actionId : String}
    {occurredAt : DateTime} {attributes : List (String × Json.Value)} {entry : AuditEntry}
    (verified : ledger.verify = true)
    (appended : ledger.append eventType actionId occurredAt attributes = .ok (entry, after)) :
    after.verify = true := by
  unfold append at appended
  split at appended
  · cases appended
    exact verifyFrom_snoc verified rfl rfl
  · cases appended

end ActionAuditLedger

end DataHarness
