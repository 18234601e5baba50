import DataHarness.Query.Runtime

/-!
# The policy of the white-goods laboratory

`WhiteGoodsPolicy` knows three agents, with a role and the customers each may ask about. A role or a
customer that a request states must be the same in its attributes and in its parameters, and be
granted.
-/

namespace DataHarness

/-- What `ROLES` holds of an agent. -/
structure RoleGrant where
  role : String
  customers : List String

/-- The service agent of the first customer. -/
def RequestIdentity.lab : RequestIdentity where
  organizationId := "whitegoods-lab"
  solutionId := "service-quality"
  agentId := "agent-service-c001"
  requestId := "lab-request"
  traceId := "trace:lab-request"
  policyDigest := "sha256:whitegoods-policy-v1"
  required := by decide

namespace WhiteGoodsPolicy

/-- `ROLES`. -/
def roles : List (String × RoleGrant) :=
  [("agent-service-c001", ⟨"service", ["C001"]⟩), ("agent-service-c002", ⟨"service", ["C002"]⟩),
    ("agent-quality", ⟨"quality", []⟩)]

/-- `ROLES.get(agent_id)`. -/
def grantOf (agentId : String) : Option RoleGrant := roles.lookup agentId

/-- `attributes.get(key)`. -/
def statedOf (request : AuthorizationRequest) (key : String) : Scalar :=
  (request.attributes.lookup key).getD .none

/-- `parameters.get(key)`. -/
def plannedOf (request : AuthorizationRequest) (key : String) : PyValue :=
  (lookupKey key request.parameters).getD .none

/-- `planned_customer`. -/
def plannedCustomer (request : AuthorizationRequest) : PyValue :=
  match (lookupKey "where" request.parameters).getD (.mapping [] "{}") with
  | .mapping entries _ => (lookupKey "customer_id" entries).getD .none
  | _ => .none

/-- `stated is not None`. -/
def isGiven : Scalar → Bool
  | .none => false
  | _ => true

/-- `planned is not None`. -/
def isPlanned : PyValue → Bool
  | .none => false
  | _ => true

/-- `stated == planned`. How a number compares is a parameter: it can only change the reason of a
refusal, since no number is a role or a customer. -/
def same (numbers : Scalar → PyValue → Bool) (stated : Scalar) (planned : PyValue) : Bool :=
  match stated with
  | .none => !isPlanned planned
  | .str text => planned.equals text
  | number => numbers number planned

/-- `stated != planned and (stated is not None or planned is not None)`. -/
def mismatch (numbers : Scalar → PyValue → Bool) (stated : Scalar) (planned : PyValue) : Bool :=
  !same numbers stated planned && (isGiven stated || isPlanned planned)

/-- `value == text` of a scalar. -/
def isString (value : Scalar) (text : String) : Bool :=
  match value with
  | .str own => own == text
  | _ => false

/-- A decision with a reason. -/
def decision (request : AuthorizationRequest) (allowed : Bool) (reason : String) : PolicyDecision :=
  ⟨allowed, "whitegoods:" ++ request.identity.requestId ++ ":" ++ reason, reason⟩

/-- `evaluate`. -/
def evaluate (numbers : Scalar → PyValue → Bool) (request : AuthorizationRequest) :
    PolicyDecision :=
  match grantOf request.identity.agentId with
  | none => decision request false "unknown_agent"
  | some grant =>
    if request.capability ∉ [.discover, .query, .search] then
      decision request false "capability_not_allowed"
    else if mismatch numbers (statedOf request "role") (plannedOf request "role") then
      decision request false "scope_attribute_mismatch"
    else if isGiven (statedOf request "role") &&
        !isString (statedOf request "role") grant.role then
      decision request false "role_mismatch"
    else if mismatch numbers (statedOf request "customer_id") (plannedCustomer request) then
      decision request false "scope_attribute_mismatch"
    else if isGiven (statedOf request "customer_id") &&
        !grant.customers.any (isString (statedOf request "customer_id")) then
      decision request false "customer_scope_denied"
    else decision request true "allowlisted"

/-! ## What is allowed -/

/-- A scope is stated nowhere, or as one granted text in both places. -/
def Agrees (granted : List String) (stated : Scalar) (planned : PyValue) : Prop :=
  (stated = .none ∧ planned = .none) ∨
    ∃ text ∈ granted, stated = .str text ∧ planned = .str text

/-- A string is the text it is compared with. -/
theorem isString_iff {value : Scalar} {text : String} :
    isString value text = true ↔ value = .str text := by
  cases value <;> simp [isString]

/-- An object that equals a text is that text. -/
theorem equals_iff {value : PyValue} {text : String} :
    value.equals text = true ↔ value = .str text := by
  cases value <;> simp [PyValue.equals]

/-- Nothing is planned exactly where the value is none. -/
theorem not_isPlanned {value : PyValue} : isPlanned value = false ↔ value = .none := by
  cases value <;> simp [isPlanned]

/-- The two checks of a scope go through exactly where attributes and parameters agree on it. -/
theorem agrees_iff (numbers : Scalar → PyValue → Bool) (granted : List String) (stated : Scalar)
    (planned : PyValue) :
    mismatch numbers stated planned = false ∧
        (isGiven stated && !granted.any (isString stated)) = false ↔
      Agrees granted stated planned := by
  cases stated with
  | none =>
    have unstated : ¬ ∃ text ∈ granted, Scalar.none = .str text ∧ planned = .str text := by
      rintro ⟨text, -, other, -⟩
      cases other
    have agrees : Agrees granted .none planned ↔ planned = .none := by
      unfold Agrees
      simp only [true_and, or_iff_left unstated]
    rw [agrees, ← not_isPlanned]
    unfold mismatch same isGiven
    cases isPlanned planned <;> simp
  | str text =>
    have agrees : Agrees granted (.str text) planned ↔ text ∈ granted ∧ planned = .str text := by
      unfold Agrees
      constructor
      · rintro (⟨other, -⟩ | ⟨own, member, stated, planned⟩)
        · cases other
        · obtain rfl := Scalar.str.inj stated
          exact ⟨member, planned⟩
      · rintro ⟨member, planned⟩
        exact .inr ⟨text, member, rfl, planned⟩
    have strings : granted.any (isString (.str text)) = true ↔ text ∈ granted := by
      rw [List.any_eq_true]
      constructor
      · rintro ⟨other, member, equal⟩
        rw [Scalar.str.inj (isString_iff.mp equal)]
        exact member
      · intro member
        exact ⟨text, member, isString_iff.mpr rfl⟩
    rw [agrees, ← equals_iff, ← strings]
    simp only [mismatch, same, isGiven, Bool.true_or, Bool.and_true, Bool.true_and]
    cases planned.equals text <;> cases granted.any (isString (.str text)) <;> simp
  | int number => simp [Agrees, isGiven, isString]
  | float number => simp [Agrees, isGiven, isString]
  | bool flag => simp [Agrees, isGiven, isString]

/-- A request is allowed exactly where its agent is known, its capability is one of three, and its
role and its customer agree with the grant. -/
theorem evaluate_allowed (numbers : Scalar → PyValue → Bool) (request : AuthorizationRequest) :
    (evaluate numbers request).allowed = true ↔
      ∃ grant, grantOf request.identity.agentId = some grant ∧
        request.capability ∈ [Capability.discover, .query, .search] ∧
        Agrees [grant.role] (statedOf request "role") (plannedOf request "role") ∧
        Agrees grant.customers (statedOf request "customer_id") (plannedCustomer request) := by
  unfold evaluate
  cases found : grantOf request.identity.agentId with
  | none => simp [decision]
  | some grant =>
    have role := agrees_iff numbers [grant.role] (statedOf request "role")
      (plannedOf request "role")
    have customer := agrees_iff numbers grant.customers (statedOf request "customer_id")
      (plannedCustomer request)
    rw [List.any_cons, List.any_nil, Bool.or_false] at role
    simp only [Option.some.injEq, exists_eq_left', ← role, ← customer]
    by_cases capable : request.capability ∈ [Capability.discover, .query, .search]
    · rw [if_neg (not_not.mpr capable)]
      cases mismatch numbers (statedOf request "role") (plannedOf request "role") with
      | true => simp [decision]
      | false =>
        cases isGiven (statedOf request "role") && !isString (statedOf request "role") grant.role
          with
        | true => simp [decision]
        | false =>
          cases mismatch numbers (statedOf request "customer_id") (plannedCustomer request) with
          | true => simp [decision]
          | false =>
            cases isGiven (statedOf request "customer_id") &&
                !grant.customers.any (isString (statedOf request "customer_id")) with
            | true => simp [decision]
            | false => simp [decision, capable]
    · rw [if_pos capable]
      simp [decision, capable]

end WhiteGoodsPolicy

end DataHarness
