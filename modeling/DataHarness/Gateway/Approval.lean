import DataHarness.Edge.Authority
import DataHarness.Gateway.Gates

/-!
# Approvals that are refused

The id of an approval is text that anyone may write. The authority compares what stands at its end
with a signature, and the comparison takes ASCII texts only; of an approval that it signed it also
compares the digest with that of the action, and the time with the timestamps. An exception of any
of these a gateway passes on in the place of a refusal.
-/

namespace DataHarness

variable [Stdlib]

/-! ## The authority -/

namespace HmacApprovalAuthority

variable {authority : HmacApprovalAuthority} {approval : ActionApproval}
  {action : SourceActionPlan} {identity : RequestIdentity} {now : DateTime} {compensation : Bool}

/-- The text after the nonce is the signature of the approval. -/
def Signed (authority : HmacApprovalAuthority) (approval : ActionApproval)
    (identity : RequestIdentity) (nonce signature : List Char) : Prop :=
  signature = (authority.signature approval identity (String.ofList nonce)).toList

/-- The text after the last colon of an id of this issuer is ASCII. Where it is the signature of the
approval, the action has a digest; and where the approval is for that digest and the policy, the
time tells its zone. -/
def Answerable (authority : HmacApprovalAuthority) (approval : ActionApproval)
    (action : SourceActionPlan) (identity : RequestIdentity) (now : DateTime) : Prop :=
  ∀ nonce signature, authority.parts approval = some (nonce, signature) →
    isAscii signature = true ∧ (authority.Signed approval identity nonce signature →
      writable action.toJson = true ∧ (approval.actionDigest = action.digest →
        approval.policyDigest = identity.policyDigest → now.aware = true))

end HmacApprovalAuthority

/-! ## The gateways -/

open Effect Program ActionGateway

/-- What a gateway makes of the answer of its verifier. -/
def verdict : Except ActionError Bool → Except ActionError Unit
  | .ok true => .ok ()
  | .ok false =>
    .error (.approvalRequired "approval is untrusted, stale, mismatched or excludes compensation")
  | .error error => .error error

section Verdicts

variable {authority : HmacApprovalAuthority} {time : DateTime} {action : SourceActionPlan}
  {approval : ActionApproval} {identity : RequestIdentity}

end Verdicts

omit [Stdlib]

/-- A plan that needs a human. -/
def SourceActionPlan.guarded : SourceActionPlan :=
  { SourceActionPlan.small "action" "key" (by decide) with
    approvalMode := .human
    approval := fun _ => rfl }

/-- An approval with an id that anyone may write. -/
def ActionApproval.written (approvalId : String) (named : approvalId ≠ "") : ActionApproval where
  approvalId := approvalId
  actionDigest := "sha256:order"
  approverId := "human:owner"
  policyDigest := "policy"
  approvedAt := noon
  expiresAt := noon.add 2
  allowCompensation := true
  required := by simpa using named
  human := by decide
  aware := by decide
  bounded := by decide

end DataHarness
