import DataHarness.Actions
import DataHarness.Library.Separator

/-!
# Approvals of the offline authority

`HmacApprovalAuthority` writes its issuer, a nonce and a signature into one text, the id of the
approval. The signature is over the other fields of the approval and four of the identity it is
issued for, so a verified approval is one that was issued.
-/

namespace DataHarness

/-- `HmacApprovalAuthority`. -/
@[ext]
structure HmacApprovalAuthority where
  issuer : String
  audience : String
  secret : List UInt8
  /-- An authority requires an issuer, an audience and a 128-bit key. -/
  required : issuer ≠ "" ∧ audience ≠ "" ∧ 16 ≤ secret.length

/-- `ActionApproval(…)`. -/
def ActionApproval.make (approvalId actionDigest approverId policyDigest : String)
    (approvedAt expiresAt : DateTime) (allowCompensation : Bool) :
    Except ActionError ActionApproval :=
  if required : ∀ value ∈ [approvalId, actionDigest, approverId, policyDigest], value ≠ "" then
    if human : "human:".toList.isPrefixOf approverId.toList = true then
      if aware : approvedAt.aware = true ∧ expiresAt.aware = true then
        if bounded : approvedAt.before? expiresAt = some true then
          .ok ⟨approvalId, actionDigest, approverId, policyDigest, approvedAt, expiresAt,
            allowCompensation, required, human, aware, bounded⟩
        else .error (.valueError "approval must expire after it is granted")
      else .error (.valueError "approval timestamps must be timezone-aware")
    else .error (.valueError "source action approvals require a human approver")
  else .error (.valueError "approval identity, action and policy binding are required")

/-- What `issue` is called with. -/
structure ApprovalGrant where
  actionDigest : String
  approverId : String
  policyDigest : String
  approvedAt : DateTime
  expiresAt : DateTime
  allowCompensation : Bool
  identity : RequestIdentity
  nonce : String

/-- `left <= right`; ordering a naive and an aware value is a `TypeError`. -/
def DateTime.atMost? (left right : DateTime) : Option Bool :=
  if left.aware = right.aware then some (decide (left.instant ≤ right.instant)) else none

/-- `str.isascii`. -/
def isAscii (text : List Char) : Bool := text.all fun c => decide (c.toNat < 128)

/-- `hmac.compare_digest` of two texts. -/
def compareDigest (left right : List Char) : Except ActionError Bool :=
  if isAscii left && isAscii right then .ok (left == right)
  else .error (.typeError "comparing strings with non-ASCII characters is not supported")

namespace HmacApprovalAuthority

variable [Stdlib]

/-- What `_signature` signs; it does not read the id of the approval. -/
def signatureBody (authority : HmacApprovalAuthority) (approval : ActionApproval)
    (identity : RequestIdentity) (nonce : String) : Json.Value :=
  .obj [("issuer", .str authority.issuer), ("audience", .str authority.audience),
    ("nonce", .str nonce), ("action_digest", .str approval.actionDigest),
    ("approver_id", .str approval.approverId), ("policy_digest", .str approval.policyDigest),
    ("approved_at", .str (isoformat approval.approvedAt)),
    ("expires_at", .str (isoformat approval.expiresAt)),
    ("allow_compensation", .bool approval.allowCompensation),
    ("organization_id", .str identity.organizationId), ("solution_id", .str identity.solutionId),
    ("agent_id", .str identity.agentId), ("request_id", .str identity.requestId)]

/-- `_signature`. -/
def signature (authority : HmacApprovalAuthority) (approval : ActionApproval)
    (identity : RequestIdentity) (nonce : String) : String :=
  hmacSha256 authority.secret (Json.dumps (authority.signatureBody approval identity nonce))

/-- The id of an issued approval. -/
def approvalId (authority : HmacApprovalAuthority) (nonce signature : String) : String :=
  authority.issuer ++ ":" ++ nonce ++ ":" ++ signature

omit [Stdlib] in
/-- An id has its separators. -/
theorem approvalId_ne_empty (authority : HmacApprovalAuthority) (nonce signature : String) :
    authority.approvalId nonce signature ≠ "" := by
  intro empty
  have length := congrArg String.length empty
  simp [approvalId] at length

/-- `replace(approval, approval_id=…)`. -/
def withId (authority : HmacApprovalAuthority) (unsigned : ActionApproval)
    (nonce signature : String) : ActionApproval :=
  { unsigned with
    approvalId := authority.approvalId nonce signature
    required := by
      have rest := unsigned.required
      simp only [List.forall_mem_cons] at rest ⊢
      exact ⟨authority.approvalId_ne_empty nonce signature, rest.2⟩ }

/-- `issue`. -/
def issue (authority : HmacApprovalAuthority) (grant : ApprovalGrant) :
    Except ActionError ActionApproval :=
  if grant.nonce = "" then .error (.valueError "approval nonce is required")
  else do
    let unsigned ← ActionApproval.make "pending" grant.actionDigest grant.approverId
      grant.policyDigest grant.approvedAt grant.expiresAt grant.allowCompensation
    return authority.withId unsigned grant.nonce
      (authority.signature unsigned grant.identity grant.nonce)

/-- `approved_at <= now < expires_at`. -/
def holdsAt (approval : ActionApproval) (now : DateTime) : Except ActionError Bool :=
  match approval.approvedAt.atMost? now with
  | none => .error (.typeError "can't compare offset-naive and offset-aware datetimes")
  | some false => .ok false
  | some true =>
    match now.before? approval.expiresAt with
    | none => .error (.typeError "can't compare offset-naive and offset-aware datetimes")
    | some holds => .ok holds

/-- The nonce and the signature in an id, after the issuer. -/
def parts (authority : HmacApprovalAuthority) (approval : ActionApproval) :
    Option (List Char × List Char) :=
  let issuer := (authority.issuer ++ ":").toList
  if issuer.isPrefixOf approval.approvalId.toList then
    Separator.rsplit ':' (approval.approvalId.toList.drop issuer.length)
  else none

/-- `approval.action_digest == action.digest and approval.policy_digest == identity.policy_digest`. -/
def bound (approval : ActionApproval) (action : SourceActionPlan) (identity : RequestIdentity) :
    Except ActionError Bool := do
  let digest ← action.digested.mapError ActionError.ofWrite
  return approval.actionDigest == digest && approval.policyDigest == identity.policyDigest

/-- `verify`. -/
def verify (authority : HmacApprovalAuthority) (approval : ActionApproval)
    (action : SourceActionPlan) (identity : RequestIdentity) (now : DateTime)
    (compensation : Bool) : Except ActionError Bool :=
  match authority.parts approval with
  | none => .ok false
  | some (nonce, signature) => do
    let expected := authority.signature approval identity (String.ofList nonce)
    let authentic ← compareDigest signature expected.toList
    if authentic then
      let bound ← bound approval action identity
      if bound then
        let holds ← holdsAt approval now
        return holds && (!compensation || approval.allowCompensation)
      else return false
    else return false

end HmacApprovalAuthority

/-! ## What was issued -/

/-- A call of `issue`. -/
structure IssueCall where
  authority : HmacApprovalAuthority
  grant : ApprovalGrant

section Issued

variable [Stdlib]

/-- The approval a call returned. -/
def IssueCall.Returns (call : IssueCall) (approval : ActionApproval) : Prop :=
  call.authority.issue call.grant = .ok approval

/-- A call signed a text. -/
def IssueCall.Signs (call : IssueCall) (message : String) : Prop :=
  ∃ approval, call.Returns approval ∧ message = Json.dumps
    (call.authority.signatureBody approval call.grant.identity call.grant.nonce)

/-- The signature at the end of an approval's id was not forged: a text it signs under a secret was
signed by one of some calls that have the secret. -/
def ActionApproval.Unforged (approval : ActionApproval) (calls : List IssueCall)
    (secret : List UInt8) : Prop :=
  ∀ front message, approval.approvalId.toList = front ++ ':' :: (hmacSha256 secret message).toList →
    ∃ call ∈ calls, call.authority.secret = secret ∧ call.Signs message

/-- `hexdigest` writes hexadecimal digits. -/
def HmacHexadecimal : Prop :=
  ∀ key text, ∀ c ∈ (hmacSha256 key text).toList, c ∈ "0123456789abcdef".toList

/-- An approval was issued for an identity, in all its fields. -/
structure IssuedFor (calls : List IssueCall) (authority : HmacApprovalAuthority)
    (approval : ActionApproval) (identity : RequestIdentity) (call : IssueCall) : Prop where
  made : call ∈ calls
  authority : call.authority = authority
  returned : call.Returns approval
  organizationId : call.grant.identity.organizationId = identity.organizationId
  solutionId : call.grant.identity.solutionId = identity.solutionId
  agentId : call.grant.identity.agentId = identity.agentId
  requestId : call.grant.identity.requestId = identity.requestId
  actionDigest : approval.actionDigest = call.grant.actionDigest
  approverId : approval.approverId = call.grant.approverId
  policyDigest : approval.policyDigest = call.grant.policyDigest
  approvedAt : approval.approvedAt = call.grant.approvedAt
  expiresAt : approval.expiresAt = call.grant.expiresAt
  allowCompensation : approval.allowCompensation = call.grant.allowCompensation

/-- An approval applies to an action now. -/
structure ActionApproval.Applies (approval : ActionApproval) (action : SourceActionPlan)
    (identity : RequestIdentity) (now : DateTime) (compensation : Bool) : Prop where
  actionDigest : action.digested = .ok approval.actionDigest
  policyDigest : approval.policyDigest = identity.policyDigest
  aware : now.aware = true
  granted : approval.approvedAt.instant ≤ now.instant
  unexpired : now.instant < approval.expiresAt.instant
  compensation : compensation = true → approval.allowCompensation = true

namespace HmacApprovalAuthority

variable {authority : HmacApprovalAuthority} {approval : ActionApproval}

omit [Stdlib] in
/-- Timestamps are compared when the time is aware. -/
theorem holdsAt_ok {now : DateTime} :
    holdsAt approval now = .ok true ↔ now.aware = true ∧
      approval.approvedAt.instant ≤ now.instant ∧ now.instant < approval.expiresAt.instant := by
  unfold holdsAt DateTime.atMost? DateTime.before?
  rw [approval.aware.1, approval.aware.2]
  cases now.aware with
  | false => simp
  | true =>
    by_cases granted : approval.approvedAt.instant ≤ now.instant
    · by_cases unexpired : now.instant < approval.expiresAt.instant
      · simp [granted, unexpired]
      · simp [granted, unexpired]
    · simp [granted]

/-- Equal timestamps have equal texts only. -/
theorem isoformat_injective {left right : DateTime} (same : isoformat left = isoformat right) :
    left = right := by
  have first := Stdlib.fromisoformat_isoformat left
  rw [same, Stdlib.fromisoformat_isoformat right] at first
  exact (Option.some.inj first).symm

omit [Stdlib] in
/-- The parts of an id are what it is made of. -/
theorem parts_of_approvalId {nonce signature : String} (clean : ':' ∉ signature.toList)
    (own : approval.approvalId = authority.approvalId nonce signature) :
    authority.parts approval = some (nonce.toList, signature.toList) := by
  have text : approval.approvalId.toList = (authority.issuer ++ ":").toList ++
      (nonce.toList ++ ':' :: signature.toList) := by
    rw [own]
    simp [approvalId]
  unfold parts
  rw [text]
  dsimp only
  rw [if_pos (by simp), List.drop_left, Separator.rsplit_append _ clean]

omit [Stdlib] in
/-- An id is made of its parts. -/
theorem approvalId_of_parts {nonce signature : List Char}
    (split : authority.parts approval = some (nonce, signature)) :
    approval.approvalId = authority.approvalId (String.ofList nonce) (String.ofList signature) ∧
      ':' ∉ signature := by
  unfold parts at split
  dsimp only at split
  split at split
  · rename_i starts
    obtain ⟨rest, placed⟩ := List.isPrefixOf_iff_prefix.mp starts
    rw [← placed, List.drop_left] at split
    obtain ⟨rfl, clean⟩ := Separator.of_rsplit split
    refine ⟨?_, clean⟩
    apply String.toList_injective
    rw [← placed]
    simp [approvalId]
  · cases split

/-- What is signed for one approval is signed for no other. -/
theorem signatureBody_injective {first second : HmacApprovalAuthority}
    {left right : ActionApproval} {own other : RequestIdentity} {nonce text : String}
    (same : Json.canonical (first.signatureBody left own nonce) =
      Json.canonical (second.signatureBody right other text)) :
    (first.issuer = second.issuer ∧ first.audience = second.audience ∧ nonce = text) ∧
    (left.actionDigest = right.actionDigest ∧ left.approverId = right.approverId ∧
      left.policyDigest = right.policyDigest ∧ left.approvedAt = right.approvedAt ∧
      left.expiresAt = right.expiresAt ∧ left.allowCompensation = right.allowCompensation) ∧
    own.organizationId = other.organizationId ∧ own.solutionId = other.solutionId ∧
      own.agentId = other.agentId ∧ own.requestId = other.requestId := by
  unfold signatureBody at same
  have flag : left.allowCompensation = right.allowCompensation := by
    have member := (Json.members_of_canonical same
      ("allow_compensation", .bool left.allowCompensation)).mp
        (by simp [Json.canonicalMembers, Json.canonical])
    simpa [Json.canonicalMembers, Json.canonical] using member
  have shared := fun name value => @Json.str_member_of_canonical _ _ same name value
  have issuer := shared "issuer" first.issuer (by simp)
  have audience := shared "audience" first.audience (by simp)
  have nonces := shared "nonce" nonce (by simp)
  have actionDigest := shared "action_digest" left.actionDigest (by simp)
  have approverId := shared "approver_id" left.approverId (by simp)
  have policyDigest := shared "policy_digest" left.policyDigest (by simp)
  have approvedAt := shared "approved_at" (isoformat left.approvedAt) (by simp)
  have expiresAt := shared "expires_at" (isoformat left.expiresAt) (by simp)
  have organizationId := shared "organization_id" own.organizationId (by simp)
  have solutionId := shared "solution_id" own.solutionId (by simp)
  have agentId := shared "agent_id" own.agentId (by simp)
  have requestId := shared "request_id" own.requestId (by simp)
  refine ⟨⟨?_, ?_, ?_⟩, ⟨?_, ?_, ?_, ?_, ?_, flag⟩, ?_, ?_, ?_, ?_⟩
  · simpa using issuer
  · simpa using audience
  · simpa using nonces
  · simpa using actionDigest
  · simpa using approverId
  · simpa using policyDigest
  · exact isoformat_injective (by simpa using approvedAt)
  · exact isoformat_injective (by simpa using expiresAt)
  · simpa using organizationId
  · simpa using solutionId
  · simpa using agentId
  · simpa using requestId

/-- What a signature is over is what it reads. -/
theorem signatureBody_congr {left right : ActionApproval} {own other : RequestIdentity}
    (nonce : String) (fields : left.actionDigest = right.actionDigest ∧
      left.approverId = right.approverId ∧ left.policyDigest = right.policyDigest ∧
      left.approvedAt = right.approvedAt ∧ left.expiresAt = right.expiresAt ∧
      left.allowCompensation = right.allowCompensation)
    (agree : own.organizationId = other.organizationId ∧ own.solutionId = other.solutionId ∧
      own.agentId = other.agentId ∧ own.requestId = other.requestId) :
    authority.signatureBody left own nonce = authority.signatureBody right other nonce := by
  obtain ⟨actionDigest, approverId, policyDigest, approvedAt, expiresAt, flag⟩ := fields
  obtain ⟨organizationId, solutionId, agentId, requestId⟩ := agree
  unfold signatureBody
  rw [actionDigest, approverId, policyDigest, approvedAt, expiresAt, flag, organizationId,
    solutionId, agentId, requestId]

end HmacApprovalAuthority

omit [Stdlib] in
/-- An approval that is made holds what it is made of. -/
theorem ActionApproval.of_make {approvalId actionDigest approverId policyDigest : String}
    {approvedAt expiresAt : DateTime} {allowCompensation : Bool} {approval : ActionApproval}
    (made : make approvalId actionDigest approverId policyDigest approvedAt expiresAt
      allowCompensation = .ok approval) :
    ∃ required human aware bounded, approval = ⟨approvalId, actionDigest, approverId, policyDigest,
      approvedAt, expiresAt, allowCompensation, required, human, aware, bounded⟩ := by
  unfold make at made
  split at made
  · rename_i required
    split at made
    · rename_i human
      split at made
      · rename_i aware
        split at made
        · rename_i bounded
          exact ⟨required, human, aware, bounded, (Except.ok.inj made).symm⟩
        · cases made
      · cases made
    · cases made
  · cases made

omit [Stdlib] in
/-- The constructor makes an approval of what it holds. -/
theorem ActionApproval.make_of (approval : ActionApproval) :
    make approval.approvalId approval.actionDigest approval.approverId approval.policyDigest
      approval.approvedAt approval.expiresAt approval.allowCompensation = .ok approval := by
  unfold make
  rw [dif_pos approval.required, dif_pos approval.human, dif_pos approval.aware,
    dif_pos approval.bounded]

/-- An issued approval has the fields of its grant, and the signature over them in its id. -/
theorem IssueCall.Returns.fields {call : IssueCall} {approval : ActionApproval}
    (returned : call.Returns approval) :
    approval.approvalId = call.authority.approvalId call.grant.nonce
        (call.authority.signature approval call.grant.identity call.grant.nonce) ∧
      approval.actionDigest = call.grant.actionDigest ∧
      approval.approverId = call.grant.approverId ∧
      approval.policyDigest = call.grant.policyDigest ∧
      approval.approvedAt = call.grant.approvedAt ∧ approval.expiresAt = call.grant.expiresAt ∧
      approval.allowCompensation = call.grant.allowCompensation := by
  unfold Returns HmacApprovalAuthority.issue at returned
  split at returned
  · cases returned
  · obtain ⟨unsigned, made, returned⟩ := of_bind_ok returned
    obtain ⟨_, _, _, _, rfl⟩ := ActionApproval.of_make made
    obtain rfl := Except.ok.inj returned
    exact ⟨rfl, rfl, rfl, rfl, rfl, rfl, rfl⟩

omit [Stdlib] in
/-- Approvals with the same id and fields are one. -/
theorem ActionApproval.ext_fields {left right : ActionApproval}
    (id : left.approvalId = right.approvalId) (fields : left.actionDigest = right.actionDigest ∧
      left.approverId = right.approverId ∧ left.policyDigest = right.policyDigest ∧
      left.approvedAt = right.approvedAt ∧ left.expiresAt = right.expiresAt ∧
      left.allowCompensation = right.allowCompensation) : left = right := by
  cases left
  cases right
  simp_all

namespace HmacApprovalAuthority

variable {authority : HmacApprovalAuthority} {approval : ActionApproval}
  {action : SourceActionPlan} {identity : RequestIdentity} {now : DateTime} {compensation : Bool}

/-- A hexadecimal text has no separator. -/
theorem clean_of_hexadecimal (hexadecimal : HmacHexadecimal) (key : List UInt8) (text : String) :
    ':' ∉ (hmacSha256 key text).toList := by
  intro member
  have digit := hexadecimal key text _ member
  revert digit
  decide

/-- A hexadecimal text is ASCII. -/
theorem ascii_of_hexadecimal (hexadecimal : HmacHexadecimal) (nonce : String) :
    isAscii (authority.signature approval identity nonce).toList = true := by
  apply List.all_eq_true.mpr
  intro c member
  have digits : ∀ c ∈ "0123456789abcdef".toList, decide (c.toNat < 128) = true :=
    List.all_eq_true.mp (by decide)
  exact digits c (hexadecimal _ _ c member)

/-- An approval is bound to an action that has its digest, under its policy. -/
theorem bound_ok : bound approval action identity = .ok true ↔
    action.digested = .ok approval.actionDigest ∧
      approval.policyDigest = identity.policyDigest := by
  unfold bound
  cases action.digested with
  | error error => simp [Except.mapError, bind, Except.bind]
  | ok digest =>
    simp only [Except.mapError, bind, Except.bind, pure, Except.pure, Except.ok.injEq,
      Bool.and_eq_true, beq_iff_eq]
    exact and_congr_left fun _ => eq_comm

/-- A verification that gets to the comparison compares, and asks whether the approval applies. -/
theorem verify_of_parts {nonce signature : List Char}
    (split : authority.parts approval = some (nonce, signature)) :
    authority.verify approval action identity now compensation = .ok true ↔
      compareDigest signature
          (authority.signature approval identity (String.ofList nonce)).toList = .ok true ∧
        approval.Applies action identity now compensation := by
  unfold verify
  rw [split]
  dsimp only
  cases compared : compareDigest signature
      (authority.signature approval identity (String.ofList nonce)).toList with
  | error error => simp [bind, Except.bind]
  | ok authentic =>
    cases authentic with
    | false => simp [bind, Except.bind, pure, Except.pure]
    | true =>
      simp only [bind, Except.bind, pure, Except.pure, if_true, true_and]
      constructor
      · intro verified
        cases named : bound approval action identity with
        | error error => simp [named] at verified
        | ok own =>
          cases own with
          | false => simp [named] at verified
          | true =>
            obtain ⟨actionDigest, policyDigest⟩ := bound_ok.mp named
            cases held : holdsAt approval now with
            | error error => simp [named, held] at verified
            | ok holds =>
              simp only [named, held, if_true, Except.ok.injEq, Bool.and_eq_true, Bool.or_eq_true,
                Bool.not_eq_true'] at verified
              obtain ⟨aware, granted, unexpired⟩ := holdsAt_ok.mp (verified.1 ▸ held)
              refine ⟨actionDigest, policyDigest, aware, granted, unexpired, ?_⟩
              intro undoing
              rcases verified.2 with forward | allowed
              · rw [undoing] at forward
                cases forward
              · exact allowed
      · intro applies
        have own := bound_ok.mpr ⟨applies.actionDigest, applies.policyDigest⟩
        have holds := holdsAt_ok.mpr ⟨applies.aware, applies.granted, applies.unexpired⟩
        simp only [own, holds, if_true]
        cases compensation with
        | false => rfl
        | true =>
          rw [applies.compensation rfl]
          rfl

omit [Stdlib] in
/-- Two texts compare equal when they are one ASCII text. -/
theorem compareDigest_ok {left right : List Char} :
    compareDigest left right = .ok true ↔ left = right ∧ isAscii right = true := by
  unfold compareDigest
  constructor
  · intro compared
    split at compared
    · rename_i ascii
      simp only [Bool.and_eq_true] at ascii
      exact ⟨by simpa using compared, ascii.2⟩
    · cases compared
  · rintro ⟨rfl, ascii⟩
    simp [ascii]

/-- A verification succeeds when the id ends with the signature and the approval applies. -/
theorem verify_ok (hexadecimal : HmacHexadecimal) :
    authority.verify approval action identity now compensation = .ok true ↔
      (∃ nonce, approval.approvalId =
        authority.approvalId nonce (authority.signature approval identity nonce)) ∧
        approval.Applies action identity now compensation := by
  constructor
  · intro verified
    cases split : authority.parts approval with
    | none => simp [verify, split] at verified
    | some parts =>
      obtain ⟨nonce, signature⟩ := parts
      obtain ⟨compared, applies⟩ := (verify_of_parts split).mp verified
      have same := (compareDigest_ok.mp compared).1
      refine ⟨⟨String.ofList nonce, ?_⟩, applies⟩
      rw [(approvalId_of_parts split).1, same, String.ofList_toList]
  · rintro ⟨⟨nonce, own⟩, applies⟩
    have split := parts_of_approvalId (clean_of_hexadecimal hexadecimal _ _) own
    refine (verify_of_parts split).mpr ⟨compareDigest_ok.mpr ?_, applies⟩
    rw [String.ofList_toList]
    exact ⟨rfl, ascii_of_hexadecimal hexadecimal nonce⟩

/-- An approval verifies exactly when it was issued by this authority for the identity and applies
to the action now, unless its signature is forged. -/
theorem verify_iff_issued (hexadecimal : HmacHexadecimal) (calls : List IssueCall)
    (unforged : approval.Unforged calls authority.secret) :
    authority.verify approval action identity now compensation = .ok true ↔
      (∃ call, IssuedFor calls authority approval identity call) ∧
        approval.Applies action identity now compensation := by
  rw [verify_ok hexadecimal]
  apply and_congr_left
  intro applies
  constructor
  · rintro ⟨nonce, own⟩
    have shown : approval.approvalId.toList = (authority.issuer ++ ":" ++ nonce).toList ++
        ':' :: (authority.signature approval identity nonce).toList := by
      rw [own]
      simp [approvalId]
    obtain ⟨call, made, secret, signed, returned, message⟩ := unforged _ _ shown
    obtain ⟨⟨issuer, audience, text⟩, fields, agree⟩ :=
      signatureBody_injective (Json.dumps_injective message)
    have same : authority = call.authority :=
      HmacApprovalAuthority.ext issuer audience secret.symm
    obtain ⟨signedId, granted⟩ := returned.fields
    have whole : approval = signed := by
      apply ActionApproval.ext_fields _ fields
      rw [own, signedId, ← same, ← text]
      unfold signature
      rw [signatureBody_congr nonce fields agree]
    subst whole
    obtain ⟨actionDigest, approverId, policyDigest, approvedAt, expiresAt, flag⟩ := granted
    obtain ⟨organizationId, solutionId, agentId, requestId⟩ := agree
    exact ⟨call, made, same.symm, returned, organizationId.symm, solutionId.symm, agentId.symm,
      requestId.symm, actionDigest, approverId, policyDigest, approvedAt, expiresAt, flag⟩
  · rintro ⟨call, issued⟩
    obtain ⟨own, -⟩ := issued.returned.fields
    refine ⟨call.grant.nonce, ?_⟩
    rw [own, issued.authority]
    unfold signature
    rw [signatureBody_congr _ ⟨rfl, rfl, rfl, rfl, rfl, rfl⟩ ⟨issued.organizationId,
      issued.solutionId, issued.agentId, issued.requestId⟩]

end HmacApprovalAuthority

end Issued

/-! ## A library with hexadecimal digests -/

/-- A text in hexadecimal digits: each character in unary, and a zero after it. -/
def digits (text : List Char) : List Char :=
  text.flatMap fun c => List.replicate c.toNat '1' ++ ['0']

/-- Texts with one code are one text. -/
theorem digits_injective : Function.Injective digits := by
  intro left
  induction left with
  | nil =>
    intro right same
    cases right with
    | nil => rfl
    | cons c rest => simp [digits] at same
  | cons c rest ih =>
    intro right same
    cases right with
    | nil => simp [digits] at same
    | cons other others =>
      have unary : List.replicate c.toNat '1' ++ '0' :: digits rest =
          List.replicate other.toNat '1' ++ '0' :: digits others := by
        simpa [digits] using same
      have clean : ∀ n, '0' ∉ List.replicate n '1' := by
        intro n member
        exact absurd (List.eq_of_mem_replicate member) (by decide)
      obtain ⟨head, tail⟩ := Separator.append_cancel (clean _) (clean _) unary
      have code : c.toNat = other.toNat := by simpa using congrArg List.length head
      rw [ih tail, Char.toNat_inj.mp code]

/-- A library whose digests are the texts themselves, in hexadecimal digits. -/
@[reducible] def Stdlib.hexadecimal : Stdlib :=
  { Stdlib.transparent with
    sha256 := fun text => String.ofList (digits text.toList)
    hmacSha256 := fun _ text => String.ofList (digits text.toList) }

/-- Its keyed digests are written in hexadecimal digits. -/
theorem Stdlib.hexadecimal_hmac : @HmacHexadecimal Stdlib.hexadecimal := by
  intro key text c member
  change c ∈ (String.ofList (digits text.toList)).toList at member
  simp only [String.toList_ofList, digits, List.mem_flatMap, List.mem_append,
    List.mem_replicate, List.mem_singleton] at member
  obtain ⟨_, _, ⟨-, rfl⟩ | rfl⟩ := member <;> decide

/-- Its keyed digests have no collision. -/
theorem Stdlib.hexadecimal_injective (key : List UInt8) :
    Function.Injective (@hmacSha256 Stdlib.hexadecimal key) := by
  intro left right same
  exact String.toList_injective (digits_injective (String.ofList_injective same))

/-- An authority with a colon in its name. -/
def HmacApprovalAuthority.small : HmacApprovalAuthority :=
  ⟨"lab:one", "harness", List.replicate 16 0, by decide⟩

/-- A grant for a plan, with a colon in its nonce. -/
def ApprovalGrant.small [Stdlib] (action : SourceActionPlan) : ApprovalGrant :=
  ⟨action.digest, "human:steward", "policy", noon, noon.add 1, true, .small, "n:1"⟩

/-- The approval of the small grant verifies. -/
theorem HmacApprovalAuthority.verify_iff_issued_small : letI := Stdlib.hexadecimal
    let action := SourceActionPlan.small "action" "key" (by decide)
    let call : IssueCall := ⟨.small, .small action⟩
    ∃ approval, call.Returns approval ∧ approval.Unforged [call] call.authority.secret ∧
      call.authority.verify approval action .small noon true = .ok true := by
  let := Stdlib.hexadecimal
  intro action call
  have named : action.digest ≠ "" := by
    intro empty
    have length := congrArg String.length empty
    simp [SourceActionPlan.digest, digest] at length
  let unsigned : ActionApproval := ⟨"pending", action.digest, "human:steward", "policy", noon,
    noon.add 1, true, by simp [named], by decide, by decide, by decide⟩
  let approval := call.authority.withId unsigned call.grant.nonce
    (call.authority.signature unsigned call.grant.identity call.grant.nonce)
  have returned : call.Returns approval := by
    have made : ActionApproval.make "pending" action.digest "human:steward" "policy" noon
        (noon.add 1) true = .ok unsigned := unsigned.make_of
    simp only [IssueCall.Returns, issue, call, ApprovalGrant.small, made]
    rfl
  have unforged : approval.Unforged [call] call.authority.secret := by
    intro front message shown
    refine ⟨call, by simp, rfl, approval, returned, ?_⟩
    let signature := call.authority.signature unsigned call.grant.identity call.grant.nonce
    have own : approval.approvalId.toList = "lab:one:n:1".toList ++ ':' :: signature.toList := by
      simp [approval, withId, approvalId, call, HmacApprovalAuthority.small, ApprovalGrant.small,
        signature]
    rw [own] at shown
    have clean := @clean_of_hexadecimal Stdlib.hexadecimal Stdlib.hexadecimal_hmac
    have first := Separator.rsplit_append "lab:one:n:1".toList (clean call.authority.secret
      (Json.dumps (call.authority.signatureBody unsigned call.grant.identity call.grant.nonce)))
    have second := Separator.rsplit_append front (clean call.authority.secret message)
    rw [← shown] at second
    have same := (Prod.mk.inj (Option.some.inj (second.symm.trans first))).2
    exact Stdlib.hexadecimal_injective _ (String.toList_injective same)
  refine ⟨approval, returned, unforged, ?_⟩
  refine (verify_iff_issued Stdlib.hexadecimal_hmac [call] unforged).mpr ⟨⟨call, ?_⟩, ?_⟩
  · exact ⟨by simp, rfl, returned, rfl, rfl, rfl, rfl, rfl, rfl, rfl, rfl, rfl, rfl⟩
  · have written : writable action.toJson = true := by decide
    exact ⟨SourceActionPlan.digested_eq_ok.mpr ⟨written, rfl⟩, rfl, rfl, le_refl (0 : Int),
      Int.one_pos, fun _ => rfl⟩

end DataHarness
