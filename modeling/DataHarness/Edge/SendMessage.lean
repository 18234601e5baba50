import DataHarness.Edge.Accepted

/-!
# Which delegations are answered

`A2A10ActionServer.handle` answers every message, unless it delegates an action and an exception
escapes that is no `DelegationRejected`. The source, the operation and the compensation are read
before the `try` in which the plan is made, so whatever their texts or the constructor of the
compensation raise escapes; inside it escapes what is neither a `TypeError` nor a `ValueError`, and
after it what the digest of the plan raises.
-/

namespace DataHarness

namespace A2AActionDelegationAdapter

/-- The errors that the server answers for its adapter. -/
def Refusal : AdapterError → Prop
  | .delegationRejected _ => True
  | _ => False

/-- An object of finite scalars; it may be empty. -/
def FiniteObject (value : Option PyValue) : Prop :=
  ∃ entries text, value = some (.mapping entries text) ∧
    ∀ entry ∈ entries, (∃ name, entry.1 = .str name) ∧ finiteScalar entry.2 = true

/-- An object without items. -/
def EmptyObject (value : Option PyValue) : Prop := ∃ text, value = some (.mapping [] text)

/-- The loop ends with a rejection only. -/
theorem scalarsFrom_guarded (result : Dict Scalar) (entries : Untrusted) :
    Guarded Refusal (scalarsFrom result entries) := by
  induction entries generalizing result with
  | nil => exact Guarded.ok result
  | cons entry entries ih =>
    obtain ⟨key, item⟩ := entry
    unfold scalarsFrom
    split
    · split
      · split
        · exact ih _
        · exact Guarded.error.mpr trivial
      · exact ih _
    · exact Guarded.error.mpr trivial

/-- The loop goes through the finite scalars. -/
theorem scalarsFrom_iff {result : Dict Scalar} {entries : Untrusted} :
    (∃ dict, scalarsFrom result entries = .ok dict) ↔
      ∀ entry ∈ entries, (∃ name, entry.1 = .str name) ∧ finiteScalar entry.2 = true := by
  induction entries generalizing result with
  | nil => simp [scalarsFrom]
  | cons entry entries ih =>
    rw [List.forall_mem_cons]
    by_cases fine : (∃ name, entry.1 = .str name) ∧ finiteScalar entry.2 = true
    · obtain ⟨key, item⟩ := entry
      obtain ⟨⟨name, rfl⟩, finite⟩ := fine
      cases own : item.scalar? with
      | none => simp [finiteScalar, own] at finite
      | some scalar =>
        rw [scalarsFrom_cons own finite, ih]
        simp [finite]
    · obtain ⟨failure, stopped⟩ := scalarsFrom_stops result entries fine
      apply iff_of_false
      · rintro ⟨dict, made⟩
        rw [stopped] at made
        cases made
      · intro scalars
        exact fine scalars.1

/-- What the loop has set stays set. -/
theorem scalarsFrom_ne_nil {result dict : Dict Scalar} {entries : Untrusted}
    (some : result.entries ≠ [] ∨ entries ≠ []) (made : scalarsFrom result entries = .ok dict) :
    dict.entries ≠ [] := by
  induction entries generalizing result with
  | nil =>
    rcases some with filled | nothing
    · rw [← Except.ok.inj made]
      exact filled
    · exact absurd rfl nothing
  | cons entry entries ih =>
    obtain ⟨key, item⟩ := entry
    unfold scalarsFrom at made
    split at made
    · split at made
      · split at made
        · exact ih (.inl (Dict.set_ne_nil _ _ _)) made
        · cases made
      · exact ih (.inl (Dict.set_ne_nil _ _ _)) made
    · cases made

/-- Scalars are refused with a rejection only. -/
theorem scalars_guarded (value : PyValue) : Guarded Refusal (scalars value) := by
  unfold scalars
  split
  · exact scalarsFrom_guarded _ _
  · exact Guarded.error.mpr trivial

/-- They go through for the objects of finite scalars. -/
theorem scalars_iff {value : PyValue} :
    (∃ dict, scalars value = .ok dict) ↔ FiniteObject (some value) := by
  unfold scalars FiniteObject
  split
  · rename_i entries text
    rw [scalarsFrom_iff]
    constructor
    · intro fine
      exact ⟨entries, text, rfl, fine⟩
    · intro ⟨_, _, same, fine⟩
      obtain ⟨rfl, rfl⟩ := PyValue.mapping.inj (Option.some.inj same)
      exact fine
  · rename_i other
    apply iff_of_false
    · intro ⟨dict, made⟩
      cases made
    · intro ⟨entries, text, same, _⟩
      exact other entries text (Option.some.inj same)

/-- They are empty where the object is. -/
theorem scalars_eq_nil {value : PyValue} {dict : Dict Scalar} (made : scalars value = .ok dict) :
    dict.entries = [] ↔ EmptyObject (some value) := by
  unfold scalars at made
  split at made
  · rename_i entries text
    constructor
    · intro empty
      by_cases nothing : entries = []
      · rw [nothing]
        exact ⟨text, rfl⟩
      · exact absurd empty (scalarsFrom_ne_nil (.inr nothing) made)
    · intro ⟨_, same⟩
      obtain ⟨rfl, rfl⟩ := PyValue.mapping.inj (Option.some.inj same)
      rw [← Except.ok.inj made]
      rfl
  · cases made

/-! ## Compensations -/

/-- A compensation of exact shape whose operation cannot be written, or which has finite scalars
but an empty part. -/
def Incomplete (value : PyValue) : Prop :=
  ∃ data text operation, value = .mapping data text ∧
    keysEqual data ["operation", "parameters", "preconditions"] = true ∧
    lookupKey "operation" data = some operation ∧
    (operation.Raises ∨ ∃ name, operation.told = .ok name ∧
      FiniteObject (lookupKey "parameters" data) ∧ FiniteObject (lookupKey "preconditions" data) ∧
      (name = "" ∨ EmptyObject (lookupKey "parameters" data) ∨
        EmptyObject (lookupKey "preconditions" data)))

/-- A compensation is guarded unless it is incomplete. -/
theorem compensation_guarded {value : PyValue} :
    Guarded Refusal (compensation value) ↔ ¬ Incomplete value := by
  have unstructured : (∀ data text, value ≠ .mapping data text) → ¬ Incomplete value := by
    rintro other ⟨data, text, _, same, _⟩
    exact other data text same
  cases value with
  | none => exact iff_of_true (Guarded.ok _) (unstructured fun _ _ same => by cases same)
  | mapping data text =>
    unfold compensation
    dsimp only
    by_cases exact : keysEqual data ["operation", "parameters", "preconditions"] = true
    · obtain ⟨operation, named⟩ := lookupKey_of_keysEqual exact (by simp : "operation" ∈ _)
      obtain ⟨given, parametrized⟩ := lookupKey_of_keysEqual exact (by simp : "parameters" ∈ _)
      obtain ⟨needed, conditioned⟩ := lookupKey_of_keysEqual exact (by simp : "preconditions" ∈ _)
      have incomplete : Incomplete (.mapping data text) ↔ operation.Raises ∨
          ∃ name, operation.told = .ok name ∧ FiniteObject (some given) ∧
            FiniteObject (some needed) ∧
            (name = "" ∨ EmptyObject (some given) ∨ EmptyObject (some needed)) := by
        rw [← parametrized, ← conditioned]
        constructor
        · rintro ⟨_, _, own, same, _, found, rest⟩
          obtain ⟨rfl, rfl⟩ := PyValue.mapping.inj same
          rw [named] at found
          rwa [Option.some.inj found]
        · intro rest
          exact ⟨data, text, operation, rfl, exact, named, rest⟩
      rw [if_neg (not_not.mpr exact), incomplete, parts_guarded named parametrized conditioned
        scalars_guarded scalars_guarded (by rintro (_ | _) <;> exact id), not_iff_not]
      apply or_congr Iff.rfl
      constructor
      · rintro ⟨name, parameters, preconditions, told, made, checked, empty⟩
        rw [scalars_eq_nil made, scalars_eq_nil checked] at empty
        exact ⟨name, told, scalars_iff.mp ⟨_, made⟩, scalars_iff.mp ⟨_, checked⟩, empty⟩
      · rintro ⟨name, told, first, second, empty⟩
        obtain ⟨parameters, made⟩ := scalars_iff.mpr first
        obtain ⟨preconditions, checked⟩ := scalars_iff.mpr second
        rw [← scalars_eq_nil made, ← scalars_eq_nil checked] at empty
        exact ⟨name, parameters, preconditions, told, made, checked, empty⟩
    · rw [if_pos exact]
      apply iff_of_true (Guarded.error.mpr trivial)
      rintro ⟨_, _, _, same, shape, _⟩
      rw [(PyValue.mapping.inj same).1] at exact
      exact exact shape
  | _ => exact iff_of_true (Guarded.error.mpr trivial) (unstructured fun _ _ same => by cases same)

/-- A compensation takes one step. -/
theorem compensation_takes {value : PyValue} :
    Takes Refusal (compensation value)
      [(CompensationAcceptable (some value) ∧ FiniteCompensation (some value),
        Incomplete value)] := by
  refine .one ?_ compensation_guarded
  simp only [compensation_eq_ok, exists_and_right, exists_declares_iff]

/-! ## Inside the `try` -/

/-- The errors that the `try` around a plan lets become a rejection, and those that are one. -/
def Caught : AdapterError → Prop
  | .delegationRejected _ | .valueError _ | .typeError _ => True
  | _ => False

/-- Around the `try`, a computation takes the steps it takes inside. -/
theorem asRejection_takes {α : Type} {ran : Except AdapterError α} {steps : List (Prop × Prop)}
    (takes : Takes Caught ran steps) : Takes Refusal (asRejection ran) steps where
  passes := by
    rw [← takes.passes]
    simp only [asRejection_iff]
  guarded := by
    rw [← takes.guarded]
    cases ran with
    | ok value => exact iff_of_true (Guarded.ok _) (Guarded.ok _)
    | error failure => cases failure <;> simp [asRejection, Refusal, Caught]

/-- A text before the `try` takes one step, which breaks whatever it raises. -/
theorem written_takes {value : PyValue} :
    Takes Refusal (written value.told) [(value.Written, value.Raises)] := by
  refine .one exists_written_iff ?_
  rw [written_guarded]
  have kinds : ∀ failure, ¬ Refusal (.ofWrite failure) := by rintro (_ | _) <;> exact id
  simp only [kinds, not_false_eq_true, and_true, PyValue.Raises]

/-- A text inside the `try` takes one step. -/
theorem caught_takes {value : PyValue} :
    Takes Caught (written value.told) [(value.Written, value.Escapes)] := by
  refine .one exists_written_iff ?_
  rw [written_guarded]
  have kinds : ∀ failure, Caught (.ofWrite failure) ↔ failure.Caught := by
    rintro (_ | _ | _ | _) <;> rfl
  simp only [kinds, PyValue.Escapes]

/-- Scalars inside the `try` take one step, which never breaks. -/
theorem scalars_takes {value : PyValue} :
    Takes Caught (scalars value) [(FiniteObject (some value), False)] := by
  refine .safe scalars_iff ?_
  intro error failed
  have refusal := scalars_guarded value error failed
  cases error <;> trivial

/-- A value of an enumeration takes one step, which never breaks. -/
theorem enumerated_takes {α : Type} {ofValue : String → Option α} {text : String} :
    Takes Caught (enumerated ofValue text) [((ofValue text).isSome = true, False)] := by
  unfold enumerated
  cases ofValue text with
  | some value => exact .safe (by simp) (Guarded.ok _)
  | none => exact .safe (by simp) (Guarded.error.mpr trivial)

/-- What is enumerated is of the text. -/
theorem enumerated_eq_ok {α : Type} {ofValue : String → Option α} {text : String} {value : α} :
    enumerated ofValue text = .ok value ↔ ofValue text = some value := by
  unfold enumerated
  cases ofValue text <;> simp

/-- A constructor of the action model takes one step, which never breaks. -/
theorem construct_takes {α : Type} {made : Except String α} {passes : Prop}
    (goes : (∃ value, made = .ok value) ↔ passes) :
    Takes Caught (construct made) [(passes, False)] := by
  refine .safe (by simpa only [construct_iff] using goes) ?_
  unfold construct
  rw [Guarded.mapError]
  exact fun _ _ => trivial

/-! ## Source actions -/

/-- What delegates no source action is rejected. -/
theorem sourceAction_refused {envelope : Untrusted} {identity : RequestIdentity}
    (none : ∀ action, ¬ Delegates envelope identity action) :
    ∃ message, sourceAction envelope identity = .error (.delegationRejected message) := by
  cases checked : sourceAction envelope identity with
  | ok action => exact absurd (sourceAction_eq_ok.mp checked) (none action)
  | error failure =>
    have guarded : Guarded Refusal (sourceAction envelope identity) := by
      unfold sourceAction
      repeat' split
      all_goals first
        | exact Guarded.error.mpr trivial
        | exact Guarded.ok _
    have refusal := guarded failure checked
    cases failure with
    | delegationRejected message => exact ⟨message, rfl⟩
    | _ => cases refusal

/-- The member of a source action under one of its keys. -/
def member (action : Untrusted) (key : String) : PyValue := (lookupKey key action).getD .none

/-- Every member of a source action is there. -/
theorem Delegates.item {envelope action : Untrusted} {identity : RequestIdentity}
    (delegates : Delegates envelope identity action) {key : String} (known : key ∈ actionKeys) :
    action.item key = .ok (member action key) := by
  obtain ⟨value, found⟩ := lookupKey_of_keysEqual delegates.keys known
  rw [Untrusted.item_eq_ok found, member, found, Option.getD_some]

/-- The texts of an action identify it, it has content, and its risk has the approval it needs. -/
structure Meets (action : Untrusted) : Prop where
  identity : ∀ key ∈ ["actionId", "sourceId", "assetId", "operation", "idempotencyKey", "purpose"],
    (member action key).text ≠ ""
  parameters : ¬ EmptyObject (some (member action "parameters"))
  preconditions : ¬ EmptyObject (some (member action "preconditions"))
  approval : ActionRisk.ofValue (member action "risk").text = some .high →
    ApprovalMode.ofValue (member action "approvalMode").text = some .human

/-- What an action meets, field by field. -/
theorem meets_iff {action : Untrusted} : Meets action ↔
    (∀ key ∈ ["actionId", "sourceId", "assetId", "operation", "idempotencyKey", "purpose"],
      (member action key).text ≠ "") ∧
      (¬ EmptyObject (some (member action "parameters")) ∧
        ¬ EmptyObject (some (member action "preconditions"))) ∧
      (ActionRisk.ofValue (member action "risk").text = some .high →
        ApprovalMode.ofValue (member action "approvalMode").text = some .human) := by
  constructor
  · intro meets
    exact ⟨meets.identity, ⟨meets.parameters, meets.preconditions⟩, meets.approval⟩
  · intro ⟨identity, ⟨parameters, preconditions⟩, approval⟩
    exact ⟨identity, parameters, preconditions, approval⟩

/-- The objects of an action have an integer that is too long to be written. -/
def Long (action : Untrusted) : Prop :=
  (member action "parameters").Long ∨ (member action "preconditions").Long ∨
    LongCompensation (some (member action "compensation"))

/-- The steps in which a source action becomes a plan with a digest, in their order: of each what it
needs to go through, and what breaks it. The first four come before the `try`. -/
def steps (adapter : A2AActionDelegationAdapter) (action : Untrusted) : List (Prop × Prop) :=
  [((member action "sourceId").Written, (member action "sourceId").Raises),
    ((member action "operation").Written, (member action "operation").Raises),
    (((member action "sourceId").text, (member action "operation").text) ∈
      adapter.allowedOperations, False),
    (CompensationAcceptable (some (member action "compensation")) ∧
      FiniteCompensation (some (member action "compensation")),
      Incomplete (member action "compensation")),
    ((member action "actionId").Written, (member action "actionId").Escapes),
    ((member action "assetId").Written, (member action "assetId").Escapes),
    (FiniteObject (some (member action "parameters")), False),
    (FiniteObject (some (member action "preconditions")), False),
    ((member action "idempotencyKey").Written, (member action "idempotencyKey").Escapes),
    ((member action "risk").Written, (member action "risk").Escapes),
    ((ActionRisk.ofValue (member action "risk").text).isSome = true, False),
    ((member action "approvalMode").Written, (member action "approvalMode").Escapes),
    ((ApprovalMode.ofValue (member action "approvalMode").text).isSome = true, False),
    ((member action "purpose").Written, (member action "purpose").Escapes),
    (Meets action, False),
    (¬ Long action, Long action)]

variable {adapter : A2AActionDelegationAdapter} {envelope action : Untrusted}
  {identity : RequestIdentity}

/-- A delegated action is read as it is. -/
theorem toActionPlan_eq (delegates : Delegates envelope identity action) :
    adapter.toActionPlan envelope identity = (do
      let sourceId ← written (member action "sourceId").told
      let operation ← written (member action "operation").told
      if (sourceId, operation) ∉ adapter.allowedOperations then
        .error (.delegationRejected "delegated operation is not exposed by this adapter")
      else do
        let declared ← compensation (member action "compensation")
        asRejection (do
          let actionId ← written (member action "actionId").told
          let assetId ← written (member action "assetId").told
          let parameters ← scalars (member action "parameters")
          let preconditions ← scalars (member action "preconditions")
          let idempotencyKey ← written (member action "idempotencyKey").told
          let riskText ← written (member action "risk").told
          let risk ← enumerated ActionRisk.ofValue riskText
          let modeText ← written (member action "approvalMode").told
          let approvalMode ← enumerated ApprovalMode.ofValue modeText
          let purpose ← written (member action "purpose").told
          construct (SourceActionPlan.make actionId sourceId assetId operation parameters
            preconditions idempotencyKey risk approvalMode purpose declared))) := by
  have items : ∀ key ∈ actionKeys, action.item key = .ok (member action key) :=
    fun _ => delegates.item
  simp only [actionKeys, List.forall_mem_cons] at items
  unfold toActionPlan plan
  simp only [sourceAction_eq_ok.mpr delegates, items, ok_bind]

/-- The objects of a plan have an integer that is too long exactly when those of its action do. -/
theorem writable_iff (delegates : Delegates envelope identity action) {plan : SourceActionPlan}
    (accepted : adapter.toActionPlan envelope identity = .ok plan) :
    writable plan.toJson = true ↔ ¬ Long action := by
  rw [toActionPlan_eq delegates] at accepted
  simp only [bind_ok_iff] at accepted
  obtain ⟨sourceId, _, operation, _, accepted⟩ := accepted
  split at accepted
  · cases accepted
  simp only [bind_ok_iff, asRejection_iff, compensation_eq_ok, scalars_eq_ok, construct_iff]
    at accepted
  obtain ⟨declared, ⟨declares, _⟩, actionId, _, assetId, _, parameters, ⟨reads, _⟩, preconditions,
    ⟨checks, _⟩, idempotencyKey, _, _, _, risk, _, _, _, mode, _, purpose, _, made⟩ := accepted
  exact SourceActionPlan.writable_iff made reads checks declares

variable [Stdlib]

/-- A delegated action takes its steps. -/
theorem toActionPlan_takes (delegates : Delegates envelope identity action) :
    Takes Refusal (adapter.toActionPlan envelope identity >>= NorthboundActionAdapter.digestTaken)
      (adapter.steps action) := by
  have planned : Takes Refusal (adapter.toActionPlan envelope identity)
      (adapter.steps action).dropLast := by
    rw [toActionPlan_eq delegates]
    refine .bind written_takes fun sourceId source => ?_
    refine .bind written_takes fun operation named => ?_
    rw [written_eq_ok] at source named
    have exposed : ¬ (sourceId, operation) ∉ adapter.allowedOperations ↔
        ((member action "sourceId").text, (member action "operation").text) ∈
          adapter.allowedOperations := by
      rw [PyValue.text_of_told source, PyValue.text_of_told named, not_not]
    refine .check exposed trivial fun _ => ?_
    refine .bind compensation_takes fun declared _ => asRejection_takes ?_
    refine .bind caught_takes fun actionId own => ?_
    refine .bind caught_takes fun assetId asset => ?_
    refine .bind scalars_takes fun parameters made => ?_
    refine .bind scalars_takes fun preconditions checked => ?_
    refine .bind caught_takes fun idempotencyKey bound => ?_
    refine .bind caught_takes fun riskText risky => ?_
    rw [written_eq_ok] at own asset bound risky
    rw [PyValue.text_of_told risky]
    refine .bind enumerated_takes fun risk chosen => ?_
    refine .bind caught_takes fun modeText approved => ?_
    rw [written_eq_ok] at approved
    rw [PyValue.text_of_told approved]
    refine .bind enumerated_takes fun mode granted => ?_
    refine .bind caught_takes fun purpose meant => construct_takes ?_
    rw [written_eq_ok] at meant
    rw [enumerated_eq_ok] at chosen granted
    have texts : (∀ value ∈ [actionId, sourceId, assetId, operation, idempotencyKey, purpose],
        value ≠ "") ↔ ∀ key ∈ ["actionId", "sourceId", "assetId", "operation", "idempotencyKey",
          "purpose"], (member action key).text ≠ "" := by
      simp only [List.forall_mem_cons, PyValue.text_of_told own, PyValue.text_of_told source,
        PyValue.text_of_told asset, PyValue.text_of_told named, PyValue.text_of_told bound,
        PyValue.text_of_told meant]
      simp
    rw [SourceActionPlan.exists_make_iff, meets_iff, texts, Ne, scalars_eq_nil made, Ne,
      scalars_eq_nil checked, PyValue.text_of_told risky, PyValue.text_of_told approved, chosen,
      granted, Option.some_inj, Option.some_inj]
  refine planned.bind fun plan accepted =>
    NorthboundActionAdapter.digestTaken_takes (by rintro (_ | _) <;> exact id)
      (writable_iff delegates accepted)

omit [Stdlib] in
/-- An envelope delegates one action only. -/
theorem Delegates.unique {other : Untrusted} (first : Delegates envelope identity action)
    (second : Delegates envelope identity other) : action = other := by
  obtain ⟨_, found⟩ := first.sourceAction
  obtain ⟨_, also⟩ := second.sourceAction
  rw [found] at also
  exact (PyValue.mapping.inj (Option.some.inj also)).1

/-- A delegated action breaks on its way to a plan with a digest. -/
def Escapes (adapter : A2AActionDelegationAdapter) (envelope : Untrusted)
    (identity : RequestIdentity) : Prop :=
  ∃ action, Delegates envelope identity action ∧ Breaks (adapter.steps action)

/-- A plan with its digest is guarded unless the delegation escapes. -/
theorem toActionPlan_guarded :
    Guarded Refusal
        (adapter.toActionPlan envelope identity >>= NorthboundActionAdapter.digestTaken) ↔
      ¬ adapter.Escapes envelope identity := by
  by_cases given : ∃ action, Delegates envelope identity action
  · obtain ⟨action, delegates⟩ := given
    rw [(toActionPlan_takes delegates).guarded, not_iff_not]
    constructor
    · intro breaks
      exact ⟨action, delegates, breaks⟩
    · rintro ⟨other, also, breaks⟩
      rwa [delegates.unique also]
  · obtain ⟨message, refused⟩ := sourceAction_refused (not_exists.mp given)
    unfold toActionPlan
    rw [refused]
    apply iff_of_true
    · exact Guarded.bind_error rfl (Guarded.error.mpr trivial)
    · rintro ⟨action, delegates, _⟩
      exact given ⟨action, delegates⟩

end A2AActionDelegationAdapter

/-! ## The server -/

namespace A2A10ActionServer

/-- The errors that `handle` answers. -/
def Refusal : ProfileError → Prop
  | .protocolProfileRejected _ _ => True
  | .adapter error => A2AActionDelegationAdapter.Refusal error

/-- A computation of the adapter is guarded in the profile as it is by itself. -/
theorem profiled_guarded {α : Type} {ran : Except AdapterError α} :
    Guarded Refusal (profiled ran) ↔ Guarded A2AActionDelegationAdapter.Refusal ran :=
  Guarded.mapError

/-- A key of a mapping with exact keys is read. -/
theorem item_of_keysEqual {mapping : Untrusted} {texts : List String} {key : String}
    (exact : keysEqual mapping texts = true) (member : key ∈ texts) :
    ∃ value, profiled (mapping.item key) = .ok value := by
  obtain ⟨value, found⟩ := lookupKey_of_keysEqual exact member
  rw [Untrusted.item_eq_ok found]
  exact ⟨value, rfl⟩

/-- The checks up to the delegation end with a rejection of the profile only. -/
theorem delegation_error {lower : String → String} {headers : List (String × String)}
    {request : Untrusted} {failure : ProfileError}
    (failed : delegation lower headers request = .error failure) :
    ∃ code message, failure = .protocolProfileRejected code message := by
  unfold delegation at failed
  split at failed
  · exact ⟨_, _, (Except.error.inj failed).symm⟩
  · split at failed
    · exact ⟨_, _, (Except.error.inj failed).symm⟩
    · rename_i accepted
      rw [not_or] at accepted
      obtain ⟨params, given⟩ :=
        item_of_keysEqual (not_not.mp accepted.1) (by simp : "params" ∈ _)
      rw [given] at failed
      simp only [bind, Except.bind] at failed
      split at failed
      · split at failed
        · exact ⟨_, _, (Except.error.inj failed).symm⟩
        · rename_i exact
          obtain ⟨message, sent⟩ :=
            item_of_keysEqual (not_not.mp exact) (by simp : "message" ∈ _)
          rw [sent] at failed
          simp only at failed
          split at failed
          · split at failed
            · exact ⟨_, _, (Except.error.inj failed).symm⟩
            · rename_i shape
              rw [not_or] at shape
              obtain ⟨parts, listed⟩ :=
                item_of_keysEqual (not_not.mp shape.1) (by simp : "parts" ∈ _)
              rw [listed] at failed
              simp only at failed
              repeat' split at failed
              all_goals first
                | exact ⟨_, _, (Except.error.inj failed).symm⟩
                | cases failed
          · exact ⟨_, _, (Except.error.inj failed).symm⟩
      · exact ⟨_, _, (Except.error.inj failed).symm⟩

variable [Stdlib]

section Handle

variable {server : A2A10ActionServer} {lower : String → String}
  {headers : List (String × String)} {request data : Untrusted} {identity : RequestIdentity}
  {messageId : String}

/-- A delegation that gives a plan with a digest is answered with it. -/
theorem handle_of_plan {plan : SourceActionPlan}
    (sent : delegation lower headers request = .ok (messageId, data))
    (planned : (server.adapter.toActionPlan data identity >>=
      NorthboundActionAdapter.digestTaken) = .ok plan) :
    server.handle lower headers request identity =
      .ok ⟨lookupKey "id" request, .ok (delegated messageId plan)⟩ := by
  have ran : server.result lower headers request identity = .ok (delegated messageId plan) := by
    unfold result
    rw [sent, ok_bind]
    dsimp only
    rw [planned]
    rfl
  unfold handle
  rw [ran]

/-- A delegation that ends with an error ends the request with it. -/
theorem result_of_error {failure : AdapterError}
    (sent : delegation lower headers request = .ok (messageId, data))
    (planned : (server.adapter.toActionPlan data identity >>=
      NorthboundActionAdapter.digestTaken) = .error failure) :
    server.result lower headers request identity = .error (.adapter failure) := by
  unfold result
  rw [sent, ok_bind]
  dsimp only
  rw [planned]
  rfl

end Handle

/-- A request is answered, and a delegation that gives no plan with the error -32602. -/
def Responds (server : A2A10ActionServer) (lower : String → String)
    (headers : List (String × String)) (request : Untrusted) (identity : RequestIdentity) : Prop :=
  Responded request (server.handle lower headers request identity) ∧
    ∀ messageId data, delegation lower headers request = .ok (messageId, data) →
      (∀ plan, server.adapter.toActionPlan data identity ≠ .ok plan) →
      ∃ response message, server.handle lower headers request identity = .ok response ∧
        response.answer = .error (-32602, message)

/-- The server answers every request, and every delegation that gives no plan with the error
-32602, unless the request delegates an action that breaks. -/
theorem responds_iff (server : A2A10ActionServer) (lower : String → String)
    (headers : List (String × String)) (request : Untrusted) (identity : RequestIdentity) :
    server.Responds lower headers request identity ↔
      ¬ ∃ messageId data, delegation lower headers request = .ok (messageId, data) ∧
        server.adapter.Escapes data identity := by
  have response : ∀ answer : Except (Int × String) Json.Value,
      Responded request (.ok ⟨lookupKey "id" request, answer⟩ :
        Except ProfileError NorthboundResponse) :=
    fun answer => ⟨_, rfl, rfl, NorthboundResponse.result_xor_error _⟩
  unfold Responds
  cases sent : delegation lower headers request with
  | error failure =>
    obtain ⟨code, message, rfl⟩ := delegation_error sent
    have ran : server.result lower headers request identity =
        .error (.protocolProfileRejected code message) := by
      unfold result
      rw [sent]
      rfl
    apply iff_of_true
    · constructor
      · unfold handle
        rw [ran]
        exact response _
      · intro messageId data found
        cases found
    · intro ⟨_, _, found, _⟩
      cases found
  | ok message =>
    obtain ⟨messageId, data⟩ := message
    have escapes : (∃ ownId own, (Except.ok (messageId, data) :
        Except ProfileError (String × Untrusted)) = .ok (ownId, own) ∧
        server.adapter.Escapes own identity) ↔ server.adapter.Escapes data identity := by
      constructor
      · intro ⟨_, own, same, escaping⟩
        obtain ⟨-, rfl⟩ := Prod.mk.inj (Except.ok.inj same)
        exact escaping
      · intro escaping
        exact ⟨messageId, data, rfl, escaping⟩
    rw [escapes, ← A2AActionDelegationAdapter.toActionPlan_guarded]
    cases planned : server.adapter.toActionPlan data identity >>=
      NorthboundActionAdapter.digestTaken with
    | ok plan =>
      rw [handle_of_plan sent planned]
      apply iff_of_true
      · constructor
        · exact response _
        · intro _ own same unplanned
          obtain ⟨-, rfl⟩ := Prod.mk.inj (Except.ok.inj same)
          obtain ⟨first, accepted, _⟩ := of_bind_ok planned
          exact absurd accepted (unplanned first)
      · exact Guarded.ok plan
    | error failure =>
      rw [Guarded.error]
      unfold handle
      rw [result_of_error sent planned]
      cases failure with
      | delegationRejected message =>
        apply iff_of_true
        · constructor
          · exact response _
          · intro _ _ _ _
            exact ⟨_, message, rfl, rfl⟩
        · exact trivial
      | _ =>
        apply iff_of_false
        · intro ⟨⟨_, answered, _⟩, _⟩
          cases answered
        · exact id

/-- A server for small requests. -/
def small : A2A10ActionServer := ⟨.small⟩

/-- A message that delegates an action with a compensation. -/
def message (operation : String) : Untrusted :=
  [(.str "jsonrpc", .str "2.0"), (.str "id", .str "call"), (.str "method", .str "SendMessage"),
    (.str "params", .mapping [(.str "message", .mapping [(.str "messageId", .str "message"),
      (.str "role", .str "ROLE_USER"),
      (.str "parts", .sequence [.mapping [
        (.str "data", .mapping (A2AActionDelegationAdapter.delegated operation) ""),
        (.str "mediaType", .str "application/json")] ""] "")] "")] "")]

omit [Stdlib] in
/-- A delegation whose compensation names the empty operation is not answered. -/
theorem message_escaped :
    letI := Stdlib.transparent
    ¬ small.Responds id [("a2a-version", "1.0")] (message "") .small :=
  let := Stdlib.transparent
  fun responds => not_responded (by decide +kernel) responds.1

end A2A10ActionServer

end DataHarness
