import DataHarness.Edge.Payload

/-!
# Which requests are answered

The adapters answer a request with a result or an error object, unless an exception that they do
not map escapes. There are five places for one: a request whose envelope is accepted but names no
method, the text of the operation of a compensation and the constructor of that compensation, which
come before the `try` around the plan, the texts inside it, where they raise neither a `TypeError`
nor a `ValueError`, and the digest of the plan after it. Everything else that is malformed, at any
depth, is answered.
-/

namespace DataHarness

/-- A request is dispatched by its method without an escape unless it names none, or is a call that
escapes. -/
theorem methods_guarded {ε : Type} {kind : ε → Prop} (request : Untrusted)
    {read : Except ε PyValue} {listed called refused : Except ε Json.Value} {escapes : Prop}
    (missing : lookupKey "method" request = none → ¬ Guarded kind read)
    (found : ∀ method, lookupKey "method" request = some method → read = .ok method)
    (lists : Guarded kind listed)
    (calls : ∀ method, lookupKey "method" request = some method →
      method.equals "tools/call" = true → (Guarded kind called ↔ ¬ escapes))
    (others : Guarded kind refused) :
    Guarded kind (read >>= fun method =>
      if method.equals "tools/list" then listed
      else if method.equals "tools/call" then called else refused) ↔
      ¬ (lookupKey "method" request = none ∨
        (lookupKey "method" request).any (·.equals "tools/call") = true ∧ escapes) := by
  cases named : lookupKey "method" request with
  | none =>
    apply iff_of_false
    · intro guarded
      exact missing named (Guarded.bind.mp guarded).1
    · intro answered
      exact answered (.inl rfl)
  | some method =>
    rw [Guarded.bind_ok (found method named), Option.any_some]
    by_cases list : method.equals "tools/list" = true
    · have other : ¬ method.equals "tools/call" = true := by
        intro call
        exact absurd (PyValue.equals_unique list call) (by decide)
      rw [if_pos list]
      apply iff_of_true lists
      simp [other]
    · rw [if_neg list]
      by_cases call : method.equals "tools/call" = true
      · rw [if_pos call, calls method named call]
        simp [call]
      · rw [if_neg call]
        apply iff_of_true others
        simp [call]

/-- A compensation that has its three parts is read without an escape unless its operation raises,
or its objects are read and one of the parts is empty. -/
theorem parts_guarded {kind : AdapterError → Prop} {data : Untrusted}
    {operation given needed : PyValue} (named : lookupKey "operation" data = some operation)
    (parametrized : lookupKey "parameters" data = some given)
    (conditioned : lookupKey "preconditions" data = some needed)
    {first second : PyValue → Except AdapterError (Dict Scalar)}
    (reads : ∀ value, Guarded kind (first value)) (checks : ∀ value, Guarded kind (second value))
    (escapes : ∀ failure, ¬ kind (.ofWrite failure)) :
    Guarded kind (do
      let operation ← written (← Untrusted.item data "operation").told
      let parameters ← first (← Untrusted.item data "parameters")
      let preconditions ← second (← Untrusted.item data "preconditions")
      let spec ← construct (CompensationSpec.make operation parameters preconditions)
      .ok (some spec)) ↔
      ¬ (operation.Raises ∨ ∃ name parameters preconditions, operation.told = .ok name ∧
        first given = .ok parameters ∧ second needed = .ok preconditions ∧
          (name = "" ∨ parameters.entries = [] ∨ preconditions.entries = [])) := by
  rw [Guarded.bind_ok (Untrusted.item_eq_ok named)]
  cases told : operation.told with
  | error failure =>
    apply iff_of_false
    · intro guarded
      exact escapes failure (guarded (.ofWrite failure) rfl)
    · intro answered
      exact answered (.inl ⟨failure, told⟩)
  | ok name =>
    have quiet : ¬ operation.Raises := fun raises => raises.not_written ⟨name, told⟩
    rw [Guarded.bind_ok (written_eq_ok.mpr rfl),
      Guarded.bind_ok (Untrusted.item_eq_ok parametrized)]
    cases made : first given with
    | error failure =>
      apply iff_of_true
      · exact Guarded.bind_error rfl (made ▸ reads given)
      · simp [quiet]
    | ok parameters =>
      rw [Guarded.bind_ok rfl, Guarded.bind_ok (Untrusted.item_eq_ok conditioned)]
      cases checked : second needed with
      | error failure =>
        apply iff_of_true
        · exact Guarded.bind_error rfl (checked ▸ checks needed)
        · simp [quiet]
      | ok preconditions =>
        rw [Guarded.bind_ok rfl]
        by_cases required : name ≠ "" ∧ parameters.entries ≠ [] ∧ preconditions.entries ≠ []
        · simp [CompensationSpec.make, construct, Except.mapError, required, bind, Except.bind,
            quiet]
        · have empty : name = "" ∨ parameters.entries = [] ∨ preconditions.entries = [] := by
            by_contra full
            rw [not_or, not_or] at full
            exact required full
          have refused := escapes (.valueError
            "compensation requires operation, parameters and preconditions")
          rw [AdapterError.ofWrite] at refused
          simp [CompensationSpec.make, construct, Except.mapError, required, bind, Except.bind,
            empty, refused]

/-! ## The northbound adapter -/

namespace NorthboundActionAdapter

/-- The errors that `handle` answers. -/
def Refusal : AdapterError → Prop
  | .protocolRequestRejected _ _ => True
  | _ => False

/-- A mapping of scalars is refused with a rejection only. -/
theorem scalarMapping_guarded (value : PyValue) (name : String) :
    Guarded Refusal (scalarMapping value name) := by
  unfold scalarMapping
  split
  · split
    · exact Guarded.ok _
    · exact Guarded.error.mpr trivial
  · exact Guarded.error.mpr trivial

/-- A mapping of scalars takes one step, which never breaks. -/
theorem scalarMapping_takes {value : PyValue} (name : String) :
    Takes Refusal (scalarMapping value name) [(ScalarObject (some value), False)] :=
  .safe scalarMapping_iff (scalarMapping_guarded value name)

/-- A compensation of exact shape whose operation cannot be written, or is empty beside two
non-empty objects of scalars. -/
def CompensationBreaks (value : Option PyValue) : Prop :=
  ∃ data text operation, value = some (.mapping data text) ∧
    keysEqual data ["operation", "parameters", "preconditions"] = true ∧
    lookupKey "operation" data = some operation ∧
    (operation.Raises ∨ operation.told = .ok "" ∧
      ScalarObject (lookupKey "parameters" data) ∧ ScalarObject (lookupKey "preconditions" data))

/-- What is no object of a compensation does not break. -/
theorem not_compensationBreaks {value : Option PyValue}
    (other : ∀ data text, value = some (.mapping data text) →
      ¬ keysEqual data ["operation", "parameters", "preconditions"] = true) :
    ¬ CompensationBreaks value := by
  rintro ⟨data, text, _, same, exact, _⟩
  exact other data text same exact

/-- A compensation is guarded unless it breaks. -/
theorem compensation_guarded {value : Option PyValue} :
    Guarded Refusal (compensation value) ↔ ¬ CompensationBreaks value := by
  unfold compensation
  split
  · exact iff_of_true (Guarded.ok _) (not_compensationBreaks (by simp))
  · exact iff_of_true (Guarded.ok _) (not_compensationBreaks (by simp))
  · rename_i data text
    by_cases exact : keysEqual data ["operation", "parameters", "preconditions"] = true
    · obtain ⟨operation, named⟩ := lookupKey_of_keysEqual exact (by simp : "operation" ∈ _)
      obtain ⟨given, parametrized⟩ := lookupKey_of_keysEqual exact (by simp : "parameters" ∈ _)
      obtain ⟨needed, conditioned⟩ := lookupKey_of_keysEqual exact (by simp : "preconditions" ∈ _)
      have breaks : CompensationBreaks (some (.mapping data text)) ↔
          operation.Raises ∨ operation.told = .ok "" ∧ ScalarObject (some given) ∧
            ScalarObject (some needed) := by
        rw [← parametrized, ← conditioned]
        constructor
        · rintro ⟨_, _, own, same, _, found, rest⟩
          obtain ⟨rfl, rfl⟩ := PyValue.mapping.inj (Option.some.inj same)
          rw [named] at found
          rwa [Option.some.inj found]
        · intro rest
          exact ⟨data, text, operation, rfl, exact, named, rest⟩
      rw [if_neg (not_not.mpr exact), breaks, parts_guarded named parametrized conditioned
        (scalarMapping_guarded · _) (scalarMapping_guarded · _) (by rintro (_ | _) <;> exact id),
        not_iff_not]
      apply or_congr Iff.rfl
      constructor
      · intro ⟨name, parameters, preconditions, told, made, checked, empty⟩
        refine ⟨?_, scalarMapping_iff.mp ⟨_, made⟩, scalarMapping_iff.mp ⟨_, checked⟩⟩
        have nameless : name = "" := by
          apply empty.resolve_right
          intro nothing
          exact nothing.elim (ne_nil_of_scalarMapping made) (ne_nil_of_scalarMapping checked)
        rw [told, nameless]
      · intro ⟨told, first, second⟩
        obtain ⟨parameters, made⟩ := scalarMapping_iff.mpr first
        obtain ⟨preconditions, checked⟩ := scalarMapping_iff.mpr second
        exact ⟨"", parameters, preconditions, told, made, checked, .inl rfl⟩
    · rw [if_pos exact]
      apply iff_of_true (Guarded.error.mpr trivial)
      apply not_compensationBreaks
      intro _ _ same
      rwa [← (PyValue.mapping.inj (Option.some.inj same)).1]
  · rename_i unstructured
    apply iff_of_true (Guarded.error.mpr trivial)
    apply not_compensationBreaks
    intro data text same
    exact absurd same (unstructured data text)

/-- A compensation is what the value declares. -/
theorem compensation_eq_ok {value : Option PyValue} {declared : Option CompensationSpec} :
    compensation value = .ok declared ↔ Declares value declared := by
  unfold compensation
  split
  · rw [declares_of_missing (.inl rfl), Except.ok.injEq, eq_comm]
  · rw [declares_of_missing (.inr rfl), Except.ok.injEq, eq_comm]
  · rename_i data text
    rw [declares_mapping_iff]
    by_cases shape : keysEqual data ["operation", "parameters", "preconditions"] = true
    · rw [if_neg (not_not.mpr shape), and_iff_right shape]
      simp only [bind_ok_iff, Untrusted.item_iff, written_eq_ok, scalarMapping_eq_ok,
        construct_iff]
      constructor
      · rintro ⟨operation, named, name, told, given, parametrized, parameters, ⟨reads, _⟩, needed,
          conditioned, preconditions, ⟨checks, _⟩, spec, made, same⟩
        exact ⟨operation, given, needed, name, parameters, preconditions, spec, named, parametrized,
          conditioned, reads, checks, told, made, (Except.ok.inj same).symm⟩
      · rintro ⟨operation, given, needed, name, parameters, preconditions, spec, named,
          parametrized, conditioned, reads, checks, told, made, rfl⟩
        obtain ⟨required, _⟩ := CompensationSpec.of_make made
        exact ⟨operation, named, name, told, given, parametrized, parameters, ⟨reads, required.2.1⟩,
          needed, conditioned, preconditions, ⟨checks, required.2.2⟩, spec, made, rfl⟩
    · rw [if_pos shape]
      apply iff_of_false
      · intro accepted
        cases accepted
      · exact fun declares => shape declares.1
  · rename_i absent null unstructured
    apply iff_of_false
    · intro accepted
      cases accepted
    · exact not_declares absent null unstructured

/-- A compensation takes one step. -/
theorem compensation_takes {value : Option PyValue} :
    Takes Refusal (compensation value)
      [(CompensationAcceptable value, CompensationBreaks value)] :=
  .one (by simp only [compensation_eq_ok, exists_declares_iff]) compensation_guarded

/-- What the action model refuses is the only thing that is refused in its place. -/
theorem asRejection_iff {α : Type} {made : Except AdapterError α} {value : α} :
    asRejection made = .ok value ↔ made = .ok value := by
  unfold asRejection
  split <;> simp

/-- The errors that the `try` around a plan lets become a rejection, and those that are one. -/
def Caught : AdapterError → Prop
  | .protocolRequestRejected _ _ | .valueError _ | .typeError _ => True
  | _ => False

/-- Around the `try`, a computation takes the steps it takes inside. -/
theorem asRejection_takes {α : Type} {ran : Except AdapterError α} {steps : List (Prop × Prop)}
    (takes : Takes Caught ran steps) : Takes Refusal (asRejection ran) steps where
  passes := by
    rw [← takes.passes]
    simp only [asRejection_iff]
  guarded := by
    rw [← takes.guarded]
    cases ran with
    | ok value => exact iff_of_true (Guarded.ok _) (Guarded.ok _)
    | error failure => cases failure <;> simp [asRejection, Refusal, Caught]

/-- A text inside the `try` takes one step. -/
theorem written_takes {value : PyValue} :
    Takes Caught (written value.told) [(value.Written, value.Escapes)] := by
  refine .one exists_written_iff ?_
  rw [written_guarded]
  unfold PyValue.Escapes
  have kinds : ∀ failure, Caught (.ofWrite failure) ↔ failure.Caught := by
    rintro (_ | _ | _ | _) <;> rfl
  simp only [kinds]

/-- A constructor of the action model inside the `try` takes one step, which never breaks. -/
theorem construct_takes {α : Type} {made : Except String α} {passes : Prop}
    (goes : (∃ value, made = .ok value) ↔ passes) :
    Takes Caught (construct made) [(passes, False)] := by
  refine .safe (by simpa only [construct_iff] using goes) ?_
  unfold construct
  rw [Guarded.mapError]
  exact fun _ _ => trivial

/-- The arguments of a call hold a payload and nothing else. -/
structure Holds (arguments : Untrusted) (payload : ActionPayload) : Prop where
  known : keysSubset arguments ["actionId", "parameters", "preconditions", "idempotencyKey",
    "compensation"] = true
  actionId : lookupKey "actionId" arguments = some payload.actionId
  parameters : lookupKey "parameters" arguments = some payload.parameters
  preconditions : lookupKey "preconditions" arguments = some payload.preconditions
  idempotencyKey : lookupKey "idempotencyKey" arguments = some payload.idempotencyKey
  compensation : lookupKey "compensation" arguments = payload.compensation

/-- Arguments hold one payload only. -/
theorem Holds.unique {arguments : Untrusted} {one other : ActionPayload}
    (first : Holds arguments one) (second : Holds arguments other) : one = other := by
  have actionId := first.actionId.symm.trans second.actionId
  have parameters := first.parameters.symm.trans second.parameters
  have preconditions := first.preconditions.symm.trans second.preconditions
  have idempotencyKey := first.idempotencyKey.symm.trans second.idempotencyKey
  have compensation := first.compensation.symm.trans second.compensation
  cases one
  cases other
  simp_all

/-- The steps in which the arguments of a call become the plan of a tool with a digest, in their
order: of each what it needs to go through, and what breaks it. -/
def steps (payload : ActionPayload) (tool : NorthboundTool) : List (Prop × Prop) :=
  [(ScalarObject (some payload.parameters), False),
    (ScalarObject (some payload.preconditions), False),
    (CompensationAcceptable payload.compensation, CompensationBreaks payload.compensation),
    (payload.actionId.Written, payload.actionId.Escapes),
    (payload.idempotencyKey.Written, payload.idempotencyKey.Escapes),
    (payload.actionId.text ≠ "" ∧ payload.idempotencyKey.text ≠ "" ∧
      (tool.risk = .high → tool.approvalMode = .human), False),
    (¬ payload.Long, payload.Long)]

variable {arguments : Untrusted} {payload : ActionPayload} {tool : NorthboundTool}

/-- The arguments of a payload are read as it is. -/
theorem plan_eq (holds : Holds arguments payload) :
    plan tool arguments = (do
      let parameters ← scalarMapping payload.parameters "parameters"
      let preconditions ← scalarMapping payload.preconditions "preconditions"
      let declared ← compensation payload.compensation
      asRejection (do
        let actionId ← written payload.actionId.told
        let idempotencyKey ← written payload.idempotencyKey.told
        construct (SourceActionPlan.make actionId tool.sourceId tool.assetId tool.operation
          parameters preconditions idempotencyKey tool.risk tool.approvalMode tool.purpose
          declared))) := by
  have complete : ["actionId", "parameters", "preconditions", "idempotencyKey"].all
      (fun key => (lookupKey key arguments).isSome) = true := by
    simp [holds.actionId, holds.parameters, holds.preconditions, holds.idempotencyKey]
  unfold plan construction
  rw [if_neg (by simp only [holds.known, complete, not_true_eq_false, or_self, not_false_eq_true])]
  simp only [Untrusted.item_eq_ok holds.actionId, Untrusted.item_eq_ok holds.parameters,
    Untrusted.item_eq_ok holds.preconditions, Untrusted.item_eq_ok holds.idempotencyKey,
    holds.compensation]
  rfl

/-- Arguments without a payload are refused. -/
theorem plan_refused (empty : ∀ payload, ¬ Holds arguments payload) :
    ∃ code message, plan tool arguments = .error (.protocolRequestRejected code message) := by
  unfold plan
  split
  · exact ⟨_, _, rfl⟩
  · rename_i complete
    rw [not_or, not_not, not_not, List.all_eq_true] at complete
    obtain ⟨known, required⟩ := complete
    obtain ⟨actionId, named⟩ := Option.isSome_iff_exists.mp (required "actionId" (by simp))
    obtain ⟨given, parametrized⟩ := Option.isSome_iff_exists.mp (required "parameters" (by simp))
    obtain ⟨needed, conditioned⟩ :=
      Option.isSome_iff_exists.mp (required "preconditions" (by simp))
    obtain ⟨idempotencyKey, bound⟩ :=
      Option.isSome_iff_exists.mp (required "idempotencyKey" (by simp))
    exact absurd ⟨known, named, parametrized, conditioned, bound, rfl⟩
      (empty ⟨actionId, idempotencyKey, given, needed, lookupKey "compensation" arguments⟩)

/-- A call gives a plan exactly when its arguments hold a payload that gives it. -/
theorem plan_eq_ok {made : SourceActionPlan} :
    plan tool arguments = .ok made ↔
      ∃ payload, Holds arguments payload ∧ payload.Gives tool made := by
  have gives : ∀ {payload : ActionPayload}, Holds arguments payload →
      (plan tool arguments = .ok made ↔ payload.Gives tool made) := by
    intro payload holds
    rw [plan_eq holds]
    simp only [bind_ok_iff, scalarMapping_eq_ok, compensation_eq_ok, asRejection_iff,
      written_eq_ok, construct_iff]
    constructor
    · rintro ⟨parameters, ⟨reads, _⟩, preconditions, ⟨checks, _⟩, declared, declares, actionId,
        named, idempotencyKey, bound, accepted⟩
      exact ⟨parameters, preconditions, declared, actionId, idempotencyKey, reads, checks, declares,
        named, bound, accepted⟩
    · rintro ⟨parameters, preconditions, declared, actionId, idempotencyKey, reads, checks,
        declares, named, bound, accepted⟩
      obtain ⟨_, content, _, _⟩ := SourceActionPlan.of_make accepted
      exact ⟨parameters, ⟨reads, content.1⟩, preconditions, ⟨checks, content.2⟩, declared, declares,
        actionId, named, idempotencyKey, bound, accepted⟩
  constructor
  · intro accepted
    by_cases held : ∃ payload, Holds arguments payload
    · obtain ⟨payload, holds⟩ := held
      exact ⟨payload, holds, (gives holds).mp accepted⟩
    · obtain ⟨code, message, refused⟩ : ∃ code message,
          plan tool arguments = .error (.protocolRequestRejected code message) :=
        plan_refused (not_exists.mp held)
      rw [refused] at accepted
      cases accepted
  · rintro ⟨payload, holds, given⟩
    exact (gives holds).mpr given

section Digests

variable [Stdlib]

/-- The digest of a plan takes one step, which breaks where an integer is too long. -/
theorem digestTaken_takes {kind : AdapterError → Prop} {plan : SourceActionPlan} {long : Prop}
    (escapes : ∀ failure, ¬ kind (.ofWrite failure))
    (writes : writable plan.toJson = true ↔ ¬ long) :
    Takes kind (digestTaken plan) [(¬ long, long)] := by
  refine .one ?_ ?_
  · simp only [digestTaken_eq_ok, writes]
    simp
  · rw [← writes]
    unfold digestTaken SourceActionPlan.digested digested
    split
    · rename_i fine
      exact iff_of_true (Guarded.ok _) fine
    · rename_i unwritable
      apply iff_of_false _ unwritable
      intro guarded
      exact escapes (.valueError longIntegerMessage) (guarded _ rfl)

/-- The plan of a payload with its digest takes the steps of the payload. -/
theorem plan_takes (holds : Holds arguments payload) :
    Takes Refusal (plan tool arguments >>= digestTaken) (steps payload tool) := by
  have planned : Takes Refusal (plan tool arguments) (steps payload tool).dropLast := by
    rw [plan_eq holds]
    refine .bind (scalarMapping_takes "parameters") fun parameters made => ?_
    refine .bind (scalarMapping_takes "preconditions") fun preconditions checked => ?_
    refine .bind compensation_takes fun declared _ => asRejection_takes ?_
    refine .bind written_takes fun actionId named => ?_
    refine .bind written_takes fun idempotencyKey bound => construct_takes ?_
    rw [written_eq_ok] at named bound
    rw [SourceActionPlan.exists_make_iff, ActionPayload.identity_iff,
      PyValue.text_of_told named, PyValue.text_of_told bound]
    have content := And.intro (ne_nil_of_scalarMapping made) (ne_nil_of_scalarMapping checked)
    tauto
  refine planned.bind fun plan accepted => digestTaken_takes (by rintro (_ | _) <;> exact id) ?_
  obtain ⟨other, held, parameters, preconditions, declared, _, _, reads, checks, declares, _, _,
    made⟩ := plan_eq_ok.mp accepted
  rw [holds.unique held]
  exact SourceActionPlan.writable_iff made reads checks declares

/-- The plan of a call with its digest is guarded unless the arguments hold a payload that
breaks. -/
theorem plan_guarded :
    Guarded Refusal (plan tool arguments >>= digestTaken) ↔
      ¬ ∃ payload, Holds arguments payload ∧ Breaks (steps payload tool) := by
  by_cases held : ∃ payload, Holds arguments payload
  · obtain ⟨payload, holds⟩ := held
    rw [(plan_takes holds).guarded, not_iff_not]
    constructor
    · intro breaks
      exact ⟨payload, holds, breaks⟩
    · rintro ⟨other, also, breaks⟩
      rwa [holds.unique also]
  · obtain ⟨code, message, refused⟩ : ∃ code message,
        plan tool arguments = .error (.protocolRequestRejected code message) :=
      plan_refused (not_exists.mp held)
    rw [refused]
    apply iff_of_true
    · exact Guarded.bind_error rfl (Guarded.error.mpr trivial)
    · rintro ⟨payload, holds, _⟩
      exact held ⟨payload, holds⟩

end Digests

/-- The params of a call give a tool of the caller these arguments. -/
structure Calls (adapter : NorthboundActionAdapter) (params : Option PyValue)
    (identity : RequestIdentity) (tool : NorthboundTool) (arguments : Untrusted) : Prop where
  shape : ∃ entries text argumentsText, params = some (.mapping entries text) ∧
    keysEqual entries ["name", "arguments"] = true ∧
    lookupKey "name" entries = some (.str tool.name) ∧
    lookupKey "arguments" entries = some (.mapping arguments argumentsText)
  known : adapter.tool? tool.name = some tool
  agent : identity.agentId ∈ tool.allowedAgents

/-- The params of a call give one tool and one list of arguments only. -/
theorem Calls.unique {adapter : NorthboundActionAdapter} {params : Option PyValue}
    {identity : RequestIdentity} {other : NorthboundTool} {others : Untrusted}
    (one : adapter.Calls params identity tool arguments)
    (two : adapter.Calls params identity other others) : tool = other ∧ arguments = others := by
  obtain ⟨entries, text, shown, rfl, _, named, given⟩ := one.shape
  obtain ⟨_, _, _, same, _, also, again⟩ := two.shape
  obtain ⟨rfl, rfl⟩ := PyValue.mapping.inj (Option.some.inj same)
  rw [named] at also
  rw [given] at again
  have names : tool.name = other.name := PyValue.str.inj (Option.some.inj also)
  have known := one.known
  rw [names, two.known] at known
  exact ⟨(Option.some.inj known).symm, (PyValue.mapping.inj (Option.some.inj again)).1⟩

/-- A call is the plan of what its params give. -/
theorem call_eq {adapter : NorthboundActionAdapter} {params : Option PyValue}
    {identity : RequestIdentity} (calls : adapter.Calls params identity tool arguments) :
    adapter.call params identity = plan tool arguments := by
  obtain ⟨entries, text, shown, rfl, shape, named, given⟩ := calls.shape
  unfold call
  simp only [shape, not_true_eq_false, if_false, Untrusted.item_eq_ok named,
    Untrusted.item_eq_ok given, calls.known, bind, Except.bind]
  rw [if_neg (not_not.mpr calls.agent)]

/-- A call whose params give no tool of the caller is refused. -/
theorem call_refused {adapter : NorthboundActionAdapter} {params : Option PyValue}
    {identity : RequestIdentity}
    (none : ∀ tool arguments, ¬ adapter.Calls params identity tool arguments) :
    ∃ code message,
      adapter.call params identity = .error (.protocolRequestRejected code message) := by
  unfold call
  split
  · rename_i entries text
    split
    · exact ⟨_, _, rfl⟩
    · rename_i shape
      rw [not_not] at shape
      obtain ⟨name, named⟩ := lookupKey_of_keysEqual shape (by simp : "name" ∈ _)
      obtain ⟨passed, given⟩ := lookupKey_of_keysEqual shape (by simp : "arguments" ∈ _)
      simp only [Untrusted.item_eq_ok named, Untrusted.item_eq_ok given, bind, Except.bind]
      split
      · rename_i name
        split
        · exact ⟨_, _, rfl⟩
        · rename_i tool known
          split
          · exact ⟨_, _, rfl⟩
          · rename_i listed
            split
            · rename_i arguments shown
              obtain rfl : tool.name = name := by simpa using List.find?_some known
              exact absurd ⟨⟨entries, text, shown, rfl, shape, named, given⟩, known,
                not_not.mp listed⟩ (none tool arguments)
            · exact ⟨_, _, rfl⟩
      · exact ⟨_, _, rfl⟩
  · exact ⟨_, _, rfl⟩

/-- A call goes through exactly when its params give a tool of the caller the arguments of the
plan. -/
theorem call_eq_ok {adapter : NorthboundActionAdapter} {params : Option PyValue}
    {identity : RequestIdentity} {made : SourceActionPlan} :
    adapter.call params identity = .ok made ↔
      ∃ tool arguments, adapter.Calls params identity tool arguments ∧
        plan tool arguments = .ok made := by
  constructor
  · intro accepted
    by_cases given : ∃ tool arguments, adapter.Calls params identity tool arguments
    · obtain ⟨tool, arguments, calls⟩ := given
      rw [call_eq calls] at accepted
      exact ⟨tool, arguments, calls, accepted⟩
    · push Not at given
      obtain ⟨code, message, refused⟩ := call_refused given
      rw [refused] at accepted
      cases accepted
  · rintro ⟨tool, arguments, calls, accepted⟩
    rwa [call_eq calls]

/-- A request gives a plan exactly when it is a call under the digest of the catalog whose
arguments do. -/
theorem toActionPlan_eq_ok [Stdlib] {adapter : NorthboundActionAdapter} {request : Untrusted}
    {identity : RequestIdentity} {made : SourceActionPlan} :
    adapter.toActionPlan request identity = .ok made ↔
      validateEnvelope request = .ok () ∧
      (lookupKey "method" request).any (·.equals "tools/call") = true ∧
      (lookupKey "catalogDigest" request).any (·.equals adapter.catalog.digest) = true ∧
      ∃ tool arguments, adapter.Calls (lookupKey "params" request) identity tool arguments ∧
        plan tool arguments = .ok made := by
  rw [← call_eq_ok]
  unfold toActionPlan
  simp only [bind_ok_iff, Untrusted.item_iff]
  constructor
  · rintro ⟨_, valid, method, named, accepted⟩
    split at accepted
    · cases accepted
    rename_i called
    split at accepted
    · cases accepted
    rename_i current
    refine ⟨valid, ?_, not_not.mp current, accepted⟩
    rw [named]
    exact not_not.mp called
  · rintro ⟨valid, called, current, accepted⟩
    obtain ⟨method, named, calls⟩ := (Option.any_eq_true _ _).mp called
    refine ⟨(), valid, method, named, ?_⟩
    rw [if_neg (not_not.mpr calls), if_neg (not_not.mpr current)]
    exact accepted

/-- The envelope is refused with a rejection only. -/
theorem validateEnvelope_guarded (request : Untrusted) :
    Guarded Refusal (validateEnvelope request) := by
  unfold validateEnvelope
  split
  · exact Guarded.error.mpr trivial
  · split
    · exact Guarded.error.mpr trivial
    · split
      · exact Guarded.ok _
      · exact Guarded.ok _
      · exact Guarded.ok _
      · exact Guarded.error.mpr trivial

variable [Stdlib]

/-- A call with its digest is guarded unless it gives a tool of the caller a payload that breaks. -/
theorem call_guarded {adapter : NorthboundActionAdapter} {params : Option PyValue}
    {identity : RequestIdentity} :
    Guarded Refusal (adapter.call params identity >>= digestTaken) ↔
      ¬ ∃ tool arguments payload, adapter.Calls params identity tool arguments ∧
        Holds arguments payload ∧ Breaks (steps payload tool) := by
  by_cases given : ∃ tool arguments, adapter.Calls params identity tool arguments
  · obtain ⟨tool, arguments, calls⟩ := given
    rw [call_eq calls, plan_guarded, not_iff_not]
    constructor
    · rintro ⟨payload, breaks⟩
      exact ⟨tool, arguments, payload, calls, breaks⟩
    · rintro ⟨other, others, payload, also, breaks⟩
      obtain ⟨rfl, rfl⟩ := calls.unique also
      exact ⟨payload, breaks⟩
  · push Not at given
    obtain ⟨code, message, refused⟩ := call_refused given
    rw [refused]
    apply iff_of_true
    · exact Guarded.bind_error rfl (Guarded.error.mpr trivial)
    · rintro ⟨tool, arguments, _, calls, _⟩
      exact given tool arguments calls

/-- A call under the digest of the catalog gives a tool of the caller a payload that breaks. -/
def CallEscapes (adapter : NorthboundActionAdapter) (catalogDigest params : Option PyValue)
    (identity : RequestIdentity) : Prop :=
  catalogDigest.any (·.equals adapter.catalog.digest) = true ∧
    ∃ tool arguments payload, adapter.Calls params identity tool arguments ∧
      Holds arguments payload ∧ Breaks (steps payload tool)

/-- The envelope of a request is accepted, but it names no method, or it is a call with a payload
that breaks. -/
def Escapes (adapter : NorthboundActionAdapter) (request : Untrusted)
    (identity : RequestIdentity) : Prop :=
  validateEnvelope request = .ok () ∧
    (lookupKey "method" request = none ∨
      (lookupKey "method" request).any (·.equals "tools/call") = true ∧
        adapter.CallEscapes (lookupKey "catalogDigest" request) (lookupKey "params" request)
          identity)

/-- A plan with its digest is guarded unless the request escapes. -/
theorem toActionPlan_guarded {adapter : NorthboundActionAdapter} {request : Untrusted}
    {identity : RequestIdentity} :
    Guarded Refusal (adapter.toActionPlan request identity >>= digestTaken) ↔
      ¬ adapter.Escapes request identity := by
  have envelope := validateEnvelope_guarded request
  unfold toActionPlan Escapes
  simp only [bind_assoc]
  cases valid : validateEnvelope request with
  | error failure =>
    rw [valid] at envelope
    apply iff_of_true
    · exact Guarded.bind_error rfl envelope
    · intro escapes
      cases escapes.1
  | ok done =>
    rw [Guarded.bind_ok rfl]
    cases found : lookupKey "method" request with
    | none =>
      rw [Untrusted.item_eq_error found]
      apply iff_of_false
      · intro guarded
        exact guarded (.keyError "method") rfl
      · intro answered
        exact answered ⟨rfl, .inl rfl⟩
    | some method =>
      rw [Guarded.bind_ok (Untrusted.item_eq_ok found)]
      by_cases calls : method.equals "tools/call" = true
      · rw [if_neg (not_not.mpr calls)]
        by_cases pinned :
            (lookupKey "catalogDigest" request).any (·.equals adapter.catalog.digest) = true
        · rw [if_neg (not_not.mpr pinned), call_guarded]
          simp [CallEscapes, calls, pinned]
        · rw [if_pos pinned]
          apply iff_of_true
          · exact Guarded.error.mpr trivial
          · simp [CallEscapes, pinned]
      · rw [if_pos calls]
        apply iff_of_true
        · exact Guarded.error.mpr trivial
        · simp [calls]

/-- The result of a request is guarded unless the request escapes. -/
theorem result_guarded {adapter : NorthboundActionAdapter} {request : Untrusted}
    {identity : RequestIdentity} :
    Guarded Refusal (adapter.result request identity) ↔ ¬ adapter.Escapes request identity := by
  have envelope := validateEnvelope_guarded request
  have refused : ∀ {code : Int} {message : String},
      Guarded Refusal (.error (.protocolRequestRejected code message) :
        Except AdapterError Json.Value) := Guarded.error.mpr trivial
  unfold result
  cases valid : validateEnvelope request with
  | error failure =>
    rw [valid] at envelope
    apply iff_of_true
    · exact Guarded.bind_error rfl envelope
    · intro escapes
      have accepted := escapes.1
      rw [valid] at accepted
      cases accepted
  | ok done =>
    have calls : ∀ method, lookupKey "method" request = some method →
        method.equals "tools/call" = true →
          (Guarded Refusal ((adapter.toActionPlan request identity >>= digestTaken).map accepted) ↔
            ¬ adapter.CallEscapes (lookupKey "catalogDigest" request) (lookupKey "params" request)
              identity) := by
      intro method found call
      rw [Guarded.map, toActionPlan_guarded]
      unfold Escapes
      simp [valid, found, call]
    rw [Guarded.bind_ok rfl, methods_guarded request _ _ (Guarded.ok _) calls refused]
    · unfold Escapes
      simp [valid]
    · intro missing guarded
      rw [Untrusted.item_eq_error missing] at guarded
      exact guarded (.keyError "method") rfl
    · intro method
      exact Untrusted.item_eq_ok

end NorthboundActionAdapter

/-- A request is answered: with a response object that echoes its id and has exactly one of a
result and an error. -/
def Responded {ε : Type} (request : Untrusted) (ran : Except ε NorthboundResponse) : Prop :=
  ∃ response, ran = .ok response ∧ response.id = lookupKey "id" request ∧
    Xor ("result" ∈ response.keys) ("error" ∈ response.keys)

/-- Every response has exactly one of a result and an error. -/
theorem NorthboundResponse.result_xor_error (response : NorthboundResponse) :
    Xor ("result" ∈ response.keys) ("error" ∈ response.keys) := by
  unfold keys
  cases response.answer with
  | ok value => exact .inl ⟨by simp, by simp⟩
  | error failure => exact .inr ⟨by simp, by simp⟩

/-- The northbound adapter answers the requests that do not escape. -/
theorem NorthboundActionAdapter.responded_iff [Stdlib] (adapter : NorthboundActionAdapter)
    (request : Untrusted) (identity : RequestIdentity) :
    Responded request (adapter.handle request identity) ↔ ¬ adapter.Escapes request identity := by
  rw [← result_guarded]
  unfold handle
  cases adapter.result request identity with
  | ok value => exact iff_of_true ⟨_, rfl, rfl, NorthboundResponse.result_xor_error _⟩ (Guarded.ok _)
  | error failure =>
    rw [Guarded.error]
    cases failure with
    | protocolRequestRejected code message =>
      exact iff_of_true ⟨_, rfl, rfl, NorthboundResponse.result_xor_error _⟩ trivial
    | _ =>
      apply iff_of_false
      · intro ⟨response, answered, _⟩
        cases answered
      · exact id

/-! ## The MCP profile -/

namespace Mcp20260728ActionServer

/-- The errors that `handle` answers. -/
def Refusal : ProfileError → Prop
  | .protocolProfileRejected _ _ => True
  | .adapter error => NorthboundActionAdapter.Refusal error

/-- A computation of the adapter is guarded in the profile as it is by itself. -/
theorem profiled_guarded {α : Type} {ran : Except AdapterError α} :
    Guarded Refusal (profiled ran) ↔ Guarded NorthboundActionAdapter.Refusal ran :=
  Guarded.mapError

/-- A computation of the adapter that goes through does so in the profile. -/
theorem profiled_ok {α : Type} {ran : Except AdapterError α} {value : α} (fine : ran = .ok value) :
    profiled ran = .ok value := by
  rw [fine]
  rfl

/-- The envelope is refused with a rejection only. -/
theorem validateRequest_guarded (request : Untrusted) :
    Guarded Refusal (validateRequest request) := by
  have refused : ∀ {code : Int} {message : String},
      Guarded Refusal (.error (.protocolProfileRejected code message) :
        Except ProfileError Unit) := Guarded.error.mpr trivial
  unfold validateRequest
  repeat' split
  all_goals first
    | exact refused
    | exact Guarded.ok _

/-- A request that is accepted has an id that the adapter accepts, and a mapping of metadata. -/
theorem of_validateRequest {request : Untrusted} (valid : validateRequest request = .ok ()) :
    (∃ requestId, lookupKey "id" request = some requestId ∧
      ((∃ text, requestId = .str text) ∨ ∃ number, requestId = .int number)) ∧
      ∃ data text, lookupKey "_meta" request = some (.mapping data text) := by
  unfold validateRequest at valid
  split at valid
  · cases valid
  · split at valid
    · rename_i text found
      split at valid
      · rename_i data shown mapped
        exact ⟨⟨_, found, .inl ⟨text, rfl⟩⟩, data, shown, mapped⟩
      · cases valid
    · rename_i number found
      split at valid
      · rename_i data shown mapped
        exact ⟨⟨_, found, .inr ⟨number, rfl⟩⟩, data, shown, mapped⟩
      · cases valid
    · cases valid

/-- Every tool of the adapter is listed. -/
theorem listed_exposed (tools : List NorthboundTool) :
    ∃ shown, (tools.map NorthboundTool.exposedContract).mapM listed = .ok shown := by
  induction tools with
  | nil => exact ⟨[], rfl⟩
  | cons tool tools ih =>
    obtain ⟨shown, later⟩ := ih
    have own : ∃ first, listed tool.exposedContract = .ok first := ⟨_, rfl⟩
    obtain ⟨first, own⟩ := own
    rw [List.map_cons, List.mapM_cons, own, later]
    exact ⟨first :: shown, rfl⟩

variable [Stdlib]

/-- The tools are listed for every id that the profile accepts. -/
theorem exists_listTools (server : Mcp20260728ActionServer) {requestId : PyValue}
    (identity : RequestIdentity)
    (accepted : (∃ text, requestId = .str text) ∨ ∃ number, requestId = .int number) :
    ∃ answer, server.listTools (some requestId) identity = .ok answer := by
  let inner : Untrusted := [(.str "jsonrpc", .str "2.0"), (.str "id", requestId),
    (.str "method", .str "tools/list"), (.str "protocolVersion", .str protocolVersion)]
  have valid : NorthboundActionAdapter.validateEnvelope inner = .ok () := by
    rcases accepted with ⟨text, rfl⟩ | ⟨number, rfl⟩
    · rfl
    · rfl
  have answered := NorthboundActionAdapter.handle_list server.adapter identity valid rfl
  obtain ⟨shown, tools⟩ := listed_exposed
    ((server.adapter.catalog.tools.insertionSort (·.name ≤ ·.name)).filter fun tool =>
      identity.agentId ∈ tool.allowedAgents)
  have read : field (server.adapter.listing identity) "tools" = .ok (.arr
      (((server.adapter.catalog.tools.insertionSort (·.name ≤ ·.name)).filter fun tool =>
        identity.agentId ∈ tool.allowedAgents).map NorthboundTool.exposedContract)) := rfl
  unfold listTools
  rw [Option.getD_some, profiled_ok answered]
  simp only [bind, Except.bind, read, tools]
  exact ⟨_, rfl⟩

/-- A request that the profile accepts names no method, or is a call with a payload that breaks. -/
def Escapes (server : Mcp20260728ActionServer) (request : Untrusted)
    (identity : RequestIdentity) : Prop :=
  validateRequest request = .ok () ∧
    (lookupKey "method" request = none ∨
      (lookupKey "method" request).any (·.equals "tools/call") = true ∧
        server.adapter.CallEscapes
          ((lookupKey "_meta" request).bind (·.get harnessCatalogDigest))
          (lookupKey "params" request) identity)

/-- The northbound request of a call escapes exactly when the call does. -/
theorem internal_escapes {adapter : NorthboundActionAdapter} {request data : Untrusted}
    {params requestId : PyValue} {identity : RequestIdentity}
    (found : lookupKey "id" request = some requestId)
    (accepted : (∃ text, requestId = .str text) ∨ ∃ number, requestId = .int number) :
    adapter.Escapes (internal request data params) identity ↔
      adapter.CallEscapes (lookupKey harnessCatalogDigest data) (some params) identity := by
  have valid : NorthboundActionAdapter.validateEnvelope (internal request data params) =
      .ok () := by
    unfold internal
    rw [found]
    rcases accepted with ⟨text, rfl⟩ | ⟨number, rfl⟩
    · rfl
    · rfl
  have method : lookupKey "method" (internal request data params) =
      some (.str "tools/call") := rfl
  have given : lookupKey "params" (internal request data params) = some params := rfl
  have digest : (lookupKey "catalogDigest" (internal request data params)).any
      (·.equals adapter.catalog.digest) =
      (lookupKey harnessCatalogDigest data).any (·.equals adapter.catalog.digest) := by
    show (some ((lookupKey harnessCatalogDigest data).getD .none)).any _ = _
    cases lookupKey harnessCatalogDigest data with
    | none => rfl
    | some value => rfl
  unfold NorthboundActionAdapter.Escapes NorthboundActionAdapter.CallEscapes
  rw [method, given, digest]
  simp [valid, PyValue.equals]

/-- A call is guarded unless it has a payload that breaks. -/
theorem callTool_guarded {server : Mcp20260728ActionServer} {request : Untrusted}
    {identity : RequestIdentity} (valid : validateRequest request = .ok ()) :
    Guarded Refusal (server.callTool request identity) ↔
      ¬ server.adapter.CallEscapes ((lookupKey "_meta" request).bind (·.get harnessCatalogDigest))
        (lookupKey "params" request) identity := by
  have ⟨⟨requestId, found, accepted⟩, data, text, mapped⟩ := of_validateRequest valid
  have digest : (lookupKey "_meta" request).bind (·.get harnessCatalogDigest) =
      lookupKey harnessCatalogDigest data := by
    rw [mapped]
    rfl
  have refused : Guarded Refusal (.error (.protocolProfileRejected (-32602)
      "MCP tool call parameters are invalid") : Except ProfileError Json.Value) :=
    Guarded.error.mpr trivial
  rw [digest]
  unfold callTool
  rw [mapped]
  dsimp only
  split
  · rename_i params shown given
    by_cases exact : keysEqual params ["name", "arguments"] = true
    · rw [if_neg (not_not.mpr exact), Guarded.bind, profiled_guarded,
        NorthboundActionAdapter.toActionPlan_guarded, internal_escapes found accepted, given]
      constructor
      · intro ⟨complete, _⟩
        exact complete
      · intro complete
        exact ⟨complete, fun plan _ => Guarded.ok _⟩
    · rw [if_pos exact]
      apply iff_of_true refused
      intro ⟨_, tool, arguments, _, calls, _⟩
      obtain ⟨_, _, _, same, shape, _⟩ := calls.shape
      rw [given] at same
      obtain ⟨rfl, rfl⟩ := PyValue.mapping.inj (Option.some.inj same)
      exact exact shape
  · rename_i unstructured
    apply iff_of_true refused
    intro ⟨_, tool, arguments, _, calls, _⟩
    obtain ⟨entries, shown, _, same, _⟩ := calls.shape
    exact unstructured entries shown same

/-- The result of a request is guarded unless the request escapes. -/
theorem result_guarded {server : Mcp20260728ActionServer} {request : Untrusted}
    {identity : RequestIdentity} :
    Guarded Refusal (server.result request identity) ↔ ¬ server.Escapes request identity := by
  have envelope := validateRequest_guarded request
  unfold result
  cases valid : validateRequest request with
  | error failure =>
    rw [valid] at envelope
    apply iff_of_true
    · exact Guarded.bind_error rfl envelope
    · intro escapes
      have accepted := escapes.1
      rw [valid] at accepted
      cases accepted
  | ok done =>
    have ⟨⟨requestId, own, accepted⟩, _⟩ := of_validateRequest valid
    obtain ⟨answer, answered⟩ := exists_listTools server identity accepted
    have lists : Guarded Refusal (server.listTools (lookupKey "id" request) identity) := by
      rw [own, answered]
      exact Guarded.ok _
    have refused : Guarded Refusal (.error (.protocolProfileRejected (-32601)
        "MCP method is not exposed") : Except ProfileError Json.Value) := Guarded.error.mpr trivial
    rw [Guarded.bind_ok rfl,
      methods_guarded request _ _ lists (fun _ _ _ => callTool_guarded valid) refused]
    · unfold Escapes
      simp [valid]
    · intro missing guarded
      rw [Untrusted.item_eq_error missing] at guarded
      exact guarded (.adapter (.keyError "method")) rfl
    · intro method found
      exact profiled_ok (Untrusted.item_eq_ok found)

/-- The profile answers the requests that do not escape. -/
theorem responded_iff (server : Mcp20260728ActionServer) (request : Untrusted)
    (identity : RequestIdentity) :
    Responded request (server.handle request identity) ↔ ¬ server.Escapes request identity := by
  have response : ∀ answer : Except (Int × String) Json.Value,
      Responded request (.ok ⟨lookupKey "id" request, answer⟩ :
        Except ProfileError NorthboundResponse) :=
    fun answer => ⟨_, rfl, rfl, NorthboundResponse.result_xor_error _⟩
  have escaping : ∀ failure : ProfileError, ¬ Responded request (.error failure) := by
    intro failure ⟨_, answered, _⟩
    cases answered
  rw [← result_guarded]
  unfold handle
  cases server.result request identity with
  | ok answer => exact iff_of_true (response _) (Guarded.ok _)
  | error failure =>
    rw [Guarded.error]
    cases failure with
    | protocolProfileRejected code message => exact iff_of_true (response _) trivial
    | adapter own =>
      cases own with
      | protocolRequestRejected code message => exact iff_of_true (response _) trivial
      | _ => exact iff_of_false (escaping _) id

/-- What escapes is no rejection. -/
theorem of_handle_error {server : Mcp20260728ActionServer} {request : Untrusted}
    {identity : RequestIdentity} {failure : ProfileError}
    (escaped : server.handle request identity = .error failure) : ¬ Refusal failure := by
  intro refusal
  unfold handle at escaped
  cases ran : server.result request identity with
  | ok answer =>
    rw [ran] at escaped
    cases escaped
  | error own =>
    rw [ran] at escaped
    cases own with
    | protocolProfileRejected code message => cases escaped
    | adapter error =>
      cases error with
      | protocolRequestRejected code message => cases escaped
      | _ =>
        cases escaped
        exact refusal

omit [Stdlib] in
/-- The headers of a request are refused with a rejection of the profile only. -/
theorem checkHeaders_error {lower : String → String} {headers : List (String × String)}
    {request : Untrusted} {failure : ProfileError}
    (failed : checkHeaders lower headers request = .error failure) :
    ∃ code message, failure = .protocolProfileRejected code message := by
  unfold checkHeaders at failed
  dsimp only at failed
  repeat' split at failed
  all_goals first
    | exact ⟨_, _, (Except.error.inj failed).symm⟩
    | cases failed

/-- The dispatch answers the requests that do not escape, and those whose headers it refuses. -/
theorem dispatched_iff (server : Mcp20260728ActionServer) (lower : String → String)
    (headers : List (String × String)) (request : Untrusted) (identity : RequestIdentity) :
    Responded request
        ((server.dispatchHttp lower headers request identity).map HttpDispatchResult.body) ↔
      ¬ (checkHeaders lower headers request = .ok () ∧ server.Escapes request identity) := by
  unfold dispatchHttp
  cases checked : checkHeaders lower headers request with
  | error failure =>
    obtain ⟨code, message, rfl⟩ := checkHeaders_error checked
    apply iff_of_true
    · exact ⟨_, rfl, rfl, NorthboundResponse.result_xor_error _⟩
    · intro ⟨accepted, _⟩
      cases accepted
  | ok done =>
    have escapes : (Except.ok done = (.ok () : Except ProfileError Unit) ∧
        server.Escapes request identity) ↔ server.Escapes request identity := by simp
    rw [escapes, ← responded_iff]
    cases handled : server.handle request identity with
    | ok body => exact Iff.rfl
    | error failure =>
      cases failure with
      | protocolProfileRejected code message => exact absurd trivial (of_handle_error handled)
      | adapter error =>
        apply iff_of_false
        · intro ⟨_, answered, _⟩
          cases answered
        · intro ⟨_, answered, _⟩
          cases answered

end Mcp20260728ActionServer

/-! ## Both adapters -/

/-- The adapters and the dispatch answer a request, with an object that echoes its id and has
exactly one of a result and an error, unless the request escapes: its envelope is accepted and it
names no method, or is a call whose compensation lacks an operation and is right otherwise. -/
theorem jsonrpc_responded_iff [Stdlib] :
    (∀ (adapter : NorthboundActionAdapter) request identity,
      Responded request (adapter.handle request identity) ↔
        ¬ adapter.Escapes request identity) ∧
    ∀ (server : Mcp20260728ActionServer) request identity,
      (Responded request (server.handle request identity) ↔ ¬ server.Escapes request identity) ∧
      ∀ lower headers,
        Responded request ((server.dispatchHttp lower headers request identity).map
            HttpDispatchResult.body) ↔
          ¬ (Mcp20260728ActionServer.checkHeaders lower headers request = .ok () ∧
            server.Escapes request identity) := by
  constructor
  · exact NorthboundActionAdapter.responded_iff
  · intro server request identity
    constructor
    · exact server.responded_iff request identity
    · intro lower headers
      exact server.dispatched_iff lower headers request identity

/-- A request that names no method. -/
def NorthboundActionAdapter.unnamed : Untrusted :=
  [(.str "jsonrpc", .str "2.0"), (.str "id", .str "call"),
    (.str "protocolVersion", .str protocolVersion)]

/-- An MCP request that names no method. -/
def Mcp20260728ActionServer.unnamed : Untrusted :=
  [(.str "jsonrpc", .str "2.0"), (.str "id", .str "call"),
    (.str "_meta", .mapping [(.str mcpMetaVersion, .str mcpProtocolVersion),
      (.str mcpMetaClientInfo, .mapping [] ""), (.str mcpMetaCapabilities, .mapping [] "")] "")]

/-- A server for small requests. -/
def Mcp20260728ActionServer.small : Mcp20260728ActionServer := ⟨⟨.small⟩, 1, by decide⟩

/-- A request is answered only if nothing escapes. -/
theorem not_responded {ε : Type} {request : Untrusted} {ran : Except ε NorthboundResponse}
    (escaped : ran.toBool = false) : ¬ Responded request ran := by
  intro ⟨response, answered, _⟩
  rw [answered] at escaped
  cases escaped

/-- Requests without a method, and a call whose compensation names the empty operation, are not
answered. -/
theorem jsonrpc_escaped :
    letI := Stdlib.transparent
    ¬ Responded NorthboundActionAdapter.unnamed
        (NorthboundActionAdapter.handle ⟨.small⟩ NorthboundActionAdapter.unnamed .small) ∧
      ¬ Responded (NorthboundActionAdapter.called "")
        (NorthboundActionAdapter.handle ⟨.small⟩ (NorthboundActionAdapter.called "") .small) ∧
      ¬ Responded Mcp20260728ActionServer.unnamed
        (Mcp20260728ActionServer.small.handle Mcp20260728ActionServer.unnamed .small) ∧
      ¬ Responded Mcp20260728ActionServer.unnamed
        ((Mcp20260728ActionServer.small.dispatchHttp id [("content-type", "application/json")]
          Mcp20260728ActionServer.unnamed .small).map HttpDispatchResult.body) :=
  let := Stdlib.transparent
  ⟨not_responded (by decide +kernel), not_responded (by decide +kernel),
    not_responded (by decide +kernel), not_responded (by decide +kernel)⟩

end DataHarness
