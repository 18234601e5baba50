import DataHarness.Edge.Agreement
import DataHarness.Edge.Catalog
import DataHarness.Library.Schema

/-!
# Tool calls and their published schema

A tool is listed with a schema of its arguments, and a call of it is checked by hand. The two differ
in one place: the schema asks for texts as the identity and the key of an action, and the adapter
takes the text of whatever is there.
-/

namespace DataHarness

/-- What a schema sees of an object. -/
def PyValue.shape : PyValue → Schema.Shape PyValue
  | .none => .null
  | .str text => .string text
  | .int number => .integer number
  | .mapping entries _ =>
    match stringKeys entries with
    | some keys => .object keys fun key => lookupKey key entries
    | Option.none => .other
  | _ => .other

/-- The schema of the arguments of a tool. -/
def argumentsSchema : Schema :=
  .object ["actionId", "parameters", "preconditions", "idempotencyKey"]
    [("actionId", .leaf [.type [.string]]), ("parameters", .leaf [.type [.object]]),
      ("preconditions", .leaf [.type [.object]]), ("idempotencyKey", .leaf [.type [.string]]),
      ("compensation", .leaf [.type [.object, .null]])]

/-- It is the one that is published. -/
theorem document_argumentsSchema : argumentsSchema.document = inputSchema := rfl

/-- A mapping with string keys is seen as an object. -/
theorem shape_mapping {entries : Untrusted} {text : Told}
    (named : ∀ item ∈ entries, ∃ key, item.1 = .str key) :
    ∃ keys, stringKeys entries = some keys ∧
      (PyValue.mapping entries text).shape = .object keys fun key => lookupKey key entries := by
  obtain ⟨keys, strings⟩ := exists_stringKeys.mpr named
  refine ⟨keys, strings, ?_⟩
  unfold PyValue.shape
  dsimp only
  rw [strings]

/-- A text is accepted as a text. -/
theorem accepts_text (text : String) :
    Schema.accepts PyValue.shape (.leaf [.type [.string]]) (.str text) = true := rfl

/-- A mapping with string keys is accepted as an object. -/
theorem accepts_mapping {entries : Untrusted} {text : Told} {kinds : List Schema.Kind}
    (named : ∀ item ∈ entries, ∃ key, item.1 = .str key) (member : Schema.Kind.object ∈ kinds) :
    Schema.accepts PyValue.shape (.leaf [.type kinds]) (.mapping entries text) = true := by
  obtain ⟨keys, _, seen⟩ := @shape_mapping entries text named
  rw [Schema.accepts_leaf]
  intro keyword only
  obtain rfl := List.mem_singleton.mp only
  rw [seen]
  simpa [Schema.Keyword.holds, Schema.Shape.kind?] using member

/-- What is read as a dictionary is accepted as an object. -/
theorem accepts_of_reads {value : PyValue} {dict : Dict Scalar} (reads : value.Reads dict) :
    Schema.accepts PyValue.shape (.leaf [.type [.object]]) value = true := by
  obtain ⟨entries, text, items, rfl, read, _⟩ := reads
  apply accepts_mapping _ (by simp)
  intro item here
  exact (NorthboundActionAdapter.scalarItems_iff.mp ⟨items, read⟩ item here).1

/-- What declares a compensation is accepted as an object or null. -/
theorem accepts_of_declares {value : PyValue} {declared : Option CompensationSpec}
    (declares : Declares (some value) declared) :
    Schema.accepts PyValue.shape (.leaf [.type [.object, .null]]) value = true := by
  rcases declares with ⟨missing, _⟩ | ⟨data, text, _, _, _, _, _, _, _, same, shape, _⟩
  · have null : value = .none := by simpa using missing
    rw [null]
    rfl
  · rw [Option.some.inj same]
    apply accepts_mapping _ (by simp)
    intro item here
    obtain ⟨key, _, own⟩ := keysSubset_iff.mp (keysEqual_iff.mp shape).1 item here
    exact ⟨key, own⟩

namespace NorthboundActionAdapter

/-- The arguments of a call. -/
def requestedArguments (request : Untrusted) : Option PyValue :=
  (lookupKey "params" request).bind (·.get "arguments")

/-- The call conforms to the schema with which its tool is listed, and the plan has the texts of its
identity and its key. -/
structure Conforms [Stdlib] (adapter : NorthboundActionAdapter) (request : Untrusted)
    (identity : RequestIdentity) (plan : SourceActionPlan) : Prop where
  listed : ∃ tool tools, adapter.requestedTool request = some tool ∧
    (adapter.listing identity).get? "tools" = some (.arr tools) ∧ tool.exposedContract ∈ tools ∧
    tool.exposedContract.get? "inputSchema" = some argumentsSchema.document
  valid : ∃ arguments, requestedArguments request = some arguments ∧
    argumentsSchema.accepts PyValue.shape arguments = true
  actionId : (requestedArguments request).bind (·.get "actionId") = some (.str plan.actionId)
  idempotencyKey :
    (requestedArguments request).bind (·.get "idempotencyKey") = some (.str plan.idempotencyKey)

variable {arguments : Untrusted} {payload : ActionPayload} {tool : NorthboundTool}
  {plan : SourceActionPlan}

/-- Arguments of a payload that gives a plan conform, when its identity and its key are texts. -/
theorem accepts_of_holds (holds : Holds arguments payload) (gives : payload.Gives tool plan)
    {actionId idempotencyKey : String} (named : payload.actionId = .str actionId)
    (bound : payload.idempotencyKey = .str idempotencyKey) (text : Told) :
    argumentsSchema.accepts PyValue.shape (.mapping arguments text) = true := by
  obtain ⟨parameters, preconditions, declared, _, _, reads, checks, declares, _⟩ := gives
  have known := keysSubset_iff.mp holds.known
  obtain ⟨keys, strings, seen⟩ := @shape_mapping arguments text fun item here => by
    obtain ⟨key, _, own⟩ := known item here
    exact ⟨key, own⟩
  unfold argumentsSchema
  rw [Schema.accepts_object]
  refine ⟨keys, _, seen, ?_, ?_, ?_⟩
  · simp [holds.actionId, holds.parameters, holds.preconditions, holds.idempotencyKey]
  · intro key member
    obtain ⟨item, here, own⟩ := (mem_stringKeys strings key).mp member
    obtain ⟨other, listed, same⟩ := known item here
    rw [own] at same
    rw [PyKey.str.inj same]
    simpa [or_comm, or_assoc, or_left_comm] using listed
  · simp only [List.forall_mem_cons, holds.actionId, holds.parameters, holds.preconditions,
      holds.idempotencyKey, holds.compensation, Option.some.injEq, forall_eq', named, bound,
      accepts_text, accepts_of_reads reads, accepts_of_reads checks, true_and]
    refine ⟨?_, by simp⟩
    intro value given
    rw [given] at declares
    exact accepts_of_declares declares

/-- The plan of a payload has the texts of its identity and its key. -/
theorem texts_of_gives (gives : payload.Gives tool plan) :
    plan.actionId = payload.actionId.text ∧
      plan.idempotencyKey = payload.idempotencyKey.text := by
  obtain ⟨_, _, _, _, _, _, _, _, named, bound, made⟩ := gives
  obtain ⟨_, _, _, rfl⟩ := SourceActionPlan.of_make made
  exact ⟨(PyValue.text_of_told named).symm, (PyValue.text_of_told bound).symm⟩

/-- A call that gives a plan conforms to the published schema exactly when its action and its key
are texts. -/
theorem conforms_iff [Stdlib] {adapter : NorthboundActionAdapter} {request : Untrusted}
    {identity : RequestIdentity} {plan : SourceActionPlan}
    (accepted : adapter.toActionPlan request identity = .ok plan) :
    adapter.Conforms request identity plan ↔
      ∀ key ∈ ["actionId", "idempotencyKey"],
        ∃ text, (requestedArguments request).bind (·.get key) = some (.str text) := by
  obtain ⟨_, _, _, tool, arguments, calls, planned⟩ := toActionPlan_eq_ok.mp accepted
  obtain ⟨payload, holds, gives⟩ := plan_eq_ok.mp planned
  obtain ⟨entries, text, shown, params, _, named, given⟩ := calls.shape
  have requested : requestedArguments request = some (.mapping arguments shown) := by
    unfold requestedArguments
    rw [params]
    exact given
  have member : ∀ key, (requestedArguments request).bind (·.get key) = lookupKey key arguments := by
    intro key
    rw [requested]
    rfl
  have texts := texts_of_gives gives
  constructor
  · intro conforms key choice
    rcases List.mem_cons.mp choice with rfl | last
    · exact ⟨plan.actionId, conforms.actionId⟩
    · obtain rfl := List.mem_singleton.mp last
      exact ⟨plan.idempotencyKey, conforms.idempotencyKey⟩
  · intro strings
    obtain ⟨actionId, first⟩ := strings "actionId" (by simp)
    obtain ⟨idempotencyKey, second⟩ := strings "idempotencyKey" (by simp)
    rw [member, holds.actionId] at first
    rw [member, holds.idempotencyKey] at second
    have own := Option.some.inj first
    have bound := Option.some.inj second
    refine ⟨⟨tool, _, ?_, rfl, ?_, rfl⟩, ⟨_, requested, accepts_of_holds holds gives own bound _⟩,
      ?_, ?_⟩
    · unfold requestedTool
      rw [params]
      simp only [Option.bind_some, PyValue.get, named]
      exact calls.known
    · apply List.mem_map_of_mem
      rw [List.mem_filter, List.mem_insertionSort]
      exact ⟨List.mem_of_find?_eq_some calls.known, by simpa using calls.agent⟩
    · rw [member, holds.actionId, texts.1, own]
      rfl
    · rw [member, holds.idempotencyKey, texts.2, bound]
      rfl

/-! ## A key that is a number -/

/-- A payload whose key is the given value. -/
def keyed (key : PyValue) : ActionPayload :=
  { ActionPayload.scored ActionPayload.half with idempotencyKey := key }

/-- A call with a text as its key conforms. -/
theorem conforms_keyed :
    letI := Stdlib.transparent
    ∃ plan, toActionPlan ⟨.small⟩ (keyed (.str "7")).request .small = .ok plan ∧
      (Conforms ⟨.small⟩ (keyed (.str "7")).request .small plan ↔
        ∀ key ∈ ["actionId", "idempotencyKey"], ∃ text,
          (requestedArguments (keyed (.str "7")).request).bind (·.get key) =
            some (.str text)) := by
  let := Stdlib.transparent
  obtain ⟨plan, accepted⟩ := exists_ok (by decide +kernel :
    (toActionPlan ⟨.small⟩ (keyed (.str "7")).request .small).toBool = true)
  exact ⟨plan, accepted, conforms_iff accepted⟩

/-- A call with a number as its key is accepted, though the schema refuses its arguments, and has
the key of a call with the text of the number. -/
theorem number_accepted :
    letI := Stdlib.transparent
    argumentsSchema.accepts PyValue.shape (.mapping (keyed (.int 7)).arguments "") = false ∧
      ∃ plan other, toActionPlan ⟨.small⟩ (keyed (.int 7)).request .small = .ok plan ∧
        toActionPlan ⟨.small⟩ (keyed (.str "7")).request .small = .ok other ∧
        ¬ Conforms ⟨.small⟩ (keyed (.int 7)).request .small plan ∧
        plan.idempotencyKey = other.idempotencyKey := by
  let := Stdlib.transparent
  have refused : argumentsSchema.accepts PyValue.shape
      (.mapping (keyed (.int 7)).arguments "") = false := by decide +kernel
  obtain ⟨plan, accepted⟩ := exists_ok (by decide +kernel :
    (toActionPlan ⟨.small⟩ (keyed (.int 7)).request .small).toBool = true)
  obtain ⟨other, also⟩ := exists_ok (by decide +kernel :
    (toActionPlan ⟨.small⟩ (keyed (.str "7")).request .small).toBool = true)
  refine ⟨refused, plan, other, accepted, also, ?_, ?_⟩
  · intro conforms
    obtain ⟨arguments, given, valid⟩ := conforms.valid
    obtain rfl : PyValue.mapping (keyed (.int 7)).arguments "" = arguments :=
      Option.some.inj given
    rw [refused] at valid
    cases valid
  · have one := (ActionPayload.requested_request (keyed (.int 7))).plan_iff.mp accepted
    have two := (ActionPayload.requested_request (keyed (.str "7"))).plan_iff.mp also
    rw [(texts_of_gives one).2, (texts_of_gives two).2]
    decide +kernel

end NorthboundActionAdapter

end DataHarness
