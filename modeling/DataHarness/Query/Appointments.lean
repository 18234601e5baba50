import DataHarness.Decode.Numbers
import DataHarness.Library.Slices
import DataHarness.Query.Documents
import Mathlib.Data.List.TakeWhile

/-!
# Appointments page by page

`ServiceApiConnector` answers with the appointments from a cursor on, in pages. It does not check
the cursor, so that a negative one counts from the end, and a page between the end and the start can
be empty, which no batch may be. Whatever the cursor, what is delivered is one consecutive part of
the appointments.
-/

namespace DataHarness

/-- A row of `appointments`. -/
structure Appointment where
  appointmentId : String
  serviceOrderId : String
  technicianId : String
  scheduledAt : String
  status : String

/-- An appointment in a payload. -/
def Appointment.toJson (row : Appointment) : Json.Value :=
  .obj [("appointment_id", .str row.appointmentId), ("service_order_id", .str row.serviceOrderId),
    ("technician_id", .str row.technicianId), ("scheduled_at", .str row.scheduledAt),
    ("status", .str row.status)]

/-- `ServiceApiConnector`: the appointments of its fixture, and the version of the data set. -/
structure ServiceApiConnector where
  appointments : List Appointment
  version : String
  versioned : version ≠ ""

namespace ServiceApiConnector

/-- `connector_id`. -/
def serviceApiId : String := "whitegoods.service-api"

/-- The names of the connector are not empty. -/
theorem service_named : serviceApiId ≠ "" ∧ "appointments" ≠ "" := by decide

/-! ## What a plan asks for -/

/-- `int(value)` of a plan; what it gives of a float, and of an object that may be bytes or have an
`__int__`, is a parameter. -/
def intOfPlan (converted : PyValue → Except QueryError Int) :
    PyValue → Except QueryError Int
  | .int number => .ok number
  | .bool flag => .ok (if flag then 1 else 0)
  | .float number => converted (.float number)
  | .other text => converted (.other text)
  | .str text =>
    match intOfText text with
    | some number => .ok number
    | none => .error (.valueError "invalid literal for int() with base 10")
  | _ => .error
      (.typeError "int() argument must be a string, a bytes-like object or a real number")

/-- `page_size` and `cursor` of a request. -/
def scope (converted : PyValue → Except QueryError Int) (request : QueryRequest) :
    Except QueryError (Int × Int) := do
  let stated ← intOfPlan converted ((lookupKey "page_size" request.plan).getD (.int 2))
  let size := min stated request.limit
  if size ≤ 0 then .error (.valueError "page_size must be positive")
  else
    let cursor ← intOfPlan converted ((lookupKey "cursor" request.plan).getD (.int 0))
    .ok (size, cursor)

/-- `service_order_id is None or row["service_order_id"] == service_order_id`. -/
def ofOrder (plan : List (PyKey × PyValue)) (row : Appointment) : Bool :=
  match lookupKey "service_order_id" plan with
  | none | some .none => true
  | some value => value.equals row.serviceOrderId

/-- `rows`. -/
def rows (connector : ServiceApiConnector) (request : QueryRequest) : List Appointment :=
  (connector.appointments.filter (ofOrder request.plan)).take request.limit.toNat

/-! ## Pages -/

variable (connector : ServiceApiConnector)

/-- `self.version`. -/
def sourceVersion : SourceVersion where
  sourceId := serviceApiId
  version := connector.version
  observedAt := StructuredConnector.fixedTime
  effectiveAt := none
  required := ⟨service_named.1, connector.versioned⟩
  aware := DocumentConnector.fixed_aware

/-- The lineage of one record. -/
def lineageRef (record : String) : LineageRef :=
  ⟨serviceApiId, "appointments", some record, none, service_named⟩

/-- The payload of a page. -/
def payloadOf (page : List Appointment) : Payload := .json (.arr (page.map Appointment.toJson))

/-- The batch of a page, which is refused where the page is empty. -/
def pageBatch (page : List Appointment) : Except String DataBatch :=
  DataBatch.make .arrow (payloadOf page) [connector.sourceVersion]
    (page.map fun row => lineageRef row.appointmentId) (some page.length) none

/-- The batch of no appointments. -/
def emptyBatch : DataBatch :=
  ⟨.arrow, payloadOf [], [connector.sourceVersion], [lineageRef "empty-result"], some 0, none,
    ⟨List.cons_ne_nil _ _, List.cons_ne_nil _ _⟩⟩

/-- The loop over the starts of the pages. -/
def pages (rows : List Appointment) (size : Int) : List Int → Feed DataBatch QueryError
  | [] => ⟨[], none⟩
  | start :: later =>
    match connector.pageBatch (Slices.slice rows start (start + size)) with
    | .error message => ⟨[], some (.valueError message)⟩
    | .ok batch => (pages rows size later).push batch

/-- `execute`; during an injected outage the connector is not available. -/
def execute (converted : PyValue → Except QueryError Int) (available : Bool)
    (request : QueryRequest) : Feed DataBatch QueryError :=
  if available then
    let rows := connector.rows request
    match scope converted request with
    | .error error => ⟨[], some error⟩
    | .ok (size, cursor) =>
      let answer := connector.pages rows size (Slices.steps cursor rows.length size)
      if rows.isEmpty && answer.raised.isNone then ⟨answer.items ++ [connector.emptyBatch], none⟩
      else answer
  else ⟨[], some (.labSourceUnavailable ("injected outage: " ++ serviceApiId))⟩

/-- The connector as the gateway sees it. -/
def asConnector (converted : PyValue → Except QueryError Int) (available : Bool) :
    QueryConnector where
  connectorId := serviceApiId
  capabilities := [.discover, .describe, .query]
  maxResultBytes := 10485760
  execute := connector.execute converted available

variable {connector}

/-- A page that is not empty has a batch with its appointments. -/
theorem pageBatch_of_ne {page : List Appointment} (some : page ≠ []) :
    ∃ batch, connector.pageBatch page = .ok batch ∧ batch.payload = payloadOf page := by
  have lineage : page.map (fun row => lineageRef row.appointmentId) ≠ [] :=
    fun none => some (List.map_eq_nil_iff.mp none)
  refine ⟨⟨.arrow, payloadOf page, [connector.sourceVersion],
    page.map fun row => lineageRef row.appointmentId, page.length, none,
    List.cons_ne_nil _ _, lineage⟩, ?_, rfl⟩
  exact dif_pos ⟨List.cons_ne_nil _ _, lineage⟩

/-- An empty page has none. -/
theorem pageBatch_nil :
    connector.pageBatch [] = .error "every batch requires source version and lineage" := rfl

/-! ## What the pages hold -/

variable {rows : List Appointment} {size cursor : Int}
  {converted : PyValue → Except QueryError Int} {request : QueryRequest}

/-- Batches have pages for payloads. -/
def Hold (batches : List DataBatch) (pages : List (List Appointment)) : Prop :=
  batches.map (·.payload) = pages.map payloadOf

/-- A page is not empty. -/
def filled (page : List Appointment) : Bool := !page.isEmpty

/-- A filled page has appointments. -/
theorem filled_iff {page : List Appointment} : filled page = true ↔ page ≠ [] := by
  cases page <;> simp [filled]

/-- There are no filled pages of nothing. -/
theorem takeWhile_nil (starts : List Int) :
    (starts.map fun index => Slices.slice ([] : List Appointment) index (index + size)).takeWhile
      filled = [] := by
  cases starts with
  | nil => rfl
  | cons start later => rw [List.map_cons, Slices.slice_nil]; rfl

/-- The pages are the windows before the first empty one, and nothing is raised where there is
none. -/
theorem pages_spec (starts : List Int) :
    (connector.pages rows size starts).items.map (·.payload) =
        ((starts.map fun index => Slices.slice rows index (index + size)).takeWhile filled).map
          payloadOf ∧
      ((connector.pages rows size starts).raised = none ↔
        ∀ page ∈ starts.map fun index => Slices.slice rows index (index + size), page ≠ []) := by
  induction starts with
  | nil => simp [pages]
  | cons start later ih =>
    rw [pages, List.map_cons]
    by_cases empty : Slices.slice rows start (start + size) = []
    · rw [empty, pageBatch_nil]
      simp [filled]
    · obtain ⟨batch, made, payload⟩ := @pageBatch_of_ne connector _ empty
      rw [made, List.takeWhile_cons_of_pos (filled_iff.mpr empty)]
      constructor
      · rw [Feed.items_push, List.map_cons, payload, ih.1, List.map_cons]
      · rw [Feed.raised_push, ih.2, List.forall_mem_cons, and_iff_right empty]

/-- The page size of a request is positive. -/
theorem scope_pos (asked : scope converted request = .ok (size, cursor)) : 0 < size := by
  obtain ⟨stated, -, asked⟩ := of_bind_ok asked
  dsimp only at asked
  split at asked
  · cases asked
  rename_i positive
  obtain ⟨own, -, asked⟩ := of_bind_ok asked
  rw [← (Prod.mk.inj (Except.ok.inj asked)).1]
  exact not_le.mp positive

/-- The connector answers with the windows before the first empty one, or with one empty page where
there are no appointments. -/
theorem execute_spec (asked : scope converted request = .ok (size, cursor)) :
    ∃ all, Hold (connector.execute converted true request).items all ∧
      (connector.rows request = [] ∧ all = [[]] ∨
        all = (Slices.windows (connector.rows request) size cursor).takeWhile filled ∧
          ((connector.execute converted true request).raised = none ↔
            ∀ page ∈ Slices.windows (connector.rows request) size cursor, page ≠ [])) := by
  obtain ⟨payloads, raised⟩ := @pages_spec connector (connector.rows request) size
    (Slices.steps cursor (connector.rows request).length size)
  unfold execute
  rw [if_pos rfl, asked]
  dsimp only
  split
  · rename_i nothing
    rw [Bool.and_eq_true, List.isEmpty_iff] at nothing
    refine ⟨[[]], ?_, .inl ⟨nothing.1, rfl⟩⟩
    rw [nothing.1, takeWhile_nil] at payloads
    unfold Hold
    rw [nothing.1, List.map_append, payloads]
    rfl
  · exact ⟨_, payloads, .inr ⟨rfl, raised⟩⟩

/-- Where there are appointments, the answer is the pages. -/
theorem execute_of_ne (asked : scope converted request = .ok (size, cursor))
    (some : connector.rows request ≠ []) :
    connector.execute converted true request = connector.pages (connector.rows request) size
      (Slices.steps cursor (connector.rows request).length size) := by
  unfold execute
  rw [if_pos rfl, asked]
  dsimp only
  rw [List.isEmpty_eq_false_iff.mpr some, Bool.false_and, if_neg Bool.false_ne_true]

/-- First batches of the answer are one consecutive part of the appointments, from the cursor on. -/
theorem prefix_execute (asked : scope converted request = .ok (size, cursor)) (available : Bool)
    {front : List DataBatch}
    (first : front <+: (connector.execute converted available request).items) :
    ∃ pages, Hold front pages ∧
      pages.flatten =
        Slices.slice (connector.rows request) cursor (cursor + pages.length * size) ∧
      ∀ page ∈ pages, (page.length : Int) ≤ size ∧ (page = [] → connector.rows request = []) := by
  have sized := scope_pos asked
  by_cases up : available = true
  · rw [up] at first
    obtain ⟨all, payloads, kinds⟩ := @execute_spec connector _ _ _ _ asked
    have shown : Hold front (all.take front.length) := by
      unfold Hold
      rw [List.map_take, ← payloads, ← List.map_take, ← List.prefix_iff_eq_take.mp first]
    refine ⟨all.take front.length, shown, ?_⟩
    rcases kinds with ⟨empty, same⟩ | ⟨same, -⟩
    · -- No appointments: the one page is the empty one.
      rw [empty, Slices.slice_nil, List.flatten_eq_nil_iff]
      have none : ∀ page ∈ all.take front.length, page = [] := by
        intro page member
        rw [same] at member
        exact List.mem_singleton.mp (List.mem_of_mem_take member)
      refine ⟨none, ?_⟩
      intro page member
      rw [none page member]
      exact ⟨le_of_lt sized, fun _ => rfl⟩
    · have among : all.take front.length <+:
          Slices.windows (connector.rows request) size cursor :=
        (List.take_prefix _ _).trans (same ▸ List.takeWhile_prefix _)
      have full : ∀ page ∈ all.take front.length, page ≠ [] := by
        intro page member
        have before := List.mem_of_mem_take member
        rw [same] at before
        exact filled_iff.mp (List.mem_takeWhile_imp before)
      refine ⟨Slices.flatten_of_prefix sized among full, ?_⟩
      intro page member
      exact ⟨Slices.length_of_mem_windows sized (among.subset member),
        fun empty => absurd empty (full page member)⟩
  · have nothing : (connector.execute converted available request).items = [] := by
      unfold execute
      rw [if_neg up]
    rw [nothing] at first
    rw [List.prefix_nil.mp first]
    refine ⟨[], rfl, ?_, fun page member => absurd member List.not_mem_nil⟩
    rw [List.length_nil, Nat.cast_zero, Int.zero_mul, Int.add_zero, Slices.slice_self]
    rfl

/-- An answer without an error has all the appointments from the cursor on. -/
theorem execute_complete (asked : scope converted request = .ok (size, cursor))
    (quiet : (connector.execute converted true request).raised = none) :
    ∃ all, Hold (connector.execute converted true request).items all ∧
      all.flatten = (connector.rows request).drop
        (Slices.place (connector.rows request).length cursor) := by
  obtain ⟨all, payloads, ⟨empty, same⟩ | ⟨same, raised⟩⟩ := @execute_spec connector _ _ _ _ asked
  · refine ⟨all, payloads, ?_⟩
    rw [same, empty, List.drop_nil]
    rfl
  · have full := raised.mp quiet
    have every : all = Slices.windows (connector.rows request) size cursor := by
      rw [same, List.takeWhile_eq_self_iff]
      exact fun page member => filled_iff.mpr (full page member)
    exact ⟨all, payloads, by rw [every, Slices.flatten_windows (scope_pos asked) cursor full]⟩

/-- A cursor that is not negative raises nothing. -/
theorem raised_execute (asked : scope converted request = .ok (size, cursor))
    (forward : 0 ≤ cursor) : (connector.execute converted true request).raised = none := by
  have raised := (@pages_spec connector (connector.rows request) size
    (Slices.steps cursor (connector.rows request).length size)).2.mpr
      (Slices.windows_ne_nil (scope_pos asked) cursor forward)
  unfold execute
  rw [if_pos rfl, asked]
  dsimp only
  split
  · rfl
  · exact raised

/-- The pages from a later start are those behind. -/
theorem drop_pages (sized : 0 < size) (count : Nat) (start : Int) (forward : 0 ≤ start) :
    (connector.pages rows size (Slices.steps start rows.length size)).items.drop count =
      (connector.pages rows size
        (Slices.steps (start + count * size) rows.length size)).items := by
  induction count generalizing start with
  | zero => rw [Nat.cast_zero, Int.zero_mul, Int.add_zero, List.drop_zero]
  | succ count ih =>
    rcases lt_or_ge start rows.length with before | behind
    · have some : Slices.slice rows start (start + size) ≠ [] := by
        apply Slices.windows_ne_nil sized start forward
        rw [Slices.windows_of_lt sized before]
        exact List.mem_cons_self
      obtain ⟨batch, made, -⟩ := @pageBatch_of_ne connector _ some
      rw [Slices.steps_of_lt sized before, pages, made, Slices.start_succ,
        ← ih (start + size) (by omega)]
      rfl
    · have more : 0 ≤ (count + 1 : Nat) * size :=
        Int.mul_nonneg (Int.natCast_nonneg _) (le_of_lt sized)
      rw [Slices.steps_of_le sized behind, Slices.steps_of_le sized (by omega)]
      exact List.drop_nil

/-- Whatever other connectors a gateway has, whatever stops the query and wherever the cursor is,
the appointments an agent is handed are one consecutive part of those it asks for, from the cursor
on as Python counts it, in pages of the size at most. An answer without an error has all of them to
the end; a cursor that is not negative never raises, and one that is some pages later is answered
with the pages behind those. -/
theorem pages_in_order {gateway : HarnessGateway} {available : Bool} {interruptions : Interruptions}
    {identity : RequestIdentity}
    (registered : gateway.registry.get request.sourceId .query =
      .ok (connector.asConnector converted available))
    (asked : scope converted request = .ok (size, cursor)) :
    (∃ pages, Hold (gateway.execute interruptions request identity).items pages ∧
        pages.flatten =
          Slices.slice (connector.rows request) cursor (cursor + pages.length * size) ∧
        ∀ page ∈ pages,
          (page.length : Int) ≤ size ∧ (page = [] → connector.rows request = [])) ∧
      ((connector.execute converted true request).raised = none →
        ∃ all, Hold (connector.execute converted true request).items all ∧
          all.flatten = (connector.rows request).drop
            (Slices.place (connector.rows request).length cursor)) ∧
      (0 ≤ cursor → (connector.execute converted true request).raised = none ∧
        ∀ later count, scope converted later = .ok (size, cursor + (count : Nat) * size) →
          connector.rows later = connector.rows request → connector.rows request ≠ [] →
            (connector.execute converted true later).items =
              (connector.execute converted true request).items.drop count) := by
  refine ⟨?_, execute_complete asked, fun forward => ⟨raised_execute asked forward, ?_⟩⟩
  · exact prefix_execute asked available (HarnessGateway.execute_first registered)
  · intro later count resumed same some
    rw [execute_of_ne asked some, execute_of_ne resumed (same ▸ some), same]
    exact (drop_pages (scope_pos asked) count cursor forward).symm

/-! ## Small runs -/

/-- Three appointments. -/
def three : ServiceApiConnector where
  appointments := [⟨"AP001", "SO1002", "T17", "2025-05-18T08:30:00Z", "completed"⟩,
    ⟨"AP002", "SO1004", "T22", "2025-06-07T07:45:00Z", "completed"⟩,
    ⟨"AP003", "SO1005", "T17", "2025-06-09T14:00:00Z", "completed"⟩]
  version := "sha256:rows"
  versioned := StructuredConnector.rows_versioned

/-- Their plans have neither floats nor other objects. -/
def noFloats : PyValue → Except QueryError Int :=
  fun _ => .error (.valueError "cannot convert float NaN to integer")

/-- A gateway that has only these. -/
def threeGateway : HarnessGateway where
  registry := ⟨[three.asConnector noFloats true], List.nodup_singleton _⟩
  policy := WhiteGoodsPolicy.evaluate fun _ _ => false

/-- The limit of three is positive. -/
theorem limited_three : (0 : Int) < 3 := by decide

/-- A query from a cursor on, in pages of two. -/
def startingAt (cursor : Int) : QueryRequest where
  sourceId := "whitegoods.service-api"
  assetIds := ["appointments"]
  plan := [(.str "page_size", .int 2), (.str "cursor", .int cursor)]
  limit := 3
  deadlineMs := 1
  purpose := "analysis"
  policyAttributes := []
  scope := by decide
  limited := limited_three
  timed := Int.one_pos
  purposed := StructuredConnector.analysis_purposed

/-- The second and the third appointment are one page. -/
theorem pages_in_order_second :
    (∃ pages, Hold (threeGateway.execute .none (startingAt 1) .lab).items pages ∧
        pages.flatten =
          Slices.slice (three.rows (startingAt 1)) 1 (1 + pages.length * 2) ∧
        ∀ page ∈ pages, (page.length : Int) ≤ 2 ∧
          (page = [] → three.rows (startingAt 1) = [])) ∧
      ((three.execute noFloats true (startingAt 1)).raised = none →
        ∃ all, Hold (three.execute noFloats true (startingAt 1)).items all ∧
          all.flatten = (three.rows (startingAt 1)).drop
            (Slices.place (three.rows (startingAt 1)).length 1)) ∧
      ((0 : Int) ≤ 1 →
        (three.execute noFloats true (startingAt 1)).raised = none ∧
        ∀ later count, scope noFloats later = .ok (2, 1 + (count : Nat) * 2) →
          three.rows later = three.rows (startingAt 1) →
            three.rows (startingAt 1) ≠ [] →
              (three.execute noFloats true later).items =
                (three.execute noFloats true (startingAt 1)).items.drop count) := by
  have registered : threeGateway.registry.get (startingAt 1).sourceId .query =
      .ok (three.asConnector noFloats true) := rfl
  have asked : scope noFloats (startingAt 1) = .ok (2, 1) := rfl
  exact pages_in_order registered asked

/-- From three appointments before the end there is a page, and an empty one that is refused. -/
example : (three.execute noFloats true (startingAt (-3))).items.length = 1 ∧
    (three.execute noFloats true (startingAt (-3))).raised.isSome := by
  decide

end ServiceApiConnector

end DataHarness
