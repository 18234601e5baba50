import DataHarness.Library.Document
import DataHarness.Library.EventLog
import DataHarness.Library.Feed
import DataHarness.Models
import DataHarness.Stream.Checkpoints

/-!
# The telemetry stream of the reference lab

`EventConnector` serves the lines of a log in which an event may come late or twice, and some events
carry no serial number. A consumer queries a page, subscribes from a checkpoint, or keeps its
checkpoint in a ledger and subscribes again from there.
-/

namespace DataHarness

/-- A line of `telemetry.jsonl`, with the members the connector reads. -/
structure TelemetryLine where
  /-- The whole line. -/
  line : Json.Value
  sequence : Int
  eventId : String
  observedAt : String
  /-- None where the member is missing or null. -/
  serialNumber : Option String
  sequenced : line.get? "sequence" = some (.int sequence)
  identified : line.get? "event_id" = some (.str eventId)
  stamped : line.get? "observed_at" = some (.str observedAt)
  serial : (line.get? "serial_number").getD .null = (serialNumber.map .str).getD .null

/-- `ChangeEvent`. -/
structure ChangeEvent where
  eventId : String
  sourceId : String
  assetId : String
  operation : String
  observedAt : DateTime
  payload : Json.Value
  checkpoint : Option String
  tombstone : Bool
  required : eventId ≠ "" ∧ sourceId ≠ "" ∧ assetId ≠ "" ∧ operation ≠ ""
  aware : observedAt.aware = true

/-- What the connector raises: `LabSourceUnavailable`, a `KeyError` or a `ValueError`. -/
inductive EventError
  | unavailable (message : String)
  | unknown (streamId : String)
  | value (message : String)
deriving DecidableEq

/-- `connector_id`. -/
def telemetryId : String := "whitegoods.telemetry"

/-- The asset of the connector, and the name of its stream. -/
def telemetryStream : String := "telemetry_events"

/-- The names of the connector are not empty. -/
theorem telemetry_named : telemetryId ≠ "" ∧ telemetryStream ≠ "" ∧ "upsert" ≠ "" := by decide

namespace TelemetryLine

/-- A dropped event: `not event.get("serial_number")`. -/
def keeps (event : TelemetryLine) : Bool := decide (event.serialNumber.getD "" ≠ "")

/-- `ChangeEvent(…)` for an event of the log. -/
def change [Stdlib] (event : TelemetryLine) : Except EventError ChangeEvent :=
  match fromisoformat (event.observedAt.replace "Z" "+00:00") with
  | none => .error (.value "Invalid isoformat string")
  | some time =>
    if identity : event.eventId ≠ "" then
      if aware : time.aware = true then
        .ok ⟨event.eventId, telemetryId, telemetryStream, "upsert", time, event.line,
          some (toString event.sequence), false, ⟨identity, telemetry_named⟩, aware⟩
      else .error (.value "change event observed_at must be timezone-aware")
    else .error (.value "change event identity, source, asset and operation are required")

/-- The lineage of an event in a batch. -/
def lineage (event : TelemetryLine) : LineageRef :=
  ⟨telemetryId, telemetryStream, some event.eventId, none,
    telemetry_named.1, telemetry_named.2.1⟩

end TelemetryLine

/-- `EventConnector`. -/
structure EventConnector where
  available : Bool
  version : SourceVersion
  rawEvents : List TelemetryLine

namespace EventConnector

variable (connector : EventConnector)

/-- `logical_events`. -/
def logicalEvents : List TelemetryLine :=
  EventLog.logical (·.eventId) (·.sequence) TelemetryLine.keeps connector.rawEvents

/-- `_require_available`. -/
def requireAvailable : Except EventError Unit :=
  if connector.available = true then .ok ()
  else .error (.unavailable ("injected outage: " ++ telemetryId))

/-- The batch `execute` yields. -/
def page (request : QueryRequest) : List TelemetryLine :=
  connector.logicalEvents.take request.limit.toNat

/-- `execute`. -/
def execute (request : QueryRequest) : Feed DataBatch EventError :=
  match connector.requireAvailable with
  | .error error => ⟨[], some error⟩
  | .ok _ =>
    let events := connector.page request
    match DataBatch.make .event (.json (.arr (events.map (·.line)))) [connector.version]
      (events.map TelemetryLine.lineage) (some events.length) none with
    | .error message => ⟨[], some (.value message)⟩
    | .ok batch => ⟨[batch], none⟩

/-- `int(checkpoint or 0)`. -/
def readCheckpoint : Option String → Except EventError Int
  | none => .ok 0
  | some text =>
    if text = "" then .ok 0
    else
      match intOfText text with
      | some position => .ok position
      | none => .error (.value "invalid literal for int() with base 10")

/-- The loop of `subscribe`. -/
def replay [Stdlib] (position : Int) : List TelemetryLine → Feed ChangeEvent EventError
  | [] => ⟨[], none⟩
  | event :: rest =>
    if event.sequence ≤ position then replay position rest
    else
      match event.change with
      | .error error => ⟨[], some error⟩
      | .ok change => (replay position rest).push change

/-- `subscribe`. -/
def subscribe [Stdlib] (checkpoint : Option String) : Feed ChangeEvent EventError :=
  match connector.requireAvailable with
  | .error error => ⟨[], some error⟩
  | .ok _ =>
    match readCheckpoint checkpoint with
    | .error error => ⟨[], some error⟩
    | .ok position => replay position connector.logicalEvents

/-- `checkpoint`. -/
def checkpoint (streamId : String) : Except EventError String :=
  if streamId ≠ telemetryStream then .error (.unknown streamId)
  else
    match (connector.rawEvents.map (·.sequence)).max? with
    | none => .error (.value "max() iterable argument is empty")
    | some top => .ok (toString top)

/-! ## What a subscription announces -/

/-- Events announced one after another, up to one that makes no change event. -/
def announce [Stdlib] : List TelemetryLine → Feed ChangeEvent EventError
  | [] => ⟨[], none⟩
  | event :: rest =>
    match event.change with
    | .error error => ⟨[], some error⟩
    | .ok change => (announce rest).push change

/-- The events behind a position. -/
def pending (position : Int) : List TelemetryLine :=
  EventLog.after (·.eventId) (·.sequence) TelemetryLine.keeps position connector.rawEvents

/-- The loop announces the events behind its position. -/
theorem replay_eq [Stdlib] (position : Int) (events : List TelemetryLine) :
    replay position events = announce (events.filter fun event => position < event.sequence) := by
  induction events with
  | nil => rfl
  | cons event rest ih =>
    by_cases low : event.sequence ≤ position
    · rw [replay, if_pos low, List.filter_cons, if_neg (by simpa using low), ih]
    · rw [replay, if_neg low, List.filter_cons, if_pos (by simpa using low), announce, ih]

/-- A subscription announces the events behind its checkpoint. -/
theorem subscribe_eq [Stdlib] (available : connector.available = true)
    {checkpoint : Option String} {position : Int}
    (read : readCheckpoint checkpoint = .ok position) :
    connector.subscribe checkpoint = announce (connector.pending position) := by
  unfold subscribe requireAvailable
  rw [if_pos available, read]
  exact replay_eq position connector.logicalEvents

/-- A checkpoint that is a number is read as that number. -/
theorem readCheckpoint_text {text : String} {position : Int} (filled : text ≠ "")
    (number : intOfText text = some position) : readCheckpoint (some text) = .ok position := by
  show (if text = "" then _ else _) = _
  rw [if_neg filled, number]

/-- What `str` wrote of a position is read as that position. -/
theorem readCheckpoint_toString (position : Int) :
    readCheckpoint (some (toString position)) = .ok position := by
  have number := intOfText_toString_int position
  have filled : toString position ≠ "" := by
    intro empty
    rw [empty] at number
    cases number
  exact readCheckpoint_text filled number

/-- A checkpoint is a position that no line of the log is above, and that one of them has. -/
theorem checkpoint_ok {text : String} (made : connector.checkpoint telemetryStream = .ok text) :
    ∃ top, text = toString top ∧ (∀ event ∈ connector.rawEvents, event.sequence ≤ top) ∧
      ∃ event ∈ connector.rawEvents, event.sequence = top := by
  unfold checkpoint at made
  rw [if_neg (not_not.mpr rfl)] at made
  cases found : (connector.rawEvents.map (·.sequence)).max? with
  | none =>
    rw [found] at made
    cases made
  | some top =>
    rw [found] at made
    obtain ⟨within, above⟩ := List.max?_eq_some_iff.mp found
    refine ⟨top, (Except.ok.inj made).symm, ?_, List.mem_map.mp within⟩
    intro event member
    exact above event.sequence (List.mem_map.mpr ⟨event, member, rfl⟩)

/-- Only a log without lines has no checkpoint. -/
theorem checkpoint_isOk (filled : connector.rawEvents ≠ []) :
    ∃ text, connector.checkpoint telemetryStream = .ok text := by
  unfold checkpoint
  rw [if_neg (not_not.mpr rfl)]
  cases found : (connector.rawEvents.map (·.sequence)).max? with
  | none => exact absurd (List.map_eq_nil_iff.mp (List.max?_eq_none_iff.mp found)) filled
  | some top => exact ⟨_, rfl⟩

end EventConnector

/-! ## A small log -/

/-- The line of a small event. -/
def smallLine (sequence : Int) (eventId : String) : Json.Value :=
  .obj [("sequence", .int sequence), ("event_id", .str eventId),
    ("observed_at", .str "2025-05-01T08:45:02Z"), ("serial_number", .str "SN-WM-001")]

/-- A small line has the members the connector reads. -/
theorem smallLine_members (sequence : Int) (eventId : String) :
    (smallLine sequence eventId).get? "sequence" = some (.int sequence) ∧
      (smallLine sequence eventId).get? "event_id" = some (.str eventId) ∧
      (smallLine sequence eventId).get? "observed_at" = some (.str "2025-05-01T08:45:02Z") ∧
      ((smallLine sequence eventId).get? "serial_number").getD .null =
        ((some "SN-WM-001").map Json.Value.str).getD .null :=
  ⟨rfl, rfl, rfl, rfl⟩

/-- A small event. -/
def TelemetryLine.small (sequence : Int) (eventId : String) : TelemetryLine :=
  ⟨smallLine sequence eventId, sequence, eventId, "2025-05-01T08:45:02Z", some "SN-WM-001",
    (smallLine_members sequence eventId).1, (smallLine_members sequence eventId).2.1,
    (smallLine_members sequence eventId).2.2.1, (smallLine_members sequence eventId).2.2.2⟩

/-- The version of a small log is named. -/
theorem smallLog_named : telemetryId ≠ "" ∧ "sha256:v1" ≠ "" := by decide

/-- Two events, the second of which came twice. -/
def EventConnector.small : EventConnector :=
  ⟨true, ⟨telemetryId, "sha256:v1", noon, none, smallLog_named, noon_aware⟩,
    [.small 1 "EV001", .small 3 "EV002", .small 2 "EV002"]⟩

end DataHarness
