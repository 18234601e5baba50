import DataHarness.Query.Coordination
import DataHarness.Stream.Telemetry

/-!
# Reading the telemetry stream on

Three ways in which a consumer of the stream goes on from where it was: from the checkpoint a ledger
holds, from the checkpoint of the log before it grew, and from the last event of a page. In each the
events announced go on where the earlier ones end.
-/

namespace DataHarness

namespace EventConnector

open CheckpointLedger

/-! ## From a ledger -/

/-- Events cover a log behind a position: of each event with a serial number the earliest arrival,
unless that lies up to the position. -/
structure Covers (connector : EventConnector) (position : Int) (events : List TelemetryLine) :
    Prop where
  /-- No event is there twice. -/
  once : (events.map (·.eventId)).Nodup
  /-- The events come in the order of their sequences. -/
  ordered : events.Pairwise fun early late => early.sequence ≤ late.sequence
  /-- They are lines of the log with a serial number, behind the position. -/
  sound : ∀ event ∈ events, event ∈ connector.rawEvents ∧ event.keeps = true ∧
    position < event.sequence
  /-- They are the earliest lines of their events. -/
  earliest : ∀ event ∈ events, ∀ other ∈ connector.rawEvents, other.keeps = true →
    other.eventId = event.eventId → event.sequence ≤ other.sequence
  /-- Only an event that also has a line up to the position is missing. -/
  complete : ∀ event ∈ connector.rawEvents, event.keeps = true →
    (∃ first ∈ events, first.eventId = event.eventId) ∨
      ∃ first ∈ connector.rawEvents, first.keeps = true ∧ first.eventId = event.eventId ∧
        first.sequence ≤ position

/-- What is pending covers the log behind its position. -/
theorem covers_pending (connector : EventConnector) (position : Int) :
    connector.Covers position (connector.pending position) where
  once := by
    have distinct := EventLog.nodup_logical (·.eventId) (·.sequence) TelemetryLine.keeps
      connector.rawEvents
    exact distinct.sublist (List.filter_sublist.map _)
  ordered := by
    have sorted := EventLog.pairwise_logical (·.eventId) (·.sequence) TelemetryLine.keeps
      connector.rawEvents
    exact sorted.sublist List.filter_sublist
  sound := fun _ member => EventLog.of_mem_after member
  earliest := by
    intro event member other among kept same
    exact EventLog.le_of_mem_logical (List.mem_filter.mp member).1 among kept same
  complete := by
    intro event member kept
    have found := @EventLog.exists_logical _ _ _ _ _ (·.eventId) _ (·.sequence)
      connector.rawEvents event member kept
    obtain ⟨first, among, same, -⟩ := found
    obtain ⟨within, also⟩ := EventLog.of_mem_logical among
    by_cases behind : position < first.sequence
    · exact .inl ⟨first, List.mem_filter.mpr ⟨among, decide_eq_true behind⟩, same⟩
    · exact .inr ⟨first, within, also, same, not_lt.mp behind⟩

/-- A consumer records checkpoints in a ledger, some of which are refused, and subscribes from the
checkpoint the ledger holds for the stream, once after the earlier calls and once after the later
ones. The second subscription announces what the first one announces behind the second checkpoint,
and what it leaves out of it lies between the two; the ledger holds a checkpoint that every accepted
one of the stream is behind, so that nothing up to an accepted checkpoint is announced again. The
times of the checkpoints have fixed offsets, so that they are in order with one another. -/
theorem resumed_from_ledger [Stdlib] (connector : EventConnector)
    (available : connector.available = true) (earlier later : List CheckpointToken)
    {held : CheckpointToken}
    (resumes : (run Table.empty earlier).resume telemetryId telemetryStream = some held) :
    ∃ reached between rest,
      (run Table.empty (earlier ++ later)).resume telemetryId telemetryStream = some reached ∧
      (∀ front token back next, earlier ++ later = front ++ token :: back →
        token.key = (telemetryId, telemetryStream) →
          (run Table.empty front).record token = .ok next → Reaches token reached) ∧
      connector.subscribe (some held.position) = announce (between ++ rest) ∧
      connector.subscribe (some reached.position) = announce rest ∧
      (∀ event ∈ between, event.sequence ≤ position reached) ∧
      connector.Covers (position held) (between ++ rest) ∧
      connector.Covers (position reached) rest := by
  obtain ⟨reached, resumed, reaches⟩ := resume_reaches resumes later
  rw [← run_append] at resumed
  have first := readCheckpoint_text held.required.2.2.1 (numeric_resume resumes)
  have second := readCheckpoint_text reached.required.2.2.1 (numeric_resume resumed)
  have split : connector.pending (position held) =
      (connector.pending (position held)).filter (fun event => event.sequence ≤ position reached) ++
        connector.pending (position reached) :=
    EventLog.after_split reaches.position connector.rawEvents
  refine ⟨reached,
    (connector.pending (position held)).filter (fun event => event.sequence ≤ position reached),
    connector.pending (position reached), resumed, ?_, ?_,
    connector.subscribe_eq available second, ?_, ?_, connector.covers_pending (position reached)⟩
  · intro front token back next shape key recorded
    obtain ⟨source, stream⟩ := Prod.mk.inj key
    obtain ⟨final, ended, behind⟩ := resume_reaches (resume_record recorded) back
    have together : run next back = run Table.empty (earlier ++ later) := by
      rw [shape, List.append_cons, run_append, run_append, run_recorded recorded]
    rw [together, source, stream, resumed] at ended
    rw [Option.some.inj ended]
    exact behind
  · rw [← split]
    exact connector.subscribe_eq available first
  · intro event member
    exact of_decide_eq_true (List.mem_filter.mp member).2
  · rw [← split]
    exact connector.covers_pending (position held)

/-- A ledger holds a checkpoint, refuses one that is behind it, and takes the next. -/
theorem resumed_from_ledger_again :
    letI : Stdlib := .transparent
    let first : CheckpointToken := .telemetry "1" (by decide)
    let others : List CheckpointToken := [.telemetry "0" (by decide), .telemetry "2" (by decide)]
    (run Table.empty [first]).resume telemetryId telemetryStream = some first ∧
      ∃ reached between rest,
        (run Table.empty ([first] ++ others)).resume telemetryId telemetryStream = some reached ∧
        (∀ front token back next, [first] ++ others = front ++ token :: back →
          token.key = (telemetryId, telemetryStream) →
            (run Table.empty front).record token = .ok next → Reaches token reached) ∧
        small.subscribe (some first.position) = announce (between ++ rest) ∧
        small.subscribe (some reached.position) = announce rest ∧
        (∀ event ∈ between, event.sequence ≤ position reached) ∧
        small.Covers (position first) (between ++ rest) ∧
        small.Covers (position reached) rest :=
  letI : Stdlib := .transparent
  have held : (run Table.empty [.telemetry "1" (by decide)]).resume telemetryId telemetryStream =
      some (.telemetry "1" (by decide)) := by decide
  ⟨held, resumed_from_ledger small rfl _ _ held⟩

/-! ## From the checkpoint of a log that grows -/

/-- The connector with more lines in its log. -/
def grown (connector : EventConnector) (batch : List TelemetryLine) : EventConnector :=
  { connector with rawEvents := connector.rawEvents ++ batch }

/-- A consumer subscribes each time the log has grown, from the checkpoint before that. -/
def stages [Stdlib] (connector : EventConnector) :
    List (List TelemetryLine) → List (Feed ChangeEvent EventError)
  | [] => []
  | batch :: rest =>
    (connector.grown batch).subscribe (connector.checkpoint telemetryStream).toOption ::
      stages (connector.grown batch) rest

/-- The lines of each batch come behind all lines before it. -/
def Ascending (connector : EventConnector) (batches : List (List TelemetryLine)) : Prop :=
  (connector.rawEvents :: batches).Pairwise fun early late =>
    ∀ a ∈ early, ∀ b ∈ late, a.sequence < b.sequence

/-- A log that grew in order goes on growing in order. -/
theorem Ascending.grown {connector : EventConnector} {batch : List TelemetryLine}
    {rest : List (List TelemetryLine)} (ascending : connector.Ascending (batch :: rest)) :
    (connector.grown batch).Ascending rest := by
  obtain ⟨first, others⟩ := List.pairwise_cons.mp ascending
  obtain ⟨second, later⟩ := List.pairwise_cons.mp others
  refine List.pairwise_cons.mpr ⟨?_, later⟩
  intro other member a among b within
  rcases List.mem_append.mp among with old | new
  · exact first other (List.mem_cons_of_mem _ member) a old b within
  · exact second other member a new b within

/-- A consumer that subscribes again each time the log has grown in order, from the checkpoint of
the log before, is announced in the end what one subscription of the whole log announces: every
event once, also one that is delivered again in a later batch, and none is left out. -/
theorem announced_in_stages [Stdlib] (connector : EventConnector)
    (available : connector.available = true) (batches : List (List TelemetryLine))
    (ascending : connector.Ascending batches) {start : Int}
    (early : ∃ event ∈ connector.rawEvents, start ≤ event.sequence) :
    ∃ parts : List (List TelemetryLine), connector.stages batches = parts.map announce ∧
      (connector.grown batches.flatten).pending start =
        connector.pending start ++ parts.flatten ∧
      (connector.grown batches.flatten).Covers start
        (connector.pending start ++ parts.flatten) := by
  have split : ∃ parts : List (List TelemetryLine), connector.stages batches = parts.map announce ∧
      (connector.grown batches.flatten).pending start =
        connector.pending start ++ parts.flatten := by
    induction batches generalizing connector with
    | nil =>
      have same : connector.grown [] = connector := by
        unfold EventConnector.grown
        rw [List.append_nil]
      refine ⟨[], rfl, ?_⟩
      rw [List.flatten_nil, same]
      exact (List.append_nil _).symm
    | cons batch rest ih =>
      obtain ⟨low, within, ahead⟩ := early
      obtain ⟨text, made⟩ := connector.checkpoint_isOk (List.ne_nil_of_mem within)
      obtain ⟨top, written, below, event, member, reached⟩ := connector.checkpoint_ok made
      have behind : start ≤ top := le_trans ahead (below low within)
      have above : ∀ other ∈ batch, top < other.sequence := by
        intro other among
        have first := (List.pairwise_cons.mp ascending).1 batch List.mem_cons_self event member
        rw [← reached]
        exact first other among
      have later : ∃ event ∈ (connector.grown batch).rawEvents, start ≤ event.sequence :=
        ⟨low, List.mem_append_left batch within, ahead⟩
      obtain ⟨parts, announced, whole⟩ :=
        ih (connector.grown batch) available ascending.grown later
      refine ⟨(connector.grown batch).pending top :: parts, ?_, ?_⟩
      · have read : readCheckpoint (connector.checkpoint telemetryStream).toOption = .ok top := by
          rw [made, written]
          exact readCheckpoint_toString top
        rw [stages, announced, (connector.grown batch).subscribe_eq available read]
        rfl
      · have grew : (connector.grown batch).grown rest.flatten =
            connector.grown (batch :: rest).flatten := by
          unfold EventConnector.grown
          rw [List.flatten_cons, List.append_assoc]
        have next : (connector.grown batch).pending start =
            connector.pending start ++ (connector.grown batch).pending top :=
          EventLog.after_append behind below above
        rw [← grew, whole, next, List.flatten_cons, List.append_assoc]
  obtain ⟨parts, announced, whole⟩ := split
  refine ⟨parts, announced, whole, ?_⟩
  rw [← whole]
  exact covers_pending _ start

/-- A log grows by a repeated event and a new one, and by nothing. -/
theorem announced_in_stages_repeated :
    letI : Stdlib := .transparent
    let batches : List (List TelemetryLine) := [[.small 4 "EV001", .small 5 "EV003"], []]
    small.available = true ∧ small.Ascending batches ∧
      (∃ event ∈ small.rawEvents, (0 : Int) ≤ event.sequence) ∧
      ∃ parts : List (List TelemetryLine), small.stages batches = parts.map announce ∧
        (small.grown batches.flatten).pending 0 = small.pending 0 ++ parts.flatten ∧
        (small.grown batches.flatten).Covers 0 (small.pending 0 ++ parts.flatten) :=
  letI : Stdlib := .transparent
  have ascending : small.Ascending [[.small 4 "EV001", .small 5 "EV003"], []] := by
    unfold Ascending
    simp [small, TelemetryLine.small]
  have early : ∃ event ∈ small.rawEvents, (0 : Int) ≤ event.sequence :=
    ⟨.small 1 "EV001", List.mem_cons_self, by decide⟩
  ⟨rfl, ascending, early, announced_in_stages small rfl _ ascending early⟩

/-! ## From the last event of a page -/

/-- A consumer queries the first events and subscribes from the sequence of the last of them. The
page and what is announced make up all events, in order and each once, exactly when no event behind
the page has the sequence of its last one. -/
theorem page_then_stream [Stdlib] (connector : EventConnector) (request : QueryRequest)
    {batch : DataBatch} (answered : batch ∈ (connector.execute request).items) :
    ∃ last rest, (connector.page request).getLast? = some last ∧
      batch.payload = .json (.arr ((connector.page request).map (·.line))) ∧
      batch.lineage = (connector.page request).map TelemetryLine.lineage ∧
      ((connector.page request).length : Int) ≤ request.limit ∧
      connector.subscribe (some (toString last.sequence)) = announce rest ∧
      (connector.logicalEvents = connector.page request ++ rest ↔
        ∀ event ∈ connector.logicalEvents.drop request.limit.toNat,
          event.sequence ≠ last.sequence) := by
  unfold execute requireAvailable at answered
  by_cases available : connector.available = true
  · rw [if_pos available] at answered
    unfold DataBatch.make at answered
    by_cases required : [connector.version] ≠ [] ∧
        (connector.page request).map TelemetryLine.lineage ≠ []
    · simp only [dif_pos required, List.mem_singleton] at answered
      have filled : connector.page request ≠ [] := fun empty =>
        required.2 (by rw [empty, List.map_nil])
      have ends := List.getLast?_eq_some_getLast filled
      generalize (connector.page request).getLast filled = last at ends
      refine ⟨last, connector.pending last.sequence, ends, ?_, ?_, ?_,
        connector.subscribe_eq available (readCheckpoint_toString last.sequence), ?_⟩
      · rw [answered]
      · rw [answered]
      · have bounded : (connector.page request).length ≤ request.limit.toNat :=
          List.length_take_le _ _
        have limited := request.limited
        omega
      · exact EventLog.handoff request.limit.toNat ends
    · simp only [dif_neg required] at answered
      cases answered
  · rw [if_neg available] at answered
    cases answered

/-- A query of one event. -/
def firstEvent : QueryRequest :=
  { QueryRequest.small telemetryId telemetry_named.1 with limit := 1, limited := Int.one_pos }

/-- A page of one event and the event announced behind it make up a small log. -/
theorem page_then_stream_small :
    letI : Stdlib := .transparent
    ∃ batch ∈ (small.execute firstEvent).items, ∃ last rest,
      (small.page firstEvent).getLast? = some last ∧ last.eventId = "EV001" ∧
        batch.payload = .json (.arr ((small.page firstEvent).map (·.line))) ∧
        small.subscribe (some (toString last.sequence)) = announce rest ∧
        rest.map (·.eventId) = ["EV002"] ∧
        small.logicalEvents = small.page firstEvent ++ rest := by
  let library : Stdlib := .transparent
  obtain ⟨last, rest, ends, payload, -, -, announced, whole⟩ :=
    page_then_stream small firstEvent List.mem_cons_self
  have page : (small.page firstEvent).getLast? = some (.small 1 "EV001") := rfl
  obtain rfl := Option.some.inj (page.symm.trans ends)
  have split := whole.mpr (by decide)
  refine ⟨_, List.mem_cons_self, _, rest, ends, rfl, payload, announced, ?_, split⟩
  have events : small.logicalEvents.map (·.eventId) = ["EV001", "EV002"] := rfl
  have front : (small.page firstEvent).map (·.eventId) = ["EV001"] := rfl
  rw [split, List.map_append, front] at events
  exact (List.cons.inj events).2

end EventConnector

end DataHarness
