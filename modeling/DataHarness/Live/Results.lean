import DataHarness.Library.Loops
import DataHarness.Live.Pages

/-!
# The results of the live connectors

A batch needs a reference of lineage, and the live connectors give one for each row, so an answer
without rows raises instead of being a batch. Each connector is described by the rows it makes a
batch of; together they say when the matching records are answered (`represents_iff`).
-/

namespace DataHarness

/-- A limit is positive. -/
theorem QueryRequest.limit_pos (request : QueryRequest) : 0 < request.limit.toNat := by
  have positive := request.limited
  omega

/-- Some of the first are there when any are. -/
theorem take_ne_nil {α : Type} {limit : Nat} (positive : 0 < limit) {values : List α} :
    values.take limit ≠ [] ↔ values ≠ [] := by
  rw [ne_eq, List.take_eq_nil_iff]
  have some : limit ≠ 0 := Nat.ne_of_gt positive
  simp [some]

/-! ## PostgreSQL -/

namespace PostgreSQLLiveConnector

variable {database : Database} {request : QueryRequest} {statement : Statement}

/-- A statement is about an asset of the request. -/
theorem table_of_check (checked : check database request = .ok statement) :
    statement.table ∈ request.assetIds := by
  unfold check at checked
  split at checked
  · rename_i assetId own
    rw [own]
    split at checked
    · cases checked
    split at checked
    · cases checked
    obtain ⟨asked, -, checked⟩ := bind_ok_iff.mp checked
    obtain ⟨selected, -, checked⟩ := bind_ok_iff.mp checked
    obtain ⟨other, -, checked⟩ := bind_ok_iff.mp checked
    obtain ⟨filters, -, checked⟩ := bind_ok_iff.mp checked
    dsimp only at checked
    split at checked
    · cases checked
    split at checked
    · cases checked
    split at checked
    · cases checked
    split at checked
    · rw [← Except.ok.inj checked]
      exact List.mem_singleton_self _
    · cases checked
  · cases checked

variable [Stdlib]

/-- The records a statement selects. -/
def records (statement : Statement) (found : List (List DbValue)) : List Json.Value :=
  found.map fun values => (rowOf statement.columns values).toJson

/-- A batch is made of the records of a statement, when there are some. -/
theorem execute_isBatchOf {moment : Int} {rows : List Json.Value}
    (checked : check database request = .ok statement) :
    IsBatchOf (execute database moment request) rows ↔
      ∃ found, database.select statement = some found ∧ found ≠ [] ∧
        rows = (records statement found).take request.limit.toNat := by
  have named : statement.table ≠ "" := request.scope.2.2 _ (table_of_check checked)
  unfold execute selectRows
  rw [checked]
  dsimp only
  rw [dif_pos named]
  cases database.select statement with
  | none => simp [failed_not_batch]
  | some found =>
    have same : ((found.take request.limit.toNat).map (rowOf statement.columns)).map Dict.toJson =
        (records statement found).take request.limit.toNat := by
      unfold records
      rw [List.map_map, List.map_take]
      rfl
    have some : ((found.take request.limit.toNat).map (rowOf statement.columns)).map
        (fun row => some (recordOf statement.columns row)) ≠ [] ↔ found ≠ [] := by
      rw [ne_eq, List.map_eq_nil_iff, List.map_eq_nil_iff]
      exact take_ne_nil request.limit_pos
    rw [Option.map_some]
    dsimp only
    rw [liveBatch_isBatchOf, references_ne_nil, some, same]
    constructor
    · rintro ⟨own, filled⟩
      exact ⟨found, rfl, filled, own⟩
    · rintro ⟨other, again, filled, own⟩
      obtain rfl := Option.some.inj again
      exact ⟨own, filled⟩

end PostgreSQLLiveConnector

/-! ## S3 -/

namespace S3LiveConnector

variable [Stdlib]

/-- The checks of the connector accept a request. -/
def Accepts (request : QueryRequest) : Prop :=
  request.sourceId = sourceId ∧ request.assetIds = [bucketName]

/-- A batch is made of the objects of one response, when there are some. -/
theorem execute_isBatchOf {bucket : Bucket} {moment : Int} {request : QueryRequest}
    {rows : List Json.Value} (accepts : Accepts request) :
    IsBatchOf (execute bucket moment request) rows ↔
      bucket.objects ≠ [] ∧ rows = (bucket.list request.limit.toNat).map rowOf := by
  have kept : ¬ (request.sourceId ≠ sourceId ∨ request.assetIds ≠ [bucketName]) := by
    rw [not_or, not_not, not_not]
    exact accepts
  have filled : (bucket.list request.limit.toNat).map (fun item => some item.key) ≠ [] ↔
      bucket.objects ≠ [] := by
    rw [ne_eq, List.map_eq_nil_iff]
    exact take_ne_nil (lt_min request.limit_pos bucket.positive)
  unfold execute
  rw [if_neg kept]
  dsimp only
  rw [liveBatch_isBatchOf, references_ne_nil, filled, and_comm]

end S3LiveConnector

/-! ## Kafka -/

namespace KafkaLiveConnector

/-- The loop gives the values of the first messages, where each is handed on. -/
theorem poll_eq {handed : KafkaMessage → Except QueryError Json.Value} {limit : Nat}
    {messages : List KafkaMessage} {rows : List Json.Value} {offsets : List String}
    (few : rows.length < limit) :
    (poll handed limit messages rows offsets).map Prod.fst =
      ((messages.take (limit - rows.length)).mapM handed).map (rows ++ ·) := by
  induction messages generalizing rows offsets with
  | nil =>
    rw [List.take_nil]
    simp [poll, Except.map, pure, Except.pure]
  | cons message messages ih =>
    obtain ⟨rest, left⟩ : ∃ rest, limit - rows.length = rest + 1 :=
      ⟨limit - rows.length - 1, by omega⟩
    rw [left, List.take_succ_cons, List.mapM_cons, poll]
    cases read : handed message with
    | error error => rfl
    | ok value =>
      simp only [bind, Except.bind]
      by_cases enough : limit ≤ (rows ++ [value]).length
      · rw [if_pos enough]
        have last : rest = 0 := by
          rw [List.length_append, List.length_singleton] at enough
          omega
        rw [last, List.take_zero]
        rfl
      · rw [if_neg enough, ih (not_le.mp enough)]
        have same : limit - (rows ++ [value]).length = rest := by
          rw [List.length_append, List.length_singleton]
          omega
        rw [same]
        cases (messages.take rest).mapM handed <;> simp [Except.map, pure, Except.pure]

/-- The checks of the connector accept a request. -/
def Accepts (request : QueryRequest) : Prop :=
  request.sourceId = sourceId ∧ request.assetIds = [topic]

variable [Interpreter]

/-- The values of the first messages. -/
def firstValues (messages : List KafkaMessage) (limit : Nat) :
    Except QueryError (List Json.Value) :=
  (messages.take limit).mapM fun message => deserialize message.value

/-- A consumer that deserializes the messages one by one hands on the values of the first ones. -/
theorem mapM_handed {consumer : KafkaConsumer} (lazy : OneByOne consumer) (limit : Nat) :
    (consumer.messages.take limit).mapM consumer.handed = firstValues consumer.messages limit := by
  have each : ∀ message ∈ consumer.messages.take limit,
      consumer.handed message = deserialize message.value :=
    fun message member => lazy message (List.mem_of_mem_take member)
  unfold firstValues
  generalize consumer.messages.take limit = front at each ⊢
  induction front with
  | nil => rfl
  | cons message messages ih =>
    rw [List.mapM_cons, List.mapM_cons, each message List.mem_cons_self,
      ih fun other member => each other (List.mem_cons_of_mem _ member)]

/-- The loop ends with the values of the first messages exactly when each is read. -/
theorem poll_eq_ok {limit : Nat} (positive : 0 < limit) {consumer : KafkaConsumer}
    (lazy : OneByOne consumer) {rows : List Json.Value} :
    (∃ offsets, poll consumer.handed limit consumer.messages [] [] = .ok (rows, offsets)) ↔
      firstValues consumer.messages limit = .ok rows := by
  have whole := @poll_eq consumer.handed limit consumer.messages [] [] positive
  simp only [List.length_nil, Nat.sub_zero, List.nil_append] at whole
  have same : firstValues consumer.messages limit =
      (poll consumer.handed limit consumer.messages [] []).map Prod.fst := by
    rw [whole, mapM_handed lazy]
    cases firstValues consumer.messages limit <;> rfl
  rw [same]
  cases poll consumer.handed limit consumer.messages [] [] with
  | error error => simp [Except.map]
  | ok read =>
    obtain ⟨values, offsets⟩ := read
    simp [Except.map]

omit [Interpreter] in
/-- A row has a record exactly when it is an object. -/
theorem recordOf_iff [ValueText] {index : Nat} {row : Json.Value} :
    (∃ record, recordOf index row = .ok record) ↔ ∃ members, row = .obj members := by
  constructor
  · rintro ⟨record, made⟩
    cases row with
    | obj members => exact ⟨members, rfl⟩
    | null => cases made
    | bool flag => cases made
    | int number => cases made
    | float number => cases made
    | str text => cases made
    | arr items => cases made
  · rintro ⟨members, rfl⟩
    unfold recordOf
    dsimp only
    cases members.lookup "event_id" with
    | none => exact ⟨_, rfl⟩
    | some value => exact ⟨_, rfl⟩

omit [Interpreter] in
/-- Rows have records exactly when they are objects. -/
theorem records_iff [ValueText] {rows : List Json.Value} :
    (∃ records, (rows.zipIdx.mapM fun entry => recordOf entry.2 entry.1) = .ok records) ↔
      ∀ row ∈ rows, ∃ members, row = .obj members := by
  have whole : rows.zipIdx.map Prod.fst = rows := List.zipIdx_map_fst 0 rows
  rw [Loops.exists_mapM_iff]
  simp only [recordOf_iff]
  conv_rhs => rw [← whole]
  rw [List.forall_mem_map]

/-- A batch is made of the values of the first messages, when there are some and all are objects. -/
theorem execute_isBatchOf [Stdlib] [ValueText] {consumer : KafkaConsumer}
    (lazy : OneByOne consumer) {moment : Int} {request : QueryRequest} {rows : List Json.Value}
    (accepts : Accepts request) :
    IsBatchOf (execute consumer moment request) rows ↔
      firstValues consumer.messages request.limit.toNat = .ok rows ∧ rows ≠ [] ∧
        ∀ row ∈ rows, ∃ members, row = .obj members := by
  have kept : ¬ (request.sourceId ≠ sourceId ∨ request.assetIds ≠ [topic]) := by
    rw [not_or, not_not, not_not]
    exact accepts
  unfold execute
  rw [if_neg kept, ← poll_eq_ok request.limit_pos lazy]
  cases poll consumer.handed request.limit.toNat consumer.messages [] [] with
  | error error => simp [failed_not_batch]
  | ok read =>
    obtain ⟨values, offsets⟩ := read
    dsimp only
    have single : (∃ others, (Except.ok (values, offsets) :
        Except QueryError (List Json.Value × List String)) = .ok (rows, others)) ↔
          rows = values := by
      constructor
      · rintro ⟨others, same⟩
        exact (Prod.mk.inj (Except.ok.inj same)).1.symm
      · rintro rfl
        exact ⟨offsets, rfl⟩
    rw [single]
    cases made : values.zipIdx.mapM fun entry => recordOf entry.2 entry.1 with
    | error error =>
      have unmade : ¬ ∀ row ∈ values, ∃ members, row = .obj members := by
        rw [← records_iff, made]
        rintro ⟨records, same⟩
        cases same
      dsimp only
      constructor
      · intro batch
        exact absurd batch (failed_not_batch _ _)
      · rintro ⟨rfl, -, objects⟩
        exact absurd objects unmade
    | ok records =>
      have objects := records_iff.mp ⟨records, made⟩
      have filled : records ≠ [] ↔ values ≠ [] := by
        rw [Loops.mapM_ne_nil made, ne_eq, List.zipIdx_eq_nil_iff]
      dsimp only
      rw [liveBatch_isBatchOf, references_ne_nil, filled]
      constructor
      · rintro ⟨rfl, some⟩
        exact ⟨rfl, some, objects⟩
      · rintro ⟨rfl, some, -⟩
        exact ⟨rfl, some⟩

end KafkaLiveConnector

/-! ## REST -/

namespace RestLiveConnector

/-- A row is identified: it is an object with an appointment id. -/
def Identified (row : Json.Value) : Prop :=
  ∃ members value, row = .obj members ∧ members.lookup "appointment_id" = some value

/-- A row has a record exactly when it is identified. -/
theorem recordOf_iff {row : Json.Value} :
    (∃ record, recordOf row = .ok record) ↔ Identified row := by
  constructor
  · rintro ⟨record, made⟩
    cases row with
    | obj members =>
      unfold recordOf at made
      dsimp only at made
      cases found : members.lookup "appointment_id" with
      | none =>
        rw [found] at made
        cases made
      | some value => exact ⟨members, value, rfl, found⟩
    | null => cases made
    | bool flag => cases made
    | int number => cases made
    | float number => cases made
    | str text => cases made
    | arr items => cases made
  · rintro ⟨members, value, rfl, found⟩
    unfold recordOf
    dsimp only
    rw [found]
    cases value <;> exact ⟨_, rfl⟩

/-- Rows have records exactly when they are identified. -/
theorem records_iff {rows : List Json.Value} :
    (∃ records, rows.mapM recordOf = .ok records) ↔ ∀ row ∈ rows, Identified row := by
  simp only [← recordOf_iff]
  exact Loops.exists_mapM_iff

variable {κ : Type}

/-- A batch is made of the first rows of the collection, when there are some and all are
identified. -/
theorem execute_isBatchOf [Stdlib] {service : Paging.Service Json.Value κ} {moment : Int}
    {request : QueryRequest} {rows : List Json.Value} (accepts : Accepts request) :
    (∃ fuel feed, execute service moment request fuel = some feed ∧ IsBatchOf feed rows) ↔
      Paging.FirstOf service request.limit.toNat rows ∧ rows ≠ [] ∧
        ∀ row ∈ rows, Identified row := by
  rw [← Paging.reads_iff_firstOf]
  constructor
  · rintro ⟨fuel, feed, answered, batch⟩
    obtain ⟨others, read⟩ := exists_rows accepts answered
    cases made : others.mapM recordOf with
    | error error =>
      rw [execute_unmade accepts read made] at answered
      rw [← Option.some.inj answered] at batch
      exact absurd batch (failed_not_batch _ _)
    | ok records =>
      rw [execute_made accepts read made] at answered
      rw [← Option.some.inj answered, liveBatch_isBatchOf, references_ne_nil,
        Loops.mapM_ne_nil made] at batch
      obtain ⟨rfl, some⟩ := batch
      exact ⟨⟨fuel, read⟩, some, records_iff.mp ⟨records, made⟩⟩
  · rintro ⟨⟨fuel, read⟩, some, all⟩
    obtain ⟨records, made⟩ := records_iff.mpr all
    refine ⟨fuel, _, execute_made accepts read made, ?_⟩
    rw [liveBatch_isBatchOf, references_ne_nil, Loops.mapM_ne_nil made]
    exact ⟨rfl, some⟩

end RestLiveConnector

/-! ## The four connectors -/

/-- A live query connector, and what is behind it. -/
inductive LiveConnector (κ : Type)
  | postgresql (database : Database)
  | s3 (bucket : Bucket)
  | kafka (consumer : KafkaConsumer)
  | rest (service : Paging.Service Json.Value κ)

namespace LiveConnector

variable {κ : Type}

/-- The connector's own checks accept a request. -/
def Accepts (request : QueryRequest) : LiveConnector κ → Prop
  | .postgresql database => ∃ statement, PostgreSQLLiveConnector.check database request = .ok statement
  | .s3 _ => S3LiveConnector.Accepts request
  | .kafka _ => KafkaLiveConnector.Accepts request
  | .rest _ => RestLiveConnector.Accepts request

section Results

variable [Interpreter]

/-- What is assumed of the library behind a connector: the consumer of Kafka deserializes the
messages one by one. -/
def Lazy : LiveConnector κ → Prop
  | .kafka consumer => KafkaLiveConnector.OneByOne consumer
  | _ => True

variable [Stdlib] [ValueText]

/-- `execute` gives a feed. -/
def Answers (moment : Int) (request : QueryRequest) (feed : Feed DataBatch QueryError) :
    LiveConnector κ → Prop
  | .postgresql database => PostgreSQLLiveConnector.execute database moment request = feed
  | .s3 bucket => S3LiveConnector.execute bucket moment request = feed
  | .kafka consumer => KafkaLiveConnector.execute consumer moment request = feed
  | .rest service => ∃ fuel, RestLiveConnector.execute service moment request fuel = some feed

/-- The records that match a request, up to its limit. -/
def Matching (request : QueryRequest) (rows : List Json.Value) : LiveConnector κ → Prop
  | .postgresql database => ∃ statement found,
      PostgreSQLLiveConnector.check database request = .ok statement ∧
        database.select statement = some found ∧
          rows = (PostgreSQLLiveConnector.records statement found).take request.limit.toNat
  | .s3 bucket => rows = (bucket.objects.map S3LiveConnector.rowOf).take request.limit.toNat
  | .kafka consumer =>
    KafkaLiveConnector.firstValues consumer.messages request.limit.toNat = .ok rows
  | .rest service => Paging.FirstOf service request.limit.toNat rows

/-- A request is answered with one batch of its matching records and their number. -/
def Represents (connector : LiveConnector κ) (moment : Int) (request : QueryRequest) : Prop :=
  ∃ feed rows, connector.Answers moment request feed ∧ connector.Matching request rows ∧
    IsBatchOf feed rows

/-- Some record matches, and what the connector needs of the records is there: PostgreSQL answers
the statement, the response of S3 has room for them, the messages of Kafka are objects, and the
rows of REST have an appointment id. -/
def Answerable (request : QueryRequest) : LiveConnector κ → Prop
  | .postgresql database => ∃ statement found,
      PostgreSQLLiveConnector.check database request = .ok statement ∧
        database.select statement = some found ∧ found ≠ []
  | .s3 bucket => bucket.objects ≠ [] ∧
      min request.limit.toNat bucket.objects.length ≤ bucket.maxKeys
  | .kafka consumer => consumer.messages ≠ [] ∧
      ∀ message ∈ consumer.messages.take request.limit.toNat,
        ∃ members, KafkaLiveConnector.deserialize message.value = .ok (.obj members)
  | .rest service => ∃ rows, Paging.FirstOf service request.limit.toNat rows ∧ rows ≠ [] ∧
      ∀ row ∈ rows, RestLiveConnector.Identified row

variable {moment : Int} {request : QueryRequest}

/-- PostgreSQL, when the statement of a request is answered with some rows. -/
theorem represents_postgresql {database : Database}
    (accepts : Accepts request (.postgresql database : LiveConnector κ)) :
    Represents (.postgresql database : LiveConnector κ) moment request ↔
      Answerable request (.postgresql database : LiveConnector κ) := by
  obtain ⟨statement, checked⟩ := accepts
  constructor
  · rintro ⟨feed, rows, rfl, -, batch⟩
    obtain ⟨found, selected, some, -⟩ :=
      (PostgreSQLLiveConnector.execute_isBatchOf checked).mp batch
    exact ⟨statement, found, checked, selected, some⟩
  · rintro ⟨other, found, again, selected, some⟩
    obtain rfl := Except.ok.inj (checked.symm.trans again)
    exact ⟨_, _, rfl, ⟨statement, found, checked, selected, rfl⟩,
      (PostgreSQLLiveConnector.execute_isBatchOf checked).mpr ⟨found, selected, some, rfl⟩⟩

/-- S3, when the bucket has objects and a response has room for those asked for. -/
theorem represents_s3 {bucket : Bucket} (accepts : S3LiveConnector.Accepts request) :
    Represents (.s3 bucket : LiveConnector κ) moment request ↔
      Answerable request (.s3 bucket : LiveConnector κ) := by
  have whole : (bucket.objects.map S3LiveConnector.rowOf).take request.limit.toNat =
      (bucket.list request.limit.toNat).map S3LiveConnector.rowOf ↔
        min request.limit.toNat bucket.objects.length ≤ bucket.maxKeys := by
    unfold Bucket.list
    rw [← List.map_take]
    constructor
    · intro same
      have lengths := congrArg List.length same
      simp only [List.length_map, List.length_take] at lengths
      omega
    · intro room
      have as_many : min request.limit.toNat bucket.objects.length =
          min (min request.limit.toNat bucket.maxKeys) bucket.objects.length := by omega
      rw [List.take_eq_take_iff.mpr as_many]
  constructor
  · rintro ⟨feed, rows, rfl, own, batch⟩
    obtain ⟨some, given⟩ := (S3LiveConnector.execute_isBatchOf accepts).mp batch
    exact ⟨some, whole.mp (own.symm.trans given)⟩
  · rintro ⟨some, room⟩
    exact ⟨_, _, rfl, rfl, (S3LiveConnector.execute_isBatchOf accepts).mpr ⟨some, whole.mpr room⟩⟩

/-- Kafka, when there are messages and those asked for are objects. -/
theorem represents_kafka {consumer : KafkaConsumer}
    (lazy : KafkaLiveConnector.OneByOne consumer)
    (accepts : KafkaLiveConnector.Accepts request) :
    Represents (.kafka consumer : LiveConnector κ) moment request ↔
      Answerable request (.kafka consumer : LiveConnector κ) := by
  constructor
  · rintro ⟨feed, rows, rfl, -, batch⟩
    obtain ⟨read, some, objects⟩ := (KafkaLiveConnector.execute_isBatchOf lazy accepts).mp batch
    unfold KafkaLiveConnector.firstValues at read
    refine ⟨?_, fun message member => ?_⟩
    · intro empty
      rw [Loops.mapM_ne_nil read, empty, List.take_nil] at some
      exact some rfl
    · obtain ⟨row, among, own⟩ := Loops.exists_result_of_mapM read member
      obtain ⟨members, rfl⟩ := objects row among
      exact ⟨members, own⟩
  · rintro ⟨some, objects⟩
    obtain ⟨rows, read⟩ := Loops.exists_mapM fun message member =>
      (objects message member).imp' Json.Value.obj fun _ own => own
    refine ⟨_, rows, rfl, read, (KafkaLiveConnector.execute_isBatchOf lazy accepts).mpr
      ⟨read, ?_, fun row member => ?_⟩⟩
    · rw [Loops.mapM_ne_nil read]
      exact (take_ne_nil request.limit_pos).mpr some
    · obtain ⟨message, among, own⟩ := Loops.exists_of_mapM read member
      obtain ⟨members, object⟩ := objects message among
      exact ⟨members, Except.ok.inj (own.symm.trans object)⟩

/-- REST, when the pages end with some rows and all are identified. -/
theorem represents_rest {service : Paging.Service Json.Value κ}
    (accepts : RestLiveConnector.Accepts request) :
    Represents (.rest service) moment request ↔ Answerable request (.rest service) := by
  constructor
  · rintro ⟨feed, rows, ⟨fuel, answered⟩, -, batch⟩
    exact ⟨rows, (RestLiveConnector.execute_isBatchOf accepts).mp ⟨fuel, feed, answered, batch⟩⟩
  · rintro ⟨rows, first, kept⟩
    obtain ⟨fuel, feed, answered, batch⟩ :=
      (RestLiveConnector.execute_isBatchOf accepts).mpr ⟨first, kept⟩
    exact ⟨feed, rows, ⟨fuel, answered⟩, first, batch⟩

/-- A live connector answers an accepted request with one batch of the matching records exactly
when there is a record and what the connector needs of the records is there. -/
theorem represents_iff {connector : LiveConnector κ} (lazy : connector.Lazy)
    (accepts : connector.Accepts request) :
    connector.Represents moment request ↔ connector.Answerable request := by
  cases connector with
  | postgresql database => exact represents_postgresql accepts
  | s3 bucket => exact represents_s3 accepts
  | kafka consumer => exact represents_kafka lazy accepts
  | rest service => exact represents_rest accepts

end Results

/-- The source and its bucket are named. -/
theorem documents_named : S3LiveConnector.sourceId ≠ "" ∧ S3LiveConnector.bucketName ≠ "" := by
  decide

/-- A request for documents. -/
def documentsRequest : QueryRequest :=
  assetRequest S3LiveConnector.sourceId S3LiveConnector.bucketName documents_named

/-- The source and its topic are named. -/
theorem telemetry_named : KafkaLiveConnector.sourceId ≠ "" ∧ KafkaLiveConnector.topic ≠ "" := by
  decide

/-- A request for messages. -/
def messagesRequest : QueryRequest :=
  assetRequest KafkaLiveConnector.sourceId KafkaLiveConnector.topic telemetry_named

/-- Two messages, each with an object. -/
def twoMessages : letI : Interpreter := .small; KafkaConsumer :=
  letI : Interpreter := .small
  ⟨[⟨0, 0, some "\x7b\x7d".toUTF8⟩, ⟨0, 1, some "\x7b\x7d".toUTF8⟩],
    fun message => KafkaLiveConnector.deserialize message.value⟩

/-- Such a message is read. -/
theorem deserialize_small : @KafkaLiveConnector.deserialize .small (some "\x7b\x7d".toUTF8) =
    .ok (.obj []) := by
  rfl

/-- A bucket with two manuals is listed, and two messages are answered. -/
theorem represents_small :
    @LiveConnector.Represents Nat .small .transparent ⟨Json.dumps⟩
      (.s3 ⟨[⟨"manual.pdf", "\"a1\"", 20, noon⟩, ⟨"parts.pdf", "\"a2\"", 30, noon⟩], 1000,
        by decide⟩) 0 documentsRequest ∧
    @LiveConnector.Represents Nat .small .transparent ⟨Json.dumps⟩ (.kafka twoMessages) 0
      messagesRequest := by
  constructor
  · exact (@represents_iff Nat .small .transparent ⟨Json.dumps⟩ 0 documentsRequest (.s3 _)
      trivial ⟨rfl, rfl⟩).mpr ⟨List.cons_ne_nil _ _, by decide⟩
  · refine (@represents_iff Nat .small .transparent ⟨Json.dumps⟩ 0 messagesRequest
      (.kafka twoMessages) (fun _ _ => rfl) ⟨rfl, rfl⟩).mpr ⟨List.cons_ne_nil _ _, ?_⟩
    intro message member
    have own : message.value = some "\x7b\x7d".toUTF8 := by
      have among := List.mem_of_mem_take member
      simp only [twoMessages, List.mem_cons, List.not_mem_nil, or_false] at among
      rcases among with rfl | rfl
      · rfl
      · rfl
    rw [own]
    exact ⟨[], deserialize_small⟩

/-- An empty bucket is an exception for a request the checks accept, and no batch. -/
theorem empty_raises :
    letI : Interpreter := .small
    letI : Stdlib := .transparent
    letI : ValueText := ⟨Json.dumps⟩
    let connector : LiveConnector Nat := .s3 ⟨[], 1000, by decide⟩
    connector.Accepts documentsRequest ∧ connector.Matching documentsRequest [] ∧
      connector.Answers 0 documentsRequest
        (failed (.valueError "every batch requires source version and lineage")) ∧
      ¬ connector.Represents 0 documentsRequest := by
  refine ⟨⟨rfl, rfl⟩, rfl, rfl, ?_⟩
  rintro ⟨feed, rows, rfl, -, batch⟩
  exact failed_not_batch _ _ batch

end LiveConnector

end DataHarness
