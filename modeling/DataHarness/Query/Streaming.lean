import DataHarness.Query.Runtime

/-!
# Queries over streams without a known end

`HarnessGateway.execute` is an asynchronous generator: nothing of it runs before its caller asks
for a batch, and each time the caller asks, it takes one batch of the connector, accounts for it
and hands it on. The connector's stream may never end, so that the bounds are stated at every
moment of a query, by the number of times the caller has asked.
-/

namespace DataHarness

namespace HarnessGateway

/-! ## What the bounds mean -/

/-- The size a batch is charged for: the larger of its encoding and what it declares. -/
def size (batch : DataBatch) : Nat :=
  max (batch.payload.encoded.getD 0) (batch.byteCount.getD 0)

/-- The rows a batch is charged for: the length of a list or a tuple, else what it declares. -/
def rows (batch : DataBatch) : Nat := batch.payload.sequence.getD (batch.rowCount.getD 0)

/-- What a batch satisfies by itself. -/
structure Admissible (request : QueryRequest) (batch : DataBatch) : Prop where
  /-- It has a version of the requested source. -/
  versioned : ∃ version ∈ batch.sourceVersions, version.sourceId = request.sourceId
  /-- A row count that is declared of a list or a tuple is its length. -/
  truthful : ∀ actual, batch.payload.sequence = some actual →
    ∀ declared, batch.rowCount = some declared → declared = actual
  /-- It is bytes, or JSON that is finite and can be written. -/
  encodable : ∃ length, batch.payload.encoded = some length

/-- What the batches of a query satisfy together. -/
structure Bounded (maxResultBytes : Nat) (request : QueryRequest) (batches : List DataBatch) :
    Prop where
  admissible : ∀ batch ∈ batches, Admissible request batch
  rows : ((batches.map HarnessGateway.rows).sum : Int) ≤ request.limit
  bytes : (batches.map HarnessGateway.size).sum ≤ maxResultBytes

variable {maxResultBytes : Nat} {request : QueryRequest}

/-- A batch is charged for its size if it can be encoded. -/
theorem batchBytes_eq_ok {batch : DataBatch} {bytes : Nat} :
    batchBytes batch = .ok bytes ↔
      (∃ length, batch.payload.encoded = some length) ∧ size batch = bytes := by
  unfold batchBytes size Payload.encoded
  cases batch.payload.measured with
  | error failure => cases failure <;> simp [Except.toOption]
  | ok actual => simp [Except.toOption]

/-- A batch is charged for its rows if it declares them truthfully. -/
theorem batchRows_eq_ok {batch : DataBatch} {count : Nat} :
    batchRows batch = .ok count ↔
      (∀ actual, batch.payload.sequence = some actual →
        ∀ declared, batch.rowCount = some declared → declared = actual) ∧ rows batch = count := by
  unfold batchRows rows
  cases batch.payload.sequence with
  | none => simp
  | some actual =>
    cases batch.rowCount with
    | none => simp
    | some declared =>
      by_cases same : declared = actual
      · simp [same]
      · simp [same]

/-- The batches that can be counted are the admissible ones. -/
theorem counts_iff {batch : DataBatch} :
    Counts request batch (size batch) (rows batch) ↔ Admissible request batch := by
  constructor
  · intro counts
    refine ⟨?_, (batchRows_eq_ok.mp counts.rows).1, (batchBytes_eq_ok.mp counts.bytes).1⟩
    have versioned := counts.versioned
    simpa using versioned
  · intro admissible
    refine ⟨batchBytes_eq_ok.mpr ⟨admissible.encodable, rfl⟩,
      batchRows_eq_ok.mpr ⟨admissible.truthful, rfl⟩, ?_⟩
    have versioned := admissible.versioned
    simpa using versioned

/-- A batch that is accepted is admissible. -/
theorem admissible_of_account {totals next : Totals} {batch : DataBatch}
    (counted : account maxResultBytes request totals batch = .ok next) :
    Admissible request batch := by
  obtain ⟨bytes, count, counts, -⟩ := of_account counted
  apply counts_iff.mp
  have bytes_eq : size batch = bytes := (batchBytes_eq_ok.mp counts.bytes).2
  have rows_eq : rows batch = count := (batchRows_eq_ok.mp counts.rows).2
  rw [bytes_eq, rows_eq]
  exact counts

/-- Every batch of an accepted list is admissible. -/
theorem admissible_of_fold {batches : List DataBatch} {totals final : Totals}
    (folded : batches.foldlM (account maxResultBytes request) totals = .ok final) :
    ∀ batch ∈ batches, Admissible request batch := by
  induction batches generalizing totals with
  | nil =>
    intro batch member
    cases member
  | cons head batches ih =>
    rw [List.foldlM_cons] at folded
    obtain ⟨next, counted, folded⟩ := of_bind_ok folded
    intro batch member
    cases member with
    | head => exact admissible_of_account counted
    | tail _ member => exact ih folded batch member

/-- The accepted lists are the bounded ones. -/
theorem fold_iff_bounded {batches : List DataBatch} :
    (∃ final, batches.foldlM (account maxResultBytes request) ⟨0, 0⟩ = .ok final) ↔
      Bounded maxResultBytes request batches := by
  constructor
  · rintro ⟨final, folded⟩
    have admissible := admissible_of_fold folded
    have sums := totals_of_fold (fun batch member => counts_iff.mpr (admissible batch member)) folded
    have positive := request.limited
    have limits := limits_of_fold (by show ((0 : Nat) : Int) ≤ request.limit; omega)
      (Nat.zero_le _) folded
    dsimp only at sums
    refine ⟨admissible, ?_, ?_⟩
    · omega
    · omega
  · intro bounded
    apply exists_fold ⟨0, 0⟩
      (fun batch member => counts_iff.mpr (bounded.admissible batch member))
    · have bytes := bounded.bytes
      dsimp only
      omega
    · have few := bounded.rows
      dsimp only
      omega

/-- A batch whose encoding raises what is caught is not charged for. -/
theorem batchBytes_error {batch : DataBatch} {error : QueryError}
    (caught : ¬ batch.payload.Escapes) (refused : batchBytes batch = .error error) :
    ∃ message, error = .connectorResultViolation message := by
  unfold batchBytes at refused
  cases measured : batch.payload.measured with
  | ok actual =>
    rw [measured] at refused
    cases refused
  | error failure =>
    rw [measured] at refused
    cases failure with
    | valueError message => exact ⟨_, (Except.error.inj refused).symm⟩
    | typeError message => exact ⟨_, (Except.error.inj refused).symm⟩
    | recursionError => exact absurd ⟨_, measured, not_false⟩ caught
    | other message => exact absurd ⟨_, measured, not_false⟩ caught

/-- A batch whose encoding raises what is not caught is refused with that exception, before
anything else of it is looked at. -/
theorem account_escaped {batch : DataBatch} (escapes : batch.payload.Escapes) :
    ∃ error, (∀ message, error ≠ .connectorResultViolation message) ∧
      ∀ totals, account maxResultBytes request totals batch = .error error := by
  obtain ⟨failure, measured, uncaught⟩ := escapes
  unfold account batchBytes
  rw [measured]
  cases failure with
  | valueError message => exact absurd trivial uncaught
  | typeError message => exact absurd trivial uncaught
  | recursionError => exact ⟨.recursionError, nofun, fun _ => rfl⟩
  | other message => exact ⟨.other message, nofun, fun _ => rfl⟩

/-- Any other batch is refused with a `ConnectorResultViolation` only. -/
theorem account_error {totals : Totals} {batch : DataBatch} {error : QueryError}
    (caught : ¬ batch.payload.Escapes)
    (refused : account maxResultBytes request totals batch = .error error) :
    ∃ message, error = .connectorResultViolation message := by
  unfold account at refused
  cases measured : batchBytes batch with
  | error violation =>
    rw [measured] at refused
    obtain ⟨message, rfl⟩ := batchBytes_error caught measured
    exact ⟨message, (Except.error.inj refused).symm⟩
  | ok bytes =>
    cases numbered : batchRows batch with
    | error violation =>
      rw [measured, numbered] at refused
      unfold batchRows at numbered
      split at numbered
      · split at numbered
        · cases numbered
          exact ⟨_, (Except.error.inj refused).symm⟩
        · cases numbered
      · cases numbered
    | ok count =>
      rw [measured, numbered] at refused
      simp only [bind, Except.bind] at refused
      split at refused
      · exact ⟨_, (Except.error.inj refused).symm⟩
      · split at refused
        · exact ⟨_, (Except.error.inj refused).symm⟩
        · split at refused
          · exact ⟨_, (Except.error.inj refused).symm⟩
          · cases refused

/-- After a bounded prefix the first batch that is not bounded with it is refused. -/
theorem account_refused {front : List DataBatch} {batch : DataBatch} {totals : Totals}
    (folded : front.foldlM (account maxResultBytes request) ⟨0, 0⟩ = .ok totals)
    (beyond : ¬ Bounded maxResultBytes request (front ++ [batch])) :
    ∃ error, account maxResultBytes request totals batch = .error error := by
  cases counted : account maxResultBytes request totals batch with
  | error error => exact ⟨error, rfl⟩
  | ok next =>
    apply absurd (fold_iff_bounded.mp ⟨next, ?_⟩) beyond
    rw [List.foldlM_append, folded]
    show [batch].foldlM (account maxResultBytes request) totals = .ok next
    rw [List.foldlM_cons, counted]
    rfl

/-! ## A query, each time its caller asks -/

/-- A query between two requests of its caller. -/
inductive Session
  /-- Nothing of it has run. -/
  | fresh
  /-- It ended before the connector was invoked. -/
  | failed (error : QueryError)
  /-- The connector was invoked. -/
  | streaming (connector : QueryConnector) (delivery : Feed.Delivery Totals DataBatch QueryError)

namespace Session

/-- The connector was invoked. -/
def invoked : Session → Bool
  | streaming _ _ => true
  | _ => false

/-- The batches that the caller has. -/
def delivered : Session → List DataBatch
  | streaming _ delivery => delivery.delivered
  | _ => []

/-- How the query ended, once it has. -/
def ended : Session → Option (Option QueryError)
  | fresh => none
  | failed error => some (some error)
  | streaming _ delivery => delivery.ended

end Session

variable (gateway : HarnessGateway)
  (streams : QueryConnector → QueryRequest → Feed.Source DataBatch QueryError)
  (interruptions : Interruptions) (request : QueryRequest) (identity : RequestIdentity)

/-- One batch more of a connector. -/
def pull (connector : QueryConnector) :
    Feed.Delivery Totals DataBatch QueryError → Feed.Delivery Totals DataBatch QueryError :=
  Feed.Delivery.advance (interruptions.stops request.sourceId)
    (account connector.maxResultBytes request) (streams connector request)

/-- `__anext__` of `execute`: the caller asks for one more batch. -/
def resume : Session → Session
  | .failed error => .failed error
  | .streaming connector delivery =>
    .streaming connector (pull streams interruptions request connector delivery)
  | .fresh =>
    match gateway.registry.get request.sourceId .query with
    | .error error => .failed error
    | .ok connector =>
      match gateway.authorize interruptions request identity with
      | .error error => .failed error
      | .ok () =>
        .streaming connector (pull streams interruptions request connector (.start ⟨0, 0⟩))

/-- A query that its caller has asked this many times. -/
def after (asked : Nat) : Session :=
  (gateway.resume streams interruptions request identity)^[asked] .fresh

variable {gateway streams interruptions identity}

/-- A query that failed stays failed. -/
theorem iterate_failed (error : QueryError) (asked : Nat) :
    (gateway.resume streams interruptions request identity)^[asked] (.failed error) =
      .failed error :=
  Function.iterate_fixed rfl asked

/-- A query that streams goes on streaming. -/
theorem iterate_streaming (connector : QueryConnector)
    (delivery : Feed.Delivery Totals DataBatch QueryError) (asked : Nat) :
    (gateway.resume streams interruptions request identity)^[asked]
        (.streaming connector delivery) =
      .streaming connector ((pull streams interruptions request connector)^[asked] delivery) := by
  induction asked generalizing delivery with
  | zero => rfl
  | succ asked ih =>
    rw [Function.iterate_succ_apply, Function.iterate_succ_apply]
    exact ih _

variable {request} {connector : QueryConnector}

/-- An authorized query streams from the first time it is asked. -/
theorem after_streaming (found : gateway.registry.get request.sourceId .query = .ok connector)
    (authorized : gateway.authorize interruptions request identity = .ok ()) (asked : Nat) :
    gateway.after streams interruptions request identity (asked + 1) =
      .streaming connector
        ((pull streams interruptions request connector)^[asked + 1] (.start ⟨0, 0⟩)) := by
  unfold after
  rw [Function.iterate_succ_apply, Function.iterate_succ_apply]
  have first : gateway.resume streams interruptions request identity .fresh =
      .streaming connector (pull streams interruptions request connector (.start ⟨0, 0⟩)) := by
    unfold resume
    rw [found, authorized]
  rw [first, iterate_streaming]

/-- A query of no connector, or one that is not authorized, never invokes one. -/
theorem after_failed {error : QueryError}
    (failed : gateway.resume streams interruptions request identity .fresh = .failed error)
    (asked : Nat) :
    gateway.after streams interruptions request identity asked =
      if asked = 0 then .fresh else .failed error := by
  cases asked with
  | zero => rfl
  | succ asked =>
    unfold after
    rw [Function.iterate_succ_apply, failed, iterate_failed, if_neg (by omega)]

/-- Without an exception of the telemetry sink the policy alone authorizes. -/
theorem authorize_eq_ok :
    gateway.authorize interruptions request identity = .ok () ↔
      interruptions.authorized = none ∧
        (gateway.policy (request.authorization identity)).allowed = true := by
  unfold authorize
  cases interruptions.authorized with
  | some message => simp
  | none =>
    by_cases allowed : (gateway.policy (request.authorization identity)).allowed = true
    · simp [allowed]
    · simp [allowed]

/-- A query that has invoked a connector follows the stream of the connector it found. -/
theorem streaming_of_invoked (asked : Nat)
    (invoked : (gateway.after streams interruptions request identity asked).invoked = true) :
    ∃ connector delivery,
      gateway.registry.get request.sourceId .query = .ok connector ∧
      (gateway.policy (request.authorization identity)).allowed = true ∧
      gateway.after streams interruptions request identity asked =
        .streaming connector delivery ∧
      delivery.Follows (account connector.maxResultBytes request) (streams connector request)
        ⟨0, 0⟩ := by
  cases asked with
  | zero => cases invoked
  | succ asked =>
    cases found : gateway.registry.get request.sourceId .query with
    | error error =>
      have failed : gateway.resume streams interruptions request identity .fresh =
          .failed error := by
        unfold resume
        rw [found]
      rw [after_failed failed, if_neg (by omega)] at invoked
      cases invoked
    | ok connector =>
      cases authorized : gateway.authorize interruptions request identity with
      | error error =>
        have failed : gateway.resume streams interruptions request identity .fresh =
            .failed error := by
          unfold resume
          rw [found, authorized]
        rw [after_failed failed, if_neg (by omega)] at invoked
        cases invoked
      | ok nothing =>
        refine ⟨connector, _, rfl, (authorize_eq_ok.mp authorized).2,
          after_streaming found authorized asked, ?_⟩
        exact Feed.Delivery.follows_iterate (asked + 1)

/-- Where the streams are the feeds of the connectors, a query that is asked often enough is
`execute`. -/
theorem after_execute (gateway : HarnessGateway) (interruptions : Interruptions)
    (request : QueryRequest) (identity : RequestIdentity) :
    ∃ enough, ∀ asked, enough ≤ asked →
      (gateway.after (fun connector request => (connector.execute request).pulls) interruptions
        request identity asked).delivered =
        (gateway.execute interruptions request identity).items ∧
      (gateway.after (fun connector request => (connector.execute request).pulls) interruptions
        request identity asked).ended =
        some (gateway.execute interruptions request identity).raised := by
  unfold execute
  cases found : gateway.registry.get request.sourceId .query with
  | error error =>
    refine ⟨1, fun asked enough => ?_⟩
    have failed : gateway.resume (fun connector request => (connector.execute request).pulls)
        interruptions request identity .fresh = .failed error := by
      unfold resume
      rw [found]
    rw [after_failed failed, if_neg (by omega)]
    exact ⟨rfl, rfl⟩
  | ok connector =>
    cases authorized : gateway.authorize interruptions request identity with
    | error error =>
      refine ⟨1, fun asked enough => ?_⟩
      have failed : gateway.resume (fun connector request => (connector.execute request).pulls)
          interruptions request identity .fresh = .failed error := by
        unfold resume
        rw [found, authorized]
      rw [after_failed failed, if_neg (by omega)]
      exact ⟨rfl, rfl⟩
    | ok nothing =>
      refine ⟨(connector.execute request).items.length + 1, fun asked enough => ?_⟩
      obtain ⟨earlier, rfl⟩ : ∃ earlier, asked = earlier + 1 := ⟨asked - 1, by omega⟩
      obtain ⟨final, reached⟩ := Feed.Delivery.iterate_pulls
        (interruptions.stops request.sourceId) (account connector.maxResultBytes request)
        (connector.execute request).raised [] (connector.execute request).items ⟨0, 0⟩
        (earlier + 1) (by omega)
      rw [after_streaming found authorized]
      unfold pull Feed.Delivery.start
      show (Feed.Delivery.delivered _) = _ ∧ (Feed.Delivery.ended _) = _
      rw [List.nil_append] at reached
      rw [reached]
      exact ⟨rfl, rfl⟩

/-! ## Bounds at every moment -/

/-- A query that streams delivers a bounded prefix of its stream at every moment. -/
theorem bounded_of_follows {delivery : Feed.Delivery Totals DataBatch QueryError}
    {source : Feed.Source DataBatch QueryError}
    (follows : delivery.Follows (account maxResultBytes request) source ⟨0, 0⟩) :
    source.Starts delivery.delivered ∧ Bounded maxResultBytes request delivery.delivered :=
  ⟨follows.starts, fold_iff_bounded.mp ⟨_, follows.folded⟩⟩

/-- Nothing is within the bounds. -/
theorem bounded_nil : Bounded maxResultBytes request [] := by
  apply fold_iff_bounded.mp
  exact ⟨⟨0, 0⟩, rfl⟩

/-- At every moment what was delivered is a prefix of the connector's stream within the bounds. -/
theorem delivered_bounded {gateway : HarnessGateway}
    {streams : QueryConnector → QueryRequest → Feed.Source DataBatch QueryError}
    {request : QueryRequest} {identity : RequestIdentity} {connector : QueryConnector}
    (found : gateway.registry.get request.sourceId .query = .ok connector)
    (interruptions : Interruptions) (asked : Nat) :
    (streams connector request).Starts
        (gateway.after streams interruptions request identity asked).delivered ∧
      Bounded connector.maxResultBytes request
        (gateway.after streams interruptions request identity asked).delivered := by
  by_cases invoked :
      (gateway.after streams interruptions request identity asked).invoked = true
  · obtain ⟨same, delivery, again, _, streaming, follows⟩ := streaming_of_invoked asked invoked
    rw [found] at again
    rw [streaming, Except.ok.inj again]
    exact bounded_of_follows follows
  · have nothing : (gateway.after streams interruptions request identity asked).delivered = [] := by
      cases state : gateway.after streams interruptions request identity asked with
      | fresh => rfl
      | failed error => rfl
      | streaming other delivery =>
        rw [state] at invoked
        exact absurd rfl invoked
    rw [nothing]
    exact ⟨.nil, bounded_nil⟩

/-- After a prefix of the stream within the bounds comes a batch. -/
structure Follows (maxResultBytes : Nat) (request : QueryRequest)
    (stream : Feed.Source DataBatch QueryError) (front : List DataBatch) (batch : DataBatch) :
    Prop where
  starts : stream.Starts front
  next : stream front.length = .item batch
  bounded : Bounded maxResultBytes request front

/-- What a query delivers: a connector is invoked only where the policy allows the query; at every
moment the batches that were delivered are a prefix of the connector's stream within the bounds,
whatever stops the query; and where nothing does, every prefix within the bounds is delivered. -/
structure Delivers (gateway : HarnessGateway)
    (streams : QueryConnector → QueryRequest → Feed.Source DataBatch QueryError)
    (request : QueryRequest) (identity : RequestIdentity) : Prop where
  denied : (gateway.policy (request.authorization identity)).allowed = false →
    ∀ interruptions asked,
      (gateway.after streams interruptions request identity asked).invoked = false
  bounded : ∀ connector, gateway.registry.get request.sourceId .query = .ok connector →
    ∀ interruptions asked,
      (streams connector request).Starts
        (gateway.after streams interruptions request identity asked).delivered ∧
      Bounded connector.maxResultBytes request
        (gateway.after streams interruptions request identity asked).delivered
  complete : ∀ connector, gateway.registry.get request.sourceId .query = .ok connector →
    (gateway.policy (request.authorization identity)).allowed = true →
    ∀ front, (streams connector request).Starts front →
      Bounded connector.maxResultBytes request front →
      (gateway.after streams .none request identity front.length).delivered = front

/-- From then on the query has delivered these batches and ended with this exception. -/
def Stops (gateway : HarnessGateway)
    (streams : QueryConnector → QueryRequest → Feed.Source DataBatch QueryError)
    (request : QueryRequest) (identity : RequestIdentity) (front : List DataBatch)
    (error : QueryError) : Prop :=
  ∀ asked, front.length < asked →
    (gateway.after streams .none request identity asked).delivered = front ∧
    (gateway.after streams .none request identity asked).ended = some (some error)

/-- The first batch that breaks the bounds is withheld, with everything after it. -/
def Withholds (gateway : HarnessGateway)
    (streams : QueryConnector → QueryRequest → Feed.Source DataBatch QueryError)
    (request : QueryRequest) (identity : RequestIdentity) (raised : QueryError → Prop) : Prop :=
  ∀ connector, gateway.registry.get request.sourceId .query = .ok connector →
    (gateway.policy (request.authorization identity)).allowed = true →
    ∀ front batch,
      Follows connector.maxResultBytes request (streams connector request) front batch →
      ¬ Bounded connector.maxResultBytes request (front ++ [batch]) →
      ∃ error, raised error ∧ gateway.Stops streams request identity front error

/-- A `ConnectorResultViolation`. -/
def IsViolation (error : QueryError) : Prop :=
  ∃ message, error = .connectorResultViolation message

variable {gateway : HarnessGateway}
  {streams : QueryConnector → QueryRequest → Feed.Source DataBatch QueryError}
  {request : QueryRequest} {identity : RequestIdentity} {connector : QueryConnector}
  {front : List DataBatch} {batch : DataBatch}

/-- A query whose prefix within the bounds was delivered goes on with what the account of the next
batch gives. -/
theorem stops_of_refused (found : gateway.registry.get request.sourceId .query = .ok connector)
    (allowed : (gateway.policy (request.authorization identity)).allowed = true)
    (follows : Follows connector.maxResultBytes request (streams connector request) front batch)
    {totals : Totals} {error : QueryError}
    (folded : front.foldlM (account connector.maxResultBytes request) ⟨0, 0⟩ = .ok totals)
    (refused : account connector.maxResultBytes request totals batch = .error error) :
    gateway.Stops streams request identity front error := by
  have authorized : gateway.authorize .none request identity = .ok () :=
    authorize_eq_ok.mpr ⟨rfl, allowed⟩
  have quiet : Interruptions.none.stops request.sourceId = Feed.Stops.never := rfl
  intro asked enough
  have reached : (pull streams .none request connector)^[asked] (.start ⟨0, 0⟩) =
      ⟨totals, front, some (some error)⟩ := by
    unfold pull
    rw [quiet]
    exact Feed.Delivery.iterate_refused follows.starts folded follows.next refused enough
  obtain ⟨earlier, rfl⟩ : ∃ earlier, asked = earlier + 1 := ⟨asked - 1, by omega⟩
  rw [after_streaming found authorized, reached]
  exact ⟨rfl, rfl⟩

/-- A query stops with one exception. -/
theorem Stops.unique {left right : QueryError}
    (one : gateway.Stops streams request identity front left)
    (other : gateway.Stops streams request identity front right) : left = right := by
  have first := (one (front.length + 1) (Nat.lt_succ_self _)).2
  have second := (other (front.length + 1) (Nat.lt_succ_self _)).2
  rw [first] at second
  exact Option.some.inj (Option.some.inj second)

/-- A batch that cannot be encoded breaks the bounds. -/
theorem not_bounded_of_escapes (escapes : batch.payload.Escapes) :
    ¬ Bounded maxResultBytes request (front ++ [batch]) := by
  intro bounded
  obtain ⟨length, encoded⟩ := (bounded.admissible batch (by simp)).encodable
  obtain ⟨failure, measured, -⟩ := escapes
  rw [Payload.encoded, measured] at encoded
  cases encoded

/-- A batch whose encoding raises what is not caught ends its query with that exception. -/
theorem stops_of_escapes (found : gateway.registry.get request.sourceId .query = .ok connector)
    (allowed : (gateway.policy (request.authorization identity)).allowed = true)
    (follows : Follows connector.maxResultBytes request (streams connector request) front batch)
    (escapes : batch.payload.Escapes) :
    ∃ error, ¬ IsViolation error ∧ gateway.Stops streams request identity front error := by
  obtain ⟨totals, folded⟩ := fold_iff_bounded.mpr follows.bounded
  obtain ⟨error, foreign, refused⟩ := account_escaped escapes
  refine ⟨error, ?_, stops_of_refused found allowed follows folded (refused totals)⟩
  rintro ⟨message, rfl⟩
  exact foreign message rfl

/-- A query delivers what it should. -/
theorem delivers (gateway : HarnessGateway)
    (streams : QueryConnector → QueryRequest → Feed.Source DataBatch QueryError)
    (request : QueryRequest) (identity : RequestIdentity) :
    gateway.Delivers streams request identity := by
  constructor
  · intro denied interruptions asked
    by_contra invoked
    rw [Bool.not_eq_false] at invoked
    obtain ⟨_, _, _, allowed, _⟩ := streaming_of_invoked asked invoked
    rw [denied] at allowed
    cases allowed
  · intro connector found interruptions asked
    exact delivered_bounded found interruptions asked
  · intro connector found allowed front starts bounded
    have authorized : gateway.authorize .none request identity = .ok () :=
      authorize_eq_ok.mpr ⟨rfl, allowed⟩
    have quiet : Interruptions.none.stops request.sourceId = Feed.Stops.never := rfl
    obtain ⟨final, folded⟩ := fold_iff_bounded.mpr bounded
    have reached : (pull streams .none request connector)^[front.length] (.start ⟨0, 0⟩) =
        ⟨final, [] ++ front, none⟩ := by
      unfold pull
      rw [quiet]
      exact Feed.Delivery.iterate_accepted starts folded
    cases front with
    | nil => rfl
    | cons first front =>
      rw [List.length_cons] at reached ⊢
      rw [after_streaming found authorized, reached]
      rfl

/-- A query delivers what it should, and whatever its batches are, the first that breaks the bounds
is withheld with everything after it; that it is answered with a `ConnectorResultViolation` holds
exactly where `json.dumps` raises no other exception than a `TypeError` or a `ValueError` of a batch
that follows a prefix within the bounds. -/
theorem execute_bounded_iff (gateway : HarnessGateway)
    (streams : QueryConnector → QueryRequest → Feed.Source DataBatch QueryError)
    (request : QueryRequest) (identity : RequestIdentity) :
    (gateway.Delivers streams request identity ∧
      gateway.Withholds streams request identity fun _ => True) ∧
    (gateway.Withholds streams request identity IsViolation ↔
      ∀ connector, gateway.registry.get request.sourceId .query = .ok connector →
        (gateway.policy (request.authorization identity)).allowed = true →
        ∀ front batch,
          Follows connector.maxResultBytes request (streams connector request) front batch →
          ¬ batch.payload.Escapes) := by
  refine ⟨⟨delivers gateway streams request identity, ?_⟩, ?_, ?_⟩
  · intro connector found allowed front batch follows beyond
    obtain ⟨totals, folded⟩ := fold_iff_bounded.mpr follows.bounded
    obtain ⟨error, refused⟩ := account_refused folded beyond
    exact ⟨error, trivial, stops_of_refused found allowed follows folded refused⟩
  · intro withheld connector found allowed front batch follows escapes
    obtain ⟨error, violation, stops⟩ :=
      withheld connector found allowed front batch follows (not_bounded_of_escapes escapes)
    obtain ⟨other, foreign, again⟩ := stops_of_escapes found allowed follows escapes
    rw [stops.unique again] at violation
    exact foreign violation
  · intro caught connector found allowed front batch follows beyond
    obtain ⟨totals, folded⟩ := fold_iff_bounded.mpr follows.bounded
    obtain ⟨error, refused⟩ := account_refused folded beyond
    have violation := account_error (caught connector found allowed front batch follows) refused
    exact ⟨error, violation, stops_of_refused found allowed follows folded refused⟩

/-- A connector that is registered for small queries. -/
def smallConnector : QueryConnector := ⟨"source", [.query], 100, fun _ => ⟨[], none⟩⟩

/-- A gateway that allows everything, for small queries. -/
def small : HarnessGateway where
  registry := ⟨[smallConnector], by decide⟩
  policy := fun _ => ⟨true, "decision", "allowed"⟩

/-- A query of at most three rows. -/
def smallRequest : QueryRequest where
  sourceId := "source"
  assetIds := ["asset"]
  plan := []
  limit := 3
  deadlineMs := 1000
  purpose := "read"
  policyAttributes := []
  scope := by decide
  limited := by decide
  timed := second_timed
  purposed := by decide

/-- A list of two rows. -/
def smallBatch : DataBatch where
  kind := .document
  payload := .json (.arr [.null, .null])
  sourceVersions := [⟨"source", "1", ⟨0, some 0⟩, none, by decide, by decide⟩]
  lineage := [.asset]
  rowCount := some 2
  byteCount := none
  required := by decide

/-- Of an endless stream of such batches only the first is within three rows, and the second is
answered with a violation. -/
theorem execute_bounded_small :
    ∃ error, IsViolation error ∧
      small.Stops (fun _ _ _ => .item smallBatch) smallRequest .small [smallBatch] error := by
  have found : small.registry.get smallRequest.sourceId .query = .ok smallConnector := rfl
  let stream : Feed.Source DataBatch QueryError := fun _ => .item smallBatch
  have starts : stream.Starts [smallBatch] := Feed.Source.Starts.nil.append rfl
  have first : Bounded smallConnector.maxResultBytes smallRequest [smallBatch] :=
    fold_iff_bounded.mp ⟨⟨11, 2⟩, by rfl⟩
  have second : ¬ Bounded smallConnector.maxResultBytes smallRequest [smallBatch, smallBatch] :=
    fun bounded => absurd bounded.rows (by decide)
  apply (execute_bounded_iff small (fun _ _ _ => .item smallBatch) smallRequest .small).2.mpr
  · rintro connector - - front batch follows ⟨failure, measured, -⟩
    have same : batch = smallBatch := by simpa using follows.next.symm
    rw [same] at measured
    cases measured
  · exact found
  · rfl
  · exact ⟨starts, rfl, first⟩
  · exact second

/-- A list in a list, and so on two thousand times. -/
def deepBatch : DataBatch where
  kind := .document
  payload := .unwritable .recursionError (some 1)
  sourceVersions := [⟨"source", "1", ⟨0, some 0⟩, none, by decide, by decide⟩]
  lineage := [.asset]
  rowCount := some 1
  byteCount := none
  required := by decide

/-- Such a batch breaks the bounds, and the query ends with the `RecursionError` of `json.dumps`. -/
theorem execute_escaped :
    ¬ Bounded smallConnector.maxResultBytes smallRequest [deepBatch] ∧
    small.Stops (fun _ _ _ => .item deepBatch) smallRequest .small [] .recursionError ∧
    ¬ small.Withholds (fun _ _ _ => .item deepBatch) smallRequest .small IsViolation := by
  have found : small.registry.get smallRequest.sourceId .query = .ok smallConnector := rfl
  have follows : Follows smallConnector.maxResultBytes smallRequest
      (fun _ => .item deepBatch) [] deepBatch := ⟨.nil, rfl, bounded_nil⟩
  have escapes : deepBatch.payload.Escapes := ⟨.recursionError, rfl, not_false⟩
  have beyond : ¬ Bounded smallConnector.maxResultBytes smallRequest [deepBatch] :=
    show ¬ Bounded _ _ ([] ++ [deepBatch]) from not_bounded_of_escapes escapes
  have stops : small.Stops (fun _ _ _ => .item deepBatch) smallRequest .small [] .recursionError :=
    stops_of_refused found rfl follows rfl rfl
  refine ⟨beyond, stops, fun withheld => ?_⟩
  obtain ⟨error, ⟨message, rfl⟩, again⟩ :=
    withheld smallConnector found rfl [] deepBatch follows beyond
  cases stops.unique again

end HarnessGateway

end DataHarness
