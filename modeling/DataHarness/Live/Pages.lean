import DataHarness.Live.Connectors

/-!
# The pages of the REST connector

The connector follows whatever cursors the service gives, until it has as many rows as were asked
for. It ends exactly when the service does not keep it waiting: pages that all have a cursor, and
no items from some page on before there are enough, are read forever (`ends_iff`). The service of
the lab gives every item of its collection, a few on each page (`appointments_read`).
-/

namespace DataHarness

/-- Ten is a limit. -/
theorem ten_limited : (0 : Int) < 10 := by decide

/-- Service is a purpose. -/
theorem service_purposed : isBlank "service" = false := by decide

/-- A request for ten records of an asset. -/
def assetRequest (sourceId assetId : String) (named : sourceId ≠ "" ∧ assetId ≠ "") :
    QueryRequest where
  sourceId := sourceId
  assetIds := [assetId]
  plan := []
  limit := 10
  deadlineMs := 1000
  purpose := "service"
  policyAttributes := []
  scope := ⟨named.1, List.cons_ne_nil _ _, by
    intro asset member
    rw [List.mem_singleton.mp member]
    exact named.2⟩
  limited := ten_limited
  timed := second_timed
  purposed := service_purposed

namespace RestLiveConnector

variable {κ : Type}

/-- The checks of the connector accept a request. -/
def Accepts (request : QueryRequest) : Prop :=
  request.sourceId = sourceId ∧ request.assetIds = [assetId]

/-- A request the checks accept is not refused. -/
theorem accepts_iff {request : QueryRequest} :
    ¬ (request.sourceId ≠ sourceId ∨ request.assetIds ≠ [assetId]) ↔ Accepts request := by
  rw [not_or, not_not, not_not]
  exact Iff.rfl

section Ends

variable [Stdlib]

/-- A call ends after some number of requests to the service. -/
def Ends (service : Paging.Service Json.Value κ) (moment : Int) (request : QueryRequest) : Prop :=
  ∃ fuel feed, execute service moment request fuel = some feed

section Accepted

variable {service : Paging.Service Json.Value κ} {moment : Int} {request : QueryRequest}
  {fuel : Nat}

/-- An accepted request that is answered has read some rows. -/
theorem exists_rows {feed : Feed DataBatch QueryError} (accepts : Accepts request)
    (answered : execute service moment request fuel = some feed) :
    ∃ rows, readPages service request.limit.toNat fuel = some rows := by
  unfold execute at answered
  rw [if_neg (accepts_iff.mpr accepts)] at answered
  cases read : readPages service request.limit.toNat fuel with
  | none =>
    rw [read] at answered
    cases answered
  | some rows => exact ⟨rows, rfl⟩

variable {rows : List Json.Value} (accepts : Accepts request)
  (read : readPages service request.limit.toNat fuel = some rows)

include accepts read

/-- Rows of which one has no record are an exception. -/
theorem execute_unmade {error : QueryError} (made : rows.mapM recordOf = .error error) :
    execute service moment request fuel = some (failed error) := by
  unfold execute
  rw [if_neg (accepts_iff.mpr accepts), read]
  dsimp only
  rw [made]

/-- Rows with a record each are yielded. -/
theorem execute_made {records : List (Option String)} (made : rows.mapM recordOf = .ok records) :
    execute service moment request fuel = some
      (liveBatch .arrow rows (liveVersion sourceId (by decide) (.arr rows) moment)
        (references sourceId assetId ⟨by decide, by decide⟩ records)) := by
  unfold execute
  rw [if_neg (accepts_iff.mpr accepts), read]
  dsimp only
  rw [made]

end Accepted

/-- A call ends exactly when its request is not accepted or the service is not endless. -/
theorem ends_iff {service : Paging.Service Json.Value κ} {moment : Int} {request : QueryRequest} :
    Ends service moment request ↔
      (Accepts request → ¬ Paging.Endless service request.limit.toNat) := by
  by_cases accepts : Accepts request
  · have stops : Ends service moment request ↔
        ∃ rows, Paging.Reads service request.limit.toNat rows := by
      constructor
      · rintro ⟨fuel, feed, ended⟩
        obtain ⟨rows, read⟩ := exists_rows accepts ended
        exact ⟨rows, fuel, read⟩
      · rintro ⟨rows, fuel, read⟩
        cases made : rows.mapM recordOf with
        | error error => exact ⟨fuel, _, execute_unmade accepts read made⟩
        | ok records => exact ⟨fuel, _, execute_made accepts read made⟩
    rw [stops, Paging.reads_iff]
    exact ⟨fun ends _ => ends, fun ends => ends accepts⟩
  · have refused : request.sourceId ≠ sourceId ∨ request.assetIds ≠ [assetId] := by
      by_contra kept
      exact accepts (accepts_iff.mp kept)
    constructor
    · intro _ kept
      exact absurd kept accepts
    · intro _
      exact ⟨0, _, if_pos refused⟩

end Ends

/-- The service and its collection are named. -/
theorem appointments_named : sourceId ≠ "" ∧ assetId ≠ "" := by decide

/-- A request for appointments. -/
def appointmentsRequest : QueryRequest := assetRequest sourceId assetId appointments_named

/-- A service that answers every cursor with an empty page and the same cursor is asked forever. -/
theorem same_cursor_forever :
    ¬ @Ends String .transparent (fun _ _ => ⟨[], some "x"⟩) 0 appointmentsRequest := by
  rintro ⟨fuel, feed, ended⟩
  obtain ⟨rows, read⟩ := @exists_rows String .transparent _ _ _ _ _ ⟨rfl, rfl⟩ ended
  refine Paging.not_reads (fun requests => ?_) rows ⟨fuel, read⟩
  have empty : ∀ pages, Paging.itemsUpTo
      (fun _ _ => ⟨[], some "x"⟩ : Paging.Service Json.Value String) pages = [] := by
    intro pages
    induction pages with
    | zero => rfl
    | succ pages ih =>
      rw [Paging.itemsUpTo, ih]
      rfl
  exact ⟨by rw [empty]; decide, Option.some_ne_none _⟩

/-! ## The service of the lab -/

/-- `appointment_page` of all service orders; the text of the cursor is that of an offset. -/
def appointmentPage (appointments : List Json.Value) (pageSize : Nat) :
    Paging.Service Json.Value Nat := fun cursor _ =>
  let offset := cursor.getD 0
  let items := (appointments.drop offset).take pageSize
  let nextOffset := offset + items.length
  ⟨items, if nextOffset < appointments.length then some nextOffset else none⟩

section Appointments

open Paging

variable {appointments : List Json.Value} {pageSize : Nat}

/-- The page at an offset. -/
theorem pageAt_appointments {requests offset : Nat}
    (own : (cursorAt (appointmentPage appointments pageSize) requests).getD 0 = offset) :
    pageAt (appointmentPage appointments pageSize) requests =
      ⟨(appointments.drop offset).take pageSize,
        if offset + min pageSize (appointments.length - offset) < appointments.length then
          some (offset + min pageSize (appointments.length - offset))
        else none⟩ := by
  unfold pageAt
  generalize cursorAt (appointmentPage appointments pageSize) requests = cursor at own
  rw [← own]
  unfold appointmentPage
  dsimp only
  rw [List.length_take, List.length_drop]

/-- Behind pages that all have a cursor, the service has given the items up to its offset, which is
the next cursor. -/
theorem appointments_upTo {requests : Nat}
    (more : ∀ earlier < requests, (pageAt (appointmentPage appointments pageSize) earlier).next ≠
      none) :
    itemsUpTo (appointmentPage appointments pageSize) requests =
        appointments.take (requests * pageSize) ∧
      (cursorAt (appointmentPage appointments pageSize) requests).getD 0 = requests * pageSize ∧
        (requests = 0 ∨ requests * pageSize < appointments.length) := by
  induction requests with
  | zero => exact ⟨by simp [itemsUpTo], by simp [cursorAt], .inl rfl⟩
  | succ requests ih =>
    obtain ⟨items, offset, -⟩ := ih fun earlier less => more earlier (Nat.lt_succ_of_lt less)
    have page := pageAt_appointments offset
    have goes := more requests (Nat.lt_succ_self requests)
    have next : cursorAt (appointmentPage appointments pageSize) (requests + 1) =
        (pageAt (appointmentPage appointments pageSize) requests).next := rfl
    rw [page] at goes next
    dsimp only at goes next
    split at goes
    · rename_i left
      rw [if_pos left] at next
      have full : min pageSize (appointments.length - requests * pageSize) = pageSize := by omega
      rw [full] at left next
      refine ⟨?_, ?_, .inr ?_⟩
      · rw [itemsUpTo, items, page, Nat.succ_mul, List.take_add]
      · rw [next, Nat.succ_mul]
        rfl
      · rw [Nat.succ_mul]
        exact left
    · exact absurd rfl goes

/-- The items of the first pages, the last of which needs no cursor. -/
theorem appointments_upTo_succ {requests : Nat}
    (more : ∀ earlier < requests, (pageAt (appointmentPage appointments pageSize) earlier).next ≠
      none) :
    itemsUpTo (appointmentPage appointments pageSize) (requests + 1) =
      appointments.take ((requests + 1) * pageSize) := by
  obtain ⟨items, offset, -⟩ := appointments_upTo more
  rw [itemsUpTo, items, pageAt_appointments offset, Nat.succ_mul, List.take_add]

/-- The reader gets the first items of the collection, whatever the size of the pages. -/
theorem appointments_read (positive : 0 < pageSize) (limit : Nat) :
    Reads (appointmentPage appointments pageSize) limit (appointments.take limit) := by
  have stops : ¬ ∀ requests, GoesOn (appointmentPage appointments pageSize) limit requests := by
    intro goes
    obtain ⟨-, -, short⟩ := @appointments_upTo appointments pageSize (appointments.length + 1)
      fun earlier _ => (goes earlier).2
    have large : appointments.length + 1 ≤ (appointments.length + 1) * pageSize :=
      Nat.le_mul_of_pos_right _ positive
    omega
  obtain ⟨requests, goes, stop⟩ := exists_stop stops
  obtain ⟨items, offset, -⟩ := appointments_upTo fun earlier less => (goes earlier less).2
  rw [reads_iff_eq goes stop, appointments_upTo_succ fun earlier less => (goes earlier less).2,
    List.take_take]
  -- The reader has enough, or the collection has ended.
  have done : limit ≤ (requests + 1) * pageSize ∨
      appointments.length ≤ (requests + 1) * pageSize := by
    by_contra neither
    apply stop
    have next : (requests + 1) * pageSize = requests * pageSize + pageSize := Nat.succ_mul _ _
    refine ⟨?_, ?_⟩
    · rw [items, List.length_take]
      omega
    · rw [pageAt_appointments offset]
      dsimp only
      rw [if_pos (by omega)]
      exact Option.some_ne_none _
  rcases done with enough | ended
  · rw [min_eq_left enough]
  · rcases le_total limit ((requests + 1) * pageSize) with less | more
    · rw [min_eq_left less]
    · rw [min_eq_right more, List.take_of_length_le ended,
        List.take_of_length_le (ended.trans more)]

end Appointments

end RestLiveConnector

end DataHarness
