import DataHarness.Decode.Numbers
import DataHarness.Live.Pages

/-!
# The service of the lab

The service numbers its pages by offsets and writes them as texts, which the connector sends back
as they are. The connector only ever sends a cursor the service wrote, so that no page it asks for
is refused, and what it collects is the front of the collection (`pages_prefix`).
-/

namespace DataHarness

namespace ServiceApi

open Paging

/-- `service_order_id is None or item["service_order_id"] == service_order_id`. -/
def ofOrder (serviceOrderId : Option String) (item : Json.Value) : Except QueryError Bool :=
  match serviceOrderId with
  | none => .ok true
  | some id =>
    match item with
    | .obj members =>
      match members.lookup "service_order_id" with
      | some (.str text) => .ok (decide (text = id))
      | some _ => .ok false
      | none => .error (.keyError "service_order_id")
    | _ => .error (.typeError "indices must be integers")

/-- `filtered`. -/
def filtered (serviceOrderId : Option String) :
    List Json.Value → Except QueryError (List Json.Value)
  | [] => .ok []
  | item :: items => do
    let kept ← ofOrder serviceOrderId item
    let rest ← filtered serviceOrderId items
    return if kept then item :: rest else rest

/-- `items[start:stop]`, from a start that is not negative. -/
def slice (items : List Json.Value) (start : Nat) (stop : Int) : List Json.Value :=
  let stop := if stop < 0 then stop + items.length else stop
  (items.take stop.toNat).drop start

/-- `int(cursor or "0")`. -/
def offsetOf (cursor : Option String) : Option Int :=
  let text := cursor.getD ""
  intOfText (if text = "" then "0" else text)

/-- `appointment_page`. -/
def appointmentPage (appointments : List Json.Value) (serviceOrderId cursor : Option String)
    (pageSize : Int) : Except QueryError (Page Json.Value String) :=
  match filtered serviceOrderId appointments with
  | .error error => .error error
  | .ok filtered =>
    match offsetOf cursor with
    | none => .error (.valueError "cursor must be a non-negative integer")
    | some offset =>
      if offset < 0 then .error (.valueError "cursor must be a non-negative integer")
      else
        let items := slice filtered offset.toNat (offset + pageSize)
        let nextOffset := offset.toNat + items.length
        .ok ⟨items, if nextOffset < filtered.length then some (toString nextOffset) else none⟩

/-- Nothing is filtered without a service order. -/
theorem filtered_none (items : List Json.Value) : filtered none items = .ok items := by
  induction items with
  | nil => rfl
  | cons item items ih =>
    unfold filtered
    rw [ih]
    rfl

/-- A slice that ends no sooner than it starts. -/
theorem slice_add (items : List Json.Value) (start : Nat) {size : Int} (some : 0 < size) :
    slice items start (start + size) = (items.drop start).take size.toNat := by
  have forward : ¬ (start : Int) + size < 0 := by omega
  have stop : ((start : Int) + size).toNat = start + size.toNat := by omega
  unfold slice
  dsimp only
  rw [if_neg forward, stop, List.drop_take, Nat.add_sub_cancel_left]

/-- A page at the offset its cursor is the text of. -/
theorem appointmentPage_offset {appointments kept : List Json.Value}
    {serviceOrderId cursor : Option String} {offset : Nat} {pageSize : Int}
    (selected : filtered serviceOrderId appointments = .ok kept) (paged : 0 < pageSize)
    (named : offsetOf cursor = some (offset : Int)) :
    appointmentPage appointments serviceOrderId cursor pageSize =
      .ok ⟨(kept.drop offset).take pageSize.toNat,
        if offset + min pageSize.toNat (kept.length - offset) < kept.length then
          some (toString (offset + min pageSize.toNat (kept.length - offset)))
        else none⟩ := by
  have forward : ¬ (offset : Int) < 0 := by omega
  unfold appointmentPage
  rw [selected]
  dsimp only
  rw [named]
  dsimp only
  rw [if_neg forward, Int.toNat_natCast, slice_add kept offset paged, List.length_take,
    List.length_drop]

/-- The text of an offset is its cursor. -/
theorem offsetOf_toString (offset : Nat) : offsetOf (some (toString offset)) = some (offset : Int) := by
  have written : toString offset ≠ "" := by
    intro empty
    have digits := congrArg String.toList empty
    rw [Nat.toString_eq_repr, Nat.toList_repr] at digits
    exact Nat.toDigits_ne_nil digits
  unfold offsetOf
  rw [Option.getD_some]
  dsimp only
  rw [if_neg written, intOfText_toString]

/-- The service serves the appointments of a service order, or all of them, by offsets. -/
theorem serves_filtered {appointments kept : List Json.Value} {serviceOrderId : Option String}
    {pageSize : Int} (selected : filtered serviceOrderId appointments = .ok kept)
    (paged : 0 < pageSize) :
    Serves (fun cursor _ => appointmentPage appointments serviceOrderId cursor pageSize) kept
      pageSize.toNat fun cursor offset => offsetOf cursor = some (offset : Int) where
  first := by decide
  page cursor offset requests named := by
    refine ⟨_, appointmentPage_offset selected paged named, ?_, ?_⟩
    · intro more
      have full : min pageSize.toNat (kept.length - offset) = pageSize.toNat := by omega
      rw [full, if_pos more]
      exact ⟨Option.some_ne_none _, offsetOf_toString _⟩
    · intro last
      have ended : ¬ offset + min pageSize.toNat (kept.length - offset) < kept.length := by omega
      rw [if_neg ended]

/-- The loop of the connector over the pages of the service: its rows, and how many requests it
made. -/
def fetchPages (appointments : List Json.Value) (pageSize : Int) (limit fuel : Nat) :
    Option (Except QueryError (List Json.Value × Nat)) :=
  fetch (fun cursor _ => appointmentPage appointments none cursor pageSize) limit fuel [] none 0

/-- The connector collects the front of the collection, in order, with at most one request more than
the front takes pages. -/
theorem pages_prefix (appointments : List Json.Value) {pageSize : Int} (paged : 0 < pageSize)
    (limit : Int) :
    ∃ fuel made, fetchPages appointments pageSize limit.toNat fuel =
        some (.ok (appointments.take (min limit.toNat appointments.length), made)) ∧
      made ≤ (min limit.toNat appointments.length + pageSize.toNat - 1) / pageSize.toNat + 1 := by
  have positive : 0 < pageSize.toNat := by omega
  obtain ⟨fuel, made, fetched, bounded⟩ :=
    @fetch_collection _ _ limit.toNat _ _ _ _ _
      (serves_filtered (filtered_none appointments) paged) positive
  refine ⟨fuel, made, ?_, bounded⟩
  have front : appointments.take (min limit.toNat appointments.length) =
      appointments.take limit.toNat := by
    rw [← List.take_take, List.take_length]
  rw [front]
  exact fetched

/-- Three of four appointments are collected from pages of two, with three requests at most. -/
theorem pages_prefix_three :
    ∃ fuel made, fetchPages [.str "a", .str "b", .str "c", .str "d"] 2 3 fuel =
        some (.ok ([.str "a", .str "b", .str "c"], made)) ∧ made ≤ 3 :=
  pages_prefix [.str "a", .str "b", .str "c", .str "d"] (by decide) 3

/-- What a service without exceptions answers, where the service of the lab answers. -/
def answering (appointments : List Json.Value) (pageSize : Int) :
    Service Json.Value String := fun cursor _ =>
  match appointmentPage appointments none cursor pageSize with
  | .ok page => page
  | .error _ => ⟨[], none⟩

/-- The connector reads the front of the collection from the service. -/
theorem readPages_answering (appointments : List Json.Value) {pageSize : Int}
    (paged : 0 < pageSize) (limit : Nat) :
    ∃ fuel, RestLiveConnector.readPages (answering appointments pageSize) limit fuel =
      some (appointments.take limit) := by
  have positive : 0 < pageSize.toNat := by omega
  obtain ⟨fuel, made, fetched, -⟩ :=
    @fetch_collection _ _ limit _ _ _ _ _ (serves_filtered (filtered_none appointments) paged)
      positive
  refine ⟨fuel, read_of_fetch ?_ fetched⟩
  intro cursor requests page answered
  unfold answering
  rw [answered]

end ServiceApi

end DataHarness
