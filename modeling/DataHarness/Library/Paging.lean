import Mathlib.Data.Nat.Find
import Mathlib.Order.Monotone.Basic

/-!
# Reading a collection page by page

A service answers a cursor with a page: some items, and the cursor of the next page if there is
one. It may answer anything, and differently each time. A reader follows the cursors until there
is none or it has as many items as it wants.

The reader stops exactly when it is not kept waiting: a service that gives a cursor with every
page, and no items from some page on before the reader has enough, is read forever (`reads_iff`).
-/

namespace Paging

/-- A page of a collection. -/
structure Page (ρ κ : Type) where
  items : List ρ
  next : Option κ

/-- What a service answers a cursor with, after some requests. -/
abbrev Service (ρ κ : Type) := Option κ → Nat → Page ρ κ

variable {ρ κ : Type}

/-! ## The reader -/

/-- Read up to a number of items, with a number of requests at most. -/
def read (service : Service ρ κ) (limit : Nat) :
    Nat → List ρ → Option κ → Nat → Option (List ρ)
  | 0, _, _, _ => none
  | fuel + 1, rows, cursor, requests =>
    if limit ≤ rows.length then some rows
    else
      let page := service cursor requests
      let rows := rows ++ page.items.take (limit - rows.length)
      match page.next with
      | none => some rows
      | some next => read service limit fuel rows (some next) (requests + 1)

/-- The reader stops with some rows. -/
def Reads (service : Service ρ κ) (limit : Nat) (rows : List ρ) : Prop :=
  ∃ fuel, read service limit fuel [] none 0 = some rows

/-! ## The pages it is given -/

variable (service : Service ρ κ)

/-- The cursor of a request, when every cursor is sent on. -/
def cursorAt : Nat → Option κ
  | 0 => none
  | requests + 1 => (service (cursorAt requests) requests).next

/-- The page of a request. -/
def pageAt (requests : Nat) : Page ρ κ := service (cursorAt service requests) requests

/-- The items of the first pages. -/
def itemsUpTo : Nat → List ρ
  | 0 => []
  | requests + 1 => itemsUpTo requests ++ (pageAt service requests).items

/-- The reader goes on behind a number of requests. -/
def GoesOn (limit requests : Nat) : Prop :=
  (itemsUpTo service requests).length < limit ∧ (pageAt service requests).next ≠ none

variable {service} {limit : Nat}

/-- There are no fewer items up to a later page. -/
theorem length_itemsUpTo_mono : Monotone fun requests => (itemsUpTo service requests).length := by
  refine monotone_nat_of_le_succ fun requests => ?_
  show (itemsUpTo service requests).length ≤ (itemsUpTo service (requests + 1)).length
  rw [itemsUpTo, List.length_append]
  omega

/-- What the reader adds of a page, and what it had, is the first of all there is. -/
theorem take_append (items page : List ρ) (limit : Nat) :
    items.take limit ++ page.take (limit - (items.take limit).length) =
      (items ++ page).take limit := by
  rw [List.take_append, List.length_take]
  congr 2
  omega

/-- A request for a page, when there are too few rows. -/
theorem read_page {requests fuel : Nat} (few : (itemsUpTo service requests).length < limit) :
    read service limit (fuel + 1) ((itemsUpTo service requests).take limit)
        (cursorAt service requests) requests =
      match (pageAt service requests).next with
      | none => some ((itemsUpTo service (requests + 1)).take limit)
      | some next => read service limit fuel ((itemsUpTo service (requests + 1)).take limit)
          (some next) (requests + 1) := by
  have short : ¬ limit ≤ ((itemsUpTo service requests).take limit).length := by
    rw [List.length_take]
    omega
  conv_lhs => unfold read
  rw [if_neg short]
  dsimp only
  rw [take_append]
  rfl

/-- Behind requests it went on from, the reader has the items of their pages. -/
theorem read_goesOn {requests fuel : Nat}
    (goes : ∀ earlier < requests, GoesOn service limit earlier) :
    read service limit (requests + fuel) [] none 0 =
      read service limit fuel ((itemsUpTo service requests).take limit)
        (cursorAt service requests) requests := by
  induction requests generalizing fuel with
  | zero =>
    rw [Nat.zero_add, itemsUpTo, List.take_nil]
    rfl
  | succ requests ih =>
    have before := @ih (fuel + 1) fun earlier less => goes earlier (Nat.lt_succ_of_lt less)
    obtain ⟨few, more⟩ := goes requests (Nat.lt_succ_self requests)
    rw [Nat.succ_add_eq_add_succ, before, read_page few]
    cases next : (pageAt service requests).next with
    | none => exact absurd next more
    | some cursor =>
      have own : cursorAt service (requests + 1) = some cursor := next
      rw [own]

/-- Where the reader does not go on, it has the items up to there. -/
theorem read_stops {requests fuel : Nat} (stops : ¬ GoesOn service limit requests) :
    read service limit (fuel + 1) ((itemsUpTo service requests).take limit)
        (cursorAt service requests) requests =
      some ((itemsUpTo service (requests + 1)).take limit) := by
  by_cases enough : limit ≤ (itemsUpTo service requests).length
  · have full : limit ≤ ((itemsUpTo service requests).take limit).length := by
      rw [List.length_take]
      omega
    have same : (itemsUpTo service (requests + 1)).take limit =
        (itemsUpTo service requests).take limit := by
      rw [itemsUpTo, List.take_append_of_le_length enough]
    unfold read
    rw [if_pos full, same]
  · have few : (itemsUpTo service requests).length < limit := not_le.mp enough
    have last : (pageAt service requests).next = none := by
      by_contra more
      exact stops ⟨few, more⟩
    rw [read_page few, last]

/-- The reader stops with the items up to the first page behind which it does not go on. -/
theorem reads_iff_eq {requests : Nat} (goes : ∀ earlier < requests, GoesOn service limit earlier)
    (stops : ¬ GoesOn service limit requests) {rows : List ρ} :
    Reads service limit rows ↔ rows = (itemsUpTo service (requests + 1)).take limit := by
  constructor
  · rintro ⟨fuel, stopped⟩
    rcases Nat.lt_or_ge requests fuel with enough | short
    · obtain ⟨more, rfl⟩ := Nat.exists_eq_add_of_lt enough
      rw [Nat.add_assoc, read_goesOn goes, read_stops stops] at stopped
      exact (Option.some.inj stopped).symm
    · have going := @read_goesOn _ _ service limit fuel 0 fun earlier less =>
        goes earlier (lt_of_lt_of_le less short)
      rw [Nat.add_zero, stopped] at going
      cases going
  · rintro rfl
    exact ⟨requests + 1, (read_goesOn goes).trans (read_stops stops)⟩

/-- A reader that goes on behind every request never stops. -/
theorem not_reads (goes : ∀ requests, GoesOn service limit requests) (rows : List ρ) :
    ¬ Reads service limit rows := by
  rintro ⟨fuel, stopped⟩
  have going := @read_goesOn _ _ service limit fuel 0 fun earlier _ => goes earlier
  rw [Nat.add_zero, stopped] at going
  cases going

/-! ## Services that are read forever -/

/-- A number that grows and stays below a bound stops growing. -/
theorem exists_constant_from {count : Nat → Nat} (grows : Monotone count) {bound : Nat}
    (below : ∀ time, count time < bound) :
    ∃ start, ∀ time, start ≤ time → count time = count start := by
  induction bound with
  | zero => exact absurd (below 0) (Nat.not_lt_zero _)
  | succ bound ih =>
    by_cases reached : ∃ start, count start = bound
    · obtain ⟨start, top⟩ := reached
      refine ⟨start, fun time later => ?_⟩
      have more := grows later
      have less := below time
      omega
    · have apart : ∀ time, count time ≠ bound := fun time same => reached ⟨time, same⟩
      apply ih
      intro time
      have less := below time
      have other := apart time
      omega

/-- Every page has a cursor, and from some page on, none has items before there are enough. -/
structure Endless (service : Service ρ κ) (limit : Nat) : Prop where
  cursors : ∀ requests, (pageAt service requests).next ≠ none
  dry : ∃ start, (itemsUpTo service start).length < limit ∧
    ∀ requests, start ≤ requests → (pageAt service requests).items = []

/-- From a dry page on, there are no more items. -/
theorem itemsUpTo_of_dry {start : Nat}
    (dry : ∀ requests, start ≤ requests → (pageAt service requests).items = []) (more : Nat) :
    itemsUpTo service (start + more) = itemsUpTo service start := by
  induction more with
  | zero => rfl
  | succ more ih =>
    rw [← Nat.add_assoc, itemsUpTo, ih, dry _ (Nat.le_add_right start more), List.append_nil]

/-- The reader goes on behind every request exactly when the service is endless. -/
theorem goesOn_iff : (∀ requests, GoesOn service limit requests) ↔ Endless service limit := by
  constructor
  · intro goes
    refine ⟨fun requests => (goes requests).2, ?_⟩
    have few : ∀ requests, (itemsUpTo service requests).length < limit :=
      fun requests => (goes requests).1
    obtain ⟨start, constant⟩ : ∃ start, ∀ requests, start ≤ requests →
        (itemsUpTo service requests).length = (itemsUpTo service start).length :=
      exists_constant_from length_itemsUpTo_mono few
    refine ⟨start, (goes start).1, fun requests later => ?_⟩
    have here := constant _ later
    have next := constant (requests + 1) (Nat.le_succ_of_le later)
    have grown : (itemsUpTo service (requests + 1)).length =
        (itemsUpTo service requests).length + (pageAt service requests).items.length :=
      List.length_append
    exact List.length_eq_zero_iff.mp (by omega)
  · rintro ⟨cursors, start, few, dry⟩ requests
    refine ⟨lt_of_le_of_lt ?_ few, cursors requests⟩
    rcases le_total requests start with earlier | later
    · exact length_itemsUpTo_mono earlier
    · obtain ⟨more, rfl⟩ := Nat.exists_eq_add_of_le later
      rw [itemsUpTo_of_dry dry]

/-- A reader that does not go on forever does not go on behind some first request. -/
theorem exists_stop (stops : ¬ ∀ requests, GoesOn service limit requests) :
    ∃ requests, (∀ earlier < requests, GoesOn service limit earlier) ∧
      ¬ GoesOn service limit requests := by
  classical
  have some : ∃ requests, ¬ GoesOn service limit requests := not_forall.mp stops
  refine ⟨Nat.find some, fun earlier less => ?_, Nat.find_spec some⟩
  exact not_not.mp (Nat.find_min some less)

/-- The reader stops exactly when the service is not endless. -/
theorem reads_iff : (∃ rows, Reads service limit rows) ↔ ¬ Endless service limit := by
  rw [← goesOn_iff]
  constructor
  · rintro ⟨rows, stopped⟩ goes
    exact not_reads goes rows stopped
  · intro stops
    obtain ⟨requests, first, here⟩ := exists_stop stops
    exact ⟨_, (reads_iff_eq first here).mpr rfl⟩

/-! ## What a service holds -/

/-- Rows are the first of a collection: the items, up to the limit, of pages that all have a cursor
but the last one, which has none unless there are enough. -/
def FirstOf (service : Service ρ κ) (limit : Nat) (rows : List ρ) : Prop :=
  ∃ pages, (∀ earlier < pages, (pageAt service earlier).next ≠ none) ∧
    (limit ≤ (itemsUpTo service (pages + 1)).length ∨ (pageAt service pages).next = none) ∧
      rows = (itemsUpTo service (pages + 1)).take limit

/-- Where there are enough items, more pages do not change the first of them. -/
theorem take_itemsUpTo {requests later : Nat} (enough : limit ≤ (itemsUpTo service requests).length)
    (after : requests ≤ later) :
    (itemsUpTo service later).take limit = (itemsUpTo service requests).take limit := by
  induction later, after using Nat.le_induction with
  | base => rfl
  | succ later after ih =>
    have more : limit ≤ (itemsUpTo service later).length :=
      enough.trans (length_itemsUpTo_mono after)
    rw [itemsUpTo, List.take_append_of_le_length more, ih]

/-- The reader stops with the first rows of the collection. -/
theorem reads_iff_firstOf {rows : List ρ} :
    Reads service limit rows ↔ FirstOf service limit rows := by
  constructor
  · intro stopped
    obtain ⟨requests, goes, stop⟩ := exists_stop fun always => not_reads always rows stopped
    refine ⟨requests, fun earlier less => (goes earlier less).2, ?_, (reads_iff_eq goes stop).mp stopped⟩
    by_contra neither
    rw [not_or, not_le] at neither
    refine stop ⟨lt_of_le_of_lt ?_ neither.1, neither.2⟩
    exact length_itemsUpTo_mono (Nat.le_succ requests)
  · rintro ⟨pages, cursors, last, rfl⟩
    have bounded : ¬ (GoesOn service limit pages ∧ GoesOn service limit (pages + 1)) := by
      rintro ⟨here, next⟩
      rcases last with enough | ended
      · exact absurd next.1 (not_lt.mpr enough)
      · exact here.2 ended
    obtain ⟨requests, goes, stop⟩ := exists_stop fun always => bounded ⟨always _, always _⟩
    rw [reads_iff_eq goes stop]
    by_cases enough : limit ≤ (itemsUpTo service requests).length
    · -- There were enough items before this page already.
      have same : ∀ later, requests ≤ later →
          (itemsUpTo service later).take limit = (itemsUpTo service requests).take limit :=
        fun later after => take_itemsUpTo enough after
      have within : requests ≤ pages + 1 := by
        by_contra beyond
        exact bounded ⟨goes _ (by omega), goes _ (by omega)⟩
      rw [same _ within, same _ (Nat.le_succ requests)]
    · -- The collection has ended with this page.
      have ended : (pageAt service requests).next = none := by
        by_contra more
        exact stop ⟨not_le.mp enough, more⟩
      rcases lt_trichotomy requests pages with before | rfl | behind
      · exact absurd ended (cursors requests before)
      · rfl
      · rcases last with full | done
        · have late : pages + 1 ≤ requests := behind
          exact absurd (full.trans (length_itemsUpTo_mono late)) enough
        · exact absurd done (goes pages behind).2

/-! ## Services that may raise -/

section Fetch

variable {ε : Type}

/-- Read from pages that may raise, and count the requests. -/
def fetch (get : Option κ → Nat → Except ε (Page ρ κ)) (limit : Nat) :
    Nat → List ρ → Option κ → Nat → Option (Except ε (List ρ × Nat))
  | 0, _, _, _ => none
  | fuel + 1, rows, cursor, requests =>
    if limit ≤ rows.length then some (.ok (rows, requests))
    else
      match get cursor requests with
      | .error error => some (.error error)
      | .ok page =>
        let rows := rows ++ page.items.take (limit - rows.length)
        match page.next with
        | none => some (.ok (rows, requests + 1))
        | some next => fetch get limit fuel rows (some next) (requests + 1)

/-- What is fetched is read from a service that answers like the pages that do not raise. -/
theorem read_of_fetch {get : Option κ → Nat → Except ε (Page ρ κ)}
    (answers : ∀ cursor requests page, get cursor requests = .ok page →
      service cursor requests = page) {fuel : Nat} {rows found : List ρ} {cursor : Option κ}
    {requests made : Nat}
    (fetched : fetch get limit fuel rows cursor requests = some (.ok (found, made))) :
    read service limit fuel rows cursor requests = some found := by
  induction fuel generalizing rows cursor requests with
  | zero => cases fetched
  | succ fuel ih =>
    unfold fetch at fetched
    unfold read
    by_cases enough : limit ≤ rows.length
    · rw [if_pos enough] at fetched ⊢
      have same := Except.ok.inj (Option.some.inj fetched)
      rw [(Prod.mk.inj same).1]
    · rw [if_neg enough] at fetched ⊢
      cases got : get cursor requests with
      | error error =>
        rw [got] at fetched
        cases fetched
      | ok page =>
        rw [got] at fetched
        rw [answers _ _ _ got]
        dsimp only at fetched ⊢
        cases next : page.next with
        | none =>
          rw [next] at fetched
          have same := Except.ok.inj (Option.some.inj fetched)
          rw [(Prod.mk.inj same).1]
        | some cursor =>
          rw [next] at fetched
          exact ih fetched

/-- Some page of a collection that is served by offsets. -/
structure Serves (get : Option κ → Nat → Except ε (Page ρ κ)) (collection : List ρ)
    (pageSize : Nat) (names : Option κ → Nat → Prop) : Prop where
  /-- The first request is for the start. -/
  first : names none 0
  /-- An offset is answered with its page, and with a cursor that names the next offset. -/
  page : ∀ cursor offset requests, names cursor offset → ∃ next,
    get cursor requests = .ok ⟨(collection.drop offset).take pageSize, next⟩ ∧
      (offset + pageSize < collection.length → next ≠ none ∧ names next (offset + pageSize)) ∧
        (collection.length ≤ offset + pageSize → next = none)

/-- What one more page brings of a collection. -/
theorem take_page (collection : List ρ) (offset pageSize limit : Nat) :
    (collection.take offset).take limit ++
        ((collection.drop offset).take pageSize).take
          (limit - ((collection.take offset).take limit).length) =
      (collection.take (offset + pageSize)).take limit := by
  rw [take_append, ← List.take_add]

/-- A number of pages that is rounded up is one more than that of what a page leaves. -/
theorem pages_of_pos {left pageSize : Nat} (paged : 0 < pageSize) (more : 0 < left) :
    (left + pageSize - 1) / pageSize = (left - pageSize + pageSize - 1) / pageSize + 1 := by
  have whole : left + pageSize - 1 = left - 1 + pageSize := by omega
  have one : (left + pageSize - 1) / pageSize = (left - 1) / pageSize + 1 := by
    rw [whole, Nat.add_div_right _ paged]
  by_cases full : pageSize ≤ left
  · have rest : left - pageSize + pageSize - 1 = left - 1 := by omega
    rw [one, rest]
  · have none : left - pageSize + pageSize - 1 < pageSize := by omega
    have small : left - 1 < pageSize := by omega
    rw [one, Nat.div_eq_of_lt none, Nat.div_eq_of_lt small]

variable {get : Option κ → Nat → Except ε (Page ρ κ)} {collection : List ρ} {pageSize : Nat}
  {names : Option κ → Nat → Prop}

/-- With a page that has a cursor, the fetching goes on. -/
theorem fetch_more {offset requests fuel : Nat} {cursor : Option κ} {next : κ}
    (few : ¬ limit ≤ ((collection.take offset).take limit).length)
    (got : get cursor requests = .ok ⟨(collection.drop offset).take pageSize, some next⟩) :
    fetch get limit (fuel + 1) ((collection.take offset).take limit) cursor requests =
      fetch get limit fuel ((collection.take (offset + pageSize)).take limit) (some next)
        (requests + 1) := by
  conv_lhs => unfold fetch
  rw [if_neg few, got]
  dsimp only
  rw [take_page]

/-- With a page that has no cursor, the fetching ends. -/
theorem fetch_last {offset requests fuel : Nat} {cursor : Option κ}
    (few : ¬ limit ≤ ((collection.take offset).take limit).length)
    (got : get cursor requests = .ok ⟨(collection.drop offset).take pageSize, none⟩) :
    fetch get limit (fuel + 1) ((collection.take offset).take limit) cursor requests =
      some (.ok ((collection.take (offset + pageSize)).take limit, requests + 1)) := by
  unfold fetch
  rw [if_neg few, got]
  dsimp only
  rw [take_page]

/-- From an offset on, the rest of the first items is fetched, with as many requests as there are
pages of it, and one. -/
theorem fetch_from (serves : Serves get collection pageSize names) (paged : 0 < pageSize)
    (left : Nat) {offset requests : Nat} {cursor : Option κ} (named : names cursor offset)
    (rest : min limit collection.length - offset ≤ left) :
    ∃ fuel made, fetch get limit fuel ((collection.take offset).take limit) cursor requests =
        some (.ok (collection.take limit, made)) ∧
      made ≤ requests + (min limit collection.length - offset + pageSize - 1) / pageSize + 1 := by
  induction left using Nat.strongRecOn generalizing offset requests cursor with
  | ind left ih =>
    have size : ((collection.take offset).take limit).length =
        min limit (min offset collection.length) := by
      rw [List.length_take, List.length_take]
    have least : requests + 1 ≤
        requests + (min limit collection.length - offset + pageSize - 1) / pageSize + 1 :=
      Nat.succ_le_succ (Nat.le_add_right _ _)
    by_cases enough : limit ≤ ((collection.take offset).take limit).length
    · have beyond : limit ≤ offset := by omega
      refine ⟨1, requests, ?_, (Nat.le_succ requests).trans least⟩
      unfold fetch
      rw [if_pos enough, List.take_take, min_eq_left beyond]
    · obtain ⟨next, got, goes, ends⟩ := serves.page cursor offset requests named
      by_cases more : offset + pageSize < collection.length
      · obtain ⟨some, named⟩ := goes more
        obtain ⟨cursor, rfl⟩ := Option.ne_none_iff_exists'.mp some
        have before : 0 < min limit collection.length - offset := by omega
        have fewer : min limit collection.length - (offset + pageSize) <
            min limit collection.length - offset := by omega
        obtain ⟨fuel, made, fetched, bounded⟩ :=
          @ih _ (lt_of_lt_of_le fewer rest) (offset + pageSize) (requests + 1) _ named (le_refl _)
        have pages := pages_of_pos paged before
        have same : min limit collection.length - (offset + pageSize) =
            min limit collection.length - offset - pageSize := by omega
        rw [same] at bounded
        refine ⟨fuel + 1, made, (fetch_more enough got).trans fetched, ?_⟩
        omega
      · have last := ends (not_lt.mp more)
        rw [last] at got
        refine ⟨1, requests + 1, ?_, least⟩
        rw [fetch_last enough got, List.take_of_length_le (not_lt.mp more)]

/-- A collection that is served by offsets is fetched up to a limit, in order, with as many
requests as there are pages of what is fetched, and one. -/
theorem fetch_collection (serves : Serves get collection pageSize names) (paged : 0 < pageSize) :
    ∃ fuel made, fetch get limit fuel [] none 0 = some (.ok (collection.take limit, made)) ∧
      made ≤ (min limit collection.length + pageSize - 1) / pageSize + 1 := by
  obtain ⟨fuel, made, fetched, bounded⟩ :=
    @fetch_from ρ κ limit ε get collection pageSize names serves paged _ 0 0 none serves.first
      (le_refl _)
  rw [@List.take_zero ρ collection, List.take_nil] at fetched
  rw [Nat.sub_zero, Nat.zero_add] at bounded
  exact ⟨fuel, made, fetched, bounded⟩

end Fetch

end Paging
