import Mathlib.Data.List.Nodup
import Mathlib.Data.List.Sort

/-!
# Logs that are read from a position

Items arrive in any order, each with a place in the log and a key by which an item that arrives
twice is recognized. A reader sees the kept items in the order of their places, the first of each
key only, and may start behind a position. Reading on from a later position delivers what the
reading from an earlier one leaves, and a log that grows behind its last place is read in stages as
if it had been read once.
-/

namespace EventLog

variable {α κ π : Type} [DecidableEq κ] [LinearOrder π]

/-! ## The first item of each key -/

/-- The kept items whose key was not seen, the first of each key. -/
def firsts (key : α → κ) (keep : α → Bool) (seen : List κ) : List α → List α
  | [] => []
  | item :: rest =>
    if key item ∈ seen ∨ keep item = false then firsts key keep seen rest
    else item :: firsts key keep (key item :: seen) rest

variable {key : α → κ} {keep : α → Bool} {seen : List κ}

/-- An item whose key was seen, or that is not kept, is left out. -/
theorem firsts_cons_skipped {item : α} (skipped : key item ∈ seen ∨ keep item = false)
    (rest : List α) : firsts key keep seen (item :: rest) = firsts key keep seen rest := by
  rw [firsts, if_pos skipped]

/-- A kept item with a new key is there. -/
theorem firsts_cons_new {item : α} (new : ¬ (key item ∈ seen ∨ keep item = false))
    (rest : List α) :
    firsts key keep seen (item :: rest) = item :: firsts key keep (key item :: seen) rest := by
  rw [firsts, if_neg new]

/-- Nothing is added, and the order is kept. -/
theorem firsts_sublist (key : α → κ) (keep : α → Bool) (seen : List κ) (items : List α) :
    List.Sublist (firsts key keep seen items) items := by
  induction items generalizing seen with
  | nil => exact List.Sublist.slnil
  | cons item rest ih =>
    by_cases skipped : key item ∈ seen ∨ keep item = false
    · rw [firsts_cons_skipped skipped]
      exact (ih seen).cons item
    · rw [firsts_cons_new skipped]
      exact (ih (key item :: seen)).cons_cons item

/-- Only which keys were seen matters. -/
theorem firsts_congr {left right : List κ} (same : ∀ k, k ∈ left ↔ k ∈ right) (items : List α) :
    firsts key keep left items = firsts key keep right items := by
  induction items generalizing left right with
  | nil => rfl
  | cons item rest ih =>
    have added : ∀ k, k ∈ key item :: left ↔ k ∈ key item :: right := by
      intro k
      rw [List.mem_cons, List.mem_cons, same k]
    by_cases skipped : key item ∈ left ∨ keep item = false
    · have other : key item ∈ right ∨ keep item = false := by
        rw [← same (key item)]
        exact skipped
      rw [firsts_cons_skipped skipped, firsts_cons_skipped other, ih same]
    · have other : ¬ (key item ∈ right ∨ keep item = false) := by
        rw [← same (key item)]
        exact skipped
      rw [firsts_cons_new skipped, firsts_cons_new other, ih added]

/-- Items behind others: their keys are seen by then. -/
theorem firsts_append (front back : List α) :
    firsts key keep seen (front ++ back) =
      firsts key keep seen front ++
        firsts key keep ((firsts key keep seen front).map key ++ seen) back := by
  induction front generalizing seen with
  | nil => rfl
  | cons item rest ih =>
    by_cases skipped : key item ∈ seen ∨ keep item = false
    · rw [List.cons_append, firsts_cons_skipped skipped, firsts_cons_skipped skipped, ih]
    · rw [List.cons_append, firsts_cons_new skipped, firsts_cons_new skipped, ih,
        List.cons_append]
      congr 2
      apply firsts_congr
      intro k
      simp only [List.map_cons, List.mem_append, List.mem_cons]
      tauto

/-- Each item is kept and has a key that was not seen. -/
theorem of_mem_firsts {items : List α} {item : α} (member : item ∈ firsts key keep seen items) :
    item ∈ items ∧ keep item = true ∧ key item ∉ seen := by
  induction items generalizing seen with
  | nil => cases member
  | cons first rest ih =>
    by_cases skipped : key first ∈ seen ∨ keep first = false
    · rw [firsts_cons_skipped skipped] at member
      obtain ⟨among, kept, new⟩ := ih member
      exact ⟨List.mem_cons_of_mem _ among, kept, new⟩
    · rw [firsts_cons_new skipped] at member
      rcases List.mem_cons.mp member with same | later
      · subst same
        obtain ⟨new, kept⟩ := not_or.mp skipped
        exact ⟨List.mem_cons_self, Bool.eq_true_of_not_eq_false kept, new⟩
      · obtain ⟨among, kept, new⟩ := ih later
        refine ⟨List.mem_cons_of_mem _ among, kept, ?_⟩
        intro old
        exact new (List.mem_cons_of_mem _ old)

/-- No key is there twice. -/
theorem nodup_firsts (key : α → κ) (keep : α → Bool) (seen : List κ) (items : List α) :
    ((firsts key keep seen items).map key).Nodup := by
  induction items generalizing seen with
  | nil => exact List.nodup_nil
  | cons item rest ih =>
    by_cases skipped : key item ∈ seen ∨ keep item = false
    · rw [firsts_cons_skipped skipped]
      exact ih seen
    · rw [firsts_cons_new skipped, List.map_cons, List.nodup_cons]
      refine ⟨?_, ih (key item :: seen)⟩
      intro among
      obtain ⟨other, member, same⟩ := List.mem_map.mp among
      apply (of_mem_firsts member).2.2
      rw [same]
      exact List.mem_cons_self

/-- The key of a kept item was seen, or is there by an item that comes no later. -/
theorem exists_first {le : α → α → Prop} (refl : ∀ item, le item item) {items : List α}
    (sorted : items.Pairwise le) {item : α} (member : item ∈ items) (kept : keep item = true) :
    key item ∈ seen ∨
      ∃ first ∈ firsts key keep seen items, key first = key item ∧ le first item := by
  induction items generalizing seen with
  | nil => cases member
  | cons first rest ih =>
    obtain ⟨before, later⟩ := List.pairwise_cons.mp sorted
    by_cases skipped : key first ∈ seen ∨ keep first = false
    · rw [firsts_cons_skipped skipped]
      rcases List.mem_cons.mp member with same | among
      · subst same
        rcases skipped with old | dropped
        · exact .inl old
        · rw [kept] at dropped
          cases dropped
      · exact ih later among
    · rw [firsts_cons_new skipped]
      rcases List.mem_cons.mp member with same | among
      · subst same
        exact .inr ⟨item, List.mem_cons_self, rfl, refl item⟩
      · rcases @ih (key first :: seen) later among with old | ⟨other, found, same, ahead⟩
        · rcases List.mem_cons.mp old with same | old
          · exact .inr ⟨first, List.mem_cons_self, same.symm, before item among⟩
          · exact .inl old
        · exact .inr ⟨other, List.mem_cons_of_mem _ found, same, ahead⟩

/-! ## Sorted lists -/

/-- What lies above a position comes behind the rest of a sorted list. -/
theorem filter_split {place : α → π} {items : List α}
    (sorted : items.Pairwise fun a b => place a ≤ place b) (position : π) :
    items = items.filter (fun item => place item ≤ position) ++
      items.filter (fun item => position < place item) := by
  induction items with
  | nil => rfl
  | cons item rest ih =>
    obtain ⟨before, later⟩ := List.pairwise_cons.mp sorted
    by_cases low : place item ≤ position
    · have high : ¬ position < place item := not_lt.mpr low
      rw [List.filter_cons, if_pos (decide_eq_true low), List.filter_cons,
        if_neg (by simpa using high), List.cons_append, ← ih later]
    · have above : ∀ other ∈ item :: rest, position < place other := by
        intro other member
        rcases List.mem_cons.mp member with same | among
        · rw [same]
          exact not_le.mp low
        · exact lt_of_lt_of_le (not_le.mp low) (before other among)
      have none : (item :: rest).filter (fun other => place other ≤ position) = [] :=
        List.filter_eq_nil_iff.mpr fun other member => by simpa using above other member
      have all : (item :: rest).filter (fun other => position < place other) = item :: rest :=
        List.filter_eq_self.mpr fun other member => by simpa using above other member
      rw [none, all, List.nil_append]

/-- A new item in front of items that are not below it goes first. -/
theorem orderedInsert_append {place : α → π} {item : α} (front : List α) {back : List α}
    (below : ∀ other ∈ back, place item ≤ place other) :
    List.orderedInsert (fun a b => place a ≤ place b) item (front ++ back) =
      List.orderedInsert (fun a b => place a ≤ place b) item front ++ back := by
  induction front with
  | nil =>
    cases back with
    | nil => rfl
    | cons first rest =>
      have low : place item ≤ place first := below first List.mem_cons_self
      show List.orderedInsert _ item (first :: rest) = item :: first :: rest
      rw [List.orderedInsert, if_pos low]
  | cons first rest ih =>
    rw [List.cons_append]
    by_cases low : place item ≤ place first
    · rw [List.orderedInsert, if_pos low, List.orderedInsert, if_pos low]
      rfl
    · rw [List.orderedInsert, if_neg low, List.orderedInsert, if_neg low, ih]
      rfl

/-! ## Reading -/

/-- The items by their places, those of one place in the order they arrived in. -/
def ordered (place : α → π) (items : List α) : List α :=
  items.insertionSort fun a b => place a ≤ place b

/-- What a reader sees. -/
def logical (key : α → κ) (place : α → π) (keep : α → Bool) (items : List α) : List α :=
  firsts key keep [] (ordered place items)

/-- What a reader sees behind a position. -/
def after (key : α → κ) (place : α → π) (keep : α → Bool) (position : π) (items : List α) :
    List α :=
  (logical key place keep items).filter fun item => position < place item

variable {place : α → π} {items : List α}

/-- The items are in the order of their places. -/
theorem pairwise_ordered (place : α → π) (items : List α) :
    (ordered place items).Pairwise fun a b => place a ≤ place b :=
  have : Std.Total fun a b : α => place a ≤ place b := ⟨fun a b => le_total (place a) (place b)⟩
  have : IsTrans α fun a b => place a ≤ place b := ⟨fun _ _ _ => le_trans⟩
  List.pairwise_insertionSort _ items

/-- Ordering keeps the items. -/
theorem mem_ordered {item : α} : item ∈ ordered place items ↔ item ∈ items :=
  List.mem_insertionSort _

/-- Items above all others are ordered behind them. -/
theorem ordered_append {front back : List α}
    (above : ∀ a ∈ front, ∀ b ∈ back, place a ≤ place b) :
    ordered place (front ++ back) = ordered place front ++ ordered place back := by
  induction front with
  | nil => rfl
  | cons item rest ih =>
    have later := ih fun a member => above a (List.mem_cons_of_mem _ member)
    unfold ordered at later ⊢
    rw [List.cons_append, List.insertionSort_cons, later, List.insertionSort_cons]
    apply orderedInsert_append
    intro other member
    exact above item List.mem_cons_self other (mem_ordered.mp member)

/-- What is read comes in the order of the places. -/
theorem pairwise_logical (key : α → κ) (place : α → π) (keep : α → Bool) (items : List α) :
    (logical key place keep items).Pairwise fun a b => place a ≤ place b :=
  (pairwise_ordered place items).sublist (firsts_sublist key keep [] _)

/-- No key is read twice. -/
theorem nodup_logical (key : α → κ) (place : α → π) (keep : α → Bool) (items : List α) :
    ((logical key place keep items).map key).Nodup :=
  nodup_firsts key keep [] _

/-- What is read is in the log and kept. -/
theorem of_mem_logical {item : α} (member : item ∈ logical key place keep items) :
    item ∈ items ∧ keep item = true := by
  obtain ⟨among, kept, -⟩ := of_mem_firsts member
  exact ⟨mem_ordered.mp among, kept⟩

/-- Every kept item is read, by the first of its key. -/
theorem exists_logical {item : α} (member : item ∈ items) (kept : keep item = true) :
    ∃ first ∈ logical key place keep items, key first = key item ∧ place first ≤ place item := by
  have among : item ∈ ordered place items := mem_ordered.mpr member
  rcases @exists_first _ _ _ key keep [] _ (fun other => le_refl (place other)) _
    (pairwise_ordered place items) item among kept with old | found
  · cases old
  · exact found

/-- What is read of a key is the earliest kept item of that key. -/
theorem le_of_mem_logical {item other : α} (member : item ∈ logical key place keep items)
    (among : other ∈ items) (kept : keep other = true) (same : key other = key item) :
    place item ≤ place other := by
  have first_of_key : ∃ first ∈ logical key place keep items, key first = key other ∧
      place first ≤ place other := exists_logical among kept
  obtain ⟨first, found, named, early⟩ := first_of_key
  have one : first = item := List.inj_on_of_nodup_map (nodup_logical key place keep items) found
    member (named.trans same)
  rw [← one]
  exact early

/-- What is read behind a position is in the log, kept, and above it. -/
theorem of_mem_after {position : π} {item : α}
    (member : item ∈ after key place keep position items) :
    item ∈ items ∧ keep item = true ∧ position < place item := by
  obtain ⟨among, above⟩ := List.mem_filter.mp member
  obtain ⟨within, kept⟩ := of_mem_logical among
  exact ⟨within, kept, of_decide_eq_true above⟩

/-- Nothing is read behind a position that no item is above. -/
theorem after_eq_nil {position : π} (top : ∀ item ∈ items, place item ≤ position) :
    after key place keep position items = [] := by
  apply List.filter_eq_nil_iff.mpr
  intro item member
  have low := top item (of_mem_logical member).1
  simpa using low

/-- Reading on from a later position delivers what is left. -/
theorem after_split {early late : π} (ahead : early ≤ late) (items : List α) :
    after key place keep early items =
      (after key place keep early items).filter (fun item => place item ≤ late) ++
        after key place keep late items := by
  have sorted := (pairwise_logical key place keep items).sublist
    (List.filter_sublist (p := fun item => decide (early < place item)))
  have same : (after key place keep early items).filter (fun item => decide (late < place item)) =
      after key place keep late items := by
    unfold after
    rw [List.filter_filter]
    apply List.filter_congr
    intro item member
    by_cases above : late < place item
    · simp [above, lt_of_le_of_lt ahead above]
    · simp [above]
  rw [← same]
  exact filter_split sorted late

/-- A page is taken off the front and the reading goes on behind its last item: nothing is lost
exactly when no other item stands level with that one. -/
theorem handoff (count : Nat) {last : α}
    (ends : ((logical key place keep items).take count).getLast? = some last) :
    logical key place keep items =
        (logical key place keep items).take count ++ after key place keep (place last) items ↔
      ∀ item ∈ (logical key place keep items).drop count, place item ≠ place last := by
  have sorted := pairwise_logical key place keep items
  unfold after
  generalize logical key place keep items = read at ends sorted
  have split : read = read.take count ++ read.drop count := (List.take_append_drop count read).symm
  have whole := sorted
  rw [split] at whole
  obtain ⟨early, -, apart⟩ := List.pairwise_append.mp whole
  obtain ⟨start, shape⟩ := List.getLast?_eq_some_iff.mp ends
  have within : last ∈ read.take count := List.mem_of_getLast? ends
  have low : (read.take count).filter (fun item => decide (place last < place item)) = [] := by
    apply List.filter_eq_nil_iff.mpr
    intro item member
    rw [shape] at early member
    rcases List.mem_append.mp member with among | same
    · have ahead := (List.pairwise_append.mp early).2.2 item among last (List.mem_singleton.mpr rfl)
      simpa using ahead
    · rw [List.mem_singleton.mp same]
      simp
  have rest : read.filter (fun item => decide (place last < place item)) =
      (read.drop count).filter (fun item => decide (place last < place item)) := by
    conv_lhs => rw [split]
    rw [List.filter_append, low, List.nil_append]
  rw [rest]
  conv_lhs => lhs; rw [split]
  rw [List.append_cancel_left_eq, eq_comm, List.filter_eq_self]
  constructor
  · intro above item member
    exact ne_of_gt (of_decide_eq_true (above item member))
  · intro apart_last item member
    have ahead := apart last within item member
    exact decide_eq_true (lt_of_le_of_ne ahead (Ne.symm (apart_last item member)))

/-! ## Growth -/

/-- New items above a position leave what was read up to it. -/
theorem logical_append {front back : List α} (above : ∀ a ∈ front, ∀ b ∈ back, place a ≤ place b) :
    logical key place keep (front ++ back) =
      logical key place keep front ++
        firsts key keep ((logical key place keep front).map key) (ordered place back) := by
  unfold logical
  rw [ordered_append above, firsts_append, List.append_nil]

/-- A log that grew above a position is read as before up to it, and on from there. -/
theorem after_append {early late : π} (ahead : early ≤ late) {front back : List α}
    (low : ∀ item ∈ front, place item ≤ late) (high : ∀ item ∈ back, late < place item) :
    after key place keep early (front ++ back) =
      after key place keep early front ++ after key place keep late (front ++ back) := by
  have above : ∀ a ∈ front, ∀ b ∈ back, place a ≤ place b := fun a first b second =>
    le_of_lt (lt_of_le_of_lt (low a first) (high b second))
  have none : (logical key place keep front).filter (fun item => decide (late < place item)) = [] :=
    after_eq_nil low
  have new : ∀ position ≤ late,
      (firsts key keep ((logical key place keep front).map key) (ordered place back)).filter
        (fun item => decide (position < place item)) =
      firsts key keep ((logical key place keep front).map key) (ordered place back) := by
    intro position below
    apply List.filter_eq_self.mpr
    intro item member
    have among := mem_ordered.mp (of_mem_firsts member).1
    exact decide_eq_true (lt_of_le_of_lt below (high item among))
  unfold after
  rw [logical_append above, List.filter_append, List.filter_append, none, new early ahead,
    new late (le_refl late), List.nil_append]

end EventLog
