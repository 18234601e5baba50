import DataHarness.Decode.Text
import Mathlib.Data.List.Infix
import Mathlib.Data.List.Induction

/-!
# The text of an HTML document

`_SafeHTMLText` takes the events of a parser and keeps the text that stands in no element of four
kinds. It counts the elements of these kinds that are open in one number, whatever their names, so
an end tag of one kind uncovers the text of an open element of another. A text is left out exactly
when some stretch of events in front of it has more start tags than end tags of the four kinds
(`ignoredDepth_pos`).
-/

namespace DataHarness

/-- What an HTML parser calls a handler with. -/
inductive HtmlEvent
  | startTag (tag : String)
  | endTag (tag : String)
  | data (text : String)

/-- The elements whose content is left out. -/
def ignoredTags : List String := ["script", "style", "template", "noscript"]

/-- `_SafeHTMLText`. -/
structure SafeHTMLText where
  fragments : List String
  ignoredDepth : Nat
  activeContentRemoved : Bool

namespace SafeHTMLText

/-- `_SafeHTMLText()`. -/
def empty : SafeHTMLText := ⟨[], 0, false⟩

/-- `handle_starttag`. -/
def handleStarttag (parser : SafeHTMLText) (tag : String) : SafeHTMLText :=
  if lower tag ∈ ignoredTags then
    { parser with ignoredDepth := parser.ignoredDepth + 1, activeContentRemoved := true }
  else parser

/-- `handle_endtag`. -/
def handleEndtag (parser : SafeHTMLText) (tag : String) : SafeHTMLText :=
  if lower tag ∈ ignoredTags ∧ parser.ignoredDepth ≠ 0 then
    { parser with ignoredDepth := parser.ignoredDepth - 1 }
  else parser

/-- `handle_data`. -/
def handleData (parser : SafeHTMLText) (data : String) : SafeHTMLText :=
  if parser.ignoredDepth = 0 ∧ strip data ≠ "" then
    { parser with fragments := parser.fragments ++ [strip data] }
  else parser

/-- The handler of an event. -/
def handle (parser : SafeHTMLText) : HtmlEvent → SafeHTMLText
  | .startTag tag => parser.handleStarttag tag
  | .endTag tag => parser.handleEndtag tag
  | .data text => parser.handleData text

/-- The events of a document, in order. -/
def run (events : List HtmlEvent) : SafeHTMLText := events.foldl handle empty

end SafeHTMLText

open SafeHTMLText

/-! ## What a stretch of events covers -/

/-- The start tag of an element whose content is left out. -/
def HtmlEvent.starts : HtmlEvent → Bool
  | .startTag tag => decide (lower tag ∈ ignoredTags)
  | _ => false

/-- The end tag of an element whose content is left out. -/
def HtmlEvent.ends : HtmlEvent → Bool
  | .endTag tag => decide (lower tag ∈ ignoredTags)
  | _ => false

/-- Some events that come last have more start tags than end tags. -/
def covered (events : List HtmlEvent) : Bool :=
  events.tails.any fun stretch => decide (stretch.countP (·.ends) < stretch.countP (·.starts))

/-- One more event. -/
theorem run_snoc (events : List HtmlEvent) (event : HtmlEvent) :
    run (events ++ [event]) = (run events).handle event := by
  unfold run
  rw [List.foldl_append]
  rfl

/-- What an event does to the depth. -/
theorem ignoredDepth_handle (parser : SafeHTMLText) (event : HtmlEvent) :
    (parser.handle event).ignoredDepth =
      if event.starts then parser.ignoredDepth + 1
      else if event.ends then parser.ignoredDepth - 1
      else parser.ignoredDepth := by
  cases event with
  | startTag tag =>
    by_cases active : lower tag ∈ ignoredTags
    · simp [handle, handleStarttag, HtmlEvent.starts, active]
    · simp [handle, handleStarttag, HtmlEvent.starts, HtmlEvent.ends, active]
  | endTag tag =>
    by_cases active : lower tag ∈ ignoredTags
    · by_cases none : parser.ignoredDepth = 0
      · simp [handle, handleEndtag, HtmlEvent.starts, HtmlEvent.ends, active, none]
      · simp [handle, handleEndtag, HtmlEvent.starts, HtmlEvent.ends, active, none]
    · simp [handle, handleEndtag, HtmlEvent.starts, HtmlEvent.ends, active]
  | data text =>
    show (parser.handleData text).ignoredDepth = parser.ignoredDepth
    unfold handleData
    split
    · rfl
    · rfl

/-- No event is both a start tag and an end tag. -/
theorem not_starts_and_ends (event : HtmlEvent) : ¬ (event.starts = true ∧ event.ends = true) := by
  rintro ⟨starts, ends⟩
  cases event with
  | startTag tag => cases ends
  | endTag tag => cases starts
  | data text => cases starts

/-- A stretch that comes last behind one more event is empty, or one of before and the event. -/
theorem exists_stretch_snoc (events : List HtmlEvent) (event : HtmlEvent) (n : Nat) :
    (∃ stretch, stretch <:+ events ++ [event] ∧
        stretch.countP (·.ends) + n < stretch.countP (·.starts)) ↔
      ∃ stretch, stretch <:+ events ∧
        stretch.countP (·.ends) + (if event.ends then 1 else 0) + n <
          stretch.countP (·.starts) + if event.starts then 1 else 0 := by
  constructor
  · rintro ⟨stretch, last, more⟩
    rcases List.suffix_concat_iff.mp last with rfl | ⟨shorter, rfl, inside⟩
    · exact absurd more (Nat.not_lt_zero _)
    · rw [List.countP_append, List.countP_append, List.countP_singleton,
        List.countP_singleton] at more
      exact ⟨shorter, inside, more⟩
  · rintro ⟨stretch, last, more⟩
    refine ⟨stretch ++ [event], List.suffix_concat_iff.mpr (.inr ⟨stretch, rfl, last⟩), ?_⟩
    rw [List.countP_append, List.countP_append, List.countP_singleton, List.countP_singleton]
    exact more

/-- The depth is the greatest excess of start tags over end tags in the events that come last. -/
theorem lt_ignoredDepth (events : List HtmlEvent) (n : Nat) :
    n < (run events).ignoredDepth ↔
      ∃ stretch, stretch <:+ events ∧
        stretch.countP (·.ends) + n < stretch.countP (·.starts) := by
  induction events using List.reverseRecOn generalizing n with
  | nil =>
    constructor
    · intro none
      exact absurd none (Nat.not_lt_zero n)
    · rintro ⟨stretch, last, more⟩
      rw [List.suffix_nil.mp last] at more
      exact absurd more (Nat.not_lt_zero _)
  | append_singleton events event ih =>
    rw [exists_stretch_snoc, run_snoc, ignoredDepth_handle]
    by_cases starts : event.starts = true
    · have ends : event.ends = false := by
        by_contra both
        exact not_starts_and_ends event ⟨starts, by simpa using both⟩
      simp only [starts, ends, if_true]
      cases n with
      | zero =>
        refine ⟨fun _ => ⟨[], List.nil_suffix, by simp⟩, fun _ => Nat.succ_pos _⟩
      | succ n =>
        rw [Nat.succ_lt_succ_iff, ih]
        refine exists_congr fun stretch => and_congr_right fun _ => ?_
        simp only [Bool.false_eq_true, if_false]
        omega
    · simp only [Bool.not_eq_true] at starts
      by_cases ends : event.ends = true
      · simp only [starts, ends, if_true]
        have lowered : n < (run events).ignoredDepth - 1 ↔ n + 1 < (run events).ignoredDepth := by
          omega
        simp only [Bool.false_eq_true, if_false]
        rw [lowered, ih]
        refine exists_congr fun stretch => and_congr_right fun _ => ?_
        omega
      · simp only [Bool.not_eq_true] at ends
        simp only [starts, ends, Bool.false_eq_true, if_false, Nat.add_zero]
        exact ih n

/-- The depth is positive exactly behind a stretch with more start tags than end tags. -/
theorem ignoredDepth_pos (events : List HtmlEvent) :
    0 < (run events).ignoredDepth ↔ covered events = true := by
  rw [lt_ignoredDepth]
  simp [covered]

/-- A text is kept exactly when nothing covers it and it is not blank. -/
theorem fragments_data (events : List HtmlEvent) (text : String) :
    (run (events ++ [.data text])).fragments =
      (run events).fragments ++
        if covered events = false ∧ strip text ≠ "" then [strip text] else [] := by
  have depth : (run events).ignoredDepth = 0 ↔ covered events = false := by
    rw [← Bool.not_eq_true, ← ignoredDepth_pos, Nat.pos_iff_ne_zero, not_not]
  rw [run_snoc]
  show ((run events).handleData text).fragments = _
  unfold handleData
  simp only [depth]
  split
  · rfl
  · rw [List.append_nil]

/-- Tags add no text. -/
theorem fragments_tag (events : List HtmlEvent) {event : HtmlEvent}
    (tag : ∀ text, event ≠ .data text) :
    (run (events ++ [event])).fragments = (run events).fragments := by
  rw [run_snoc]
  cases event with
  | startTag name =>
    show ((run events).handleStarttag name).fragments = _
    unfold handleStarttag
    split
    · rfl
    · rfl
  | endTag name =>
    show ((run events).handleEndtag name).fragments = _
    unfold handleEndtag
    split
    · rfl
    · rfl
  | data text => exact absurd rfl (tag text)

/-- The texts that are kept of some events behind others. -/
def keptFrom (before : List HtmlEvent) : List HtmlEvent → List String
  | [] => []
  | .data text :: events =>
    if covered before = false ∧ strip text ≠ "" then
      strip text :: keptFrom (before ++ [.data text]) events
    else keptFrom (before ++ [.data text]) events
  | event :: events => keptFrom (before ++ [event]) events

/-- The texts of a document that are not blank and not left out, stripped, in order. -/
def keptTexts (events : List HtmlEvent) : List String := keptFrom [] events

/-- Behind some events the fragments grow by the texts that are kept. -/
theorem fragments_append (before events : List HtmlEvent) :
    (run (before ++ events)).fragments = (run before).fragments ++ keptFrom before events := by
  induction events generalizing before with
  | nil => rw [keptFrom, List.append_nil, List.append_nil]
  | cons event events ih =>
    rw [List.append_cons, ih]
    cases event with
    | startTag tag => rw [fragments_tag before (by simp), keptFrom.eq_3 _ _ _ (by simp)]
    | endTag tag => rw [fragments_tag before (by simp), keptFrom.eq_3 _ _ _ (by simp)]
    | data text =>
      rw [fragments_data, keptFrom]
      split
      · rw [List.append_assoc, List.singleton_append]
      · rw [List.append_nil]

/-- The fragments of a document are the texts that are kept. -/
theorem fragments_eq (events : List HtmlEvent) : (run events).fragments = keptTexts events := by
  have whole := fragments_append [] events
  rwa [List.nil_append] at whole

/-- The texts of some events are the first one, if it is a text, and those of the others. -/
theorem forall_data_cons {event : HtmlEvent} {events : List HtmlEvent}
    {holds : List HtmlEvent → String → Prop} :
    (∀ front text back, event :: events = front ++ .data text :: back → holds front text) ↔
      (∀ text, event = .data text → holds [] text) ∧
        ∀ front text back, events = front ++ .data text :: back → holds (event :: front) text := by
  constructor
  · intro all
    constructor
    · rintro text rfl
      exact all [] text events rfl
    · rintro front text back rfl
      exact all (event :: front) text back rfl
  · rintro ⟨first, others⟩ front text back split
    cases front with
    | nil =>
      obtain ⟨same, -⟩ := List.cons.inj split
      exact first text same
    | cons other front =>
      obtain ⟨same, rest⟩ := List.cons.inj split
      rw [← same]
      exact others front text back rest

/-- No text of some events is kept exactly when each is blank or covered. -/
theorem keptFrom_eq_nil {before events : List HtmlEvent} :
    keptFrom before events = [] ↔
      ∀ front text back, events = front ++ .data text :: back →
        strip text = "" ∨ covered (before ++ front) = true := by
  induction events generalizing before with
  | nil => simp [keptFrom]
  | cons event events ih =>
    have rest := @ih (before ++ [event])
    simp only [List.append_assoc, List.singleton_append] at rest
    rw [forall_data_cons, ← rest, List.append_nil]
    cases event with
    | startTag tag =>
      rw [keptFrom.eq_3 _ _ _ (by simp)]
      exact ⟨fun none => ⟨by simp, none⟩, fun both => both.2⟩
    | endTag tag =>
      rw [keptFrom.eq_3 _ _ _ (by simp)]
      exact ⟨fun none => ⟨by simp, none⟩, fun both => both.2⟩
    | data text =>
      rw [keptFrom]
      by_cases kept : covered before = false ∧ strip text ≠ ""
      · rw [if_pos kept]
        constructor
        · intro none
          cases none
        · rintro ⟨first, -⟩
          rcases first text rfl with blank | hidden
          · exact absurd blank kept.2
          · rw [kept.1] at hidden
            cases hidden
      · rw [if_neg kept]
        refine ⟨fun none => ⟨fun other same => ?_, none⟩, fun both => both.2⟩
        obtain rfl := HtmlEvent.data.inj same
        by_contra shown
        rw [not_or, Bool.not_eq_true] at shown
        exact kept ⟨shown.2, shown.1⟩

/-- A text that is kept is not empty. -/
theorem ne_empty_of_kept {before events : List HtmlEvent} {text : String}
    (member : text ∈ keptFrom before events) : text ≠ "" := by
  induction events generalizing before with
  | nil => cases member
  | cons event events ih =>
    cases event with
    | startTag tag =>
      rw [keptFrom.eq_3 _ _ _ (by simp)] at member
      exact ih member
    | endTag tag =>
      rw [keptFrom.eq_3 _ _ _ (by simp)] at member
      exact ih member
    | data own =>
      rw [keptFrom] at member
      split at member
      · rename_i kept
        rcases List.mem_cons.mp member with rfl | later
        · exact kept.2
        · exact ih later
      · exact ih member

/-! ## Elements that are open -/

/-- The elements that are open after an event, the innermost first: an end tag closes the
innermost one of its name, and nothing when there is none. -/
def openAfter (elements : List String) : HtmlEvent → List String
  | .startTag tag => lower tag :: elements
  | .endTag tag => elements.erase (lower tag)
  | .data _ => elements

/-- The elements that are open after some events. -/
def openElements (events : List HtmlEvent) : List String := events.foldl openAfter []

/-- An element whose content is left out is open. -/
def Ignored (events : List HtmlEvent) : Prop := ∃ tag ∈ openElements events, tag ∈ ignoredTags

/-- A text contributes to the content. -/
def Contributes (events : List HtmlEvent) (text : String) : Prop :=
  (run (events ++ [.data text])).fragments ≠ (run events).fragments

/-- No text inside an element of the four kinds contributes, and their removal is noted. -/
structure Suppresses (events : List HtmlEvent) : Prop where
  quiet : ∀ before text after, events = before ++ .data text :: after →
    Contributes before text → ¬ Ignored before
  noted : ∀ before tag after, events = before ++ .startTag tag :: after →
    lower tag ∈ ignoredTags → (run events).activeContentRemoved = true

/-- A text contributes exactly when nothing covers it and it is not blank. -/
theorem contributes_iff {events : List HtmlEvent} {text : String} :
    Contributes events text ↔ covered events = false ∧ strip text ≠ "" := by
  unfold Contributes
  rw [fragments_data]
  by_cases kept : covered events = false ∧ strip text ≠ ""
  · simp [kept]
  · rw [if_neg kept, List.append_nil]
    exact ⟨fun differs => absurd rfl differs, fun both => absurd both kept⟩

/-- What was noted stays noted. -/
theorem removed_handle {parser : SafeHTMLText} (event : HtmlEvent)
    (noted : parser.activeContentRemoved = true) :
    (parser.handle event).activeContentRemoved = true := by
  cases event with
  | startTag tag =>
    show (parser.handleStarttag tag).activeContentRemoved = true
    unfold handleStarttag
    split
    · rfl
    · exact noted
  | endTag tag =>
    show (parser.handleEndtag tag).activeContentRemoved = true
    unfold handleEndtag
    split
    · exact noted
    · exact noted
  | data text =>
    show (parser.handleData text).activeContentRemoved = true
    unfold handleData
    split
    · exact noted
    · exact noted

/-- It stays noted to the end of the document. -/
theorem removed_foldl (events : List HtmlEvent) {parser : SafeHTMLText}
    (noted : parser.activeContentRemoved = true) :
    (events.foldl handle parser).activeContentRemoved = true := by
  induction events generalizing parser with
  | nil => exact noted
  | cons event events ih => exact ih (removed_handle event noted)

/-- An element of the four kinds that is opened is noted. -/
theorem removed_of_start {before after : List HtmlEvent} {tag : String}
    (active : lower tag ∈ ignoredTags) :
    (run (before ++ .startTag tag :: after)).activeContentRemoved = true := by
  unfold run
  rw [List.foldl_append, List.foldl_cons]
  apply removed_foldl
  show ((before.foldl handle empty).handleStarttag tag).activeContentRemoved = true
  unfold handleStarttag
  rw [if_pos active]

/-- Content is left out as it should be exactly when every text inside an element of the four kinds
is blank or ends a stretch of events with more start tags than end tags of these kinds. -/
theorem suppresses_iff (events : List HtmlEvent) :
    Suppresses events ↔
      ∀ before text after, events = before ++ .data text :: after → Ignored before →
        strip text = "" ∨ covered before = true := by
  constructor
  · intro suppresses before text after split inside
    by_contra shown
    rw [not_or, Bool.not_eq_true] at shown
    exact suppresses.quiet before text after split (contributes_iff.mpr ⟨shown.2, shown.1⟩) inside
  · intro covers
    constructor
    · intro before text after split contributes inside
      obtain ⟨bare, filled⟩ := contributes_iff.mp contributes
      rcases covers before text after split inside with blank | hidden
      · exact filled blank
      · rw [hidden] at bare
        cases bare
    · intro before tag after split active
      rw [split]
      exact removed_of_start active

/-- A template with the end tag of another kind in it. -/
def mismatched : List HtmlEvent :=
  [.startTag "template", .endTag "style", .data "hidden", .endTag "template"]

/-- The text of an open template is shown behind a stray end tag of another kind. -/
theorem mismatched_shown :
    (run mismatched).fragments = ["hidden"] ∧ ¬ Suppresses mismatched := by
  refine ⟨by decide, fun suppresses => ?_⟩
  refine suppresses.quiet [.startTag "template", .endTag "style"] "hidden" [.endTag "template"] rfl
    ?_ ⟨"template", by decide, by decide⟩
  rw [contributes_iff]
  decide

end DataHarness
