import DataHarness.Decode.Decoder

/-!
# The whole of a document

The decoder feeds a document to its parser and never closes it, so the content lacks whatever the
parser holds back at the end of the document. Nothing is lost exactly when what is held back is no
text that would be kept (`whole_iff`).
-/

namespace DataHarness

open StandardDecoder

/-- Two documents of one media type are one when they have one content. -/
theorem document_inj {left right mediaType : String} :
    document left mediaType = document right mediaType ↔ left = right := by
  unfold document
  simp

section Documents

variable [Interpreter] [HTMLParser]

/-- The events of a document, those after its end included. -/
def documentEvents (text : String) : List HtmlEvent := HTMLParser.feed text ++ HTMLParser.close text

/-- The content of a whole document. -/
def wholeContent (text : String) : String := "\n".intercalate (keptTexts (documentEvents text))

/-- A document is decoded to its whole content. -/
def DecodesWhole (limits : DecoderLimits) (request : DecodeRequest) (text : String) : Prop :=
  ∃ answer, decode limits request = .ok answer ∧
    answer.batches.map (·.payload) = [document (wholeContent text) request.mediaType]

/-- What the parser holds back of a document is blank or covered. -/
def NothingHeldBack (text : String) : Prop :=
  ∀ before chunk after, HTMLParser.close text = before ++ .data chunk :: after →
    strip chunk = "" ∨ covered (HTMLParser.feed text ++ before) = true

/-- What is made of a document. -/
def decodedDocument (request : DecodeRequest) (text : String) : Decoded :=
  let parser := SafeHTMLText.run (HTMLParser.feed text)
  ⟨document ("\n".intercalate parser.fragments) request.mediaType, 1, .document,
    if parser.activeContentRemoved then warnings text ++ ["active-html-content-removed"]
    else warnings text⟩

/-- A document within the limits is decoded. -/
theorem decode_html {limits : DecoderLimits} {request : DecodeRequest} {text : String}
    (html : request.payloadFormat = .html) (read : readText limits request = .ok text) :
    decode limits request = .ok (result request (decodedDocument request text)) := by
  have parsed : parse request text = .ok (decodedDocument request text) := by
    unfold parse
    rw [html]
    rfl
  have few : (decodedDocument request text).rows ≤ limits.maxRecords := by
    have positive := limits.positive
    show 1 ≤ limits.maxRecords
    omega
  exact decode_eq_ok.mpr ⟨text, _, read, parsed, few, rfl⟩

/-- A document is decoded to its whole content when that is the content of what is fed. -/
theorem decodesWhole_iff {limits : DecoderLimits} {request : DecodeRequest} {text : String}
    (html : request.payloadFormat = .html) (read : readText limits request = .ok text) :
    DecodesWhole limits request text ↔
      "\n".intercalate (SafeHTMLText.run (HTMLParser.feed text)).fragments =
        wholeContent text := by
  have done := decode_html html read
  constructor
  · rintro ⟨answer, returned, payloads⟩
    have own := Except.ok.inj (done.symm.trans returned)
    rw [← own] at payloads
    exact document_inj.mp (List.cons.inj payloads).1
  · intro whole
    refine ⟨_, done, ?_⟩
    rw [← whole]
    rfl

/-- A document within the limits is decoded to its whole content exactly when the parser holds back
no text that would be kept. -/
theorem whole_iff {limits : DecoderLimits} {request : DecodeRequest} {text : String}
    (html : request.payloadFormat = .html) (read : readText limits request = .ok text) :
    DecodesWhole limits request text ↔ NothingHeldBack text := by
  have fragments : keptTexts (documentEvents text) =
      (SafeHTMLText.run (HTMLParser.feed text)).fragments ++
        keptFrom (HTMLParser.feed text) (HTMLParser.close text) := by
    rw [← fragments_eq]
    exact fragments_append _ _
  have held : keptFrom (HTMLParser.feed text) (HTMLParser.close text) = [] ↔
      NothingHeldBack text := keptFrom_eq_nil
  rw [decodesWhole_iff html read, ← held, eq_comm]
  unfold wholeContent
  rw [fragments]
  exact intercalate_append fun text member => ne_empty_of_kept member

end Documents

/-- A reference ends with a space, so the document is decoded to its whole content. -/
theorem whole_plain :
    @DecodesWhole .small .plain .standard
      (textRequest "R & D" .html "text/html" (by decide)) "R & D" := by
  have read : readText .standard (textRequest "R & D" .html "text/html" (by decide)) =
      .ok "R & D" := readText_textRequest (by decide) rfl (by decide) (by decide)
  have none : HTMLParser.plain.close "R & D" = [] := by decide
  refine (@whole_iff .small .plain _ _ _ rfl read).mpr fun before chunk after held => ?_
  rw [none] at held
  simp at held

/-- A document that ends in a reference without an end is decoded to no content at all. -/
theorem ampersand_lost :
    ¬ @DecodesWhole .small .plain .standard
      (textRequest "AT&T" .html "text/html" (by decide)) "AT&T" := by
  have read : readText .standard (textRequest "AT&T" .html "text/html" (by decide)) =
      .ok "AT&T" := readText_textRequest (by decide) rfl (by decide) (by decide)
  rw [@decodesWhole_iff .small .plain _ _ _ rfl read]
  decide

end DataHarness
