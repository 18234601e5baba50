import DataHarness.Decode.Html
import DataHarness.Decode.Loads
import DataHarness.Decode.Records
import DataHarness.Library.CsvReader

/-!
# The standard decoder

`StandardDecoder.decode` takes the bytes of a source as CSV, JSON, HTML or text, within limits.
What it raises on purpose is `DecodeRejected`; it also catches what `json.loads` raises for text
that is no JSON or nests too deeply, and nothing else. The parser of HTML is a parameter: the
events of a document when it is fed, and those that follow when the parser is closed.
-/

namespace DataHarness

/-- `html.parser.HTMLParser(convert_charrefs=True)`, of which a whole document is fed at once, as far
as it takes every text: `<![foo[bar]]>` makes CPython raise an `AssertionError`. -/
class HTMLParser where
  /-- The events of `feed(text)`. -/
  feed : String → List HtmlEvent
  /-- The events of `close()` after it, for what `feed` held back. -/
  close : String → List HtmlEvent

/-- `PayloadFormat`. -/
inductive PayloadFormat
  | csv
  | json
  | html
  | pdf
  | text
  | arrow
deriving DecidableEq

/-- `ContentTrust`. -/
inductive ContentTrust
  | untrustedSource
deriving DecidableEq

/-- `DecoderLimits`. -/
structure DecoderLimits where
  maxPayloadBytes : Nat
  maxRecords : Nat
  maxTextCharacters : Nat
  /-- The limits are positive. -/
  positive : 0 < min (min maxPayloadBytes maxRecords) maxTextCharacters

/-- `DecodeRequest`. -/
structure DecodeRequest where
  payload : ByteArray
  payloadFormat : PayloadFormat
  sourceVersion : SourceVersion
  lineage : List LineageRef
  mediaType : String
  /-- Requests require payload, lineage and media type. -/
  required : payload.size ≠ 0 ∧ lineage ≠ [] ∧ mediaType ≠ ""

/-- `DecodeRequest(…)`; an error is the text of its `ValueError`. -/
def DecodeRequest.make (payload : ByteArray) (payloadFormat : PayloadFormat)
    (sourceVersion : SourceVersion) (lineage : List LineageRef) (mediaType : String) :
    Except String DecodeRequest :=
  if required : payload.size ≠ 0 ∧ lineage ≠ [] ∧ mediaType ≠ "" then
    .ok ⟨payload, payloadFormat, sourceVersion, lineage, mediaType, required⟩
  else .error "decode requests require payload, media type and lineage"

/-- `DecodeResult`. -/
structure DecodeResult where
  batches : List DataBatch
  trust : ContentTrust
  warnings : List String
  /-- There is a batch. -/
  required : batches ≠ []

/-- What decoding raises. -/
inductive DecodeError
  /-- `DecodeRejected`. -/
  | rejected (message : String)
  | keyError (key : String)
  | valueError (message : String)
deriving DecidableEq

/-- What is made of a text: the payload, its number of rows, its kind, and warnings. -/
structure Decoded where
  payload : Payload
  rows : Nat
  kind : BatchKind
  warnings : List String

namespace StandardDecoder

/-- `_media_types[payload_format]`; other formats are a `KeyError`. -/
def mediaTypes : PayloadFormat → Except DecodeError (List String)
  | .csv => .ok ["text/csv", "application/csv"]
  | .json => .ok ["application/json", "application/jsonl", "application/x-ndjson"]
  | .html => .ok ["text/html", "application/xhtml+xml"]
  | .text => .ok ["text/plain", "text/markdown"]
  | .pdf => .error (.keyError "pdf")
  | .arrow => .error (.keyError "arrow")

/-- The media types whose payload is read line by line. -/
def lineMediaTypes : List String := ["application/jsonl", "application/x-ndjson"]

/-- `_injection_markers`. -/
def injectionMarkers : List String :=
  ["ignore previous instructions", "ignore all previous", "system prompt", "developer message"]

/-- `_warnings`. -/
def warnings (text : String) : List String :=
  if injectionMarkers.any fun marker => hasPart marker (lower text) then
    ["potential-prompt-injection"]
  else []

/-- The checks of a payload, and its text. -/
def readText (limits : DecoderLimits) (request : DecodeRequest) : Except DecodeError String :=
  if limits.maxPayloadBytes < request.payload.size then
    .error (.rejected "payload exceeds decoder byte limit")
  else do
    let types ← mediaTypes request.payloadFormat
    if lower request.mediaType ∉ types then
      .error (.rejected "media type does not match the declared payload format")
    else
      match String.fromUTF8? request.payload with
      | none => .error (.rejected "payload is not valid UTF-8")
      | some text =>
        if limits.maxTextCharacters < text.length then
          .error (.rejected "decoded text exceeds character limit")
        else .ok text

/-- The content of a document, with its media type. -/
def document (content mediaType : String) : Payload :=
  .json (.obj [("content", .str content), ("media_type", .str mediaType)])

/-- What becomes of an exception of `json.loads`: the hook raises `DecodeRejected`, and an integer
that is too long is not caught. -/
def loadsRejected : LoadsError → DecodeError
  | .constant constant => .rejected ("non-finite JSON constant rejected: " ++ constant.name)
  | .decodeError => .rejected "payload is not valid bounded JSON"
  | .recursionError => .rejected "payload is not valid bounded JSON"
  | .tooManyDigits digits => .valueError (digitsText digits)

/-- The lines of a text that are not blank. -/
def filledLines (text : String) : List String :=
  (splitlines text).filter fun line => !isBlank line

/-- `len(value) if isinstance(value, list) else 1`. -/
def jsonRows : Json.Value → Nat
  | .arr items => items.length
  | _ => 1

/-- The kind of a batch of JSON. -/
def jsonKind : Json.Value → BatchKind
  | .arr _ => .arrow
  | _ => .document

/-- The batch of a request. -/
def batch (request : DecodeRequest) (decoded : Decoded) : DataBatch where
  kind := decoded.kind
  payload := decoded.payload
  sourceVersions := [request.sourceVersion]
  lineage := request.lineage
  rowCount := some decoded.rows
  byteCount := some request.payload.size
  required := ⟨List.cons_ne_nil _ _, request.required.2.1⟩

/-- The result of a request. -/
def result (request : DecodeRequest) (decoded : Decoded) : DecodeResult where
  batches := [batch request decoded]
  trust := .untrustedSource
  warnings := decoded.warnings
  required := List.cons_ne_nil _ _

/-- A payload is within the limits, of a media type of its format, and a text in UTF-8. -/
structure Admitted (limits : DecoderLimits) (request : DecodeRequest) (text : String) : Prop where
  bytes : request.payload.size ≤ limits.maxPayloadBytes
  typed : ∃ types, mediaTypes request.payloadFormat = .ok types ∧ lower request.mediaType ∈ types
  valid : String.fromUTF8? request.payload = some text
  characters : text.length ≤ limits.maxTextCharacters

/-- The text of a payload is read when it is admitted. -/
theorem readText_eq_ok {limits : DecoderLimits} {request : DecodeRequest} {text : String} :
    readText limits request = .ok text ↔ Admitted limits request text := by
  unfold readText
  by_cases large : limits.maxPayloadBytes < request.payload.size
  · rw [if_pos large]
    constructor
    · intro read
      cases read
    · rintro ⟨small, -⟩
      omega
  · rw [if_neg large, bind_ok_iff]
    have small : request.payload.size ≤ limits.maxPayloadBytes := not_lt.mp large
    constructor
    · rintro ⟨types, known, rest⟩
      split at rest
      · cases rest
      rename_i typed
      split at rest
      · cases rest
      rename_i other valid
      split at rest
      · cases rest
      rename_i short
      have same : other = text := Except.ok.inj rest
      rw [same] at valid short
      exact ⟨small, ⟨types, known, not_not.mp typed⟩, valid, not_lt.mp short⟩
    · rintro ⟨-, ⟨types, known, typed⟩, valid, short⟩
      refine ⟨types, known, ?_⟩
      rw [if_neg (not_not.mpr typed), valid]
      dsimp only
      rw [if_neg (not_lt.mpr short)]

/-- What holds of every text a payload is admitted with holds of the one that is read. -/
theorem forall_admitted {limits : DecoderLimits} {request : DecodeRequest} {text : String}
    {holds : String → Prop} (read : readText limits request = .ok text) :
    (∀ other, Admitted limits request other → holds other) ↔ holds text := by
  constructor
  · intro each
    exact each text (readText_eq_ok.mp read)
  · intro own other admitted
    rw [← Except.ok.inj (read.symm.trans (readText_eq_ok.mpr admitted))]
    exact own

/-- A payload that is not read is admitted with no text. -/
theorem not_admitted {limits : DecoderLimits} {request : DecodeRequest} {error : DecodeError}
    (raised : readText limits request = .error error) (text : String) :
    ¬ Admitted limits request text := by
  intro admitted
  rw [readText_eq_ok.mpr admitted] at raised
  cases raised

/-- A payload of a known format that is not read is rejected. -/
theorem readText_rejected {limits : DecoderLimits} {request : DecodeRequest} {types : List String}
    {error : DecodeError} (known : mediaTypes request.payloadFormat = .ok types)
    (raised : readText limits request = .error error) : ∃ message, error = .rejected message := by
  unfold readText at raised
  rw [known] at raised
  split at raised
  · exact ⟨_, (Except.error.inj raised).symm⟩
  · simp only [bind, Except.bind] at raised
    split at raised
    · exact ⟨_, (Except.error.inj raised).symm⟩
    · split at raised
      · exact ⟨_, (Except.error.inj raised).symm⟩
      · split at raised
        · exact ⟨_, (Except.error.inj raised).symm⟩
        · cases raised

variable [Interpreter]

/-- `_json`. -/
def json (text mediaType : String) : Except LoadsError (Json.Value × Nat) :=
  if mediaType ∈ lineMediaTypes then do
    let values ← (filledLines text).mapM (loads true)
    return (.arr values, values.length)
  else do
    let value ← loads true text
    return (value, jsonRows value)

/-- The values of lines. -/
theorem json_eq_ok {text mediaType : String} {value : Json.Value} {rows : Nat}
    (typed : mediaType ∈ lineMediaTypes) :
    json text mediaType = .ok (value, rows) ↔
      ∃ values, (filledLines text).mapM (loads true) = .ok values ∧ value = .arr values ∧
        rows = values.length := by
  unfold json
  rw [if_pos typed, bind_ok_iff]
  constructor
  · rintro ⟨values, read, same⟩
    obtain ⟨first, second⟩ := Prod.mk.inj (Except.ok.inj same)
    exact ⟨values, read, first.symm, second.symm⟩
  · rintro ⟨values, read, rfl, rfl⟩
    exact ⟨values, read, rfl⟩

variable [HTMLParser]

/-- What is made of a text in the format of a request. -/
def parse (request : DecodeRequest) (text : String) : Except DecodeError Decoded :=
  match request.payloadFormat with
  | .json =>
    match json text (lower request.mediaType) with
    | .error error => .error (loadsRejected error)
    | .ok (value, rows) => .ok ⟨.json value, rows, jsonKind value, warnings text⟩
  | .csv =>
    match Csv.rows text.toList with
    | .error _ => .error (.rejected "payload is not valid bounded CSV")
    | .ok rows =>
      let records := dictRows rows
      .ok ⟨recordsPayload records, records.length, .arrow, warnings text⟩
  | .html =>
    let parser := SafeHTMLText.run (HTMLParser.feed text)
    let content := "\n".intercalate parser.fragments
    .ok ⟨document content request.mediaType, 1, .document,
      if parser.activeContentRemoved then warnings text ++ ["active-html-content-removed"]
      else warnings text⟩
  | _ => .ok ⟨document text request.mediaType, 1, .document, warnings text⟩

/-- `decode`. -/
def decode (limits : DecoderLimits) (request : DecodeRequest) : Except DecodeError DecodeResult := do
  let text ← readText limits request
  let decoded ← parse request text
  if limits.maxRecords < decoded.rows then
    .error (.rejected "decoded record count exceeds limit")
  else return result request decoded

/-- A request is decoded when its payload is read and parsed, with few enough records. -/
theorem decode_eq_ok {limits : DecoderLimits} {request : DecodeRequest} {answer : DecodeResult} :
    decode limits request = .ok answer ↔
      ∃ text decoded, readText limits request = .ok text ∧ parse request text = .ok decoded ∧
        decoded.rows ≤ limits.maxRecords ∧ answer = result request decoded := by
  unfold decode
  rw [bind_ok_iff]
  constructor
  · rintro ⟨text, read, rest⟩
    obtain ⟨decoded, parsed, rest⟩ := bind_ok_iff.mp rest
    split at rest
    · cases rest
    · rename_i few
      exact ⟨text, decoded, read, parsed, not_lt.mp few, (Except.ok.inj rest).symm⟩
  · rintro ⟨text, decoded, read, parsed, few, same⟩
    refine ⟨text, read, bind_ok_iff.mpr ⟨decoded, parsed, ?_⟩⟩
    rw [if_neg (not_lt.mpr few), same]
    rfl

section Errors

variable {limits : DecoderLimits} {request : DecodeRequest}

/-- A payload that is not read is not decoded. -/
theorem decode_unread {error : DecodeError} (read : readText limits request = .error error) :
    decode limits request = .error error := by
  unfold decode
  rw [read]
  rfl

variable {text : String}

/-- A text that is not parsed is not decoded. -/
theorem decode_unparsed {error : DecodeError} (read : readText limits request = .ok text)
    (parsed : parse request text = .error error) : decode limits request = .error error := by
  unfold decode
  rw [read]
  simp only [bind, Except.bind, parsed]

/-- Too many records are not decoded. -/
theorem decode_too_many {decoded : Decoded} (read : readText limits request = .ok text)
    (parsed : parse request text = .ok decoded) (many : limits.maxRecords < decoded.rows) :
    decode limits request = .error (.rejected "decoded record count exceeds limit") := by
  unfold decode
  rw [read]
  simp only [bind, Except.bind, parsed]
  exact if_pos many

end Errors

end StandardDecoder

/-! ## Small payloads -/

/-- A text is read from its own bytes. -/
@[simp] theorem fromUTF8?_toUTF8 (text : String) : String.fromUTF8? text.toUTF8 = some text := by
  have valid : text.toUTF8.IsValidUTF8 := text.isValidUTF8
  unfold String.fromUTF8?
  rw [dif_pos valid]
  rfl

/-- The limits a decoder has when it is given none. -/
def DecoderLimits.standard : DecoderLimits := ⟨4 * 1024 * 1024, 10000, 2000000, by decide⟩

/-- A source and its version are named. -/
theorem lab_named : "lab" ≠ "" ∧ "v1" ≠ "" := by decide

/-- The version of small payloads. -/
def labVersion : SourceVersion := ⟨"lab", "v1", noon, none, lab_named, noon_aware⟩

/-- A text that is not empty has bytes. -/
theorem size_toUTF8_ne_zero {text : String} (filled : text ≠ "") : text.toUTF8.size ≠ 0 := by
  intro none
  apply filled
  have empty : text.utf8ByteSize = 0 := none
  simpa using empty

/-- The request of a text. -/
def textRequest (text : String) (payloadFormat : PayloadFormat) (mediaType : String)
    (filled : text ≠ "" ∧ mediaType ≠ "") : DecodeRequest where
  payload := text.toUTF8
  payloadFormat := payloadFormat
  sourceVersion := labVersion
  lineage := [.asset]
  mediaType := mediaType
  required := ⟨size_toUTF8_ne_zero filled.1, List.cons_ne_nil _ _, filled.2⟩

/-- The text of a request is read within the limits. -/
theorem readText_textRequest {limits : DecoderLimits} {text mediaType : String}
    {payloadFormat : PayloadFormat} {filled : text ≠ "" ∧ mediaType ≠ ""} {types : List String}
    (small : text.utf8ByteSize ≤ limits.maxPayloadBytes)
    (known : StandardDecoder.mediaTypes payloadFormat = .ok types) (typed : lower mediaType ∈ types)
    (short : text.length ≤ limits.maxTextCharacters) :
    StandardDecoder.readText limits (textRequest text payloadFormat mediaType filled) =
      .ok text :=
  StandardDecoder.readText_eq_ok.mpr
    ⟨small, ⟨types, known, typed⟩, fromUTF8?_toUTF8 text, short⟩

/-- A parser holds back a text without tags that ends in a reference which may go on: no space and
no semicolon follow an ampersand among its last characters. -/
def holdsBack (text : String) : Bool :=
  let rest := text.toList.reverse.takeWhile (· ≠ '&')
  decide ('&' ∈ text.toList) && decide (rest.length < 34) &&
    !rest.any fun c => isSpace c || c == ';'

/-- The parser of texts without tags. -/
@[reducible] def HTMLParser.plain : HTMLParser where
  feed text := if holdsBack text then [] else [.data text]
  close text := if holdsBack text then [.data text] else []

end DataHarness
