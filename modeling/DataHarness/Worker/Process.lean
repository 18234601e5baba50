import DataHarness.Decode.Written
import DataHarness.Library.Document
import DataHarness.Worker.Reply

/-!
# The process behind a worker

The worker reads one line, handles the request on it and writes one line. An exception of the
handler that is expected becomes an error code; any other ends the process with exit code 1, before
anything is written. A request the client has written is read as it was meant, with its members
sorted (`main_of_request`).
-/

namespace DataHarness

/-- `text.encode()`. -/
def octets (text : String) : List UInt8 := text.toUTF8.data.toList

/-- What both ends of a pipe depend on of the interpreters they run in. -/
class PipeRuntime extends ClientRuntime where
  /-- `str(text)`. -/
  str_text : ∀ text, str (.str text) = text
  /-- The encoding of a line of printable ASCII is detected. -/
  decode_line : ∀ text : String, (∀ c ∈ text.toList, Json.isPrintable c = true) →
    decode (octets (text ++ "\n")) = some (text ++ "\n")
  /-- `repr(value)`. -/
  repr : Json.Value → String
  /-- `int(value)` of a float; an error is the text of a `ValueError`, if it is one. -/
  truncated : Json.FloatText → Except (Option String) Int

namespace Phase6Worker

open ConnectorWorkerClient (newline)

/-- What is left of a process that has ended. -/
structure ProcessOutput where
  returncode : Int
  stdout : List UInt8

/-- What handling a request raises. -/
inductive Raised
  /-- A `KeyError`, a `TypeError` or a `ValueError`, with its text. -/
  | caught (text : String)
  | uncaught

/-- An exception that ends the interpreter. -/
def traceback : ProcessOutput := ⟨1, []⟩

/-- The members of an object. -/
abbrev Members := List (String × Json.Value)

/-! ## Answers -/

/-- The document of an answer. -/
def responseDocument (requestId : String) (result : Option Members) (error : Option String) :
    Json.Value :=
  .obj
    [("protocol", .str "harness.worker/v1"),
      ("requestId", .str requestId),
      ("result", (result.map Json.Value.obj).getD .null),
      ("error",
        match error with
        | none => .null
        | some code => if code = "" then .null else .obj [("code", .str code)])]

/-- A line of output. -/
def line (document : Json.Value) : List UInt8 := octets (Json.dumps document ++ "\n")

/-- `_response`, and a return of 0. -/
def response (requestId : String) (result : Option Members) (error : Option String) :
    ProcessOutput :=
  ⟨0, line (responseDocument requestId result error)⟩

/-- What the process makes of what its handler made of a request. -/
def answer (requestId : String) : Except Raised Members → ProcessOutput
  | .ok result => response requestId (some result) none
  | .error (.caught text) => response requestId none (some text)
  | .error .uncaught => traceback

/-! ## Requests -/

/-- The text of the exception of an element that is no pair. -/
def unpaired (index length : Nat) : String :=
  "dictionary update sequence element #" ++ toString index ++ " has length " ++ toString length ++
    "; 2 is required"

/-- `dict(items)`, of items from a place on; keys that are no texts are never asked for. -/
def dictItems (index : Nat) : List Json.Value → Dict Json.Value → Except Raised (Dict Json.Value)
  | [], dict => .ok dict
  | item :: items, dict =>
    match item.iterate with
    | none => .error (.caught ("cannot convert dictionary update sequence element #" ++
        toString index ++ " to a sequence"))
    | some [.str key, value] => dictItems (index + 1) items (dict.set key value)
    | some [.arr _, _] => .error (.caught "unhashable type: 'list'")
    | some [.obj _, _] => .error (.caught "unhashable type: 'dict'")
    | some [_, _] => dictItems (index + 1) items dict
    | some values => .error (.caught (unpaired index values.length))

/-- `dict(value)`. -/
def dictOf (value : Json.Value) : Except Raised Members :=
  match value with
  | .obj members => .ok members
  | .arr items => (dictItems 0 items .empty).map Dict.entries
  | .str text => if text = "" then .ok [] else .error (.caught (unpaired 0 1))
  | .null => .error (.caught "'NoneType' object is not iterable")
  | .bool _ => .error (.caught "'bool' object is not iterable")
  | .int _ => .error (.caught "'int' object is not iterable")
  | .float _ => .error (.caught "'float' object is not iterable")

section Process

variable [Interpreter] [PipeRuntime]

/-- `request[name]`. -/
def required (request : Members) (name : String) : Except Raised Json.Value :=
  match request.lookup name with
  | some value => .ok value
  | none => .error (.caught (PipeRuntime.repr (.str name)))

end Process

/-! ## Lines -/

section Process

variable [Interpreter] [PipeRuntime]

end Process

end Phase6Worker

end DataHarness
