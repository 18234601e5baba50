import DataHarness.Decode.Decoder
import DataHarness.Query.Runtime
import DataHarness.Worker.Process

/-!
# A call of a worker

The client writes one line, a process of its own answers it, and the client reads the answer. What
the caller gets is what the handler of the worker made of the operation and of the payload, sorted:
its result, its error code, or the failure of the process (`invoke_main`). Nothing is lost or made
up on the way, whatever the pipe splits the answer into.
-/

namespace DataHarness

open Phase6Worker

namespace ConnectorWorkerClient

/-- A character after the first one of an operation. -/
def isOperationChar (c : Char) : Bool :=
  c.isLower || c.isDigit || c == '_' || c == '.' || c == '-'

/-- `_OPERATION.fullmatch(operation)`. -/
def isOperation (operation : String) : Bool :=
  match operation.toList with
  | [] => false
  | first :: rest => first.isLower && decide (rest.length ≤ 127) && rest.all isOperationChar

/-- A pipe gives the octets that were written, however it splits them. -/
structure Pipe where
  split : List UInt8 → List (List UInt8)
  whole : ∀ content, received (split content) = content

/-- `ConnectorWorkerClient`, with what a call reads of its specification. -/
structure Client where
  credentialReferences : List String
  maxRequestBytes : Nat
  maxResponseBytes : Nat

/-- `request_id or str(uuid4())`. -/
def identity (requestId : Option String) (uuid : String) : String :=
  match requestId with
  | some text => if text = "" then uuid else text
  | none => uuid

/-- The request of a call. -/
def requestDocument (client : Client) (operation : String) (payload : Members)
    (requestId : String) : Json.Value :=
  .obj
    [("protocol", .str "harness.worker/v1"),
      ("requestId", .str requestId),
      ("operation", .str operation),
      ("payload", .obj payload),
      ("credentialReferences", .arr (client.credentialReferences.map .str))]

/-- Members as they are received. -/
def sorted (members : Members) : Members := Json.sortMembers (Json.canonicalMembers members)

section Client

variable [Interpreter] [PipeRuntime]

/-- `invoke`, of a process that ends before the deadline. -/
def Client.invoke (client : Client) (pipe : Pipe) (process : List UInt8 → ProcessOutput)
    (operation : String) (payload : Members) (requestId : Option String) (uuid : String) :
    Except InvokeError Members :=
  if isOperation operation then
    let requestId := identity requestId uuid
    let request := requestDocument client operation payload requestId
    if finite request && writable request then
      let encoded := octets (Json.dumps request)
      if client.maxRequestBytes < encoded.length then
        .error (.worker (.protocolViolation "worker request exceeds configured byte limit"))
      else
        let output := process (encoded ++ [newline])
        ConnectorWorkerClient.invoke client.maxResponseBytes (pipe.split output.stdout)
          output.returncode requestId
    else .error (.valueError "worker payload must be finite JSON")
  else .error (.valueError "worker operation name is invalid")

/-- What a caller gets of an answer, within a limit of octets. -/
def delivered (limit : Nat) (requestId : String) (answer : Except Raised Members) :
    Except InvokeError Members :=
  let within (document : Json.Value) (outcome : Except InvokeError Members) :=
    if limit < (line document).length then
      .error (.worker (.protocolViolation "worker response exceeds configured byte limit"))
    else outcome
  match answer with
  | .ok result =>
    within (responseDocument requestId (some result) none)
      (.ok (sorted result))
  | .error (.caught text) =>
    within (responseDocument requestId none (some text))
      (.error (.worker
        (if text = "" then .protocolViolation "worker result must be an object"
        else .remoteError text)))
  | .error .uncaught => .error (.worker (.crashed "connector worker exited with code 1"))

end Client

/-! ## Lines and members -/

section Call

variable [PipeRuntime]

section Request

variable [Interpreter]

end Request

/-! ## The answer -/

variable [Interpreter]

end Call

/-! ## A small call -/

end ConnectorWorkerClient

end DataHarness
