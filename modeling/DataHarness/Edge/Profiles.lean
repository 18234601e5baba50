import DataHarness.Edge.Catalog

/-!
# Version-pinned protocol profiles

`Mcp20260728ActionServer` puts the tools profile of MCP before a northbound adapter, with its own
envelope and an HTTP dispatch that compares headers with the body. `A2A10ActionServer` puts the
`SendMessage` profile of A2A before a delegation adapter.
-/

namespace DataHarness

variable [Stdlib]

/-- What a profile raises: its own rejection, or what an adapter raises. -/
inductive ProfileError
  | protocolProfileRejected (code : Int) (message : String)
  | adapter (error : AdapterError)
deriving DecidableEq

/-- A computation of an adapter, in a profile. -/
def profiled {α : Type} (ran : Except AdapterError α) : Except ProfileError α :=
  ran.mapError .adapter

/-- The keys of a response object. -/
def NorthboundResponse.keys (response : NorthboundResponse) : List String :=
  match response.answer with
  | .ok _ => ["jsonrpc", "id", "result"]
  | .error _ => ["jsonrpc", "id", "error"]

/-- A header by its name in lower case; the last one of a name counts. -/
def header (lower : String → String) (headers : List (String × String)) (name : String) :
    Option String :=
  (headers.reverse.find? fun item => lower item.1 = name).map Prod.snd

/-- `headers.get(name) == value` for a value of a request, none where it has no such key. -/
def headerEquals : Option String → Option PyValue → Bool
  | none, none | none, some .none => true
  | some text, some value => value.equals text
  | _, _ => false

/-! ## MCP -/

/-- `MCP_PROTOCOL_VERSION`. -/
def mcpProtocolVersion : String := "2026-07-28"

/-- `_MCP_META_VERSION`. -/
def mcpMetaVersion : String := "io.modelcontextprotocol/protocolVersion"

/-- `_MCP_META_CLIENT_INFO`. -/
def mcpMetaClientInfo : String := "io.modelcontextprotocol/clientInfo"

/-- `_MCP_META_CAPABILITIES`. -/
def mcpMetaCapabilities : String := "io.modelcontextprotocol/clientCapabilities"

/-- `_HARNESS_CATALOG_DIGEST`. -/
def harnessCatalogDigest : String := "data.harness/catalogDigest"

/-- `HttpDispatchResult`. -/
structure HttpDispatchResult where
  status : Int
  headers : List (String × String)
  body : NorthboundResponse

/-- `Mcp20260728ActionServer`. -/
structure Mcp20260728ActionServer where
  adapter : NorthboundActionAdapter
  ttlMs : Int
  /-- The TTL of a list is positive. -/
  positive : 0 < ttlMs

namespace Mcp20260728ActionServer

/-- `_validate_request`. -/
def validateRequest (request : Untrusted) : Except ProfileError Unit :=
  if ¬ keysSubset request ["jsonrpc", "id", "method", "params", "_meta"] ∨
      ¬ (lookupKey "jsonrpc" request).any (·.equals "2.0") then
    .error (.protocolProfileRejected (-32600) "MCP request envelope is invalid")
  else match lookupKey "id" request with
    | some (.str _) | some (.int _) =>
      match lookupKey "_meta" request with
      | some (.mapping data _) =>
        if ¬ [mcpMetaVersion, mcpMetaClientInfo, mcpMetaCapabilities].all
              (fun key => (lookupKey key data).isSome) ∨
            ¬ (lookupKey mcpMetaVersion data).any (·.equals mcpProtocolVersion) then
          .error (.protocolProfileRejected (-32009) "MCP protocol version is unsupported")
        else if ¬ (lookupKey mcpMetaClientInfo data).any (·.isMapping) ∨
            ¬ (lookupKey mcpMetaCapabilities data).any (·.isMapping) then
          .error (.protocolProfileRejected (-32600) "MCP client metadata is invalid")
        else .ok ()
      | _ => .error (.protocolProfileRejected (-32600) "MCP per-request metadata is required")
    | _ => .error (.protocolProfileRejected (-32600) "MCP request id is required")

/-- `value[key]` of an answer of the adapter. -/
def field (value : Json.Value) (key : String) : Except ProfileError Json.Value :=
  match value.get? key with
  | some own => .ok own
  | none => .error (.adapter (.keyError key))

/-- `risk in {"medium", "high"}`. -/
def destructive : Json.Value → Bool
  | .str risk => risk = "medium" || risk = "high"
  | _ => false

/-- A tool as MCP lists it. -/
def listed (item : Json.Value) : Except ProfileError Json.Value := do
  let risk ← field item "risk"
  let name ← field item "name"
  let title ← field item "operation"
  let description ← field item "description"
  let schema ← field item "inputSchema"
  .ok (.obj [("name", name), ("title", title), ("description", description),
    ("inputSchema", schema),
    ("annotations", .obj [("readOnlyHint", .bool false),
      ("destructiveHint", .bool (destructive risk)),
      ("idempotentHint", .bool true), ("openWorldHint", .bool false)])])

/-- `_list_tools`. -/
def listTools (server : Mcp20260728ActionServer) (requestId : Option PyValue)
    (identity : RequestIdentity) : Except ProfileError Json.Value := do
  let internal ← profiled (server.adapter.handle [(.str "jsonrpc", .str "2.0"),
    (.str "id", requestId.getD .none), (.str "method", .str "tools/list"),
    (.str "protocolVersion", .str protocolVersion)] identity)
  match internal.answer with
  | .error _ => .error (.adapter (.keyError "result"))
  | .ok result =>
    match (← field result "tools") with
    | .arr items =>
      let tools ← items.mapM listed
      .ok (.obj [("resultType", .str "complete"), ("tools", .arr tools),
        ("ttlMs", .int server.ttlMs), ("cacheScope", .str "private"),
        ("_meta", .obj [(harnessCatalogDigest, .str server.adapter.catalog.digest)])])
    -- What is no list cannot be iterated; the adapter answers with one.
    | _ => .error (.adapter (.keyError "tools"))

/-- The northbound request of an MCP call. -/
def internal (request data : Untrusted) (params : PyValue) : Untrusted :=
  [(.str "jsonrpc", .str "2.0"), (.str "id", (lookupKey "id" request).getD .none),
    (.str "method", .str "tools/call"), (.str "protocolVersion", .str protocolVersion),
    (.str "catalogDigest", (lookupKey harnessCatalogDigest data).getD .none),
    (.str "params", params)]

/-- The result of a call. -/
def called (plan : SourceActionPlan) : Json.Value :=
  .obj [("resultType", .str "complete"),
    ("content", .arr [.obj [("type", .str "text"),
      ("text", .str "Governed action plan created; preview and approval remain required.")]]),
    ("structuredContent", NorthboundActionAdapter.accepted plan), ("isError", .bool false)]

/-- `_call_tool`. -/
def callTool (server : Mcp20260728ActionServer) (request : Untrusted)
    (identity : RequestIdentity) : Except ProfileError Json.Value :=
  match lookupKey "_meta" request with
  | some (.mapping data _) =>
    match lookupKey "params" request with
    | some (.mapping params text) =>
      if ¬ keysEqual params ["name", "arguments"] then
        .error (.protocolProfileRejected (-32602) "MCP tool call parameters are invalid")
      else do
        let plan ← profiled
          (server.adapter.toActionPlan (internal request data (.mapping params text)) identity >>=
            NorthboundActionAdapter.digestTaken)
        .ok (called plan)
    | _ => .error (.protocolProfileRejected (-32602) "MCP tool call parameters are invalid")
  -- `_validate_request` has found a mapping here.
  | _ => .error (.adapter (.keyError "_meta"))

/-- The result of a request. -/
def result (server : Mcp20260728ActionServer) (request : Untrusted)
    (identity : RequestIdentity) : Except ProfileError Json.Value := do
  validateRequest request
  let method ← profiled (request.item "method")
  if method.equals "tools/list" then server.listTools (lookupKey "id" request) identity
  else if method.equals "tools/call" then server.callTool request identity
  else .error (.protocolProfileRejected (-32601) "MCP method is not exposed")

/-- `handle`. -/
def handle (server : Mcp20260728ActionServer) (request : Untrusted)
    (identity : RequestIdentity) : Except ProfileError NorthboundResponse :=
  match server.result request identity with
  | .ok result => .ok ⟨lookupKey "id" request, .ok result⟩
  | .error (.protocolProfileRejected code message) =>
    .ok ⟨lookupKey "id" request, .error (code, message)⟩
  | .error (.adapter (.protocolRequestRejected code message)) =>
    .ok ⟨lookupKey "id" request, .error (code, message)⟩
  | .error error => .error error

/-- The checks of `dispatch_http` before the request is handled. -/
def checkHeaders (lower : String → String) (headers : List (String × String))
    (request : Untrusted) : Except ProfileError Unit :=
  let contentType := (header lower headers "content-type").getD ""
  if String.ofList (contentType.toList.takeWhile (· ≠ ';')) ≠ "application/json" then
    .error (.protocolProfileRejected (-32600) "MCP content type is invalid")
  else
    let method := lookupKey "method" request
    if ¬ headerEquals (header lower headers "mcp-method") method then
      .error (.protocolProfileRejected (-32600) "MCP method header mismatches body")
    else if method.any (·.equals "tools/call") ∧
        ¬ headerEquals (header lower headers "mcp-name")
          ((lookupKey "params" request).bind (·.get "name")) then
      .error (.protocolProfileRejected (-32600) "MCP name header mismatches body")
    else .ok ()

/-- `dispatch_http`; `lower` is `str.lower`. -/
def dispatchHttp (server : Mcp20260728ActionServer) (lower : String → String)
    (headers : List (String × String)) (request : Untrusted) (identity : RequestIdentity) :
    Except ProfileError HttpDispatchResult :=
  let answer : Int → NorthboundResponse → HttpDispatchResult := fun status body =>
    ⟨status, [("content-type", "application/json"), ("cache-control", "no-store")], body⟩
  match (do checkHeaders lower headers request; server.handle request identity) with
  | .ok body => .ok (answer 200 body)
  | .error (.protocolProfileRejected code message) =>
    .ok (answer 400 ⟨lookupKey "id" request, .error (code, message)⟩)
  | .error error => .error error

end Mcp20260728ActionServer

/-! ## A2A -/

/-- `A2A_PROTOCOL_VERSION`. -/
def a2aProtocolVersion : String := "1.0"

/-- `A2A10ActionServer`; its card is not read by `handle`. -/
structure A2A10ActionServer where
  adapter : A2AActionDelegationAdapter

namespace A2A10ActionServer

/-- `type(value) in {str, int}`. -/
def isRequestId : Option PyValue → Bool
  | some (.str _) | some (.int _) => true
  | _ => false

/-- The checks of `handle` up to the delegation: the id of the message, and the data of its one
part. A JSON array is a list. -/
def delegation (lower : String → String) (headers : List (String × String))
    (request : Untrusted) : Except ProfileError (String × Untrusted) := do
  if header lower headers "a2a-version" ≠ some a2aProtocolVersion then
    .error (.protocolProfileRejected (-32009) "A2A protocol version is unsupported")
  else if ¬ keysEqual request ["jsonrpc", "id", "method", "params"] ∨
      ¬ (lookupKey "jsonrpc" request).any (·.equals "2.0") ∨
      ¬ (lookupKey "method" request).any (·.equals "SendMessage") ∨
      ¬ isRequestId (lookupKey "id" request) then
    .error (.protocolProfileRejected (-32600) "A2A request envelope is invalid")
  else match (← profiled (request.item "params")) with
    | .mapping params _ =>
      if ¬ keysEqual params ["message"] then
        .error (.protocolProfileRejected (-32602) "A2A SendMessage params are invalid")
      else match (← profiled (Untrusted.item params "message")) with
        | .mapping message _ =>
          if ¬ keysEqual message ["messageId", "role", "parts"] ∨
              ¬ (lookupKey "role" message).any (·.equals "ROLE_USER") then
            .error (.protocolProfileRejected (-32602) "A2A message is invalid")
          else match lookupKey "messageId" message with
            | some (.str messageId) =>
              match (← profiled (Untrusted.item message "parts")) with
              | .sequence [.mapping part _] _ =>
                if ¬ keysEqual part ["data", "mediaType"] ∨
                    ¬ (lookupKey "mediaType" part).any (·.equals "application/json") then
                  .error (.protocolProfileRejected (-32602) "A2A data part is invalid")
                else match lookupKey "data" part with
                  | some (.mapping data _) => .ok (messageId, data)
                  | _ => .error (.protocolProfileRejected (-32602) "A2A data part is invalid")
              | .sequence [_] _ =>
                .error (.protocolProfileRejected (-32602) "A2A data part is invalid")
              | _ => .error (.protocolProfileRejected (-32602) "A2A action requires one data part")
            | _ => .error (.protocolProfileRejected (-32602) "A2A message is invalid")
        | _ => .error (.protocolProfileRejected (-32602) "A2A message is invalid")
    | _ => .error (.protocolProfileRejected (-32602) "A2A SendMessage params are invalid")

/-- The result of a delegation. -/
def delegated (messageId : String) (plan : SourceActionPlan) : Json.Value :=
  .obj [("message", .obj [("messageId", .str ("response:" ++ messageId)),
    ("role", .str "ROLE_AGENT"),
    ("parts", .arr [.obj [("data", NorthboundActionAdapter.accepted plan),
      ("mediaType", .str "application/json")]])])]

/-- The result of a request. -/
def result (server : A2A10ActionServer) (lower : String → String)
    (headers : List (String × String)) (request : Untrusted) (identity : RequestIdentity) :
    Except ProfileError Json.Value := do
  let (messageId, data) ← delegation lower headers request
  let plan ← profiled
    (server.adapter.toActionPlan data identity >>= NorthboundActionAdapter.digestTaken)
  .ok (delegated messageId plan)

/-- `handle`; `lower` is `str.lower`. -/
def handle (server : A2A10ActionServer) (lower : String → String)
    (headers : List (String × String)) (request : Untrusted) (identity : RequestIdentity) :
    Except ProfileError NorthboundResponse :=
  match server.result lower headers request identity with
  | .ok result => .ok ⟨lookupKey "id" request, .ok result⟩
  | .error (.protocolProfileRejected code message) =>
    .ok ⟨lookupKey "id" request, .error (code, message)⟩
  | .error (.adapter (.delegationRejected message)) =>
    .ok ⟨lookupKey "id" request, .error (-32602, message)⟩
  | .error error => .error error

end A2A10ActionServer

end DataHarness
