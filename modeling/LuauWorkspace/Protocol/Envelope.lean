import LuauWorkspace.Json.Decode
import LuauWorkspace.Json.Value
import LuauWorkspace.Protocol.Message

/-!
# Envelopes

Messages as they stand on the connection: JSON objects that name the version of the protocol
beneath, each after a header with the number of its bytes.
-/
namespace LuauWorkspace.Protocol

def version : String × Json := ("jsonrpc", .text "2.0")

/-- A message of the client. Its answers to requests of the server have no method. -/
def Message.ofJson? (json : Json) : Option Message := do
  let method ← (← json.get? "method").text?
  return { method, params := json.get? "params", id := json.get? "id" }

namespace Refusal

def message : Refusal → String
  | notStarted => "The server is not initialized"
  | misplaced => "Invalid request"
  | unknownMethod => "Method not found"
  | invalidParams => "Invalid params"

end Refusal

def Response.toJson (response : Response) : Json :=
  match response.outcome with
  | .ok result => .object [version, ("id", response.id), ("result", result)]
  | .error refusal =>
    .object [version, ("id", response.id),
      ("error", .object [("code", .int refusal.code), ("message", .text refusal.message)])]

def Outgoing.toJson : Outgoing → Json
  | .request id method params =>
    .object [version, ("id", .nat id), ("method", .text method), ("params", params)]
  | .notice method params => .object [version, ("method", .text method), ("params", params)]

def envelope (json : Json) : String :=
  let body := json.render
  "Content-Length: " ++ toString body.utf8ByteSize ++ "\r\n\r\n" ++ body

end LuauWorkspace.Protocol
