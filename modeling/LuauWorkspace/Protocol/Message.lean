import LuauWorkspace.Json.Basic
import LuauWorkspace.Server

/-!
# Messages

What goes over the connection in both directions. An id makes a message a request, also one that
is null.
-/
namespace LuauWorkspace.Protocol

structure Message where
  method : String
  params : Option Json := none
  id : Option Json := none
deriving Repr

inductive Refusal where
  /-- Nothing is answered before the session starts. -/
  | notStarted
  /-- A second start, a notice that asks for an answer, or anything after the shutdown. -/
  | misplaced
  | unknownMethod
  | invalidParams
deriving DecidableEq, Repr

namespace Refusal

/-- The number of the refusal in the protocol. -/
def code : Refusal → Int
  | notStarted => -32002
  | misplaced => -32600
  | unknownMethod => -32601
  | invalidParams => -32602

end Refusal

structure Response where
  id : Json
  outcome : Except Refusal Json

/-- Messages from the server to the client. -/
inductive Outgoing where
  | request (id : Nat) (method : String) (params : Json)
  | notice (method : String) (params : Json)
deriving Repr

namespace Outgoing

def ofUserMessage (message : UserMessage) : Outgoing :=
  notice "window/showMessage"
    (.object [("type", .nat message.kind.code), ("message", .text message.text)])

/-- Asks to be told when a manifest changes. -/
def watch (id : Nat) : Outgoing :=
  let watcher : Json := .object [("globPattern", .text ("**/" ++ Workspace.manifestName))]
  let registration : Json := .object [
    ("id", .text (programName ++ "/sourcemap")),
    ("method", .text "workspace/didChangeWatchedFiles"),
    ("registerOptions", .object [("watchers", .list [watcher])])]
  request id "client/registerCapability" (.object [("registrations", .list [registration])])

/-- Asks to pull all diagnostics again. -/
def refresh (id : Nat) : Outgoing := request id "workspace/diagnostic/refresh" .null

end Outgoing

/-- What the server can do, as the first answer says it. -/
def capabilities : Json :=
  let triggers (characters : List String) : Json := .list (characters.map .text)
  .object [
    ("textDocumentSync", .nat 2),
    ("hoverProvider", .bool true),
    ("completionProvider", .object [
      ("resolveProvider", .bool false),
      ("triggerCharacters", triggers [".", ":", "'", "\"", "/"])]),
    ("signatureHelpProvider", .object [("triggerCharacters", triggers ["(", ","])]),
    ("definitionProvider", .bool true),
    ("typeDefinitionProvider", .bool true),
    ("documentLinkProvider", .object [("resolveProvider", .bool false)]),
    ("diagnosticProvider", .object [
      ("identifier", .text "luau"),
      ("interFileDependencies", .bool true),
      ("workspaceDiagnostics", .bool false)]),
    ("workspace", .object [("workspaceFolders", .object [
      ("supported", .bool true),
      ("changeNotifications", .bool true)])])]

def introduction : Json :=
  .object [
    ("capabilities", capabilities),
    ("serverInfo", .object [("name", .text programName), ("version", .text programVersion)])]

end LuauWorkspace.Protocol
