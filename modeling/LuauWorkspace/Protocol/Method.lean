import LuauWorkspace.Protocol.Unanswered

/-!
# Methods

The methods of the protocol by their names. Requests expect an answer and notices do not. The
protocol has requests that this server does not answer; it still refuses them when their
parameters are wrong.
-/
namespace LuauWorkspace.Protocol

inductive Request where
  | diagnostic
  | hover
  | completion
  | signatureHelp
  | definition
  | typeDefinition
  | links
deriving DecidableEq, Repr

inductive Notice where
  | ready
  | opened
  | changed
  | closed
  | configured
  | filesChanged
  | foldersChanged
  /-- One that does not concern this server. -/
  | other
deriving DecidableEq, Repr

inductive Method where
  | start
  | stop
  /-- Ends the session without an answer. -/
  | leave
  | request (request : Request)
  | notice (notice : Notice)
  | unanswered (params : Shape)
  /-- Takes a request back. By then it has been answered. -/
  | cancel

namespace Method

def requests : List (String × Request) := [
  ("textDocument/diagnostic", .diagnostic),
  ("textDocument/hover", .hover),
  ("textDocument/completion", .completion),
  ("textDocument/signatureHelp", .signatureHelp),
  ("textDocument/definition", .definition),
  ("textDocument/typeDefinition", .typeDefinition),
  ("textDocument/documentLink", .links)]

def notices : List (String × Notice) := [
  ("initialized", .ready),
  ("textDocument/didOpen", .opened),
  ("textDocument/didChange", .changed),
  ("textDocument/didClose", .closed),
  ("workspace/didChangeConfiguration", .configured),
  ("workspace/didChangeWatchedFiles", .filesChanged),
  ("workspace/didChangeWorkspaceFolders", .foldersChanged),
  ("textDocument/willSave", .other),
  ("textDocument/didSave", .other),
  ("workspace/didCreateFiles", .other),
  ("workspace/didRenameFiles", .other),
  ("workspace/didDeleteFiles", .other)]

def ofName? (name : String) : Option Method :=
  match name with
  | "initialize" => some .start
  | "shutdown" => some .stop
  | "exit" => some .leave
  | "$/cancelRequest" => some .cancel
  | _ =>
    match requests.lookup name, notices.lookup name with
    | some found, _ => some (.request found)
    | none, some found => some (.notice found)
    | none, none => (unansweredRequests.lookup name).map .unanswered

/-- Whether a method that does not exist is passed over in silence. -/
def isOptional (name : String) : Bool := name.startsWith "$/"

end Method

end LuauWorkspace.Protocol
