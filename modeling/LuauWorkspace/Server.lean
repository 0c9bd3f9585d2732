import LuauWorkspace.Workspace

/-!
# Servers

A server has a workspace for each workspace folder and the null workspace for all other files.
Every message about a document goes to the folder with the deepest root around it, the last one
of equally deep roots. All workspaces share one configuration. Messages to the user wait until
they can be shown.
-/
namespace LuauWorkspace

inductive MessageKind where
  | error
  | warning
deriving DecidableEq, Repr

namespace MessageKind

/-- The number of the kind in the protocol. -/
def code : MessageKind → Nat
  | error => 1
  | warning => 2

end MessageKind

structure UserMessage where
  kind : MessageKind
  text : String
deriving DecidableEq, Repr

structure Server (ε : Type) where
  folders : List (Workspace ε) := []
  null : Workspace ε
  configuration : Configuration := {}
  /-- Names of the workspaces whose missing manifest was already mentioned. -/
  warned : List String := []
  waiting : List UserMessage := []

namespace Server

variable {ε : Type} [Engine ε] (server : Server ε)

def depth (workspace : Workspace ε) : Nat := workspace.root.components.length

/-- Keeps the deeper of two candidates, the later one of equals. -/
def deeper (best : Option (Nat × Workspace ε)) (next : Nat × Workspace ε) :
    Option (Nat × Workspace ε) :=
  match best with
  | none => some next
  | some found => if depth found.2 ≤ depth next.2 then some next else some found

/-- The folder that serves a URI. -/
def folderFor? (uri : Uri) : Option Nat :=
  let numbered := (List.range server.folders.length).zip server.folders
  let around := numbered.filter fun entry => entry.2.contains uri
  (around.foldl deeper none).map (·.1)

/-- The workspace that serves a URI. -/
def workspaceFor (uri : Uri) : Workspace ε :=
  ((server.folderFor? uri).bind fun index => server.folders[index]?).getD server.null

/-- Has the workspace that serves a URI do something. -/
def serve {α : Type} (uri : Uri) (action : Workspace ε → α × Workspace ε) : α × Server ε :=
  let (answer, after) := action (server.workspaceFor uri)
  match server.folderFor? uri with
  | some index => (answer, { server with folders := server.folders.set index after })
  | none => (answer, { server with null := after })

/-- Takes out the first folder with a root URI. -/
def remove? (rootUri : Uri) : Option (Workspace ε × Server ε) :=
  match server.folders.findIdx? fun workspace => workspace.rootUri = some rootUri with
  | none => none
  | some index =>
    (server.folders[index]?).map fun workspace =>
      (workspace, { server with folders := server.folders.eraseIdx index })

/-- Mentions the missing manifest of a workspace, once for each name. -/
def warn (name : String) : Server ε :=
  if server.warned.contains name then server
  else
    { server with
      warned := name :: server.warned
      waiting := server.waiting ++ [⟨.warning,
        "Failed to load sourcemap.json for workspace '" ++ name
          ++ "'. Instance information will not be available"⟩] }

def notify (message : UserMessage) : Server ε :=
  { server with waiting := server.waiting ++ [message] }

/-- Configures a new folder, loads its manifest and appends it. -/
def add (disk : Disk) (workspace : Workspace ε) : Server ε :=
  let (loaded, ready) := (workspace.configure server.configuration).setup disk
  let warned := if loaded.isOk then server else server.warn workspace.name
  { warned with folders := warned.folders ++ [ready] }

/-- Reloads the manifest of a folder. -/
def reload (disk : Disk) (index : Nat) : Server ε :=
  match server.folders[index]? with
  | none => server
  | some workspace =>
    let (loaded, ready) := workspace.reloadManifest disk
    let warned := if loaded.isOk then server else server.warn workspace.name
    { warned with folders := warned.folders.set index ready }

def configure (configuration : Configuration) : Server ε :=
  { server with
    folders := server.folders.map (·.configure configuration)
    null := server.null.configure configuration
    configuration }

/-- The messages that wait, which then wait no more. -/
def takeMessages : List UserMessage × Server ε := (server.waiting, { server with waiting := [] })

end Server

end LuauWorkspace
