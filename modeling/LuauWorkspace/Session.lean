import LuauWorkspace.Protocol.Encode
import LuauWorkspace.Protocol.Message
import LuauWorkspace.Protocol.Method
import LuauWorkspace.Protocol.Params

/-!
# Sessions

A session answers the messages of one client. It starts with the first valid `initialize` and
ends with `shutdown`; before and after that requests are refused and notices have no effect.
Messages for the user that come up meanwhile wait until the client is ready.
-/
namespace LuauWorkspace

open Protocol (Message Method Notice Outgoing Place Refusal Request Response)

/-- What a session is set up with. -/
structure Setup (ε : Type) where
  makeEngine : EngineContext → ε
  documentation : Documentation := {}
  definitions : List Path := []

namespace Setup

variable {ε : Type} (setup : Setup ε)

def nullContext : EngineContext := ⟨Workspace.nullName, ⟨""⟩, setup.definitions⟩

def context (folder : Protocol.Folder) : EngineContext :=
  ⟨folder.name, folder.uri.toFilePath?.getD ⟨""⟩, setup.definitions⟩

def workspace (folder : Protocol.Folder) : Workspace ε :=
  .ofFolder folder.name folder.uri (setup.makeEngine (setup.context folder)) setup.documentation

end Setup

inductive Phase where
  | waiting
  | running
  | stopped
  | left
deriving DecidableEq, Repr

structure Session (ε : Type) where
  setup : Setup ε
  server : Server ε
  phase : Phase := .waiting
  /-- The number of requests that were sent to the client. -/
  asked : Nat := 0
  /-- What engines were made for, in order. -/
  contexts : List EngineContext := []

/-- What a message leads to. -/
structure Reply where
  response : Option Response := none
  outgoing : List Outgoing := []

namespace Session

variable {ε : Type} [Engine ε]

/-- A session that waits for its first message. -/
def new (setup : Setup ε) : Session ε :=
  { setup
    server := { null := .null (setup.makeEngine setup.nullContext) setup.documentation }
    contexts := [setup.nullContext] }

variable (session : Session ε)

/-! ## Workspaces -/

def addFolder (disk : Disk) (folder : Protocol.Folder) : Session ε :=
  { session with
    server := session.server.add disk (session.setup.workspace folder)
    contexts := session.contexts ++ [session.setup.context folder] }

def addFolders (disk : Disk) (folders : List Protocol.Folder) : Session ε :=
  folders.foldl (fun session folder => session.addFolder disk folder) session

def removeFolder (folder : Protocol.Folder) : Session ε :=
  match session.server.remove? folder.uri with
  | some (_, server) => { session with server }
  | none => session

def isManifest (uri : Uri) : Bool :=
  (uri.segments?.bind (·.getLast?)) = some Workspace.manifestName

/-- Reloads the manifest of the folder around a manifest that changed. -/
def manifestChanged? (disk : Disk) (uri : Uri) : Option (Session ε) :=
  if isManifest uri then
    (session.server.folderFor? uri).map fun index =>
      { session with server := session.server.reload disk index }
  else none

/-- Takes note of changed files and tells whether a manifest was among them. -/
def filesChanged (disk : Disk) (files : List Uri) : Bool × Session ε :=
  files.foldl
    (fun (reloaded, session) uri =>
      match session.manifestChanged? disk uri with
      | some after => (true, after)
      | none => (reloaded, session))
    (false, session)

/-- Shows the messages that wait. -/
def flush : List Outgoing × Session ε :=
  let (messages, server) := session.server.takeMessages
  (messages.map .ofUserMessage, { session with server })

/-- Sends a request to the client, whatever it will answer. -/
def ask (request : Nat → Outgoing) : Outgoing × Session ε :=
  (request session.asked, { session with asked := session.asked + 1 })

/-! ## Start -/

def missingDefinitions : UserMessage :=
  ⟨.error, "Definitions file was not provided by the client. Extended types will not be provided"⟩

/-- Takes the settings and the folders of a client; settings of the wrong shape are the defaults. -/
def start (disk : Disk) (opening : Protocol.Start) : Session ε :=
  let configuration := (Configuration.ofSettings? opening.settings).getD {}
  let configured := { session with server := session.server.configure configuration }
  -- The folders come after the settings, since their globs are compiled when they are added.
  let ready := configured.addFolders disk opening.folders
  let server :=
    if ready.setup.definitions = [] then ready.server.notify missingDefinitions else ready.server
  { ready with server, phase := .running }

/-! ## Notices -/

/-- What a notice changes. One with the wrong parameters changes nothing. -/
def hear (disk : Disk) (notice : Notice) (params : Json) : List Outgoing × Session ε :=
  match notice with
  | .ready =>
    match Protocol.nothing? params with
    | none => ([], session)
    | some () =>
      let (request, asking) := session.ask .watch
      let (shown, after) := asking.flush
      (request :: shown, after)
  | .opened =>
    match Protocol.opened? params with
    | none => ([], session)
    | some document =>
      let (_, server) := session.server.serve document.uri fun workspace =>
        ((), workspace.openDocument document.uri document.language document.version document.text)
      ([], { session with server })
  | .changed =>
    match Protocol.changed? params with
    | none => ([], session)
    | some (uri, update) =>
      let (_, server) := session.server.serve uri fun workspace =>
        ((), (workspace.updateDocument uri update).toOption.getD workspace)
      ([], { session with server })
  | .closed =>
    match Protocol.closed? params with
    | none => ([], session)
    | some uri =>
      let (_, server) := session.server.serve uri fun workspace =>
        ((), workspace.closeDocument uri)
      ([], { session with server })
  | .configured =>
    match (Protocol.settings? params).bind Configuration.ofSettings? with
    | none => ([], session)
    | some configuration =>
      ([], { session with server := session.server.configure configuration })
  | .filesChanged =>
    match Protocol.watchedFiles? params with
    | none => ([], session)
    | some files =>
      let (reloaded, loaded) := session.filesChanged disk files
      let (shown, after) := loaded.flush
      if reloaded then
        let (request, asking) := after.ask .refresh
        (shown ++ [request], asking)
      else (shown, after)
  | .foldersChanged =>
    match Protocol.folderChange? params with
    | none => ([], session)
    | some change =>
      let removed :=
        change.removed.foldl (fun session folder => session.removeFolder folder) session
      (removed.addFolders disk change.added).flush
  | .other => ([], session)

/-! ## Requests -/

/-- Has the workspace of a document answer. -/
def serve {α : Type} (uri : Uri) (query : Workspace ε → α × Workspace ε) (encode : α → Json) :
    Json × Session ε :=
  let (found, server) := session.server.serve uri query
  (encode found, { session with server })

def servePlace {α : Type} (disk : Disk) (place : Place)
    (query : Workspace ε → Disk → Uri → Position → Option α × Workspace ε) (encode : α → Json) :
    Json × Session ε :=
  session.serve place.uri (fun workspace => query workspace disk place.uri place.position)
    (Json.ofOption encode)

/-- The answer to a request; none when its parameters are wrong. -/
def answer? (disk : Disk) (request : Request) (params : Json) : Option (Json × Session ε) :=
  match request with
  | .diagnostic => (Protocol.diagnosticsOf? params).map fun uri =>
    session.serve uri (fun workspace => workspace.diagnostics disk uri) Protocol.report
  | .hover => (Protocol.place? params).map fun place =>
    session.servePlace disk place Workspace.hover Protocol.hover
  | .completion => (Protocol.completionPlace? params).map fun place =>
    session.servePlace disk place Workspace.completion Protocol.completionItems
  | .signatureHelp => (Protocol.signaturePlace? params).map fun place =>
    session.servePlace disk place Workspace.signatureHelp Protocol.signatureHelp
  | .definition => (Protocol.placeInParts? params).map fun place =>
    session.servePlace disk place Workspace.definition (Protocol.location place.uri)
  | .typeDefinition => (Protocol.placeInParts? params).map fun place =>
    session.servePlace disk place Workspace.typeDefinition (Protocol.location place.uri)
  | .links => (Protocol.about? params).map fun uri =>
    session.serve uri (fun workspace => workspace.links disk uri) Protocol.links

/-! ## Messages -/

def refuse (message : Message) (refusal : Refusal) : Reply :=
  { response := message.id.map fun id => { id, outcome := .error refusal } }

/-- Why a message cannot be handled in the present phase, if so. -/
def phaseRefusal? : Option Refusal :=
  match session.phase with
  | .waiting => some .notStarted
  | .running => none
  | .stopped | .left => some .misplaced

/-- Handles the first message. One that is not valid does not start the session. -/
def receiveStart (disk : Disk) (message : Message) : Reply × Session ε :=
  if session.phase ≠ .waiting then (refuse message .misplaced, session)
  else
    match message.id, message.params.bind Protocol.start? with
    | none, _ => ({}, session)
    | some _, none => (refuse message .invalidParams, session)
    | some id, some opening =>
      ({ response := some { id, outcome := .ok Protocol.introduction } },
        session.start disk opening)

/-- The session is over even if the message is not valid: it must have no parameters. -/
def receiveStop (message : Message) : Reply × Session ε :=
  match session.phaseRefusal? with
  | some refusal => (refuse message refusal, session)
  | none =>
    let stopped := { session with phase := .stopped }
    if message.params.isSome then (refuse message .invalidParams, stopped)
    else ({ response := message.id.map fun id => { id, outcome := .ok .null } }, stopped)

def receiveRequest (disk : Disk) (request : Request) (message : Message) : Reply × Session ε :=
  match message.id, message.params.bind (session.answer? disk request) with
  | none, _ => ({}, session)
  | some _, none => (refuse message .invalidParams, session)
  | some id, some (result, after) => ({ response := some { id, outcome := .ok result } }, after)

/-- A notice that asks for an answer is refused, whatever it says. -/
def receiveNotice (disk : Disk) (notice : Notice) (message : Message) : Reply × Session ε :=
  match message.id, message.params with
  | some _, _ => (refuse message .misplaced, session)
  | none, none => ({}, session)
  | none, some params =>
    let (outgoing, after) := session.hear disk notice params
    ({ outgoing }, after)

/-- Asking a notice for an answer changes nothing. -/
theorem receiveNotice_of_id (disk : Disk) (notice : Notice) (message : Message) {id : Json}
    (asks : message.id = some id) :
    session.receiveNotice disk notice message = (refuse message .misplaced, session) := by
  simp [receiveNotice, asks]

/-- Handles one message of the client. -/
def receive (disk : Disk) (message : Message) : Reply × Session ε :=
  if session.phase = .left then ({}, session)
  else
    match Method.ofName? message.method with
    | none =>
      (if Method.isOptional message.method then {} else refuse message .unknownMethod, session)
    | some .start => session.receiveStart disk message
    | some .stop => session.receiveStop message
    | some .leave => ({}, { session with phase := .left })
    | some .cancel => (refuse message .misplaced, session)
    | some method =>
      match session.phaseRefusal?, method with
      | some refusal, _ => (refuse message refusal, session)
      | none, .request request => session.receiveRequest disk request message
      | none, .notice notice => session.receiveNotice disk notice message
      | none, .unanswered shape =>
        let valid := message.params.any shape
        (refuse message (if valid then .unknownMethod else .invalidParams), session)
      | none, _ => ({}, session)

end Session

end LuauWorkspace
