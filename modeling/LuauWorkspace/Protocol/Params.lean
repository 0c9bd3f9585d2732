import LuauWorkspace.Documents
import LuauWorkspace.Protocol.ClientCapabilities

/-!
# Parameters of messages

What the server reads from messages. Parameters that many messages extend are objects; the plain
records inside them can be lists of their fields too. Unknown fields do not matter and a field of
the wrong shape spoils its whole message.
-/
namespace LuauWorkspace.Protocol

open Json (Members Presence)

/-- The fields of an object that is no plain record. -/
def fields? (layout : List (String × Presence)) (json : Json) : Option Members :=
  match json with
  | .object _ => json.members? layout
  | _ => none

/-! ## Documents -/

structure Opened where
  uri : Uri
  language : String
  version : Int
  text : String
deriving DecidableEq, Repr

def openedDocument? (json : Json) : Option Opened := do
  let members ← json.members?
    [("uri", .required), ("languageId", .required), ("version", .required), ("text", .required)]
  return {
    uri := ← members.required? "uri" uri?
    language := ← members.required? "languageId" Json.text?
    version := ← members.required? "version" Json.signedWord?
    text := ← members.required? "text" Json.text? }

def opened? : Json → Option Opened := single? "textDocument" openedDocument?

def change? (json : Json) : Option Change := do
  let members ← json.members?
    [("range", .optional), ("rangeLength", .optional), ("text", .required)]
  let _ ← members.nullable? "rangeLength" Json.word?
  return {
    range := ← members.nullable? "range" range?
    text := ← members.required? "text" Json.text? }

def versioned? (json : Json) : Option (Uri × Int) := do
  let members ← json.members? [("uri", .required), ("version", .required)]
  return (← members.required? "uri" uri?, ← members.required? "version" Json.signedWord?)

def changed? (json : Json) : Option (Uri × Update) := do
  let members ← json.members? [("textDocument", .required), ("contentChanges", .required)]
  let (uri, version) ← members.required? "textDocument" versioned?
  return (uri, { version, changes := ← members.required? "contentChanges" (Json.list? change?) })

def closed? : Json → Option Uri := single? "textDocument" document?

/-! ## Folders, settings and files -/

structure Folder where
  name : String
  uri : Uri
deriving DecidableEq, Repr

def folder? (json : Json) : Option Folder := do
  let members ← json.members? [("uri", .required), ("name", .required)]
  return { uri := ← members.required? "uri" uri?, name := ← members.required? "name" Json.text? }

structure FolderChange where
  added : List Folder
  removed : List Folder
deriving DecidableEq, Repr

def folderChange? : Json → Option FolderChange := single? "event" fun json => do
  let members ← json.members? [("added", .required), ("removed", .required)]
  return {
    added := ← members.required? "added" (Json.list? folder?)
    removed := ← members.required? "removed" (Json.list? folder?) }

def settings? : Json → Option Json := single? "settings" some

/-- The files that were created, changed or deleted. -/
def watchedFiles? : Json → Option (List Uri) := single? "changes" <| Json.list? fun json => do
  let members ← json.members? [("uri", .required), ("type", .required)]
  let _ ← members.required? "type" Json.signedWord?
  members.required? "uri" uri?

/-- A record of nothing. -/
def nothing? (json : Json) : Option Unit := (json.members? []).map fun _ => ()

/-! ## The first message -/

structure Start where
  /-- The options of the client; null when it has none. -/
  settings : Json := .null
  folders : List Folder := []
deriving Repr

def traceNames : List String := ["off", "messages", "verbose"]

def trace? (json : Json) : Option String :=
  json.text?.bind fun name => if name ∈ traceNames then some name else none

def client? (json : Json) : Option String := do
  let members ← json.members? [("name", .required), ("version", .optional)]
  let _ ← members.nullable? "version" Json.text?
  members.required? "name" Json.text?

/-- A value that only has to be readable. -/
def readable? (shape : Shape) (json : Json) : Option Unit := if shape json then some () else none

/-- The folders that are listed or else the root, named by its last directory. -/
def startFolders (listed : Option (List Folder)) (root : Option Uri) : List Folder :=
  match listed, root with
  | some (first :: rest), _ => first :: rest
  | _, some uri => [⟨uri.folderName, uri⟩]
  | _, none => []

def start? (json : Json) : Option Start := do
  let members ← json.members?
    [("processId", .optional), ("rootPath", .optional), ("rootUri", .defaulted),
      ("initializationOptions", .optional), ("capabilities", .required), ("trace", .defaulted),
      ("workspaceFolders", .optional), ("clientInfo", .optional), ("locale", .optional)]
  let _ ← members.nullable? "processId" Json.word?
  let _ ← members.nullable? "rootPath" Json.text?
  let _ ← members.required? "capabilities" (readable? .clientCapabilities)
  let _ ← members.nullable? "trace" trace?
  let _ ← members.nullable? "clientInfo" client?
  let _ ← members.nullable? "locale" Json.text?
  let root ← members.nullable? "rootUri" uri?
  let listed ← members.nullable? "workspaceFolders" (Json.list? folder?)
  return {
    settings := (members.lookup "initializationOptions").getD .null
    folders := startFolders listed root }

/-! ## Requests about documents -/

/-- The parameters of a request that may name a progress report, which is never sent. -/
def reported? (layout : List (String × Presence)) (json : Json) : Option Members := do
  let members ← fields? (("workDoneToken", .optional) :: layout) json
  let _ ← members.nullable? "workDoneToken" (readable? .token)
  return members

/-- Whether the answer may come in parts, which it never does. -/
def checkParts? (json : Json) : Option Unit := do
  let members ← fields? [("partialResultToken", .optional)] json
  let _ ← members.nullable? "partialResultToken" (readable? .token)
  return ()

/-- A request about a whole document. -/
def about? (json : Json) : Option Uri := do
  checkParts? json
  (← reported? [("textDocument", .required)] json).required? "textDocument" document?

def diagnosticsOf? (json : Json) : Option Uri := do
  let members ← fields? [("identifier", .optional), ("previousResultId", .optional)] json
  let _ ← members.nullable? "identifier" Json.text?
  let _ ← members.nullable? "previousResultId" Json.text?
  about? json

/-- A place in a document. -/
structure Place where
  uri : Uri
  position : Position
deriving DecidableEq, Repr

def place? (json : Json) : Option Place := do
  let members ← reported? [("textDocument", .required), ("position", .required)] json
  return {
    uri := ← members.required? "textDocument" document?
    position := ← members.required? "position" position? }

/-- A place about which the answer may come in parts. -/
def placeInParts? (json : Json) : Option Place := do
  checkParts? json
  place? json

/-- A context that does not matter. -/
def checkContext? (context : Shape) (json : Json) : Option Unit := do
  let members ← fields? [("context", .optional)] json
  let _ ← members.nullable? "context" (readable? context)
  return ()

def completionPlace? (json : Json) : Option Place := do
  checkContext? .completionContext json
  placeInParts? json

def signaturePlace? (json : Json) : Option Place := do
  checkContext? .signatureContext json
  place? json

end LuauWorkspace.Protocol
