import LuauWorkspace.CommandLine.Arguments
import LuauWorkspace.Engine.Line
import LuauWorkspace.Protocol.Envelope
import LuauWorkspace.Session

/-!
# The program

Batch runs over the files on disk and sessions over the standard streams, both with the line
engine. What a run sees of the disk is what lies below its root and below the paths that it is
given; a session sees what lies below its folders.
-/
namespace LuauWorkspace

/-- Files whose text matters. -/
def isRelevant (name : String) : Bool :=
  [".lua", ".luau", ".json"].any fun extension => name.endsWith extension

def readEntry (path : String) : IO DiskEntry := do
  try return .text (← IO.FS.readFile path) catch _ => return .binary

/-- Adds a file, or a directory with everything relevant below it. -/
partial def addTree (disk : Disk) (path : String) : IO Disk := do
  let place := (← IO.currentDir) / path
  let children ← try some <$> place.readDir catch _ => pure none
  match children with
  | some children =>
    let mut grown := disk.write ⟨path⟩ .directory
    for child in children do
      let inner := path ++ "/" ++ child.fileName
      if isRelevant child.fileName || (← child.path.isDir) then grown ← addTree grown inner
    return grown
  | none =>
    match ← readEntry path with
    | .text content => return disk.write ⟨path⟩ (.text content)
    | entry => return if isRelevant path then disk.write ⟨path⟩ entry else disk

def loadDisk (paths : List Path) : IO Disk :=
  paths.foldlM (fun disk path => addTree disk path.normalize.text) {}

def analyze (options : Batch.Options) : IO UInt32 := do
  let root : Path := ⟨(← IO.currentDir).toString⟩
  let given := options.manifest.toList ++ options.files
  let disk ← loadDisk (root :: given.map root.join)
  match Batch.run options disk root ({} : LineEngine) with
  | .ok outcome =>
    IO.print outcome.output
    IO.eprint outcome.errors
    return if outcome.failed then 1 else 0
  | .error failure =>
    IO.eprintln failure.message
    return 1

/-- The number of bytes of the next message; none when there is no next message. -/
partial def readHeader (input : IO.FS.Stream) (size : Nat) : IO (Option Nat) := do
  let line ← input.getLine
  if line.isEmpty then return none
  match (Text.pieces ':' line).map fun piece => piece.trimAscii.toString with
  | ["Content-Length", digits] => readHeader input (digits.toNat?.getD size)
  | [""] => return some size
  | _ => readHeader input size

partial def readBytes (input : IO.FS.Stream) (size : Nat) : IO ByteArray := do
  let mut bytes := ByteArray.empty
  while bytes.size < size do
    let more ← input.read (size - bytes.size).toUSize
    if more.isEmpty then return bytes
    bytes := bytes ++ more
  return bytes

def decode? (bytes : ByteArray) : Option Protocol.Message := do
  let json ← (Json.ofString (← String.fromUTF8? bytes)).toOption
  Protocol.Message.ofJson? json

def send (output : IO.FS.Stream) (json : Json) : IO Unit := do
  output.putStr (Protocol.envelope json)
  output.flush

partial def converse (input output : IO.FS.Stream) (session : Session LineEngine) : IO Unit := do
  match ← readHeader input 0 with
  | none => return
  | some size =>
    match decode? (← readBytes input size) with
    | none => converse input output session
    | some message =>
      let disk ← loadDisk (session.server.folders.map (·.root))
      let (reply, after) := session.receive disk message
      for outgoing in reply.outgoing do send output outgoing.toJson
      for response in reply.response do send output response.toJson
      if after.phase = .left then return
      converse input output after

def serve (arguments : CommandLine.Arguments) : IO UInt32 := do
  let documentation ←
    match arguments.documentation with
    | none => pure {}
    | some path =>
      let absolute := Path.join ⟨(← IO.currentDir).toString⟩ path
      let disk ← loadDisk [absolute]
      pure ((Documentation.load disk absolute).toOption.getD {})
  let setup : Setup LineEngine :=
    { makeEngine := fun _ => {}, documentation, definitions := arguments.definitions }
  converse (← IO.getStdin) (← IO.getStdout) (.new setup)
  return 0

end LuauWorkspace

open LuauWorkspace in
def main (words : List String) : IO UInt32 := do
  match CommandLine.Arguments.parse words with
  | .error .helpRequested =>
    IO.println (programName ++ " [OPTIONS] [lsp | analyze [OPTIONS] FILES...]")
    return 0
  | .error .versionRequested =>
    IO.println (programName ++ " " ++ programVersion)
    return 0
  | .error failure =>
    IO.eprintln ("error: " ++ failure.message)
    return 2
  | .ok arguments =>
    match arguments.command with
    | some (.analyze options) => analyze options
    | _ => serve arguments
