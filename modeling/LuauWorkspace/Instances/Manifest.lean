import LuauWorkspace.Json.Reader

/-!
# Instance manifests

A `sourcemap.json` describes the instances of a project as nested entries. Names and classes
have to be given, file paths and children may be left out.
-/
namespace LuauWorkspace.Instances

inductive Manifest where
  | entry (name className : String) (filePaths : List String) (children : List Manifest)
deriving Repr, Inhabited

namespace Manifest

def name : Manifest → String
  | entry name _ _ _ => name

def className : Manifest → String
  | entry _ className _ _ => className

/-- The fields that were read so far. -/
structure Draft where
  name : Option String := none
  className : Option String := none
  filePaths : Option (List String) := none
  children : Option (List Manifest) := none

open Json (Reader)

def record (readPaths : Reader (List String)) (readChildren : Reader (List Manifest)) :
    Json.Record Draft Manifest where
  names := ["name", "className", "filePaths", "children"]
  start := {}
  isSet draft field :=
    match field with
    | "name" => draft.name.isSome
    | "className" => draft.className.isSome
    | "filePaths" => draft.filePaths.isSome
    | _ => draft.children.isSome
  read draft field text :=
    match field with
    | "name" =>
      (Json.readString text).map fun (value, rest) => ({ draft with name := some value }, rest)
    | "className" =>
      (Json.readString text).map fun (value, rest) => ({ draft with className := some value }, rest)
    | "filePaths" =>
      (readPaths text).map fun (value, rest) => ({ draft with filePaths := some value }, rest)
    | _ =>
      (readChildren text).map fun (value, rest) => ({ draft with children := some value }, rest)
  finish? draft :=
    match draft.name, draft.className with
    | some name, some className =>
      some (entry name className (draft.filePaths.getD []) (draft.children.getD []))
    | _, _ => none

/-- Reads an entry where `depth` is left. The children of an entry lie two levels below it; where
not even the entry can be opened they are never looked at. -/
def read (depth : Nat) : Reader Manifest :=
  match depth with
  | inner + 2 =>
    let paths : Reader (List String) := Json.readList (inner + 1) Json.readString
    Json.readRecord (inner + 2) (record paths (Json.readList (inner + 1) (read inner)))
  | outer => Json.readRecord outer (record (fun _ => .error .malformed) fun _ => .error .malformed)

def ofText (text : String) : Except Json.Failure Manifest :=
  Json.parse (read Json.depthLimit) text

end Manifest

end LuauWorkspace.Instances
