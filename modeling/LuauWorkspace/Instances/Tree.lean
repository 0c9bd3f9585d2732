import LuauWorkspace.LoadError
import LuauWorkspace.ModuleName
import LuauWorkspace.Instances.Manifest

/-!
# Instance trees

The instances of a manifest in the order of their first mention, each with the virtual path that
leads to it from the root. An entry whose virtual path is already taken is left out together
with its children, so virtual paths are unique. A script is the first file of an instance with
the extension of a script; of two instances with the same script the later one is found.
-/
namespace LuauWorkspace

/-- How a script is run. -/
inductive ScriptKind where
  | script
  | localScript
  | module
deriving DecidableEq, Repr

namespace ScriptKind

def ofClass? (className : String) : Option ScriptKind :=
  match className with
  | "Script" => some script
  | "LocalScript" => some localScript
  | "ModuleScript" => some module
  | _ => none

def ofPath (path : String) : ScriptKind :=
  if path.endsWith ".server.lua" ∨ path.endsWith ".server.luau" then script
  else if path.endsWith ".client.lua" ∨ path.endsWith ".client.luau" then localScript
  else module

end ScriptKind

namespace Instances

structure Instance where
  name : String
  className : String
  /-- Normalized paths, seen from the root of the project. -/
  filePaths : List String
  children : List Nat := []
  virtualPath : ModuleName
deriving DecidableEq, Repr

namespace Instance

def script? (node : Instance) : Option String :=
  node.filePaths.find? fun path => path.endsWith ".lua" || path.endsWith ".luau"

def kind? (node : Instance) : Option ScriptKind := ScriptKind.ofClass? node.className

end Instance

structure Tree where
  nodes : Array Instance := #[]
deriving DecidableEq, Repr, Inhabited

namespace Tree

def isTaken (tree : Tree) (path : ModuleName) : Bool :=
  tree.nodes.any fun node => node.virtualPath = path

def push (tree : Tree) (node : Instance) : Tree := ⟨tree.nodes.push node⟩

def adopt (tree : Tree) (parent : Nat) (children : List Nat) : Tree :=
  ⟨tree.nodes.modify parent fun node => { node with children }⟩

/-- Paths of a manifest may be written with backslashes. -/
def filePath (written : String) : String :=
  (Path.normalize ⟨String.ofList (written.toList.map fun c => if c = '\\' then '/' else c)⟩).text

mutual

/-- Appends an entry and, behind it, everything below it. -/
def place (tree : Tree) (path : ModuleName) : Manifest → Tree
  | .entry name className filePaths children =>
    let node : Instance :=
      { name, className, filePaths := filePaths.map filePath, virtualPath := path }
    let (ids, below) := placeAll (tree.push node) path children
    below.adopt tree.nodes.size ids

/-- Appends the entries whose virtual paths are free, and tells where they lie. -/
def placeAll (tree : Tree) (parent : ModuleName) : List Manifest → List Nat × Tree
  | [] => ([], tree)
  | child :: rest =>
    let path := parent.child child.name
    if tree.isTaken path then placeAll tree parent rest
    else
      -- The child comes to lie behind everything that is there already.
      let (ids, whole) := placeAll (tree.place path child) parent rest
      (tree.nodes.size :: ids, whole)

end

def ofManifest (manifest : Manifest) : Tree :=
  let root := if manifest.className = "DataModel" then ModuleName.dataModelRoot
    else ModuleName.projectRoot
  place {} ⟨root⟩ manifest

def ofText (text : String) : Except Json.Failure Tree := (Manifest.ofText text).map ofManifest

def load (disk : Disk) (path : Path) : Except LoadError Tree := disk.load path ofText

def root? (tree : Tree) : Option Instance := tree.nodes[0]?

def findVirtual? (tree : Tree) (path : ModuleName) : Option Instance :=
  tree.nodes.toList.find? fun node => node.virtualPath = path

def findScript? (tree : Tree) (path : String) : Option Instance :=
  tree.nodes.toList.reverse.find? fun node => node.script? = some path

theorem findVirtual?_path (tree : Tree) (path : ModuleName) (node : Instance)
    (found : tree.findVirtual? path = some node) : node.virtualPath = path := by
  simpa using List.find?_some found

theorem findScript?_script (tree : Tree) (path : String) (node : Instance)
    (found : tree.findScript? path = some node) : node.script? = some path := by
  simpa using List.find?_some found

end Tree

end Instances

end LuauWorkspace
