import LuauWorkspace.Documents
import LuauWorkspace.SourceView

/-!
# Files of a workspace

Open documents lie over the disk, and the instance tree gives files a second, virtual name. A
virtual name leads to the script of its instance below the root, and a file leads to the
instance whose script has its path as seen from the root. Without a tree no virtual name leads
anywhere and real names stand for themselves.
-/
namespace LuauWorkspace

structure Files where
  root : Path
  documents : Documents := {}
  instances : Option Instances.Tree := none
deriving Repr, Inhabited

namespace Files

variable (files : Files)

def relative (path : Path) : String := (path.relativeTo files.root).text

def virtualNode? (name : ModuleName) : Option Instances.Instance :=
  if name.isVirtual then files.instances.bind fun tree => tree.findVirtual? name else none

def realNode? (path : Path) : Option Instances.Instance :=
  files.instances.bind fun tree => tree.findScript? (files.relative path)

/-- The file behind a virtual name. -/
def realPathOf? (name : ModuleName) : Option Path :=
  (files.virtualNode? name).bind fun node =>
    node.script?.map fun script => files.root.join ⟨script⟩

/-- The virtual name of a file. -/
def virtualNameOf? (path : Path) : Option ModuleName :=
  (files.realNode? path).map (·.virtualPath)

/-- The virtual name of a module; virtual names keep theirs. -/
def toVirtual? (name : ModuleName) : Option ModuleName :=
  if name.isVirtual then some name else files.virtualNameOf? name.path

/-- The file of a module; real names are paths already. -/
def toReal? (name : ModuleName) : Option Path :=
  if name.isVirtual then files.realPathOf? name else some name.path

/-- The name that the text of a module is kept under, and its instance. -/
def source? (name : ModuleName) : Option (ModuleName × Option Instances.Instance) :=
  if name.isVirtual then
    (files.virtualNode? name).bind fun node =>
      node.script?.map fun script => (ModuleName.ofPath (files.root.join ⟨script⟩), some node)
  else some (name, files.realNode? name.path)

/-- The text of an open document, else of the file. -/
def text? (disk : Disk) (real : ModuleName) : Option String :=
  match files.documents.get? real with
  | some document => some document.text
  | none => disk.read? real.path

def read? (disk : Disk) (name : ModuleName) : Option SourceCode :=
  (files.source? name).bind fun (real, node) =>
    (files.text? disk real).map fun text =>
      ⟨text, (node.bind (·.kind?)).getD (ScriptKind.ofPath real.text)⟩

/-- The file that a string in a `require` call names. -/
def requiredFile (written : String) : ModuleName :=
  let path : Path := if (Path.extension? ⟨written⟩).isSome then ⟨written⟩ else ⟨written ++ ".lua"⟩
  ModuleName.ofPath (files.root.join path)

/-- A string constant. -/
def constant? (source : Syntax.Source) (id : Syntax.NodeId) : Option String :=
  match source.expr? id with
  | some (.text value) => some value
  | _ => none

/-- Methods that step to a child whose name is their first argument. -/
def childBy? (method : String) (base : ModuleName) (child : String) : Option ModuleName :=
  match method with
  | "GetService" => if base.text = ModuleName.dataModelRoot then some (base.child child) else none
  | "WaitForChild" | "FindFirstChild" => some (base.child child)
  | _ => none

def resolveWithin (context : ModuleName) (source : Syntax.Source) :
    Nat → Syntax.NodeId → Option ModuleName
  | 0, _ => none
  | limit + 1, id =>
    match source.expr? id with
    | some (.text written) => some (files.requiredFile written)
    | some (.globalName name) =>
      if name = ModuleName.dataModelRoot then some ⟨ModuleName.dataModelRoot⟩
      else if name = "script" then files.toVirtual? context
      else none
    | some (.group inner) => resolveWithin context source limit inner
    | some (.member base name _ _) =>
      (resolveWithin context source limit base).bind fun found =>
        if name = "Parent" then found.parent? else some (found.child name)
    | some (.element base key) =>
      (constant? source key).bind fun child =>
        (resolveWithin context source limit base).map (·.child child)
    | some (.call callee (first :: _) true _) =>
      match source.expr? callee with
      | some (.member receiver method _ _) =>
        (constant? source first).bind fun child =>
          (resolveWithin context source limit receiver).bind fun found =>
            childBy? method found child
      | _ => none
    | _ => none

/-- The module that an expression names, by following it through the instance tree. -/
def resolve? (context : ModuleName) (source : Syntax.Source) (id : Syntax.NodeId) :
    Option ModuleName :=
  files.resolveWithin context source source.nodes.size id

/-- A text names at most one file for each of its characters, and all other names that can be
read are those of instances. -/
def extent (disk : Disk) : Nat :=
  let opened := files.documents.total fun document => document.text.length
  opened + disk.size + (files.instances.map fun tree => tree.nodes.size).getD 0

def view (disk : Disk) : SourceView where
  read? := files.read? disk
  resolve? := files.resolve?
  extent := files.extent disk

theorem toReal?_of_not_virtual (name : ModuleName) (real : name.isVirtual = false) :
    files.toReal? name = some name.path := by simp [toReal?, real]

theorem toVirtual?_of_virtual (name : ModuleName) (there : name.isVirtual = true) :
    files.toVirtual? name = some name := by simp [toVirtual?, there]

end Files

end LuauWorkspace
