import LuauWorkspace.Path

/-!
# Module names

A module is named by the normalized path of its file or by its place in the instance tree. The
second kind of name starts at one of two roots, `game` for a data model and `ProjectRoot` for
any other project, and nothing else counts as virtual.
-/
namespace LuauWorkspace

structure ModuleName where
  text : String
deriving DecidableEq, Repr, Inhabited

namespace ModuleName

def dataModelRoot : String := "game"

def projectRoot : String := "ProjectRoot"

def ofPath (path : Path) : ModuleName := ⟨path.normalize.text⟩

def path (name : ModuleName) : Path := ⟨name.text⟩

def child (parent : ModuleName) (name : String) : ModuleName := ⟨parent.text ++ "/" ++ name⟩

/-- The name in front of the last slash. -/
def parent? (name : ModuleName) : Option ModuleName :=
  match (Text.pieces '/' name.text).reverse with
  | [] | [_] => none
  | _ :: before => some ⟨Text.joined '/' before.reverse⟩

def isVirtual (name : ModuleName) : Bool :=
  match Text.pieces '/' name.text with
  | [] => false
  | first :: _ => first = dataModelRoot || first = projectRoot

def le (a b : ModuleName) : Bool := a.text ≤ b.text

/-- Names in the order of their code points. -/
def sorted (names : List ModuleName) : List ModuleName := names.mergeSort le

theorem mem_sorted (names : List ModuleName) (name : ModuleName) :
    name ∈ sorted names ↔ name ∈ names := List.mem_mergeSort

end ModuleName

end LuauWorkspace
