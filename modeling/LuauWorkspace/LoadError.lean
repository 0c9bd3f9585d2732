import LuauWorkspace.Disk
import LuauWorkspace.Json.Scan

/-!
# Loading JSON files

A file is either not readable as text or it holds something else than expected.
-/
namespace LuauWorkspace

inductive LoadError where
  | unreadable (path : Path)
  | invalid (failure : Json.Failure)
deriving DecidableEq, Repr

/-- Reads a file and makes something of its text. -/
def Disk.load {α : Type} (disk : Disk) (path : Path) (ofText : String → Except Json.Failure α) :
    Except LoadError α :=
  match disk.read? path with
  | none => .error (.unreadable path)
  | some text => (ofText text).mapError .invalid

end LuauWorkspace
