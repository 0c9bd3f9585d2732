import LuauWorkspace.ModuleName
import LuauWorkspace.Table
import LuauWorkspace.Text.Lines
import LuauWorkspace.Uri.Basic

/-!
# Open documents

The client owns the text of an open document and sends numbered updates. An update that is not
newer than the document is refused and changes nothing; otherwise its changes are applied in
order, each to the text that the one before it left.
-/
namespace LuauWorkspace

/-- Replaces a range of the text, or all of it when no range is given. -/
structure Change where
  range : Option (Position × Position) := none
  text : String
deriving DecidableEq, Repr

structure Update where
  version : Int
  changes : List Change
deriving DecidableEq, Repr

structure Document where
  uri : Uri
  language : String
  version : Int
  text : String
deriving DecidableEq, Repr

inductive DocumentError where
  | notOpen (name : ModuleName)
  | outdated (uri : Uri) (version current : Int)
deriving DecidableEq, Repr

namespace DocumentError

def message : DocumentError → String
  | notOpen name => "document " ++ name.text ++ " is not open"
  | outdated uri version current =>
    "version " ++ toString version ++ " of " ++ uri.text ++ " is not newer than "
      ++ toString current

end DocumentError

namespace Change

def apply (change : Change) (text : String) : String :=
  match change.range with
  | none => change.text
  | some (start, stop) =>
    let chars := text.toList
    String.ofList
      (Text.splice chars (Text.offset chars start) (Text.offset chars stop) change.text.toList)

end Change

namespace Document

def update (document : Document) (update : Update) : Except DocumentError Document :=
  if update.version ≤ document.version then
    .error (.outdated document.uri update.version document.version)
  else
    .ok { document with
      version := update.version
      text := update.changes.foldl (fun text change => change.apply text) document.text }

theorem update_isOk_iff (document : Document) (update : Update) :
    (document.update update).isOk = true ↔ document.version < update.version := by
  simp only [Document.update]
  split
  next stale => simp [Except.isOk, Except.toBool]; omega
  next fresh => simp [Except.isOk, Except.toBool]; omega

end Document

abbrev Documents := Table ModuleName Document

namespace Documents

def update (documents : Documents) (name : ModuleName) (update : Update) :
    Except DocumentError Documents :=
  match documents.get? name with
  | none => .error (.notOpen name)
  | some document => (document.update update).map fun updated => documents.insert name updated

theorem update_notOpen (documents : Documents) (name : ModuleName) (change : Update)
    (closed : documents.get? name = none) :
    documents.update name change = .error (.notOpen name) := by simp [update, closed]

end Documents

end LuauWorkspace
