import LuauWorkspace.Json.Decode
import LuauWorkspace.Source.Location
import LuauWorkspace.Uri.Parser

/-!
# Places in documents

How messages name documents, positions and ranges.
-/
namespace LuauWorkspace.Protocol

def uri? (json : Json) : Option Uri := json.text?.bind Uri.parse?

/-- A record with one field that has to be there. -/
def single? {α : Type} (name : String) (decode : Json → Option α) (json : Json) : Option α := do
  (← json.members? [(name, .required)]).required? name decode

def position? (json : Json) : Option Position := do
  let members ← json.members? [("line", .required), ("character", .required)]
  return ⟨← members.required? "line" Json.word?, ← members.required? "character" Json.word?⟩

def range? (json : Json) : Option (Position × Position) := do
  let members ← json.members? [("start", .required), ("end", .required)]
  return (← members.required? "start" position?, ← members.required? "end" position?)

/-- The identity of a document. -/
def document? : Json → Option Uri := single? "uri" uri?

end LuauWorkspace.Protocol
