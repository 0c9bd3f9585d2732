import LuauWorkspace.Glob
import LuauWorkspace.Identity
import LuauWorkspace.Json.Decode

/-!
# Configuration

Settings come from the client, either bare or under the name of the server. What they leave out
has its default, and no settings at all are the defaults. Settings of another shape are refused
as a whole.
-/
namespace LuauWorkspace

structure Configuration where
  /-- Files that match one of these never get diagnostics from other modules. -/
  ignoreGlobs : List String := []
  /-- Whether the problems of required modules are reported too. -/
  includeDependents : Bool := true
  completionEnabled : Bool := true
deriving DecidableEq, Repr, Inhabited

namespace Configuration

/-- A record with one switch that is on by default. -/
def switch? (name : String) (json : Json) : Option Bool := do
  let members ← json.members? [(name, .defaulted)]
  members.defaulted? name Json.bool? true

def ofJson? (json : Json) : Option Configuration := do
  let members ← json.members?
    [("ignoreGlobs", .defaulted), ("diagnostics", .defaulted), ("completion", .defaulted)]
  return {
    ignoreGlobs := ← members.defaulted? "ignoreGlobs" (Json.list? Json.text?) []
    includeDependents := ← members.defaulted? "diagnostics" (switch? "includeDependents") true
    completionEnabled := ← members.defaulted? "completion" (switch? "enabled") true }

def ofSettings? (settings : Json) : Option Configuration :=
  match (settings.get? programName).getD settings with
  | .null => some {}
  | bare => ofJson? bare

end Configuration

/-- Compiled ignore globs. Globs that are malformed match nothing. -/
structure IgnoreGlobs where
  patterns : List Glob.Pattern := []
deriving DecidableEq, Repr, Inhabited

namespace IgnoreGlobs

def ofGlobs (globs : List String) : IgnoreGlobs := ⟨globs.filterMap Glob.ofString?⟩

/-- Whether a path, seen from the root, matches one of the globs. -/
def isIgnored (globs : IgnoreGlobs) (path : String) : Bool :=
  globs.patterns.any fun pattern => Glob.isMatch pattern path.toList

theorem isIgnored_empty (path : String) : ({} : IgnoreGlobs).isIgnored path = false := rfl

end IgnoreGlobs

end LuauWorkspace
