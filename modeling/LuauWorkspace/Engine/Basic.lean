import LuauWorkspace.Checked
import LuauWorkspace.Findings
import LuauWorkspace.SourceView

/-!
# Analysis engines

An engine parses, checks and lints modules, and remembers what it found. A check parses the
module again, looks after the modules that it requires, reports the problems of all of them, and
leaves the module clean if it could be parsed.
-/
namespace LuauWorkspace

/-- Only a check and a mark change an engine. Linting a module and asking for candidates leave it as
it is by their types, so what an engine may do in its own state while it answers them is not seen;
that questions can be asked in any order rests on this. -/
class Engine (ε : Type) where
  check : ε → SourceView → ModuleName → List Problem × ε
  isDirty : ε → ModuleName → Bool
  markDirty : ε → ModuleName → ε
  /-- The parsed form of a module, if it could be read. -/
  source? : ε → ModuleName → Option Syntax.Source
  /-- The modules that have a parsed form. -/
  known : ε → List ModuleName
  checked? : ε → ModuleName → Option Checked
  lint : ε → ModuleName → Lints
  candidates : ε → ModuleName → Position → Candidates
  /-- How often a module was checked. -/
  checkCount : ε → ModuleName → Nat

/-- What an engine is made for: a workspace, and the definitions to load into its globals. -/
structure EngineContext where
  workspace : String
  root : Path
  definitions : List Path
deriving DecidableEq, Repr

end LuauWorkspace
