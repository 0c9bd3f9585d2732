import LuauWorkspace.ModuleName
import LuauWorkspace.Source.Location
import LuauWorkspace.Types.Arena

/-!
# What an engine finds

A check reports problems, each owned by a module that need not be the checked one. Lints belong
to the linted module itself. Completion entries are named by what they insert.
-/
namespace LuauWorkspace

inductive ProblemKind where
  | grammar
  | typing
deriving DecidableEq, Repr

namespace ProblemKind

def category : ProblemKind → String
  | grammar => "SyntaxError"
  | typing => "TypeError"

end ProblemKind

structure Problem where
  owner : ModuleName
  location : Location
  kind : ProblemKind
  code : Nat
  message : String
deriving DecidableEq, Repr

structure Lint where
  code : Nat
  /-- The rule, such as `UnknownGlobal`. -/
  name : String
  text : String
  location : Location
deriving DecidableEq, Repr

structure Lints where
  errors : List Lint := []
  warnings : List Lint := []
deriving DecidableEq, Repr, Inhabited

inductive CandidateKind where
  | property
  | binding
  | keyword
  | text
  | type
  | module
deriving DecidableEq, Repr

/-- The parentheses that a completion adds, and where the cursor goes. -/
inductive Parentheses where
  | none
  | cursorAfter
  | cursorInside
deriving DecidableEq, Repr

structure Candidate where
  kind : CandidateKind
  type : Option Types.TypeId := none
  deprecated : Bool := false
  symbol : Option String := none
  parentheses : Parentheses := .none
deriving DecidableEq, Repr

abbrev Candidates := Table String Candidate

end LuauWorkspace
