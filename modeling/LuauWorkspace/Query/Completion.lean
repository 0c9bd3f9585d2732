import LuauWorkspace.Documentation
import LuauWorkspace.Findings
import LuauWorkspace.Types.Render

/-!
# Completion items

Candidates become items in the order of their names. What the type of a candidate says about it
goes before its kind. Parentheses are inserted as a snippet, in which `$1` is a stop of the
cursor and `$0` its last one.
-/
namespace LuauWorkspace.Query

inductive ItemKind where
  | function
  | field
  | localName
  | ofClass
  | interface
  | module
  | keyword
  | constant
  | event
deriving DecidableEq, Repr

namespace ItemKind

/-- The number of the kind in the protocol. -/
def code : ItemKind → Nat
  | function => 3
  | field => 5
  | localName => 6
  | ofClass => 7
  | interface => 8
  | module => 9
  | keyword => 14
  | constant => 21
  | event => 23

def ofCandidate : CandidateKind → ItemKind
  | .property => field
  | .binding => localName
  | .keyword => keyword
  | .text => constant
  | .type => interface
  | .module => module

end ItemKind

structure Snippet where
  text : String
  /-- Whether the client is asked to show signatures afterwards. -/
  showsSignatures : Bool
deriving DecidableEq, Repr

structure CompletionItem where
  label : String
  kind : ItemKind
  detail : Option String
  documentation : Option String
  deprecated : Bool
  snippet : Option Snippet
deriving DecidableEq, Repr

/-- The table that event objects are declared with. -/
def eventTable : String := "RBXScriptSignal"

def kindOfType? (types : Types.Arena) (type : Types.TypeId) : Option ItemKind :=
  match types.get? type with
  | some (.function _) => some .function
  | some (.table table) => if table.name = some eventTable then some .event else none
  | some (.ofClass _) => some .ofClass
  | _ => none

def snippet? (name : String) : Parentheses → Option Snippet
  | .none => none
  | .cursorAfter => some ⟨name ++ "()$0", false⟩
  | .cursorInside => some ⟨name ++ "($1)$0", true⟩

def completionItem (types : Option Types.Arena) (docs : Documentation) (name : String)
    (candidate : Candidate) : CompletionItem :=
  let typed := types.bind fun arena => candidate.type.map fun type => (arena, arena.follow type)
  { label := name
    kind := (typed.bind fun (arena, type) => kindOfType? arena type).getD
      (ItemKind.ofCandidate candidate.kind)
    detail := typed.map fun (arena, type) => arena.text {} type
    documentation := candidate.symbol.bind docs.markdown?
    deprecated := candidate.deprecated
    snippet := snippet? name candidate.parentheses }

def completionItems (types : Option Types.Arena) (docs : Documentation)
    (candidates : Candidates) : List CompletionItem :=
  candidates.sorted.map fun (name, candidate) => completionItem types docs name candidate

end LuauWorkspace.Query
