import LuauWorkspace.Syntax.Tree
import LuauWorkspace.Types.Arena

/-!
# Checked modules

What a check infers about a module: the types of its expressions and its lexical scopes. A name
is looked up in a scope and then in the scopes around it. A chain of scopes that ends is no
longer than there are scopes; a walk along one that does not end is cut off there.
-/
namespace LuauWorkspace

abbrev ScopeId := Nat

/-- What a scope binds: a declaration, or a global name. -/
inductive Symbol where
  | declaration (id : Syntax.LocalId)
  | globalName (name : String)
deriving DecidableEq, Repr

structure Binding where
  type : Types.TypeId
  /-- Where it was declared. -/
  location : Location
  /-- The symbol of its documentation. -/
  symbol : Option String := none
deriving Repr

structure Scope where
  parent : Option ScopeId := none
  location : Location
  bindings : Table Symbol Binding := {}
  /-- Where the type aliases of the scope are declared. -/
  aliases : Table String Location := {}
deriving Repr

structure Checked where
  types : Types.Arena := {}
  /-- The types of the expressions, by node. -/
  expressionTypes : Table Syntax.NodeId Types.TypeId := {}
  scopes : Array Scope := #[]
deriving Repr, Inhabited

namespace Checked

variable (module : Checked)

def scope? (id : ScopeId) : Option Scope := module.scopes[id]?

def typeOf? (id : Syntax.NodeId) : Option Types.TypeId := module.expressionTypes.get? id

/-- Of two scopes around a position the one that starts later is the inner one, and of those
that start together the later one. -/
def inner (best : Option (ScopeId × Scope)) (next : ScopeId × Scope) : Option (ScopeId × Scope) :=
  match best with
  | none => some next
  | some found => if found.2.location.start ≤ next.2.location.start then some next else some found

/-- The innermost scope around a position. -/
def scopeAt? (position : Position) : Option ScopeId :=
  let numbered := (List.range module.scopes.size).zip module.scopes.toList
  let around := numbered.filter fun entry => entry.2.location.containsClosed position
  (around.foldl inner none).map (·.1)

/-- What a walk through scopes comes to. -/
inductive Walk (α : Type) where
  | found (answer : α)
  | absent
  /-- There are more scopes on the way than the walk may visit. -/
  | unfinished
deriving DecidableEq, Repr

namespace Walk

def answer? {α : Type} : Walk α → Option α
  | found answer => some answer
  | absent | unfinished => none

end Walk

/-- Walks from a scope through the scopes around it to the first one with an answer, visiting at
most `budget` scopes. -/
def walk {α : Type} (pick : Scope → Option α) (budget : Nat) (id : Option ScopeId) : Walk α :=
  match id.bind module.scope?, budget with
  | none, _ => .absent
  | some _, 0 => .unfinished
  | some scope, left + 1 =>
    match pick scope with
    | some answer => .found answer
    | none => walk pick left scope.parent

/-- The walk from a scope that may visit as many scopes as there are. It is unfinished only when
the way comes back to a scope where it was and no scope on it has an answer. -/
def walkFrom {α : Type} (pick : Scope → Option α) (id : ScopeId) : Walk α :=
  module.walk pick module.scopes.size (some id)

def lookup? (scope : ScopeId) (symbol : Symbol) : Option Binding :=
  (module.walkFrom (fun s => s.bindings.get? symbol) scope).answer?

def alias? (scope : ScopeId) (name : String) : Option Location :=
  (module.walkFrom (fun s => s.aliases.get? name) scope).answer?

theorem walk_none {α : Type} (pick : Scope → Option α) (budget : Nat) :
    module.walk pick budget none = .absent := by
  simp [walk]

theorem walk_own {α : Type} (pick : Scope → Option α) (budget : Nat) (id : ScopeId)
    (scope : Scope) (answer : α) (there : module.scope? id = some scope)
    (own : pick scope = some answer) : module.walk pick (budget + 1) (some id) = .found answer := by
  unfold walk
  simp [there, own]

theorem walk_parent {α : Type} (pick : Scope → Option α) (budget : Nat) (id : ScopeId)
    (scope : Scope) (there : module.scope? id = some scope) (other : pick scope = none) :
    module.walk pick (budget + 1) (some id) = module.walk pick budget scope.parent := by
  conv => lhs; unfold walk
  simp [there, other]

theorem lookup?_of_own (scope : ScopeId) (symbol : Symbol) (found : Scope) (binding : Binding)
    (there : module.scope? scope = some found)
    (bound : found.bindings.get? symbol = some binding) :
    module.lookup? scope symbol = some binding := by
  have inside : scope < module.scopes.size := by
    simp only [scope?, Array.getElem?_eq_some_iff] at there
    exact there.1
  cases size : module.scopes.size with
  | zero => exact absurd (size ▸ inside) (Nat.not_lt_zero scope)
  | succ budget =>
    simp only [lookup?, walkFrom, size,
      module.walk_own (fun s => s.bindings.get? symbol) budget scope found binding there bound,
      Walk.answer?]

end Checked

end LuauWorkspace
