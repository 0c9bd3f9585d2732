import LuauWorkspace.ModuleName
import LuauWorkspace.Source.Location

/-!
# Syntax trees

The nodes of a parsed module lie in one array and refer to each other by index. Local variables
are declared in a second array, so that a use names its declaration and not just a name. A draft
grows node by node; as children come before their parents, every id inside a node is smaller
than the id of the node itself.
-/
namespace LuauWorkspace.Syntax

abbrev NodeId := Nat

abbrev LocalId := Nat

structure TableItem where
  key : Option NodeId := none
  value : NodeId
deriving DecidableEq, Repr

inductive Expr where
  | nil
  | bool
  | number
  | text (value : String)
  | varargs
  | globalName (name : String)
  | localName (id : LocalId)
  /-- `onReceiver` marks the form `receiver:method(...)`; `written` spans the arguments. -/
  | call (callee : NodeId) (arguments : List NodeId) (onReceiver : Bool) (written : Location)
  | member (base : NodeId) (name : String) (nameAt : Location) (separator : Char)
  | element (base key : NodeId)
  | function (receiver : Option LocalId) (parameters : List LocalId) (body : NodeId)
  | table (items : List TableItem)
  | unary (operand : NodeId)
  | binary (left right : NodeId)
  | group (inner : NodeId)
  | cast (operand typing : NodeId)
deriving DecidableEq, Repr

inductive Stat where
  | block (body : List NodeId)
  | localDecl (locals : List LocalId) (values : List NodeId)
  | assign (targets values : List NodeId)
  | expression (inner : NodeId)
  | result (values : List NodeId)
  | branch (condition first : NodeId) (second : Option NodeId)
  | loop (condition body : NodeId)
  | function (name body : NodeId)
  | localFunction (id : LocalId) (body : NodeId)
  | typeAlias (name : String) (type : NodeId)
deriving DecidableEq, Repr

/-- A written type. -/
inductive TypeExpr where
  | reference (module : Option String) (name : String)
  | table (properties : List (String × NodeId))
  | function (arguments results : List NodeId)
  | union (parts : List NodeId)
  | optional (inner : NodeId)
deriving DecidableEq, Repr

inductive Node where
  | expr (expr : Expr)
  | stat (stat : Stat)
  | type (type : TypeExpr)
deriving DecidableEq, Repr

structure Placed where
  location : Location
  node : Node
deriving DecidableEq, Repr

structure Local where
  name : String
  location : Location
  typing : Option NodeId := none
deriving DecidableEq, Repr

/-- A parsed module. `requires` are the modules that its `require` calls name. -/
structure Source where
  name : ModuleName
  nodes : Array Placed
  locals : Array Local
  root : NodeId
  requires : List ModuleName := []
deriving DecidableEq, Repr

structure Draft where
  nodes : Array Placed := #[]
  locals : Array Local := #[]
deriving DecidableEq, Repr, Inhabited

namespace Draft

def add (draft : Draft) (location : Location) (node : Node) : NodeId × Draft :=
  (draft.nodes.size, { draft with nodes := draft.nodes.push ⟨location, node⟩ })

def declare (draft : Draft) (declared : Local) : LocalId × Draft :=
  (draft.locals.size, { draft with locals := draft.locals.push declared })

/-- Closes the draft with the block that holds the whole module. -/
def finish (draft : Draft) (name : ModuleName) (location : Location) (body : List NodeId) :
    Source :=
  let (root, whole) := draft.add location (.stat (.block body))
  { name, nodes := whole.nodes, locals := whole.locals, root }

end Draft

namespace Source

variable (source : Source)

def node? (id : NodeId) : Option Node := (source.nodes[id]?).map (·.node)

def expr? (id : NodeId) : Option Expr :=
  match source.node? id with
  | some (.expr expr) => some expr
  | _ => none

def stat? (id : NodeId) : Option Stat :=
  match source.node? id with
  | some (.stat stat) => some stat
  | _ => none

def type? (id : NodeId) : Option TypeExpr :=
  match source.node? id with
  | some (.type type) => some type
  | _ => none

/-- An id outside the tree stands at the origin. -/
def location (id : NodeId) : Location := ((source.nodes[id]?).map (·.location)).getD default

def local? (id : LocalId) : Option Local := source.locals[id]?

def localLocation (id : LocalId) : Location := ((source.local? id).map (·.location)).getD default

def localName (id : LocalId) : String := ((source.local? id).map (·.name)).getD ""

def typing? (id : LocalId) : Option NodeId := (source.local? id).bind (·.typing)

/-- The statements of the module itself. -/
def body : List NodeId :=
  match source.stat? source.root with
  | some (.block body) => body
  | _ => []

def documentEnd : Position := (source.location source.root).stop

/-- The local variables that a node itself declares. -/
def declared (id : NodeId) : List LocalId :=
  match source.node? id with
  | some (.stat (.localDecl locals _)) => locals
  | some (.stat (.localFunction id _)) => [id]
  | some (.expr (.function receiver parameters _)) => receiver.toList ++ parameters
  | _ => []

def typings (locals : List LocalId) : List NodeId := locals.filterMap source.typing?

def exprChildren : Expr → List NodeId
  | .nil | .bool | .number | .text _ | .varargs | .globalName _ | .localName _ => []
  | .call callee arguments _ _ => callee :: arguments
  | .member base _ _ _ => [base]
  | .element base key => [base, key]
  | .function receiver parameters body =>
    source.typings (receiver.toList ++ parameters) ++ [body]
  | .table items => items.flatMap fun item => item.key.toList ++ [item.value]
  | .unary operand => [operand]
  | .binary left right => [left, right]
  | .group inner => [inner]
  | .cast operand typing => [operand, typing]

def statChildren : Stat → List NodeId
  | .block body => body
  | .localDecl locals values => source.typings locals ++ values
  | .assign targets values => targets ++ values
  | .expression inner => [inner]
  | .result values => values
  | .branch condition first second => condition :: first :: second.toList
  | .loop condition body => [condition, body]
  | .function name body => [name, body]
  | .localFunction _ body => [body]
  | .typeAlias _ type => [type]

def typeChildren : TypeExpr → List NodeId
  | .reference _ _ => []
  | .table properties => properties.map (·.2)
  | .function arguments results => arguments ++ results
  | .union parts => parts
  | .optional inner => [inner]

/-- Direct children in source order; the typings of declared locals stand before their
values. -/
def children (id : NodeId) : List NodeId :=
  match source.node? id with
  | some (.expr expr) => source.exprChildren expr
  | some (.stat stat) => source.statChildren stat
  | some (.type type) => typeChildren type
  | none => []

theorem expr?_eq_some_iff (id : NodeId) (expr : Expr) :
    source.expr? id = some expr ↔ source.node? id = some (.expr expr) := by
  simp only [expr?]
  split <;> simp_all

theorem children_of_none (id : NodeId) (absent : source.node? id = none) :
    source.children id = [] := by simp [children, absent]

end Source

end LuauWorkspace.Syntax
