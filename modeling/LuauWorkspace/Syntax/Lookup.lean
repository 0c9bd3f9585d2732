import LuauWorkspace.Syntax.Tree

/-!
# Nodes at a position

A lookup walks down from the root, each time to the first child in source order that holds the
position. Two tests are in use. Half-open locations give a position between two tokens to the
one that starts there; at or behind the end of the document they count the nodes that end there.
Closed locations keep a cursor right behind `foo(a, b` inside the call.

A walk visits at most as many nodes as the tree has, since children have smaller ids.
-/
namespace LuauWorkspace.Syntax.Source

variable (source : Source)

/-- Half-open, and at or behind the end of the document everything that ends with it. -/
def covers (location : Location) (position : Position) : Bool :=
  location.contains position
    || (source.documentEnd ≤ position && location.stop = source.documentEnd)

/-- The nodes from `id` down, at most `limit` below it. -/
def walk (holds : Location → Bool) : Nat → NodeId → List NodeId
  | 0, id => [id]
  | limit + 1, id =>
    id ::
      match (source.children id).find? fun child => holds (source.location child) with
      | some child => walk holds limit child
      | none => []

def path (holds : Location → Bool) : List NodeId :=
  if holds (source.location source.root) then source.walk holds source.nodes.size source.root
  else []

/-- The nodes that cover a position, outermost first. -/
def coveringPath (position : Position) : List NodeId :=
  source.path fun location => source.covers location position

def nodeAt? (position : Position) : Option NodeId := (source.coveringPath position).getLast?

/-- The nodes whose closed location holds a position, outermost first. -/
def ancestry (position : Position) : List NodeId :=
  source.path fun location => location.containsClosed position

/-- An expression, or the declaration of a local variable. -/
inductive Target where
  | expr (id : NodeId)
  | declaration (id : LocalId)
deriving DecidableEq, Repr

/-- The first declaration on the way down that holds the position, else the last expression. -/
def targetOn (holds : Location → Bool) : Option Target → List NodeId → Option Target
  | found, [] => found
  | found, id :: rest =>
    let next := if (source.expr? id).isSome then some (.expr id) else found
    match (source.declared id).find? fun declared => holds (source.localLocation declared) with
    | some declared => some (.declaration declared)
    | none => targetOn holds next rest

def targetAt? (position : Position) : Option Target :=
  source.targetOn (fun location => source.covers location position) none
    (source.coveringPath position)

namespace Target

def expr? : Target → Option NodeId
  | .expr id => some id
  | .declaration _ => none

/-- The local variable that is declared or read. -/
def local? : Target → Option LocalId
  | .declaration id => some id
  | .expr id =>
    match source.expr? id with
    | some (.localName id) => some id
    | _ => none

def location : Target → Location
  | .expr id => source.location id
  | .declaration id => source.localLocation id

end Target

/-- The written name of a callee, such as `print`, `self.items` or `Account:deposit`. -/
def calleeNameWithin : Nat → NodeId → Option String
  | 0, _ => none
  | limit + 1, id =>
    match source.expr? id with
    | some (.globalName name) => some name
    | some (.localName id) => some (source.localName id)
    | some (.member base name _ separator) =>
      match calleeNameWithin limit base with
      | some written => some (written ++ separator.toString ++ name)
      | none => some name
    | some (.group inner) => calleeNameWithin limit inner
    | _ => none

def calleeName? (id : NodeId) : Option String := source.calleeNameWithin source.nodes.size id

theorem walk_ne_nil (holds : Location → Bool) (limit : Nat) (id : NodeId) :
    source.walk holds limit id ≠ [] := by cases limit <;> simp [walk]

theorem nodeAt?_eq_none_iff (position : Position) :
    source.nodeAt? position = none
      ↔ source.covers (source.location source.root) position = false := by
  simp only [nodeAt?, coveringPath, path, List.getLast?_eq_none_iff]
  split
  next covered => simp [walk_ne_nil, covered]
  next outside => simpa using outside

end LuauWorkspace.Syntax.Source
