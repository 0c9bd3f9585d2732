import LuauWorkspace.Table

/-!
# Type arenas

Types lie in one array and refer to each other by index. A `bound` type stands for the one it
points to. Chains of such links, and of parent classes, are followed only so far, so that arenas
with cycles are answered too.
-/
namespace LuauWorkspace.Types

abbrev TypeId := Nat

inductive Primitive where
  | nil
  | boolean
  | number
  | string
  | thread
deriving DecidableEq, Repr

abbrev Properties := Table String TypeId

structure FunctionType where
  generics : List String := []
  arguments : List TypeId := []
  /-- One entry for each argument; an argument without a name has none. -/
  argumentNames : List (Option String) := []
  results : List TypeId := []
  /-- Declared with a receiver as its first argument. -/
  hasReceiver : Bool := false
deriving Repr

structure TableType where
  name : Option String := none
  properties : Properties := {}
  indexer : Option (TypeId × TypeId) := none
deriving Repr

structure ClassType where
  name : String
  properties : Properties := {}
  parent : Option TypeId := none
deriving Repr

inductive Shape where
  | bound (next : TypeId)
  | primitive (kind : Primitive)
  | any
  | unknown
  | never
  | generic (name : String)
  | function (type : FunctionType)
  | table (type : TableType)
  | metatable (table metatable : TypeId)
  | ofClass (type : ClassType)
  | union (parts : List TypeId)
  | intersection (parts : List TypeId)
deriving Repr

structure Entry where
  shape : Shape
  /-- The symbol of its documentation. -/
  symbol : Option String := none
deriving Repr

structure Arena where
  entries : Array Entry := #[]
deriving Repr, Inhabited

namespace Arena

variable (arena : Arena)

def shapeOf? (id : TypeId) : Option Shape := (arena.entries[id]?).map (·.shape)

/-- Chains of links are followed for at most this many steps. -/
def followLimit : Nat := 256

def followWithin : Nat → TypeId → TypeId
  | 0, id => id
  | limit + 1, id =>
    match arena.shapeOf? id with
    | some (.bound next) => followWithin limit next
    | _ => id

/-- The type at the end of the links that start at `id`. -/
def follow (id : TypeId) : TypeId := arena.followWithin followLimit id

def get? (id : TypeId) : Option Shape := arena.shapeOf? (arena.follow id)

def symbol? (id : TypeId) : Option String := (arena.entries[arena.follow id]?).bind (·.symbol)

def classPropertyWithin : Nat → ClassType → String → Option TypeId
  | limit, type, name =>
    match type.properties.get? name with
    | some property => some property
    | none =>
      match limit, type.parent.bind arena.get? with
      | rest + 1, some (.ofClass parent) => classPropertyWithin rest parent name
      | _, _ => none

/-- A property of a class or of the nearest of its parents that has it. -/
def classProperty? (type : ClassType) (name : String) : Option TypeId :=
  arena.classPropertyWithin followLimit type name

theorem followWithin_of_not_bound (limit : Nat) (id : TypeId)
    (ends : ∀ next, arena.shapeOf? id ≠ some (.bound next)) : arena.followWithin limit id = id := by
  cases limit with
  | zero => rfl
  | succ limit =>
    unfold followWithin
    split
    next next found => exact absurd found (ends next)
    · rfl

theorem classPropertyWithin_of_own (limit : Nat) (type : ClassType) (name : String) (id : TypeId)
    (own : type.properties.get? name = some id) :
    arena.classPropertyWithin limit type name = some id := by
  unfold classPropertyWithin
  simp [own]

end Arena

end LuauWorkspace.Types
