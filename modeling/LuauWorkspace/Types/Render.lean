import LuauWorkspace.Types.Arena

/-!
# Written types

Types are written in Luau syntax. Below eight levels of nesting a type is written as dots, so
cycles end. Functions inside unions and intersections, and as the only result of a function, are
put in parentheses; a union of one type with nil is written with a question mark.
-/
namespace LuauWorkspace.Types

structure Style where
  /-- The outermost table has one entry on each line. -/
  lineBreaks : Bool := false
  /-- The receiver of a method is left out. -/
  hideReceiver : Bool := false
deriving DecidableEq, Repr

namespace Style

def exhaustive : Style := { lineBreaks := true }

end Style

def Primitive.text : Primitive → String
  | nil => "nil"
  | boolean => "boolean"
  | number => "number"
  | string => "string"
  | thread => "thread"

namespace Arena

variable (arena : Arena) (style : Style)

def commas (parts : List String) : String := ", ".intercalate parts

def parenthesized (text : String) : String := "(" ++ text ++ ")"

def braced (text : String) : String := "\x7b " ++ text ++ " \x7d"

def genericsText (names : List String) : String :=
  if names = [] then "" else "<" ++ commas names ++ ">"

def isNil (id : TypeId) : Bool :=
  match arena.get? id with
  | some (.primitive .nil) => true
  | _ => false

/-- How a type is written as a part of another one; `draw` writes it alone. -/
def wrapped (draw : TypeId → String) (id : TypeId) : String :=
  match arena.get? id with
  | some (.function _) => parenthesized (draw id)
  | _ => draw id

def unionText (draw : TypeId → String) (parts : List TypeId) : String :=
  -- Only a union of exactly one type with one nil is optional.
  match parts.filter fun part => !arena.isNil part, parts with
  | [part], [_, _] => arena.wrapped draw part ++ "?"
  | _, _ => " | ".intercalate (parts.map (arena.wrapped draw))

/-- The arguments with their names, `name: type` where one is known. -/
def labels (draw : TypeId → String) : List TypeId → List (Option String) → List String
  | [], _ => []
  | id :: rest, names =>
    (match names.head?.join with
      | some name => name ++ ": " ++ draw id
      | none => draw id) :: labels draw rest names.tail

def parameters (draw : TypeId → String) (type : FunctionType) : List String :=
  let hidden := if type.hasReceiver && style.hideReceiver then 1 else 0
  (labels draw type.arguments type.argumentNames).drop hidden

def results (draw : TypeId → String) (type : FunctionType) : String :=
  match type.results with
  | [] => "()"
  | [only] => arena.wrapped draw only
  | many => parenthesized (commas (many.map draw))

def functionText (draw : TypeId → String) (type : FunctionType) : String :=
  genericsText type.generics ++ parenthesized (commas (parameters style draw type)) ++ " -> "
    ++ arena.results draw type

def tableEntries (draw : TypeId → String) (type : TableType) : List String :=
  (match type.indexer with
    | some (key, value) => ["[" ++ draw key ++ "]: " ++ draw value]
    | none => [])
  ++ type.properties.sorted.map fun (name, id) => name ++ ": " ++ draw id

def tableText (draw : TypeId → String) (broken : Bool) (type : TableType) : String :=
  match type.name, tableEntries draw type with
  | some name, _ => name
  | none, [] => "\x7b\x7d"
  | none, entries =>
    if broken then "\x7b\n    " ++ ",\n    ".intercalate entries ++ "\n\x7d"
    else braced (commas entries)

def shapeText (draw : TypeId → String) (outermost : Bool) : Shape → String
  | .bound _ => "*cycle*"
  | .primitive kind => kind.text
  | .any => "any"
  | .unknown => "unknown"
  | .never => "never"
  | .generic name => name
  | .function type => arena.functionText style draw type
  | .table type => tableText draw (style.lineBreaks && outermost) type
  | .metatable table metatable => braced ("@metatable " ++ draw metatable ++ ", " ++ draw table)
  | .ofClass type => type.name
  | .union parts => arena.unionText draw parts
  | .intersection parts => " & ".intercalate (parts.map (arena.wrapped draw))

def maxDepth : Nat := 8

/-- The text of a type with `room` levels left; the outermost type has one more than the maximal
depth. -/
def render : Nat → TypeId → String
  | 0, _ => "..."
  | room + 1, id =>
    match arena.get? id with
    | none => "*error-type*"
    | some shape => arena.shapeText style (render room) (room = maxDepth) shape

def text (id : TypeId) : String := arena.render style (maxDepth + 1) id

/-- The declaration of a function, such as `function name(a: number): string`. -/
def namedFunction (name : String) (type : FunctionType) : String :=
  (if name = "" then "function" else "function " ++ name) ++ genericsText type.generics
    ++ parenthesized (commas (parameters style (arena.render style maxDepth) type)) ++ ": "
    ++ arena.results (arena.render style maxDepth) type

def parameterLabels (type : FunctionType) : List String :=
  parameters style (arena.render style maxDepth) type

theorem labels_length (draw : TypeId → String) (ids : List TypeId) (names : List (Option String)) :
    (labels draw ids names).length = ids.length := by
  induction ids generalizing names with
  | nil => rfl
  | cons id rest ih => simp [labels, ih]

/-- A union is written as optional or with bars, whatever its parts look like. -/
theorem unionText_cases (parts : List TypeId) :
    (∃ part one two, parts = [one, two] ∧
      (parts.filter fun part => !arena.isNil part) = [part] ∧
        ∀ draw, arena.unionText draw parts = arena.wrapped draw part ++ "?") ∨
    ∀ draw, arena.unionText draw parts = " | ".intercalate (parts.map (arena.wrapped draw)) := by
  by_cases optional : parts.length = 2 ∧ (parts.filter fun part => !arena.isNil part).length = 1
  · obtain ⟨part, kept⟩ := List.length_eq_one_iff.mp optional.2
    match parts, optional.1 with
    | [one, two], _ =>
      exact Or.inl ⟨part, one, two, rfl, kept, fun draw => by simp [unionText, kept]⟩
  · right
    intro draw
    unfold unionText
    split
    next part one two kept => exact absurd ⟨rfl, by rw [kept]; rfl⟩ optional
    · rfl

end Arena

end LuauWorkspace.Types
