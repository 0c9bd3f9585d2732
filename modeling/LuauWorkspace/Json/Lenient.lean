import LuauWorkspace.Json.Decode

/-!
# Lenient access

Reading of JSON that is trusted to have the right shape. A missing field is null, null stands
for every empty value, and a value of another shape reads as the empty one.
-/
namespace LuauWorkspace.Json

def field (json : Json) (name : String) : Json := (json.get? name).getD .null

def has (json : Json) (name : String) : Bool := !(json.field name).isNull

def items : Json → List Json
  | list items => items
  | _ => []

def pairs : Json → List (String × Json)
  | object fields => fields
  | _ => []

def string (json : Json) : String := json.text?.getD ""

def stringAt (json : Json) (name : String) : String := (json.field name).string

def stringOr (json : Json) (name value : String) : String := (json.field name).text?.getD value

def integer : Json → Int
  | number n 0 => n
  | _ => 0

def natural (json : Json) : Nat := json.integer.toNat

def naturalAt (json : Json) (name : String) : Nat := (json.field name).natural

def naturalOr (json : Json) (name : String) (value : Nat) : Nat :=
  if json.has name then json.naturalAt name else value

def truthAt (json : Json) (name : String) : Bool := (json.field name).bool?.getD false

def option {α : Type} (json : Json) (decode : Json → α) : Option α :=
  if json.isNull then none else some (decode json)

def stringAt? (json : Json) (name : String) : Option String := (json.field name).option string

def naturalAt? (json : Json) (name : String) : Option Nat := (json.field name).option natural

def strings (json : Json) : List String := json.items.map string

def stringsAt (json : Json) (name : String) : List String := (json.field name).strings

def naturals (json : Json) : List Nat := json.items.map natural

def naturalsAt (json : Json) (name : String) : List Nat := (json.field name).naturals

def texts (values : List String) : Json := .list (values.map .text)

def ofText? (value : Option String) : Json := ofOption .text value

mutual

/-- How deep lists and objects are nested. -/
def depth : Json → Nat
  | list items => depthOfItems items + 1
  | object fields => depthOfFields fields + 1
  | _ => 0

def depthOfItems : List Json → Nat
  | [] => 0
  | item :: rest => max (depth item) (depthOfItems rest)

def depthOfFields : List (String × Json) → Nat
  | [] => 0
  | (_, value) :: rest => max (depth value) (depthOfFields rest)

end

end LuauWorkspace.Json
