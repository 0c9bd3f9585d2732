/-!
# JSON values

The dynamic values of settings and protocol messages. A number is an integer with a count of
decimal places; only one without decimal places stands for an integer.
-/
namespace LuauWorkspace

inductive Json where
  | null
  | bool (value : Bool)
  | number (mantissa : Int) (decimals : Nat)
  | text (value : String)
  | list (items : List Json)
  | object (fields : List (String × Json))
deriving Repr, Inhabited

namespace Json

def int (n : Int) : Json := number n 0

def nat (n : Nat) : Json := number n 0

/-- A field of an object; the last one of that name counts. -/
def get? (json : Json) (name : String) : Option Json :=
  match json with
  | object fields => fields.reverse.lookup name
  | _ => none

def isNull : Json → Bool
  | null => true
  | _ => false

def ofOption {α : Type} (encode : α → Json) : Option α → Json
  | some value => encode value
  | none => null

/-- An object without the fields that are absent. -/
def present (fields : List (String × Option Json)) : Json :=
  object (fields.filterMap fun (name, value) => value.map (name, ·))

end Json

end LuauWorkspace
