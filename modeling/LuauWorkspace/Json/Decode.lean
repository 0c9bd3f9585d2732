import LuauWorkspace.Json.Basic

/-!
# Typed values of a JSON value

Each decoder answers none for a value of another shape. A record is an object, in which unknown
fields do not matter, or the list of its fields in order, in which nothing may follow them.
-/
namespace LuauWorkspace.Json

def text? : Json → Option String
  | text value => some value
  | _ => none

def bool? : Json → Option Bool
  | bool value => some value
  | _ => none

/-- An integer between two bounds, both included. -/
def integer? (low high : Int) : Json → Option Int
  | number n 0 => if low ≤ n ∧ n ≤ high then some n else none
  | _ => none

/-- An unsigned integer of 32 bits. -/
def word? (json : Json) : Option Nat := (json.integer? 0 4294967295).map Int.toNat

/-- A signed integer of 32 bits. -/
def signedWord? (json : Json) : Option Int := json.integer? (-2147483648) 2147483647

def list? {α : Type} (decode : Json → Option α) : Json → Option (List α)
  | list items => items.mapM decode
  | _ => none

/-- What becomes of a field that is missing. -/
inductive Presence where
  | required
  /-- May be missing from an object, but has its place in a list. -/
  | optional
  | defaulted
deriving DecidableEq, Repr

abbrev Members := List (String × Json)

def member? (json : Json) (field : String × Presence) : Option Members :=
  match json.get? field.1, field.2 with
  | some value, _ => some [(field.1, value)]
  | none, .required => none
  | none, _ => some []

/-- The fields of a record by their names. -/
def members? (layout : List (String × Presence)) (json : Json) : Option Members :=
  match json with
  | object _ =>
    (layout.mapM (member? json)).map List.flatten
  | list items =>
    if layout.length < items.length then none
    else
      let absent := layout.drop items.length
      if absent.all fun field => field.2 = .defaulted then
        some ((layout.zip items).map fun (field, value) => (field.1, value))
      else none
  | _ => none

namespace Members

variable {α : Type}

def required? (members : Members) (name : String) (decode : Json → Option α) : Option α :=
  (members.lookup name).bind decode

def defaulted? (members : Members) (name : String) (decode : Json → Option α) (value : α) :
    Option α :=
  match members.lookup name with
  | some json => decode json
  | none => some value

/-- A field that may be missing or null. -/
def nullable? (members : Members) (name : String) (decode : Json → Option α) :
    Option (Option α) :=
  match members.lookup name with
  | none | some .null => some none
  | some json => (decode json).map some

end Members

end LuauWorkspace.Json
