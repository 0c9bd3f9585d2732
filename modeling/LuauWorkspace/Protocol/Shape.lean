import LuauWorkspace.Json.Decode

/-!
# Shapes of values

Much of what messages carry does not matter to the server, but a message is only valid if all of
it can be read. A shape tells which values can. Plain records can be lists of their fields;
records that other records are merged into, and those that take up unknown fields, are objects.
-/
namespace LuauWorkspace.Protocol

open Json (Presence)

abbrev Shape := Json → Bool

structure Field where
  name : String
  presence : Presence
  shape : Shape

namespace Shape

/-- The values that a decoder can read. -/
def readable {α : Type} (decode : Json → Option α) : Shape := fun json => (decode json).isSome

def anything : Shape := fun _ => true

def text : Shape := readable Json.text?

def flag : Shape := readable Json.bool?

def word : Shape := readable Json.word?

def signedWord : Shape := readable Json.signedWord?

def number : Shape
  | .number _ _ => true
  | _ => false

def oneOf (names : List String) : Shape := fun json => json.text?.any names.contains

def list (item : Shape) : Shape
  | .list items => items.all item
  | _ => false

def pair (item : Shape) : Shape
  | .list [first, second] => item first && item second
  | _ => false

/-- An object of values under any names that have a shape too. -/
def table (name value : Shape) : Shape
  | .object fields => fields.all fun (key, entry) => name (.text key) && value entry
  | _ => false

def nullable (shape : Shape) : Shape := fun json => json.isNull || shape json

def either (first second : Shape) : Shape := fun json => first json || second json

def record (fields : List Field) : Shape := fun json =>
  match json.members? (fields.map fun field => (field.name, field.presence)) with
  | none => false
  | some members => fields.all fun field => (members.lookup field.name).all field.shape

def merged (fields : List Field) : Shape
  | .object values => record fields (.object values)
  | _ => false

@[simp] theorem nullable_null (shape : Shape) : shape.nullable .null = true := rfl

theorem merged_list (fields : List Field) (items : List Json) :
    merged fields (.list items) = false := rfl

theorem merged_object (fields : List Field) (values : List (String × Json)) :
    merged fields (.object values) = record fields (.object values) := rfl

/-- A record that takes up all other fields, each of one shape. -/
def extended (fields : List Field) (other : Shape) : Shape
  | .object values =>
    let unknown := values.filter fun (name, _) => fields.all (·.name ≠ name)
    record fields (.object values) && unknown.all fun (_, value) => other value
  | _ => false

end Shape

def need (name : String) (shape : Shape) : Field := ⟨name, .required, shape⟩

/-- A field that may be missing or null. -/
def may (name : String) (shape : Shape) : Field := ⟨name, .optional, shape.nullable⟩

/-- Several fields that may be missing or null. -/
def mayAll (names : List String) (shape : Shape) : List Field := names.map (may · shape)

end LuauWorkspace.Protocol
