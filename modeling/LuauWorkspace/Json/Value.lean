import LuauWorkspace.Json.Basic
import LuauWorkspace.Json.Reader

/-!
# Any JSON value

Reading values whose shape is not known in advance, and writing them on one line. A number with
a fraction or an exponent never reads as an integer.
-/
namespace LuauWorkspace.Json

/-- Only a number that is written with digits alone and fits into 64 bits is an integer, and minus
zero is not. -/
def ofMagnitude (negative : Bool) (written : List Char) (m : Magnitude) : Json :=
  let digits : Int := if negative then -(m.digits : Int) else m.digits
  let fits := if negative then 0 < m.digits && m.digits ≤ Nat.pow 2 63 else true
  if m.exponent = 0 ∧ written.all Char.isDigit ∧ fits then number digits 0
  else if m.digits = 0 then number 0 1
  else number (digits * (Nat.pow 10 (m.exponent.toNat + 1) : Nat)) ((-m.exponent).toNat + 1)

def readNumber (negative : Bool) : Reader Json := fun text => do
  let (m, rest) ← magnitude .unfinished text
  if ¬ m.isFinite then throw .malformed
  return (ofMagnitude negative (text.take (text.length - rest.length)) m, rest)

/-- A value in which so many lists and objects may be open at once, less one. -/
def readValue : Nat → Reader Json
  | 0, _ => .error .malformed
  | depth + 1, written =>
    let literal (expected : List Char) (value : Json) (rest : List Char) :
        Except Failure (Json × List Char) :=
      (word expected rest).map fun after => (value, after)
    match dropBlank written with
    | 'n' :: rest => literal ['u', 'l', 'l'] null rest
    | 't' :: rest => literal ['r', 'u', 'e'] (bool true) rest
    | 'f' :: rest => literal ['a', 'l', 's', 'e'] (bool false) rest
    | '"' :: rest => (stringBody rest).map fun (value, after) => (Json.text value, after)
    | '[' :: rest =>
      (readList (depth + 1) (readValue depth) ('[' :: rest)).map fun (items, after) =>
        (list items, after)
    | '\x7b' :: rest =>
      (readTable (depth + 1) (readValue depth) ('\x7b' :: rest)).map fun (fields, after) =>
        (object fields, after)
    | '-' :: rest => readNumber true rest
    | c :: rest => if c.isDigit then readNumber false (c :: rest) else .error .malformed
    | [] => .error .unfinished

def ofString (text : String) : Except Failure Json := parse (readValue depthLimit) text

def hexDigit (n : Nat) : Char := Char.ofNat (if n < 10 then 48 + n else 87 + n)

/-- Control characters, quotes and backslashes are escaped. -/
def encodeChar (c : Char) : List Char :=
  if c = '"' then ['\\', '"']
  else if c = '\\' then ['\\', '\\']
  else if c = '\n' then ['\\', 'n']
  else if c.toNat < 0x20 then
    ['\\', 'u', '0', '0', hexDigit (c.toNat / 16), hexDigit (c.toNat % 16)]
  else [c]

def quoted (value : String) : String :=
  "\"" ++ String.ofList (value.toList.flatMap encodeChar) ++ "\""

mutual

def render : Json → String
  | null => "null"
  | bool value => if value then "true" else "false"
  | number mantissa 0 => toString mantissa
  | number mantissa decimals => toString mantissa ++ "e-" ++ toString decimals
  | text value => quoted value
  | list items => "[" ++ ",".intercalate (renderItems items) ++ "]"
  | object fields => "\x7b" ++ ",".intercalate (renderFields fields) ++ "\x7d"

def renderItems : List Json → List String
  | [] => []
  | item :: rest => render item :: renderItems rest

def renderFields : List (String × Json) → List String
  | [] => []
  | (name, value) :: rest => (quoted name ++ ":" ++ render value) :: renderFields rest

end

end LuauWorkspace.Json
