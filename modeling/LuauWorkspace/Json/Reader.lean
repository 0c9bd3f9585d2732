import LuauWorkspace.Json.Scan

/-!
# Reading typed values from a JSON text

A reader takes the value that the text starts with and leaves the rest. It stops at the first
thing that is wrong in the order of the text, be it the JSON or the shape. A record is written
as an object or as the list of its fields in order; fields that it does not know are skipped, a
field given twice is a mismatch.

`depth` is the number of lists and objects that may still be opened, plus one.
-/
namespace LuauWorkspace.Json

def depthLimit : Nat := 128

def checkDepth (depth : Nat) : Except Failure Unit :=
  if depth ≤ 1 then .error .malformed else .ok ()

/-- What is wrong with a value of another kind: it may itself be broken, and a number may be out
of range. Lists and objects are not looked into. -/
def mismatchAt (input : List Char) : Failure :=
  let after (result : Except Failure (List Char)) : Failure :=
    match result with
    | .ok _ => .mismatch
    | .error failure => failure
  let finite (result : Except Failure (Magnitude × List Char)) : Failure :=
    match result with
    | .ok (m, _) => if m.isFinite then .mismatch else .malformed
    | .error failure => failure
  match input with
  | [] => .unfinished
  | 'n' :: rest => after (word ['u', 'l', 'l'] rest)
  | 't' :: rest => after (word ['r', 'u', 'e'] rest)
  | 'f' :: rest => after (word ['a', 'l', 's', 'e'] rest)
  | '"' :: rest => after ((stringBody rest).map (·.2))
  | '[' :: _ | '\x7b' :: _ => .mismatch
  | '-' :: rest => finite (magnitude .unfinished rest)
  | c :: rest => if c.isDigit then finite (magnitude .unfinished (c :: rest)) else .malformed

def readString : Reader String := fun input =>
  match dropBlank input with
  | '"' :: rest => stringBody rest
  | other => .error (mismatchAt other)

def readNullable {α : Type} (read : Reader α) : Reader (Option α) := fun input =>
  match dropBlank input with
  | 'n' :: rest => (word ['u', 'l', 'l'] rest).map fun after => (none, after)
  | _ => (read input).map fun (value, rest) => (some value, rest)

/-- Whether another item of a list follows, and the text where it starts. -/
def nextItem (first : Bool) : Reader Bool := fun input =>
  match dropBlank input with
  | [] => .error .unfinished
  | ']' :: rest => .ok (false, ']' :: rest)
  | c :: rest =>
    if first then .ok (true, c :: rest)
    else if c = ',' then
      match dropBlank rest with
      | [] => .error .unfinished
      | ']' :: _ => .error .malformed
      | more => .ok (true, more)
    else .error .malformed

/-- Closes a list in which nothing more may stand. -/
def endList (input : List Char) : Except Failure (List Char) :=
  match dropBlank input with
  | [] => .error .unfinished
  | ']' :: rest => .ok rest
  | _ => .error .malformed

/-- Whether another member of an object follows, and the text behind the quote of its key. -/
def nextKey (first : Bool) : Reader Bool := fun input =>
  match dropBlank input with
  | [] => .error .unfinished
  | '\x7d' :: rest => .ok (false, '\x7d' :: rest)
  | c :: rest =>
    if first then if c = '"' then .ok (true, rest) else .error .malformed
    else if c = ',' then
      match dropBlank rest with
      | [] => .error .unfinished
      | '"' :: key => .ok (true, key)
      | _ => .error .malformed
    else .error .malformed

def readColon (input : List Char) : Except Failure (List Char) :=
  match dropBlank input with
  | [] => .error .unfinished
  | ':' :: rest => .ok rest
  | _ => .error .malformed

def readItems {α : Type} (read : Reader α) : Nat → Bool → Reader (List α)
  | 0, _, _ => .error .unfinished
  | steps + 1, first, input => do
    let (more, rest) ← nextItem first input
    if ¬ more then return ([], rest.drop 1)
    let (item, afterItem) ← read rest
    let (items, after) ← readItems read steps false afterItem
    return (item :: items, after)

def readList {α : Type} (depth : Nat) (read : Reader α) : Reader (List α) := fun input =>
  match dropBlank input with
  | '[' :: rest => do
    checkDepth depth
    readItems read (rest.length + 1) true rest
  | other => .error (mismatchAt other)

/-- Folds the members of an object; `member` gets the key and reads from the colon on. -/
def readMembers {σ : Type} (member : σ → String → Reader σ) : Nat → Bool → σ → Reader σ
  | 0, _, _, _ => .error .unfinished
  | steps + 1, first, state, input => do
    let (more, rest) ← nextKey first input
    if ¬ more then return (state, rest.drop 1)
    let (key, afterKey) ← stringBody rest
    let (next, afterValue) ← member state key afterKey
    readMembers member steps false next afterValue

/-- An object of values under any keys, in the order of the text. -/
def readTable {α : Type} (depth : Nat) (read : Reader α) :
    Reader (List (String × α)) := fun input =>
  match dropBlank input with
  | '\x7b' :: rest => do
    checkDepth depth
    let member (entries : List (String × α)) (key : String) : Reader (List (String × α)) :=
      fun afterKey => do
        let (value, after) ← read (← readColon afterKey)
        return ((key, value) :: entries, after)
    let (entries, after) ← readMembers member (rest.length + 1) true [] rest
    return (entries.reverse, after)
  | other => .error (mismatchAt other)

/-- How a record is gathered field by field. -/
structure Record (σ α : Type) where
  /-- The fields in order. -/
  names : List String
  start : σ
  isSet : σ → String → Bool
  read : σ → String → Reader σ
  /-- None when a field without a default is missing. -/
  finish? : σ → Option α

namespace Record

variable {σ α : Type}

def member (record : Record σ α) (state : σ) (key : String) : Reader σ := fun input => do
  if record.names.contains key then
    if record.isSet state key then throw .mismatch
    record.read state key (← readColon input)
  else
    let rest ← readColon input
    return (state, ← skipValue rest)

/-- The fields of a list, as far as it goes. -/
def items (record : Record σ α) : List String → Bool → σ → Reader σ
  | [], _, state, input => .ok (state, input)
  | name :: names, first, state, input => do
    let (more, rest) ← nextItem first input
    if ¬ more then return (state, rest)
    let (next, after) ← record.read state name rest
    items record names false next after

def finished (record : Record σ α) (state : σ) : Except Failure α :=
  match record.finish? state with
  | some value => .ok value
  | none => .error .mismatch

end Record

def readRecord {σ α : Type} (depth : Nat) (record : Record σ α) : Reader α := fun input =>
  match dropBlank input with
  | '[' :: rest => do
    checkDepth depth
    let (state, after) ← record.items record.names true record.start rest
    let value ← record.finished state
    return (value, ← endList after)
  | '\x7b' :: rest => do
    checkDepth depth
    let (state, after) ← readMembers record.member (rest.length + 1) true record.start rest
    return (← record.finished state, after)
  | other => .error (mismatchAt other)

/-- Reads the one value of a whole text. -/
def parse {α : Type} (read : Reader α) (input : String) : Except Failure α := do
  let (value, rest) ← read input.toList
  if dropBlank rest = [] then return value
  throw .malformed

end LuauWorkspace.Json
