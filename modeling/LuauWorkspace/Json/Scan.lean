import LuauWorkspace.Text.Utf8

/-!
# Tokens of a JSON text

Blanks, numbers, strings and whole values that nobody looks at. A text that breaks off is told
apart from one that goes wrong before its end. Strings that are kept pair up their surrogate
escapes; in values that are skipped a lone surrogate is let through, numbers have no range and
nesting has no limit.
-/
namespace LuauWorkspace.Json

inductive Failure where
  /-- No JSON, or nested too deep. -/
  | malformed
  /-- JSON of another shape. -/
  | mismatch
  /-- The text ends too early. -/
  | unfinished
deriving DecidableEq, Repr

abbrev Reader (α : Type) := List Char → Except Failure (α × List Char)

def isBlank (c : Char) : Bool := c == ' ' || c == '\n' || c == '\t' || c == '\r'

def dropBlank (input : List Char) : List Char := input.dropWhile isBlank

def hexValue? (c : Char) : Option Nat :=
  if '0' ≤ c ∧ c ≤ '9' then some (c.toNat - 48)
  else if 'A' ≤ c ∧ c ≤ 'F' then some (c.toNat - 55)
  else if 'a' ≤ c ∧ c ≤ 'f' then some (c.toNat - 87)
  else none

/-- Four hexadecimal digits. The text breaks off when fewer than four bytes are left. -/
def hexQuad : Reader Nat := fun input =>
  if Text.Utf8.size (input.take 4) < 4 then .error .unfinished
  else
    match input with
    | a :: b :: c :: d :: rest =>
      match hexValue? a, hexValue? b, hexValue? c, hexValue? d with
      | some a, some b, some c, some d => .ok (((a * 16 + b) * 16 + c) * 16 + d, rest)
      | _, _, _, _ => .error .malformed
    | _ => .error .malformed

def isLeading (n : Nat) : Bool := 0xD800 ≤ n && n < 0xDC00

def isTrailing (n : Nat) : Bool := 0xDC00 ≤ n && n < 0xE000

/-- The character of a `\u` escape, behind the letter. A leading surrogate needs a trailing one
right behind it. -/
def unicodeEscape : Reader Char := fun input => do
  let (n, rest) ← hexQuad input
  if isTrailing n then throw .malformed
  if ¬ isLeading n then return (Char.ofNat n, rest)
  match rest with
  | [] | ['\\'] => throw .unfinished
  | '\\' :: 'u' :: more =>
    let (low, after) ← hexQuad more
    if isTrailing low then
      return (Char.ofNat (0x10000 + (n - 0xD800) * 0x400 + (low - 0xDC00)), after)
    throw .malformed
  | _ => throw .malformed

def plainEscape? (c : Char) : Option Char :=
  match c with
  | '"' => some '"'
  | '\\' => some '\\'
  | '/' => some '/'
  | 'b' => some '\x08'
  | 'f' => some '\x0c'
  | 'n' => some '\n'
  | 'r' => some '\r'
  | 't' => some '\t'
  | _ => none

/-- The character of an escape, behind its backslash. -/
def escape : Reader Char := fun input =>
  match input with
  | [] => .error .unfinished
  | 'u' :: rest => unicodeEscape rest
  | c :: rest =>
    match plainEscape? c with
    | some plain => .ok (plain, rest)
    | none => .error .malformed

/-- An escape of a string that is skipped. -/
def skippedEscape : Reader Unit := fun input =>
  match input with
  | [] => .error .unfinished
  | 'u' :: rest => (hexQuad rest).map fun (_, after) => ((), after)
  | c :: rest => if (plainEscape? c).isSome then .ok ((), rest) else .error .malformed

/-- The characters up to the closing quote, with at most `limit` characters and escapes. -/
def characters (readEscape : Reader (List Char)) : Nat → Reader (List Char)
  | 0, _ => .error .unfinished
  | limit + 1, input =>
    match input with
    | [] => .error .unfinished
    | '"' :: rest => .ok ([], rest)
    | '\\' :: rest => do
      let (c, after) ← readEscape rest
      let (more, last) ← characters readEscape limit after
      return (c ++ more, last)
    | c :: rest => do
      if c.toNat < 0x20 then throw .malformed
      let (more, last) ← characters readEscape limit rest
      return (c :: more, last)

/-- A string behind its opening quote. -/
def stringBody : Reader String := fun input => do
  let keep : Reader (List Char) := fun rest => (escape rest).map fun (c, after) => ([c], after)
  let (value, rest) ← characters keep (input.length + 1) input
  return (String.ofList value, rest)

def skipString (input : List Char) : Except Failure (List Char) := do
  let drop : Reader (List Char) := fun rest =>
    (skippedEscape rest).map fun (_, after) => ([], after)
  let (_, rest) ← characters drop (input.length + 1) input
  return rest

/-- The rest of the text behind a word. -/
def word : List Char → List Char → Except Failure (List Char)
  | [], input => .ok input
  | _ :: _, [] => .error .unfinished
  | c :: expected, d :: input => if c = d then word expected input else .error .malformed

/-- At least one digit. -/
def digits (atEnd : Failure) : Reader (List Char) := fun input =>
  match input with
  | [] => .error atEnd
  | c :: _ =>
    if c.isDigit then .ok (input.takeWhile Char.isDigit, input.dropWhile Char.isDigit)
    else .error .malformed

/-- The digits of a number that are kept and the power of ten that scales them. -/
structure Magnitude where
  digits : Nat
  exponent : Int
deriving DecidableEq, Repr

def natOf (digits : List Char) : Nat := digits.foldl (fun n c => n * 10 + (c.toNat - 48)) 0

namespace Magnitude

/-- Appends digits to a number as long as it stays within 64 bits; the rest is what is left. -/
def absorb (n : Nat) : List Char → Nat × List Char
  | [] => (n, [])
  | c :: rest =>
    let next := n * 10 + (c.toNat - 48)
    if next < Nat.pow 2 64 then absorb next rest else (n, c :: rest)

/-- Digits of the whole part beyond 64 bits only scale the number, those of the fraction are
dropped. -/
def ofDigits (whole fraction : List Char) (exponent : Int) : Magnitude :=
  let (n, beyond) := absorb 0 whole
  let (digits, dropped) := absorb n fraction
  ⟨digits, exponent + beyond.length - (fraction.length - dropped.length : Nat)⟩

/-- The nearest number with 53 significant bits; of two, the even one. -/
def round (n : Nat) : Nat :=
  let unit := Nat.pow 2 (n.log2 + 1 - 53)
  let kept := n / unit
  let twice := 2 * (n % unit)
  if unit < twice ∨ (unit = twice ∧ kept % 2 = 1) then (kept + 1) * unit else kept * unit

/-- Whether the product of the rounded digits and the rounded power of ten has a double. A
negative power never leaves the range. -/
def isFinite (m : Magnitude) : Bool :=
  m.digits = 0 || m.exponent < 0 ||
    (m.exponent ≤ 308 &&
      round (round m.digits * round (Nat.pow 10 m.exponent.toNat)) < Nat.pow 2 1024)

end Magnitude

def integerPart (atEnd : Failure) : Reader (List Char) := fun input => do
  let (whole, rest) ← digits atEnd input
  match whole with
  | '0' :: _ :: _ => throw .malformed
  | _ => return (whole, rest)

def fractionPart (atEnd : Failure) : Reader (List Char) := fun input =>
  match input with
  | '.' :: rest => digits atEnd rest
  | _ => .ok ([], input)

def exponentPart (atEnd : Failure) : Reader Int := fun input =>
  let signed (negative : Bool) (rest : List Char) : Except Failure (Int × List Char) :=
    (digits atEnd rest).map fun (power, after) =>
      (if negative then -(natOf power : Int) else natOf power, after)
  match input with
  | mark :: rest =>
    if mark = 'e' ∨ mark = 'E' then
      match rest with
      | '-' :: more => signed true more
      | '+' :: more => signed false more
      | _ => signed false rest
    else .ok (0, input)
  | [] => .ok (0, input)

/-- A number without its sign. -/
def magnitude (atEnd : Failure) : Reader Magnitude := fun input => do
  let (whole, afterWhole) ← integerPart atEnd input
  let (fraction, afterFraction) ← fractionPart atEnd afterWhole
  let (exponent, rest) ← exponentPart atEnd afterFraction
  return (.ofDigits whole fraction exponent, rest)

/-- A number that only has to be well-formed; one that breaks off is not. -/
def skipNumber (input : List Char) : Except Failure (List Char) :=
  (magnitude .malformed input).map (·.2)

mutual

/-- Drops one value in at most so many steps. -/
def skip : Nat → List Char → Except Failure (List Char)
  | 0, _ => .error .unfinished
  | steps + 1, input =>
    match dropBlank input with
    | [] => .error .unfinished
    | 'n' :: rest => word ['u', 'l', 'l'] rest
    | 't' :: rest => word ['r', 'u', 'e'] rest
    | 'f' :: rest => word ['a', 'l', 's', 'e'] rest
    | '"' :: rest => skipString rest
    | '-' :: rest => skipNumber rest
    | '[' :: rest =>
      match dropBlank rest with
      | ']' :: after => .ok after
      | _ => skipItems steps rest
    | '\x7b' :: rest =>
      match dropBlank rest with
      | '\x7d' :: after => .ok after
      | _ => skipMembers steps rest
    | c :: rest => if c.isDigit then skipNumber (c :: rest) else .error .malformed

def skipItems : Nat → List Char → Except Failure (List Char)
  | 0, _ => .error .unfinished
  | steps + 1, input => do
    let rest ← skip steps input
    match dropBlank rest with
    | [] => throw .unfinished
    | ',' :: more => skipItems steps more
    | ']' :: after => return after
    | _ => throw .malformed

def skipMembers : Nat → List Char → Except Failure (List Char)
  | 0, _ => .error .unfinished
  | steps + 1, input => do
    match dropBlank input with
    | [] => throw .unfinished
    | '"' :: key =>
      match dropBlank (← skipString key) with
      | [] => throw .unfinished
      | ':' :: value =>
        match dropBlank (← skip steps value) with
        | [] => throw .unfinished
        | ',' :: more => skipMembers steps more
        | '\x7d' :: after => return after
        | _ => throw .malformed
      | _ => throw .malformed
    | _ => throw .malformed

end

/-- Drops one value. Each character of it takes at most two steps. -/
def skipValue (input : List Char) : Except Failure (List Char) := skip (2 * input.length + 2) input

end LuauWorkspace.Json
