import LuauWorkspace.Uri.Domain
import LuauWorkspace.Uri.Percent

/-!
# Hosts

Special schemes read their host as an address or a domain: an IPv6 address stands in brackets,
a domain whose last label is a number is an IPv4 address, and any other domain is written in
small ASCII letters. Other schemes keep the host as it stands and only refuse the characters that
would end it.
-/
namespace LuauWorkspace.Uri.Host

open Text (split)

/-- Characters that no host may hold. -/
def isForbidden (c : Char) : Bool :=
  c.toNat = 0 || ['\t', '\n', '\r', ' ', '#', '/', ':', '<', '>', '?', '@', '[', '\\', ']', '^',
    '|'].contains c

def isForbiddenInDomain (c : Char) : Bool :=
  isForbidden c || c.toNat < 0x20 || c == '%' || c.toNat = 0x7F

def verbatim? (text : List Char) : Option (List Char) :=
  if text.any isForbidden then none else some (Percent.encode Percent.controls text)

def digitsOfBase? (base : Nat) (digits : List Char) : Option Nat :=
  digits.foldl
    (fun total c =>
      match total, Percent.hexValue? c with
      | some n, some d => if d < base then some (n * base + d) else none
      | _, _ => none)
    (some 0)

/-- A number of an IPv4 address: hexadecimal behind `0x`, octal behind `0`, else decimal. -/
def addressNumber? (label : List Char) : Option Nat :=
  match label with
  | [] => none
  | '0' :: 'x' :: digits | '0' :: 'X' :: digits => digitsOfBase? 16 digits
  | '0' :: digit :: digits => digitsOfBase? 8 (digit :: digits)
  | digits => digitsOfBase? 10 digits

/-- The labels of a domain; a final dot ends the last label. -/
def labels (domain : List Char) : List (List Char) :=
  match (split '.' domain).reverse with
  | [] :: label :: rest => (label :: rest).reverse
  | reversed => reversed.reverse

def endsInNumber (domain : List Char) : Bool :=
  match (labels domain).getLast? with
  | none => false
  | some label =>
    (label ≠ [] && label.all Char.isDigit) || (addressNumber? label).isSome

/-- The last number fills the bytes that the ones before it leave. -/
def combine? : Nat → List Nat → Option Nat
  | _, [] => none
  | room, [last] => if last < Nat.pow 256 room then some last else none
  | room, n :: rest =>
    if n < 256 then
      (combine? (room - 1) rest).map fun low => n * Nat.pow 256 (room - 1) + low
    else none

def ipv4? (domain : List Char) : Option (List Char) := do
  let parts := labels domain
  if 4 < parts.length then none
  let numbers ← parts.mapM addressNumber?
  let address ← combine? 4 numbers
  let bytes := [address / 16777216, address / 65536 % 256, address / 256 % 256, address % 256]
  some (Text.join '.' (bytes.map fun byte => (toString byte).toList))

def hexPiece? (digits : List Char) : Option Nat :=
  if digits = [] ∨ 4 < digits.length then none else digitsOfBase? 16 digits

/-- A decimal byte without leading zeros. -/
def decimalByte? (digits : List Char) : Option Nat :=
  match digits with
  | [] => none
  | ['0'] => some 0
  | '0' :: _ => none
  | _ => (digitsOfBase? 10 digits).bind fun n => if n < 256 then some n else none

/-- The pieces between colons; dotted decimals may stand in place of the last two. -/
def pieces? : List (List Char) → Option (List Nat)
  | [] => some []
  | [last] =>
    if last.contains '.' then
      match (split '.' last).mapM decimalByte? with
      | some [a, b, c, d] => some [a * 256 + b, c * 256 + d]
      | _ => none
    else (hexPiece? last).map ([·])
  | piece :: rest =>
    match hexPiece? piece, pieces? rest with
    | some n, some more => some (n :: more)
    | _, _ => none

def numbers? (text : List Char) : Option (List Nat) :=
  if text = [] then some [] else pieces? (split ':' text)

/-- The text in front of the first double colon and the text behind it. -/
def splitGap? : List Char → Option (List Char × List Char)
  | [] => none
  | ':' :: ':' :: rest => some ([], rest)
  | c :: rest => (splitGap? rest).map fun (before, after) => (c :: before, after)

/-- The eight pieces of an address; a double colon stands for the zeros that are missing. -/
def ipv6Pieces? (text : List Char) : Option (List Nat) :=
  match splitGap? text with
  | none =>
    match numbers? text with
    | some numbers => if numbers.length = 8 then some numbers else none
    | none => none
  | some (before, after) =>
    if before.contains '.' then none
    else
      match numbers? before, numbers? after with
      | some high, some low =>
        if high.length + low.length < 8 then
          some (high ++ List.replicate (8 - high.length - low.length) 0 ++ low)
        else none
      | _, _ => none

def zerosAhead (numbers : List Nat) : Nat := (numbers.takeWhile (· = 0)).length

/-- Start and length of the longest run of zeros; the first of equal ones. -/
def longestZeros (numbers : List Nat) : Nat × Nat :=
  (List.range numbers.length).foldl
    (fun best start =>
      let run := zerosAhead (numbers.drop start)
      if best.2 < run then (start, run) else best)
    (0, 0)

def hexText (n : Nat) : List Char := (Nat.toDigits 16 n)

/-- Small hexadecimal digits; the longest run of at least two zeros becomes a double colon. -/
def ipv6Text (numbers : List Nat) : List Char :=
  let written (part : List Nat) := Text.join ':' (part.map hexText)
  let (start, run) := longestZeros numbers
  if run < 2 then written numbers
  else written (numbers.take start) ++ [':', ':'] ++ written (numbers.drop (start + run))

def bracketed? (text : List Char) : Option (List Char) :=
  match text.reverse with
  | ']' :: inner =>
    (ipv6Pieces? (inner.reverse.drop 1)).map fun numbers => '[' :: ipv6Text numbers ++ [']']
  | _ => none

/-- Host of a special scheme. -/
def special? (text : List Char) : Option (List Char) :=
  if text.head? = some '[' then bracketed? text
  else
    match Domain.ascii? (Percent.decode text) with
    | none => none
    | some domain =>
      if domain = [] ∨ domain.any isForbiddenInDomain then none
      else if endsInNumber domain then ipv4? domain
      else some domain

/-- Host of a scheme that gives no meaning to it. -/
def plain? (text : List Char) : Option (List Char) :=
  if text.head? = some '[' then bracketed? text else verbatim? text

end LuauWorkspace.Uri.Host
