import LuauWorkspace.Text.Utf8

/-!
# Percent encoding

A part of a URI writes the bytes of a character outside its own set as `%` and two hexadecimal
digits. Everything above ASCII and all control characters are always written so; the sets below
name what else a part has to encode. Reading leaves a `%` without two digits behind it alone.
-/
namespace LuauWorkspace.Uri.Percent

/-- The ASCII characters that a part of a URI encodes besides the control characters. -/
abbrev EncodeSet := List Char

def controls : EncodeSet := []

def fragmentSet : EncodeSet := [' ', '"', '<', '>', '\x60']

def querySet : EncodeSet := [' ', '"', '#', '<', '>']

def specialQuerySet : EncodeSet := '\x27' :: querySet

def pathSet : EncodeSet := fragmentSet ++ ['#', '?', '\x7b', '\x7d']

def userInfoSet : EncodeSet := pathSet ++ ['/', ':', ';', '=', '@', '[', '\\', ']', '^', '|']

/-- One file name inside a path: nothing in it may end the name or be read as an escape. -/
def fileNameSet : EncodeSet := pathSet ++ ['/', '%', '\\']

def hexDigit (n : Nat) : Char := if n < 10 then Char.ofNat (48 + n) else Char.ofNat (55 + n)

def hexValue? (c : Char) : Option Nat :=
  if '0' ≤ c ∧ c ≤ '9' then some (c.toNat - 48)
  else if 'A' ≤ c ∧ c ≤ 'F' then some (c.toNat - 55)
  else if 'a' ≤ c ∧ c ≤ 'f' then some (c.toNat - 87)
  else none

def encodeByte (byte : Nat) : List Char := ['%', hexDigit (byte / 16), hexDigit (byte % 16)]

def isEncoded (set : EncodeSet) (c : Char) : Bool :=
  c.toNat < 0x20 || 0x7F ≤ c.toNat || set.contains c

def encodeChar (set : EncodeSet) (c : Char) : List Char :=
  if isEncoded set c then (Text.Utf8.encodeChar c).flatMap encodeByte else [c]

def encode (set : EncodeSet) (text : List Char) : List Char := text.flatMap (encodeChar set)

def decodeBytes : List Nat → List Nat
  | 0x25 :: high :: low :: rest =>
    match hexValue? (Char.ofNat high), hexValue? (Char.ofNat low) with
    | some h, some l => (h * 16 + l) :: decodeBytes rest
    | _, _ => 0x25 :: decodeBytes (high :: low :: rest)
  | byte :: rest => byte :: decodeBytes rest
  | [] => []

/-- The text whose bytes are written; bytes that are no UTF-8 read as replacement characters. -/
def decode (text : List Char) : List Char :=
  Text.Utf8.decode (decodeBytes (Text.Utf8.encode text))

theorem hexValue?_hexDigit (n : Nat) (small : n < 16) : hexValue? (hexDigit n) = some n := by
  have all : ∀ m ∈ List.range 16, hexValue? (hexDigit m) = some m := by decide
  exact all n (List.mem_range.mpr small)

theorem encode_append (set : EncodeSet) (a b : List Char) :
    encode set (a ++ b) = encode set a ++ encode set b := List.flatMap_append

end LuauWorkspace.Uri.Percent
