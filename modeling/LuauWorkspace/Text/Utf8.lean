/-!
# UTF-8 bytes of a text

Bytes are numbers below 256. Decoding never fails: each longest start of a well-formed
sequence that is then broken off counts as one replacement character.
-/
namespace LuauWorkspace.Text.Utf8

def encodeChar (c : Char) : List Nat :=
  let n := c.toNat
  if n < 0x80 then [n]
  else if n < 0x800 then [0xC0 + n / 64, 0x80 + n % 64]
  else if n < 0x10000 then [0xE0 + n / 4096, 0x80 + n / 64 % 64, 0x80 + n % 64]
  else [0xF0 + n / 262144, 0x80 + n / 4096 % 64, 0x80 + n / 64 % 64, 0x80 + n % 64]

def encode (text : List Char) : List Nat := text.flatMap encodeChar

/-- Number of bytes of the encoded text. -/
def size (text : List Char) : Nat := (encode text).length

def replacement : Char := Char.ofNat 0xFFFD

def isContinuation (byte : Nat) : Bool := 0x80 ≤ byte && byte < 0xC0

/-- The second bytes that may follow a first byte of a sequence of three: no overlong forms
and no surrogates. -/
def isSecondOfThree (first second : Nat) : Bool :=
  if first = 0xE0 then 0xA0 ≤ second && second < 0xC0
  else if first = 0xED then 0x80 ≤ second && second < 0xA0
  else isContinuation second

/-- The second bytes that may follow a first byte of a sequence of four: no overlong forms
and nothing above the last code point. -/
def isSecondOfFour (first second : Nat) : Bool :=
  if first = 0xF0 then 0x90 ≤ second && second < 0xC0
  else if first = 0xF4 then 0x80 ≤ second && second < 0x90
  else isContinuation second

/-- The first character and the number of bytes it takes up. -/
def decodeFirst (first : Nat) (rest : List Nat) : Char × Nat :=
  if first < 0x80 then (Char.ofNat first, 1)
  else if 0xC2 ≤ first ∧ first < 0xE0 then
    match rest with
    | b :: _ =>
      if isContinuation b then (Char.ofNat ((first - 0xC0) * 64 + (b - 0x80)), 2)
      else (replacement, 1)
    | [] => (replacement, 1)
  else if 0xE0 ≤ first ∧ first < 0xF0 then
    match rest with
    | b :: more =>
      if isSecondOfThree first b then
        match more with
        | c :: _ =>
          if isContinuation c then
            (Char.ofNat ((first - 0xE0) * 4096 + (b - 0x80) * 64 + (c - 0x80)), 3)
          else (replacement, 2)
        | [] => (replacement, 2)
      else (replacement, 1)
    | [] => (replacement, 1)
  else if 0xF0 ≤ first ∧ first < 0xF5 then
    match rest with
    | b :: more =>
      if isSecondOfFour first b then
        match more with
        | c :: last =>
          if isContinuation c then
            match last with
            | d :: _ =>
              if isContinuation d then
                (Char.ofNat ((first - 0xF0) * 262144 + (b - 0x80) * 4096 + (c - 0x80) * 64
                  + (d - 0x80)), 4)
              else (replacement, 3)
            | [] => (replacement, 3)
          else (replacement, 2)
        | [] => (replacement, 2)
      else (replacement, 1)
    | [] => (replacement, 1)
  else (replacement, 1)

def decode : List Nat → List Char
  | [] => []
  | first :: rest =>
    let (c, width) := decodeFirst first rest
    c :: decode (rest.drop (width - 1))
termination_by bytes => bytes.length
decreasing_by simp only [List.length_drop, List.length_cons]; omega

end LuauWorkspace.Text.Utf8
