import LuauWorkspace.Text.Split

/-!
# Labels beyond ASCII

A label of a domain that is not ASCII is written in ASCII letters and digits: first the ASCII
characters it has, then, code point by code point in ascending order, how far the next place to
insert one lies from the last. Distances are numbers with a varying base that adapts to the
distances before, so that neighbouring code points stay short.
-/
namespace LuauWorkspace.Uri.Punycode

def digit (n : Nat) : Char := Char.ofNat (if n < 26 then 97 + n else 22 + n)

/-- The least value of a digit that does not end a number. -/
def threshold (place bias : Nat) : Nat :=
  if place ≤ bias then 1 else if bias + 26 ≤ place then 26 else place - bias

theorem threshold_pos (place bias : Nat) : 0 < threshold place bias := by
  simp only [threshold]
  split
  · exact Nat.one_pos
  · split <;> omega

/-- The digits of a distance, the lowest first. -/
def distance (bias place n : Nat) : List Char :=
  if n < threshold place bias then [digit n]
  else
    let above := n - threshold place bias
    let base := 36 - threshold place bias
    digit (threshold place bias + above % base) :: distance bias (place + 36) (above / base)
termination_by n
decreasing_by
  have positive := threshold_pos place bias
  have smaller := Nat.div_le_self (n - threshold place bias) (36 - threshold place bias)
  omega

def scaled (delta place : Nat) : Nat :=
  if 455 < delta then scaled (delta / 35) (place + 36) else place + 36 * delta / (delta + 38)
termination_by delta
decreasing_by omega

/-- The bias after a distance, given the number of characters that are in place. -/
def adapted (delta placed : Nat) (first : Bool) : Nat :=
  let halved := if first then delta / 700 else delta / 2
  scaled (halved + halved / placed) 0

structure State where
  /-- The next code point that may be inserted. -/
  next : Nat := 128
  delta : Nat := 0
  bias : Nat := 72
  placed : Nat
  /-- What is written, in reverse. -/
  written : List Char

/-- Passes one character of the label while a code point is inserted. -/
def pass (basic code : Nat) (state : State) (c : Char) : State :=
  if c.toNat < code then { state with delta := state.delta + 1 }
  else if c.toNat = code then
    { state with
      written := (distance state.bias 36 state.delta).reverse ++ state.written
      bias := adapted state.delta (state.placed + 1) (state.placed = basic)
      placed := state.placed + 1
      delta := 0 }
  else state

def insert (label : List Char) (basic : Nat) (state : State) (code : Nat) : State :=
  let ahead := state.delta + (code - state.next) * (state.placed + 1)
  let after := label.foldl (pass basic code) { state with delta := ahead }
  { after with next := code + 1, delta := after.delta + 1 }

/-- The code points beyond ASCII, ascending and each once. -/
def codePoints (label : List Char) : List Nat :=
  ((label.map Char.toNat).filter (128 ≤ ·)).eraseDups.mergeSort (· ≤ ·)

def encode (label : List Char) : List Char :=
  let basic := label.filter fun c => c.toNat < 128
  let start := if basic = [] then [] else '-' :: basic.reverse
  let final := (codePoints label).foldl (insert label basic.length)
    { placed := basic.length, written := start }
  final.written.reverse

/-- What marks a label that is written in this way. -/
def mark : List Char := ['x', 'n', '-', '-']

def isAscii (text : List Char) : Bool := text.all fun c => c.toNat < 128

/-- A label that is ASCII stands as it is. -/
def label (text : List Char) : List Char :=
  if isAscii text then text else mark ++ encode text

/-! ## Reading -/

def digitValue? (c : Char) : Option Nat :=
  if 'a' ≤ c ∧ c ≤ 'z' then some (c.toNat - 97)
  else if 'A' ≤ c ∧ c ≤ 'Z' then some (c.toNat - 65)
  else if c.isDigit then some (c.toNat - 22)
  else none

/-- A distance of 32 bits and the text behind it. -/
def readDistance? (bias place weight total : Nat) : List Char → Option (Nat × List Char)
  | [] => none
  | c :: rest => do
    let value ← digitValue? c
    let sum := total + value * weight
    if Nat.pow 2 32 ≤ sum then none
    if value < threshold place bias then return (sum, rest)
    let next := weight * (36 - threshold place bias)
    if Nat.pow 2 32 ≤ next then none
    readDistance? bias (place + 36) next sum rest

theorem readDistance?_shorter {bias place weight total n : Nat} {text rest : List Char}
    (found : readDistance? bias place weight total text = some (n, rest)) :
    rest.length < text.length := by
  induction text generalizing place weight total with
  | nil => simp [readDistance?] at found
  | cons c text ih =>
    simp only [readDistance?, Option.bind_eq_bind, Option.bind_eq_some_iff] at found
    obtain ⟨value, -, found⟩ := found
    split at found
    · simp at found
    split at found
    · simp only [Option.pure_def, Option.some.injEq, Prod.mk.injEq] at found
      simp [← found.2]
    split at found
    · simp at found
    exact Nat.lt_succ_of_lt (ih (by simpa using found))

/-- Inserts code points as long as the text goes on. `place` is where the last one was inserted,
plus one, and `code` is its value. -/
def insertAll? (bias code place : Nat) (placed : List Char) (text : List Char) :
    Option (List Char) :=
  match text with
  | [] => some placed
  | c :: more =>
    match _found : readDistance? bias 36 1 place (c :: more) with
    | none => none
    | some (sum, rest) =>
      let size := placed.length + 1
      let next := code + sum / size
      if next.isValidChar then
        insertAll? (adapted (sum - place) size (place = 0)) next (sum % size + 1)
          (placed.insertIdx (sum % size) (Char.ofNat next)) rest
      else none
termination_by text.length
decreasing_by exact readDistance?_shorter (by assumption)

/-- The ASCII characters in front of the last hyphen, and the text behind it. -/
def splitBasic (text : List Char) : List Char × List Char :=
  match (Text.split '-' text).reverse with
  | last :: basic :: more => (Text.join '-' (basic :: more).reverse, last)
  | _ => ([], text)

def decode? (text : List Char) : Option (List Char) :=
  match splitBasic text with
  | ([], _) => insertAll? 72 128 0 [] text
  | (basic, rest) => insertAll? 72 128 0 basic rest

end LuauWorkspace.Uri.Punycode
