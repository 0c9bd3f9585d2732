import LuauWorkspace.Source.Location

/-!
# Lines and positions of a text

A line ends at a line feed, a carriage return, both in that order, or one of the Unicode line
ends; the break belongs to the line it ends. A position counts lines and, inside a line, UTF-16
code units. Positions behind the end of a line stop in front of its line feed or carriage
return, positions behind the text stop at its end, and a position inside a surrogate pair
stands in front of the pair.
-/
namespace LuauWorkspace.Text

def isLineEnd (c : Char) : Bool :=
  c == '\n' || c == '\x0b' || c == '\x0c' || c == '\r' || c == '\u0085' || c == '\u2028'
    || c == '\u2029'

/-- The lines of a text, breaks included. The last one has no break and may be empty. -/
def lines : List Char → List (List Char)
  | [] => [[]]
  | '\r' :: '\n' :: rest => ['\r', '\n'] :: lines rest
  | c :: rest =>
    if isLineEnd c then [c] :: lines rest
    else
      match lines rest with
      | [] => [[c]]
      | line :: more => (c :: line) :: more

theorem lines_ne_nil (text : List Char) : lines text ≠ [] := by
  fun_induction lines text <;> simp_all

theorem lines_flatten (text : List Char) : (lines text).flatten = text := by
  fun_induction lines text <;> simp_all

def lineCount (text : List Char) : Nat := (lines text).length

/-- The part of a line that a position can point into. -/
def visible (line : List Char) : List Char :=
  (line.reverse.dropWhile fun c => c == '\n' || c == '\r').reverse

/-- UTF-16 code units of a character. -/
def units (c : Char) : Nat := if c.toNat < 0x10000 then 1 else 2

/-- How many whole characters fit in front of a unit offset. -/
def charsBefore : List Char → Nat → Nat
  | [], _ => 0
  | c :: rest, count => if units c ≤ count then charsBefore rest (count - units c) + 1 else 0

/-- Index of the character that a position points at. -/
def offset (text : List Char) (position : Position) : Nat :=
  match (lines text).drop position.line with
  | [] => text.length
  | line :: _ =>
    ((lines text).take position.line).flatten.length + charsBefore (visible line) position.column

/-- Replaces the characters between two offsets; a stop before the start removes nothing. -/
def splice (text : List Char) (start stop : Nat) (inserted : List Char) : List Char :=
  text.take start ++ inserted ++ text.drop (max start stop)

theorem charsBefore_le (line : List Char) (count : Nat) : charsBefore line count ≤ line.length := by
  fun_induction charsBefore line count <;> simp_all

theorem visible_length_le (line : List Char) : (visible line).length ≤ line.length := by
  simpa [visible] using (List.dropWhile_sublist (l := line.reverse) _).length_le

theorem offset_le (text : List Char) (position : Position) :
    offset text position ≤ text.length := by
  simp only [offset]
  split
  · exact Nat.le_refl _
  next line more found =>
    have whole : ((lines text).take position.line).flatten ++ (line :: more).flatten = text := by
      rw [← found, ← List.flatten_append, List.take_append_drop, lines_flatten]
    have count := congrArg List.length whole
    have inside := charsBefore_le (visible line) position.column
    have shown := visible_length_le line
    simp only [List.length_append, List.flatten_cons] at count
    omega

end LuauWorkspace.Text
