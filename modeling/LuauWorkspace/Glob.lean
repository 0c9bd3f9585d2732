/-!
# File globs

A glob is matched against a whole path. `?` stands for any character and `*` for any text, the
slash included; `[abc]`, `[a-z]` and `[!abc]` stand for one character of a set or outside of it;
`**` has to be a whole component and stands for any number of components. A text that is no glob
has no pattern.
-/
namespace LuauWorkspace.Glob

/-- The characters from `first` to `last`, both included. -/
structure Span where
  first : Char
  last : Char
deriving DecidableEq, Repr

namespace Span

def contains (span : Span) (c : Char) : Bool := span.first ≤ c && c ≤ span.last

/-- Reads the inside of brackets; a hyphen at an end stands for itself. -/
def ofChars : List Char → List Span
  | first :: '-' :: last :: rest => ⟨first, last⟩ :: ofChars rest
  | c :: rest => ⟨c, c⟩ :: ofChars rest
  | [] => []

end Span

inductive Token where
  | char (c : Char)
  | anyChar
  | anyText
  | anyComponents
  | inside (spans : List Span)
  | outside (spans : List Span)
deriving DecidableEq, Repr

abbrev Pattern := List Token

/-- The spans inside brackets and the text behind them. The first character inside never closes
the brackets. -/
def brackets? (text : List Char) : Option (List Span × List Char) :=
  match text with
  | [] => none
  | first :: rest =>
    match rest.dropWhile (· ≠ ']') with
    | [] => none
    | _ :: after => some (Span.ofChars (first :: rest.takeWhile (· ≠ ']')), after)

theorem brackets?_shorter {text after : List Char} {spans : List Span}
    (found : brackets? text = some (spans, after)) : after.length < text.length := by
  simp only [brackets?] at found
  split at found
  · simp at found
  · split at found
    · simp at found
    next _ _ rest _ mark more tail =>
      simp only [Option.some.injEq, Prod.mk.injEq] at found
      have bound := (List.dropWhile_sublist (l := rest) (· ≠ ']')).length_le
      rw [tail] at bound
      simp only [← found.2, List.length_cons] at bound ⊢
      omega

/-- `atComponent` tells whether a component starts here. -/
def parse? (atComponent : Bool) (text : List Char) : Option Pattern :=
  match text with
  | [] => some []
  | '?' :: rest => (parse? false rest).map (.anyChar :: ·)
  | '*' :: '*' :: '/' :: rest =>
    if atComponent then (parse? true rest).map (.anyComponents :: ·) else none
  | ['*', '*'] => if atComponent then some [.anyComponents] else none
  | '*' :: '*' :: _ => none
  | '*' :: rest => (parse? false rest).map (.anyText :: ·)
  | '[' :: '!' :: rest =>
    match _found : brackets? rest with
    | some (spans, after) => (parse? false after).map (.outside spans :: ·)
    | none => none
  | '[' :: rest =>
    match _found : brackets? rest with
    | some (spans, after) => (parse? false after).map (.inside spans :: ·)
    | none => none
  | c :: rest => (parse? (c = '/') rest).map (.char c :: ·)
termination_by text.length
decreasing_by
  all_goals try have shorter := brackets?_shorter (by assumption)
  all_goals simp only [List.length_cons]
  all_goals omega

def ofString? (text : String) : Option Pattern := parse? true text.toList

/-- The text from each of its characters on, and the empty text. -/
def suffixes : List Char → List (List Char)
  | [] => [[]]
  | c :: rest => (c :: rest) :: suffixes rest

/-- The text behind each slash. -/
def behindSlashes : List Char → List (List Char)
  | [] => []
  | c :: rest => if c = '/' then rest :: behindSlashes rest else behindSlashes rest

/-- Whether a token that stands for one character stands for this one. -/
def Token.covers (token : Token) (c : Char) : Bool :=
  match token with
  | .char d => d == c
  | .anyChar => true
  | .inside spans => spans.any (·.contains c)
  | .outside spans => !spans.any (·.contains c)
  | .anyText | .anyComponents => false

/-- Whether a pattern matches a whole text, by trying every way to share out the text. -/
def accepts : Pattern → List Char → Bool
  | [], text => text.isEmpty
  | .anyText :: tokens, text => (suffixes text).any fun rest => accepts tokens rest
  | .anyComponents :: tokens, text =>
    (text :: behindSlashes text ++ [[]]).any fun rest => accepts tokens rest
  | _ :: _, [] => false
  | token :: tokens, c :: rest => token.covers c && accepts tokens rest

/-! ## Deciding without trying every way

A row holds, for each suffix of the text from the longest on, whether a pattern accepts it. The
row of a pattern comes from the row of its tail in one pass over the text. -/

def emptyRow : List Char → List Bool
  | [] => [true]
  | _ :: text => false :: emptyRow text

def coverRow (token : Token) : List Char → List Bool → List Bool
  | c :: text, _ :: tail => (token.covers c && tail.headD false) :: coverRow token text tail
  | _, _ => [false]

/-- Whether this entry holds or a later one. -/
def laterRow : List Bool → List Bool
  | [] => []
  | entry :: rest =>
    let later := laterRow rest
    (entry || later.headD false) :: later

/-- Whether an entry behind a later slash holds, or the last one. -/
def slashRow : List Char → List Bool → List Bool
  | c :: text, _ :: tail =>
    let later := slashRow text tail
    ((c == '/' && tail.headD false) || later.headD false) :: later
  | _, row => row

def row (text : List Char) : Pattern → List Bool
  | [] => emptyRow text
  | .anyText :: tokens => laterRow (row text tokens)
  | .anyComponents :: tokens =>
    let tail := row text tokens
    List.zipWith (· || ·) tail (slashRow text tail)
  | token :: tokens => coverRow token text (row text tokens)

def isMatch (pattern : Pattern) (text : List Char) : Bool := (row text pattern).headD false

theorem mem_suffixes_iff (text rest : List Char) : rest ∈ suffixes text ↔ rest <:+ text := by
  induction text with
  | nil => simp [suffixes]
  | cons c text ih => simp [suffixes, ih, List.suffix_cons_iff]

theorem accepts_anyText_iff (tokens : Pattern) (text : List Char) :
    accepts (.anyText :: tokens) text = true ↔
      ∃ rest, rest <:+ text ∧ accepts tokens rest = true := by
  simp [accepts, mem_suffixes_iff]

theorem headD_map_suffixes (holds : List Char → Bool) (text : List Char) :
    ((suffixes text).map holds).headD false = holds text := by
  cases text <;> simp [suffixes]

theorem emptyRow_eq (text : List Char) : emptyRow text = (suffixes text).map List.isEmpty := by
  induction text with
  | nil => rfl
  | cons c text ih => simp [emptyRow, suffixes, ih]

theorem coverRow_eq (token : Token) (holds whole : List Char → Bool) (text : List Char)
    (atEnd : whole [] = false)
    (step : ∀ c rest, whole (c :: rest) = (token.covers c && holds rest)) :
    coverRow token text ((suffixes text).map holds) = (suffixes text).map whole := by
  induction text with
  | nil => simp [suffixes, coverRow, atEnd]
  | cons c text ih =>
    simp only [suffixes, List.map_cons, coverRow, ih, step]
    rw [headD_map_suffixes]

theorem laterRow_eq (holds : List Char → Bool) (text : List Char) :
    laterRow ((suffixes text).map holds) =
      (suffixes text).map fun start => (suffixes start).any holds := by
  induction text with
  | nil => simp [suffixes, laterRow]
  | cons c text ih =>
    simp only [suffixes, List.map_cons, laterRow, ih, List.any_cons]
    rw [headD_map_suffixes]

theorem slashRow_eq (holds : List Char → Bool) (text : List Char) :
    slashRow text ((suffixes text).map holds) =
      (suffixes text).map fun start => (behindSlashes start ++ [[]]).any holds := by
  induction text with
  | nil => simp [suffixes, slashRow, behindSlashes]
  | cons c text ih =>
    simp only [suffixes, List.map_cons, slashRow, ih, behindSlashes]
    rw [headD_map_suffixes, headD_map_suffixes]
    by_cases slash : c = '/' <;> simp [slash]

theorem row_eq (text : List Char) (pattern : Pattern) :
    row text pattern = (suffixes text).map (accepts pattern) := by
  induction pattern with
  | nil => simp only [row, emptyRow_eq]; congr 1
  | cons token tokens ih =>
    cases token
    case anyText => simp only [row, ih, laterRow_eq]; congr 1
    case anyComponents =>
      simp only [row, ih, slashRow_eq, List.zipWith_map, List.zipWith_self]
      congr 1
    all_goals
      simp only [row, ih]
      exact coverRow_eq _ _ _ _ (by simp [accepts]) (by simp [accepts])

theorem isMatch_eq_accepts (pattern : Pattern) (text : List Char) :
    isMatch pattern text = accepts pattern text := by
  rw [isMatch, row_eq, headD_map_suffixes]

end LuauWorkspace.Glob
