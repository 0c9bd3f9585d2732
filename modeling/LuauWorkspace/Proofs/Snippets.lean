import LuauWorkspace.Query.Completion
import Mathlib.Data.List.Infix

/-!
# Reading snippets

In a snippet a dollar begins stops, placeholders, choices and variables, and a backslash takes the
meaning from a special character behind it. Everything else is text. What is read of the snippet of
a completion is the name and the parentheses with the stops, unless something in the name is not text.
-/
namespace LuauWorkspace.Query

namespace Snippet

/-- What a snippet says, piece by piece. -/
inductive Piece where
  | char (c : Char)
  | stop (number : Nat)
  /-- A placeholder, a choice or a variable, as it is written. -/
  | filled (written : List Char)
deriving DecidableEq

/-! ## The grammar -/

/-- What a backslash takes the meaning from. -/
def isSpecial (c : Char) : Bool := c = '$' || c = '}' || c = '\\'

def isNameChar (c : Char) : Bool := c.isAlphanum || c = '_'

structure IsNumber (written : List Char) : Prop where
  nonempty : written ≠ []
  digits : ∀ c ∈ written, c.isDigit = true

structure IsName (written : List Char) : Prop where
  nonempty : written ≠ []
  chars : ∀ c ∈ written, isNameChar c = true
  letter : ∀ c ∈ written.head?, c.isDigit = false

def braced (inner : List Char) : List Char := '$' :: '{' :: (inner ++ ['}'])

/-- Text without the characters that end it, unless they stand behind a backslash. -/
inductive Guarded (ends : List Char) : List Char → Prop
  | nil : Guarded ends []
  | escaped {c : Char} {rest : List Char} (taken : c ∈ ends ∨ isSpecial c = true)
    (more : Guarded ends rest) : Guarded ends ('\\' :: c :: rest)
  | char {c : Char} {rest : List Char} (other : c ∉ ends)
    (alone : c = '\\' → ∀ next ∈ rest.head?, next ∉ ends ∧ isSpecial next = false)
    (more : Guarded ends rest) : Guarded ends (c :: rest)

/-- Options of a choice. -/
inductive Options : List Char → Prop
  | last {text : List Char} (guarded : Guarded [',', '|'] text) : Options text
  | more {text rest : List Char} (guarded : Guarded [',', '|'] text) (more : Options rest) :
    Options (text ++ ',' :: rest)

/-- What stands for a group of a match. -/
inductive Format : List Char → Prop
  | group {number : List Char} (digits : IsNumber number) : Format ('$' :: number)
  | bracedGroup {number : List Char} (digits : IsNumber number) : Format (braced number)
  | changed {number : List Char} {change : String} (digits : IsNumber number)
    (known : change ∈ ["upcase", "downcase", "capitalize"]) :
    Format (braced (number ++ ':' :: '/' :: change.toList))
  | present {number text : List Char} (digits : IsNumber number) (guarded : Guarded ['}'] text) :
    Format (braced (number ++ ':' :: '+' :: text))
  | either {number text other : List Char} (digits : IsNumber number)
    (first : Guarded [':', '}'] text) (second : Guarded ['}'] other) :
    Format (braced (number ++ ':' :: '?' :: (text ++ ':' :: other)))
  | absent {number text : List Char} (digits : IsNumber number) (guarded : Guarded ['}'] text) :
    Format (braced (number ++ ':' :: text))
  | absentDash {number text : List Char} (digits : IsNumber number) (guarded : Guarded ['}'] text) :
    Format (braced (number ++ ':' :: '-' :: text))

inductive Replacement : List Char → Prop
  | nil : Replacement []
  | format {written rest : List Char} (format : Format written) (more : Replacement rest) :
    Replacement (written ++ rest)
  | text {written rest : List Char} (guarded : Guarded ['/'] written) (more : Replacement rest) :
    Replacement (written ++ rest)

mutual

/-- What begins with a dollar and is not text. -/
inductive Construct : List Char → Piece → Prop
  | stop {number : List Char} (digits : IsNumber number) :
    Construct ('$' :: number) (.stop (Nat.ofDigitChars 10 number 0))
  | bracedStop {number : List Char} (digits : IsNumber number) :
    Construct (braced number) (.stop (Nat.ofDigitChars 10 number 0))
  | named {name : List Char} (isName : IsName name) :
    Construct ('$' :: name) (.filled ('$' :: name))
  | filled {inner : List Char} (filling : Filling inner) :
    Construct (braced inner) (.filled (braced inner))

/-- What stands between the braces of a placeholder, a choice or a variable. -/
inductive Filling : List Char → Prop
  | placeholder {number content : List Char} (digits : IsNumber number) (held : Content content) :
    Filling (number ++ ':' :: content)
  | choice {number options : List Char} (digits : IsNumber number) (listed : Options options) :
    Filling (number ++ '|' :: (options ++ ['|']))
  | named {name : List Char} (isName : IsName name) : Filling name
  | default {name content : List Char} (isName : IsName name) (held : Content content) :
    Filling (name ++ ':' :: content)
  | transform {name regex replacement flags : List Char} (isName : IsName name)
    (matched : Guarded ['/'] regex) (replaced : Replacement replacement)
    (letters : ∀ c ∈ flags, c.isAlpha = true) :
    Filling (name ++ '/' :: (regex ++ '/' :: (replacement ++ '/' :: flags)))

/-- What a placeholder or a variable holds, up to the brace that closes it. -/
inductive Content : List Char → Prop
  | nil : Content []
  | escaped {c : Char} {rest : List Char} (special : isSpecial c = true) (more : Content rest) :
    Content ('\\' :: c :: rest)
  | nested {written rest : List Char} {piece : Piece} (construct : Construct written piece)
    (more : Content rest) : Content (written ++ rest)
  | char {c : Char} {rest : List Char} (inside : c ≠ '}')
    (alone : c = '\\' → ∀ next ∈ rest.head?, isSpecial next = false) (more : Content rest) :
    Content (c :: rest)

end

/-- Something begins here that is not text. -/
inductive Marked : List Char → Prop
  | escape {c : Char} {rest : List Char} (special : isSpecial c = true) : Marked ('\\' :: c :: rest)
  | construct {written rest : List Char} {piece : Piece} (construct : Construct written piece) :
    Marked (written ++ rest)

/-- Nothing but text. -/
def Plain (text : List Char) : Prop := ∀ rest, rest <:+ text → ¬ Marked rest

/-- Reading a snippet from its beginning, where a longer construct goes before a shorter one. -/
inductive Reads : List Char → List Piece → Prop
  | nil : Reads [] []
  | escape {c : Char} {rest : List Char} {pieces : List Piece} (special : isSpecial c = true)
    (more : Reads rest pieces) : Reads ('\\' :: c :: rest) (.char c :: pieces)
  | construct {written rest : List Char} {piece : Piece} {pieces : List Piece}
    (construct : Construct written piece)
    (longest : ∀ other also, Construct other also → other <+: written ++ rest →
      other.length ≤ written.length)
    (more : Reads rest pieces) : Reads (written ++ rest) (piece :: pieces)
  | text {c : Char} {rest : List Char} {pieces : List Piece} (plain : ¬ Marked (c :: rest))
    (more : Reads rest pieces) : Reads (c :: rest) (.char c :: pieces)

/-! ## Where constructs end -/

/-- A dollar with a number or a name behind it, or what a brace closes. -/
inductive Shape : List Char → Prop
  | word {body : List Char} (nonempty : body ≠ []) (chars : ∀ c ∈ body, isNameChar c = true) :
    Shape ('$' :: body)
  | braced (inner : List Char) : Shape (braced inner)

theorem IsNumber.isNameChar {written : List Char} (number : IsNumber written) :
    ∀ c ∈ written, isNameChar c = true := by
  intro c member
  simp [Snippet.isNameChar, Char.isAlphanum, number.digits c member]

theorem Construct.shape {written : List Char} {piece : Piece}
    (construct : Construct written piece) : Shape written := by
  cases construct with
  | stop digits => exact .word digits.nonempty digits.isNameChar
  | bracedStop => exact .braced _
  | named isName => exact .word isName.nonempty isName.chars
  | filled => exact .braced _

/-- What can stand behind a name so that nothing runs from the name into it. -/
structure Apart (tail : List Char) : Prop where
  begins : ∀ c ∈ tail.head?, isNameChar c = false ∧ isSpecial c = false
  unclosed : '}' ∉ tail

/-- A construct goes on with its name or number, or to a brace. -/
theorem Shape.goes_on {before beyond : List Char} (shape : Shape (before ++ beyond))
    (begun : before ≠ []) (more : beyond ≠ []) :
    (∃ c rest, beyond = c :: rest ∧ isNameChar c = true) ∨ '}' ∈ beyond := by
  generalize whole : before ++ beyond = written at shape
  cases shape with
  | word nonempty chars =>
    obtain ⟨first, before, rfl⟩ := List.exists_cons_of_ne_nil begun
    obtain ⟨c, beyond, rfl⟩ := List.exists_cons_of_ne_nil more
    obtain ⟨-, rfl⟩ := List.cons.inj whole
    exact .inl ⟨c, beyond, rfl, chars c (by simp)⟩
  | braced inner =>
    -- The brace comes last, so whatever is left ends with it.
    have last := congrArg List.getLast? whole
    rw [List.getLast?_append_of_ne_nil _ more] at last
    rw [Snippet.braced, ← List.cons_append, ← List.cons_append, List.getLast?_concat] at last
    exact .inr (List.mem_of_getLast? last)

/-- What begins in front of such a tail ends in front of it. -/
theorem Shape.prefix_of_append {written text tail : List Char} (shape : Shape written)
    (apart : Apart tail) (nonempty : text ≠ []) (begins : written <+: text ++ tail) :
    written <+: text := by
  refine List.prefix_of_prefix_length_le begins (List.prefix_append ..) (Nat.le_of_not_lt ?_)
  intro longer
  obtain ⟨beyond, rfl⟩ :=
    List.prefix_of_prefix_length_le (List.prefix_append ..) begins (Nat.le_of_lt longer)
  have into : beyond <+: tail := (List.prefix_append_right_inj text).mp begins
  have more : beyond ≠ [] := by
    rintro rfl
    simp at longer
  rcases shape.goes_on nonempty more with ⟨c, rest, rfl, named⟩ | closed
  · obtain ⟨tail, rfl⟩ := into
    rw [(apart.begins c rfl).1] at named
    cases named
  · exact apart.unclosed (into.subset closed)

theorem marked_append_iff {text tail : List Char} (apart : Apart tail) (nonempty : text ≠ []) :
    Marked (text ++ tail) ↔ Marked text := by
  constructor
  · intro marked
    generalize whole : text ++ tail = all at marked
    cases marked with
    | escape special =>
      obtain ⟨first, rest, rfl⟩ := List.exists_cons_of_ne_nil nonempty
      obtain ⟨same, behind⟩ := List.cons.inj whole
      subst same
      cases rest with
      | nil =>
        -- A backslash at the end does not escape what follows.
        obtain rfl : tail = _ :: _ := behind
        rw [(apart.begins _ rfl).2] at special
        cases special
      | cons next rest =>
        obtain ⟨rfl, -⟩ := List.cons.inj behind
        exact .escape special
    | construct construct =>
      obtain ⟨rest, rfl⟩ := construct.shape.prefix_of_append apart nonempty ⟨_, whole.symm⟩
      exact .construct construct
  · intro marked
    cases marked with
    | escape special => exact .escape special
    | construct construct =>
      rw [List.append_assoc]
      exact .construct construct

/-- A dollar needs a name, a number or a brace behind it, and a backslash a special character. -/
theorem not_marked_cons {c : Char} {rest : List Char}
    (dollar : c = '$' → ∀ next ∈ rest.head?, isNameChar next = false ∧ next ≠ '{')
    (backslash : c = '\\' → ∀ next ∈ rest.head?, isSpecial next = false) :
    ¬ Marked (c :: rest) := by
  intro marked
  generalize whole : c :: rest = all at marked
  cases marked with
  | escape special =>
    obtain ⟨rfl, rfl⟩ := List.cons.inj whole
    rw [backslash rfl _ rfl] at special
    cases special
  | construct construct =>
    cases construct.shape with
    | word nonempty chars =>
      obtain ⟨next, body, rfl⟩ := List.exists_cons_of_ne_nil nonempty
      obtain ⟨rfl, rfl⟩ := List.cons.inj whole
      have named := chars next List.mem_cons_self
      rw [(dollar rfl next rfl).1] at named
      cases named
    | braced inner =>
      obtain ⟨rfl, rfl⟩ := List.cons.inj whole
      exact (dollar rfl '{' rfl).2 rfl

theorem plain_nil : Plain [] := by
  intro rest tail marked
  obtain rfl := List.suffix_nil.mp tail
  generalize whole : [] = all at marked
  cases marked with
  | escape => cases whole
  | construct construct =>
    cases construct.shape <;> cases whole

theorem plain_cons_iff {c : Char} {text : List Char} :
    Plain (c :: text) ↔ ¬ Marked (c :: text) ∧ Plain text := by
  constructor
  · exact fun plain => ⟨plain _ (List.suffix_refl _),
      fun rest tail => plain rest (tail.trans (List.suffix_cons ..))⟩
  · rintro ⟨first, later⟩ rest tail
    rcases List.suffix_cons_iff.mp tail with rfl | further
    · exact first
    · exact later rest further

/-- Every dollar and every backslash stands alone. -/
def harmless : List Char → Bool
  | c :: next :: rest =>
    (c ≠ '$' || !isNameChar next && next ≠ '{') && (c ≠ '\\' || !isSpecial next) &&
      harmless (next :: rest)
  | _ => true

theorem plain_of_harmless {text : List Char} (alone : harmless text = true) : Plain text := by
  induction text using harmless.induct with
  | case1 c next rest ih =>
    simp only [harmless, Bool.and_eq_true, Bool.or_eq_true, decide_eq_true_eq, Bool.not_eq_true']
      at alone
    obtain ⟨⟨dollar, backslash⟩, later⟩ := alone
    refine plain_cons_iff.mpr ⟨not_marked_cons ?_ ?_, ih later⟩
    · rintro same other ⟨⟩
      exact dollar.resolve_left (not_not.mpr same)
    · rintro same other ⟨⟩
      exact backslash.resolve_left (not_not.mpr same)
  | case2 text few =>
    cases text with
    | nil => exact plain_nil
    | cons c rest =>
      cases rest with
      | nil => exact plain_cons_iff.mpr ⟨not_marked_cons (by simp) (by simp), plain_nil⟩
      | cons next rest => exact absurd rfl (few c next rest)

/-! ## Readings -/

theorem reads_nil_iff {pieces : List Piece} : Reads [] pieces ↔ pieces = [] := by
  constructor
  · intro reads
    generalize whole : [] = text at reads
    cases reads with
    | nil => rfl
    | escape | text => cases whole
    | construct construct => cases construct.shape <;> cases whole
  · rintro rfl
    exact .nil

theorem reads_text_iff {c : Char} {rest : List Char} {pieces : List Piece}
    (plain : ¬ Marked (c :: rest)) :
    Reads (c :: rest) pieces ↔ ∃ more, pieces = .char c :: more ∧ Reads rest more := by
  constructor
  · intro reads
    generalize whole : c :: rest = text at reads
    cases reads with
    | nil => cases whole
    | escape special => exact absurd (.escape special) (whole ▸ plain)
    | construct construct => exact absurd (.construct construct) (whole ▸ plain)
    | text _ more =>
      obtain ⟨rfl, rfl⟩ := List.cons.inj whole
      exact ⟨_, rfl, more⟩
  · rintro ⟨more, rfl, reads⟩
    exact .text plain reads

/-- In front of something that is apart from it, a construct is the longest. -/
theorem longest_of_apart {written rest : List Char} (nonempty : written ≠ []) (apart : Apart rest) :
    ∀ other also, Construct other also → other <+: written ++ rest →
      other.length ≤ written.length :=
  fun _ _ construct begins => (construct.shape.prefix_of_append apart nonempty begins).length_le

theorem Construct.eq_stop {digit : Char} {piece : Piece} (isDigit : digit.isDigit = true)
    (construct : Construct ['$', digit] piece) : piece = .stop (Nat.ofDigitChars 10 [digit] 0) := by
  generalize whole : ['$', digit] = written at construct
  cases construct with
  | stop digits =>
    obtain ⟨-, rfl⟩ := List.cons.inj whole
    rfl
  | bracedStop | filled => simp [braced] at whole
  | named isName =>
    obtain ⟨-, rfl⟩ := List.cons.inj whole
    have letter := isName.letter digit rfl
    rw [isDigit] at letter
    cases letter

/-- In front of something that is apart from it, a stop is read as a stop. -/
theorem reads_stop_iff {digit : Char} {rest : List Char} {pieces : List Piece}
    (isDigit : digit.isDigit = true) (apart : Apart rest) :
    Reads ('$' :: digit :: rest) pieces ↔
      ∃ more, pieces = .stop (Nat.ofDigitChars 10 [digit] 0) :: more ∧ Reads rest more := by
  have stop : Construct ['$', digit] (.stop (Nat.ofDigitChars 10 [digit] 0)) :=
    .stop ⟨by simp, by simpa using isDigit⟩
  constructor
  · intro reads
    generalize whole : '$' :: digit :: rest = text at reads
    cases reads with
    | nil => cases whole
    | escape => cases whole
    | @construct written _ _ _ construct longest more =>
      have begins : written <+: ['$', digit] ++ rest := ⟨_, whole.symm⟩
      -- What is read is at least as long as the stop, and it cannot be longer.
      have short := construct.shape.prefix_of_append apart (by simp) begins
      obtain rfl := short.eq_of_length_le (longest _ _ stop ⟨rest, whole⟩)
      obtain rfl := List.append_cancel_left (show ['$', digit] ++ rest = _ from whole)
      exact ⟨_, by rw [construct.eq_stop isDigit], more⟩
    | text plain => exact absurd (.construct stop) (whole ▸ plain)
  · rintro ⟨more, rfl, reads⟩
    exact .construct stop (longest_of_apart (by simp) apart) reads

/-! ## The snippets of completions -/

/-- What goes behind the name. -/
def tail : Parentheses → List Char
  | .none => []
  | .cursorAfter => ['(', ')', '$', '0']
  | .cursorInside => ['(', '$', '1', ')', '$', '0']

/-- A stop between the parentheses if the cursor goes inside, and the last one behind them. -/
def stops : Parentheses → List Piece
  | .none => []
  | .cursorAfter => [.char '(', .char ')', .stop 0]
  | .cursorInside => [.char '(', .stop 1, .char ')', .stop 0]

def call (name : List Char) (parentheses : Parentheses) : List Piece :=
  name.map .char ++ stops parentheses

theorem apart_of_parenthesis {c : Char} {rest : List Char} (parenthesis : c = '(' ∨ c = ')')
    (unclosed : '}' ∉ rest) : Apart (c :: rest) where
  begins first head := by
    cases head
    rcases parenthesis with rfl | rfl <;> exact ⟨rfl, rfl⟩
  unclosed := by
    rcases parenthesis with rfl | rfl <;> simpa using unclosed

theorem apart_tail (parentheses : Parentheses) : Apart (tail parentheses) := by
  cases parentheses with
  | none => exact ⟨by simp [tail], List.not_mem_nil⟩
  | cursorAfter => exact apart_of_parenthesis (.inl rfl) (by decide)
  | cursorInside => exact apart_of_parenthesis (.inl rfl) (by decide)

theorem not_marked_parenthesis {c : Char} (parenthesis : c = '(' ∨ c = ')') (rest : List Char) :
    ¬ Marked (c :: rest) := by
  rcases parenthesis with rfl | rfl <;>
    exact not_marked_cons (fun same => nomatch same) (fun same => nomatch same)

theorem reads_tail_iff (parentheses : Parentheses) {pieces : List Piece} :
    Reads (tail parentheses) pieces ↔ pieces = stops parentheses := by
  have opening := not_marked_parenthesis (.inl rfl)
  have closing := not_marked_parenthesis (.inr rfl)
  have final : ∀ {pieces : List Piece}, Reads [')', '$', '0'] pieces ↔
      pieces = [.char ')', .stop 0] := by
    intro pieces
    have nothing : Apart [] := apart_tail .none
    rw [reads_text_iff (closing _)]
    simp [reads_stop_iff (rfl : '0'.isDigit = true) nothing, reads_nil_iff, Nat.ofDigitChars]
  cases parentheses with
  | none => exact reads_nil_iff
  | cursorAfter =>
    rw [tail, reads_text_iff (opening _)]
    simp [final, stops]
  | cursorInside =>
    have apart : Apart [')', '$', '0'] := apart_of_parenthesis (.inr rfl) (by decide)
    rw [tail, reads_text_iff (opening _)]
    simp [reads_stop_iff (rfl : '1'.isDigit = true) apart, final, stops, Nat.ofDigitChars]

theorem Plain.reads_iff {name : List Char} (plain : Plain name) (parentheses : Parentheses)
    {pieces : List Piece} :
    Reads (name ++ tail parentheses) pieces ↔ pieces = call name parentheses := by
  induction name generalizing pieces with
  | nil => exact reads_tail_iff parentheses
  | cons c name ih =>
    obtain ⟨first, later⟩ := plain_cons_iff.mp plain
    -- Nothing can begin in the name and end in the parentheses.
    have unmarked : ¬ Marked (c :: (name ++ tail parentheses)) :=
      fun marked => first ((marked_append_iff (apart_tail _) (List.cons_ne_nil c name)).mp marked)
    rw [List.cons_append, reads_text_iff unmarked]
    simp [ih later, call]

/-- At most as much as the pieces are written with. -/
def weight : List Piece → Nat
  | [] => 0
  | .char _ :: rest => weight rest + 1
  | .stop _ :: rest => weight rest + 2
  | .filled _ :: rest => weight rest

theorem Construct.weight_le {written : List Char} {piece : Piece}
    (construct : Construct written piece) (rest : List Piece) :
    weight (piece :: rest) ≤ weight rest + written.length := by
  cases construct with
  | stop digits =>
    have some_digit := List.length_pos_iff.mpr digits.nonempty
    simp only [weight, List.length_cons]
    omega
  | bracedStop => simp [weight, braced]
  | named | filled => exact Nat.le_add_right _ _

theorem Reads.weight_le {text : List Char} {pieces : List Piece} (reads : Reads text pieces) :
    weight pieces ≤ text.length := by
  induction reads with
  | nil => exact Nat.le_refl _
  | escape _ _ ih => exact Nat.le_succ_of_le (Nat.succ_le_succ ih)
  | @construct _ _ _ pieces construct _ _ ih =>
    have own := construct.weight_le pieces
    rw [List.length_append]
    omega
  | text _ _ ih => exact Nat.succ_le_succ ih

/-- A call is as heavy as what it is written with. -/
theorem weight_call (name : List Char) (parentheses : Parentheses) :
    weight (call name parentheses) = (name ++ tail parentheses).length := by
  induction name with
  | nil => cases parentheses <;> rfl
  | cons c name ih => exact congrArg (· + 1) ih

/-- Where the name is read as it stands, nothing in it is more than text. An escape would leave less
text behind it than there are pieces left. -/
theorem plain_of_reads {name : List Char} {parentheses : Parentheses}
    (reads : Reads (name ++ tail parentheses) (call name parentheses)) : Plain name := by
  induction name with
  | nil => exact plain_nil
  | cons c name ih =>
    generalize whole : c :: name ++ tail parentheses = text at reads
    generalize said : call (c :: name) parentheses = pieces at reads
    cases reads with
    | nil => cases whole
    | escape special more =>
      obtain ⟨-, rfl⟩ := List.cons.inj said
      obtain ⟨-, behind⟩ := List.cons.inj whole
      have room := more.weight_le
      change weight (call name parentheses) ≤ _ at room
      change name ++ tail parentheses = _ at behind
      rw [weight_call, behind] at room
      exact absurd room (Nat.not_succ_le_self _)
    | construct construct =>
      -- No construct is read as a character.
      obtain ⟨rfl, -⟩ := List.cons.inj said
      cases construct
    | text unmarked more =>
      obtain ⟨-, rfl⟩ := List.cons.inj said
      obtain ⟨rfl, rfl⟩ := List.cons.inj whole
      have first : ¬ Marked (c :: name) := fun marked =>
        unmarked ((marked_append_iff (apart_tail _) (List.cons_ne_nil c name)).mpr marked)
      exact plain_cons_iff.mpr ⟨first, ih more⟩

end Snippet

open Snippet

theorem snippet?_text (name : String) {parentheses : Parentheses}
    (recommended : parentheses ≠ .none) :
    ∃ snippet, snippet? name parentheses = some snippet ∧
      snippet.text.toList = name.toList ++ tail parentheses := by
  cases parentheses with
  | none => exact absurd rfl recommended
  | cursorAfter => exact ⟨_, rfl, by simp [tail]⟩
  | cursorInside => exact ⟨_, rfl, by simp [tail]⟩

theorem completionItem_mem {types : Option Types.Arena} {docs : Documentation}
    {candidates : Candidates} {name : String} {candidate : Candidate}
    (entry : (name, candidate) ∈ candidates.entries) :
    completionItem types docs name candidate ∈ completionItems types docs candidates :=
  List.mem_map.mpr ⟨_, (candidates.mem_sorted _).mpr entry, rfl⟩

/-- Each entry has an item with its name. If parentheses are recommended for it, then the snippet of
the item reads as the name and the parentheses exactly if the name is plain. -/
theorem completionItems_reads_iff_plain (types : Option Types.Arena) (docs : Documentation)
    (candidates : Candidates) {name : String} {candidate : Candidate}
    (entry : (name, candidate) ∈ candidates.entries)
    (recommended : candidate.parentheses ≠ .none) :
    let item := completionItem types docs name candidate
    item ∈ completionItems types docs candidates ∧ item.label = name ∧
      ∃ snippet, item.snippet = some snippet ∧
        ((∀ pieces, Reads snippet.text.toList pieces ↔
          pieces = call name.toList candidate.parentheses) ↔ Plain name.toList) := by
  obtain ⟨snippet, written, text⟩ := snippet?_text name recommended
  refine ⟨completionItem_mem entry, rfl, snippet, written, ?_⟩
  rw [text]
  exact ⟨fun right => plain_of_reads ((right _).mpr rfl),
    fun plain pieces => plain.reads_iff candidate.parentheses⟩

/-- A dollar at the end of a word and a backslash before a letter are text. -/
theorem completionItems_reads_lone_dollar :
    let candidate : Candidate := { kind := .property, parentheses := .cursorInside }
    let item := completionItem none {} "US$ \\n" candidate
    item ∈ completionItems none {} ⟨[("US$ \\n", candidate)]⟩ ∧
      ∃ snippet, item.snippet = some snippet ∧
        ∀ pieces, Reads snippet.text.toList pieces ↔
          pieces = call "US$ \\n".toList .cursorInside := by
  intro candidate item
  obtain ⟨listed, -, snippet, written, reads⟩ := completionItems_reads_iff_plain none {}
    ⟨[("US$ \\n", candidate)]⟩ (List.mem_singleton_self _) (by decide)
  exact ⟨listed, snippet, written, reads.mpr (plain_of_harmless (by decide))⟩

/-- A dollar in the middle of a name begins a variable. -/
theorem completionItems_reads_variable :
    let candidate : Candidate := { kind := .property, parentheses := .cursorAfter }
    let item := completionItem none {} "a$b" candidate
    item ∈ completionItems none {} ⟨[("a$b", candidate)]⟩ ∧ item.label = "a$b" ∧
      ∃ snippet, item.snippet = some snippet ∧
        Reads snippet.text.toList
          [.char 'a', .filled ['$', 'b'], .char '(', .char ')', .stop 0] ∧
        ¬ ∀ pieces, Reads snippet.text.toList pieces ↔ pieces = call "a$b".toList .cursorAfter := by
  have isName : IsName ['b'] := ⟨by simp, by simp [isNameChar], by simp⟩
  have rest : Reads (tail .cursorAfter) (stops .cursorAfter) := (reads_tail_iff _).mpr rfl
  have reads : Reads (['a', '$', 'b'] ++ tail .cursorAfter)
      (.char 'a' :: .filled ['$', 'b'] :: stops .cursorAfter) := by
    refine .text (not_marked_cons (by decide) (by decide)) ?_
    exact .construct (.named isName) (longest_of_apart (by decide) (apart_tail _)) rest
  refine ⟨completionItem_mem (List.mem_singleton_self _), rfl, _, rfl, reads, fun right => ?_⟩
  have wrong := (right _).mp reads
  simp [call] at wrong

end LuauWorkspace.Query
