/-!
# Splitting text at a separator

`split` cuts a text at every separator and `join` puts one between neighbours. Joining the
pieces gives the text back, and pieces without separators are found again.
-/
namespace LuauWorkspace.Text

/-- Never empty: a text without separators is one piece. -/
def split (separator : Char) : List Char → List (List Char)
  | [] => [[]]
  | c :: rest =>
    if c = separator then [] :: split separator rest
    else
      match split separator rest with
      | [] => [[c]]
      | piece :: pieces => (c :: piece) :: pieces

def join (separator : Char) : List (List Char) → List Char
  | [] => []
  | [piece] => piece
  | piece :: rest => piece ++ separator :: join separator rest

theorem split_ne_nil (separator : Char) (text : List Char) : split separator text ≠ [] := by
  cases text with
  | nil => simp [split]
  | cons c rest =>
    simp only [split]
    split
    · simp
    · split <;> simp

theorem join_split (separator : Char) (text : List Char) :
    join separator (split separator text) = text := by
  induction text with
  | nil => rfl
  | cons c rest ih =>
    have pieces := split_ne_nil separator rest
    simp only [split]
    split
    next equal =>
      subst equal
      match found : split c rest, pieces with
      | piece :: more, _ => simp [join, found ▸ ih]
    · match found : split separator rest, pieces with
      | [piece], _ => simp only [found, join] at ih ⊢; rw [ih]
      | piece :: next :: more, _ =>
        simp only [found, join] at ih ⊢
        rw [← ih]; rfl

theorem split_of_not_mem (separator : Char) (text : List Char) (absent : separator ∉ text) :
    split separator text = [text] := by
  induction text with
  | nil => rfl
  | cons c rest ih =>
    simp only [List.mem_cons, not_or] at absent
    simp [split, Ne.symm absent.1, ih absent.2]

theorem split_append (separator : Char) (piece rest : List Char) (absent : separator ∉ piece) :
    split separator (piece ++ separator :: rest) = piece :: split separator rest := by
  induction piece with
  | nil => simp [split]
  | cons c piece ih =>
    simp only [List.mem_cons, not_or] at absent
    simp [split, Ne.symm absent.1, ih absent.2]

theorem not_mem_of_mem_split (separator : Char) (text piece : List Char)
    (member : piece ∈ split separator text) : separator ∉ piece := by
  induction text generalizing piece with
  | nil => simp_all [split]
  | cons c rest ih =>
    simp only [split] at member
    split at member
    · rcases List.mem_cons.mp member with rfl | member
      · simp
      · exact ih piece member
    next differ =>
      split at member
      · simp only [List.mem_singleton] at member
        subst member
        simpa using Ne.symm differ
      next first pieces found =>
        rcases List.mem_cons.mp member with rfl | member
        · simpa [Ne.symm differ] using ih first (by simp [found])
        · exact ih piece (by simp [found, member])

theorem split_join (separator : Char) (pieces : List (List Char)) (some_piece : pieces ≠ [])
    (absent : ∀ piece ∈ pieces, separator ∉ piece) :
    split separator (join separator pieces) = pieces := by
  induction pieces with
  | nil => exact absurd rfl some_piece
  | cons piece rest ih =>
    cases rest with
    | nil => exact split_of_not_mem separator piece (absent piece (by simp))
    | cons next more =>
      rw [join]
      · rw [split_append separator piece _ (absent piece (by simp)),
          ih (by simp) fun p member => absent p (List.mem_cons_of_mem _ member)]
      · simp

/-- The pieces of a string, as strings. -/
def pieces (separator : Char) (text : String) : List String :=
  (split separator text.toList).map String.ofList

def joined (separator : Char) (parts : List String) : String :=
  String.ofList (join separator (parts.map String.toList))

end LuauWorkspace.Text
