import LuauWorkspace.Text.Lines
import Mathlib.Algebra.GroupWithZero.Nat
import Mathlib.Data.List.TakeWhile

/-!
# Positions of offsets

The protocol has three line ends, LF, CR LF and a lone CR, and counts the columns of a line in
UTF-16 code units. A text has the same lines unless one of the other Unicode line ends, a
separator, comes up in it. So a position leads back to the offset that it was made of exactly if
no separator stands before the character in front of that offset: behind an earlier one the lines
are counted differently.
-/
namespace LuauWorkspace.Text

/-! ## Line ends of the protocol -/

def isBreak (c : Char) : Bool := c == '\n' || c == '\r'

/-- The Unicode line ends that are none in the protocol. -/
def isSeparator (c : Char) : Bool := isLineEnd c && !isBreak c

/-- The number of line ends; LF behind CR belongs to the same one. -/
def breaks : List Char → Nat
  | [] => 0
  | '\r' :: '\n' :: rest => breaks rest + 1
  | c :: rest => if isBreak c then breaks rest + 1 else breaks rest

/-- The code units behind the last line end. -/
def column (before : List Char) : Nat :=
  ((before.reverse.takeWhile fun c => !isBreak c).map units).sum

/-- The position of an offset. -/
def position (text : List Char) (offset : Nat) : Position :=
  ⟨breaks (text.take offset), column (text.take offset)⟩

/-- A cut between CR and LF. -/
def Splits (before after : List Char) : Prop :=
  before.getLast? = some '\r' ∧ after.head? = some '\n'

instance (before after : List Char) : Decidable (Splits before after) :=
  inferInstanceAs (Decidable (_ ∧ _))

/-- No separator stands before the last character. -/
def Clear (before : List Char) : Prop := ∀ c ∈ before.dropLast, isSeparator c = false

instance (before : List Char) : Decidable (Clear before) :=
  List.decidableBAll (fun c => isSeparator c = false) before.dropLast

theorem isLineEnd_eq (c : Char) : isLineEnd c = (isBreak c || isSeparator c) := by
  simp only [isSeparator, isLineEnd, isBreak]
  grind

theorem units_pos (c : Char) : 0 < units c := by
  unfold units
  split <;> omega

theorem clear_cons {c : Char} (plain : isSeparator c = false) (rest : List Char) :
    Clear (c :: rest) ↔ Clear rest := by
  cases rest with
  | nil => simp [Clear]
  | cons next more => simp [Clear, plain]

theorem not_splits_of_cons {c : Char} {rest after : List Char}
    (whole : ¬ Splits (c :: rest) after) : ¬ Splits rest after := by
  rintro ⟨last, first⟩
  refine whole ⟨?_, first⟩
  cases rest with
  | nil => simp at last
  | cons next more => rwa [List.getLast?_cons_cons]

theorem not_splits_head {c : Char} {rest after : List Char}
    (single : ∀ more, c = '\r' → rest = '\n' :: more → False)
    (whole : ¬ Splits (c :: rest) after) : ¬ Splits [c] (rest ++ after) := by
  rintro ⟨last, first⟩
  obtain rfl : c = '\r' := by simpa using last
  cases rest with
  | nil => exact whole ⟨last, first⟩
  | cons next more =>
    obtain rfl : next = '\n' := by simpa using first
    exact single more rfl rfl

theorem breaks_eq_zero_iff (before : List Char) :
    breaks before = 0 ↔ ∀ c ∈ before, isBreak c = false := by
  fun_induction breaks before with
  | case1 => simp
  | case2 rest ih => simp [isBreak]
  | case3 c rest _ broken ih => simp [broken]
  | case4 c rest _ plain ih => simp [plain, ih]

/-- A line end behind the first character hides it from the column. -/
theorem column_cons (c : Char) (before : List Char) :
    column (c :: before) =
      if isBreak c ∨ breaks before ≠ 0 then column before else units c + column before := by
  simp only [column, List.reverse_cons, List.takeWhile_append]
  -- What stands behind the last line end is everything when there is none.
  have level : (before.reverse.takeWhile fun c => !isBreak c) = before.reverse ↔
      breaks before = 0 := by
    rw [breaks_eq_zero_iff, List.takeWhile_eq_self_iff]
    simp
  by_cases same : breaks before = 0
  · rw [level.mpr same, if_pos rfl]
    cases kind : isBreak c with
    | true => simp [List.takeWhile, kind]
    | false => simp [List.takeWhile, kind, same, Nat.add_comm]
  · rw [if_neg fun whole => same (level.mp ((List.takeWhile_prefix _).eq_of_length whole)),
      if_pos (Or.inr same)]

/-! ## Offsets of positions -/

theorem charsBefore_zero (line : List Char) : charsBefore line 0 = 0 := by
  cases line with
  | nil => rfl
  | cons c rest => simp [charsBefore, Nat.ne_of_gt (units_pos c)]

theorem visible_cons {c : Char} (plain : isBreak c = false) (line : List Char) :
    visible (c :: line) = c :: visible line := by
  have shown : (c == '\n' || c == '\r') = false := plain
  rw [visible, List.reverse_cons, List.dropWhile_append]
  cases rest : line.reverse.dropWhile fun c => c == '\n' || c == '\r' with
  | nil => simp [shown, visible, rest]
  | cons last more => simp [visible, rest]

theorem visible_singleton (c : Char) : visible [c] = if isBreak c then [] else [c] := by
  cases kind : isBreak c with
  | true =>
    have hidden : (c == '\n' || c == '\r') = true := kind
    simp [visible, hidden]
  | false => rw [visible_cons kind]; rfl

section

variable {text rest first : List Char} {others : List (List Char)}

theorem offset_first (cut : lines text = first :: others) (column : Nat) :
    offset text ⟨0, column⟩ = charsBefore (visible first) column := by
  simp [offset, cut]

theorem offset_succ (cut : lines text = first :: lines rest) (line column : Nat) :
    offset text ⟨line + 1, column⟩ = first.length + offset rest ⟨line, column⟩ := by
  have length : text.length = first.length + rest.length := by
    have whole := congrArg List.flatten cut
    rw [lines_flatten, List.flatten_cons, lines_flatten] at whole
    rw [whole, List.length_append]
  simp only [offset, cut, List.drop_succ_cons, List.take_succ_cons, List.flatten_cons,
    List.length_append]
  split
  · exact length
  · omega

end

theorem offset_zero (text : List Char) : offset text ⟨0, 0⟩ = 0 := by
  cases cut : lines text with
  | nil => exact absurd cut (lines_ne_nil text)
  | cons first others => rw [offset_first cut, charsBefore_zero]

theorem lines_cons {c : Char} {rest : List Char} (ends : isLineEnd c = true)
    (single : ¬ Splits [c] rest) : lines (c :: rest) = [c] :: lines rest := by
  rw [lines.eq_3, if_pos ends]
  rintro more rfl rfl
  exact single ⟨rfl, rfl⟩

/-- A character of the first line takes its units off the columns behind it. -/
theorem offset_cons {c : Char} {rest : List Char} (inside : isLineEnd c = false)
    (line column : Nat) :
    offset (c :: rest) ⟨line, column⟩ =
      if line = 0 then
        if units c ≤ column then 1 + offset rest ⟨0, column - units c⟩ else 0
      else 1 + offset rest ⟨line, column⟩ := by
  have plain : isBreak c = false := by
    rw [isLineEnd_eq, Bool.or_eq_false_iff] at inside
    exact inside.1
  cases cut : lines rest with
  | nil => exact absurd cut (lines_ne_nil rest)
  | cons first others =>
    have whole : lines (c :: rest) = (c :: first) :: others := by
      rw [lines.eq_3, if_neg (by simp [inside]), cut]
      rintro more rfl -
      exact absurd inside (by decide)
    cases line with
    | zero =>
      rw [offset_first whole, visible_cons plain, charsBefore, offset_first cut, if_pos rfl,
        Nat.add_comm]
    | succ line =>
      rw [if_neg (by omega)]
      simp only [offset, whole, cut, List.drop_succ_cons, List.take_succ_cons, List.flatten_cons,
        List.length_append, List.length_cons]
      split <;> omega

/-- The start of an earlier line stands in front of an offset. -/
theorem offset_lt_of_lt_breaks {before after : List Char} (line column : Nat)
    (whole : ¬ Splits before after) (earlier : line < breaks before) :
    offset (before ++ after) ⟨line, column⟩ < before.length := by
  fun_induction breaks before generalizing line column with
  | case1 => omega
  | case2 rest ih =>
    have cut : lines ('\r' :: '\n' :: (rest ++ after)) = ['\r', '\n'] :: lines (rest ++ after) := by
      rw [lines]
    cases line with
    | zero =>
      have hidden : visible ['\r', '\n'] = [] := by decide
      simp [offset_first cut, hidden, charsBefore]
    | succ line =>
      have behind := ih line column (not_splits_of_cons (not_splits_of_cons whole))
        (by omega)
      simp only [List.cons_append, offset_succ cut, List.length_cons, List.length_nil]
      omega
  | case3 c rest single broken ih =>
    have cut := lines_cons (by simp [isLineEnd_eq, broken]) (not_splits_head single whole)
    cases line with
    | zero => simp [offset_first cut, visible_singleton, broken, charsBefore]
    | succ line =>
      have behind := ih line column (not_splits_of_cons whole) (by omega)
      simp only [List.cons_append, offset_succ cut, List.length_cons, List.length_nil]
      omega
  | case4 c rest single plain ih =>
    have apart := not_splits_of_cons whole
    by_cases ends : isLineEnd c = true
    · have cut := lines_cons ends (not_splits_head single whole)
      cases line with
      | zero =>
        have shown := charsBefore_le (visible [c]) column
        have shorter := visible_length_le [c]
        have later : rest ≠ [] := by
          rintro rfl
          simp [breaks] at earlier
        have count := List.length_pos_iff.mpr later
        simp only [List.cons_append, offset_first cut, List.length_cons, List.length_nil] at *
        omega
      | succ line =>
        have behind := ih line column apart (by omega)
        simp only [List.cons_append, offset_succ cut, List.length_cons, List.length_nil]
        omega
    · rw [List.cons_append, offset_cons (Bool.eq_false_iff.mpr ends)]
      have behind := fun column => ih line column apart earlier
      split
      next same =>
        subst same
        have here := behind (column - units c)
        split <;> simp only [List.length_cons] <;> omega
      · have here := behind column
        simp only [List.length_cons]
        omega

/-- Behind a separator in its text a cut is not found. -/
theorem offset_separator_lt {c : Char} {rest after : List Char} (ends : isLineEnd c = true)
    (later : rest ≠ []) (whole : ¬ Splits (c :: rest) after) (single : ¬ Splits [c] (rest ++ after))
    (column : Nat) :
    offset (c :: (rest ++ after)) ⟨breaks rest, column⟩ < (c :: rest).length := by
  have cut := lines_cons ends single
  cases level : breaks rest with
  | zero =>
    have shown := charsBefore_le (visible [c]) column
    have shorter := visible_length_le [c]
    have count := List.length_pos_iff.mpr later
    rw [offset_first cut]
    simp only [List.length_cons, List.length_nil] at *
    omega
  | succ line =>
    have earlier := offset_lt_of_lt_breaks line column (not_splits_of_cons whole) (by omega)
    rw [offset_succ cut]
    simp only [List.length_cons, List.length_nil]
    omega

/-- Its position leads back to a cut exactly if no separator stands before its last character. -/
theorem offset_breaks_column_iff {before after : List Char} (whole : ¬ Splits before after) :
    offset (before ++ after) ⟨breaks before, column before⟩ = before.length ↔ Clear before := by
  -- By induction on the text in front of the cut. Only a separator takes a line of the text and
  -- none of the protocol, and then the position leads to an earlier line.
  fun_induction breaks before with
  | case1 => simp [column, offset_zero, Clear]
  | case2 rest ih =>
    have cut : lines ('\r' :: '\n' :: (rest ++ after)) = ['\r', '\n'] :: lines (rest ++ after) := by
      rw [lines]
    have behind : column ('\r' :: '\n' :: rest) = column rest := by simp [column_cons, isBreak]
    rw [behind, List.cons_append, List.cons_append, offset_succ cut, clear_cons (by decide),
      clear_cons (by decide), ← ih (not_splits_of_cons (not_splits_of_cons whole))]
    simp only [List.length_cons, List.length_nil]
    omega
  | case3 c rest single broken ih =>
    have cut := lines_cons (by simp [isLineEnd_eq, broken]) (not_splits_head single whole)
    rw [column_cons, if_pos (Or.inl broken), List.cons_append, offset_succ cut,
      clear_cons (by simp [isSeparator, broken]), ← ih (not_splits_of_cons whole)]
    simp only [List.length_cons, List.length_nil]
    omega
  | case4 c rest single plain ih =>
    have apart := not_splits_of_cons whole
    by_cases ends : isLineEnd c = true
    · have alone := not_splits_head single whole
      have separates : isSeparator c = true := by simp [isSeparator, ends, plain]
      cases rest with
      | nil =>
        have width : column [c] = units c := by simp [column, plain]
        rw [List.cons_append, breaks, offset_first (lines_cons ends alone), width,
          visible_singleton, if_neg plain]
        simp [charsBefore, Clear]
      | cons next more =>
        have missed := offset_separator_lt ends (by simp) whole alone (column (c :: next :: more))
        have hidden : ¬ Clear (c :: next :: more) := fun clear => by
          simpa [separates] using clear c (by simp)
        exact iff_of_false (Nat.ne_of_lt missed) hidden
    · have inside := Bool.eq_false_iff.mpr ends
      rw [List.cons_append, offset_cons inside, clear_cons (by simp [isSeparator, inside]),
        ← ih apart]
      by_cases level : breaks rest = 0
      · have width : column (c :: rest) = units c + column rest := by
          rw [column_cons, if_neg (by simp [plain, level])]
        rw [if_pos level, width, if_pos (Nat.le_add_right ..), Nat.add_sub_cancel_left, level,
          List.length_cons]
        omega
      · rw [if_neg level, column_cons, if_pos (Or.inr level), List.length_cons]
        omega

theorem Clear.take {before : List Char} (clear : Clear before) (count : Nat) :
    Clear (before.take count) := by
  intro c member
  refine clear c (List.Sublist.subset ?_ member)
  rw [List.dropLast_eq_take, List.dropLast_eq_take, List.take_take]
  refine List.take_sublist_take_left ?_
  simp only [List.length_take]
  omega

/-- The position of an offset leads back to it exactly if the lines in front of it are the same
in the text and in the protocol. -/
theorem offset_position_iff {text : List Char} {index : Nat} (inside : index ≤ text.length)
    (whole : ¬ Splits (text.take index) (text.drop index)) :
    offset text (position text index) = index ↔ Clear (text.take index) := by
  have cut := offset_breaks_column_iff whole
  rwa [List.take_append_drop, List.length_take, Nat.min_eq_left inside] at cut

end LuauWorkspace.Text
