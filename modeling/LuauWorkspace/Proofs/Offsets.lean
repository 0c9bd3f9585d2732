import LuauWorkspace.Documents
import LuauWorkspace.Proofs.Positions
import Mathlib.Data.List.Basic

/-!
# Offsets in the lines of a text

A text that is cut anywhere but inside of a CR LF has the lines of its two halves, with the last
line of the first half in front of the first line of the second. So the line ends in front of a cut
and the code units behind the last of them lead back to the cut. Whatever its column, a position
leads into its line, which lies in front of all later lines. A later position never leads to an
earlier offset, and a range can be taken out of the text and replaced, also one whose end lies
before its start.
-/
namespace LuauWorkspace.Text

/-! ## Lines of a text that is cut -/

/-- What stands behind the last line end. -/
def lastLine (text : List Char) : List Char := (lines text).getLastD []

/-- Where an offset stands: the number of line ends in front of it, and the code units behind the
last of them. -/
def place (text : List Char) (index : Nat) : Position :=
  ⟨lineCount (text.take index) - 1, ((lastLine (text.take index)).map units).sum⟩

theorem exists_lines_eq (text : List Char) : ∃ front last, lines text = front ++ [last] :=
  (List.eq_nil_or_concat' (lines text)).resolve_left (lines_ne_nil text)

theorem place_eq {text : List Char} {index : Nat} {front : List (List Char)} {last : List Char}
    (cut : lines (text.take index) = front ++ [last]) :
    place text index = ⟨front.length, (last.map units).sum⟩ := by
  simp [place, lineCount, lastLine, cut]

/-- A character that ends no line stands in front of the first line behind it. -/
theorem lines_cons_inside {c : Char} {rest line : List Char} {more : List (List Char)}
    (inside : isLineEnd c = false) (cut : lines rest = line :: more) :
    lines (c :: rest) = (c :: line) :: more := by
  rw [lines.eq_3, if_neg (by simp [inside]), cut]
  rintro next rfl -
  exact absurd inside (by decide)

theorem cut_of_cons {line rest last : List Char} {front : List (List Char)}
    (cut : line :: lines rest = front ++ [last]) :
    ∃ more, front = line :: more ∧ lines rest = more ++ [last] := by
  rcases List.cons_eq_append_iff.mp cut with ⟨-, single⟩ | found
  · exact absurd (List.cons.inj single).2.symm (lines_ne_nil rest)
  · exact found

theorem lines_append {before after first last : List Char} {front others : List (List Char)}
    (whole : ¬ Splits before after) (cut : lines before = front ++ [last])
    (next : lines after = first :: others) :
    lines (before ++ after) = front ++ (last ++ first) :: others := by
  -- By induction on the lines in front of the cut, of which all but the last stay as they are.
  fun_induction lines before generalizing front last with
  | case1 =>
    rcases List.cons_eq_append_iff.mp cut with ⟨rfl, single⟩ | ⟨more, -, none⟩
    · obtain rfl : last = [] := by simpa using single
      simpa using next
    · simp at none
  | case2 rest ih =>
    obtain ⟨more, rfl, behind⟩ := cut_of_cons cut
    rw [List.cons_append, List.cons_append, lines,
      ih (not_splits_of_cons (not_splits_of_cons whole)) behind, List.cons_append]
  | case3 c rest single ends ih =>
    obtain ⟨more, rfl, behind⟩ := cut_of_cons cut
    rw [List.cons_append, lines_cons ends (not_splits_head single whole),
      ih (not_splits_of_cons whole) behind, List.cons_append]
  | case4 c rest single inside none ih => exact absurd none (lines_ne_nil rest)
  | case5 c rest single inside line more found ih =>
    have plain := Bool.eq_false_iff.mpr inside
    have apart := not_splits_of_cons whole
    rcases List.cons_eq_append_iff.mp cut with ⟨rfl, only⟩ | ⟨front, rfl, behind⟩
    -- The character stands in the last line, or in one that is kept.
    · obtain ⟨rfl, rfl⟩ : last = c :: line ∧ more = [] := by simpa using only
      have lines_eq : lines (rest ++ after) = [] ++ (line ++ first) :: others := ih apart found
      rw [List.cons_append, lines_cons_inside plain lines_eq]
      rfl
    · have lines_eq : lines (rest ++ after) = (line :: front) ++ (last ++ first) :: others :=
        ih apart (by rw [found, behind, List.cons_append])
      rw [List.cons_append, lines_cons_inside plain lines_eq]
      rfl

/-- The last line has no end. -/
theorem isLineEnd_of_mem_last {text last : List Char} {front : List (List Char)}
    (cut : lines text = front ++ [last]) {c : Char} (member : c ∈ last) : isLineEnd c = false := by
  fun_induction lines text generalizing front last with
  | case1 =>
    have only : last ∈ [[]] := cut ▸ List.mem_append_right _ (List.mem_singleton_self _)
    rw [List.mem_singleton.mp only] at member
    simp at member
  | case2 rest ih =>
    obtain ⟨more, -, behind⟩ := cut_of_cons cut
    exact ih behind member
  | case3 first rest single ends ih =>
    obtain ⟨more, -, behind⟩ := cut_of_cons cut
    exact ih behind member
  | case4 first rest single inside none ih => exact absurd none (lines_ne_nil rest)
  | case5 first rest single inside line more found ih =>
    rcases List.cons_eq_append_iff.mp cut with ⟨rfl, only⟩ | ⟨front, rfl, behind⟩
    · obtain ⟨rfl, rfl⟩ : last = first :: line ∧ more = [] := by simpa using only
      have alone : lines rest = [] ++ [line] := found
      rcases List.mem_cons.mp member with rfl | later
      · exact Bool.eq_false_iff.mpr inside
      · exact ih alone later
    · have whole : lines rest = (line :: front) ++ [last] := by
        rw [found, behind, List.cons_append]
      exact ih whole member

theorem visible_append {front : List Char} (plain : ∀ c ∈ front, isLineEnd c = false)
    (back : List Char) : visible (front ++ back) = front ++ visible back := by
  induction front with
  | nil => rfl
  | cons c rest ih =>
    have inside : isBreak c = false := by
      have here := plain c (List.mem_cons_self ..)
      rw [isLineEnd_eq, Bool.or_eq_false_iff] at here
      exact here.1
    rw [List.cons_append, visible_cons inside,
      ih fun other member => plain other (List.mem_cons_of_mem _ member), List.cons_append]

theorem charsBefore_units_append (front back : List Char) :
    charsBefore (front ++ back) (front.map units).sum = front.length := by
  induction front with
  | nil => exact charsBefore_zero back
  | cons c rest ih =>
    rw [List.cons_append, charsBefore, List.map_cons, List.sum_cons, if_pos (Nat.le_add_right ..),
      Nat.add_sub_cancel_left, ih, List.length_cons]

/-! ## Where positions lead -/

/-- Where a line starts; lines behind the last one start at the end. -/
def lineStart (text : List Char) (line : Nat) : Nat := ((lines text).take line).flatten.length

section

variable {text : List Char} {position : Position}

theorem offset_of_getElem? {line : List Char} (here : (lines text)[position.line]? = some line) :
    offset text position =
      lineStart text position.line + charsBefore (visible line) position.column := by
  obtain ⟨bound, rfl⟩ := List.getElem?_eq_some_iff.mp here
  rw [offset, List.drop_eq_getElem_cons bound, lineStart]

theorem lineStart_succ {index : Nat} {line : List Char} (here : (lines text)[index]? = some line) :
    lineStart text (index + 1) = lineStart text index + line.length := by
  simp [lineStart, List.take_add_one, here]

theorem lineStart_of_le {index : Nat} (beyond : lineCount text ≤ index) :
    lineStart text index = text.length := by
  rw [lineStart, List.take_of_length_le beyond, lines_flatten]

theorem offset_of_le (beyond : lineCount text ≤ position.line) :
    offset text position = text.length := by
  rw [offset, List.drop_of_length_le beyond]

theorem lineStart_mono (text : List Char) {one two : Nat} (earlier : one ≤ two) :
    lineStart text one ≤ lineStart text two := by
  obtain ⟨between, joined⟩ := List.take_prefix_take_left (l := lines text) earlier
  rw [lineStart, lineStart, ← joined, List.flatten_append, List.length_append]
  exact Nat.le_add_right _ _

/-- A position leads into its line. -/
theorem lineStart_le_offset (text : List Char) (position : Position) :
    lineStart text position.line ≤ offset text position := by
  cases here : (lines text)[position.line]? with
  | none =>
    have beyond := List.getElem?_eq_none_iff.mp here
    rw [lineStart_of_le beyond, offset_of_le beyond]
  | some line =>
    rw [offset_of_getElem? here]
    exact Nat.le_add_right _ _

theorem offset_le_lineStart_succ (text : List Char) (position : Position) :
    offset text position ≤ lineStart text (position.line + 1) := by
  cases here : (lines text)[position.line]? with
  | none =>
    have beyond : lineCount text ≤ position.line := List.getElem?_eq_none_iff.mp here
    rw [lineStart_of_le (by omega), offset_of_le beyond]
  | some line =>
    have inside := charsBefore_le (visible line) position.column
    have shown := visible_length_le line
    rw [offset_of_getElem? here, lineStart_succ here]
    omega

theorem charsBefore_mono (line : List Char) {one two : Nat} (earlier : one ≤ two) :
    charsBefore line one ≤ charsBefore line two := by
  fun_induction charsBefore line one generalizing two with
  | case1 => exact Nat.zero_le _
  | case2 one c rest fits ih =>
    rw [charsBefore, if_pos (Nat.le_trans fits earlier)]
    exact Nat.succ_le_succ (ih (Nat.sub_le_sub_right earlier _))
  | case3 => exact Nat.zero_le _

/-- A later position never leads to an earlier offset. -/
theorem offset_mono (text : List Char) {one two : Position} (earlier : one ≤ two) :
    offset text one ≤ offset text two := by
  rcases (Position.le_iff one two).mp earlier with above | ⟨level, before⟩
  · calc offset text one ≤ lineStart text (one.line + 1) := offset_le_lineStart_succ text one
      _ ≤ lineStart text two.line := lineStart_mono text above
      _ ≤ offset text two := lineStart_le_offset text two
  · cases here : (lines text)[one.line]? with
    | none =>
      have beyond : lineCount text ≤ one.line := List.getElem?_eq_none_iff.mp here
      rw [offset_of_le beyond, offset_of_le (level ▸ beyond)]
    | some line =>
      rw [offset_of_getElem? here, offset_of_getElem? (level ▸ here), level]
      exact Nat.add_le_add_left (charsBefore_mono _ before) _

/-- The place of a cut that splits no CR LF leads back to it. -/
theorem offset_place {index : Nat} (inside : index ≤ text.length)
    (whole : ¬ Splits (text.take index) (text.drop index)) :
    offset text (place text index) = index := by
  obtain ⟨front, last, cut⟩ := exists_lines_eq (text.take index)
  obtain ⟨first, others, next⟩ := List.exists_cons_of_ne_nil (lines_ne_nil (text.drop index))
  have joined := lines_append whole cut next
  rw [List.take_append_drop] at joined
  have plain : ∀ c ∈ last, isLineEnd c = false := fun _ => isLineEnd_of_mem_last cut
  have before : front.flatten.length + last.length = index := by
    have count := congrArg (fun lines => lines.flatten.length) cut
    simpa [lines_flatten, Nat.min_eq_left inside] using count.symm
  have here : (lines text)[front.length]? = some (last ++ first) := by simp [joined]
  have start : lineStart text front.length = front.flatten.length := by simp [lineStart, joined]
  rw [place_eq cut, offset_of_getElem? here, start, visible_append plain,
    charsBefore_units_append, before]

/-- A cut inside of a CR LF has the place of the cut behind it. -/
theorem place_of_splits {index : Nat} (broken : Splits (text.take index) (text.drop index)) :
    index < text.length ∧ ¬ Splits (text.take (index + 1)) (text.drop (index + 1)) ∧
      place text index = place text (index + 1) := by
  obtain ⟨last, first⟩ := broken
  obtain ⟨before, take⟩ := List.getLast?_eq_some_iff.mp last
  obtain ⟨after, drop⟩ := List.head?_eq_some_iff.mp first
  have bound : index < text.length := by
    have left := congrArg List.length drop
    simp only [List.length_drop, List.length_cons] at left
    omega
  have take_next : text.take (index + 1) = before ++ ['\r', '\n'] := by
    rw [List.take_add_one, take, ← List.head?_drop, first]
    simp
  refine ⟨bound, ?_, ?_⟩
  · rintro ⟨line_feed, -⟩
    rw [take_next] at line_feed
    simp at line_feed
  · obtain ⟨front, line, cut⟩ := exists_lines_eq before
    have whole : ∀ more, ¬ Splits before ('\r' :: more) := by
      rintro more ⟨-, start⟩
      simp at start
    have one := lines_append (whole []) cut (show lines ['\r'] = ['\r'] :: [[]] by decide)
    have two := lines_append (whole ['\n']) cut
      (show lines ['\r', '\n'] = ['\r', '\n'] :: [[]] by decide)
    rw [← take, List.append_cons] at one
    rw [← take_next, List.append_cons] at two
    rw [place_eq one, place_eq two, List.length_append, List.length_append]
    rfl

/-- Exactly the cuts inside of a CR LF are not where their places lead. -/
theorem offset_place_iff {index : Nat} (inside : index ≤ text.length) :
    offset text (place text index) = index ↔
      ¬ Splits (text.take index) (text.drop index) := by
  refine ⟨fun back broken => ?_, offset_place inside⟩
  obtain ⟨bound, whole, same⟩ := place_of_splits broken
  rw [same, offset_place bound whole] at back
  omega

end

/-! ## Replacing a range -/

/-- Takes out what stands between two offsets, unless that is no range of the text. -/
def remove? (text : List Char) (start stop : Nat) : Option (List Char) :=
  if start ≤ stop ∧ stop ≤ text.length then some (text.take start ++ text.drop stop) else none

/-- Puts a text in at an offset, unless that lies behind the end. -/
def insert? (text : List Char) (index : Nat) (inserted : List Char) : Option (List Char) :=
  if index ≤ text.length then some (text.take index ++ inserted ++ text.drop index) else none

theorem remove?_bind_insert? {text : List Char} {start stop : Nat} (first : start ≤ text.length)
    (last : stop ≤ text.length) (inserted : List Char) :
    ((remove? text start (max start stop)).bind fun left => insert? left start inserted) =
      some (splice text start stop inserted) := by
  have range : start ≤ max start stop ∧ max start stop ≤ text.length :=
    ⟨Nat.le_max_left .., Nat.max_le.mpr ⟨first, last⟩⟩
  have front : (text.take start).length = start := List.length_take_of_le first
  rw [remove?, if_pos range, Option.bind_some, insert?, if_pos (by simp [front])]
  rw [List.take_left' front, List.drop_left' front, splice]

end LuauWorkspace.Text

namespace LuauWorkspace.Change

open Text (Splits insert? offset place remove? splice)

/-- Positions lead into the text, later ones to no earlier offset, and an offset is where its line
ends and code units lead exactly if it does not lie inside of a CR LF. So a change of a range can
always be made, and it leaves what stands in front of the range and behind it, or behind the start
of a range whose end lies before it. -/
theorem apply_range (text : String) :
    let chars := text.toList
    (∀ position, offset chars position ≤ chars.length) ∧
      (∀ one two, one ≤ two → offset chars one ≤ offset chars two) ∧
      (∀ index ≤ chars.length, offset chars (place chars index) = index ↔
        ¬ Splits (chars.take index) (chars.drop index)) ∧
      ∀ start stop inserted,
        let first := offset chars start
        let last := offset chars stop
        let change : Change := { range := some (start, stop), text := inserted }
        let after := (change.apply text).toList
        ((remove? chars first (max first last)).bind fun left =>
            insert? left first inserted.toList) = some after ∧
          (start ≤ stop → first ≤ last ∧
            after = chars.take first ++ inserted.toList ++ chars.drop last) ∧
          (stop < start → last ≤ first ∧
            after = chars.take first ++ inserted.toList ++ chars.drop first) := by
  intro chars
  refine ⟨Text.offset_le chars, fun _ _ => Text.offset_mono chars,
    fun _ => Text.offset_place_iff, fun start stop inserted => ?_⟩
  intro first last change after
  have spliced : after = splice chars first last inserted.toList := by
    simp [after, change, apply, first, last, chars]
  rw [spliced]
  refine ⟨Text.remove?_bind_insert? (Text.offset_le chars start) (Text.offset_le chars stop) _,
    fun ordered => ?_, fun reversed => ?_⟩
  · have level : first ≤ last := Text.offset_mono chars ordered
    exact ⟨level, by rw [splice, Nat.max_eq_right level]⟩
  · have level : last ≤ first := Text.offset_mono chars reversed.1
    exact ⟨level, by rw [splice, Nat.max_eq_left level]⟩

namespace Mixed

/-- Line ends of one and of two characters, and a character of two code units. -/
def text : String := "a\r\n𝄞b\u2028c"

end Mixed

/-- The end of the range lies inside of the surrogate pair and before its start, which lies behind
the end of the last line. -/
theorem apply_range_mixed :
    place Mixed.text.toList 6 = ⟨2, 0⟩ ∧ offset Mixed.text.toList ⟨2, 0⟩ = 6 ∧
      (⟨1, 1⟩ : Position) < ⟨2, 5⟩ ∧
      (({ range := some (⟨2, 5⟩, ⟨1, 1⟩), text := "d" } : Change).apply Mixed.text).toList =
        Mixed.text.toList ++ ['d'] := by
  obtain ⟨-, -, exact_iff, change⟩ := apply_range Mixed.text
  have place_eq : place Mixed.text.toList 6 = ⟨2, 0⟩ := by decide +kernel
  have back := (exact_iff 6 (by decide +kernel)).mpr (by decide +kernel)
  have before : (⟨1, 1⟩ : Position) < ⟨2, 5⟩ := by decide
  have reversed := ((change ⟨2, 5⟩ ⟨1, 1⟩ "d").2.2 before).2
  refine ⟨place_eq, place_eq ▸ back, before, reversed.trans ?_⟩
  decide +kernel

end LuauWorkspace.Change
