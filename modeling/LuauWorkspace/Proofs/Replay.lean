import LuauWorkspace.Documents
import LuauWorkspace.Proofs.Positions

/-!
# Replayed edits

A client edits its own text between offsets and sends each edit with the positions that these
offsets have there. The document follows the text of the client as long as the positions lead
back to the offsets. In texts whose only line ends are those of the protocol they always do.
-/
namespace LuauWorkspace

/-- What a client does to its text. -/
inductive Edit where
  | replace (text : String)
  | splice (start stop : Nat) (inserted : String)
deriving DecidableEq, Repr

/-- The edits that are sent under one version. -/
structure Revision where
  version : Int
  edits : List Edit
deriving DecidableEq, Repr

namespace Edit

def apply (text : String) : Edit → String
  | replace new => new
  | splice start stop inserted =>
    String.ofList (text.toList.take start ++ inserted.toList ++ text.toList.drop stop)

/-- What is sent for an edit of a text. -/
def change (text : String) : Edit → Change
  | replace new => { text := new }
  | splice start stop inserted =>
    { range := some (Text.position text.toList start, Text.position text.toList stop),
      text := inserted }

/-- What is sent for edits that follow each other. -/
def changes (text : String) : List Edit → List Change
  | [] => []
  | edit :: rest => edit.change text :: changes (edit.apply text) rest

/-- The offsets lie in the text and not inside of its line ends. -/
def Fits (text : String) : Edit → Prop
  | replace _ => True
  | splice start stop _ =>
    start ≤ stop ∧ stop ≤ text.length ∧
      ∀ index ∈ [start, stop], ¬ Text.Splits (text.toList.take index) (text.toList.drop index)

/-- The lines in front of the edit are the same in the text and in the protocol. -/
def Clear (text : String) : Edit → Prop
  | replace _ => True
  | splice _ stop _ => Text.Clear (text.toList.take stop)

/-- The edit is understood as it is meant. -/
def Understood (text : String) : Edit → Prop
  | replace _ => True
  | splice start stop _ =>
    ∀ index ∈ [start, stop], Text.offset text.toList (Text.position text.toList index) = index

/-- Every edit of a run has a property at the text that it finds. -/
def Along (holds : String → Edit → Prop) (text : String) : List Edit → Prop
  | [] => True
  | edit :: rest => holds text edit ∧ Along holds (edit.apply text) rest

instance decidableFits (text : String) : ∀ edit, Decidable (Fits text edit)
  | replace _ => inferInstanceAs (Decidable True)
  | splice start stop _ =>
    have := List.decidableBAll
      (fun index => ¬ Text.Splits (text.toList.take index) (text.toList.drop index)) [start, stop]
    inferInstanceAs (Decidable (_ ∧ _ ∧ _))

instance decidableClear (text : String) : ∀ edit, Decidable (Clear text edit)
  | replace _ => inferInstanceAs (Decidable True)
  | splice .. => inferInstanceAs (Decidable (Text.Clear _))

instance decidableAlong (holds : String → Edit → Prop) [∀ text edit, Decidable (holds text edit)]
    (text : String) : ∀ edits, Decidable (Along holds text edits)
  | [] => inferInstanceAs (Decidable True)
  | edit :: rest =>
    have := decidableAlong holds (edit.apply text) rest
    inferInstanceAs (Decidable (_ ∧ _))

variable {text : String} {edit : Edit}

theorem understood_iff (fits : edit.Fits text) : edit.Understood text ↔ edit.Clear text := by
  cases edit with
  | replace new => exact Iff.rfl
  | splice start stop inserted =>
    obtain ⟨ordered, inside, whole⟩ := fits
    rw [← String.length_toList] at inside
    have at_stop := Text.offset_position_iff inside (whole stop (by simp))
    have at_start := Text.offset_position_iff (Nat.le_trans ordered inside) (whole start (by simp))
    rw [Understood, List.forall_mem_cons, List.forall_mem_singleton, at_start, at_stop]
    refine ⟨And.right, fun clear => ⟨?_, clear⟩⟩
    have front := clear.take start
    rwa [List.take_take, Nat.min_eq_left ordered] at front

theorem apply_change (fits : edit.Fits text) (understood : edit.Understood text) :
    (edit.change text).apply text = edit.apply text := by
  cases edit with
  | replace new => rfl
  | splice start stop inserted =>
    have start_eq := understood start (by simp)
    have stop_eq := understood stop (by simp)
    simp only [change, Change.apply, start_eq, stop_eq, Text.splice, Nat.max_eq_right fits.1, apply]

theorem foldl_apply_changes {edits : List Edit} (fits : Along Fits text edits)
    (understood : Along Understood text edits) :
    (changes text edits).foldl (fun text change => change.apply text) text =
      edits.foldl apply text := by
  induction edits generalizing text with
  | nil => rfl
  | cons edit rest ih =>
    rw [changes, List.foldl_cons, apply_change fits.1 understood.1]
    exact ih fits.2 understood.2

theorem along_append {holds : String → Edit → Prop} (front back : List Edit) :
    Along holds text (front ++ back) ↔
      Along holds text front ∧ Along holds (front.foldl apply text) back := by
  induction front generalizing text with
  | nil => simp [Along]
  | cons edit rest ih => simp only [List.cons_append, Along, List.foldl_cons, ih, and_assoc]

theorem along_understood_iff {edits : List Edit} (fits : Along Fits text edits) :
    Along Understood text edits ↔ Along Clear text edits := by
  induction edits generalizing text with
  | nil => exact Iff.rfl
  | cons edit rest ih => exact and_congr (understood_iff fits.1) (ih fits.2)

/-- The text that an edit brings. -/
def inserted : Edit → String
  | replace new => new
  | splice _ _ inserted => inserted

/-- Where no separator is typed, none gets in the way. -/
theorem along_clear_of_plain {edits : List Edit}
    (plain : ∀ c ∈ text.toList, Text.isSeparator c = false)
    (typed : ∀ edit ∈ edits, ∀ c ∈ edit.inserted.toList, Text.isSeparator c = false) :
    Along Clear text edits := by
  induction edits generalizing text with
  | nil => trivial
  | cons edit rest ih =>
    obtain ⟨first, others⟩ := List.forall_mem_cons.mp typed
    cases edit with
    | replace new => exact ⟨trivial, ih first others⟩
    | splice start stop inserted =>
      refine ⟨fun c member => plain c ?_, ih (fun c member => ?_) others⟩
      · exact List.mem_of_mem_take (List.dropLast_subset _ member)
      · rw [apply, String.toList_ofList, List.mem_append, List.mem_append] at member
        rcases member with (front | new) | back
        · exact plain c (List.mem_of_mem_take front)
        · exact first c new
        · exact plain c (List.mem_of_mem_drop back)

end Edit

namespace Document

/-- A document follows the revisions that a client makes of its own text. -/
def replay (text : String) (document : Document) : List Revision → Except DocumentError Document
  | [] => .ok document
  | revision :: rest =>
    (document.update ⟨revision.version, Edit.changes text revision.edits⟩).bind fun updated =>
      replay (revision.edits.foldl Edit.apply text) updated rest

theorem replay_of_understood (document : Document) {revisions : List Revision}
    (newer : (document.version :: revisions.map (·.version)).Pairwise (· < ·))
    (fits : Edit.Along Edit.Fits document.text (revisions.flatMap (·.edits)))
    (understood : Edit.Along Edit.Understood document.text (revisions.flatMap (·.edits))) :
    document.replay document.text revisions =
      .ok { document with
        version := (document.version :: revisions.map (·.version)).getLast (by simp)
        text := (revisions.flatMap (·.edits)).foldl Edit.apply document.text } := by
  induction revisions generalizing document with
  | nil => rfl
  | cons revision rest ih =>
    rw [List.flatMap_cons, Edit.along_append] at fits understood
    obtain ⟨first, others⟩ := List.pairwise_cons.mp newer
    have accepted : ¬ revision.version ≤ document.version := by
      have later := first revision.version (by simp)
      omega
    rw [replay, update, if_neg accepted, Edit.foldl_apply_changes fits.1 understood.1,
      List.flatMap_cons, List.foldl_append]
    let updated : Document :=
      { document with
        version := revision.version
        text := revision.edits.foldl Edit.apply document.text }
    exact ih updated others fits.2 understood.2

/-- The positions of a run of edits are understood as they are meant exactly if no separator
stands in front of an edit, and then the document has the text of the client. None does when there is
none in the text and none is typed. -/
theorem replay_eq (document : Document) (revisions : List Revision)
    (newer : (document.version :: revisions.map (·.version)).Pairwise (· < ·))
    (fits : Edit.Along Edit.Fits document.text (revisions.flatMap (·.edits))) :
    let edits := revisions.flatMap (·.edits)
    (Edit.Along Edit.Understood document.text edits ↔
        Edit.Along Edit.Clear document.text edits) ∧
      (Edit.Along Edit.Clear document.text edits →
        document.replay document.text revisions =
          .ok { document with
            version := (document.version :: revisions.map (·.version)).getLast (by simp)
            text := edits.foldl Edit.apply document.text }) ∧
      ((∀ c ∈ document.text.toList, Text.isSeparator c = false) →
        (∀ edit ∈ edits, ∀ c ∈ edit.inserted.toList, Text.isSeparator c = false) →
          Edit.Along Edit.Clear document.text edits) := by
  intro edits
  have understood := Edit.along_understood_iff fits
  exact ⟨understood, fun clear => replay_of_understood document newer fits (understood.mpr clear),
    Edit.along_clear_of_plain⟩

namespace Typed

def uri : Uri := { scheme := "file", authority := some {}, path := "/a.luau" }

/-- A character of two code units behind a line end of two characters. -/
def document : Document := ⟨uri, "luau", 1, "a\r\n𝄞b\n"⟩

/-- The first edit closes its line with the LF that is there already. -/
def revisions : List Revision :=
  [⟨2, [.splice 4 5 "c\r", .splice 7 7 "d"]⟩, ⟨5, [.splice 0 3 ""]⟩]

/-- A text with a line end that is none in the protocol. -/
def separated : Document := ⟨uri, "luau", 1, "a\u2028b"⟩

end Typed

theorem replay_eq_typed :
    Typed.document.replay Typed.document.text Typed.revisions =
      .ok { Typed.document with version := 5, text := "𝄞c\r\nd" } := by
  have newer : (Typed.document.version :: Typed.revisions.map (·.version)).Pairwise (· < ·) := by
    decide +kernel
  have fits : Edit.Along Edit.Fits Typed.document.text (Typed.revisions.flatMap (·.edits)) := by
    decide +kernel
  have clear : Edit.Along Edit.Clear Typed.document.text (Typed.revisions.flatMap (·.edits)) := by
    decide +kernel
  exact (replay_eq Typed.document Typed.revisions newer fits).2.1 clear

/-- Typed at the end of a text with a separator, an insertion goes in front of the last
character. -/
theorem replay_separated_ne :
    (Edit.splice 3 3 "x").Fits Typed.separated.text ∧
      (Edit.splice 3 3 "x").apply Typed.separated.text = "a\u2028bx" ∧
      Typed.separated.replay Typed.separated.text [⟨2, [.splice 3 3 "x"]⟩] =
        .ok { Typed.separated with version := 2, text := "a\u2028xb" } := by
  decide +kernel

end Document

end LuauWorkspace
