import LuauWorkspace.Proofs.Folding

/-!
# Canonical paths

A canonical text is a dot, or consists of segments that say something where they stand: no empty
ones, no dots, and steps up only in front of a relative path. Folding ends with such texts and leaves
them as they are. As the names of modules are normalized paths, a place has one name however it is
spelled.
-/
namespace LuauWorkspace

namespace Path

/-- The parts of a text between slashes, without the empty one in front of a leading slash. -/
def segments (p : Path) : List String :=
  match Text.pieces '/' p.text with
  | [] => []
  | first :: rest =>
    if first ≠ "" then first :: rest
    else if rest = [""] then []
    else rest

/-- A dot, or segments that are neither empty nor dots, with steps up only in front and only in a
relative path. -/
def Canonical (p : Path) : Prop :=
  p.text = "." ∨
    (p.text ≠ "" ∧ "" ∉ p.segments ∧ "." ∉ p.segments ∧
      ∃ climbs names, p.segments = List.replicate climbs ".." ++ names ∧ ".." ∉ names ∧
        (p.text.startsWith "/" = true → climbs = 0))

theorem written_iff {name : String} :
    (Component.name name).Written ↔
      name ≠ "" ∧ name ≠ "." ∧ name ≠ ".." ∧ '/' ∉ name.toList := by
  rw [Component.Written, Component.text, Component.ofSegment?]
  split
  next lost =>
    constructor
    · rintro ⟨absent, -⟩
      simp at absent
    · rintro ⟨nonempty, other, -⟩
      exact absurd lost (by simp [nonempty, other])
  next kept =>
    rw [not_or] at kept
    split
    next climbs => simp [climbs]
    next level => simp [kept, level]

theorem pieces_ofNames_absolute {names : List String} (some_name : names ≠ [])
    (kept : ∀ name ∈ names, name ≠ "" ∧ '/' ∉ name.toList) :
    Text.pieces '/' (ofNames true names).text = "" :: names := by
  have below := pieces_ofNames some_name kept
  have text : (ofNames true names).text = "/" ++ (ofNames false names).text := by
    simp [ofNames, some_name]
  rw [text, Text.pieces, String.toList_append]
  simpa [Text.pieces, Text.split] using below

theorem Folded.segments_path {absolute : Bool} (folded : Folded absolute) :
    folded.path.text = "." ∨
      folded.path.segments = List.replicate folded.climbs ".." ++ folded.names := by
  obtain ⟨climbs, names, top, written⟩ := folded
  have kept : ∀ name ∈ List.replicate climbs ".." ++ names, name ≠ "" ∧ '/' ∉ name.toList := by
    intro name member
    rcases List.mem_append.mp member with climb | down
    · obtain rfl := (List.mem_replicate.mp climb).2
      decide
    · exact ⟨nonempty_of_written (written name down), (written name down).2⟩
  by_cases nowhere : List.replicate climbs ".." ++ names = []
  · cases absolute with
    | true => exact Or.inr (by simp only [path, nowhere]; decide)
    | false => exact Or.inl (by simp only [path, nowhere]; rfl)
  · refine Or.inr ?_
    obtain ⟨first, rest, split⟩ := List.exists_cons_of_ne_nil nowhere
    have start := (kept first (split ▸ List.mem_cons_self ..)).1
    simp only [path]
    cases absolute with
    | true =>
      have some_name : ¬ first :: rest = [""] := by simp [start]
      rw [segments, pieces_ofNames_absolute nowhere kept, split]
      simp [some_name]
    | false =>
      rw [segments, pieces_ofNames nowhere kept, split]
      simp [start]

theorem Folded.canonical_path {absolute : Bool} (folded : Folded absolute) :
    folded.path.Canonical := by
  rcases folded.segments_path with dot | split
  · exact Or.inl dot
  have level : ".." ∉ folded.names := fun member =>
    (written_iff.mp (folded.written ".." member)).2.2.1 rfl
  have plain : ∀ segment ∈ folded.path.segments, segment ≠ "" ∧ segment ≠ "." := by
    intro segment member
    rw [split] at member
    rcases List.mem_append.mp member with climb | down
    · obtain rfl := (List.mem_replicate.mp climb).2
      decide
    · have written := written_iff.mp (folded.written segment down)
      exact ⟨written.1, written.2.1⟩
  refine Or.inr ⟨?_, fun member => (plain "" member).1 rfl, fun member => (plain "." member).2 rfl,
    folded.climbs, folded.names, split, level, ?_⟩
  · intro blank
    have nothing : folded.path.segments = [] := by
      rw [segments, blank]
      decide
    -- Without names the path is a slash or a dot.
    rw [path, ← split, nothing] at blank
    cases absolute <;> exact absurd blank (by decide)
  · rw [← isAbsolute_iff_startsWith, folded.isAbsolute_path]
    exact folded.top

/-- The canonical spellings are those of the forms that folding ends with. -/
theorem Canonical.exists_folded {p : Path} (canonical : p.Canonical) :
    ∃ absolute, ∃ folded : Folded absolute, p = folded.path := by
  rcases canonical with dot | ⟨nonblank, nonempty, moves, climbs, names, split, level, top⟩
  · have same : p = ⟨"."⟩ := by cases p; simpa using dot
    exact ⟨false, Folded.start false, same⟩
  have written : ∀ name ∈ names, '/' ∉ name.toList → (Component.name name).Written := by
    intro name member whole
    have inside : name ∈ p.segments := split ▸ List.mem_append_right _ member
    refine written_iff.mpr ⟨?_, ?_, ?_, whole⟩
    · exact fun empty => nonempty (empty ▸ inside)
    · exact fun here => moves (here ▸ inside)
    · exact fun climb => level (climb ▸ member)
  have text := Text.joined_pieces '/' p.text
  have unslashed : ∀ piece ∈ Text.pieces '/' p.text, '/' ∉ piece.toList := fun _ =>
    slash_not_mem_pieces
  cases pieces : Text.pieces '/' p.text with
  | nil => exact absurd (List.map_eq_nil_iff.mp pieces) (Text.split_ne_nil _ _)
  | cons first rest =>
    rw [pieces] at text unslashed
    simp only [segments, pieces] at split
    by_cases start : first = ""
    · subst start
      have some_piece : rest ≠ [] := by
        rintro rfl
        exact nonblank (text.symm.trans (by decide))
      have behind : p = ⟨"/" ++ Text.joined '/' rest⟩ := by
        obtain ⟨second, others, rfl⟩ := List.exists_cons_of_ne_nil some_piece
        cases p
        simpa [Text.joined, Text.join, String.ofList_cons, eq_comm] using text
      by_cases alone : rest = [""]
      · exact ⟨true, Folded.start true, behind.trans (by rw [alone]; decide)⟩
      · rw [if_neg (by simp), if_neg alone] at split
        have absolute : p.isAbsolute = true := by
          rw [isAbsolute, components_eq_opening nonblank pieces]
          rfl
        obtain rfl : climbs = 0 := top ((isAbsolute_iff_startsWith p).mp absolute)
        obtain rfl : rest = names := by simpa using split
        have kept : ∀ name ∈ rest, (Component.name name).Written := fun name member =>
          written name member (unslashed name (List.mem_cons_of_mem _ member))
        exact ⟨true, ⟨0, rest, fun _ => rfl, kept⟩, behind⟩
    · rw [if_pos start] at split
      have kept : ∀ name ∈ names, (Component.name name).Written := fun name member =>
        written name member (unslashed name (split ▸ List.mem_append_right _ member))
      have whole : p = ofNames false (List.replicate climbs ".." ++ names) := by
        rw [ofNames, ← split, text]
        simp
      exact ⟨false, ⟨climbs, names, by simp, kept⟩, whole⟩

theorem normalize_eq_self_iff (p : Path) : p.normalize = p ↔ p.Canonical := by
  constructor
  · intro same
    obtain ⟨folded, form, -⟩ := exists_folded p
    rw [← same, form]
    exact folded.canonical_path
  · intro canonical
    obtain ⟨absolute, folded, rfl⟩ := canonical.exists_folded
    exact folded.normalize_path

/-! ## One name for each place -/

/-- Normalized paths are the canonical ones, joining may be done before or after, and two spellings
name one module exactly if they fold to the same components. -/
theorem canonical_normalize :
    (∀ p : Path, p.normalize.normalize = p.normalize ∧ p.normalize.Canonical ∧
      (p.normalize = p ↔ p.Canonical)) ∧
    (∀ base path : Path,
      (base.join path).normalize = (base.normalize.join path.normalize).normalize) ∧
    (∀ p q : Path, ModuleName.ofPath p = ModuleName.ofPath q ↔
      Relation.Join FoldsTo p.components q.components) ∧
    (∀ (uri other : Uri) (p q : Path), uri.scheme = "file" → other.scheme = "file" →
      uri.toFilePath? = some p → other.toFilePath? = some q →
        (ModuleName.ofUri uri = ModuleName.ofUri other ↔
          Relation.Join FoldsTo p.components q.components)) := by
  have names (p q : Path) : ModuleName.ofPath p = ModuleName.ofPath q ↔
      Relation.Join FoldsTo p.components q.components := by
    rw [← normalize_eq_iff, ModuleName.ofPath, ModuleName.ofPath, ModuleName.mk.injEq]
    constructor
    · intro same
      cases one : p.normalize
      cases two : q.normalize
      simpa [one, two] using same
    · exact congrArg Path.text
  refine ⟨fun p => ⟨p.normalize_idempotent, ?_, p.normalize_eq_self_iff⟩, normalize_join, names, ?_⟩
  · exact (normalize_eq_self_iff _).mp p.normalize_idempotent
  · intro uri other p q first second read again
    rw [ModuleName.ofUri, ModuleName.ofUri, if_pos first, if_pos second, read, again]
    exact names p q

namespace Respelled

def winding : Uri :=
  { scheme := "file", authority := some {}, path := "/work/./game/..//lib/u.luau" }

def direct : Uri := { scheme := "file", authority := some {}, path := "/work/lib/u.luau" }

end Respelled

/-- A detour into a directory and out of it again leads to the same module. -/
theorem canonical_normalize_respelled :
    Respelled.winding.toFilePath? = some ⟨"/work/./game/..//lib/u.luau"⟩ ∧
      Respelled.direct.toFilePath? = some ⟨"/work/lib/u.luau"⟩ ∧
      ModuleName.ofUri Respelled.winding = ModuleName.ofUri Respelled.direct := by
  have read : Respelled.winding.toFilePath? = some ⟨"/work/./game/..//lib/u.luau"⟩ := by
    decide +kernel
  have again : Respelled.direct.toFilePath? = some ⟨"/work/lib/u.luau"⟩ := by decide +kernel
  refine ⟨read, again, (canonical_normalize.2.2.2 _ _ _ _ rfl rfl read again).mpr ?_⟩
  have winds : components ⟨"/work/./game/..//lib/u.luau"⟩ =
      [.root, .name "work", .name "game", .parent, .name "lib", .name "u.luau"] := by
    decide +kernel
  have straight : components ⟨"/work/lib/u.luau"⟩ =
      [.root, .name "work", .name "lib", .name "u.luau"] := by
    decide +kernel
  rw [winds, straight]
  exact ⟨_, .single (.back [.root, .name "work"] [.name "lib", .name "u.luau"] "game"), .refl⟩

end Path

end LuauWorkspace
