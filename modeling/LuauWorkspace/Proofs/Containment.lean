import LuauWorkspace.Workspace
import LuauWorkspace.Proofs.Scripts

/-!
# Paths that climb out of a root

A way that is seen from a root is normalized as it stands: the steps up come first and the names
behind them. It has steps up exactly if some name of the root is none of the path at its place, that
is if the path does not lie below the root. Both are told by the folded paths alone. So whether a
file belongs to a workspace can be read off the first component of its relative path.
-/
namespace LuauWorkspace

namespace Path

theorem kept_of_written {name : String} (written : (Component.name name).Written) :
    (name ≠ "" ∧ name ≠ ".") ∧ '/' ∉ name.toList := by
  refine ⟨?_, written.2⟩
  have read : Component.ofSegment? name ≠ none := fun lost => by
    have kept : Component.ofSegment? name = some (.name name) := written.1
    rw [lost] at kept
    simp at kept
  rwa [Ne, ofSegment?_eq_none_iff, not_or] at read

/-- A path that does not start with a slash or a dot has a component for each of its pieces. -/
theorem components_of_pieces {p : Path} {first : String} {rest : List String}
    (pieces : Text.pieces '/' p.text = first :: rest) (starts : first ≠ "" ∧ first ≠ ".") :
    p.components = (Text.pieces '/' p.text).filterMap Component.ofSegment? := by
  rw [components, pieces, List.filterMap_cons]
  dsimp only
  rw [if_neg starts.1, if_neg starts.2]
  cases Component.ofSegment? first <;> rfl

/-- A way that leads nowhere is the directory itself. -/
theorem components_way (above : List String) {below : List String}
    (written : ∀ name ∈ below, (Component.name name).Written) :
    (way above below).components =
      if above = [] ∧ below = [] then [.here]
      else above.map (fun _ => .parent) ++ below.map .name := by
  split
  next stays =>
    obtain ⟨rfl, rfl⟩ := stays
    decide
  next moves =>
    have kept : ∀ name ∈ above.map (fun _ => "..") ++ below,
        (name ≠ "" ∧ name ≠ ".") ∧ '/' ∉ name.toList := by
      intro name member
      rcases List.mem_append.mp member with climbs | down
      · obtain ⟨_, _, rfl⟩ := List.mem_map.mp climbs
        exact ⟨by decide, by decide⟩
      · exact kept_of_written (written name down)
    -- There is a first name, and it is no lone dot that would stand for the directory itself.
    have some_name : above.map (fun _ => "..") ++ below ≠ [] := by simpa using moves
    obtain ⟨first, rest, names⟩ := List.exists_cons_of_ne_nil some_name
    have pieces : Text.pieces '/' (way above below).text = first :: rest := by
      rw [way, pieces_ofNames some_name fun name member =>
        ⟨(kept name member).1.1, (kept name member).2⟩, names]
    have starts := (kept first (names ▸ List.mem_cons_self ..)).1
    rw [components_of_pieces pieces starts, (filterMap_pieces_way above written).2]

theorem normalize_way (above : List String) {below : List String}
    (written : ∀ name ∈ below, (Component.name name).Written) :
    (way above below).normalize = way above below := by
  rw [normalize, components_way above written]
  split
  next stays =>
    obtain ⟨rfl, rfl⟩ := stays
    decide
  next moves => exact ofComponents_way above below

/-- A way starts with a step up exactly if it climbs out of anything. -/
theorem head?_components_way (above : List String) {below : List String}
    (written : ∀ name ∈ below, (Component.name name).Written) :
    (way above below).components.head? = some .parent ↔ above ≠ [] := by
  rw [components_way above written]
  cases above with
  | nil => cases below <;> simp
  | cons last rest => simp

/-- Nothing is climbed out of exactly if the names of the root begin those of the path. -/
theorem prefix_append_iff_of_apart {shared above below : List String} (apart : Apart above below) :
    shared ++ above <+: shared ++ below ↔ above = [] := by
  rw [List.prefix_append_right_inj]
  constructor
  -- A name that both go on with would be shared.
  · rintro ⟨rest, rfl⟩
    cases above with
    | nil => rfl
    | cons last more => exact absurd rfl (apart last rfl)
  · rintro rfl
    exact List.nil_prefix

/-- What is seen depends on the folded paths alone. -/
theorem relativeTo_congr {root other path spelled : Path}
    (same : path.normalize = spelled.normalize) (roots : root.normalize = other.normalize) :
    path.relativeTo root = spelled.relativeTo other := by
  unfold relativeTo
  rw [same, roots]

theorem startsWith_normalize_iff {root path : Path} (base : root.isAbsolute = true)
    (absolute : path.isAbsolute = true) :
    path.normalize.startsWith root.normalize = true ↔ root.names <+: path.names := by
  rw [startsWith, components_normalize base, components_normalize absolute,
    List.isPrefixOf_iff_prefix, List.cons_prefix_cons]
  simp [List.prefix_map_iff_of_injective (f := Component.name) fun _ _ same => by simpa using same]

/-- The first step is one up exactly if the path does not lie below the root. -/
theorem head?_components_relativeTo {root path : Path} (base : root.isAbsolute = true)
    (absolute : path.isAbsolute = true) :
    (path.relativeTo root).components.head? = some .parent ↔
      path.normalize.startsWith root.normalize = false := by
  obtain ⟨shared, above, below, place, names, apart⟩ := exists_shared path.names root.names
  have written : ∀ name ∈ below, (Component.name name).Written := fun name member =>
    written_of_mem_names (place ▸ List.mem_append_right _ member)
  rw [relativeTo_eq_way base absolute place names apart, head?_components_way above written,
    ← Bool.not_eq_true, startsWith_normalize_iff base absolute, place, names,
    prefix_append_iff_of_apart apart]

end Path

namespace Workspace

variable {ε : Type} (workspace : Workspace ε)

/-- The way from the root to a file begins with a step up. -/
def ClimbsTo (path : Path) : Prop :=
  (⟨workspace.files.relative path⟩ : Path).components.head? = some .parent

theorem climbsTo_iff {path : Path} (base : workspace.root.isAbsolute = true)
    (absolute : path.isAbsolute = true) :
    workspace.ClimbsTo path ↔ path.normalize.startsWith workspace.root.normalize = false := by
  rw [ClimbsTo, Files.mk_relative]
  exact Path.head?_components_relativeTo base absolute

/-- A folder whose root is written as it folds contains what the root does not climb to. -/
theorem contains_iff {uri : Uri} {path : Path} (base : workspace.root.isAbsolute = true)
    (folded : workspace.root.components = workspace.root.normalize.components)
    (read : uri.toFilePath? = some path) :
    workspace.contains uri = true ↔ workspace.isNull = false ∧ ¬ workspace.ClimbsTo path := by
  have rooted := Path.text_ne_of_isAbsolute base
  -- Only components are compared, so the root may as well be the folded one.
  have below : path.normalize.startsWith workspace.root =
      path.normalize.startsWith workspace.root.normalize := by
    rw [Path.startsWith, Path.startsWith, folded]
  rw [climbsTo_iff workspace base (Uri.isAbsolute_toFilePath? read), Bool.not_eq_false, contains,
    read]
  cases workspace.isNull <;> simp [rooted, below]

namespace Neighbours

/-- A folder beside one whose name continues its own. -/
def created : Workspace LineEngine := .ofFolder "place" (Place.file "") {} {}

def inside : Uri := Place.file "sub/../one.lua"

def beside : Uri := { scheme := "file", authority := some {}, path := "/placebo//./one.lua" }

end Neighbours

end Workspace

end LuauWorkspace
