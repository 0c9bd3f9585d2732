import LuauWorkspace.Proofs.FileUri

/-!
# Paths seen from a root

A path that is joined to an absolute root adds its components to those of the root, and folding
takes back one name of the root for each step up. Seen from a root, a path climbs out of the
directories that it does not lie in and goes down from there, so joining it to the root leads to
the same place again. The relative paths that are found as they are written are those that never
go down into the directory that they have just left.
-/
namespace LuauWorkspace

namespace Text

theorem split_append_separator (separator : Char) (one two : List Char) :
    split separator (one ++ separator :: two) = split separator one ++ split separator two := by
  induction one with
  | nil => simp [split]
  | cons c rest ih =>
    simp only [List.cons_append, split, ih]
    split
    · rfl
    · cases pieces : split separator rest with
      | nil => exact absurd pieces (split_ne_nil separator rest)
      | cons piece more => rfl

theorem joined_pieces (separator : Char) (text : String) :
    joined separator (pieces separator text) = text := by
  have chars : (pieces separator text).map String.toList = split separator text.toList := by
    simp [pieces, Function.comp_def]
  rw [joined, chars, join_split, String.ofList_toList]

end Text

namespace Path

/-! ## Joined paths -/

/-- The components of an absolute path by the pieces of its text. -/
theorem components_of_split {p : Path} {rest : List (List Char)} (some_piece : rest ≠ [])
    (pieces : Text.split '/' p.text.toList = [] :: rest) :
    p.components = .root :: (rest.map String.ofList).filterMap Component.ofSegment? := by
  simp [components, Text.pieces, pieces, some_piece]

/-- An absolute path is one whose text starts with a slash. -/
theorem isAbsolute_iff (p : Path) :
    p.isAbsolute = true ↔ ∃ rest, Text.split '/' p.text.toList = [] :: rest ∧ rest ≠ [] := by
  constructor
  · intro absolute
    obtain ⟨rest, nonempty, pieces⟩ := pieces_of_isAbsolute absolute
    obtain ⟨first, more, cut, start, rfl⟩ := List.map_eq_cons_iff.mp pieces
    obtain rfl : first = [] := by simpa using congrArg String.toList start
    exact ⟨more, cut, by simpa using nonempty⟩
  · rintro ⟨rest, cut, nonempty⟩
    rw [isAbsolute, components_of_split nonempty cut]
    rfl

theorem isAbsolute_iff_startsWith (p : Path) :
    p.isAbsolute = true ↔ p.text.startsWith "/" = true := by
  rw [isAbsolute_iff, String.startsWith_string_iff]
  constructor
  · rintro ⟨rest, cut, nonempty⟩
    cases rest with
    | nil => exact absurd rfl nonempty
    | cons next others =>
      exact ⟨_, by rw [← Text.join_split '/' p.text.toList, cut]; rfl⟩
  · rintro ⟨rest, text⟩
    exact ⟨Text.split '/' rest, by rw [← text]; rfl, Text.split_ne_nil _ _⟩

theorem text_ne_of_isAbsolute {p : Path} (absolute : p.isAbsolute = true) : p.text ≠ "" := by
  intro blank
  rw [isAbsolute_iff_startsWith, blank, String.startsWith_string_iff] at absolute
  simp at absolute

/-- Joining puts one slash between two texts. -/
theorem exists_front_join {root path : Path} (nonblank : root.text ≠ "")
    (relative : path.isAbsolute = false) :
    ∃ front closing, (closing = [] ∨ closing = ['/']) ∧ root.text.toList = front ++ closing ∧
      (root.join path).text.toList = front ++ '/' :: path.text.toList := by
  have start : path.text.startsWith "/" = false := by
    rw [← Bool.not_eq_true, ← isAbsolute_iff_startsWith, relative]
    simp
  unfold join
  rw [if_neg (by simp [start])]
  by_cases slash : root.text.endsWith "/" = true
  · have last := slash
    rw [String.endsWith_eq_endsWith_toSlice, String.Slice.endsWith_string_iff,
      String.copy_toSlice] at last
    obtain ⟨front, text⟩ := last
    refine ⟨front, ['/'], Or.inr rfl, text.symm, ?_⟩
    rw [if_pos (Or.inr slash), String.toList_append, ← text]
    simp
  · refine ⟨root.text.toList, [], Or.inl rfl, by simp, ?_⟩
    rw [if_neg (by simp [nonblank, slash])]
    simp

/-- The pieces of a joined path are those of both paths, less an empty one at the seam. -/
theorem exists_pieces_join {root path : Path} (nonblank : root.text ≠ "")
    (relative : path.isAbsolute = false) :
    ∃ first front closing, closing.filterMap Component.ofSegment? = [] ∧
      Text.pieces '/' root.text = first :: (front ++ closing) ∧
      Text.pieces '/' (root.join path).text = first :: (front ++ Text.pieces '/' path.text) := by
  obtain ⟨front, closing, closed, text, joined⟩ := exists_front_join nonblank relative
  have behind := Text.split_append_separator '/' front path.text.toList
  cases cut : Text.split '/' front with
  | nil => exact absurd cut (Text.split_ne_nil _ _)
  | cons first rest =>
    rw [cut] at behind
    rcases closed with rfl | rfl
    · rw [List.append_nil] at text
      refine ⟨String.ofList first, rest.map String.ofList, [], rfl, ?_, ?_⟩
      · simp [Text.pieces, text, cut]
      · simp [Text.pieces, joined, behind]
    · -- A slash at the end of the root closes it with an empty piece, which is no component.
      have closes := Text.split_append_separator '/' front []
      rw [cut] at closes
      refine ⟨String.ofList first, rest.map String.ofList, [""], by decide, ?_, ?_⟩
      · simp [Text.pieces, text, closes, Text.split]
      · simp [Text.pieces, joined, behind]

/-- What the first piece of a text stands for. -/
def opening (first : String) : List Component :=
  if first = "" then [.root]
  else if first = "." then [.here]
  else (Component.ofSegment? first).toList

theorem components_eq_opening {p : Path} {first : String} {rest : List String}
    (nonblank : p.text ≠ "") (pieces : Text.pieces '/' p.text = first :: rest) :
    p.components = opening first ++ rest.filterMap Component.ofSegment? := by
  have start : first = "" → rest ≠ [] := by
    rintro rfl rfl
    exact nonblank (by rw [← Text.joined_pieces '/' p.text, pieces]; rfl)
  rw [components, pieces, opening]
  by_cases empty : first = ""
  · simp [empty, start empty]
  · by_cases here : first = "." <;> simp [empty, here]

/-- A relative path adds its components to those of the root. -/
theorem components_join {root path : Path} (nonblank : root.text ≠ "")
    (relative : path.isAbsolute = false) :
    (root.join path).components =
      root.components ++ (Text.pieces '/' path.text).filterMap Component.ofSegment? := by
  obtain ⟨first, front, closing, nothing, base, joined⟩ := exists_pieces_join nonblank relative
  have longer : (root.join path).text ≠ "" := by
    intro blank
    have alone : Text.pieces '/' "" = [""] := by decide
    rw [blank, alone] at joined
    have empty := List.append_eq_nil_iff.mp (List.cons.inj joined).2.symm
    exact Text.split_ne_nil '/' path.text.toList (List.map_eq_nil_iff.mp empty.2)
  rw [components_eq_opening longer joined, components_eq_opening nonblank base,
    List.filterMap_append, List.filterMap_append, nothing, List.append_nil, List.append_assoc]

theorem isAbsolute_join {root : Path} (base : root.isAbsolute = true) (path : Path) :
    (root.join path).isAbsolute = true := by
  cases kind : path.isAbsolute with
  | true => rw [join_of_absolute root path ((isAbsolute_iff_startsWith path).mp kind), kind]
  | false =>
    obtain ⟨below, split, -⟩ := components_of_isAbsolute base
    rw [isAbsolute, components_join (text_ne_of_isAbsolute base) kind, split]
    rfl

/-! ## Names below the root -/

/-- The names of an absolute path when it is folded. -/
def names (p : Path) : List String := fold true p.components

theorem written_of_mem_names {p : Path} {name : String} (member : name ∈ p.names) :
    (Component.name name).Written :=
  (mem_fold (fun _ => written_of_mem_components) member).resolve_right (by simp)

theorem normalize_of_isAbsolute {p : Path} (absolute : p.isAbsolute = true) :
    p.normalize = ofNames true p.names := by
  have first : decide (p.components.head? = some .root) = true := absolute
  rw [normalize, ofComponents, first]
  rfl

theorem components_normalize {p : Path} (absolute : p.isAbsolute = true) :
    p.normalize.components = .root :: p.names.map .name := by
  rw [normalize_of_isAbsolute absolute]
  exact components_ofNames fun _ => written_of_mem_names

theorem isAbsolute_normalize {p : Path} (absolute : p.isAbsolute = true) :
    p.normalize.isAbsolute = true := by
  rw [isAbsolute, components_normalize absolute]
  rfl

theorem ne_parent_of_written {name : String} (written : (Component.name name).Written) :
    name ≠ ".." := by
  rintro rfl
  exact absurd written.1 (by decide)

/-! ## Ways up and down -/

/-- The relative path that climbs out of the directories `above` and goes down through `below`. -/
def way (above below : List String) : Path :=
  ofNames false (above.map (fun _ => "..") ++ below)

/-- What is reached first on the way down is not what was left last on the way up. -/
def Apart (above below : List String) : Prop := ∀ name ∈ below.head?, name ∉ above.head?

theorem foldl_push_parents {stack : List String} (level : ∀ name ∈ stack, name ≠ "..")
    (above : List String) :
    (above.map fun _ => Component.parent).foldl (push true) stack = stack.drop above.length := by
  induction above generalizing stack with
  | nil => rfl
  | cons _ rest ih =>
    cases stack with
    | nil => simpa [push] using ih level
    | cons top below =>
      have here : top ≠ ".." := level top (List.mem_cons_self ..)
      rw [List.map_cons, List.foldl_cons, push, if_pos here,
        ih fun name member => level name (List.mem_cons_of_mem _ member)]
      rfl

theorem foldl_push_climbing (above : List String) (climbed : Nat) :
    (above.map fun _ => Component.parent).foldl (push false) (List.replicate climbed "..") =
      List.replicate (above.length + climbed) ".." := by
  induction above generalizing climbed with
  | nil => simp
  | cons _ rest ih =>
    have step : push false (List.replicate climbed "..") .parent =
        List.replicate (climbed + 1) ".." := by
      cases climbed <;> simp [push, List.replicate_succ]
    rw [List.map_cons, List.foldl_cons, step, ih, List.length_cons]
    congr 1
    omega

theorem ofComponents_way (above below : List String) :
    ofComponents (above.map (fun _ => .parent) ++ below.map .name) = way above below := by
  have relative :
      (above.map (fun _ => Component.parent) ++ below.map Component.name).head? ≠ some .root := by
    cases above <;> cases below <;> simp
  have climbs := foldl_push_climbing above 0
  rw [ofComponents, decide_eq_false relative, way, fold, List.foldl_append]
  rw [List.replicate_zero] at climbs
  rw [climbs, foldl_push_names]
  simp [List.map_const']

/-- A way as it stands between slashes. -/
theorem filterMap_pieces_way (above : List String) {below : List String}
    (written : ∀ name ∈ below, (Component.name name).Written) :
    (way above below).isAbsolute = false ∧
      (Text.pieces '/' (way above below).text).filterMap Component.ofSegment? =
        above.map (fun _ => .parent) ++ below.map .name := by
  let steps : List Component := above.map (fun _ => .parent) ++ below.map .name
  have texts : above.map (fun _ => "..") ++ below = steps.map Component.text := by
    simp [steps, Function.comp_def, Component.text]
  have whole : ∀ step ∈ steps, step.Written := by
    intro step member
    rcases List.mem_append.mp member with climbs | down
    · obtain ⟨_, _, rfl⟩ := List.mem_map.mp climbs
      exact ⟨by decide, by decide⟩
    · obtain ⟨name, present, rfl⟩ := List.mem_map.mp down
      exact written name present
  have kept : ∀ name ∈ steps.map Component.text, name ≠ "" ∧ '/' ∉ name.toList := by
    intro name member
    obtain ⟨step, present, rfl⟩ := List.mem_map.mp member
    refine ⟨fun blank => ?_, (whole step present).2⟩
    have read := (whole step present).1
    rw [blank] at read
    exact absurd read (by simp [Component.ofSegment?])
  rw [way, texts]
  refine ⟨isAbsolute_ofNames kept, ?_⟩
  by_cases nowhere : steps.map Component.text = []
  · have stays : steps = [] := List.map_eq_nil_iff.mp nowhere
    rw [nowhere]
    change _ = steps
    rw [stays]
    decide
  · rw [pieces_ofNames nowhere kept, Component.filterMap_ofSegment? whole]

/-- Climbing out of directories of the root and going down from there. -/
theorem names_join_way {root : Path} (base : root.isAbsolute = true)
    {shared above below : List String} (names : root.names = shared ++ above)
    (written : ∀ name ∈ below, (Component.name name).Written) :
    (root.join (way above below)).names = shared ++ below := by
  obtain ⟨relative, steps⟩ := filterMap_pieces_way above written
  have stack : root.components.foldl (push true) [] = (shared ++ above).reverse := by
    rw [← names, Path.names, fold, List.reverse_reverse]
  have level : ∀ name ∈ (shared ++ above).reverse, name ≠ ".." := fun name member =>
    ne_parent_of_written (written_of_mem_names (names ▸ List.mem_reverse.mp member))
  rw [Path.names, components_join (text_ne_of_isAbsolute base) relative, steps, fold, List.foldl_append,
    List.foldl_append, stack, foldl_push_parents level, foldl_push_names]
  simp

/-! ## Seen from a root -/

theorem steps?_append (shared path base : List Component) :
    steps? (shared ++ path) (shared ++ base) = steps? path base := by
  induction shared with
  | nil => rfl
  | cons first rest ih => simp [steps?, ih]

theorem steps?_of_apart {above below : List String} (apart : Apart above below) :
    steps? (below.map .name) (above.map .name) =
      some (above.map (fun _ => .parent) ++ below.map .name) := by
  cases above with
  | nil => simp [steps?]
  | cons last rest =>
    cases below with
    | nil => simp [steps?, Function.comp_def]
    | cons first more =>
      have differs : first ≠ last := by simpa [Apart, eq_comm] using apart
      simp [steps?, differs, Function.comp_def]

theorem exists_shared (one two : List String) :
    ∃ shared above below, one = shared ++ below ∧ two = shared ++ above ∧ Apart above below := by
  induction one generalizing two with
  | nil => exact ⟨[], two, [], rfl, rfl, by simp [Apart]⟩
  | cons first rest ih =>
    cases two with
    | nil => exact ⟨[], [], first :: rest, rfl, rfl, by simp [Apart]⟩
    | cons last more =>
      by_cases same : first = last
      · obtain ⟨shared, above, below, rfl, rfl, apart⟩ := ih more
        exact ⟨first :: shared, above, below, rfl, same ▸ rfl, apart⟩
      · exact ⟨[], last :: more, first :: rest, rfl, rfl, by simpa [Apart, eq_comm] using same⟩

theorem relativeTo_eq_way {root path : Path} (base : root.isAbsolute = true)
    (absolute : path.isAbsolute = true) {shared above below : List String}
    (place : path.names = shared ++ below) (names : root.names = shared ++ above)
    (apart : Apart above below) : path.relativeTo root = way above below := by
  have steps : steps? path.normalize.components root.normalize.components =
      some (above.map (fun _ => .parent) ++ below.map .name) := by
    rw [components_normalize absolute, components_normalize base, place, names, List.map_append,
      List.map_append, ← List.cons_append, ← List.cons_append, steps?_append,
      steps?_of_apart apart]
  simp only [relativeTo, isAbsolute_normalize absolute, isAbsolute_normalize base, if_true, steps,
    ofComponents_way]

/-- A relative path that is a way from the root and does not come back into what it left. -/
def Straight (root path : Path) : Prop :=
  ∃ shared above below, root.names = shared ++ above ∧ Apart above below ∧
    (∀ name ∈ below, (Component.name name).Written) ∧ path = way above below

/-- Paths that only go down are straight. -/
theorem straight_ofNames {root : Path} {below : List String}
    (written : ∀ name ∈ below, (Component.name name).Written) :
    Straight root (ofNames false below) :=
  ⟨root.names, [], below, by simp, by simp [Apart], written, rfl⟩

theorem straight_relativeTo {root path : Path} (base : root.isAbsolute = true)
    (absolute : path.isAbsolute = true) : Straight root (path.relativeTo root) := by
  obtain ⟨shared, above, below, place, names, apart⟩ := exists_shared path.names root.names
  refine ⟨shared, above, below, names, apart, fun name member => ?_,
    relativeTo_eq_way base absolute place names apart⟩
  exact written_of_mem_names (place ▸ List.mem_append_right _ member)

/-- A straight path is what is seen from the root of the place that it leads to. -/
theorem relativeTo_join_iff {root : Path} (base : root.isAbsolute = true) (path : Path) :
    (root.join path).relativeTo root = path ↔ Straight root path := by
  constructor
  · intro same
    exact same ▸ straight_relativeTo base (isAbsolute_join base path)
  · rintro ⟨shared, above, below, names, apart, written, rfl⟩
    exact relativeTo_eq_way base (isAbsolute_join base _) (names_join_way base names written) names
      apart

/-- Joined to its root, a path that is seen from there leads back to where it was seen. -/
theorem normalize_join_relativeTo {root path : Path} (base : root.isAbsolute = true)
    (absolute : path.isAbsolute = true) :
    (root.join (path.relativeTo root)).normalize = path.normalize := by
  obtain ⟨shared, above, below, place, names, apart⟩ := exists_shared path.names root.names
  have written : ∀ name ∈ below, (Component.name name).Written := fun name member =>
    written_of_mem_names (place ▸ List.mem_append_right _ member)
  rw [relativeTo_eq_way base absolute place names apart,
    normalize_of_isAbsolute (isAbsolute_join base _), names_join_way base names written,
    normalize_of_isAbsolute absolute, place]

end Path

namespace ModuleName

theorem isAbsolute_ofPath {path : Path} (absolute : path.isAbsolute = true) :
    (ofPath path).path.isAbsolute = true := Path.isAbsolute_normalize absolute

end ModuleName

end LuauWorkspace
