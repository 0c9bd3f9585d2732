import LuauWorkspace.Proofs.Encoding
import LuauWorkspace.Proofs.Instances
import LuauWorkspace.Uri.FilePath

/-!
# Files and their URIs

The URI of an absolute path reads back as a path with the same components, so it names the module
that the path names, and two paths have one URI exactly if they have the same components. Folding
leaves components without `..` as they are. So only paths that climb can be written in several
ways and still name one file.
-/
namespace LuauWorkspace

namespace Text

/-- Pieces with a separator in front of each. -/
theorem flatMap_separator (separator : Char) (pieces : List (List Char)) (some_piece : pieces ≠ []) :
    pieces.flatMap (separator :: ·) = separator :: join separator pieces := by
  induction pieces with
  | nil => exact absurd rfl some_piece
  | cons piece rest ih =>
    cases rest with
    | nil => simp [join]
    | cons next more =>
      rw [List.flatMap_cons, ih (by simp)]
      simp [join]

theorem split_flatMap_separator (separator : Char) (pieces : List (List Char))
    (some_piece : pieces ≠ []) (absent : ∀ piece ∈ pieces, separator ∉ piece) :
    split separator (pieces.flatMap (separator :: ·)) = [] :: pieces := by
  rw [flatMap_separator separator pieces some_piece, split, if_pos rfl,
    split_join separator pieces some_piece absent]

end Text

namespace Path

/-! ## Components -/

namespace Component

/-- What a name between slashes can be read as. -/
def Written (component : Component) : Prop :=
  ofSegment? component.text = some component ∧ '/' ∉ component.text.toList

theorem text_of_ofSegment? {segment : String} {component : Component}
    (read : ofSegment? segment = some component) :
    component.text = segment ∧ component ≠ .root := by
  unfold ofSegment? at read
  split at read
  · simp at read
  · split at read
    next climbs =>
      cases read
      exact ⟨climbs.symm, by simp⟩
    · cases read
      exact ⟨rfl, by simp⟩

theorem written_of_mem_filterMap {segments : List String} {component : Component}
    (whole : ∀ segment ∈ segments, '/' ∉ segment.toList)
    (member : component ∈ segments.filterMap ofSegment?) :
    component.Written ∧ component ≠ .root := by
  obtain ⟨segment, present, read⟩ := List.mem_filterMap.mp member
  obtain ⟨same, other⟩ := text_of_ofSegment? read
  exact ⟨⟨same.symm ▸ read, same.symm ▸ whole segment present⟩, other⟩

theorem name_text {component : Component} (written : component.Written)
    (level : component ≠ .parent) : name component.text = component := by
  cases component with
  | name text => rfl
  | parent => exact absurd rfl level
  | root => simp [Written, text, ofSegment?] at written
  | here => simp [Written, text, ofSegment?] at written

theorem filterMap_ofSegment? {below : List Component} (written : ∀ c ∈ below, c.Written) :
    (below.map text).filterMap ofSegment? = below := by
  induction below with
  | nil => rfl
  | cons first rest ih =>
    have here := (written first (List.mem_cons_self ..)).1
    have others := ih fun c member => written c (List.mem_cons_of_mem _ member)
    simp only [List.map_cons, List.filterMap_cons, here, others]

end Component

theorem slash_not_mem_pieces {text piece : String} (member : piece ∈ Text.pieces '/' text) :
    '/' ∉ piece.toList := by
  obtain ⟨chars, present, rfl⟩ := List.mem_map.mp member
  rw [String.toList_ofList]
  exact Text.not_mem_of_mem_split '/' _ chars present

/-- An absolute path starts with a slash. -/
theorem pieces_of_isAbsolute {p : Path} (absolute : p.isAbsolute = true) :
    ∃ rest, rest ≠ [] ∧ Text.pieces '/' p.text = "" :: rest := by
  simp only [isAbsolute, decide_eq_true_eq] at absolute
  have whole : ∀ piece ∈ Text.pieces '/' p.text, '/' ∉ piece.toList :=
    fun _ => slash_not_mem_pieces
  unfold components at absolute
  cases pieces : Text.pieces '/' p.text with
  | nil => simp [pieces] at absolute
  | cons first rest =>
    rw [pieces] at whole
    simp only [pieces] at absolute
    by_cases start : first = ""
    · refine ⟨rest, fun nothing => ?_, start ▸ rfl⟩
      simp [start, nothing] at absolute
    by_cases here : first = "."
    · simp [here] at absolute
    · rw [if_neg start, if_neg here] at absolute
      -- No name is read as a root, so only the empty first piece makes a path absolute.
      have member : Component.root ∈ (first :: rest).filterMap Component.ofSegment? := by
        have found := List.mem_of_mem_head? absolute
        cases read : Component.ofSegment? first <;> simpa [List.filterMap_cons, read] using found
      exact absurd rfl (Component.written_of_mem_filterMap whole member).2

/-- An absolute path has its root in front of components that names between slashes read as. -/
theorem components_of_isAbsolute {p : Path} (absolute : p.isAbsolute = true) :
    ∃ below, p.components = .root :: below ∧ ∀ component ∈ below, component.Written := by
  obtain ⟨rest, nonempty, pieces⟩ := pieces_of_isAbsolute absolute
  refine ⟨rest.filterMap Component.ofSegment?, by simp [components, pieces, nonempty],
    fun _ member => (Component.written_of_mem_filterMap (fun segment later => ?_) member).1⟩
  exact slash_not_mem_pieces (pieces ▸ List.mem_cons_of_mem _ later)

/-- Names with a slash in front of each read as components below the root. -/
theorem components_flatMap (segments : List (List Char)) (some_segment : segments ≠ [])
    (absent : ∀ segment ∈ segments, '/' ∉ segment) (closing : List (List Char))
    (closed : closing = [] ∨ closing = [[]]) :
    components ⟨String.ofList ((segments ++ closing).flatMap ('/' :: ·))⟩ =
      .root :: (segments.map String.ofList).filterMap Component.ofSegment? := by
  have pieces : Text.split '/' ((segments ++ closing).flatMap ('/' :: ·)) =
      [] :: (segments ++ closing) := by
    refine Text.split_flatMap_separator '/' _ (by simp [some_segment]) fun piece member => ?_
    rcases List.mem_append.mp member with member | member
    · exact absent piece member
    · rcases closed with rfl | rfl <;> simp_all
  unfold components
  rw [Text.pieces, String.toList_ofList, pieces]
  have nothing : Component.ofSegment? "" = none := by decide
  rcases closed with rfl | rfl <;> simp [some_segment, nothing]

/-! ## Folding -/

/-- A name that is kept between slashes as it stands. -/
theorem nonempty_of_written {name : String} (written : (Component.name name).Written) :
    name ≠ "" := by
  rintro rfl
  simp [Component.Written, Component.text, Component.ofSegment?] at written

theorem written_of_mem_components {p : Path} {component : Component}
    (member : component ∈ p.components) :
    component = .root ∨ component = .here ∨ component.Written := by
  have whole : ∀ piece ∈ Text.pieces '/' p.text, '/' ∉ piece.toList :=
    fun _ => slash_not_mem_pieces
  unfold components at member
  cases pieces : Text.pieces '/' p.text with
  | nil => simp [pieces] at member
  | cons first rest =>
    rw [pieces] at whole
    have below : component ∈ rest.filterMap Component.ofSegment? → component.Written :=
      fun found => (Component.written_of_mem_filterMap
        (fun segment later => whole segment (List.mem_cons_of_mem _ later)) found).1
    simp only [pieces] at member
    split at member
    · split at member
      · simp at member
      · exact (List.mem_cons.mp member).imp id fun found => Or.inr (below found)
    · split at member
      · exact Or.inr ((List.mem_cons.mp member).imp id below)
      · rcases List.mem_append.mp member with found | found
        · have read : component ∈ [first].filterMap Component.ofSegment? := by
            rw [List.mem_filterMap]
            exact ⟨first, List.mem_singleton_self _, by simpa using found⟩
          refine Or.inr (Or.inr (Component.written_of_mem_filterMap ?_ read).1)
          intro segment only
          exact whole segment (List.mem_singleton.mp only ▸ List.mem_cons_self ..)
        · exact Or.inr (Or.inr (below found))

/-- A fold keeps names of components; only a relative one starts with steps up. -/
theorem mem_fold {absolute : Bool} {components : List Component}
    (written : ∀ c ∈ components, c = .root ∨ c = .here ∨ c.Written) {name : String}
    (member : name ∈ fold absolute components) :
    (Component.name name).Written ∨ (absolute = false ∧ name = "..") := by
  rw [fold, List.mem_reverse] at member
  refine List.foldlRecOn (motive := fun names : List String => ∀ name ∈ names,
    (Component.name name).Written ∨ (absolute = false ∧ name = "..")) components
    (push absolute) (by simp) (fun names kept c present => ?_) name member
  intro name member
  unfold push at member
  split at member
  · exact kept name member
  · exact kept name member
  next text =>
    rcases List.mem_cons.mp member with rfl | before
    · exact Or.inl ((written _ present).resolve_left (by simp) |>.resolve_left (by simp))
    · exact kept name before
  · split at member
    · split at member
      · simp at member
      next relative => exact Or.inr ⟨by simpa using relative, List.mem_singleton.mp member⟩
    next top below =>
      split at member
      · exact kept name (List.mem_cons_of_mem _ member)
      · split at member
        · exact kept name member
        next relative =>
          rcases List.mem_cons.mp member with rfl | before
          · exact Or.inr ⟨by simpa using relative, rfl⟩
          · exact kept name before

theorem foldl_push_names (absolute : Bool) (names before : List String) :
    (names.map Component.name).foldl (push absolute) before = names.reverse ++ before := by
  induction names generalizing before with
  | nil => simp
  | cons first rest ih =>
    rw [List.map_cons, List.foldl_cons, ih]
    simp [push]

theorem fold_names (absolute : Bool) (names : List String) :
    fold absolute (names.map .name) = names := by
  rw [fold, foldl_push_names, List.append_nil, List.reverse_reverse]

theorem components_ofNames {names : List String}
    (written : ∀ name ∈ names, (Component.name name).Written) :
    (ofNames true names).components = .root :: names.map .name := by
  cases names with
  | nil => decide
  | cons first rest =>
    let segments := (first :: rest).map String.toList
    have text : "/" ++ Text.joined '/' (first :: rest) =
        String.ofList ((segments ++ []).flatMap ('/' :: ·)) := by
      rw [List.append_nil, Text.flatMap_separator '/' segments (by simp [segments])]
      simp [segments, Text.joined, String.ofList_cons]
    change components ⟨"/" ++ Text.joined '/' (first :: rest)⟩ = _
    rw [text, components_flatMap segments (by simp [segments]) ?_ [] (Or.inl rfl)]
    · have names : segments.map String.ofList =
          ((first :: rest).map Component.name).map Component.text := by
        simp [segments, Function.comp_def, Component.text]
      rw [names, Component.filterMap_ofSegment? fun c member => by
        obtain ⟨name, present, rfl⟩ := List.mem_map.mp member
        exact written name present]
    · intro segment member
      obtain ⟨name, present, rfl⟩ := List.mem_map.mp member
      exact (written name present).2

/-- A normalized absolute path is its names below the root. -/
theorem exists_names_normalize {p : Path} (absolute : p.isAbsolute = true) :
    ∃ names, p.normalize = ofNames true names ∧ p.normalize.components = .root :: names.map .name ∧
      (.parent ∉ p.components → p.components = .root :: names.map .name) := by
  obtain ⟨below, split, written⟩ := components_of_isAbsolute absolute
  have folded : p.normalize = ofNames true (fold true below) := by
    rw [normalize, split]
    rfl
  have kept : ∀ name ∈ fold true below, (Component.name name).Written := fun name member =>
    (mem_fold (fun c present => Or.inr (Or.inr (written c present))) member).resolve_right (by simp)
  refine ⟨fold true below, folded, folded ▸ components_ofNames kept, fun level => ?_⟩
  -- What does not climb consists of names, which a fold leaves as they are.
  have names : (below.map Component.text).map Component.name = below := by
    rw [List.map_map]
    refine (List.map_congr_left fun c member => ?_).trans (List.map_id below)
    exact Component.name_text (written c member) fun climbs =>
      level (split ▸ climbs ▸ List.mem_cons_of_mem _ member)
  rw [split, ← names, fold_names]

theorem normalize_normalize {p : Path} (absolute : p.isAbsolute = true) :
    p.normalize.normalize = p.normalize := by
  obtain ⟨names, folded, components, -⟩ := exists_names_normalize absolute
  rw [normalize, components, folded]
  change ofNames true (fold true (names.map .name)) = _
  rw [fold_names]

/-- Names that are kept between slashes are the pieces of a relative path. -/
theorem pieces_ofNames {names : List String} (some_name : names ≠ [])
    (kept : ∀ name ∈ names, name ≠ "" ∧ '/' ∉ name.toList) :
    Text.pieces '/' (ofNames false names).text = names := by
  have text : (ofNames false names).text = Text.joined '/' names := by simp [ofNames, some_name]
  rw [text, Text.pieces, Text.joined, String.toList_ofList,
    Text.split_join '/' _ (by simp [some_name])]
  · simp [Function.comp_def]
  · intro piece member
    obtain ⟨name, present, rfl⟩ := List.mem_map.mp member
    exact (kept name present).2

theorem isAbsolute_ofNames {names : List String}
    (kept : ∀ name ∈ names, name ≠ "" ∧ '/' ∉ name.toList) :
    (ofNames false names).isAbsolute = false := by
  cases names with
  | nil => decide
  | cons first rest =>
    -- The text starts with the first name, so no slash stands in front.
    refine Bool.eq_false_iff.mpr fun absolute => ?_
    obtain ⟨_, -, again⟩ := pieces_of_isAbsolute absolute
    rw [pieces_ofNames (by simp) kept] at again
    exact absurd (List.cons.inj again).1 (kept first (List.mem_cons_self ..)).1

theorem isAbsolute_of_normalize {p : Path} (absolute : p.normalize.isAbsolute = true) :
    p.isAbsolute = true := by
  cases start : p.isAbsolute with
  | true => rfl
  | false =>
    have first : decide (p.components.head? = some .root) = false := start
    rw [normalize, ofComponents, first, isAbsolute_ofNames] at absolute
    · exact absolute
    · intro name member
      rcases mem_fold (fun _ => written_of_mem_components) member with written | ⟨-, rfl⟩
      · exact ⟨nonempty_of_written written, written.2⟩
      · decide

/-- A path that does not climb is written in one way below the root. -/
theorem components_normalize_of_not_climbing {p : Path} (absolute : p.isAbsolute = true)
    (level : .parent ∉ p.components) : p.normalize.components = p.components := by
  obtain ⟨names, -, components, same⟩ := exists_names_normalize absolute
  rw [components, same level]

end Path

namespace Uri

/-- A closed drive letter adds a slash at the end or nothing. -/
theorem closeDrive_cases (path : List Char) :
    closeDrive path = path ∨ closeDrive path = path ++ ['/'] := by
  unfold closeDrive
  split
  · split
    · exact Or.inr rfl
    · exact Or.inl rfl
  · exact Or.inl rfl

/-- Without host, the encoded names between the slashes are decoded one by one. -/
theorem toFilePath?_of_segments (segments : List (List Char)) (some_segment : segments ≠ [])
    (absent : ∀ segment ∈ segments, '/' ∉ segment) :
    toFilePath? { scheme := "file", authority := some {},
                  path := String.ofList (segments.flatMap ('/' :: ·)) } =
      some ⟨String.ofList (closeDrive (segments.flatMap fun segment =>
        '/' :: Percent.decode segment))⟩ := by
  have pieces : Text.pieces '/' (String.ofList (segments.flatMap ('/' :: ·))) =
      "" :: segments.map String.ofList := by
    rw [Text.pieces, String.toList_ofList,
      Text.split_flatMap_separator '/' segments some_segment absent]
    rfl
  cases segments with
  | nil => exact absurd rfl some_segment
  | cons first rest =>
    rw [toFilePath?, segments?, pieces]
    simp [List.flatMap_map]

/-- The URI of a file reads back as a path with the same components. -/
theorem components_toFilePath? {path : Path} {uri : Uri} (named : ofFilePath? path = some uri) :
    uri.scheme = "file" ∧
      ∃ read, uri.toFilePath? = some read ∧ read.components = path.components := by
  unfold ofFilePath? at named
  split at named
  next below split =>
    have absolute : path.isAbsolute = true := by simp [Path.isAbsolute, split]
    obtain ⟨_, again, written⟩ := Path.components_of_isAbsolute absolute
    obtain rfl : below = _ := (List.cons.inj (split.symm.trans again)).2
    cases named
    refine ⟨rfl, ?_⟩
    rw [split]
    cases below with
    | nil => exact ⟨⟨"/"⟩, by decide +kernel, by decide⟩
    | cons first rest =>
      let names := (first :: rest).map fun c => c.text.toList
      have some_name : names ≠ [] := by simp [names]
      have encoded : ((first :: rest).flatMap fun c =>
          '/' :: Percent.encode Percent.fileNameSet c.text.toList) =
          (names.map (Percent.encode Percent.fileNameSet)).flatMap ('/' :: ·) := by
        simp [names, List.flatMap_map]
      have decoded : ((names.map (Percent.encode Percent.fileNameSet)).flatMap fun segment =>
          '/' :: Percent.decode segment) = names.flatMap ('/' :: ·) := by
        rw [List.flatMap_map]
        simp only [Percent.decode_encode (show '%' ∈ Percent.fileNameSet by decide)]
      have read := toFilePath?_of_segments (names.map (Percent.encode Percent.fileNameSet))
        (by simp [some_name]) fun segment member => by
          obtain ⟨name, -, rfl⟩ := List.mem_map.mp member
          exact Percent.slash_not_mem_encode (by decide) name
      rw [decoded, ← encoded] at read
      refine ⟨_, read, ?_⟩
      have texts : names.map String.ofList = (first :: rest).map Path.Component.text := by
        simp [names, Function.comp_def]
      have components := Path.components_flatMap names some_name fun name member => by
        obtain ⟨c, present, rfl⟩ := List.mem_map.mp member
        exact (written c present).2
      rw [texts, Path.Component.filterMap_ofSegment? written] at components
      rcases closeDrive_cases (names.flatMap ('/' :: ·)) with same | closed
      · rw [same]
        simpa using components [] (Or.inl rfl)
      · rw [closed]
        simpa using components [[]] (Or.inr rfl)
  · simp at named

theorem isSome_ofFilePath? (path : Path) : (ofFilePath? path).isSome = path.isAbsolute := by
  unfold ofFilePath? Path.isAbsolute
  split
  next below split => simp [split]
  next other =>
    cases components : path.components with
    | nil => rfl
    | cons first rest =>
      have differs : first ≠ .root := fun same => other rest (same ▸ components)
      simp [differs]

/-- The names of a path that starts with a slash. -/
theorem isSome_segments?_iff (uri : Uri) :
    uri.segments?.isSome = true ↔ ∃ rest, uri.path.toList = '/' :: rest := by
  unfold segments? Text.pieces
  cases written : uri.path.toList with
  | nil => simp [Text.split]
  | cons c rest =>
    by_cases slash : c = '/'
    · obtain ⟨first, more, cut⟩ := List.exists_cons_of_ne_nil (Text.split_ne_nil '/' rest)
      simp [Text.split, slash, cut]
    · cases cut : Text.split '/' rest <;> simp [Text.split, slash, cut]

theorem isSome_toFilePath?_iff (uri : Uri) :
    uri.toFilePath?.isSome = true ↔ uri.segments?.isSome = true ∧
      ((uri.authority.getD {}).host = "" ∨ (uri.authority.getD {}).host = "localhost") := by
  unfold toFilePath?
  cases uri.segments? <;> simp

/-- The slash at the end of the URI of a directory leaves it a path of this host. -/
theorem isSome_toFilePath?_of_ofDirectoryPath? {path : Path} {uri : Uri}
    (named : ofDirectoryPath? path = some uri) : uri.toFilePath?.isSome = true := by
  obtain ⟨file, file_named, rfl⟩ := Option.map_eq_some_iff.mp named
  obtain ⟨-, read, found, -⟩ := components_toFilePath? file_named
  have here : file.toFilePath?.isSome = true := by rw [found, Option.isSome_some]
  split
  · exact here
  -- One more slash behind the path changes neither its first one nor the host.
  · rw [isSome_toFilePath?_iff, isSome_segments?_iff] at here ⊢
    obtain ⟨⟨rest, starts⟩, host⟩ := here
    exact ⟨⟨rest ++ ['/'], by rw [String.toList_append, starts]; rfl⟩, host⟩

/-- A path has a URI by its components alone, and they can be read off it. -/
theorem ofFilePath?_eq_iff {one two : Path} {a b : Uri} (named : ofFilePath? one = some a)
    (other : ofFilePath? two = some b) : a = b ↔ one.components = two.components := by
  constructor
  · rintro rfl
    obtain ⟨-, _, read, same⟩ := components_toFilePath? named
    obtain ⟨-, _, again, alike⟩ := components_toFilePath? other
    obtain rfl := Option.some.inj (read.symm.trans again)
    exact same.symm.trans alike
  · intro same
    rw [ofFilePath?, same, ← ofFilePath?, other] at named
    exact (Option.some.inj named).symm

/-- The URI of a file names the module of the file. -/
theorem ofUri_of_ofFilePath? {path : Path} {uri : Uri} (named : ofFilePath? path = some uri) :
    ModuleName.ofUri uri = ModuleName.ofPath path := by
  obtain ⟨scheme, read, found, same⟩ := components_toFilePath? named
  rw [ModuleName.ofUri, if_pos scheme, found]
  simp only [ModuleName.ofPath, Path.normalize, same]

end Uri

namespace ModuleName

/-- Naming the module of a normalized absolute path again changes nothing. -/
theorem ofPath_path {path : Path} (absolute : (ofPath path).path.isAbsolute = true) :
    ofPath (ofPath path).path = ofPath path :=
  congrArg (fun folded : Path => (⟨folded.text⟩ : ModuleName))
    (Path.normalize_normalize (Path.isAbsolute_of_normalize absolute))

end ModuleName

end LuauWorkspace
