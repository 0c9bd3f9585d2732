import LuauWorkspace.Engine.Line
import LuauWorkspace.Proofs.Instances
import LuauWorkspace.Proofs.Line
import Mathlib.Algebra.Order.BigOperators.Group.List
import Mathlib.Algebra.Order.Group.Nat

/-!
# The extent of a view

Where a require leads depends on the text alone, unless it steps through the instance tree and
then leads to a virtual name. So the names that can be read are those of instances and those
that the texts require, each text read once and under no name. A require takes a line of its own
and so at least one character, hence the extent of the files bounds their number.
-/
namespace LuauWorkspace

open Line (Scan lines parse scanLine scanLines)

namespace Line

/-! ## Requires of a text -/

theorem split_sum_le (separator : Char) (text : List Char) :
    ((Text.split separator text).map List.length).sum ≤ text.length := by
  induction text with
  | nil => simp [Text.split]
  | cons c rest ih =>
    simp only [Text.split]
    split
    · simp only [List.map_cons, List.sum_cons, List.length_nil, List.length_cons]
      omega
    · cases pieces : Text.split separator rest with
      | nil => exact absurd pieces (Text.split_ne_nil separator rest)
      | cons piece more =>
        simp only [pieces, List.map_cons, List.sum_cons, List.length_cons] at ih ⊢
        omega

theorem dropEnd_length_le (line : List Char) : (dropEnd line).length ≤ line.length := by
  unfold dropEnd
  split
  next rest reversed =>
    have count := congrArg List.length reversed
    simp only [List.length_reverse, List.length_cons] at count ⊢
    omega
  · exact Nat.le_refl _

theorem lines_sum_le (text : List Char) :
    ((lines text).map List.length).sum ≤ text.length := by
  have whole := split_sum_le '\n' text
  -- The last piece is no line of its own when it is empty, so it is looked at first.
  rw [← List.sum_reverse, ← List.map_reverse] at whole
  unfold lines
  cases pieces : (Text.split '\n' text).reverse with
  | nil => simp
  | cons last before =>
    have shorter : ((before.map dropEnd).map List.length).sum ≤ (before.map List.length).sum := by
      rw [List.map_map]
      exact List.sum_le_sum fun line _ => dropEnd_length_le line
    simp only [pieces, List.map_cons, List.sum_cons] at whole
    simp only
    split
    · rw [List.map_reverse, List.sum_reverse]
      omega
    · simp only [List.map_append, List.map_reverse, List.sum_append, List.sum_reverse,
        List.map_cons, List.map_nil, List.sum_cons, List.sum_nil]
      omega

theorem requires_scanLine_length_le (owner : ModuleName) (scan : Scan) (line : Nat)
    (text : List Char) :
    (scanLine owner scan line text).requires.length ≤ scan.requires.length + text.length := by
  unfold scanLine
  split
  · exact Nat.le_add_right _ _
  split
  next found draft required =>
    -- An empty line requires nothing, so each require has a character of its own.
    have inhabited : text ≠ [] := by
      rintro rfl
      simp [require?, requireParts?, behind?] at required
    have count := List.length_pos_iff.mpr inhabited
    simp only [List.length_append, List.length_cons, List.length_nil]
    omega
  · exact Nat.le_add_right _ _

theorem requires_scanLines_length_le (owner : ModuleName) (scan : Scan) (line : Nat)
    (texts : List (List Char)) :
    (scanLines owner scan line texts).requires.length ≤
      scan.requires.length + (texts.map List.length).sum := by
  induction texts generalizing scan line with
  | nil => simp [scanLines]
  | cons text rest ih =>
    have first := requires_scanLine_length_le owner scan line text
    have later := ih (scanLine owner scan line text) (line + 1)
    simp only [scanLines, List.map_cons, List.sum_cons]
    omega

/-- What a text requires does not depend on whose text it is. -/
theorem scanLine_owner (one two : ModuleName) (text : List Char) (line : Nat)
    {first second : Scan} (drafts : first.draft = second.draft)
    (requires : first.requires = second.requires) :
    (scanLine one first line text).draft = (scanLine two second line text).draft ∧
      (scanLine one first line text).requires = (scanLine two second line text).requires := by
  unfold scanLine problem?
  rw [← drafts, ← requires]
  cases behind? "-- error: ".toList (Text.trimLeft text) with
  | some message => exact ⟨rfl, rfl⟩
  | none =>
    simp only [Option.map_none]
    cases require? first.draft line text with
    | some found => exact ⟨rfl, rfl⟩
    | none => exact ⟨drafts, requires⟩

theorem scanLines_owner (one two : ModuleName) (texts : List (List Char)) (line : Nat)
    {first second : Scan} (drafts : first.draft = second.draft)
    (requires : first.requires = second.requires) :
    (scanLines one first line texts).draft = (scanLines two second line texts).draft ∧
      (scanLines one first line texts).requires = (scanLines two second line texts).requires := by
  induction texts generalizing first second line with
  | nil => exact ⟨drafts, requires⟩
  | cons text rest ih =>
    -- Problems may differ, since they name their module, but nothing later reads them.
    obtain ⟨same_draft, same_requires⟩ := scanLine_owner one two text line drafts requires
    exact ih (line + 1) same_draft same_requires

/-- The `require` calls of a text. -/
def calls (name : ModuleName) (text : String) : List Require :=
  (scanLines name {} 0 (lines text.toList)).requires

/-- A parsed text before its requires are resolved. -/
def unresolved (name : ModuleName) (text : String) : Syntax.Source :=
  let texts := lines text.toList
  (scanLines name {} 0 texts).draft.finish name ⟨⟨0, 0⟩, ⟨texts.length, 0⟩⟩
    ((calls name text).map (·.statement))

theorem requires_parse_eq (view : SourceView) (name : ModuleName) (text : String) :
    (parse view name text).source.requires =
      (calls name text).filterMap fun call =>
        view.resolve? name (unresolved name text) call.argument := rfl

theorem calls_owner (one two : ModuleName) (text : String) : calls one text = calls two text :=
  (scanLines_owner one two _ 0 rfl rfl).2

theorem nodes_unresolved (one two : ModuleName) (text : String) :
    (unresolved one text).nodes = (unresolved two text).nodes := by
  have start : ({} : Scan).draft = ({} : Scan).draft := rfl
  have drafts := (scanLines_owner one two (lines text.toList) 0 start rfl).1
  simp only [unresolved, Syntax.Draft.finish, Syntax.Draft.add, drafts, calls_owner one two]

theorem calls_length_le (name : ModuleName) (text : String) :
    (calls name text).length ≤ text.length := by
  have scanned := requires_scanLines_length_le name {} 0 (lines text.toList)
  have fits := lines_sum_le text.toList
  simp only [List.length_nil, Nat.zero_add, String.length_toList] at scanned fits
  exact scanned.trans fits

end Line

theorem Disk.mem_entries_of_read? {disk : Disk} {path : Path} {content : String}
    (read : disk.read? path = some content) :
    ∃ names, (names, DiskEntry.text content) ∈ disk.entries.entries := by
  obtain ⟨names, found⟩ := (disk.read?_eq_some_iff path content).mp read
  refine ⟨names, Table.mem_entries_of_get? ?_⟩
  unfold find? at found
  split at found
  · simp at found
  · simp only [Option.bind_eq_bind, Option.bind_eq_some_iff, Option.pure_def, Option.some.injEq,
      Prod.mk.injEq] at found
    obtain ⟨there, _, entry, stored, rfl, rfl⟩ := found
    unfold entry? at stored
    split at stored
    · simp at stored
    · exact stored

namespace Files

variable {files : Files}

/-- No instance has a real name. Trees that were loaded from a manifest are so. -/
def Rooted (files : Files) : Prop := ∀ tree, files.instances = some tree → tree.Rooted

theorem rooted_of_bare (bare : files.instances = none) : files.Rooted := by
  intro tree loaded
  simp [bare] at loaded

theorem Rooted.congr (rooted : files.Rooted) {other : Files}
    (trees : files.instances = other.instances) : other.Rooted := fun tree loaded =>
  rooted tree (trees.trans loaded)

theorem Rooted.isVirtual_toVirtual (rooted : files.Rooted) {name virtual : ModuleName}
    (found : files.toVirtual? name = some virtual) : virtual.isVirtual = true := by
  unfold toVirtual? at found
  split at found
  next there =>
    obtain rfl : name = virtual := by simpa using found
    exact there
  · simp only [virtualNameOf?, realNode?, Option.map_eq_some_iff, Option.bind_eq_some_iff] at found
    obtain ⟨node, ⟨tree, loaded, listed⟩, rfl⟩ := found
    exact rooted tree loaded node (Instances.Tree.mem_of_findScript? listed)

theorem isVirtual_childBy? {method child : String} {base found : ModuleName}
    (step : childBy? method base child = some found) : found.isVirtual = base.isVirtual := by
  unfold childBy? at step
  split at step
  · split at step
    · obtain rfl : base.child child = found := by simpa using step
      exact base.isVirtual_child child
    · simp at step
  · obtain rfl : base.child child = found := by simpa using step
    exact base.isVirtual_child child
  · obtain rfl : base.child child = found := by simpa using step
    exact base.isVirtual_child child
  · simp at step

/-! ## Where a require leads -/

/-- An expression leads to an instance, or it leads to the same place in every module. -/
theorem Rooted.resolveWithin_cases (rooted : files.Rooted) (context other : ModuleName)
    {source again : Syntax.Source} (same : again.nodes = source.nodes) {limit : Nat}
    {id : Syntax.NodeId} {found : ModuleName}
    (leads : files.resolveWithin context source limit id = some found) :
    found.isVirtual = true ∨ files.resolveWithin other again limit id = some found := by
  have exprs : ∀ id, again.expr? id = source.expr? id := fun id => by
    simp only [Syntax.Source.expr?, Syntax.Source.node?, same]
  -- The two sources may differ in their names only, so expressions read the same.
  have constants : ∀ id, constant? again id = constant? source id := fun id => by
    simp only [constant?, exprs]
  induction limit generalizing id found with
  | zero => simp [resolveWithin] at leads
  | succ limit ih =>
    rw [resolveWithin] at leads ⊢
    simp only [exprs, constants]
    -- A written path leads to the same file everywhere. Only `script` depends on the module, and
    -- it leads into the tree, which no step leaves again.
    split at leads
    next written _ => exact Or.inr leads
    next name _ =>
      left
      split at leads
      · obtain rfl : (⟨ModuleName.dataModelRoot⟩ : ModuleName) = found := by simpa using leads
        decide
      split at leads
      · exact rooted.isVirtual_toVirtual leads
      · simp at leads
    next inner _ => exact ih leads
    next base name _ _ _ =>
      obtain ⟨before, led, step⟩ := Option.bind_eq_some_iff.mp leads
      rcases ih led with there | here
      · left
        split at step
        · exact (ModuleName.isVirtual_parent step).trans there
        · obtain rfl : before.child name = found := by simpa using step
          exact (before.isVirtual_child name).trans there
      · exact Or.inr (Option.bind_eq_some_iff.mpr ⟨before, here, step⟩)
    next base key _ =>
      obtain ⟨child, held, step⟩ := Option.bind_eq_some_iff.mp leads
      obtain ⟨before, led, rfl⟩ := Option.map_eq_some_iff.mp step
      rcases ih led with there | here
      · exact Or.inl ((before.isVirtual_child child).trans there)
      · exact Or.inr (by simp [held, here])
    next callee first _ _ _ =>
      split at leads
      next receiver method _ _ form =>
        obtain ⟨child, held, step⟩ := Option.bind_eq_some_iff.mp leads
        obtain ⟨before, led, last⟩ := Option.bind_eq_some_iff.mp step
        rcases ih led with there | here
        · exact Or.inl ((isVirtual_childBy? last).trans there)
        · exact Or.inr (by simp [held, here, last])
      · simp at leads
    · simp at leads

theorem Rooted.resolve?_cases (rooted : files.Rooted) (context other : ModuleName)
    {source again : Syntax.Source} (same : again.nodes = source.nodes) {id : Syntax.NodeId}
    {found : ModuleName} (leads : files.resolve? context source id = some found) :
    found.isVirtual = true ∨ files.resolve? other again id = some found := by
  unfold resolve? at leads ⊢
  rw [same]
  exact rooted.resolveWithin_cases context other same leads

/-- The names that a text requires by itself, whatever module it belongs to. -/
def named (files : Files) (disk : Disk) (text : String) : List ModuleName :=
  (parse (files.view disk) ⟨""⟩ text).source.requires

theorem Rooted.requires_parse (rooted : files.Rooted) (disk : Disk) (name : ModuleName)
    (text : String) {required : ModuleName}
    (member : required ∈ (parse (files.view disk) name text).source.requires) :
    required.isVirtual = true ∨ required ∈ files.named disk text := by
  rw [Line.requires_parse_eq] at member
  obtain ⟨call, scanned, leads⟩ := List.mem_filterMap.mp member
  rcases rooted.resolve?_cases name ⟨""⟩ (Line.nodes_unresolved ⟨""⟩ name text) leads
    with there | here
  · exact Or.inl there
  · rw [named, Line.requires_parse_eq]
    exact Or.inr (List.mem_filterMap.mpr ⟨call, Line.calls_owner name ⟨""⟩ text ▸ scanned, here⟩)

/-! ## What can be read -/

/-- Every text that a module can have. -/
def texts (files : Files) (disk : Disk) : List String :=
  (files.documents.entries.map fun entry => entry.2.text) ++
    disk.entries.entries.filterMap fun entry =>
      match entry.2 with
      | .text content => some content
      | _ => none

theorem mem_texts {disk : Disk} {name : ModuleName} {code : SourceCode}
    (read : files.read? disk name = some code) : code.text ∈ files.texts disk := by
  obtain ⟨⟨real, node⟩, _, step⟩ := Option.bind_eq_some_iff.mp read
  obtain ⟨text, found, rfl⟩ := Option.map_eq_some_iff.mp step
  unfold text? at found
  split at found
  next document held =>
    obtain rfl : document.text = text := by simpa using found
    exact List.mem_append_left _ (List.mem_map.mpr ⟨_, Table.mem_entries_of_get? held, rfl⟩)
  · obtain ⟨names, stored⟩ := Disk.mem_entries_of_read? found
    exact List.mem_append_right _ (List.mem_filterMap.mpr ⟨_, stored, rfl⟩)

theorem texts_sum (disk : Disk) :
    ((files.texts disk).map String.length).sum =
      (files.documents.total fun document => document.text.length) + disk.size := by
  have stored : ∀ entries : List (List String × DiskEntry),
      ((entries.filterMap fun entry =>
        match entry.2 with
        | .text content => some content
        | _ => none).map String.length).sum =
          (entries.map fun entry => entry.2.size).sum := by
    intro entries
    induction entries with
    | nil => rfl
    | cons entry rest ih =>
      obtain ⟨names, content | _ | _⟩ := entry <;> simp [DiskEntry.size, ih]
  rw [texts, List.map_append, List.sum_append, stored, List.map_map, Disk.size,
    Table.total_eq_sum, Table.total_eq_sum]
  rfl

/-- The virtual names that can be read. -/
def instanceNames (files : Files) : List ModuleName :=
  (files.instances.map fun tree => tree.nodes.toList.map (·.virtualPath)).getD []

theorem mem_instanceNames {disk : Disk} {name : ModuleName} (there : name.isVirtual = true)
    (read : (files.read? disk name).isSome) : name ∈ files.instanceNames := by
  obtain ⟨code, found⟩ := Option.isSome_iff_exists.mp read
  obtain ⟨place, source, -⟩ := Option.bind_eq_some_iff.mp found
  simp only [source?, there, if_true, virtualNode?, Option.bind_eq_some_iff] at source
  obtain ⟨node, ⟨tree, loaded, listed⟩, -⟩ := source
  have path := tree.findVirtual?_path name node listed
  simp only [instanceNames, loaded, Option.map_some, Option.getD_some, List.mem_map]
  exact ⟨node, Instances.Tree.mem_of_findVirtual? listed, path⟩

theorem named_sum_le (files : Files) (disk : Disk) (texts : List String) :
    (texts.flatMap (files.named disk)).length ≤ (texts.map String.length).sum := by
  rw [List.length_flatMap]
  refine List.sum_le_sum fun text _ => ?_
  exact (List.length_filterMap_le _ _).trans (Line.calls_length_le _ text)

theorem Rooted.bounded (rooted : files.Rooted) (disk : Disk) : (files.view disk).Bounded := by
  refine ⟨files.instanceNames ++ (files.texts disk).flatMap (files.named disk), ?_, ?_⟩
  · have named := named_sum_le files disk (files.texts disk)
    rw [texts_sum] at named
    -- The three parts of the extent pay for the documents, the disk and the instances.
    have instances : files.instanceNames.length =
        (files.instances.map fun tree => tree.nodes.size).getD 0 := by
      cases loaded : files.instances <;> simp [instanceNames, loaded]
    rw [List.length_append, instances]
    change _ ≤ _ + _ + _
    omega
  · intro name required member present
    rw [SourceView.parsed?, Option.isSome_map] at present
    -- A module that requires something has a text, and the name is an instance's or stands there.
    obtain ⟨parsed, found, listed⟩ : ∃ parsed, (files.view disk).parsed? name = some parsed ∧
        required ∈ parsed.source.requires := by
      cases found : (files.view disk).parsed? name <;> simp_all [SourceView.requires]
    obtain ⟨code, read, rfl⟩ := Option.map_eq_some_iff.mp found
    rcases rooted.requires_parse disk name code.text listed with there | here
    · exact List.mem_append_left _ (mem_instanceNames there present)
    · exact List.mem_append_right _ (List.mem_flatMap.mpr ⟨code.text, mem_texts read, here⟩)

end Files

end LuauWorkspace
