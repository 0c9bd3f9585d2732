import LuauWorkspace.Files
import Mathlib.Data.List.Nodup

/-!
# Virtual names

A name is virtual by its first part alone, so steps up and down in the instance tree never leave
the virtual names. All instances of a manifest have virtual names.
-/
namespace LuauWorkspace

namespace Text

theorem head?_split (separator : Char) (text : List Char) :
    (split separator text).head? = some (text.takeWhile (· ≠ separator)) := by
  induction text with
  | nil => rfl
  | cons c rest ih =>
    by_cases same : c = separator
    · simp [split, same]
    · cases pieces : split separator rest with
      | nil => exact absurd pieces (split_ne_nil separator rest)
      | cons piece more =>
        simp only [pieces, List.head?_cons, Option.some.injEq] at ih
        simp [split, same, pieces, ih]

theorem join_concat (separator : Char) (pieces : List (List Char)) (last : List Char)
    (some_piece : pieces ≠ []) :
    join separator (pieces ++ [last]) = join separator pieces ++ separator :: last := by
  induction pieces with
  | nil => exact absurd rfl some_piece
  | cons piece rest ih =>
    cases rest with
    | nil => rfl
    | cons next more => simpa [join] using ih (by simp)

end Text

namespace ModuleName

theorem isVirtual_eq (name : ModuleName) :
    name.isVirtual =
      let first := String.ofList (name.text.toList.takeWhile (· ≠ '/'))
      decide (first = dataModelRoot) || decide (first = projectRoot) := by
  have head := Text.head?_split '/' name.text.toList
  unfold isVirtual Text.pieces
  cases pieces : Text.split '/' name.text.toList with
  | nil => simp [pieces] at head
  | cons first rest =>
    simp only [pieces, List.head?_cons, Option.some.injEq] at head
    simp [head]

theorem isVirtual_child (parent : ModuleName) (name : String) :
    (parent.child name).isVirtual = parent.isVirtual := by
  -- The first part of a name ends before the slash that the step adds.
  have first : (parent.text.toList ++ '/' :: name.toList).takeWhile (· ≠ '/') =
      parent.text.toList.takeWhile (· ≠ '/') := by
    generalize parent.text.toList = text
    induction text with
    | nil => simp
    | cons c rest ih => simp only [List.cons_append, List.takeWhile_cons, ih]
  simp only [isVirtual_eq, child, String.toList_append]
  rw [show parent.text.toList ++ "/".toList ++ name.toList =
    parent.text.toList ++ '/' :: name.toList by simp, first]

/-- A name lies below its parent. -/
theorem eq_child_of_parent? {name parent : ModuleName} (above : name.parent? = some parent) :
    ∃ last, name = parent.child last := by
  have whole := Text.join_split '/' name.text.toList
  simp only [parent?, Text.pieces] at above
  rcases List.eq_nil_or_concat' (Text.split '/' name.text.toList) with none | ⟨front, last, cut⟩
  · exact absurd none (Text.split_ne_nil _ _)
  rw [cut] at above whole
  -- A name of a single part has no parent.
  have before : front ≠ [] := by
    rintro rfl
    simp at above
  rw [Text.join_concat '/' front last before] at whole
  have parent_eq : parent = ⟨String.ofList (Text.join '/' front)⟩ := by
    -- `parent?` drops the last part and joins the others, of which there is at least one.
    obtain ⟨init, final, rfl⟩ := (List.eq_nil_or_concat' front).resolve_left before
    simp [Text.joined, Function.comp_def] at above
    exact above.symm
  refine ⟨String.ofList last, ?_⟩
  obtain ⟨text⟩ := name
  simp only [child, parent_eq, ModuleName.mk.injEq]
  apply String.toList_injective
  simp [← whole]

theorem isVirtual_parent {name parent : ModuleName} (above : name.parent? = some parent) :
    parent.isVirtual = name.isVirtual := by
  obtain ⟨last, rfl⟩ := eq_child_of_parent? above
  exact (isVirtual_child parent last).symm

end ModuleName

namespace Instances.Tree

/-- All instances have virtual names. -/
def Rooted (tree : Tree) : Prop := ∀ node ∈ tree.nodes.toList, node.virtualPath.isVirtual = true

theorem Rooted.push {tree : Tree} (rooted : tree.Rooted) {node : Instance}
    (below : node.virtualPath.isVirtual = true) : (tree.push node).Rooted := by
  intro other member
  simp only [Tree.push, Array.toList_push, List.mem_append, List.mem_singleton] at member
  rcases member with old | rfl
  · exact rooted other old
  · exact below

theorem Rooted.adopt {tree : Tree} (rooted : tree.Rooted) (parent : Nat) (children : List Nat) :
    (tree.adopt parent children).Rooted := by
  intro node member
  obtain ⟨index, bound, found⟩ := List.mem_iff_getElem.mp member
  simp only [Tree.adopt, Array.toList_modify, List.getElem_modify] at found
  simp only [Tree.adopt, Array.toList_modify, List.length_modify] at bound
  have old := rooted _ (List.getElem_mem bound)
  -- Adopting children changes no virtual name.
  split at found <;> (subst found; exact old)

mutual

theorem rooted_place (tree : Tree) (path : ModuleName) (rooted : tree.Rooted)
    (below : path.isVirtual = true) (manifest : Manifest) : (place tree path manifest).Rooted := by
  cases manifest with
  | entry name className filePaths children =>
    rw [place]
    exact (rooted_placeAll _ path (rooted.push below) below children).adopt _ _

theorem rooted_placeAll (tree : Tree) (parent : ModuleName) (rooted : tree.Rooted)
    (below : parent.isVirtual = true) (children : List Manifest) :
    (placeAll tree parent children).2.Rooted := by
  cases children with
  | nil => rw [placeAll]; exact rooted
  | cons child rest =>
    have path_below : (parent.child child.name).isVirtual = true :=
      (ModuleName.isVirtual_child ..).trans below
    rw [placeAll]
    split
    · exact rooted_placeAll tree parent rooted below rest
    · exact rooted_placeAll _ parent (rooted_place tree _ rooted path_below child) below rest

end

theorem rooted_ofManifest (manifest : Manifest) : (ofManifest manifest).Rooted := by
  apply rooted_place
  · intro node member
    simp at member
  · split <;> decide

/-! ## Places in the tree -/

/-- No two instances have one virtual name. -/
def Distinct (tree : Tree) : Prop := (tree.nodes.toList.map (·.virtualPath)).Nodup

theorem isTaken_eq_false_iff (tree : Tree) (path : ModuleName) :
    tree.isTaken path = false ↔ path ∉ tree.nodes.toList.map (·.virtualPath) := by
  simp [isTaken, ← Array.any_toList]

theorem Distinct.push {tree : Tree} (distinct : tree.Distinct) {node : Instance}
    (free : tree.isTaken node.virtualPath = false) : (tree.push node).Distinct := by
  rw [isTaken_eq_false_iff] at free
  rw [Distinct, Tree.push, Array.toList_push, List.map_append, List.map_singleton]
  exact List.Nodup.append distinct (List.nodup_singleton _) (by simpa using free)

theorem Distinct.adopt {tree : Tree} (distinct : tree.Distinct) (parent : Nat)
    (children : List Nat) : (tree.adopt parent children).Distinct := by
  have names : (tree.adopt parent children).nodes.toList.map (·.virtualPath) =
      tree.nodes.toList.map (·.virtualPath) := by
    apply List.ext_getElem (by simp [Tree.adopt])
    intro index _ _
    simp only [Tree.adopt, Array.toList_modify, List.getElem_map, List.getElem_modify]
    split <;> rfl
  rwa [Distinct, names]

mutual

theorem distinct_place (tree : Tree) (path : ModuleName) (distinct : tree.Distinct)
    (free : tree.isTaken path = false) (manifest : Manifest) :
    (place tree path manifest).Distinct := by
  cases manifest with
  | entry name className filePaths children =>
    rw [place]
    exact (distinct_placeAll _ path (distinct.push free) children).adopt _ _

theorem distinct_placeAll (tree : Tree) (parent : ModuleName) (distinct : tree.Distinct)
    (children : List Manifest) : (placeAll tree parent children).2.Distinct := by
  cases children with
  | nil => rw [placeAll]; exact distinct
  | cons child rest =>
    rw [placeAll]
    -- What comes to lie at a taken place is left out.
    split
    · exact distinct_placeAll tree parent distinct rest
    next free =>
      have placed := distinct_place tree _ distinct (Bool.eq_false_iff.mpr free) child
      exact distinct_placeAll _ parent placed rest

end

theorem distinct_ofManifest (manifest : Manifest) : (ofManifest manifest).Distinct := by
  apply distinct_place
  · exact List.nodup_nil
  · simp [isTaken]

/-- An instance is found by its virtual name. -/
theorem Distinct.findVirtual? {tree : Tree} (distinct : tree.Distinct) {node : Instance}
    (member : node ∈ tree.nodes.toList) : tree.findVirtual? node.virtualPath = some node := by
  cases found : tree.findVirtual? node.virtualPath with
  | none => simpa using List.find?_eq_none.mp found node member
  | some other =>
    have same := findVirtual?_path tree _ other found
    rw [List.inj_on_of_nodup_map distinct (List.mem_of_find?_eq_some found) member same]

/-! ## Accepted manifests -/

theorem exists_ofManifest {text : String} {tree : Tree} (accepted : ofText text = .ok tree) :
    ∃ manifest, tree = ofManifest manifest := by
  unfold ofText at accepted
  cases read : Manifest.ofText text with
  | error failure => simp [read, Except.map] at accepted
  | ok manifest =>
    simp only [read, Except.map, Except.ok.injEq] at accepted
    exact ⟨manifest, accepted.symm⟩

theorem exists_ofText_of_load {disk : Disk} {path : Path} {tree : Tree}
    (loaded : Tree.load disk path = .ok tree) : ∃ text, ofText text = .ok tree := by
  unfold Tree.load Disk.load at loaded
  split at loaded
  · simp at loaded
  next text _ =>
    cases read : Tree.ofText text with
    | error failure => simp [read, Except.mapError] at loaded
    | ok other =>
      simp only [read, Except.mapError, Except.ok.injEq] at loaded
      exact ⟨text, loaded ▸ read⟩

theorem rooted_load {disk : Disk} {path : Path} {tree : Tree}
    (loaded : Tree.load disk path = .ok tree) : tree.Rooted := by
  obtain ⟨text, read⟩ := exists_ofText_of_load loaded
  obtain ⟨manifest, rfl⟩ := exists_ofManifest read
  exact rooted_ofManifest manifest

theorem mem_of_findVirtual? {tree : Tree} {path : ModuleName} {node : Instance}
    (found : tree.findVirtual? path = some node) : node ∈ tree.nodes.toList :=
  List.mem_of_find?_eq_some found

theorem mem_of_findScript? {tree : Tree} {path : String} {node : Instance}
    (found : tree.findScript? path = some node) : node ∈ tree.nodes.toList :=
  List.mem_reverse.mp (List.mem_of_find?_eq_some found)

end Instances.Tree

end LuauWorkspace
