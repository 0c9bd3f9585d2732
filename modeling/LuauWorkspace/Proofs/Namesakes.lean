import LuauWorkspace.Proofs.Entries
import LuauWorkspace.Proofs.Relative

/-!
# Paths as places

The path of an instance holds the names of the entries that it lies below, with slashes between
them, and nothing tells such a slash from one that is part of a name. So entries with different
places can have one path, and the name in front of the last slash need not be that of the parent.
An entry that has an earlier sibling with its name, or lies below one that has, is always left
out. Nothing else is left out exactly if the other entries have paths of their own, and a step up
from a virtual name leads to the parent exactly if the last name has no slash in it.
-/
namespace LuauWorkspace

namespace ModuleName

theorem child_append (parent : ModuleName) (front last : String) :
    parent.child (front ++ "/" ++ last) = (parent.child front).child last := by
  simp [child, String.append_assoc]

theorem parent?_child_of_not_mem (parent : ModuleName) {name : String}
    (plain : '/' ∉ name.toList) : (parent.child name).parent? = some parent := by
  -- The name is the last piece of the path, and the other pieces make the parent.
  have cut : Text.pieces '/' (parent.child name).text =
      Text.pieces '/' parent.text ++ [name] := by
    have whole := Text.split_append_separator '/' parent.text.toList name.toList
    rw [Text.split_of_not_mem '/' name.toList plain] at whole
    have text : (parent.child name).text.toList = parent.text.toList ++ '/' :: name.toList := by
      simp [child]
    simp [Text.pieces, text, whole]
  have back : Text.joined '/' (Text.pieces '/' parent.text) = parent.text := by
    simp [Text.joined, Text.pieces, Function.comp_def, Text.join_split]
  have nonempty : Text.pieces '/' parent.text ≠ [] := by
    simp [Text.pieces, Text.split_ne_nil]
  rw [parent?, cut, List.reverse_concat]
  split
  next same => exact absurd same (by simp)
  next same => exact absurd (List.cons.inj same).2 (by simpa using nonempty)
  next same =>
    obtain ⟨-, rfl⟩ := List.cons.inj same
    rw [List.reverse_reverse, back]

/-- A text that has a separator is cut at the last one. -/
theorem exists_last_slash {name : String} (slash : '/' ∈ name.toList) :
    ∃ front last : String, name = front ++ "/" ++ last ∧ '/' ∉ last.toList := by
  obtain ⟨last, front, cut, plain⟩ := List.eq_append_cons_of_mem (List.mem_reverse.mpr slash)
  refine ⟨String.ofList front.reverse, String.ofList last.reverse, ?_, by simpa using plain⟩
  apply String.toList_injective
  have whole := congrArg List.reverse cut
  simp only [List.reverse_reverse, List.reverse_append, List.reverse_cons] at whole
  simp [whole]

/-- The step up takes back the step down to a name without a slash, and to no other. -/
theorem parent?_child_iff (parent : ModuleName) (name : String) :
    (parent.child name).parent? = some parent ↔ '/' ∉ name.toList := by
  constructor
  · intro back slash
    obtain ⟨front, last, rfl, plain⟩ := exists_last_slash slash
    rw [child_append, parent?_child_of_not_mem _ plain, Option.some.injEq] at back
    -- The step up leads to what stands in front of the last slash, which is longer than the parent.
    have lengths := congrArg (fun name => name.text.toList.length) back
    simp [child] at lengths
  · exact parent.parent?_child_of_not_mem

theorem child_inj {one two : ModuleName} {name other : String} (plain : '/' ∉ name.toList)
    (also_plain : '/' ∉ other.toList) (same : one.child name = two.child other) :
    one = two ∧ name = other := by
  have up := congrArg parent? same
  rw [parent?_child_of_not_mem _ plain, parent?_child_of_not_mem _ also_plain,
    Option.some.injEq] at up
  subst up
  refine ⟨rfl, ?_⟩
  have texts := congrArg (fun name => name.text.toList) same
  simp only [child, String.toList_append] at texts
  exact String.toList_injective (List.append_cancel_left texts)

end ModuleName

/-! ## The parent of a script -/

/-- An expression is written `script.Parent`. -/
def Syntax.Source.ScriptParent (source : Syntax.Source) (id : Syntax.NodeId) : Prop :=
  ∃ base nameAt separator, source.expr? id = some (.member base "Parent" nameAt separator) ∧
    source.expr? base = some (.globalName "script")

theorem Syntax.Source.bound_of_expr? {source : Syntax.Source} {id : Syntax.NodeId}
    {expr : Syntax.Expr} (found : source.expr? id = some expr) : id < source.nodes.size := by
  by_contra beyond
  simp [expr?, node?, Array.getElem?_eq_none (Nat.le_of_not_lt beyond)] at found

/-- Two nodes leave room for two steps. -/
theorem exists_two_steps {one two size : Nat} (differs : one ≠ two) (first : one < size)
    (second : two < size) : ∃ limit, size = limit + 2 := ⟨size - 2, by omega⟩

theorem Files.resolve?_scriptParent (files : Files) {context : ModuleName}
    (there : context.isVirtual = true) {source : Syntax.Source} {id : Syntax.NodeId}
    (written : source.ScriptParent id) : files.resolve? context source id = context.parent? := by
  obtain ⟨base, nameAt, separator, here, inner⟩ := written
  have differs : base ≠ id := by
    rintro rfl
    rw [here] at inner
    simp at inner
  -- The limit is the number of nodes, so both steps are within it.
  obtain ⟨limit, room⟩ := exists_two_steps differs (Syntax.Source.bound_of_expr? inner)
    (Syntax.Source.bound_of_expr? here)
  have start : files.resolveWithin context source (limit + 1) base = some context := by
    simp [Files.resolveWithin, inner, Files.toVirtual?_of_virtual files context there,
      ModuleName.dataModelRoot]
  rw [Files.resolve?, room, Files.resolveWithin, here]
  simp [start]

namespace Instances

namespace Manifest

section

variable (manifest : Manifest)

/-- An entry has an earlier sibling with its name, or lies below an entry that has one. -/
def Overshadowed (position : Position) : Prop :=
  ∃ index parent, (index :: parent) <:+ position ∧
    ∃ earlier < index, manifest.name? (earlier :: parent) = manifest.name? (index :: parent)

/-- Entries that have no namesake in their way have paths of their own. -/
def Unambiguous : Prop :=
  ∀ one two, (manifest.at? one).isSome → (manifest.at? two).isSome →
    ¬ manifest.Overshadowed one → ¬ manifest.Overshadowed two →
    manifest.path? one = manifest.path? two → one = two

/-- No name below the root has a slash in it. -/
def Plain : Prop :=
  ∀ index parent name, manifest.name? (index :: parent) = some name → '/' ∉ name.toList

end

section

variable {manifest : Manifest}

theorem not_overshadowed_nil (manifest : Manifest) : ¬ manifest.Overshadowed [] := by
  rintro ⟨index, parent, suffix, -⟩
  simp at suffix

theorem overshadowed_cons_iff {index : Nat} {parent : Position} :
    manifest.Overshadowed (index :: parent) ↔
      (∃ earlier < index, manifest.name? (earlier :: parent) = manifest.name? (index :: parent)) ∨
        manifest.Overshadowed parent := by
  constructor
  · rintro ⟨other, above, suffix, namesake⟩
    rcases List.suffix_cons_iff.mp suffix with same | higher
    · obtain ⟨rfl, rfl⟩ := List.cons.inj same
      exact Or.inl namesake
    · exact Or.inr ⟨other, above, higher, namesake⟩
  · rintro (namesake | ⟨other, above, suffix, namesake⟩)
    · exact ⟨index, parent, List.suffix_refl _, namesake⟩
    · exact ⟨other, above, suffix.trans (List.suffix_cons index parent), namesake⟩

theorem path?_eq_of_name? {one two : Nat} {parent : Position}
    (namesake : manifest.name? (one :: parent) = manifest.name? (two :: parent)) :
    manifest.path? (one :: parent) = manifest.path? (two :: parent) := by
  rw [path?, path?, namesake]

/-- The first of the entries below one parent that have a name takes its path, if it is free. -/
theorem not_overshadowed_of_mem_kept {position : Position} (member : position ∈ manifest.kept) :
    ¬ manifest.Overshadowed position := by
  induction position with
  | nil => exact manifest.not_overshadowed_nil
  | cons index parent ih =>
    obtain ⟨above, free⟩ := (mem_kept_cons_iff (isSome_at?_of_mem_kept member)).mp member
    rw [overshadowed_cons_iff, not_or]
    refine ⟨?_, ih above⟩
    rintro ⟨earlier, before, namesake⟩
    have same := path?_eq_of_name? namesake
    have precedes : Position.Precedes (earlier :: parent) (index :: parent) :=
      Position.precedes_of_siblings before (List.suffix_refl _) (List.suffix_refl _)
    have present : (manifest.at? (earlier :: parent)).isSome := by
      have named := isSome_at?_of_mem_kept member
      rw [← Option.isSome_map (f := name)] at named ⊢
      exact (congrArg Option.isSome namesake).trans named
    -- If the earlier one is left out its path was taken before it.
    by_cases kept : (earlier :: parent) ∈ manifest.kept
    · exact free _ kept precedes same
    · rw [mem_kept_cons_iff present] at kept
      push Not at kept
      obtain ⟨other, held, first, taken⟩ := kept above
      exact free other held (List.lt_trans first precedes) (taken.trans same)

theorem Unambiguous.mem_kept (unambiguous : manifest.Unambiguous) {position : Position}
    (present : (manifest.at? position).isSome) (clear : ¬ manifest.Overshadowed position) :
    position ∈ manifest.kept := by
  induction position with
  | nil => exact manifest.mem_kept_nil
  | cons index parent ih =>
    have above : ¬ manifest.Overshadowed parent := fun shadow =>
      clear (overshadowed_cons_iff.mpr (Or.inr shadow))
    refine (mem_kept_cons_iff present).mpr ⟨ih (isSome_at?_of_cons present) above, ?_⟩
    intro other member precedes same
    have equal := unambiguous other _ (isSome_at?_of_mem_kept member) present
      (not_overshadowed_of_mem_kept member) clear same
    exact Position.not_precedes_self _ (equal ▸ precedes)

/-- Only namesakes are left out exactly if all other entries have paths of their own. -/
theorem leaves_out_namesakes_iff (manifest : Manifest) :
    (∀ position, (manifest.at? position).isSome →
      (position ∉ manifest.kept ↔ manifest.Overshadowed position)) ↔ manifest.Unambiguous := by
  constructor
  -- What has no namesake in its way is kept, and what is kept has a path of its own.
  · intro only one two first second clear also_clear same
    have kept : ∀ position, (manifest.at? position).isSome →
        ¬ manifest.Overshadowed position → position ∈ manifest.kept :=
      fun position present free => not_not.mp (mt (only position present).mp free)
    exact List.inj_on_of_nodup_map manifest.nodup_paths_kept (kept one first clear)
      (kept two second also_clear) same
  · intro unambiguous position present
    constructor
    · exact fun absent => not_not.mp (mt (unambiguous.mem_kept present) absent)
    · exact fun shadow member => not_overshadowed_of_mem_kept member shadow

theorem exists_path?_cons {index : Nat} {parent : Position}
    (present : (manifest.at? (index :: parent)).isSome) :
    ∃ above name, manifest.path? parent = some above ∧
      manifest.name? (index :: parent) = some name ∧
      manifest.path? (index :: parent) = some (above.child name) := by
  obtain ⟨entry, found⟩ := Option.isSome_iff_exists.mp present
  obtain ⟨above, path⟩ :=
    Option.isSome_iff_exists.mp (isSome_path?_of_at? (isSome_at?_of_cons present))
  exact ⟨above, entry.name, path, by simp [name?, found], path?_cons path found⟩

theorem rootPath_ne_child (manifest : Manifest) (above : ModuleName) {name : String}
    (plain : '/' ∉ name.toList) : manifest.rootPath ≠ above.child name := by
  intro same
  have up := congrArg ModuleName.parent? same
  rw [above.parent?_child_of_not_mem plain] at up
  have top : manifest.rootPath.parent? = none := by
    unfold rootPath
    split <;> decide
  simp [top] at up

/-- Of two entries below one parent that have a name the later one is overshadowed. -/
theorem eq_of_name?_of_not_overshadowed {one two : Nat} {parent : Position}
    (clear : ¬ manifest.Overshadowed (one :: parent))
    (also_clear : ¬ manifest.Overshadowed (two :: parent))
    (same : manifest.name? (one :: parent) = manifest.name? (two :: parent)) : one = two := by
  rcases Nat.lt_trichotomy one two with before | equal | behind
  · exact absurd (overshadowed_cons_iff.mpr (Or.inl ⟨one, before, same⟩)) also_clear
  · exact equal
  · exact absurd (overshadowed_cons_iff.mpr (Or.inl ⟨two, behind, same.symm⟩)) clear

/-- Without slashes in the names a path is read back as the names that it was made of. -/
theorem Plain.unambiguous (plain : manifest.Plain) : manifest.Unambiguous := by
  intro one two first second clear also_clear same
  -- Both paths are read from their ends: the last names agree, and then what is above them.
  induction one generalizing two with
  | nil =>
    cases two with
    | nil => rfl
    | cons index parent =>
      obtain ⟨above, name, -, named, path⟩ := exists_path?_cons second
      have root := Option.some.inj (same.trans path)
      exact absurd root (manifest.rootPath_ne_child above (plain index parent name named))
  | cons index parent ih =>
    obtain ⟨above, name, top, named, path⟩ := exists_path?_cons first
    have slashless := plain index parent name named
    cases two with
    | nil =>
      have root := Option.some.inj (same.symm.trans path)
      exact absurd root (manifest.rootPath_ne_child above slashless)
    | cons other beside =>
      obtain ⟨high, word, along, called, way⟩ := exists_path?_cons second
      rw [path, way, Option.some.injEq] at same
      obtain ⟨rfl, rfl⟩ :=
        ModuleName.child_inj slashless (plain other beside word called) same
      have parents := ih beside (isSome_at?_of_cons first) (isSome_at?_of_cons second)
        (fun shadow => clear (overshadowed_cons_iff.mpr (Or.inr shadow)))
        (fun shadow => also_clear (overshadowed_cons_iff.mpr (Or.inr shadow)))
        (top.trans along.symm)
      subst parents
      rw [eq_of_name?_of_not_overshadowed clear also_clear (named.trans called.symm)]

/-- Seen from the script of a child, its parent is found exactly if the child's name has no slash
in it. -/
theorem resolve?_scriptParent_ofManifest (manifest : Manifest) {index id : Nat}
    {parent child : Instance} (above : (Tree.ofManifest manifest).nodes[index]? = some parent)
    (here : (Tree.ofManifest manifest).nodes[id]? = some child) (lists : id ∈ parent.children)
    (files : Files) {source : Syntax.Source} {expression : Syntax.NodeId}
    (written : source.ScriptParent expression) :
    files.resolve? child.virtualPath source expression = some parent.virtualPath ↔
      '/' ∉ child.name.toList := by
  obtain ⟨-, node, found, path⟩ :=
    (Tree.consistent_ofManifest manifest).linked index parent above id lists
  obtain rfl := Option.some.inj (here.symm.trans found)
  have there := Tree.rooted_ofManifest manifest child
    (Array.mem_toList_iff.mpr (Array.mem_of_getElem? here))
  rw [files.resolve?_scriptParent there written, path, ModuleName.parent?_child_iff]

end

/-- The tree of an accepted manifest shows the kept entries in the hierarchy of the manifest.
Namesakes of earlier siblings are left out with what lies below them, and these are all that is
left out exactly if the other entries have paths of their own, as they do where no name has a
slash in it. From an instance the step up leads to its parent exactly if its name has none. -/
theorem hierarchy_ofText (text : String) (manifest : Manifest)
    (read : Manifest.ofText text = .ok manifest) :
    Tree.ofText text = .ok (Tree.ofManifest manifest) ∧
      manifest.Represents (Tree.ofManifest manifest) ∧ [] ∈ manifest.kept ∧
      (∀ index parent, (manifest.at? (index :: parent)).isSome →
        ((index :: parent) ∈ manifest.kept ↔ parent ∈ manifest.kept ∧
          ∀ other ∈ manifest.kept, other.Precedes (index :: parent) →
            manifest.path? other ≠ manifest.path? (index :: parent))) ∧
      (∀ position, manifest.Overshadowed position → position ∉ manifest.kept) ∧
      ((∀ position, (manifest.at? position).isSome →
        (position ∉ manifest.kept ↔ manifest.Overshadowed position)) ↔ manifest.Unambiguous) ∧
      (manifest.Plain → manifest.Unambiguous) ∧
      ∀ (index id : Nat) (parent child : Instance),
        (Tree.ofManifest manifest).nodes[index]? = some parent →
        (Tree.ofManifest manifest).nodes[id]? = some child → id ∈ parent.children →
        ∀ (files : Files) (source : Syntax.Source) (expression : Syntax.NodeId),
          source.ScriptParent expression →
          (files.resolve? child.virtualPath source expression = some parent.virtualPath ↔
            '/' ∉ child.name.toList) := by
  refine ⟨by rw [Tree.ofText, read]; rfl, manifest.represents_ofManifest, manifest.mem_kept_nil,
    fun index parent => mem_kept_cons_iff, ?_, manifest.leaves_out_namesakes_iff,
    Plain.unambiguous, ?_⟩
  · intro position shadow member
    exact not_overshadowed_of_mem_kept member shadow
  · intro index id parent child above here lists files source expression written
    exact manifest.resolve?_scriptParent_ofManifest above here lists files written

namespace Slashed

/-- The second child of the root has the path of the first one's child, the third child's name
has a slash in it, and the fourth one repeats the name of the first. -/
def text : String :=
  "\x7b\"name\":\"P\",\"className\":\"DataModel\",\"children\":[" ++
    "\x7b\"name\":\"A\",\"className\":\"\",\"children\":[" ++
      "\x7b\"name\":\"B\",\"className\":\"\"\x7d]\x7d," ++
    "\x7b\"name\":\"A/B\",\"className\":\"\"\x7d," ++
    "\x7b\"name\":\"C/D\",\"className\":\"\"\x7d," ++
    "\x7b\"name\":\"A\",\"className\":\"\"\x7d]\x7d"

def manifest : Manifest :=
  .entry "P" "DataModel" []
    [.entry "A" "" [] [.entry "B" "" [] []], .entry "A/B" "" [] [], .entry "C/D" "" [] [],
      .entry "A" "" [] []]

/-- The module `script.Parent`. -/
def source : Syntax.Source :=
  { name := ⟨"game/C/D"⟩
    nodes := #[⟨default, .expr (.globalName "script")⟩,
      ⟨default, .expr (.member 0 "Parent" default '.')⟩]
    locals := #[]
    root := 1 }

theorem read : Manifest.ofText text = .ok manifest := by cbv

theorem kept_eq : manifest.kept = [[], [0], [0, 0], [2]] := by decide +kernel

theorem scriptParent : source.ScriptParent 1 := ⟨0, default, '.', rfl, rfl⟩

theorem not_overshadowed : ¬ manifest.Overshadowed [1] := by
  rw [overshadowed_cons_iff, not_or]
  exact ⟨by decide +kernel, manifest.not_overshadowed_nil⟩

end Slashed

theorem hierarchy_ofText_slashed :
    Manifest.ofText Slashed.text = .ok Slashed.manifest ∧
      Slashed.manifest.Represents (Tree.ofManifest Slashed.manifest) ∧
      [3] ∉ Slashed.manifest.kept ∧ ¬ Slashed.manifest.Unambiguous ∧
      ∀ files : Files, files.resolve? ⟨"game/A/B"⟩ Slashed.source 1 = some ⟨"game/A"⟩ := by
  obtain ⟨-, represents, -, -, shadows, only, -, up⟩ :=
    hierarchy_ofText Slashed.text Slashed.manifest Slashed.read
  refine ⟨Slashed.read, represents, shadows [3] ?_, ?_, fun files => ?_⟩
  · exact overshadowed_cons_iff.mpr (Or.inl (by decide +kernel))
  · intro unambiguous
    have shadow := (only.mpr unambiguous [1] (by decide +kernel)).mp (by rw [Slashed.kept_eq]; decide)
    exact Slashed.not_overshadowed shadow
  · exact (up 1 2
      { name := "A", className := "", filePaths := [], children := [2], virtualPath := ⟨"game/A"⟩ }
      { name := "B", className := "", filePaths := [], virtualPath := ⟨"game/A/B"⟩ }
      (by decide +kernel) (by decide +kernel) (by decide) files Slashed.source 1
      Slashed.scriptParent).mpr (by decide)

/-- An entry without namesakes is left out, and a step up leads past the parent. -/
theorem hierarchy_ambiguous :
    Tree.ofText Slashed.text = .ok (Tree.ofManifest Slashed.manifest) ∧
      Slashed.manifest.name? [1] = some "A/B" ∧ ¬ Slashed.manifest.Overshadowed [1] ∧
      (∀ node ∈ (Tree.ofManifest Slashed.manifest).nodes, node.name ≠ "A/B") ∧
      (Tree.ofManifest Slashed.manifest).childrenAt 0 = [1, 3] ∧
      ((Tree.ofManifest Slashed.manifest).nodes[0]?.map (·.virtualPath)) = some ⟨"game"⟩ ∧
      ((Tree.ofManifest Slashed.manifest).nodes[3]?.map (·.virtualPath)) = some ⟨"game/C/D"⟩ ∧
      Slashed.source.ScriptParent 1 ∧
      Files.resolve? ⟨⟨"/"⟩, {}, Tree.ofManifest Slashed.manifest⟩ ⟨"game/C/D"⟩ Slashed.source 1 =
        some ⟨"game/C"⟩ := by
  refine ⟨?_, by decide +kernel, Slashed.not_overshadowed, by decide +kernel, by decide +kernel,
    by decide +kernel, by decide +kernel, Slashed.scriptParent, ?_⟩
  · rw [Tree.ofText, Slashed.read]
    rfl
  · rw [Files.resolve?_scriptParent _ (by decide) Slashed.scriptParent]
    decide

end Manifest

end Instances

end LuauWorkspace
