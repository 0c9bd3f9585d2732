import LuauWorkspace.Proofs.Hierarchy
import Mathlib.Data.List.Lex

/-!
# Entries of a manifest

An entry is addressed by the way up from it: its index among the children of its parent comes
first, the index of the child of the whole manifest that it lies below comes last. In the order of
the document an entry comes before everything below it and before its later siblings. An entry is
kept when its parent is kept and no entry before it that is kept has its path, and the tree of a
manifest shows the kept entries, each once, in the order of the document, with the kept children
of an entry below it.
-/
namespace LuauWorkspace

theorem ModuleName.child_left_injective {one two : ModuleName} {name : String}
    (same : one.child name = two.child name) : one = two := by
  have texts := congrArg String.toList (congrArg ModuleName.text same)
  simp only [child, String.toList_append] at texts
  obtain ⟨one⟩ := one
  obtain ⟨two⟩ := two
  exact congrArg _ (String.toList_injective
    (List.append_cancel_right (List.append_cancel_right texts)))

/-- What is left from an index on begins with what stands there. -/
theorem next_of_drop {α : Type} {values rest : List α} {first : α} {start : Nat}
    (left : first :: rest = values.drop start) :
    values[start]? = some first ∧ rest = values.drop (start + 1) := by
  constructor
  · simpa using (congrArg List.head? left).symm
  · simpa using congrArg List.tail left

namespace Instances

namespace Manifest

def filePaths : Manifest → List String
  | entry _ _ filePaths _ => filePaths

def children : Manifest → List Manifest
  | entry _ _ _ children => children

/-- Where an entry stands: its index below its parent, then where the parent stands. -/
abbrev Position := List Nat

/-- The order of the document. -/
def Position.Precedes (one two : Position) : Prop := one.reverse < two.reverse

section

variable (manifest : Manifest)

/-- The entry at a position. -/
def at? : Position → Option Manifest
  | [] => some manifest
  | index :: parent => (at? parent).bind fun above => above.children[index]?

def name? (position : Position) : Option String := (manifest.at? position).map name

def rootPath : ModuleName :=
  ⟨if manifest.className = "DataModel" then ModuleName.dataModelRoot else ModuleName.projectRoot⟩

/-- The path that the names from the root down to an entry make. -/
def path? : Position → Option ModuleName
  | [] => some manifest.rootPath
  | index :: parent =>
    (path? parent).bind fun above => (manifest.name? (index :: parent)).map above.child

end

mutual

/-- The positions of an entry and of everything below it. -/
def positionsFrom (here : Position) : Manifest → List Position
  | .entry _ _ _ children => here :: positionsBelow here 0 children

/-- The positions of what stands below an entry from some child on. -/
def positionsBelow (parent : Position) (index : Nat) : List Manifest → List Position
  | [] => []
  | child :: rest => positionsFrom (index :: parent) child ++ positionsBelow parent (index + 1) rest

end

section

variable (manifest : Manifest)

def positions : List Position := positionsFrom [] manifest

/-- An entry can be kept beside others below a kept parent, at a path that none of them has. -/
def admits (kept : List Position) : Position → Bool
  | [] => true
  | index :: parent =>
    decide (parent ∈ kept) && decide (manifest.path? (index :: parent) ∉ kept.map manifest.path?)

def keep (kept : List Position) (position : Position) : List Position :=
  if manifest.admits kept position then kept ++ [position] else kept

/-- The positions of the entries that are kept, one after the other. -/
def kept : List Position := manifest.positions.foldl manifest.keep []

end

/-! ## Positions -/

section

variable {manifest : Manifest}

theorem at?_cons_eq_some_iff {index : Nat} {parent : Position} {entry : Manifest} :
    manifest.at? (index :: parent) = some entry ↔
      ∃ above, manifest.at? parent = some above ∧ above.children[index]? = some entry := by
  rw [at?, Option.bind_eq_some_iff]

theorem path?_cons {index : Nat} {parent : Position} {above : ModuleName} {entry : Manifest}
    (path : manifest.path? parent = some above)
    (present : manifest.at? (index :: parent) = some entry) :
    manifest.path? (index :: parent) = some (above.child entry.name) := by
  simp [path?, path, name?, present]

theorem isSome_at?_of_cons {index : Nat} {parent : Position}
    (present : (manifest.at? (index :: parent)).isSome) : (manifest.at? parent).isSome := by
  obtain ⟨entry, found⟩ := Option.isSome_iff_exists.mp present
  obtain ⟨above, place, -⟩ := at?_cons_eq_some_iff.mp found
  exact Option.isSome_iff_exists.mpr ⟨above, place⟩

theorem isSome_path?_of_at? {position : Position} (present : (manifest.at? position).isSome) :
    (manifest.path? position).isSome := by
  induction position with
  | nil => rfl
  | cons index parent ih =>
    obtain ⟨above, path⟩ := Option.isSome_iff_exists.mp (ih (isSome_at?_of_cons present))
    obtain ⟨entry, found⟩ := Option.isSome_iff_exists.mp present
    rw [path?_cons path found]
    rfl

end

mutual

theorem suffix_of_mem_positionsFrom {here position : Position} {entry : Manifest}
    (member : position ∈ positionsFrom here entry) : here <:+ position := by
  cases entry with
  | entry name className filePaths children =>
    rw [positionsFrom] at member
    rcases List.mem_cons.mp member with rfl | below
    · exact List.suffix_refl _
    · obtain ⟨index, -, above⟩ := suffix_of_mem_positionsBelow below
      exact (List.suffix_cons index here).trans above

theorem suffix_of_mem_positionsBelow {parent position : Position} {start : Nat}
    {children : List Manifest} (member : position ∈ positionsBelow parent start children) :
    ∃ index, start ≤ index ∧ (index :: parent) <:+ position := by
  cases children with
  | nil => simp [positionsBelow] at member
  | cons child rest =>
    rw [positionsBelow] at member
    rcases List.mem_append.mp member with first | later
    · exact ⟨start, Nat.le_refl _, suffix_of_mem_positionsFrom first⟩
    · obtain ⟨index, bound, above⟩ := suffix_of_mem_positionsBelow later
      exact ⟨index, by omega, above⟩

end

/-- An entry comes before what stands below it. -/
theorem Position.precedes_of_suffix {index : Nat} {here position : Position}
    (below : (index :: here) <:+ position) : here.Precedes position := by
  obtain ⟨deeper, rfl⟩ := below
  have behind : here.reverse ++ [] < here.reverse ++ (index :: deeper.reverse) :=
    List.Lex.append_left (· < ·) List.Lex.nil here.reverse
  simpa [Position.Precedes] using behind

/-- What stands below an entry comes before its later siblings and what stands below them. -/
theorem Position.precedes_of_siblings {one two : Nat} {parent first second : Position}
    (earlier : one < two) (here : (one :: parent) <:+ first) (there : (two :: parent) <:+ second) :
    first.Precedes second := by
  obtain ⟨deeper, rfl⟩ := here
  obtain ⟨other, rfl⟩ := there
  have apart : parent.reverse ++ (one :: deeper.reverse) < parent.reverse ++ (two :: other.reverse) :=
    List.Lex.append_left (· < ·) (List.Lex.rel earlier) parent.reverse
  simpa [Position.Precedes] using apart

mutual

theorem pairwise_positionsFrom (here : Position) (entry : Manifest) :
    (positionsFrom here entry).Pairwise Position.Precedes := by
  cases entry with
  | entry name className filePaths children =>
    rw [positionsFrom]
    refine List.pairwise_cons.mpr ⟨?_, pairwise_positionsBelow here 0 children⟩
    intro position member
    obtain ⟨index, -, below⟩ := suffix_of_mem_positionsBelow member
    exact Position.precedes_of_suffix below

theorem pairwise_positionsBelow (parent : Position) (start : Nat) (children : List Manifest) :
    (positionsBelow parent start children).Pairwise Position.Precedes := by
  cases children with
  | nil => rw [positionsBelow]; exact List.Pairwise.nil
  | cons child rest =>
    rw [positionsBelow]
    refine List.pairwise_append.mpr ⟨pairwise_positionsFrom _ child,
      pairwise_positionsBelow parent (start + 1) rest, ?_⟩
    intro first member second later
    obtain ⟨index, bound, there⟩ := suffix_of_mem_positionsBelow later
    exact Position.precedes_of_siblings (by omega) (suffix_of_mem_positionsFrom member) there

end

section

variable {manifest : Manifest}

mutual

theorem isSome_at?_of_mem_positionsFrom {here position : Position} {entry : Manifest}
    (found : manifest.at? here = some entry) (member : position ∈ positionsFrom here entry) :
    (manifest.at? position).isSome := by
  cases entry with
  | entry name className filePaths children =>
    rw [positionsFrom] at member
    rcases List.mem_cons.mp member with rfl | below
    · exact Option.isSome_iff_exists.mpr ⟨_, found⟩
    · exact isSome_at?_of_mem_positionsBelow found (by simp [Manifest.children]) below

theorem isSome_at?_of_mem_positionsBelow {parent position : Position} {start : Nat}
    {above : Manifest} {children : List Manifest} (found : manifest.at? parent = some above)
    (left : children = above.children.drop start)
    (member : position ∈ positionsBelow parent start children) :
    (manifest.at? position).isSome := by
  cases children with
  | nil => simp [positionsBelow] at member
  | cons child rest =>
    obtain ⟨here, others⟩ := next_of_drop left
    rw [positionsBelow] at member
    rcases List.mem_append.mp member with first | later
    · exact isSome_at?_of_mem_positionsFrom (at?_cons_eq_some_iff.mpr ⟨above, found, here⟩) first
    · exact isSome_at?_of_mem_positionsBelow found others later

end

mutual

/-- What is listed from an entry on is listed with everything below it. -/
theorem mem_positionsFrom_trans {here between position : Position} {entry middle : Manifest}
    (found : manifest.at? here = some entry) (listed : between ∈ positionsFrom here entry)
    (place : manifest.at? between = some middle) (member : position ∈ positionsFrom between middle) :
    position ∈ positionsFrom here entry := by
  cases entry with
  | entry name className filePaths children =>
    rw [positionsFrom] at listed
    rcases List.mem_cons.mp listed with rfl | below
    · obtain rfl := Option.some.inj (place.symm.trans found)
      exact member
    · rw [positionsFrom]
      refine List.mem_cons_of_mem _ ?_
      exact mem_positionsBelow_trans found (by simp [Manifest.children]) below place member

theorem mem_positionsBelow_trans {parent between position : Position} {start : Nat}
    {above middle : Manifest} {children : List Manifest} (found : manifest.at? parent = some above)
    (left : children = above.children.drop start)
    (listed : between ∈ positionsBelow parent start children)
    (place : manifest.at? between = some middle) (member : position ∈ positionsFrom between middle) :
    position ∈ positionsBelow parent start children := by
  cases children with
  | nil => simp [positionsBelow] at listed
  | cons child rest =>
    obtain ⟨here, others⟩ := next_of_drop left
    rw [positionsBelow] at listed ⊢
    rcases List.mem_append.mp listed with first | later
    · exact List.mem_append_left _ (mem_positionsFrom_trans
        (at?_cons_eq_some_iff.mpr ⟨above, found, here⟩) first place member)
    · exact List.mem_append_right _ (mem_positionsBelow_trans found others later place member)

end

theorem mem_positionsFrom_self (here : Position) (entry : Manifest) :
    here ∈ positionsFrom here entry := by
  cases entry
  rw [positionsFrom]
  exact List.mem_cons_self ..

theorem mem_positionsBelow_of_getElem? (parent : Position) (start : Nat)
    {children : List Manifest} {index : Nat} {child : Manifest}
    (found : children[index]? = some child) :
    ((start + index) :: parent) ∈ positionsBelow parent start children := by
  induction children generalizing start index with
  | nil => simp at found
  | cons first rest ih =>
    rw [positionsBelow]
    cases index with
    | zero => exact List.mem_append_left _ (mem_positionsFrom_self ..)
    | succ index =>
      have later := ih (start + 1) (by simpa using found)
      rw [show start + 1 + index = start + (index + 1) by omega] at later
      exact List.mem_append_right _ later

/-- The positions are those at which there is an entry. -/
theorem mem_positions_iff {position : Position} :
    position ∈ manifest.positions ↔ (manifest.at? position).isSome := by
  constructor
  · exact isSome_at?_of_mem_positionsFrom rfl
  · intro present
    induction position with
    | nil => exact mem_positionsFrom_self ..
    | cons index parent ih =>
      obtain ⟨entry, found⟩ := Option.isSome_iff_exists.mp present
      obtain ⟨above, place, child⟩ := at?_cons_eq_some_iff.mp found
      have listed := ih (Option.isSome_iff_exists.mpr ⟨above, place⟩)
      refine mem_positionsFrom_trans rfl listed place ?_
      cases above with
      | entry name className filePaths children =>
        have below := mem_positionsBelow_of_getElem? parent 0 child
        rw [positionsFrom, ← Nat.zero_add index]
        exact List.mem_cons_of_mem _ below

theorem pairwise_positions (manifest : Manifest) :
    manifest.positions.Pairwise Position.Precedes := pairwise_positionsFrom [] manifest

end

/-! ## Kept entries -/

section

variable {manifest : Manifest}

/-- What a pass keeps is appended, and is some of what it passes. -/
theorem exists_foldl_keep (manifest : Manifest) (kept positions : List Position) :
    ∃ new, positions.foldl manifest.keep kept = kept ++ new ∧ new.Sublist positions := by
  induction positions generalizing kept with
  | nil => exact ⟨[], by simp, List.Sublist.refl _⟩
  | cons position rest ih =>
    rw [List.foldl_cons, keep]
    split
    · obtain ⟨new, whole, some_of⟩ := ih (kept ++ [position])
      exact ⟨position :: new, by simp [whole], some_of.cons_cons position⟩
    · obtain ⟨new, whole, some_of⟩ := ih kept
      exact ⟨new, whole, some_of.cons position⟩

theorem kept_sublist (manifest : Manifest) : manifest.kept.Sublist manifest.positions := by
  obtain ⟨new, whole, some_of⟩ := manifest.exists_foldl_keep [] manifest.positions
  rw [kept, whole]
  exact some_of

theorem isSome_at?_of_mem_kept {position : Position} (member : position ∈ manifest.kept) :
    (manifest.at? position).isSome := mem_positions_iff.mp (manifest.kept_sublist.subset member)

theorem pairwise_kept (manifest : Manifest) : manifest.kept.Pairwise Position.Precedes :=
  manifest.pairwise_positions.sublist manifest.kept_sublist

theorem Position.not_precedes_self (position : Position) : ¬ position.Precedes position :=
  List.lt_irrefl _

theorem Position.Precedes.asymm {one two : Position} (before : one.Precedes two) :
    ¬ two.Precedes one := List.lt_asymm before

theorem Position.precedes_cons (index : Nat) (parent : Position) :
    parent.Precedes (index :: parent) := precedes_of_suffix (List.suffix_refl _)

/-- Nothing comes before the whole manifest. -/
theorem mem_kept_nil (manifest : Manifest) : [] ∈ manifest.kept := by
  cases manifest with
  | entry name className filePaths children =>
    rw [kept, positions, positionsFrom, List.foldl_cons, keep, if_pos (by rfl)]
    obtain ⟨new, whole, -⟩ := (entry name className filePaths children).exists_foldl_keep
      ([] ++ [[]]) (positionsBelow [] 0 children)
    rw [whole]
    simp

/-- When an entry is passed, those that are kept already are the kept ones before it. -/
theorem exists_kept_before {position : Position} (present : (manifest.at? position).isSome) :
    ∃ early, (∀ other, other ∈ early ↔ other ∈ manifest.kept ∧ other.Precedes position) ∧
      (position ∈ manifest.kept ↔ manifest.admits early position = true) := by
  -- The pass is cut at the position, and what is behind it can be no earlier entry.
  obtain ⟨front, back, cut⟩ := List.append_of_mem (mem_positions_iff.mpr present)
  have order := manifest.pairwise_positions
  rw [cut] at order
  obtain ⟨-, behind, before⟩ := List.pairwise_append.mp order
  obtain ⟨early, passed, some_front⟩ := manifest.exists_foldl_keep [] front
  obtain ⟨late, whole, some_back⟩ := manifest.exists_foldl_keep (manifest.keep early position) back
  have result : manifest.kept = manifest.keep early position ++ late := by
    rw [kept, cut, List.foldl_append, passed, List.nil_append, List.foldl_cons, whole]
  have before_early : ∀ other ∈ early, other.Precedes position := fun other member =>
    before other (some_front.subset member) position (List.mem_cons_self ..)
  have behind_late : ∀ other ∈ late, position.Precedes other := fun other member =>
    (List.pairwise_cons.mp behind).1 other (some_back.subset member)
  have not_early : position ∉ early := fun member =>
    Position.not_precedes_self _ (before_early _ member)
  have not_late : position ∉ late := fun member =>
    Position.not_precedes_self _ (behind_late _ member)
  refine ⟨early, fun other => ⟨fun member => ⟨?_, before_early other member⟩, ?_⟩, ?_⟩
  · rw [result, keep]
    split <;> simp [member]
  · rintro ⟨member, precedes⟩
    have differs : other ≠ position := fun same =>
      Position.not_precedes_self _ (same ▸ precedes)
    have absent : other ∉ late := fun later => (behind_late other later).asymm precedes
    rw [result, keep] at member
    split at member <;> simpa [differs, absent] using member
  · rw [result, keep]
    split
    next admitted => simp [admitted]
    next refused => simp [refused, not_early, not_late]

/-- Below a kept entry an entry is kept unless a kept one before it has its path. -/
theorem mem_kept_cons_iff {index : Nat} {parent : Position}
    (present : (manifest.at? (index :: parent)).isSome) :
    (index :: parent) ∈ manifest.kept ↔ parent ∈ manifest.kept ∧
      ∀ other ∈ manifest.kept, other.Precedes (index :: parent) →
        manifest.path? other ≠ manifest.path? (index :: parent) := by
  obtain ⟨early, mem_early, kept_iff⟩ := exists_kept_before present
  have above := Position.precedes_cons index parent
  rw [kept_iff, admits, Bool.and_eq_true, decide_eq_true_eq, decide_eq_true_eq, mem_early,
    and_iff_left above, List.mem_map]
  refine and_congr_right fun _ => ?_
  constructor
  · intro free other member precedes same
    exact free ⟨other, (mem_early other).mpr ⟨member, precedes⟩, same⟩
  · rintro free ⟨other, member, same⟩
    obtain ⟨before, precedes⟩ := (mem_early other).mp member
    exact free other before precedes same

/-- No two kept entries have one path. -/
theorem nodup_paths_kept (manifest : Manifest) : (manifest.kept.map manifest.path?).Nodup := by
  rw [List.Nodup, List.pairwise_map]
  refine manifest.pairwise_kept.imp_of_mem fun {one two} first second precedes => ?_
  cases two with
  | nil => exact absurd precedes (List.not_lt_nil _)
  | cons index parent =>
    exact ((mem_kept_cons_iff (isSome_at?_of_mem_kept second)).mp second).2 one first precedes

theorem mem_kept_of_cons {index : Nat} {parent : Position}
    (member : (index :: parent) ∈ manifest.kept) : parent ∈ manifest.kept :=
  ((mem_kept_cons_iff (isSome_at?_of_mem_kept member)).mp member).1

/-! ## The tree of the kept entries -/

/-- An instance has the fields of the entry at a position, and its path. -/
structure Shows (manifest : Manifest) (position : Position) (node : Instance) : Prop where
  entry : ∃ entry, manifest.at? position = some entry ∧ node.name = entry.name ∧
    node.className = entry.className ∧ node.filePaths = entry.filePaths.map Tree.filePath
  path : manifest.path? position = some node.virtualPath

theorem forall₂_shows_adopt {kept : List Position} {tree : Tree}
    (shown : List.Forall₂ manifest.Shows kept tree.nodes.toList) (parent : Nat)
    (children : List Nat) :
    List.Forall₂ manifest.Shows kept (tree.adopt parent children).nodes.toList := by
  rw [List.forall₂_iff_get] at shown ⊢
  obtain ⟨size, each⟩ := shown
  refine ⟨by simpa [Tree.adopt] using size, fun index first second => ?_⟩
  have bound : index < tree.nodes.toList.length := size ▸ first
  obtain ⟨entry, path⟩ := each index first bound
  simp only [List.get_eq_getElem, Tree.adopt, Array.toList_modify, List.getElem_modify]
  split
  · exact ⟨entry, path⟩
  · exact ⟨entry, path⟩

theorem paths_of_shows {kept : List Position} {nodes : List Instance}
    (shown : List.Forall₂ manifest.Shows kept nodes) :
    kept.map manifest.path? = nodes.map fun node => some node.virtualPath := by
  induction shown with
  | nil => rfl
  | cons first _ ih => rw [List.map_cons, List.map_cons, first.path, ih]

theorem isTaken_iff_of_shows {kept : List Position} {tree : Tree}
    (shown : List.Forall₂ manifest.Shows kept tree.nodes.toList) (path : ModuleName) :
    tree.isTaken path = true ↔ some path ∈ kept.map manifest.path? := by
  rw [← Bool.not_eq_false, Tree.isTaken_eq_false_iff, paths_of_shows shown, not_not]
  simp

/-- Where an entry is not admitted nothing below it is. -/
theorem foldl_keep_of_refused {kept : List Position} {here : Position} (entry : Manifest)
    (refused : manifest.admits kept here = false) (fresh : ∀ other ∈ kept, ¬ here <:+ other) :
    (positionsFrom here entry).foldl manifest.keep kept = kept := by
  -- All that matters about what is passed is that it lies below the entry.
  suffices skips : ∀ positions : List Position, (∀ position ∈ positions, here <:+ position) →
      positions.foldl manifest.keep kept = kept from
    skips _ fun _ => suffix_of_mem_positionsFrom
  intro positions below
  induction positions with
  | nil => rfl
  | cons position rest ih =>
    have stays : manifest.admits kept position = false := by
      obtain ⟨deeper, rfl⟩ := below position (List.mem_cons_self ..)
      -- The entry itself is refused, and what lies deeper has no kept parent.
      cases deeper with
      | nil => exact refused
      | cons index above =>
        have orphan : above ++ here ∉ kept := fun member =>
          fresh _ member (List.suffix_append above here)
        simp [admits, orphan]
    rw [List.foldl_cons, keep, if_neg (by simp [stays])]
    exact ih fun other member => below other (List.mem_cons_of_mem _ member)

mutual

theorem shows_place {tree : Tree} {kept : List Position} {here : Position} {entry : Manifest}
    {path : ModuleName} (shown : List.Forall₂ manifest.Shows kept tree.nodes.toList)
    (found : manifest.at? here = some entry) (known : manifest.path? here = some path)
    (admitted : manifest.admits kept here = true) (fresh : ∀ other ∈ kept, ¬ here <:+ other) :
    List.Forall₂ manifest.Shows ((positionsFrom here entry).foldl manifest.keep kept)
      (tree.place path entry).nodes.toList := by
  cases entry with
  | entry name className filePaths children =>
    rw [positionsFrom, List.foldl_cons, keep, if_pos admitted, Tree.place]
    apply forall₂_shows_adopt
    -- The entry is there before its children, which are placed below it.
    refine shows_placeAll ?_ found (by simp [Manifest.children]) known (by simp) ?_
    · rw [Tree.push, Array.toList_push]
      exact List.rel_append shown (.cons ⟨⟨_, found, rfl, rfl, rfl⟩, known⟩ .nil)
    · intro other member index _ below
      rcases List.mem_append.mp member with old | new
      · exact fresh other old ((List.suffix_cons index here).trans below)
      · obtain rfl := List.mem_singleton.mp new
        exact Nat.not_succ_le_self _ below.length_le

theorem shows_placeAll {tree : Tree} {kept : List Position} {parent : Position} {start : Nat}
    {above : Manifest} {children : List Manifest} {path : ModuleName}
    (shown : List.Forall₂ manifest.Shows kept tree.nodes.toList)
    (found : manifest.at? parent = some above) (left : children = above.children.drop start)
    (known : manifest.path? parent = some path) (placed : parent ∈ kept)
    (fresh : ∀ other ∈ kept, ∀ index, start ≤ index → ¬ (index :: parent) <:+ other) :
    List.Forall₂ manifest.Shows ((positionsBelow parent start children).foldl manifest.keep kept)
      (tree.placeAll path children).2.nodes.toList := by
  cases children with
  | nil => rw [positionsBelow, Tree.placeAll]; exact shown
  | cons child rest =>
    obtain ⟨stands, others⟩ := next_of_drop left
    have here : manifest.at? (start :: parent) = some child :=
      at?_cons_eq_some_iff.mpr ⟨above, found, stands⟩
    have step := path?_cons known here
    have unseen : ∀ other ∈ kept, ¬ (start :: parent) <:+ other := fun other member =>
      fresh other member start (Nat.le_refl _)
    rw [positionsBelow, List.foldl_append, Tree.placeAll]
    split
    -- The child is left out with everything below it, or takes its place before its siblings.
    next taken =>
      have refused : manifest.admits kept (start :: parent) = false := by
        have present := (isTaken_iff_of_shows shown _).mp taken
        simp only [admits, step, present, not_true_eq_false, decide_false, Bool.and_false]
      rw [foldl_keep_of_refused child refused unseen]
      exact shows_placeAll shown found others known placed fun other member index bound =>
        fresh other member index (by omega)
    next free =>
      have admitted : manifest.admits kept (start :: parent) = true := by
        have absent := mt (isTaken_iff_of_shows shown _).mpr free
        simp only [admits, step, placed, absent, not_false_eq_true, decide_true, Bool.and_true]
      have first := shows_place shown here step admitted unseen
      obtain ⟨new, whole, some_of⟩ := manifest.exists_foldl_keep kept
        (positionsFrom (start :: parent) child)
      refine shows_placeAll first found others known ?_ ?_
      · rw [whole]
        exact List.mem_append_left _ placed
      · -- What was kept below this child lies below no later one.
        intro other member index bound below
        rw [whole] at member
        rcases List.mem_append.mp member with old | late
        · exact fresh other old index (by omega) below
        · have there := suffix_of_mem_positionsFrom (some_of.subset late)
          exact Position.not_precedes_self _
            (Position.precedes_of_siblings (by omega) there below)

end

/-- The instances of the tree are the kept entries in the order of the document. -/
theorem shows_ofManifest (manifest : Manifest) :
    List.Forall₂ manifest.Shows manifest.kept (Tree.ofManifest manifest).nodes.toList := by
  have empty : List.Forall₂ manifest.Shows [] ({} : Tree).nodes.toList := .nil
  exact shows_place empty rfl rfl rfl (by simp)

theorem getElem?_nodes_of_kept {index : Nat} {position : Position}
    (place : manifest.kept[index]? = some position) :
    ∃ node, (Tree.ofManifest manifest).nodes[index]? = some node ∧
      manifest.Shows position node := by
  obtain ⟨size, each⟩ := List.forall₂_iff_get.mp (shows_ofManifest manifest)
  obtain ⟨bound, rfl⟩ := List.getElem?_eq_some_iff.mp place
  refine ⟨_, ?_, each index bound (size ▸ bound)⟩
  rw [← Array.getElem?_toList]
  exact List.getElem?_eq_getElem _

theorem exists_kept_of_getElem? {index : Nat} {node : Instance}
    (found : (Tree.ofManifest manifest).nodes[index]? = some node) :
    ∃ position, manifest.kept[index]? = some position ∧ manifest.Shows position node := by
  obtain ⟨size, each⟩ := List.forall₂_iff_get.mp (shows_ofManifest manifest)
  rw [← Array.getElem?_toList] at found
  obtain ⟨bound, here⟩ := List.getElem?_eq_some_iff.mp found
  exact ⟨_, List.getElem?_eq_getElem (size ▸ bound), here ▸ each index (size ▸ bound) bound⟩

theorem kept_getElem?_inj {one two : Nat} {position : Position}
    (first : manifest.kept[one]? = some position) (second : manifest.kept[two]? = some position) :
    one = two :=
  (List.getElem?_inj (List.getElem?_eq_some_iff.mp first).1 manifest.nodup_paths_kept.of_map).mp
    (first.trans second.symm)

/-- The whole manifest is kept first. -/
theorem kept_zero (manifest : Manifest) : manifest.kept[0]? = some [] := by
  obtain ⟨index, found⟩ := List.mem_iff_getElem?.mp manifest.mem_kept_nil
  obtain ⟨bound, here⟩ := List.getElem?_eq_some_iff.mp found
  rcases Nat.eq_zero_or_pos index with rfl | behind
  · exact found
  · have precedes := List.pairwise_iff_getElem.mp manifest.pairwise_kept 0 index
      (Nat.lt_of_le_of_lt (Nat.zero_le _) bound) bound behind
    exact absurd (here ▸ precedes) (List.not_lt_nil _)

/-- The instance above that of an entry shows the entry's parent. -/
theorem kept_of_mem_childrenAt {index id child : Nat} {parent : Position}
    (place : manifest.kept[id]? = some (child :: parent))
    (lists : id ∈ (Tree.ofManifest manifest).childrenAt index) :
    manifest.kept[index]? = some parent := by
  have consistent := Tree.consistent_ofManifest manifest
  obtain ⟨node, found, shows⟩ := getElem?_nodes_of_kept place
  obtain ⟨entry, present, named, -⟩ := shows.entry
  obtain ⟨holder, there, member⟩ := (Tree.mem_childrenAt_iff ..).mp lists
  obtain ⟨-, same, again, follows⟩ := consistent.linked index holder there id member
  obtain rfl := Option.some.inj (found.symm.trans again)
  obtain ⟨above, held⟩ :=
    List.mem_iff_getElem?.mp (mem_kept_of_cons (List.mem_of_getElem? place))
  obtain ⟨other, beside, shows_above⟩ := getElem?_nodes_of_kept held
  -- Both the holder and the instance of the parent have the path in front of the name.
  have step := path?_cons shows_above.path present
  rw [shows.path, follows, Option.some.injEq, named] at step
  have paths := ModuleName.child_left_injective step
  obtain rfl := consistent.distinct.eq_of_virtualPath there beside paths
  exact held

/-- The children of an instance are the kept entries below its own. -/
theorem mem_childrenAt_ofManifest_iff {index id : Nat} {position : Position}
    (place : manifest.kept[id]? = some position) :
    id ∈ (Tree.ofManifest manifest).childrenAt index ↔
      ∃ child parent, position = child :: parent ∧ manifest.kept[index]? = some parent := by
  have consistent := Tree.consistent_ofManifest manifest
  cases position with
  | nil =>
    obtain rfl := kept_getElem?_inj place manifest.kept_zero
    refine ⟨fun lists => ?_, by simp⟩
    obtain ⟨holder, there, member⟩ := (Tree.mem_childrenAt_iff ..).mp lists
    exact absurd (consistent.linked index holder there 0 member).1 (Nat.not_lt_zero _)
  | cons child above =>
    constructor
    · exact fun lists => ⟨child, above, rfl, kept_of_mem_childrenAt place lists⟩
    · rintro ⟨_, _, same, held⟩
      obtain ⟨rfl, rfl⟩ := List.cons.inj same
      have positive : 0 < id := by
        rcases Nat.eq_zero_or_pos id with rfl | positive
        · have first := place.symm.trans manifest.kept_zero
          simp at first
        · exact positive
      -- Some node lists it, as it is not the first one, and that shows the entry's parent.
      obtain ⟨node, found, -⟩ := getElem?_nodes_of_kept place
      obtain ⟨parent, -, only⟩ :=
        consistent.parent id positive (Array.getElem?_eq_some_iff.mp found).1
      have lists := (only parent).mpr rfl
      exact kept_getElem?_inj held (kept_of_mem_childrenAt place lists) ▸ lists

/-- A tree shows the kept entries of a manifest, each once, in the order of the document, and has
the hierarchy of the manifest. -/
structure Represents (manifest : Manifest) (tree : Tree) : Prop where
  shows : List.Forall₂ manifest.Shows manifest.kept tree.nodes.toList
  children : ∀ index id, id ∈ tree.childrenAt index ↔ ∃ child parent,
    manifest.kept[id]? = some (child :: parent) ∧ manifest.kept[index]? = some parent

theorem represents_ofManifest (manifest : Manifest) :
    manifest.Represents (Tree.ofManifest manifest) := by
  refine ⟨manifest.shows_ofManifest, fun index id => ?_⟩
  constructor
  · intro lists
    obtain ⟨holder, there, member⟩ := (Tree.mem_childrenAt_iff ..).mp lists
    obtain ⟨-, node, found, -⟩ :=
      (Tree.consistent_ofManifest manifest).linked index holder there id member
    obtain ⟨position, place, -⟩ := exists_kept_of_getElem? found
    obtain ⟨child, parent, rfl, held⟩ := (mem_childrenAt_ofManifest_iff place).mp lists
    exact ⟨child, parent, place, held⟩
  · rintro ⟨child, parent, place, held⟩
    exact (mem_childrenAt_ofManifest_iff place).mpr ⟨child, parent, rfl, held⟩

end

end Manifest

end Instances

end LuauWorkspace
