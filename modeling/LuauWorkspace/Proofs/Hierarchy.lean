import LuauWorkspace.Proofs.Instances
import Mathlib.Data.List.Induction
import Mathlib.Data.List.Nodup

/-!
# Instance trees as arenas

Placing an entry leaves what was placed before as it is and appends the entry with everything
below it. The child lists of what was appended hold each new instance once, apart from the
first, which is left to the parent; the parent takes up its children only when all of them lie
in place. So in a whole tree each instance but the root is the child of one other, which lies
before it, and the virtual paths that were told apart one by one lead back to their instances. The
lookups by path and by script search the arena, and find what tables would that every instance is
put into when it is placed.
-/
namespace LuauWorkspace.Instances.Tree

/-- The child that lies at an index is named below its parent. -/
def Follows (tree : Tree) (parent : Instance) (index : Nat) : Prop :=
  ∃ child, tree.nodes[index]? = some child ∧
    child.virtualPath = parent.virtualPath.child child.name

/-- New instances at the end of a tree that hang together below some of them, of which something
is known. -/
structure Grown (tree : Tree) (new : List Instance) (after : Tree) (known : Instance → Prop)
    (tops : List Nat) : Prop where
  whole : after.nodes.toList = tree.nodes.toList ++ new
  topped : ∀ id ∈ tops, tree.nodes.size ≤ id ∧ ∃ node, after.nodes[id]? = some node ∧ known node
  linked : ∀ index node, tree.nodes.size ≤ index → after.nodes[index]? = some node →
    ∀ id ∈ node.children, index < id ∧ after.Follows node id
  listed : (tops ++ new.flatMap (·.children)).Perm (List.range' tree.nodes.size new.length)

section

variable {tree between after : Tree} {new more : List Instance} {known : Instance → Prop}
  {tops : List Nat}

theorem Grown.size (grown : Grown tree new after known tops) :
    after.nodes.size = tree.nodes.size + new.length := by
  simpa using congrArg List.length grown.whole

theorem Grown.getElem? (grown : Grown tree new after known tops) {index : Nat} {node : Instance}
    (found : tree.nodes[index]? = some node) : after.nodes[index]? = some node := by
  rw [← Array.getElem?_toList] at found ⊢
  obtain ⟨bound, _⟩ := List.getElem?_eq_some_iff.mp found
  rw [grown.whole, List.getElem?_append_left bound, found]

theorem Grown.follows (grown : Grown tree new after known tops) {parent : Instance} {index : Nat}
    (follows : tree.Follows parent index) : after.Follows parent index := by
  obtain ⟨child, found, path⟩ := follows
  exact ⟨child, grown.getElem? found, path⟩

theorem Grown.mono {weaker : Instance → Prop} (grown : Grown tree new after known tops)
    (implies : ∀ node, known node → weaker node) : Grown tree new after weaker tops := by
  refine { grown with topped := fun id member => ?_ }
  obtain ⟨behind, node, found, holds⟩ := grown.topped id member
  exact ⟨behind, node, found, implies node holds⟩

theorem grown_nil (tree : Tree) (known : Instance → Prop) : Grown tree [] tree known [] := by
  refine ⟨by simp, by simp, fun index node behind found => ?_, by simp⟩
  have bound := (Array.getElem?_eq_some_iff.mp found).1
  omega

/-- What was appended first stays in place when more is appended. -/
theorem Grown.append {others : List Nat} (first : Grown tree new between known tops)
    (second : Grown between more after known others) :
    Grown tree (new ++ more) after known (tops ++ others) := by
  have size := first.size
  refine ⟨?_, ?_, fun index node behind found => ?_, ?_⟩
  · rw [second.whole, first.whole, List.append_assoc]
  · intro id member
    rcases List.mem_append.mp member with early | late
    · obtain ⟨behind, node, found, holds⟩ := first.topped id early
      exact ⟨behind, node, second.getElem? found, holds⟩
    · obtain ⟨behind, placed⟩ := second.topped id late
      exact ⟨by omega, placed⟩
  · by_cases early : index < between.nodes.size
    · have same := Array.getElem?_eq_getElem early
      rw [second.getElem? same, Option.some.injEq] at found
      subst found
      intro id member
      obtain ⟨later, follows⟩ := first.linked index _ behind same id member
      exact ⟨later, second.follows follows⟩
    · exact second.linked index node (by omega) found
  · -- The two parts of what is new list the two parts of its range.
    rw [List.length_append, ← List.range'_append_1, ← size, List.flatMap_append]
    have parts := first.listed.append second.listed
    refine List.Perm.trans ?_ parts
    rw [List.append_assoc, List.append_assoc]
    exact (List.perm_append_comm_assoc ..).append_left tops

/-- An instance takes up its children when they and everything below them lie behind it. -/
theorem Grown.adopt {node : Instance}
    (below : Grown (tree.push node) new after
      (fun child => child.virtualPath = node.virtualPath.child child.name) tops) :
    Grown tree ({ node with children := tops } :: new) (after.adopt tree.nodes.size tops)
      (fun top => top.name = node.name ∧ top.className = node.className ∧
        top.virtualPath = node.virtualPath)
      [tree.nodes.size] := by
  have here : after.nodes[tree.nodes.size]? = some node :=
    below.getElem? (by simp [Tree.push])
  have adopted : ∀ index : Nat, (after.adopt tree.nodes.size tops).nodes[index]? =
      if tree.nodes.size = index then some { node with children := tops }
      else after.nodes[index]? := by
    intro index
    rw [Tree.adopt, Array.getElem?_modify]
    split
    next same => rw [← same, here]; rfl
    next => rfl
  -- Adopting changes no path, so what followed an instance follows it still.
  have follows : ∀ parent index, after.Follows parent index →
      (after.adopt tree.nodes.size tops).Follows parent index := by
    rintro parent index ⟨child, found, path⟩
    by_cases same : tree.nodes.size = index
    · subst same
      obtain rfl := Option.some.inj (here.symm.trans found)
      exact ⟨_, (adopted _).trans (if_pos rfl), path⟩
    · exact ⟨child, (adopted index).trans ((if_neg same).trans found), path⟩
  refine ⟨?_, ?_, fun index other behind found => ?_, ?_⟩
  · rw [Tree.adopt, Array.toList_modify, below.whole,
      List.modify_eq_take_cons_drop (by simp [Tree.push])]
    simp [Tree.push, List.drop_append]
  · intro id member
    obtain rfl := List.mem_singleton.mp member
    exact ⟨Nat.le_refl _, _, (adopted _).trans (if_pos rfl), rfl, rfl, rfl⟩
  · rw [adopted] at found
    split at found
    next same =>
      obtain rfl := Option.some.inj found
      intro id member
      obtain ⟨later, child, placed, path⟩ := below.topped id member
      simp only [Tree.push, Array.size_push] at later
      exact ⟨by omega, follows _ id ⟨child, placed, path⟩⟩
    next differs =>
      intro id member
      obtain ⟨later, path⟩ :=
        below.linked index other (by simp [Tree.push]; omega) found id member
      exact ⟨later, follows other id path⟩
  · have listed := below.listed
    simp only [Tree.push, Array.size_push] at listed
    simpa [List.range'_succ] using listed.cons tree.nodes.size

end

mutual

theorem grown_place (tree : Tree) (path : ModuleName) (manifest : Manifest) :
    ∃ new, Grown tree new (place tree path manifest)
      (fun top => top.name = manifest.name ∧ top.className = manifest.className ∧
        top.virtualPath = path) [tree.nodes.size] := by
  cases manifest with
  | entry name className filePaths children =>
    rw [place]
    obtain ⟨new, below⟩ := grown_placeAll (tree.push
      { name, className, filePaths := filePaths.map filePath, virtualPath := path }) path children
    have grown := below.adopt
    exact ⟨_, grown⟩

theorem grown_placeAll (tree : Tree) (parent : ModuleName) (children : List Manifest) :
    ∃ new, Grown tree new (placeAll tree parent children).2
      (fun top => top.virtualPath = parent.child top.name) (placeAll tree parent children).1 := by
  cases children with
  | nil => rw [placeAll]; exact ⟨[], grown_nil tree _⟩
  | cons child rest =>
    rw [placeAll]
    split
    · exact grown_placeAll tree parent rest
    · obtain ⟨new, first⟩ := grown_place tree (parent.child child.name) child
      obtain ⟨more, others⟩ := grown_placeAll (place tree (parent.child child.name) child)
        parent rest
      have below := first.mono fun top known => by
        obtain ⟨named, -, path⟩ := known
        exact (named ▸ path : top.virtualPath = parent.child top.name)
      exact ⟨_, below.append others⟩

end

/-! ## Lookups -/

section

variable {κ : Type} [DecidableEq κ]

/-- The table that fills up as instances are placed: each puts its index under its key, if it has
one, in place of an earlier index there. -/
def table (key? : Instance → Option κ) (nodes : List Instance) : Table κ Nat :=
  nodes.zipIdx.foldl
    (fun table placed =>
      match key? placed.1 with
      | some key => table.insert key placed.2
      | none => table)
    {}

theorem table_concat (key? : Instance → Option κ) (nodes : List Instance) (last : Instance) :
    table key? (nodes ++ [last]) =
      match key? last with
      | some key => (table key? nodes).insert key nodes.length
      | none => table key? nodes := by
  simp only [table, List.zipIdx_append, List.foldl_append, List.zipIdx_singleton, List.foldl_cons,
    List.foldl_nil, Nat.zero_add]

/-- A table leads to the last instance with a key. -/
theorem getElem?_table (key? : Instance → Option κ) (nodes : List Instance) (key : κ) :
    (∀ index, (table key? nodes).get? key = some index → index < nodes.length) ∧
      (((table key? nodes).get? key).bind fun index => nodes[index]?) =
        nodes.reverse.find? fun node => key? node = some key := by
  induction nodes using List.reverseRecOn with
  | nil => simp [table]
  | append_singleton front last ih =>
    obtain ⟨bound, found⟩ := ih
    -- What the table held before leads to the front still.
    have before : (((table key? front).get? key).bind fun index => (front ++ [last])[index]?) =
        front.reverse.find? fun node => key? node = some key := by
      rw [← found]
      refine Option.bind_congr fun index held => ?_
      rw [List.getElem?_append_left (bound index held)]
    have within : ∀ index, (table key? front).get? key = some index →
        index < (front ++ [last]).length := fun index held => by
      have := bound index held
      simp only [List.length_append, List.length_singleton]
      omega
    rw [table_concat, List.reverse_append, List.reverse_singleton, List.singleton_append,
      List.find?_cons]
    cases own : key? last with
    | none => exact ⟨within, by simpa using before⟩
    | some other =>
      by_cases same : key = other
      · subst same
        simp
      · simp only [Table.get?_insert_of_ne _ _ same, Option.some.injEq, Ne.symm same, decide_false]
        exact ⟨within, before⟩

/-- The instance that the table of a tree leads to. -/
def lookup (tree : Tree) (key? : Instance → Option κ) (key : κ) : Option Instance :=
  ((table key? tree.nodes.toList).get? key).bind fun index => tree.nodes[index]?

theorem lookup_eq_find? (tree : Tree) (key? : Instance → Option κ) (key : κ) :
    tree.lookup key? key = tree.nodes.toList.reverse.find? fun node => key? node = some key := by
  rw [← (getElem?_table key? tree.nodes.toList key).2, lookup]
  simp only [Array.getElem?_toList]

/-- An entry is skipped while a tree grows if the table of paths has its path so far. -/
theorem isTaken_eq_contains (tree : Tree) (path : ModuleName) :
    tree.isTaken path =
      (table (fun node => some node.virtualPath) tree.nodes.toList).contains path := by
  obtain ⟨bound, found⟩ :=
    getElem?_table (fun node => some node.virtualPath) tree.nodes.toList path
  have searched : tree.isTaken path = (tree.nodes.toList.reverse.find? fun node =>
      some node.virtualPath = some path).isSome := by
    rw [Bool.eq_iff_iff]
    simp [isTaken, ← Array.any_toList, List.find?_isSome]
  rw [searched, ← found, Table.contains]
  cases held : (table (fun node => some node.virtualPath) tree.nodes.toList).get? path with
  | none => rfl
  | some index =>
    rw [Option.bind_some, List.getElem?_eq_getElem (bound index held)]
    rfl

theorem findScript?_eq_lookup (tree : Tree) (script : String) :
    tree.findScript? script = tree.lookup (·.script?) script :=
  (tree.lookup_eq_find? _ script).symm

end

/-- The children that an index lists. -/
def childrenAt (tree : Tree) (index : Nat) : List Nat :=
  (tree.nodes[index]?.map (·.children)).getD []

/-- An arena of instances below its first one, whose lookups find what there is. -/
structure Consistent (tree : Tree) : Prop where
  root : ∃ node, tree.nodes[0]? = some node ∧ node.virtualPath =
    ⟨if node.className = "DataModel" then ModuleName.dataModelRoot else ModuleName.projectRoot⟩
  parent : ∀ index, 0 < index → index < tree.nodes.size →
    ∃ parent < index, ∀ other, index ∈ tree.childrenAt other ↔ other = parent
  linked : ∀ index node, tree.nodes[index]? = some node →
    ∀ id ∈ node.children, index < id ∧ tree.Follows node id
  rooted : tree.Rooted
  distinct : tree.Distinct
  siblings : ∀ index, (tree.childrenAt index).Nodup ∧
    ∀ one ∈ tree.childrenAt index, ∀ two ∈ tree.childrenAt index,
      tree.nodes[one]?.map (·.name) = tree.nodes[two]?.map (·.name) → one = two
  virtuals : ∀ path node, tree.findVirtual? path = some node ↔
    node ∈ tree.nodes ∧ node.virtualPath = path
  scripts : ∀ script, (tree.findScript? script).isSome ↔
    ∃ node ∈ tree.nodes, node.script? = some script
  found : ∀ script node, tree.findScript? script = some node →
    node ∈ tree.nodes ∧ node.script? = some script
  /-- Tables that fill up as the instances are placed lead to the same ones. -/
  indexed : (∀ path, tree.findVirtual? path = tree.lookup (fun node => some node.virtualPath) path) ∧
    ∀ script, tree.findScript? script = tree.lookup (·.script?) script

section

variable {tree : Tree}

theorem mem_childrenAt_iff (tree : Tree) (index id : Nat) :
    id ∈ tree.childrenAt index ↔ ∃ node, tree.nodes[index]? = some node ∧ id ∈ node.children := by
  cases found : tree.nodes[index]? <;> simp [childrenAt, found]

theorem Distinct.eq_of_virtualPath (distinct : tree.Distinct) {one two : Nat}
    {first second : Instance} (here : tree.nodes[one]? = some first)
    (there : tree.nodes[two]? = some second) (same : first.virtualPath = second.virtualPath) :
    one = two := by
  rw [← Array.getElem?_toList] at here there
  have bound : one < (tree.nodes.toList.map (·.virtualPath)).length := by
    simpa using (List.getElem?_eq_some_iff.mp here).1
  refine (List.getElem?_inj bound distinct).mp ?_
  rw [List.getElem?_map, List.getElem?_map, here, there, Option.map_some, Option.map_some, same]

/-- Siblings with one name would have one path. -/
theorem Distinct.siblings (distinct : tree.Distinct) {parent : Instance} {one two : Nat}
    (first : tree.Follows parent one) (second : tree.Follows parent two)
    (same : tree.nodes[one]?.map (·.name) = tree.nodes[two]?.map (·.name)) : one = two := by
  obtain ⟨child, here, path⟩ := first
  obtain ⟨other, there, also⟩ := second
  rw [here, there, Option.map_some, Option.map_some, Option.some.injEq] at same
  exact distinct.eq_of_virtualPath here there (by rw [path, also, same])

theorem Distinct.findVirtual?_eq_some_iff (distinct : tree.Distinct) (path : ModuleName)
    (node : Instance) :
    tree.findVirtual? path = some node ↔ node ∈ tree.nodes ∧ node.virtualPath = path := by
  rw [← Array.mem_toList_iff]
  constructor
  · exact fun found => ⟨mem_of_findVirtual? found, findVirtual?_path tree path node found⟩
  · rintro ⟨member, rfl⟩
    exact distinct.findVirtual? member

/-- With one instance for each path it does not matter from which end they are searched. -/
theorem Distinct.findVirtual?_eq_lookup (distinct : tree.Distinct) (path : ModuleName) :
    tree.findVirtual? path = tree.lookup (fun node => some node.virtualPath) path := by
  rw [lookup_eq_find?]
  cases found : tree.nodes.toList.reverse.find? fun node => some node.virtualPath = some path with
  | none =>
    have absent := List.find?_eq_none.mp found
    simp only [List.mem_reverse, Option.some.injEq, decide_eq_true_eq] at absent
    refine List.find?_eq_none.mpr fun node member => ?_
    simpa using absent node member
  | some node =>
    have named : node.virtualPath = path := by simpa using List.find?_some found
    refine (distinct.findVirtual?_eq_some_iff path node).mpr ⟨?_, named⟩
    simpa using List.mem_of_find?_eq_some found

theorem isSome_findScript?_iff (tree : Tree) (script : String) :
    (tree.findScript? script).isSome ↔ ∃ node ∈ tree.nodes, node.script? = some script := by
  simp [findScript?, List.find?_isSome]

/-- Each index but that of the root stands in one child list, once. -/
def Listed (tree : Tree) : Prop :=
  (0 :: tree.nodes.toList.flatMap (·.children)).Perm (List.range' 0 tree.nodes.size)

theorem Listed.nodup (listed : tree.Listed) : (tree.nodes.toList.flatMap (·.children)).Nodup :=
  (listed.nodup_iff.mpr (List.nodup_range' ..)).of_cons

theorem Listed.nodup_childrenAt (listed : tree.Listed) (index : Nat) :
    (tree.childrenAt index).Nodup := by
  rw [childrenAt]
  cases found : tree.nodes[index]? with
  | none => exact List.nodup_nil
  | some node =>
    have member := Array.mem_toList_iff.mpr (Array.mem_of_getElem? found)
    exact (List.nodup_flatMap.mp listed.nodup).1 node member

theorem Listed.eq_of_mem_childrenAt (listed : tree.Listed) {one two id : Nat}
    (first : id ∈ tree.childrenAt one) (second : id ∈ tree.childrenAt two) : one = two := by
  obtain ⟨node, here, lists⟩ := (mem_childrenAt_iff ..).mp first
  obtain ⟨other, there, also⟩ := (mem_childrenAt_iff ..).mp second
  rw [← Array.getElem?_toList] at here there
  obtain ⟨bound, rfl⟩ := List.getElem?_eq_some_iff.mp here
  obtain ⟨limit, rfl⟩ := List.getElem?_eq_some_iff.mp there
  have apart := List.pairwise_iff_getElem.mp (List.nodup_flatMap.mp listed.nodup).2
  rcases Nat.lt_trichotomy one two with before | same | behind
  · exact absurd also (apart one two bound limit before lists)
  · exact same
  · exact absurd lists (apart two one limit bound behind also)

theorem Listed.exists_mem_childrenAt (listed : tree.Listed) {index : Nat} (positive : 0 < index)
    (bound : index < tree.nodes.size) : ∃ parent, index ∈ tree.childrenAt parent := by
  have present : index ∈ tree.nodes.toList.flatMap (·.children) := by
    refine (List.mem_cons.mp (listed.mem_iff.mpr ?_)).resolve_left (by omega)
    exact List.mem_range'_1.mpr ⟨Nat.zero_le _, by omega⟩
  obtain ⟨parent, member, lists⟩ := List.mem_flatMap.mp present
  obtain ⟨place, found⟩ := List.mem_iff_getElem?.mp member
  exact ⟨place, (mem_childrenAt_iff ..).mpr ⟨parent, Array.getElem?_toList ▸ found, lists⟩⟩

/-- A tree that was grown from nothing below its first instance. -/
theorem Grown.listed_of_empty {new : List Instance} {known : Instance → Prop}
    (grown : Grown {} new tree known [0]) : tree.Listed := by
  have whole := grown.whole
  have size := grown.size
  simp only [List.nil_append, Nat.zero_add, List.size_toArray, List.length_nil] at whole size
  rw [Listed, whole, size]
  simpa using grown.listed

end

theorem consistent_ofManifest (manifest : Manifest) : (ofManifest manifest).Consistent := by
  have distinct := distinct_ofManifest manifest
  obtain ⟨new, grown⟩ := grown_place {}
    ⟨if manifest.className = "DataModel" then ModuleName.dataModelRoot
      else ModuleName.projectRoot⟩ manifest
  change Grown {} new (ofManifest manifest) _ _ at grown
  have listed := grown.listed_of_empty
  have linked := fun index node => grown.linked index node (Nat.zero_le _)
  obtain ⟨node, first, -, known, path⟩ := (grown.topped 0 (by simp)).2
  refine
    { root := ⟨node, first, known ▸ path⟩
      parent := fun index positive bound => ?_
      linked
      rooted := rooted_ofManifest manifest
      distinct
      siblings := fun index => ⟨listed.nodup_childrenAt index, fun one first two second same => ?_⟩
      virtuals := distinct.findVirtual?_eq_some_iff
      scripts := isSome_findScript?_iff _
      found := fun script node found => ⟨?_, findScript?_script _ script node found⟩
      indexed := ⟨distinct.findVirtual?_eq_lookup, findScript?_eq_lookup _⟩ }
  · obtain ⟨parent, held⟩ := listed.exists_mem_childrenAt positive bound
    obtain ⟨node, found, lists⟩ := (mem_childrenAt_iff ..).mp held
    refine ⟨parent, (linked parent node found index lists).1, fun other => ⟨fun also => ?_, ?_⟩⟩
    · exact listed.eq_of_mem_childrenAt also held
    · rintro rfl
      exact held
  · obtain ⟨node, found, lists⟩ := (mem_childrenAt_iff ..).mp first
    obtain ⟨other, again, also⟩ := (mem_childrenAt_iff ..).mp second
    obtain rfl := Option.some.inj (found.symm.trans again)
    exact distinct.siblings (linked index node found one lists).2
      (linked index node found two also).2 same
  · exact Array.mem_toList_iff.mp (mem_of_findScript? found)

/-- Every manifest that is accepted makes a tree whose child lists and lookups agree. -/
theorem consistent_ofText (text : String) (tree : Tree) (accepted : ofText text = .ok tree) :
    tree.Consistent := by
  obtain ⟨manifest, rfl⟩ := exists_ofManifest accepted
  exact consistent_ofManifest manifest

namespace Taken

/-- The second child of the root has the path that the child of the first one has already, and
the third child its script. -/
def manifest : String :=
  "\x7b\"name\":\"P\",\"className\":\"DataModel\",\"children\":[" ++
    "\x7b\"name\":\"A\",\"className\":\"\",\"children\":[" ++
      "\x7b\"name\":\"B\",\"className\":\"\",\"filePaths\":[\"b.lua\"]\x7d]\x7d," ++
    "\x7b\"name\":\"A/B\",\"className\":\"\"\x7d," ++
    "\x7b\"name\":\"C\",\"className\":\"\",\"filePaths\":[\"./b.lua\"]\x7d]\x7d"

def tree : Tree :=
  ⟨#[{ name := "P", className := "DataModel", filePaths := [], children := [1, 3],
        virtualPath := ⟨"game"⟩ },
      { name := "A", className := "", filePaths := [], children := [2],
        virtualPath := ⟨"game/A"⟩ },
      { name := "B", className := "", filePaths := ["b.lua"], virtualPath := ⟨"game/A/B"⟩ },
      { name := "C", className := "", filePaths := ["b.lua"], virtualPath := ⟨"game/C"⟩ }]⟩

end Taken

theorem consistent_ofText_taken :
    ofText Taken.manifest = .ok Taken.tree ∧ Taken.tree.Consistent ∧
      (Taken.tree.findVirtual? ⟨"game/A/B"⟩).map (·.name) = some "B" ∧
      (Taken.tree.findScript? "b.lua").map (·.name) = some "C" := by
  have accepted : ofText Taken.manifest = .ok Taken.tree := by decide +kernel
  exact ⟨accepted, consistent_ofText _ _ accepted, by decide +kernel, by decide +kernel⟩

end LuauWorkspace.Instances.Tree
