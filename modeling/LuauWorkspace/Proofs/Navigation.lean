import LuauWorkspace.Proofs.Namesakes
import LuauWorkspace.Proofs.Scripts

/-!
# Walking the instance tree

A reference to a module starts at `script` or `game` and steps to parents and children. Resolving it
works on virtual paths and never looks at the tree on the way: a step down appends a name and a step
up drops what stands behind the last slash. The paths of a tree whose names have no slashes follow
its children in the same way, so a reference that leads somewhere in the tree is resolved to the
path of that instance, step by step. The descent into an expression is bounded by the number of
syntax nodes. That is deep enough, because no expression stands below itself.
-/
namespace LuauWorkspace

/-! ## Descent through references -/

namespace Syntax.Source

variable (source : Source)

/-- The expression that a step starts from. -/
def receiver? (id : NodeId) : Option NodeId :=
  match source.expr? id with
  | some (.group inner) => some inner
  | some (.member base _ _ _) => some base
  | some (.element base _) => some base
  | some (.call callee _ true _) =>
    match source.expr? callee with
    | some (.member receiver _ _ _) => some receiver
    | _ => none
  | _ => none

/-- So many steps stand between an expression and its innermost receiver. -/
def Descends : Nat → NodeId → Prop
  | 0, id => id < source.nodes.size ∧ source.receiver? id = none
  | steps + 1, id =>
    id < source.nodes.size ∧ ∃ below, source.receiver? id = some below ∧ Descends steps below

variable {source}

theorem Descends.unique {one two : Nat} {id : NodeId} (first : source.Descends one id)
    (second : source.Descends two id) : one = two := by
  induction one generalizing two id with
  | zero =>
    cases two with
    | zero => rfl
    | succ _ =>
      obtain ⟨-, below, step, -⟩ := second
      exact absurd (first.2.symm.trans step) (by simp)
  | succ one ih =>
    obtain ⟨-, below, step, further⟩ := first
    cases two with
    | zero => exact absurd (second.2.symm.trans step) (by simp)
    | succ two =>
      obtain ⟨-, other, again, beyond⟩ := second
      obtain rfl := Option.some.inj (step.symm.trans again)
      rw [ih further beyond]

/-- The expressions on the way down differ, as each is left with fewer steps than the one before. -/
theorem Descends.trail {steps : Nat} {id : NodeId} (descends : source.Descends steps id) :
    ∃ ids : List NodeId, ids.length = steps + 1 ∧ ids.Nodup ∧
      ∀ passed ∈ ids, passed < source.nodes.size ∧
        ∃ left ≤ steps, source.Descends left passed := by
  induction steps generalizing id with
  | zero => exact ⟨[id], rfl, List.nodup_singleton id, by simpa using ⟨descends.1, descends⟩⟩
  | succ steps ih =>
    obtain ⟨bound, below, step, further⟩ := descends
    have whole : source.Descends (steps + 1) id := ⟨bound, below, step, further⟩
    obtain ⟨ids, length, distinct, passes⟩ := ih further
    -- Below there are fewer steps left, so the expression itself does not come up again.
    refine ⟨id :: ids, by simp [length], List.nodup_cons.mpr ⟨fun again => ?_, distinct⟩, ?_⟩
    · obtain ⟨-, left, fewer, also⟩ := passes id again
      have same := also.unique whole
      omega
    · intro passed member
      rcases List.mem_cons.mp member with rfl | later
      · exact ⟨bound, steps + 1, Nat.le_refl _, whole⟩
      · obtain ⟨within, left, fewer, also⟩ := passes passed later
        exact ⟨within, left, by omega, also⟩

theorem Descends.lt_size {steps : Nat} {id : NodeId} (descends : source.Descends steps id) :
    steps < source.nodes.size := by
  obtain ⟨ids, length, distinct, passes⟩ := descends.trail
  have within : ids ⊆ List.range source.nodes.size := fun passed member =>
    List.mem_range.mpr (passes passed member).1
  have room := (List.subperm_of_subset distinct within).length_le
  rw [length, List.length_range] at room
  exact room

end Syntax.Source

namespace Instances

/-! ## References -/

/-- How a step to a child is written. -/
inductive ChildForm where
  | member
  | element
  | waitForChild
  | findFirstChild
deriving DecidableEq, Repr

/-- A reference to an instance. -/
inductive Reference where
  | script
  | game
  | group (inner : Reference)
  | parent (base : Reference)
  | child (base : Reference) (form : ChildForm) (name : String)
  | service (base : Reference) (name : String)
deriving DecidableEq, Repr

end Instances

namespace Syntax.Source

open Instances

variable (source : Source)

/-- A method of `base` is called with a constant as its first argument. -/
def Calls (id base : NodeId) (method argument : String) : Prop :=
  ∃ callee first rest written nameAt separator,
    source.expr? id = some (.call callee (first :: rest) true written) ∧
      source.expr? callee = some (.member base method nameAt separator) ∧
      source.expr? first = some (.text argument)

def WritesChild (id base : NodeId) (name : String) : ChildForm → Prop
  | .member =>
    name ≠ "Parent" ∧
      ∃ nameAt separator, source.expr? id = some (.member base name nameAt separator)
  | .element =>
    ∃ key, source.expr? id = some (.element base key) ∧ source.expr? key = some (.text name)
  | .waitForChild => source.Calls id base "WaitForChild" name
  | .findFirstChild => source.Calls id base "FindFirstChild" name

/-- An expression is the reference as it is written. -/
def Writes : NodeId → Reference → Prop
  | id, .script => source.expr? id = some (.globalName "script")
  | id, .game => source.expr? id = some (.globalName ModuleName.dataModelRoot)
  | id, .group inner => ∃ within, source.expr? id = some (.group within) ∧ Writes within inner
  | id, .parent base =>
    ∃ below nameAt separator,
      source.expr? id = some (.member below "Parent" nameAt separator) ∧ Writes below base
  | id, .child base form name =>
    ∃ below, source.WritesChild id below name form ∧ Writes below base
  | id, .service base name => ∃ below, source.Calls id below "GetService" name ∧ Writes below base

end Syntax.Source

namespace Instances

namespace Reference

def steps : Reference → Nat
  | script | game => 0
  | group inner => inner.steps + 1
  | parent base | child base _ _ | service base _ => base.steps + 1

end Reference

end Instances

namespace Syntax.Source

open Instances

variable {source : Source}

theorem receiver?_of_calls {id base : NodeId} {method argument : String}
    (calls : source.Calls id base method argument) : source.receiver? id = some base := by
  obtain ⟨callee, first, rest, written, nameAt, separator, here, called, -⟩ := calls
  simp [receiver?, here, called]

theorem bound_of_receiver? {id below : NodeId} (step : source.receiver? id = some below) :
    id < source.nodes.size := by
  cases found : source.expr? id with
  | none => simp [receiver?, found] at step
  | some expr => exact bound_of_expr? found

theorem receiver?_of_writesChild {id base : NodeId} {name : String} {form : ChildForm}
    (writes : source.WritesChild id base name form) : source.receiver? id = some base := by
  cases form with
  | member =>
    obtain ⟨-, nameAt, separator, here⟩ := writes
    simp [receiver?, here]
  | element =>
    obtain ⟨key, here, -⟩ := writes
    simp [receiver?, here]
  | waitForChild => exact receiver?_of_calls writes
  | findFirstChild => exact receiver?_of_calls writes

/-- A written reference takes one step down for each of its own. -/
theorem descends_of_writes {id : NodeId} {reference : Reference}
    (writes : source.Writes id reference) : source.Descends reference.steps id := by
  -- What starts from an expression is one step further than that expression.
  have deeper : ∀ {id below : NodeId} {steps : Nat}, source.receiver? id = some below →
      source.Descends steps below → source.Descends (steps + 1) id :=
    fun step further => ⟨bound_of_receiver? step, _, step, further⟩
  induction reference generalizing id with
  | script => exact ⟨bound_of_expr? writes, by rw [receiver?, writes]⟩
  | game => exact ⟨bound_of_expr? writes, by rw [receiver?, writes]⟩
  | group inner ih =>
    obtain ⟨within, here, further⟩ := writes
    exact deeper (by rw [receiver?, here]) (ih further)
  | parent base ih =>
    obtain ⟨below, nameAt, separator, here, further⟩ := writes
    exact deeper (by rw [receiver?, here]) (ih further)
  | child base form name ih =>
    obtain ⟨below, here, further⟩ := writes
    exact deeper (receiver?_of_writesChild here) (ih further)
  | service base name ih =>
    obtain ⟨below, here, further⟩ := writes
    exact deeper (receiver?_of_calls here) (ih further)

end Syntax.Source

/-! ## Walks -/

namespace Instances

namespace Tree

variable (tree : Tree)

def parentOf? (index : Nat) : Option Nat :=
  (List.range tree.nodes.size).find? fun parent => index ∈ tree.childrenAt parent

def childNamed? (index : Nat) (name : String) : Option Nat :=
  (tree.childrenAt index).find? fun id => tree.nodes[id]?.map (·.name) = some name

/-- The root, if it is a data model. -/
def dataModel? : Option Nat :=
  tree.root?.bind fun root => if root.className = "DataModel" then some 0 else none

/-- Where a reference leads from a module. Services are children of the data model only. -/
def walk (start : Nat) : Reference → Option Nat
  | .script => some start
  | .game => tree.dataModel?
  | .group inner => walk start inner
  | .parent base => (walk start base).bind tree.parentOf?
  | .child base _ name => (walk start base).bind fun index => tree.childNamed? index name
  | .service base name =>
    (walk start base).bind fun index =>
      if tree.dataModel? = some index then tree.childNamed? index name else none

variable {tree}

theorem childNamed?_spec (consistent : tree.Consistent) {index id : Nat} {name : String}
    (found : tree.childNamed? index name = some id) {parent : Instance}
    (above : tree.nodes[index]? = some parent) :
    ∃ child, tree.nodes[id]? = some child ∧ child.virtualPath = parent.virtualPath.child name := by
  obtain ⟨node, here, lists⟩ := (mem_childrenAt_iff ..).mp (List.mem_of_find?_eq_some found)
  obtain rfl := Option.some.inj (above.symm.trans here)
  obtain ⟨-, child, placed, path⟩ := consistent.linked index parent above id lists
  have named : child.name = name := by simpa [placed] using List.find?_some found
  exact ⟨child, placed, named ▸ path⟩

theorem parentOf?_spec (consistent : tree.Consistent) {index id : Nat}
    (found : tree.parentOf? id = some index) {child : Instance}
    (below : tree.nodes[id]? = some child) (plain : '/' ∉ child.name.toList) :
    ∃ parent, tree.nodes[index]? = some parent ∧
      child.virtualPath.parent? = some parent.virtualPath := by
  have lists : id ∈ tree.childrenAt index := by simpa using List.find?_some found
  obtain ⟨parent, here, member⟩ := (mem_childrenAt_iff ..).mp lists
  obtain ⟨-, node, placed, path⟩ := consistent.linked index parent here id member
  obtain rfl := Option.some.inj (below.symm.trans placed)
  exact ⟨parent, here, by rw [path, ModuleName.parent?_child_of_not_mem _ plain]⟩

theorem dataModel?_spec (consistent : tree.Consistent) {index : Nat}
    (found : tree.dataModel? = some index) :
    ∃ root, tree.nodes[index]? = some root ∧ root.virtualPath = ⟨ModuleName.dataModelRoot⟩ := by
  obtain ⟨root, first, path⟩ := consistent.root
  obtain ⟨top, start, model⟩ := Option.bind_eq_some_iff.mp found
  obtain rfl := Option.some.inj (first.symm.trans start)
  obtain ⟨kind, place⟩ := Option.ite_none_right_eq_some.mp model
  obtain rfl := Option.some.inj place
  exact ⟨root, first, by rw [path, if_pos kind]⟩

theorem Accepted.consistent (accepted : tree.Accepted) : tree.Consistent := by
  obtain ⟨text, read⟩ := accepted
  obtain ⟨manifest, rfl⟩ := exists_ofManifest read
  exact consistent_ofManifest manifest

end Tree

end Instances

namespace Files

open Instances

variable (files : Files)

theorem resolveWithin_of_writesChild {source : Syntax.Source} {context : ModuleName} {limit : Nat}
    {id base : Syntax.NodeId} {name : String} {form : ChildForm}
    (writes : source.WritesChild id base name form) {found : ModuleName}
    (reached : files.resolveWithin context source limit base = some found) :
    files.resolveWithin context source (limit + 1) id = some (found.child name) := by
  cases form with
  | member =>
    obtain ⟨other, nameAt, separator, here⟩ := writes
    simp [resolveWithin, here, reached, other]
  | element =>
    obtain ⟨key, here, constant⟩ := writes
    simp [resolveWithin, here, reached, constant?, constant]
  | waitForChild =>
    obtain ⟨callee, first, rest, written, nameAt, separator, here, called, constant⟩ := writes
    simp [resolveWithin, here, called, reached, constant?, constant, childBy?]
  | findFirstChild =>
    obtain ⟨callee, first, rest, written, nameAt, separator, here, called, constant⟩ := writes
    simp [resolveWithin, here, called, reached, constant?, constant, childBy?]

theorem resolveWithin_of_calls_service {source : Syntax.Source} {context : ModuleName}
    {limit : Nat} {id base : Syntax.NodeId} {name : String}
    (calls : source.Calls id base "GetService" name)
    (reached : files.resolveWithin context source limit base = some ⟨ModuleName.dataModelRoot⟩) :
    files.resolveWithin context source (limit + 1) id =
      some (ModuleName.child ⟨ModuleName.dataModelRoot⟩ name) := by
  obtain ⟨callee, first, rest, written, nameAt, separator, here, called, constant⟩ := calls
  simp [resolveWithin, here, called, reached, constant?, constant, childBy?]

/-- By induction on the reference: each step on paths is the one that the tree takes, and takes one
of the levels of the descent. -/
theorem resolveWithin_of_walk {tree : Tree} (consistent : tree.Consistent)
    (plain : ∀ node ∈ tree.nodes, '/' ∉ node.name.toList) {start : Nat} {module : Instance}
    (here : tree.nodes[start]? = some module) {source : Syntax.Source} {reference : Reference}
    {id : Syntax.NodeId} (writes : source.Writes id reference) {index : Nat}
    (leads : tree.walk start reference = some index) (spare : Nat) :
    ∃ node, tree.nodes[index]? = some node ∧
      files.resolveWithin module.virtualPath source (spare + reference.steps + 1) id =
        some node.virtualPath := by
  induction reference generalizing id index with
  | script =>
    obtain rfl := Option.some.inj leads
    have virtual := consistent.rooted module
      (Array.mem_toList_iff.mpr (Array.mem_of_getElem? here))
    have written : source.expr? id = some (.globalName "script") := writes
    refine ⟨module, here, ?_⟩
    simp [resolveWithin, written, files.toVirtual?_of_virtual _ virtual, ModuleName.dataModelRoot]
  | game =>
    have written : source.expr? id = some (.globalName ModuleName.dataModelRoot) := writes
    obtain ⟨root, first, path⟩ := Tree.dataModel?_spec consistent leads
    refine ⟨root, first, ?_⟩
    simp [resolveWithin, written, path]
  | group inner ih =>
    obtain ⟨within, written, further⟩ := writes
    obtain ⟨node, found, resolved⟩ := ih further leads
    refine ⟨node, found, ?_⟩
    rw [resolveWithin, written]
    exact resolved
  | parent base ih =>
    obtain ⟨below, nameAt, separator, written, further⟩ := writes
    obtain ⟨middle, reaches, up⟩ := Option.bind_eq_some_iff.mp leads
    obtain ⟨child, found, resolved⟩ := ih further reaches
    -- The name of the child has no slash, so the path in front of the last one is the parent's.
    obtain ⟨parent, above, path⟩ :=
      Tree.parentOf?_spec consistent up found (plain child (Array.mem_of_getElem? found))
    refine ⟨parent, above, ?_⟩
    rw [resolveWithin, written]
    simp only [Reference.steps, ← Nat.add_assoc, resolved, Option.bind_some, if_pos, path]
  | child base form name ih =>
    obtain ⟨below, written, further⟩ := writes
    obtain ⟨middle, reaches, down⟩ := Option.bind_eq_some_iff.mp leads
    obtain ⟨parent, above, resolved⟩ := ih further reaches
    obtain ⟨child, found, path⟩ := Tree.childNamed?_spec consistent down above
    exact ⟨child, found, path ▸ files.resolveWithin_of_writesChild written resolved⟩
  | service base name ih =>
    obtain ⟨below, written, further⟩ := writes
    obtain ⟨middle, reaches, down⟩ := Option.bind_eq_some_iff.mp leads
    obtain ⟨model, down⟩ := Option.ite_none_right_eq_some.mp down
    obtain ⟨parent, above, resolved⟩ := ih further reaches
    -- The receiver is the data model, whose path the resolver tells from all others.
    obtain ⟨root, first, rooted⟩ := Tree.dataModel?_spec consistent model
    obtain rfl := Option.some.inj (first.symm.trans above)
    obtain ⟨child, found, path⟩ := Tree.childNamed?_spec consistent down above
    rw [rooted] at path resolved
    exact ⟨child, found, path ▸ files.resolveWithin_of_calls_service written resolved⟩

/-- Whatever a reference leads to in the tree, the resolver names it and finds its script. -/
theorem resolve?_of_walk {tree : Tree} (present : files.instances = some tree)
    (accepted : tree.Accepted) (plain : ∀ node ∈ tree.nodes, '/' ∉ node.name.toList) {start : Nat}
    {module : Instance} (here : tree.nodes[start]? = some module) {source : Syntax.Source}
    {reference : Reference} {id : Syntax.NodeId} (writes : source.Writes id reference)
    {index : Nat} (leads : tree.walk start reference = some index) :
    ∃ node, tree.nodes[index]? = some node ∧
      files.resolve? module.virtualPath source id = some node.virtualPath ∧
      files.realPathOf? node.virtualPath =
        node.script?.map fun script => files.root.join ⟨script⟩ := by
  have consistent := accepted.consistent
  -- The descent stops after as many levels as there are nodes, and a reference takes fewer.
  obtain ⟨spare, room⟩ := Nat.exists_eq_add_of_lt (Syntax.Source.descends_of_writes writes).lt_size
  obtain ⟨node, found, resolved⟩ :=
    files.resolveWithin_of_walk consistent plain here writes leads spare
  have member := Array.mem_of_getElem? found
  have virtual := consistent.rooted node (Array.mem_toList_iff.mpr member)
  refine ⟨node, found, ?_, ?_⟩
  · rw [resolve?, room, Nat.add_comm reference.steps]
    exact resolved
  · rw [realPathOf?, virtualNode?, if_pos virtual, present, Option.bind_some,
      (consistent.virtuals _ node).mpr ⟨member, rfl⟩, Option.bind_some]

namespace Walked

/-- A manifest of a service with two scripts. -/
def manifest : String :=
  "\x7b\"name\":\"P\",\"className\":\"DataModel\",\"children\":[" ++
    "\x7b\"name\":\"S\",\"className\":\"\",\"children\":[" ++
      "\x7b\"name\":\"A\",\"className\":\"\",\"filePaths\":[\"a.lua\"]\x7d," ++
      "\x7b\"name\":\"B\",\"className\":\"\",\"filePaths\":[\"b.luau\"]\x7d]\x7d]\x7d"

def node (name script : String) : Instance :=
  { name, className := "", filePaths := [script], virtualPath := ⟨"game/S/" ++ name⟩ }

def tree : Tree :=
  ⟨#[{ name := "P", className := "DataModel", filePaths := [], children := [1],
        virtualPath := ⟨"game"⟩ },
      { name := "S", className := "", filePaths := [], children := [2, 3],
        virtualPath := ⟨"game/S"⟩ },
      node "A" "a.lua", node "B" "b.luau"]⟩

def place : Files := { root := ⟨"/place"⟩, instances := some tree }

/-- The module `(game:GetService("S")).A.Parent["B"]`. -/
def source : Syntax.Source :=
  { name := ⟨"game/S/A"⟩
    nodes := #[⟨default, .expr (.globalName "game")⟩,
      ⟨default, .expr (.member 0 "GetService" default ':')⟩,
      ⟨default, .expr (.text "S")⟩,
      ⟨default, .expr (.call 1 [2] true default)⟩,
      ⟨default, .expr (.group 3)⟩,
      ⟨default, .expr (.member 4 "A" default '.')⟩,
      ⟨default, .expr (.member 5 "Parent" default '.')⟩,
      ⟨default, .expr (.text "B")⟩,
      ⟨default, .expr (.element 6 7)⟩]
    locals := #[]
    root := 8 }

def reference : Reference :=
  .child (.parent (.child (.group (.service .game "S")) .member "A")) .element "B"

theorem writes : source.Writes 8 reference :=
  ⟨6, ⟨7, rfl, rfl⟩, 5, default, '.', rfl, 4, ⟨by decide, default, '.', rfl⟩, 3, rfl, 0,
    ⟨1, 2, [], default, default, ':', rfl, rfl, rfl⟩, rfl⟩

end Walked

theorem resolve?_of_walk_service :
    Walked.tree.Accepted ∧ (∀ node ∈ Walked.tree.nodes, '/' ∉ node.name.toList) ∧
      Walked.source.Writes 8 Walked.reference ∧ Walked.tree.walk 2 Walked.reference = some 3 ∧
      Walked.place.resolve? ⟨"game/S/A"⟩ Walked.source 8 = some ⟨"game/S/B"⟩ ∧
      Walked.place.realPathOf? ⟨"game/S/B"⟩ = some ⟨"/place/b.luau"⟩ := by
  have accepted : Walked.tree.Accepted := ⟨Walked.manifest, by decide +kernel⟩
  have plain : ∀ node ∈ Walked.tree.nodes, '/' ∉ node.name.toList := by decide +kernel
  have leads : Walked.tree.walk 2 Walked.reference = some 3 := by decide +kernel
  obtain ⟨node, found, named, leadsTo⟩ := Walked.place.resolve?_of_walk rfl accepted plain
    (show Walked.tree.nodes[2]? = some (Walked.node "A" "a.lua") from rfl) Walked.writes leads
  obtain rfl : Walked.node "B" "b.luau" = node := Option.some.inj found
  exact ⟨accepted, plain, Walked.writes, leads, named, leadsTo.trans (by decide +kernel)⟩

end Files

end LuauWorkspace
