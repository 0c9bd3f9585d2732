import LuauWorkspace.ModuleName
import LuauWorkspace.Table
import LuauWorkspace.Traversal

/-!
# Require graphs

A graph keeps for each module those that it requires and, in a second table, those that require
it. Both tables are written together, so that each is the converse of the other. A check replaces
all edges of a module at once, since it knows its complete list of requires. Reachability is asked
for in both directions, and a module never counts as one of its own dependencies or dependents,
whatever cycles it lies on.
-/
namespace LuauWorkspace.Requires

/-- The neighbours of modules in one direction. -/
abbrev Neighbours := Table ModuleName (List ModuleName)

namespace Neighbours

variable (neighbours : Neighbours)

def of (module : ModuleName) : List ModuleName := (neighbours.get? module).getD []

def link (module neighbour : ModuleName) : Neighbours :=
  neighbours.insert module ((of neighbours module).insert neighbour)

def unlink (module neighbour : ModuleName) : Neighbours :=
  match neighbours.get? module with
  | some found => neighbours.insert module (found.filter (· ≠ neighbour))
  | none => neighbours

/-- Everything that can be reached, without the start. There are no more modules with neighbours
than entries. -/
def closure (module : ModuleName) : List ModuleName :=
  (Traversal.order (of neighbours) Traversal.breadthFirst neighbours.size module).filter
    (· ≠ module)

@[simp] theorem of_empty (module : ModuleName) : of {} module = [] := rfl

theorem mem_link (module neighbour a b : ModuleName) :
    b ∈ of (link neighbours module neighbour) a ↔
      a = module ∧ b = neighbour ∨ b ∈ of neighbours a := by
  by_cases same : a = module
  · subst same; simp [of, link]
  · simp [of, link, Table.get?_insert_of_ne _ _ same, same]

theorem mem_unlink (module neighbour a b : ModuleName) :
    b ∈ of (unlink neighbours module neighbour) a ↔
      b ∈ of neighbours a ∧ ¬ (a = module ∧ b = neighbour) := by
  unfold unlink
  split
  next found held =>
    by_cases same : a = module
    · subst same; simp [of, held]
    · simp [of, Table.get?_insert_of_ne _ _ same, same]
  next missing =>
    constructor
    · intro member
      refine ⟨member, ?_⟩
      rintro ⟨rfl, _⟩
      simp [of, missing] at member
    · exact And.left

theorem mem_foldl_unlink (modules : List ModuleName) (neighbour a b : ModuleName) :
    b ∈ of (modules.foldl (fun left module => unlink left module neighbour) neighbours) a ↔
      b ∈ of neighbours a ∧ ¬ (a ∈ modules ∧ b = neighbour) := by
  induction modules generalizing neighbours with
  | nil => simp
  | cons first rest ih =>
    rw [List.foldl_cons, ih, mem_unlink, List.mem_cons]
    by_cases same : a = first <;> by_cases last : b = neighbour <;> simp [same, last]

theorem mem_erase (module a b : ModuleName) :
    b ∈ of (neighbours.erase module) a ↔ b ∈ of neighbours a ∧ a ≠ module := by
  by_cases same : a = module <;> simp [of, Table.get?_erase, same]

end Neighbours

structure Graph where
  /-- What each module requires. -/
  forward : Neighbours := {}
  /-- What requires each module. -/
  reverse : Neighbours := {}
  converse : ∀ a b, a ∈ reverse.of b ↔ b ∈ forward.of a := by
    exact fun _ _ => iff_of_false List.not_mem_nil List.not_mem_nil

namespace Graph

def empty : Graph := {}

instance : Inhabited Graph := ⟨empty⟩

def requiredBy (graph : Graph) : ModuleName → List ModuleName := graph.forward.of

def requiring (graph : Graph) : ModuleName → List ModuleName := graph.reverse.of

def add (graph : Graph) (dependent dependency : ModuleName) : Graph where
  forward := graph.forward.link dependent dependency
  reverse := graph.reverse.link dependency dependent
  converse a b := by simp only [Neighbours.mem_link, graph.converse, and_comm]

/-- Removes the edges that leave a module, from both tables. -/
def clear (graph : Graph) (module : ModuleName) : Graph where
  forward := graph.forward.erase module
  reverse := (graph.requiredBy module).foldl (fun left other => left.unlink other module)
    graph.reverse
  converse a b := by
    rw [Neighbours.mem_foldl_unlink, Neighbours.mem_erase, graph.converse]
    constructor
    · rintro ⟨edge, kept⟩
      exact ⟨edge, fun same => kept ⟨same ▸ edge, same⟩⟩
    · rintro ⟨edge, differs⟩
      exact ⟨edge, fun gone => differs gone.2⟩

/-- Replaces the edges that leave a module. -/
def set (graph : Graph) (module : ModuleName) (dependencies : List ModuleName) : Graph :=
  dependencies.foldl (fun graph dependency => graph.add module dependency) (graph.clear module)

/-- The modules that a module requires, directly or not. -/
def dependencies (graph : Graph) (module : ModuleName) : List ModuleName :=
  graph.forward.closure module

/-- The modules that require a module, directly or not. -/
def dependents (graph : Graph) (module : ModuleName) : List ModuleName :=
  graph.reverse.closure module

@[simp] theorem requiredBy_empty (module : ModuleName) : empty.requiredBy module = [] := rfl

theorem mem_requiring (graph : Graph) (a b : ModuleName) :
    a ∈ graph.requiring b ↔ b ∈ graph.requiredBy a := graph.converse a b

theorem mem_add (graph : Graph) (dependent dependency a b : ModuleName) :
    b ∈ (graph.add dependent dependency).requiredBy a ↔
      a = dependent ∧ b = dependency ∨ b ∈ graph.requiredBy a :=
  graph.forward.mem_link dependent dependency a b

theorem mem_clear (graph : Graph) (module a b : ModuleName) :
    b ∈ (graph.clear module).requiredBy a ↔ b ∈ graph.requiredBy a ∧ a ≠ module :=
  graph.forward.mem_erase module a b

end Graph

end LuauWorkspace.Requires
