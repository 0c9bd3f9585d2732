import LuauWorkspace.Engine.Basic
import LuauWorkspace.Requires.Dirty

/-!
# Memoized checks

The result of a check is kept and used again until the module is stale. A module counts as
stale after an edit of its own or of anything that it required at its last check, and an edit
also drops the results of everything that requires the edited module. So every query can ask for
a fresh result first, and the engine runs no more often than that needs.
-/
namespace LuauWorkspace

open Requires (DirtyReason DirtySet Graph)

structure Analysis (ε : Type) where
  engine : ε
  dirty : DirtySet := {}
  graph : Graph := .empty
  results : Table ModuleName (List Problem) := {}

namespace Analysis

variable {ε : Type} [Engine ε] (analysis : Analysis ε)

def source? (name : ModuleName) : Option Syntax.Source := Engine.source? analysis.engine name

def checked? (name : ModuleName) : Option Checked := Engine.checked? analysis.engine name

def markDirty (name : ModuleName) (reason : DirtyReason) : Analysis ε :=
  { analysis with
    engine := Engine.markDirty analysis.engine name
    dirty := analysis.dirty.markDirty name reason
    results := (analysis.graph.dependents name).foldl Table.erase analysis.results }

def isStale (name : ModuleName) : Bool :=
  analysis.dirty.isStale name analysis.graph || Engine.isDirty analysis.engine name

def isFresh (name : ModuleName) : Bool :=
  analysis.results.contains name && !analysis.isStale name

/-- The modules that a parsed module requires. -/
def requires (engine : ε) (name : ModuleName) : List ModuleName :=
  ((Engine.source? engine name).map (·.requires)).getD []

/-- Renews the edges of every module that can be reached, as far as it is parsed. -/
def recordRequires (engine : ε) (graph : Graph) (root : ModuleName) : Graph :=
  let order := Traversal.order (requires engine) Traversal.breadthFirst
    (Engine.known engine).length root
  order.foldl
    (fun graph name =>
      match Engine.source? engine name with
      | some source => graph.set name source.requires
      | none => graph)
    graph

/-- Runs the engine. -/
def refresh (view : SourceView) (name : ModuleName) : Analysis ε :=
  let (problems, engine) := Engine.check analysis.engine view name
  { engine
    dirty := analysis.dirty.markChecked name
    graph := recordRequires engine analysis.graph name
    results := analysis.results.insert name problems }

def ensureFresh (view : SourceView) (name : ModuleName) : Analysis ε :=
  if analysis.isFresh name then analysis else analysis.refresh view name

/-- The problems that the last check of a module reported. -/
def problems (name : ModuleName) : List Problem := (analysis.results.get? name).getD []

/-- Has every module that was ever edited or checked run through the engine again. -/
def invalidateAll : Analysis ε :=
  { analysis with
    engine := analysis.dirty.modules.keys.foldl Engine.markDirty analysis.engine
    dirty := analysis.dirty.invalidateAll }

theorem ensureFresh_of_isFresh (view : SourceView) (name : ModuleName)
    (fresh : analysis.isFresh name = true) : analysis.ensureFresh view name = analysis := by
  simp [ensureFresh, fresh]

theorem ensureFresh_of_not_isFresh (view : SourceView) (name : ModuleName)
    (stale : analysis.isFresh name = false) :
    analysis.ensureFresh view name = analysis.refresh view name := by
  simp [ensureFresh, stale]

end Analysis

end LuauWorkspace
