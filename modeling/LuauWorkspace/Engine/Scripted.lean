import LuauWorkspace.Engine.Basic
import LuauWorkspace.Traversal

/-!
# Scripted engine

An engine whose answers are given in advance for each module. A check reports the problems of
the module and of everything that it requires, breadth first.
-/
namespace LuauWorkspace

structure ModuleScript where
  source : Option Syntax.Source := none
  checked : Option Checked := none
  problems : List Problem := []
  lints : Lints := {}
  candidates : Candidates := {}
deriving Inhabited

structure ScriptedEngine where
  scripts : Table ModuleName ModuleScript := {}
  dirty : List ModuleName := []
  checked : List ModuleName := []
  checkCounts : Table ModuleName Nat := {}
deriving Inhabited

namespace ScriptedEngine

variable (engine : ScriptedEngine)

def script? (name : ModuleName) : Option ModuleScript := engine.scripts.get? name

def source? (name : ModuleName) : Option Syntax.Source := (engine.script? name).bind (·.source)

def requires (name : ModuleName) : List ModuleName :=
  ((engine.source? name).map (·.requires)).getD []

def problems (name : ModuleName) : List Problem :=
  ((engine.script? name).map (·.problems)).getD []

def checkCount (name : ModuleName) : Nat := (engine.checkCounts.get? name).getD 0

def check (name : ModuleName) : List Problem × ScriptedEngine :=
  let order :=
    Traversal.order engine.requires Traversal.breadthFirst engine.scripts.size name
  (order.flatMap engine.problems,
    { engine with
      dirty := engine.dirty.filter (· ≠ name)
      checked := engine.checked.insert name
      checkCounts := engine.checkCounts.insert name (engine.checkCount name + 1) })

instance : Engine ScriptedEngine where
  check engine _ name := engine.check name
  isDirty engine name := engine.dirty.contains name || !engine.checked.contains name
  markDirty engine name := { engine with dirty := engine.dirty.insert name }
  source? := source?
  known engine := engine.scripts.keys
  checked? engine name := (engine.script? name).bind (·.checked)
  lint engine name := ((engine.script? name).map (·.lints)).getD {}
  candidates engine name _ := ((engine.script? name).map (·.candidates)).getD {}
  checkCount := checkCount

end ScriptedEngine

end LuauWorkspace
