import LuauWorkspace.Requires.Graph
import LuauWorkspace.Table

/-!
# Dirty modules

Edits and checks are stamped by one clock that ticks at each of them. A module is dirty until it
was checked after its last edit, and stale also when a module that it requires was edited after
its own last check.
-/
namespace LuauWorkspace.Requires

inductive DirtyReason where
  | opened
  | changed
  | invalidated
deriving DecidableEq, Repr

structure ModuleState where
  editedAt : Nat
  checkedAt : Option Nat := none
  dirty : Bool
  reason : Option DirtyReason := none
deriving DecidableEq, Repr

structure DirtySet where
  clock : Nat := 0
  modules : Table ModuleName ModuleState := {}
deriving Repr, Inhabited

namespace DirtySet

variable (set : DirtySet)

def markDirty (name : ModuleName) (reason : DirtyReason) : DirtySet :=
  let now := set.clock + 1
  let checkedAt := (set.modules.get? name).bind (·.checkedAt)
  { clock := now
    modules := set.modules.insert name
      { editedAt := now, checkedAt, dirty := true, reason := some reason } }

def markChecked (name : ModuleName) : DirtySet :=
  let now := set.clock + 1
  -- Stamps start at one, so a module that was never edited was edited before every check.
  let editedAt := ((set.modules.get? name).map (·.editedAt)).getD 0
  { clock := now
    modules := set.modules.insert name
      { editedAt, checkedAt := some now, dirty := false } }

def isDirty (name : ModuleName) : Bool :=
  match set.modules.get? name with
  | none => true
  | some state => state.dirty || state.checkedAt.isNone

def reason? (name : ModuleName) : Option DirtyReason :=
  (set.modules.get? name).bind (·.reason)

def editedAfter (stamp : Nat) (name : ModuleName) : Bool :=
  match set.modules.get? name with
  | some state => stamp < state.editedAt
  | none => false

def isStale (name : ModuleName) (graph : Graph) : Bool :=
  match (set.modules.get? name).bind (·.checkedAt) with
  | none => true
  | some stamp => set.isDirty name || (graph.dependencies name).any (set.editedAfter stamp)

/-- Marks every module that was ever marked. -/
def invalidateAll : DirtySet :=
  set.modules.keys.foldl (fun set name => set.markDirty name .invalidated) set

theorem isDirty_markDirty (name : ModuleName) (reason : DirtyReason) :
    (set.markDirty name reason).isDirty name = true := by simp [isDirty, markDirty]

theorem isDirty_markChecked (name : ModuleName) :
    (set.markChecked name).isDirty name = false := by simp [isDirty, markChecked]

end DirtySet

end LuauWorkspace.Requires
