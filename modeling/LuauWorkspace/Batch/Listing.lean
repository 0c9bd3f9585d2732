import LuauWorkspace.Disk

/-!
# Files of a batch run

A run names files and directories. A directory stands for the Luau files anywhere below it, in
the order of their components; everything else stands for itself, whether it exists or not.
-/
namespace LuauWorkspace.Batch

def isLuau (names : List String) : Bool :=
  match (Path.mk (names.getLast?.getD "")).extension? with
  | some extension => extension = "lua" || extension = "luau"
  | none => false

/-- A file below a directory. Slashes that separate nothing are dropped. -/
def below (directory : Path) (names : List String) : Path :=
  let segments := (Text.pieces '/' directory.text).filter (· ≠ "")
  let start := if directory.text.startsWith "/" then "/" else ""
  ⟨start ++ Text.joined '/' (segments ++ names)⟩

def filesOf (disk : Disk) (path : Path) : List Path :=
  match disk.find? path with
  | some (names, .directory) =>
    (((disk.filesBelow names).filter isLuau).map (below path)).mergeSort Path.le
  | _ => [path]

/-- The files that a run analyzes, in order. -/
def listing (disk : Disk) (root : Path) (written : List Path) : List Path :=
  written.flatMap fun path => filesOf disk (root.join path)

theorem filesOf_eq_singleton (disk : Disk) (path : Path) (file : disk.isDirectory path = false) :
    filesOf disk path = [path] := by
  simp only [filesOf]
  split
  next found => simp [Disk.isDirectory, found] at file
  next => rfl

theorem listing_append (disk : Disk) (root : Path) (first second : List Path) :
    listing disk root (first ++ second) = listing disk root first ++ listing disk root second := by
  simp [listing]

end LuauWorkspace.Batch
