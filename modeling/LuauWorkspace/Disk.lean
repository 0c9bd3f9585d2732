import LuauWorkspace.Path
import LuauWorkspace.Table

/-!
# The disk

What a run sees of the file system: files and directories under their names from the root. A
path is looked up the way a file system does it, segment by segment, and each step, an empty one
or a dot included, has to start in a directory. Relative paths start at the root.
-/
namespace LuauWorkspace

inductive DiskEntry where
  | text (content : String)
  /-- A file that is no UTF-8. -/
  | binary
  | directory
deriving DecidableEq, Repr

/-- The number of characters. -/
def DiskEntry.size : DiskEntry → Nat
  | text content => content.length
  | _ => 0

structure Disk where
  entries : Table (List String) DiskEntry := {}
deriving Repr, Inhabited

namespace Disk

def entry? (disk : Disk) (names : List String) : Option DiskEntry :=
  if names = [] then some .directory else disk.entries.get? names

def step? (disk : Disk) (at? : Option (List String)) (segment : String) : Option (List String) :=
  match at? with
  | none => none
  | some names =>
    if disk.entry? names ≠ some .directory then none
    else if segment = "" ∨ segment = "." then some names
    else if segment = ".." then some names.dropLast
    else some (names ++ [segment])

/-- The entry that a path leads to, with its names from the root. -/
def find? (disk : Disk) (path : Path) : Option (List String × DiskEntry) := do
  if path.text = "" then none
  let names ← (Text.pieces '/' path.text).foldl disk.step? (some [])
  let entry ← disk.entry? names
  return (names, entry)

def read? (disk : Disk) (path : Path) : Option String :=
  match disk.find? path with
  | some (_, .text content) => some content
  | _ => none

def isDirectory (disk : Disk) (path : Path) : Bool :=
  match disk.find? path with
  | some (_, .directory) => true
  | _ => false

/-- The names from the root of the place where a path is written to. -/
def target (path : Path) : List String := Path.fold true path.components

def makeDirectory (disk : Disk) (names : List String) : Disk :=
  if (disk.entry? names).isSome then disk else ⟨disk.entries.insert names .directory⟩

/-- Writes an entry and makes the directories above it. -/
def write (disk : Disk) (path : Path) (entry : DiskEntry) : Disk :=
  let names := target path
  let parents := (List.range names.length).map fun count => names.take count
  let above := parents.foldl makeDirectory disk
  ⟨above.entries.insert names entry⟩

/-- Removes a file, if there is one. -/
def remove? (disk : Disk) (path : Path) : Option Disk :=
  match disk.find? path with
  | some (_, .directory) | none => none
  | some (names, _) => some ⟨disk.entries.erase names⟩

/-- The names of all files below a directory, seen from there. -/
def filesBelow (disk : Disk) (directory : List String) : List (List String) :=
  disk.entries.entries.filterMap fun (names, entry) =>
    if entry ≠ .directory ∧ directory.isPrefixOf names then some (names.drop directory.length)
    else none

/-- The number of characters in all texts. -/
def size (disk : Disk) : Nat := disk.entries.total DiskEntry.size

theorem read?_eq_some_iff (disk : Disk) (path : Path) (content : String) :
    disk.read? path = some content ↔ ∃ names, disk.find? path = some (names, .text content) := by
  simp only [read?]
  split
  next found => simp [found]
  next other =>
    constructor
    · simp
    · rintro ⟨names, found⟩
      exact absurd found (other names content)

end Disk

end LuauWorkspace
