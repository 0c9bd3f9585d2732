import LuauWorkspace.Text.Split

/-!
# Paths

A path is a text read as components between slashes. Repeated slashes and `.` segments carry
no component, except for a leading `.` of a relative path. Normalizing folds `.` and `..`
without looking at any disk: a `..` takes back the name before it, is dropped directly below
the root, and stays at the front of a relative path that climbs out. Normalized paths are the
names of modules, so two spellings that fold to the same components name the same module.
-/
namespace LuauWorkspace

structure Path where
  text : String
deriving DecidableEq, Repr, Inhabited

namespace Path

inductive Component where
  | root
  | here
  | parent
  | name (text : String)
deriving DecidableEq, Repr

namespace Component

def text : Component → String
  | root => ""
  | here => "."
  | parent => ".."
  | name text => text

def ofSegment? (segment : String) : Option Component :=
  if segment = "" ∨ segment = "." then none
  else if segment = ".." then some parent
  else some (name segment)

def rank : Component → Nat
  | root => 0
  | here => 1
  | parent => 2
  | name _ => 3

/-- Names come last and are ordered by their code points. -/
def le : Component → Component → Bool
  | name a, name b => a ≤ b
  | a, b => a.rank ≤ b.rank

end Component

def components (p : Path) : List Component :=
  match Text.pieces '/' p.text with
  | [] => []
  | first :: rest =>
    let below := rest.filterMap Component.ofSegment?
    if first = "" then if rest = [] then [] else .root :: below
    else if first = "." then .here :: below
    else (Component.ofSegment? first).toList ++ below

def isAbsolute (p : Path) : Bool := p.components.head? = some .root

/-- One more component under the names read so far, the last name first. -/
def push (absolute : Bool) (names : List String) : Component → List String
  | .root | .here => names
  | .name text => text :: names
  | .parent =>
    match names with
    -- Nothing lies above the root; a relative path climbs out of where it starts.
    | [] => if absolute then [] else [".."]
    | top :: below =>
      if top ≠ ".." then below else if absolute then names else ".." :: names

def fold (absolute : Bool) (components : List Component) : List String :=
  (components.foldl (push absolute) []).reverse

def ofNames (absolute : Bool) (names : List String) : Path :=
  if absolute then ⟨"/" ++ Text.joined '/' names⟩
  else if names = [] then ⟨"."⟩
  else ⟨Text.joined '/' names⟩

/-- The normalized path with these components. -/
def ofComponents (components : List Component) : Path :=
  let absolute := components.head? = some .root
  ofNames absolute (fold absolute components)

def normalize (p : Path) : Path := ofComponents p.components

/-- An absolute second path replaces the first one; joining the empty path ends the first one
with a slash. -/
def join (base path : Path) : Path :=
  if path.text.startsWith "/" then path
  else if base.text = "" ∨ base.text.endsWith "/" then ⟨base.text ++ path.text⟩
  else ⟨base.text ++ "/" ++ path.text⟩

def fileName? (p : Path) : Option String :=
  match p.components.getLast? with
  | some (.name text) => some text
  | _ => none

/-- The part of the file name behind its last dot. A leading dot does not start an extension. -/
def extension? (p : Path) : Option String :=
  match p.fileName? with
  | none => none
  | some name =>
    match (Text.pieces '.' name).reverse with
    | last :: before => if before = [] ∨ before = [""] then none else some last
    | [] => none

/-- Whether the components of `base` begin those of the path. -/
def startsWith (p base : Path) : Bool := base.components.isPrefixOf p.components

/-- Steps from `base` to `path`, both normalized; none when nothing is known of the directories
that `base` climbs out of. -/
def steps? : List Component → List Component → Option (List Component)
  | path, [] => some path
  | [], base => some (base.map fun _ => .parent)
  | a :: path, b :: base =>
    if a = b then steps? path base
    -- The directory itself: there is nothing to climb out of.
    else if b = .here then some (a :: path)
    else if b = .parent then none
    else some ((b :: base).map (fun _ => .parent) ++ a :: path)

/-- The normalized path of `path` seen from `root`; a path that cannot be reached from there
keeps its full normalized form. -/
def relativeTo (path root : Path) : Path :=
  let full := path.normalize
  let base := root.normalize
  if full.isAbsolute = base.isAbsolute then
    match steps? full.components base.components with
    | some steps => ofComponents steps
    | none => full
  else full

/-- Compares component by component; a path comes before the paths that continue it. -/
def le (a b : Path) : Bool := go a.components b.components
where
  go : List Component → List Component → Bool
    | [], _ => true
    | _ :: _, [] => false
    | x :: xs, y :: ys => if x = y then go xs ys else x.le y

theorem ofSegment?_eq_none_iff (segment : String) :
    Component.ofSegment? segment = none ↔ segment = "" ∨ segment = "." := by
  simp only [Component.ofSegment?]
  split
  · simp_all
  · split <;> simp_all

theorem normalize_eq (p : Path) : p.normalize = ofComponents p.components := rfl

theorem steps?_self (components : List Component) : steps? components components = some [] := by
  induction components with
  | nil => rfl
  | cons c rest ih => simp [steps?, ih]

theorem join_of_absolute (base path : Path) (absolute : path.text.startsWith "/" = true) :
    base.join path = path := by simp [join, absolute]

end Path

end LuauWorkspace
