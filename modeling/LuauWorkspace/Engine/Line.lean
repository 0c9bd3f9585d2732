import LuauWorkspace.Engine.Basic
import LuauWorkspace.Text.Blank
import LuauWorkspace.Text.Split
import LuauWorkspace.Text.Utf8
import LuauWorkspace.Traversal

/-!
# Line engine

An engine that looks at single lines. `local Name = require(argument)` requires a module, where
the argument is a string in quotes or names joined by dots, and `-- error: message` is a problem.
All other lines say nothing. Columns count bytes. A check parses the module again and those
behind it that are dirty or were never parsed, the last require first.
-/
namespace LuauWorkspace

namespace Line

open Syntax (Draft NodeId Source)
open Text (split join)

def width (text : List Char) : Nat := Text.Utf8.size text

def dropEnd (line : List Char) : List Char :=
  match line.reverse with
  | '\r' :: rest => rest.reverse
  | _ => line

/-- The lines of a text; a line feed ends a line, together with a carriage return in front. -/
def lines (text : List Char) : List (List Char) :=
  match (split '\n' text).reverse with
  | [] => []
  | last :: before =>
    let ended := (before.map dropEnd).reverse
    if last = [] then ended else ended ++ [last]

/-- The text behind `start`, if the text starts so. -/
def behind? : List Char → List Char → Option (List Char)
  | [], text => some text
  | _ :: _, [] => none
  | c :: start, d :: text => if c = d then behind? start text else none

/-- The text before `last`, if the text ends so. -/
def before? (last text : List Char) : Option (List Char) :=
  (behind? last.reverse text.reverse).map List.reverse

/-- The text around the first place where `middle` stands. -/
def around? (middle : List Char) : List Char → Option (List Char × List Char)
  | [] => (behind? middle []).map ([], ·)
  | c :: rest =>
    match behind? middle (c :: rest) with
    | some after => some ([], after)
    | none => (around? middle rest).map fun (before, after) => (c :: before, after)

/-- Names joined by dots, from a column on; each longer expression starts where the first name
does. -/
def members (draft : Draft) (line start : Nat) (base : NodeId) (column : Nat) :
    List (List Char) → NodeId × Draft
  | [] => (base, draft)
  | name :: rest =>
    let stop := column + 1 + width name
    let (id, next) := draft.add (.onLine line start stop)
      (.expr (.member base (String.ofList name) (.onLine line (column + 1) stop) '.'))
    members next line start id stop rest

def quoted? (text : List Char) : Option (List Char) :=
  (behind? ['"'] text).bind (before? ['"'])

/-- The expression between the parentheses of a `require` call. -/
def argument (draft : Draft) (line start : Nat) (text : List Char) : NodeId × Draft :=
  match quoted? text, split '.' text with
  | some path, _ =>
    draft.add (.onLine line start (start + width text)) (.expr (.text (String.ofList path)))
  | none, names =>
    let root := names.headD []
    let stop := start + width root
    let (base, next) := draft.add (.onLine line start stop)
      (.expr (.globalName (String.ofList root)))
    members next line start base stop names.tail

structure Require where
  statement : NodeId
  argument : NodeId

/-- The name and the argument of `local Name = require(argument)`. -/
def requireParts? (text : List Char) : Option (List Char × List Char) := do
  let rest ← behind? "local ".toList text
  let (name, call) ← around? " = require(".toList rest
  return (name, ← before? [')'] call)

def require? (draft : Draft) (line : Nat) (text : List Char) : Option (Require × Draft) :=
  (requireParts? text).map fun (name, written) =>
    let nameAt := width "local ".toList
    let callAt := nameAt + width name + width " = ".toList
    let calleeEnd := callAt + width "require".toList
    let argumentAt := calleeEnd + 1
    let argumentEnd := argumentAt + width written
    let (declared, draft) := draft.declare
      { name := String.ofList name
        location := .onLine line nameAt (nameAt + width name) }
    let (callee, draft) := draft.add (.onLine line callAt calleeEnd)
      (.expr (.globalName "require"))
    let (argument, draft) := argument draft line argumentAt written
    let (call, draft) := draft.add (.onLine line callAt (argumentEnd + 1))
      (.expr (.call callee [argument] false (.onLine line argumentAt argumentEnd)))
    let (statement, draft) := draft.add (.onLine line 0 (argumentEnd + 1))
      (.stat (.localDecl [declared] [call]))
    (⟨statement, argument⟩, draft)

def problem? (owner : ModuleName) (line : Nat) (text : List Char) : Option Problem :=
  (behind? "-- error: ".toList (Text.trimLeft text)).map fun message =>
    { owner
      location := .onLine line 0 (width text)
      kind := .typing
      code := 1000
      message := String.ofList message }

/-- What was found on the lines so far. -/
structure Scan where
  draft : Draft := {}
  requires : List Require := []
  problems : List Problem := []

def scanLine (owner : ModuleName) (scan : Scan) (line : Nat) (text : List Char) : Scan :=
  match problem? owner line text with
  | some problem => { scan with problems := scan.problems ++ [problem] }
  | none =>
    match require? scan.draft line text with
    | some (found, draft) => { scan with draft, requires := scan.requires ++ [found] }
    | none => scan

def scanLines (owner : ModuleName) (scan : Scan) (line : Nat) : List (List Char) → Scan
  | [] => scan
  | text :: rest => scanLines owner (scanLine owner scan line text) (line + 1) rest

/-- A module as it was last parsed. -/
structure Parsed where
  source : Source
  problems : List Problem
deriving Repr

def parse (view : SourceView) (name : ModuleName) (text : String) : Parsed :=
  let texts := lines text.toList
  let scan := scanLines name {} 0 texts
  let source := scan.draft.finish name ⟨⟨0, 0⟩, ⟨texts.length, 0⟩⟩
    (scan.requires.map (·.statement))
  let requires := scan.requires.filterMap fun found => view.resolve? name source found.argument
  ⟨{ source with requires }, scan.problems⟩

end Line

structure LineEngine where
  parsed : Table ModuleName Line.Parsed := {}
  /-- Every module that was ever parsed. -/
  seen : List ModuleName := []
  dirty : List ModuleName := []
  checkCounts : Table ModuleName Nat := {}
deriving Inhabited

namespace LineEngine

open Line (Parsed)

variable (engine : LineEngine) (view : SourceView)

def isDirty (name : ModuleName) : Bool :=
  engine.dirty.contains name || !engine.parsed.contains name

def checkCount (name : ModuleName) : Nat := (engine.checkCounts.get? name).getD 0

/-- The form of a module after a check of `root` has been there. -/
def current? (root name : ModuleName) : Option Parsed :=
  if name = root ∨ engine.isDirty name then
    (view.read? name).map fun code => Line.parse view name code.text
  else engine.parsed.get? name

def requires (root name : ModuleName) : List ModuleName :=
  ((engine.current? view root name).map (·.source.requires)).getD []

def problems (root name : ModuleName) : List Problem :=
  ((engine.current? view root name).map (·.problems)).getD []

/-- Modules with requires are readable or were parsed before, and those behind a module that
was parsed before are named by its requires. -/
def budget : Nat :=
  view.extent + (engine.parsed.total fun parsed => parsed.source.requires.length + 1) + 1

def order (root : ModuleName) : List ModuleName :=
  Traversal.order (engine.requires view root) Traversal.lastFirst (engine.budget view) root

/-- Records a visit. A module that cannot be read loses its parsed form and stays dirty. -/
def record (root : ModuleName) (now : LineEngine) (name : ModuleName) : LineEngine :=
  if name = root ∨ engine.isDirty name then
    match engine.current? view root name with
    | some parsed =>
      { now with
        parsed := now.parsed.insert name parsed
        seen := now.seen.insert name
        dirty := now.dirty.filter (· ≠ name) }
    | none => { now with parsed := now.parsed.erase name }
  else now

def check (root : ModuleName) : List Problem × LineEngine :=
  let order := engine.order view root
  let counted :=
    { engine with checkCounts := engine.checkCounts.insert root (engine.checkCount root + 1) }
  (order.flatMap (engine.problems view root), order.foldl (engine.record view root) counted)

instance : Engine LineEngine where
  check := check
  isDirty := isDirty
  markDirty engine name := { engine with dirty := engine.dirty.insert name }
  source? engine name := (engine.parsed.get? name).map (·.source)
  known engine := engine.parsed.keys
  checked? engine name := if engine.seen.contains name then some {} else none
  lint _ _ := {}
  candidates _ _ _ := {}
  checkCount := checkCount

end LineEngine

end LuauWorkspace
