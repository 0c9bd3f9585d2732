import LuauWorkspace.Files
import LuauWorkspace.Uri.FilePath

/-!
# Document links

Each `local X = require(...)` among the statements of a module itself links its argument to the
file of the module that it names. Calls inside functions and blocks are not linked.
-/
namespace LuauWorkspace.Query

open Syntax (Source NodeId)

structure Link where
  range : Location
  target : Uri
deriving DecidableEq, Repr

/-- The only argument of a `require` call, and where it is written. -/
def requireArgument? (source : Source) (id : NodeId) : Option (NodeId × Location) :=
  match source.expr? id with
  | some (.call callee [argument] _ written) =>
    match source.expr? callee with
    | some (.globalName "require") => some (argument, written)
    | _ => none
  | _ => none

/-- The values of the local declarations of a module itself. -/
def localValues (source : Source) : List NodeId :=
  source.body.flatMap fun id =>
    match source.stat? id with
    | some (.localDecl _ values) => values
    | _ => []

def link? (files : Files) (name : ModuleName) (source : Source) (value : NodeId) :
    Option Link := do
  let (argument, written) ← requireArgument? source value
  let module ← files.resolve? name source argument
  let path ← files.toReal? module
  let target ← Uri.ofFilePath? path
  return ⟨written, target⟩

def links (files : Files) (name : ModuleName) (source : Source) : List Link :=
  (localValues source).filterMap (link? files name source)

end LuauWorkspace.Query
