import LuauWorkspace.Checked
import LuauWorkspace.Documentation
import LuauWorkspace.Syntax.Lookup
import LuauWorkspace.Types.Render

/-!
# Hover

The type of the expression or declaration under the cursor, written as Luau, with the
documentation of the type below it. A member that the check gave no type takes it from the type
of its base.
-/
namespace LuauWorkspace.Query

open Syntax (Source NodeId)

structure Hover where
  markdown : String
  range : Location
deriving DecidableEq, Repr

/-- The type of a property of a class, a table, or the table behind a metatable. -/
def memberType? (types : Types.Arena) (base : Types.TypeId) (name : String) :
    Option Types.TypeId :=
  match types.get? base with
  | some (.ofClass type) => types.classProperty? type name
  | some (.table type) => type.properties.get? name
  | some (.metatable table _) =>
    match types.get? table with
    | some (.table type) => type.properties.get? name
    | _ => none
  | _ => none

def expressionType? (source : Source) (module : Checked) (id : NodeId) : Option Types.TypeId :=
  match module.typeOf? id with
  | some type => some type
  | none =>
    match source.expr? id with
    | some (.member base name _ _) =>
      (module.typeOf? base).bind fun type => memberType? module.types type name
    | _ => none

def typeAt? (source : Source) (module : Checked) (target : Source.Target) (position : Position) :
    Option Types.TypeId :=
  match target with
  | .expr id => expressionType? source module id
  | .declaration id =>
    (module.scopeAt? position).bind fun scope =>
      (module.lookup? scope (.declaration id)).map (·.type)

/-- The declaration that stands for a symbol of a type. -/
def declaration (source : Source) (types : Types.Arena) (target : Source.Target)
    (type : Types.TypeId) : String :=
  let name := (target.local? source).map source.localName
  let expr := target.expr?.bind source.expr?
  match types.get? type, name, expr with
  | some (.function function), _, _ =>
    let onReceiver : Bool :=
      match expr with
      | some (.member _ _ _ separator) => separator == ':'
      | _ => false
    let style : Types.Style :=
      { lineBreaks := true, hideReceiver := function.hasReceiver && onReceiver }
    let written := name.orElse fun _ => target.expr?.bind source.calleeName?
    types.namedFunction style (written.getD "") function
  | _, some name, _ => "local " ++ name ++ ": " ++ types.text Types.Style.exhaustive type
  | _, none, some (.globalName name) =>
    "type " ++ name ++ " = " ++ types.text Types.Style.exhaustive type
  | _, none, _ => types.text Types.Style.exhaustive type

def documentation? (types : Types.Arena) (docs : Documentation) (type : Types.TypeId) :
    Option String :=
  (types.symbol? type).bind docs.markdown?

def hover? (source : Source) (module : Checked) (docs : Documentation) (position : Position) :
    Option Hover := do
  let target ← source.targetAt? position
  let type := module.types.follow (← typeAt? source module target position)
  let code := Markdown.codeBlock "lua" (declaration source module.types target type)
  let below :=
    match documentation? module.types docs type with
    | some text => Markdown.separator ++ text
    | none => ""
  return ⟨code ++ below, target.location source⟩

end LuauWorkspace.Query
