import LuauWorkspace.Checked
import LuauWorkspace.Documentation
import LuauWorkspace.Engine.Scripted
import LuauWorkspace.Script.Tree

/-!
# Modules in scripts

Types, scopes, problems, lints and completion candidates, and with them the whole script of a
module.
-/
namespace LuauWorkspace.Script

open LuauWorkspace.Types (Arena Properties Shape)

def properties (json : Json) : Properties :=
  .ofList (json.pairs.map fun (name, id) => (name, id.natural))

def shape (json : Json) : Shape :=
  match json.stringAt "k" with
  | "nil" => .primitive .nil
  | "boolean" => .primitive .boolean
  | "number" => .primitive .number
  | "string" => .primitive .string
  | "thread" => .primitive .thread
  | "unknown" => .unknown
  | "never" => .never
  | "bound" => .bound (json.naturalAt "to")
  | "generic" => .generic (json.stringAt "name")
  | "function" => .function {
      generics := json.stringsAt "generics"
      arguments := json.naturalsAt "args"
      argumentNames := (json.field "arg_names").items.map fun name => name.option Json.string
      results := json.naturalsAt "returns"
      hasReceiver := json.truthAt "has_self" }
  | "table" => .table {
      name := json.stringAt? "name"
      properties := properties (json.field "props")
      indexer :=
        match json.naturalsAt "indexer" with
        | [key, value] => some (key, value)
        | _ => none }
  | "metatable" => .metatable (json.naturalAt "table") (json.naturalAt "metatable")
  | "class" => .ofClass {
      name := json.stringAt "name"
      properties := properties (json.field "props")
      parent := json.naturalAt? "parent" }
  | "union" => .union (json.naturalsAt "parts")
  | "intersection" => .intersection (json.naturalsAt "parts")
  | _ => .any

def arena (json : Json) : Arena :=
  ⟨(json.items.map fun item => ⟨shape item, item.stringAt? "doc"⟩).toArray⟩

def symbol (json : Json) : Symbol :=
  match json.naturalAt? "local" with
  | some id => .declaration id
  | none => .globalName (json.stringAt "global")

def binding (json : Json) : Symbol × Binding :=
  (symbol json, ⟨json.naturalAt "ty", locationAt json "loc", json.stringAt? "doc"⟩)

def scope (json : Json) : Scope where
  parent := json.naturalAt? "parent"
  location := locationAt json "loc"
  bindings := .ofList ((json.field "bindings").items.map binding)
  aliases := .ofList ((json.field "aliases").pairs.map fun (name, place) => (name, location place))

def checked (json : Json) (expressionTypes : Table Syntax.NodeId Types.TypeId) : Checked where
  types := arena (json.field "types")
  expressionTypes
  scopes := ((json.field "scopes").items.map scope).toArray

def documentation (json : Json) : Documentation :=
  .ofList (json.pairs.map fun (name, entry) =>
    (name, ⟨entry.stringAt "documentation", entry.stringAt? "learn_more_link",
      entry.stringAt? "code_sample"⟩))

/-- A problem is owned by the module that it is listed for unless it names another. -/
def problem (owner : ModuleName) (json : Json) : Problem where
  owner := ⟨json.stringOr "owner" owner.text⟩
  location := locationAt json "loc"
  kind := if json.stringAt "kind" = "syntax" then .grammar else .typing
  code := json.naturalOr "code" 1000
  message := json.stringAt "message"

def lint (json : Json) : Lint where
  code := json.naturalOr "code" 1
  name := json.stringAt "name"
  text := json.stringAt "text"
  location := locationAt json "loc"

def lints (json : Json) : Lints :=
  ⟨(json.field "errors").items.map lint, (json.field "warnings").items.map lint⟩

def candidateKind (name : String) : CandidateKind :=
  match name with
  | "property" => .property
  | "binding" => .binding
  | "keyword" => .keyword
  | "string" => .text
  | "type" => .type
  | _ => .module

def candidate (json : Json) : Candidate where
  kind := candidateKind (json.stringAt "kind")
  type := json.naturalAt? "ty"
  deprecated := json.truthAt "deprecated"
  symbol := json.stringAt? "doc"
  parentheses :=
    match json.stringAt "parens" with
    | "after" => .cursorAfter
    | "inside" => .cursorInside
    | _ => .none

def candidates (json : Json) : Candidates :=
  .ofList (json.pairs.map fun (name, entry) => (name, candidate entry))

def module (name : ModuleName) (json : Json) : ModuleScript :=
  let parsed := (json.field "source").option source
  let types := (parsed.map (·.2)).getD {}
  { source := parsed.map (·.1)
    checked := (json.field "module").option fun body => checked body types
    problems := (json.field "errors").items.map (problem name)
    lints := lints (json.field "lint")
    candidates := candidates (json.field "autocomplete") }

/-- An engine from the scripts of its modules. -/
def engine (json : Json) : ScriptedEngine :=
  { scripts := .ofList (json.pairs.map fun (name, entry) => (⟨name⟩, module ⟨name⟩ entry)) }

def ofProblem (p : Problem) : Json :=
  .object [
    ("owner", .text p.owner.text),
    ("loc", ofLocation p.location),
    ("code", .nat p.code),
    ("message", .text p.message),
    ("kind", .text (match p.kind with
      | .grammar => "syntax"
      | .typing => "type"))]

def ofLint (l : Lint) : Json :=
  .object [
    ("code", .nat l.code),
    ("name", .text l.name),
    ("text", .text l.text),
    ("loc", ofLocation l.location)]

def ofLints (l : Lints) : Json :=
  .object [("errors", .list (l.errors.map ofLint)), ("warnings", .list (l.warnings.map ofLint))]

end LuauWorkspace.Script
