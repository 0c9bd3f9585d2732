import LuauWorkspace.Script.Location
import LuauWorkspace.Syntax.Tree
import LuauWorkspace.Types.Arena

/-!
# Syntax trees in scripts

A node is an object with its kind, its location, its parts and, for an expression, its type.
Nodes get their ids in the order in which they are finished: the parts of a node come before the
node, in the order in which they are listed here.
-/
namespace LuauWorkspace.Script

open Syntax (Draft Expr Node NodeId Source Stat TableItem TypeExpr)

/-- The nodes so far, and the types that were given for them. -/
structure Building where
  draft : Draft := {}
  types : Table NodeId Types.TypeId := {}

abbrev Build := StateM Building

def put (json : Json) (node : Node) : Build NodeId := fun state =>
  let (id, draft) := state.draft.add (locationAt json "loc") node
  let types :=
    match json.naturalAt? "ty" with
    | some type => state.types.insert id type
    | none => state.types
  (id, { draft, types })

/-- Separates a receiver from its method; a dot unless given. -/
def separator (json : Json) : Char :=
  match (json.stringAt "op").toList with
  | c :: _ => c
  | [] => '.'

/-- Reads the parts of a node with `part` and makes its shape. -/
def expr? (part : Json → Build NodeId) (json : Json) : Option (Build Expr) :=
  let child (name : String) : Build NodeId := part (json.field name)
  match json.stringAt "k" with
  | "nil" => some (pure .nil)
  | "varargs" => some (pure .varargs)
  | "bool" => some (pure .bool)
  | "number" => some (pure .number)
  | "string" => some (pure (.text (json.stringAt "v")))
  | "global" => some (pure (.globalName (json.stringAt "name")))
  | "local" => some (pure (.localName (json.naturalAt "local")))
  | "call" => some do
    let callee ← child "func"
    let arguments ← (json.field "args").items.mapM part
    return .call callee arguments (json.truthAt "self_call") (locationAt json "arg_loc")
  | "index" => some do
    let base ← child "expr"
    return .member base (json.stringAt "index") (locationAt json "index_loc") (separator json)
  | "index_expr" => some do
    let base ← child "expr"
    return .element base (← child "index")
  | "function" => some do
    let body ← child "body"
    return .function (json.naturalAt? "self") (json.naturalsAt "params") body
  | "table" => some do
    let items ← (json.field "items").items.mapM fun item => do
      let key ← ((item.field "key").option part).mapM id
      return ({ key, value := ← part (item.field "value") } : TableItem)
    return .table items
  | "unary" => some do return .unary (← child "expr")
  | "binary" => some do
    let left ← child "left"
    return .binary left (← child "right")
  | "group" => some do return .group (← child "expr")
  | "assert" => some do
    let operand ← child "expr"
    return .cast operand (← child "annotation")
  | _ => none

def stat? (part : Json → Build NodeId) (json : Json) : Option (Build Stat) :=
  let child (name : String) : Build NodeId := part (json.field name)
  let children (name : String) : Build (List NodeId) := (json.field name).items.mapM part
  match json.stringAt "k" with
  | "block" => some do return .block (← children "body")
  | "local_stat" => some do return .localDecl (json.naturalsAt "vars") (← children "values")
  | "assign" => some do
    let targets ← children "vars"
    return .assign targets (← children "values")
  | "expr_stat" => some do return .expression (← child "expr")
  | "return" => some do return .result (← children "values")
  | "if" => some do
    let condition ← child "cond"
    let first ← child "then"
    return .branch condition first (← ((json.field "else").option part).mapM id)
  | "while" => some do
    let condition ← child "cond"
    return .loop condition (← child "body")
  | "function_stat" => some do
    let name ← child "name"
    return .function name (← child "func")
  | "local_function" => some do return .localFunction (json.naturalAt "local") (← child "func")
  | "type_alias" => some do return .typeAlias (json.stringAt "name") (← child "type")
  | _ => none

def property (part : Json → Build NodeId) (json : Json) : Build (String × NodeId) :=
  match json.items with
  | [name, type] => do return (name.string, ← part type)
  | _ => do return ("", ← part json)

def type (part : Json → Build NodeId) (json : Json) : Build TypeExpr :=
  let children (name : String) : Build (List NodeId) := (json.field name).items.mapM part
  match json.stringAt "k" with
  | "type_table" => do return .table (← (json.field "props").items.mapM (property part))
  | "type_function" => do
    let arguments ← children "args"
    return .function arguments (← children "returns")
  | "union" => do return .union (← children "parts")
  | "optional" => do return .optional (← part (json.field "inner"))
  | _ => return .reference (json.stringAt? "prefix") (json.stringAt "name")

/-- Adds a node and everything below it, down to a depth. -/
def nodeWithin : Nat → Json → Build NodeId
  | 0, json => put json (.expr .nil)
  | depth + 1, json => do
    let part := nodeWithin depth
    match expr? part json, stat? part json with
    | some expr, _ => put json (.expr (← expr))
    | none, some stat => put json (.stat (← stat))
    | none, none => put json (.type (← type part json))

def node (json : Json) : Build NodeId := nodeWithin (json.depth + 1) json

def declaration (json : Json) : Build Unit := do
  let typing ← ((json.field "annotation").option node).mapM id
  modify fun state =>
    let declared := { name := json.stringAt "name", location := locationAt json "loc", typing }
    { state with draft := (state.draft.declare declared).2 }

/-- A module and the types of its expressions. -/
def source (json : Json) : Source × Table NodeId Types.TypeId :=
  let build : Build (List NodeId) := do
    (json.field "locals").items.forM declaration
    (json.field "body").items.mapM node
  let (body, state) := build.run {}
  let whole := state.draft.finish ⟨json.stringOr "name" "main"⟩ (locationAt json "loc") body
  ({ whole with requires := (json.stringsAt "requires").map ModuleName.mk }, state.types)

/-- A module that holds nothing but one expression. -/
def expression (json : Json) : NodeId × Source :=
  let (id, state) := (node json).run {}
  (id, state.draft.finish ⟨"main"⟩ default [])

end LuauWorkspace.Script
