import LuauWorkspace.Syntax.Tree

/-!
# Names of node kinds

A kind is named by its group and by what it is called in descriptions of the language.
-/
namespace LuauWorkspace.Syntax

def Expr.kind : Expr → String
  | nil => "Nil"
  | bool => "Bool"
  | number => "Number"
  | text _ => "String"
  | varargs => "Varargs"
  | globalName _ => "Global"
  | localName _ => "Local"
  | call .. => "Call"
  | member .. => "IndexName"
  | element .. => "IndexExpr"
  | function .. => "Function"
  | table _ => "Table"
  | unary _ => "Unary"
  | binary .. => "Binary"
  | group _ => "Group"
  | cast .. => "TypeAssertion"

def Stat.kind : Stat → String
  | block _ => "Block"
  | localDecl .. => "Local"
  | assign .. => "Assign"
  | expression _ => "Expr"
  | result _ => "Return"
  | branch .. => "If"
  | loop .. => "While"
  | function .. => "Function"
  | localFunction .. => "LocalFunction"
  | typeAlias .. => "TypeAlias"

def TypeExpr.kind : TypeExpr → String
  | reference .. => "Reference"
  | table _ => "Table"
  | function .. => "Function"
  | union _ => "Union"
  | optional _ => "Optional"

def Node.kind : Node → String
  | expr e => "Expr::" ++ e.kind
  | stat s => "Stat::" ++ s.kind
  | type t => "Type::" ++ t.kind

def Source.kind (source : Source) (id : NodeId) : String :=
  match source.node? id with
  | some node => node.kind
  | none => ""

end LuauWorkspace.Syntax
