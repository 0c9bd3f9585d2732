import LuauWorkspace.Query.Hover

/-!
# Signature help

The signatures of the call around the cursor: the innermost node, or else its parent, when that
is a call. A callee of several function types has a signature for each. The last argument that
is written is the active one.
-/
namespace LuauWorkspace.Query

open Syntax (Source NodeId)

structure Signature where
  label : String
  documentation : Option String
  parameters : List String
deriving DecidableEq, Repr

structure SignatureHelp where
  signatures : List Signature
  activeParameter : Nat
deriving DecidableEq, Repr

structure WrittenCall where
  callee : NodeId
  arguments : List NodeId
  onReceiver : Bool

def call? (source : Source) (id : NodeId) : Option WrittenCall :=
  match source.expr? id with
  | some (.call callee arguments onReceiver _) => some ⟨callee, arguments, onReceiver⟩
  | _ => none

/-- The call that the cursor is in. -/
def callAt? (source : Source) (position : Position) : Option WrittenCall :=
  (((source.ancestry position).reverse.take 2).filterMap (call? source)).head?

/-- The function types that a callee can be called as. -/
def overloads (types : Types.Arena) (callee : Types.TypeId) : List Types.FunctionType :=
  match types.get? callee with
  | some (.function type) => [type]
  | some (.intersection parts) =>
    parts.filterMap fun part =>
      match types.get? part with
      | some (.function type) => some type
      | _ => none
  | _ => []

def signature (types : Types.Arena) (name : String) (documentation : Option String)
    (onReceiver : Bool) (type : Types.FunctionType) : Signature :=
  let style : Types.Style := { hideReceiver := type.hasReceiver && onReceiver }
  ⟨types.namedFunction style name type, documentation, types.parameterLabels style type⟩

def signatureHelp? (source : Source) (module : Checked) (docs : Documentation)
    (position : Position) : Option SignatureHelp := do
  let call ← callAt? source position
  let callee := module.types.follow (← module.typeOf? call.callee)
  let name := (source.calleeName? call.callee).getD ""
  let documentation := documentation? module.types docs callee
  let signatures := (overloads module.types callee).map
    (signature module.types name documentation call.onReceiver)
  if signatures = [] then none
  return ⟨signatures, call.arguments.length - 1⟩

end LuauWorkspace.Query
