import LuauWorkspace.Checked
import LuauWorkspace.Syntax.Lookup

/-!
# Definitions

The declaration of the symbol under the cursor, found through the scopes around the cursor, and
the declaration of a type alias that is written there or that annotates the local variable
there.
-/
namespace LuauWorkspace.Query

open Syntax (Source)

def symbolAt? (source : Source) (target : Source.Target) : Option Symbol :=
  match target with
  | .declaration id => some (.declaration id)
  | .expr id =>
    match source.expr? id with
    | some (.localName id) => some (.declaration id)
    | some (.globalName name) => some (.globalName name)
    | _ => none

def definition? (source : Source) (module : Checked) (position : Position) : Option Location := do
  let target ← source.targetAt? position
  let symbol ← symbolAt? source target
  let scope ← module.scopeAt? position
  let binding ← module.lookup? scope symbol
  return binding.location

/-- The alias that a name means at a position. -/
def aliasAt? (module : Checked) (name : String) (position : Position) : Option Location :=
  (module.scopeAt? position).bind fun scope => module.alias? scope name

/-- The alias that annotates the local variable under the cursor. -/
def annotatedType? (source : Source) (module : Checked) (position : Position) :
    Option Location := do
  let target ← source.targetAt? position
  let declared ← target.local? source
  let typing ← source.typing? declared
  match source.type? typing with
  | some (.reference _ name) => aliasAt? module name (source.location typing).start
  | _ => none

def typeDefinition? (source : Source) (module : Checked) (position : Position) :
    Option Location := do
  let id ← source.nodeAt? position
  match source.type? id with
  | some (.reference _ name) => aliasAt? module name position
  | _ => annotatedType? source module position

end LuauWorkspace.Query
