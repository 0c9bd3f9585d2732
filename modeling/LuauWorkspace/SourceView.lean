import LuauWorkspace.Instances.Tree
import LuauWorkspace.Syntax.Tree

/-!
# What an engine sees of the workspace

An engine never owns the text of a module. It asks for the current text of a module, and for
the module that the argument of a `require` call names.
-/
namespace LuauWorkspace

structure SourceCode where
  text : String
  kind : ScriptKind
deriving DecidableEq, Repr

structure SourceView where
  read? : ModuleName → Option SourceCode
  /-- The module that an expression in the given module names. -/
  resolve? : ModuleName → Syntax.Source → Syntax.NodeId → Option ModuleName
  /-- No more modules than this can be read by names that the texts lead to. -/
  extent : Nat

end LuauWorkspace
