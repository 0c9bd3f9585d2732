import LuauWorkspace.Analysis
import LuauWorkspace.Configuration
import LuauWorkspace.Files
import LuauWorkspace.Uri.FilePath

/-!
# Diagnostics of a document

A check of one module reports the problems of every module that it reaches. Those of the module
itself are the items of its document, with its lints behind them. Those of other modules are
filed under the documents of their owners, each once, unless the owner has no file or its file
is ignored.
-/
namespace LuauWorkspace

inductive Severity where
  | error
  | warning
  | information
  | hint
deriving DecidableEq, Repr

namespace Severity

/-- The number of the severity in the protocol. -/
def code : Severity → Nat
  | error => 1
  | warning => 2
  | information => 3
  | hint => 4

end Severity

inductive DiagnosticCode where
  | number (n : Int)
  | text (code : String)
deriving DecidableEq, Repr

namespace DiagnosticCode

/-- Codes of 32 bits are shown as signed numbers. -/
def ofNat (code : Nat) : DiagnosticCode := number (Int.bmod code 4294967296)

end DiagnosticCode

structure Diagnostic where
  range : Location
  severity : Severity
  code : DiagnosticCode
  message : String
deriving DecidableEq, Repr

namespace Diagnostic

/-- What every diagnostic names as its source. -/
def source : String := "Luau"

def ofProblem (problem : Problem) : Diagnostic :=
  ⟨problem.location, .error, .ofNat problem.code,
    problem.kind.category ++ ": " ++ problem.message⟩

def ofLint (severity : Severity) (lint : Lint) : Diagnostic :=
  ⟨lint.location, severity, .ofNat lint.code, lint.name ++ ": " ++ lint.text⟩

/-- Stands for a document whose text cannot be read. -/
def unresolved : Diagnostic :=
  ⟨⟨⟨0, 0⟩, ⟨0, 0⟩⟩, .error, .text "000", "Failed to resolve source module for this file"⟩

end Diagnostic

structure DocumentDiagnostics where
  items : List Diagnostic := []
  related : Table Uri (List Diagnostic) := {}
deriving Repr

namespace DocumentDiagnostics

/-- Files a diagnostic under a document that does not hold it yet. -/
def file (related : Table Uri (List Diagnostic)) (uri : Uri) (diagnostic : Diagnostic) :
    Table Uri (List Diagnostic) :=
  let bucket := (related.get? uri).getD []
  related.insert uri (if diagnostic ∈ bucket then bucket else bucket ++ [diagnostic])

/-- The document that the problems of a module are filed under. -/
def relatedUri? (files : Files) (ignore : IgnoreGlobs) (owner : ModuleName) : Option Uri :=
  (files.toReal? owner).bind fun path =>
    if ignore.isIgnored (files.relative path) then none else Uri.ofFilePath? path

def relate (files : Files) (ignore : IgnoreGlobs) (related : Table Uri (List Diagnostic))
    (problem : Problem) : Table Uri (List Diagnostic) :=
  match relatedUri? files ignore problem.owner with
  | some uri => file related uri (.ofProblem problem)
  | none => related

def lintItems (lints : Lints) : List Diagnostic :=
  lints.errors.map (.ofLint .error) ++ lints.warnings.map (.ofLint .warning)

/-- Splits the problems of a check by their owners. -/
def ofProblems (files : Files) (ignore : IgnoreGlobs) (includeDependents : Bool)
    (name : ModuleName) (problems : List Problem) (lints : Lints) : DocumentDiagnostics :=
  let own := problems.filter fun problem => problem.owner = name
  let others := problems.filter fun problem => problem.owner ≠ name
  { items := own.map .ofProblem ++ lintItems lints
    related := if includeDependents then others.foldl (relate files ignore) {} else {} }

/-- The diagnostics of a module after a fresh check. -/
def ofAnalysis {ε : Type} [Engine ε] (analysis : Analysis ε) (files : Files)
    (ignore : IgnoreGlobs) (includeDependents : Bool) (name : ModuleName) : DocumentDiagnostics :=
  match analysis.source? name with
  | none => { items := [.unresolved] }
  | some _ =>
    ofProblems files ignore includeDependents name (analysis.problems name)
      (Engine.lint analysis.engine name)

end DocumentDiagnostics

end LuauWorkspace
