import LuauWorkspace.Diagnostics

/-!
# Reports

A batch run reports a problem or a lint as one line of text. Lines and columns are shown from one
on; the last column of a range is inclusive, so it is shown as the exclusive end counted from
zero.
-/
namespace LuauWorkspace.Batch

structure Report where
  /-- The file as seen from the root of the run. -/
  path : String
  location : Location
  category : String
  message : String
  severity : Severity
deriving DecidableEq, Repr

inductive Format where
  /-- As compilers print it: `path(line,column): category: message`. -/
  | standard
  /-- One line and a range of columns, for readers of linter output. -/
  | plain
  /-- Both ends of the range in the style of GNU tools. -/
  | gnu
deriving DecidableEq, Repr, Inhabited

namespace Format

/-- The end of a range that goes on behind its first line. -/
def lastColumn : Nat := 100

def place (format : Format) (path : String) (l : Location) : String :=
  let line := toString (l.start.line + 1)
  let column := toString (l.start.column + 1)
  match format with
  | standard => path ++ "(" ++ line ++ "," ++ column ++ "): "
  | plain =>
    let last := if l.start.line = l.stop.line then l.stop.column else lastColumn
    path ++ ":" ++ line ++ ":" ++ column ++ "-" ++ toString last ++ ": (W0) "
  | gnu =>
    path ++ ":" ++ line ++ "." ++ column ++ "-" ++ toString (l.stop.line + 1) ++ "."
      ++ toString l.stop.column ++ ": "

end Format

namespace Report

def render (report : Report) (format : Format) : String :=
  format.place report.path report.location ++ report.category ++ ": " ++ report.message

/-- Stands for a file that cannot be read. -/
def unreadable (path : String) : Report :=
  ⟨path, ⟨⟨0, 0⟩, ⟨0, 0⟩⟩, "Error", "Failed to read source", .error⟩

def ofProblem (path : String) (problem : Problem) : Report :=
  ⟨path, problem.location, problem.kind.category, problem.message, .error⟩

def ofLint (path : String) (severity : Severity) (lint : Lint) : Report :=
  ⟨path, lint.location, lint.name, lint.text, severity⟩

def ofLints (path : String) (lints : Lints) : List Report :=
  lints.errors.map (ofLint path .error) ++ lints.warnings.map (ofLint path .warning)

theorem mem_ofLints (path : String) (lints : Lints) (report : Report) :
    report ∈ ofLints path lints ↔
      (∃ lint ∈ lints.errors, ofLint path .error lint = report) ∨
        ∃ lint ∈ lints.warnings, ofLint path .warning lint = report := by
  simp [ofLints]

end Report

end LuauWorkspace.Batch
