import LuauWorkspace.Batch.Listing
import LuauWorkspace.Batch.Report
import LuauWorkspace.Workspace

/-!
# Batch runs

A batch run analyzes files one after the other in a workspace of its own, without a client. The
problems of a file and of everything it requires are reported, then the lints of the file itself
unless it is ignored. A problem that several files reach is reported once.
-/
namespace LuauWorkspace.Batch

structure Options where
  format : Format := .standard
  /-- The manifest to load; without one there is no instance tree. -/
  manifest : Option Path := none
  definitions : List Path := []
  ignore : List String := []
  files : List Path := []
deriving DecidableEq, Repr, Inhabited

inductive Failure where
  | relative (path : Path)
  | manifest (path : Path)
deriving DecidableEq, Repr

namespace Failure

def message : Failure → String
  | relative path => path.text ++ " is not an absolute path"
  | manifest path => "Failed to load sourcemap " ++ path.text

end Failure

/-- The workspace of every batch run. -/
def workspaceName : String := "analyze"

def Options.context (options : Options) (root : Path) : EngineContext :=
  ⟨workspaceName, root, options.definitions⟩

/-- A problem as far as its repetitions are told by it. -/
abbrev Key := ModuleName × Location × String

def key (problem : Problem) : Key := (problem.owner, problem.location, problem.message)

/-- What a run has said so far. -/
structure Progress (ε : Type) where
  workspace : Workspace ε
  /-- The problems that were reported. -/
  told : List Key := []
  reports : List Report := []

namespace Progress

variable {ε : Type} [Engine ε]

def tell (progress : Progress ε) (problem : Problem) : Progress ε :=
  if key problem ∈ progress.told then progress
  else
    { progress with
      told := key problem :: progress.told
      reports := progress.reports
        ++ [.ofProblem (progress.workspace.displayPath problem.owner) problem] }

def report (progress : Progress ε) (reports : List Report) : Progress ε :=
  { progress with reports := progress.reports ++ reports }

/-- Analyzes one more file. -/
def analyze (disk : Disk) (progress : Progress ε) (path : Path) :
    Except Failure (Progress ε) :=
  match Uri.ofFilePath? path with
  | none => .error (.relative path)
  | some uri =>
    let shown := progress.workspace.displayPath (.ofPath path)
    let (found, workspace) := progress.workspace.findings disk uri
    let after := { progress with workspace }
    match found with
    | none => .ok (after.report [.unreadable shown])
    | some (problems, lints) =>
      let told := problems.foldl tell after
      if workspace.isIgnored path then .ok told
      else .ok (told.report (Report.ofLints shown lints))

end Progress

/-- The workspace of a run with an engine made for `Options.context`. -/
def Options.workspace? {ε : Type} [Engine ε] (options : Options) (disk : Disk) (root : Path)
    (engine : ε) : Except Failure (Workspace ε) :=
  match Uri.ofDirectoryPath? root with
  | none => .error (.relative root)
  | some uri =>
    let bare := Workspace.ofFolder workspaceName uri engine {}
    let configuration : Configuration := { ignoreGlobs := options.ignore }
    match options.manifest with
    | none => .ok (bare.configure configuration)
    | some manifest =>
      let path := root.join manifest
      match bare.loadManifest disk path with
      | (.error _, _) => .error (.manifest path)
      | (.ok (), loaded) => .ok (loaded.configure configuration)

/-- Everything there is to report about the files of a run. -/
def reports {ε : Type} [Engine ε] (options : Options) (disk : Disk) (root : Path) (engine : ε) :
    Except Failure (List Report) := do
  let workspace ← options.workspace? disk root engine
  let files := listing disk root options.files
  let final ← files.foldlM (Progress.analyze disk) { workspace }
  return final.reports

/-- What a run prints, and its exit status. -/
structure Outcome where
  failed : Bool
  output : String := ""
  errors : String := ""
deriving DecidableEq, Repr

namespace Outcome

def status (outcome : Outcome) : Nat := if outcome.failed then 1 else 0

def lines (reports : List Report) (format : Format) : String :=
  String.join (reports.map fun report => report.render format ++ "\n")

/-- Plain reports go to the standard output, all others to the standard error. A run fails when
an error is among them. -/
def ofReports (reports : List Report) (format : Format) : Outcome :=
  let failed := reports.any fun report => report.severity = .error
  let text := lines reports format
  match format with
  | .plain => { failed, output := text }
  | _ => { failed, errors := text }

theorem failed_ofReports_iff (reports : List Report) (format : Format) :
    (ofReports reports format).failed = true ↔ ∃ report ∈ reports, report.severity = .error := by
  cases format <;> simp [ofReports]

end Outcome

/-- Runs the files of the options below a directory. -/
def run {ε : Type} [Engine ε] (options : Options) (disk : Disk) (root : Path) (engine : ε) :
    Except Failure Outcome :=
  (reports options disk root engine).map fun found => .ofReports found options.format

end LuauWorkspace.Batch
