import LuauWorkspace.Proofs.Actions
import LuauWorkspace.Proofs.Coherence
import LuauWorkspace.Proofs.Files

/-!
# Freshness

Two workspaces with the same files and settings give the same diagnostics as long as both are
coherent, whatever they checked before. A workspace that never checked anything is coherent. One
without an instance tree stays coherent when documents are opened and changed, when it is
configured and when it is asked, so its history never shows in its diagnostics.
-/
namespace LuauWorkspace

namespace Analysis

/-- Nothing is known of any module so far. -/
structure Untouched (analysis : Analysis LineEngine) : Prop where
  results : ∀ name, analysis.results.get? name = none
  parsed : ∀ name, analysis.engine.parsed.get? name = none

variable {analysis : Analysis LineEngine}

theorem untouched_new : Untouched { engine := {} } :=
  ⟨fun _ => rfl, fun _ => rfl⟩

theorem Untouched.markDirty (untouched : analysis.Untouched) (name : ModuleName)
    (reason : Requires.DirtyReason) : (analysis.markDirty name reason).Untouched := by
  refine ⟨fun other => ?_, untouched.parsed⟩
  rw [Analysis.markDirty, get?_foldl_erase, untouched.results]
  exact ite_self none

theorem Untouched.coherent (untouched : analysis.Untouched) (timed : analysis.dirty.Timed)
    (view : SourceView) : analysis.Coherent view := by
  refine ⟨fun name clean => ?_, timed, fun name problems found => ?_⟩
  · rw [LineEngine.isDirty_eq_false_iff, untouched.parsed] at clean
    simp at clean
  · simp [untouched.results] at found

end Analysis

namespace Workspace

section

variable {workspace : Workspace LineEngine} {disk : Disk}

/-! ## Equal diagnostics -/

theorem diagnostics_eq (workspace : Workspace LineEngine) (disk : Disk) (uri : Uri) :
    (workspace.diagnostics disk uri).1 =
      match (workspace.refreshed disk uri).analysis.source? (workspace.analysisName uri) with
      | none => { items := [.unresolved] }
      | some _ =>
        .ofProblems workspace.files workspace.ignore workspace.configuration.includeDependents
          (workspace.analysisName uri)
          ((workspace.refreshed disk uri).analysis.problems (workspace.analysisName uri)) {} := rfl

/-- A question about a document is answered as a check from scratch would answer it. -/
structure Exact (workspace : Workspace LineEngine) (disk : Disk) (uri : Uri) : Prop where
  source : (workspace.refreshed disk uri).analysis.source? (workspace.analysisName uri) =
    ((workspace.files.view disk).parsed? (workspace.analysisName uri)).map (·.source)
  report : (workspace.files.view disk).Reports (workspace.analysisName uri)
    ((workspace.refreshed disk uri).analysis.problems (workspace.analysisName uri))

theorem exact_of_coherent (coherent : workspace.analysis.Coherent (workspace.files.view disk))
    (bounded : (workspace.files.view disk).Bounded) (uri : Uri) : workspace.Exact disk uri :=
  ⟨coherent.source?_ensureFresh bounded _, coherent.report_ensureFresh bounded _⟩

/-- Workspaces that have the same files and settings, whatever they checked so far. -/
structure Alike (workspace other : Workspace LineEngine) : Prop where
  roots : workspace.files.root = other.files.root
  trees : workspace.files.instances = other.files.instances
  texts : ∀ name, workspace.files.documents.get? name = other.files.documents.get? name
  settings : workspace.configuration = other.configuration
  globs : workspace.ignore = other.ignore

variable {other : Workspace LineEngine}

theorem Alike.analysisName (alike : workspace.Alike other) (uri : Uri) :
    workspace.analysisName uri = other.analysisName uri := by
  simp only [Workspace.analysisName, Files.toVirtual?_congr alike.roots alike.trees]

theorem Alike.parsed? (alike : workspace.Alike other) (disk : Disk) (name : ModuleName) :
    (workspace.files.view disk).parsed? name = (other.files.view disk).parsed? name :=
  Files.parsed?_congr alike.roots alike.trees disk
    (congrFun (Files.read?_congr alike.roots alike.trees disk alike.texts) name)

theorem Alike.requires (alike : workspace.Alike other) (disk : Disk) :
    (workspace.files.view disk).requires = (other.files.view disk).requires := by
  funext name
  rw [SourceView.requires, alike.parsed?, SourceView.requires]

/-- Exact diagnostics depend on the files and the settings alone. -/
theorem Alike.diagnostics (alike : workspace.Alike other) {uri : Uri}
    (exact : workspace.Exact disk uri) (other_exact : other.Exact disk uri) :
    (workspace.diagnostics disk uri).1 = (other.diagnostics disk uri).1 := by
  have names := alike.analysisName uri
  have sources : (workspace.refreshed disk uri).analysis.source? (workspace.analysisName uri) =
      (other.refreshed disk uri).analysis.source? (workspace.analysisName uri) := by
    rw [exact.source, alike.parsed?, names, other_exact.source]
  -- Both report what a check from scratch reports, and there is only one such report.
  have problems : (workspace.refreshed disk uri).analysis.problems (workspace.analysisName uri) =
      (other.refreshed disk uri).analysis.problems (workspace.analysisName uri) := by
    have report := exact.report.congr fun name _ => alike.parsed? disk name
    rw [names] at report ⊢
    exact report.unique other_exact.report
  rw [diagnostics_eq, diagnostics_eq, ← names, sources, problems, alike.settings, alike.globs,
    Files.ofProblems_congr alike.roots alike.trees]

/-! ## Runs without an instance tree -/

/-- Documents are neither closed nor is a manifest loaded. -/
def Action.Calm : Action → Prop
  | .closing _ | .loading _ => False
  | _ => True

/-- A workspace that has no instance tree and whose memoized results are in order. -/
structure Calm (workspace : Workspace LineEngine) (disk : Disk) : Prop where
  bare : workspace.files.instances = none
  coherent : workspace.analysis.Coherent (workspace.files.view disk)

theorem Calm.bounded (calm : workspace.Calm disk) : (workspace.files.view disk).Bounded :=
  (Files.rooted_of_bare calm.bare).bounded disk

/-- Without a tree a file has no second name, so an edit marks the edited module alone. -/
theorem aliases_of_bare (bare : workspace.files.instances = none) (name : ModuleName) :
    workspace.aliases name = [name] := by
  rw [aliases, Files.toVirtual?_of_bare bare]
  split <;> simp [Option.filter]

theorem Calm.edit (calm : workspace.Calm disk) (name : ModuleName) (document : Document)
    (reason : Requires.DirtyReason) : (workspace.edit name document reason).Calm disk := by
  refine ⟨calm.bare, ?_⟩
  rw [analysis_edit, aliases_of_bare calm.bare]
  exact calm.coherent.markDirty name reason fun other differs =>
    Files.parsed?_insert_of_bare calm.bare disk name document differs

theorem Calm.perform (calm : workspace.Calm disk) {action : Action} (quiet : action.Calm) :
    (workspace.perform disk action).Calm disk := by
  have moves := workspace.moves_perform disk action
  generalize workspace.perform disk action = after at moves ⊢
  cases moves with
  | idle => exact calm
  | refreshed uri => exact ⟨calm.bare, calm.coherent.ensureFresh calm.bounded _⟩
  | edited uri document reason own => exact calm.edit _ document reason
  | closed uri => exact quiet.elim
  | configured configuration => exact ⟨calm.bare, calm.coherent⟩
  | loaded manifest => exact quiet.elim

theorem Calm.run (calm : workspace.Calm disk) {steps : List (Disk × Action)}
    (quiet : ∀ step ∈ steps, step.1 = disk ∧ step.2.Calm) : (workspace.run steps).Calm disk := by
  refine run_induction (Calm · disk) (fun step member after calm => ?_) calm
  obtain ⟨rfl, still⟩ := quiet step member
  exact calm.perform still

theorem calm_create (origin : Origin) (documentation : Documentation) (disk : Disk) :
    (origin.create ({} : LineEngine) documentation).Calm disk := by
  cases origin <;> exact ⟨rfl, Analysis.coherent_new _⟩

/-! ## The same documents opened anew -/

theorem untouched_create (origin : Origin) (documentation : Documentation) :
    (origin.create ({} : LineEngine) documentation).analysis.Untouched := by
  cases origin <;> exact Analysis.untouched_new

theorem untouched_reopen (untouched : workspace.analysis.Untouched) (documents : List Document) :
    (workspace.reopen documents).analysis.Untouched := by
  refine reopen_induction (fun after => after.analysis.Untouched) ?_ untouched
  exact fun _ before _ => analysis_edit_induction Analysis.Untouched
    (fun _ untouched name => untouched.markDirty name .opened) before

/-- What opening documents leaves as it is. -/
theorem settings_reopen (workspace : Workspace LineEngine) (documents : List Document) :
    (workspace.reopen documents).files.root = workspace.files.root ∧
      (workspace.reopen documents).files.instances = workspace.files.instances ∧
      (workspace.reopen documents).configuration = workspace.configuration ∧
      (workspace.reopen documents).ignore = workspace.ignore := by
  refine reopen_induction (fun after => after.files.root = workspace.files.root ∧
    after.files.instances = workspace.files.instances ∧
    after.configuration = workspace.configuration ∧ after.ignore = workspace.ignore) ?_
    ⟨rfl, rfl, rfl, rfl⟩
  exact fun _ same _ => same

theorem regular_reopen (regular : workspace.Regular) (documents : List Document) :
    (workspace.reopen documents).Regular :=
  reopen_induction Regular (fun _ regular _ => regular.edit _ rfl .opened) regular

/-- A workspace that knows nothing yet has nothing to be wrong about. -/
theorem coherent_reopen (regular : workspace.Regular) (untouched : workspace.analysis.Untouched)
    (documents : List Document) (disk : Disk) :
    (workspace.reopen documents).analysis.Coherent
      ((workspace.reopen documents).files.view disk) :=
  (untouched_reopen untouched documents).coherent (regular_reopen regular documents).timed _

/-- The documents of a workspace, opened in one that has none. -/
theorem alike_reopen {bare : Workspace LineEngine} (regular : workspace.Regular)
    (bare_regular : bare.Regular) (empty : bare.files.documents = {})
    (roots : workspace.files.root = bare.files.root)
    (trees : workspace.files.instances = bare.files.instances)
    (same_settings : workspace.configuration = bare.configuration) {documents : List Document}
    (opened : documents.Perm workspace.files.documents.all) :
    workspace.Alike (bare.reopen documents) := by
  obtain ⟨root, tree, settings, globs⟩ := bare.settings_reopen documents
  refine ⟨roots.trans root.symm, trees.trans tree.symm, fun name => ?_,
    same_settings.trans settings.symm, ?_⟩
  · exact (get?_reopen_of_perm regular.filed empty opened name).symm
  · rw [globs, regular.compiled, bare_regular.compiled, same_settings]

/-- Without an instance tree the diagnostics after a run of openings, changes, configurations and
questions are those of a new workspace with the same settings and the same open documents. -/
theorem diagnostics_run_eq_reopened (origin : Origin) (documentation : Documentation)
    (disk : Disk) (steps : List (Disk × Action))
    (quiet : ∀ step ∈ steps, step.1 = disk ∧ step.2.Calm) (documents : List Document)
    (opened : documents.Perm
      ((origin.create ({} : LineEngine) documentation).run steps).files.documents.all)
    (uri : Uri) :
    let created := origin.create ({} : LineEngine) documentation
    let workspace := created.run steps
    (workspace.diagnostics disk uri).1 =
      (((created.configure workspace.configuration).reopen documents).diagnostics disk uri).1 := by
  intro created workspace
  have regular : workspace.Regular := (regular_create origin _ documentation).run steps
  have calm : workspace.Calm disk := (calm_create origin documentation disk).run quiet
  let bare := created.configure workspace.configuration
  have bare_regular : bare.Regular :=
    { regular_create origin _ documentation with compiled := rfl }
  have empty : bare.files.documents = {} ∧ bare.files.instances = none := by
    cases origin <;> exact ⟨rfl, rfl⟩
  -- The history of the run shows in `workspace` only, through its memoized results.
  have untouched : bare.analysis.Untouched := untouched_create origin documentation
  have alike : workspace.Alike (bare.reopen documents) :=
    alike_reopen regular bare_regular empty.1 (root_run steps) (calm.bare.trans empty.2.symm) rfl
      opened
  have exact : workspace.Exact disk uri := exact_of_coherent calm.coherent calm.bounded uri
  have anew_exact : (bare.reopen documents).Exact disk uri :=
    exact_of_coherent (coherent_reopen bare_regular untouched documents disk)
      ((regular_reopen bare_regular documents).rooted.bounded disk) uri
  exact alike.diagnostics exact anew_exact

end

namespace Place

/-- A file of a small place. -/
def file (name : String) : Uri :=
  { scheme := "file", authority := some {}, path := "/place/" ++ name }

def disk : Disk :=
  ⟨⟨[(["place"], .directory), (["place", "util.luau"], .text "-- error: on disk\n")]⟩⟩

def main : Document :=
  ⟨file "main.luau", "luau", 1, "local Util = require(\"util.luau\")\n"⟩

/-- A module is checked, then what it requires is opened, refused an update and changed. -/
def steps : List (Disk × Action) :=
  [ .opening main.uri main.language main.version main.text,
    .asking main.uri .diagnostics,
    .opening (file "util.luau") "luau" 1 "-- error: opened\n",
    .asking main.uri .links,
    .updating (file "util.luau") ⟨1, [⟨none, "-- error: refused\n"⟩]⟩,
    .updating (file "util.luau") ⟨2, [⟨none, "-- error: changed\n"⟩]⟩ ].map (disk, ·)

def documents : List Document := [main, ⟨file "util.luau", "luau", 2, "-- error: changed\n"⟩]

/-- The messages about the modules behind a document. -/
def messages (diagnostics : DocumentDiagnostics) : List (List String) :=
  diagnostics.related.entries.map fun bucket => bucket.2.map (·.message)

end Place

theorem diagnostics_run_eq_reopened_place :
    let created := Origin.create (.folder "place" (Place.file "")) ({} : LineEngine) {}
    let workspace := created.run Place.steps
    (∀ step ∈ Place.steps, step.1 = Place.disk ∧ step.2.Calm) ∧
      Place.documents.Perm workspace.files.documents.all ∧
      (workspace.diagnostics Place.disk Place.main.uri).1 =
        (((created.configure workspace.configuration).reopen Place.documents).diagnostics
          Place.disk Place.main.uri).1 ∧
      Place.messages (workspace.diagnostics Place.disk Place.main.uri).1 =
        [["TypeError: changed"]] := by
  have quiet : ∀ step ∈ Place.steps, step.1 = Place.disk ∧ step.2.Calm := by
    simp [Place.steps, Action.Calm]
  have opened : Place.documents.Perm ((Origin.create (.folder "place" (Place.file ""))
      ({} : LineEngine) {}).run Place.steps).files.documents.all := by
    decide +kernel
  exact ⟨quiet, opened, diagnostics_run_eq_reopened _ _ _ _ quiet _ opened _, by decide +kernel⟩

end Workspace

end LuauWorkspace
