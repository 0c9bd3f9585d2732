import LuauWorkspace.Proofs.Freshness

/-!
# Loading a manifest

A load makes every module stale and has the engine read again those that were ever opened, edited
or asked about. Modules that were only required by others are not among them: their parsed forms
stay, and later checks use them as they are. So the diagnostics after a load are those of a new
workspace exactly as far as the forms that stayed are right under the new instance tree.
-/
namespace LuauWorkspace

open Traversal (Reaches)

namespace Requires.DirtySet

variable (set : DirtySet)

theorem isStale_invalidateAll (name : ModuleName) (graph : Graph) :
    set.invalidateAll.isStale name graph = true := by
  refine Bool.eq_true_of_not_eq_false fun fresh => ?_
  obtain ⟨stamp, checked, clean, -⟩ := (isStale_eq_false_iff _ name graph).mp fresh
  rw [invalidateAll, isDirty_foldl_markDirty] at clean
  rw [invalidateAll, checkedAt?_foldl_markDirty] at checked
  -- What was checked is known, so it was marked.
  obtain ⟨state, found, -⟩ := Option.bind_eq_some_iff.mp checked
  simp [Table.mem_keys_of_get? found] at clean

end Requires.DirtySet

theorem Analysis.isFresh_invalidateAll {ε : Type} [Engine ε] (analysis : Analysis ε)
    (name : ModuleName) : analysis.invalidateAll.isFresh name = false := by
  change (_ && !(analysis.dirty.invalidateAll.isStale name _ || _)) = false
  rw [Requires.DirtySet.isStale_invalidateAll, Bool.true_or, Bool.not_true, Bool.and_false]

namespace LineEngine

theorem foldl_markDirty (names : List ModuleName) (engine : LineEngine) (name : ModuleName) :
    (names.foldl Engine.markDirty engine).parsed = engine.parsed ∧
      (names.foldl Engine.markDirty engine).isDirty name =
        (decide (name ∈ names) || engine.isDirty name) := by
  induction names generalizing engine with
  | nil => simp
  | cons first rest ih =>
    obtain ⟨forms, marks⟩ := ih (Engine.markDirty engine first)
    refine ⟨forms, ?_⟩
    have one : (Engine.markDirty engine first).isDirty name =
        (decide (name = first) || engine.isDirty name) := by
      have member : (engine.dirty.insert first).contains name =
          (decide (name = first) || engine.dirty.contains name) := by
        rw [Bool.eq_iff_iff]
        simp
      change ((engine.dirty.insert first).contains name || _) = _
      rw [member, Bool.or_assoc]
      rfl
    rw [List.foldl_cons, marks, one]
    by_cases same : name = first <;> simp [same]

variable {engine : LineEngine} {view : SourceView} {root : ModuleName}

/-- A check leaves what it does not read again in the form that is kept. -/
theorem parsed_check_of_kept {name : ModuleName} (other : name ≠ root)
    (clean : engine.isDirty name = false) :
    (engine.check view root).2.parsed.get? name = engine.parsed.get? name := by
  rw [LineEngine.parsed_check, engine.current?_of_kept view root other clean, ite_self]

end LineEngine

namespace Workspace

section

variable {workspace : Workspace LineEngine} {disk : Disk}

/-- A module that the engine holds clean because others required it, and that was itself never
opened, edited or asked about. -/
def Unnoticed (workspace : Workspace LineEngine) (module : ModuleName) : Prop :=
  workspace.analysis.dirty.modules.get? module = none ∧
    workspace.analysis.engine.isDirty module = false

/-- After a load the engine reads all modules again but those that went unnoticed. -/
theorem isDirty_loadManifest (manifest : Path) (module : ModuleName) :
    (workspace.loadManifest disk manifest).2.analysis.engine.isDirty module = false ↔
      workspace.Unnoticed module := by
  obtain ⟨_, marks⟩ := LineEngine.foldl_markDirty workspace.analysis.dirty.modules.keys
    workspace.analysis.engine module
  change LineEngine.isDirty (workspace.analysis.dirty.modules.keys.foldl Engine.markDirty _)
    module = false ↔ _
  rw [marks, Unnoticed, Bool.or_eq_false_iff, decide_eq_false_iff_not, Table.get?_eq_none_iff]

/-- The question after a load always has the engine check. -/
theorem refreshed_of_stale {uri : Uri}
    (stale : workspace.analysis.isFresh (workspace.analysisName uri) = false) :
    (workspace.refreshed disk uri).analysis =
      workspace.analysis.refresh (workspace.files.view disk) (workspace.analysisName uri) :=
  workspace.analysis.ensureFresh_of_not_isFresh _ _ stale

theorem exact_of_current (uri : Uri)
    (stale : workspace.analysis.isFresh (workspace.analysisName uri) = false)
    (bounded : (workspace.files.view disk).Bounded)
    (right : ∀ module, Reaches (workspace.files.view disk).requires (workspace.analysisName uri)
      module → workspace.analysis.engine.current? (workspace.files.view disk)
        (workspace.analysisName uri) module = (workspace.files.view disk).parsed? module) :
    workspace.Exact disk uri ∧
      ∀ module, Reaches (workspace.files.view disk).requires (workspace.analysisName uri) module →
        (workspace.refreshed disk uri).analysis.engine.parsed.get? module =
          (workspace.files.view disk).parsed? module := by
  obtain ⟨report, forms⟩ := LineEngine.reports_check_of_current bounded right
  have checked : ∀ module, (workspace.refreshed disk uri).analysis.engine.parsed.get? module =
      (workspace.analysis.engine.check (workspace.files.view disk)
        (workspace.analysisName uri)).2.parsed.get? module := fun module => by
    rw [refreshed_of_stale stale]
    rfl
  refine ⟨⟨?_, ?_⟩, fun module way => (checked module).trans (forms module way)⟩
  · rw [Analysis.source?, LineEngine.source?_eq, checked, forms _ .refl]
  · rw [refreshed_of_stale stale]
    simpa [Analysis.problems, Analysis.refresh, LineEngine.check_eq] using report

theorem loadManifest_of_ok {manifest : Path} {tree : Instances.Tree}
    (loaded : Instances.Tree.load disk manifest = .ok tree) (workspace : Workspace LineEngine) :
    (workspace.loadManifest disk manifest).2 =
      { workspace with
        files := { workspace.files with instances := some tree }
        analysis := workspace.analysis.invalidateAll } := by
  simp [loadManifest, loaded, Except.toOption]

theorem isFresh_loadManifest (manifest : Path) (name : ModuleName) :
    (workspace.loadManifest disk manifest).2.analysis.isFresh name = false :=
  workspace.analysis.isFresh_invalidateAll name

/-- A load marks modules and keeps all forms. -/
theorem parsed_loadManifest (manifest : Path) (module : ModuleName) :
    (workspace.loadManifest disk manifest).2.analysis.engine.parsed.get? module =
      workspace.analysis.engine.parsed.get? module :=
  congrArg (Table.get? · module) (LineEngine.foldl_markDirty
    workspace.analysis.dirty.modules.keys workspace.analysis.engine module).1

theorem isFresh_of_untouched (untouched : workspace.analysis.Untouched) (name : ModuleName) :
    workspace.analysis.isFresh name = false := by
  simp [Analysis.isFresh, Table.contains, untouched.results]

theorem untouched_loadManifest (untouched : workspace.analysis.Untouched) (manifest : Path) :
    (workspace.loadManifest disk manifest).2.analysis.Untouched := by
  refine ⟨untouched.results, fun name => ?_⟩
  rw [parsed_loadManifest, untouched.parsed]

/-- The question after a load keeps the forms of what went unnoticed. -/
theorem parsed_diagnostics_loadManifest (manifest : Path) (uri : Uri) {module : ModuleName}
    (other : module ≠ (workspace.loadManifest disk manifest).2.analysisName uri)
    (unnoticed : workspace.Unnoticed module) :
    ((workspace.loadManifest disk manifest).2.diagnostics disk
      uri).2.analysis.engine.parsed.get? module = workspace.analysis.engine.parsed.get? module := by
  have clean : (workspace.loadManifest disk manifest).2.analysis.engine.isDirty module = false :=
    (isDirty_loadManifest manifest module).mpr unnoticed
  change ((workspace.loadManifest disk manifest).2.refreshed disk
    uri).analysis.engine.parsed.get? module = _
  rw [refreshed_of_stale (isFresh_loadManifest manifest _), ← parsed_loadManifest manifest]
  exact LineEngine.parsed_check_of_kept other clean

/-- The check after a load uses the right form of a module when what went unnoticed has it. -/
theorem current?_loadManifest (manifest : Path) (view : SourceView) {name module : ModuleName}
    (kept : module ≠ name → workspace.Unnoticed module →
      workspace.analysis.engine.parsed.get? module = view.parsed? module) :
    (workspace.loadManifest disk manifest).2.analysis.engine.current? view name module =
      view.parsed? module := by
  let engine := (workspace.loadManifest disk manifest).2.analysis.engine
  by_cases reads : module = name ∨ engine.isDirty module = true
  · exact engine.current?_of_read view name reads
  simp only [not_or, Bool.not_eq_true] at reads
  obtain ⟨other, clean⟩ := reads
  have unnoticed : workspace.Unnoticed module := (isDirty_loadManifest manifest module).mp clean
  rw [engine.current?_of_kept view name other clean, ← kept other unnoticed]
  exact parsed_loadManifest manifest module

/-- A workspace that knew nothing when documents were opened in it answers exactly and has every
form behind the answer. -/
theorem exact_reopen {bare : Workspace LineEngine} (regular : bare.Regular)
    (untouched : bare.analysis.Untouched) (documents : List Document) (disk : Disk) (uri : Uri) :
    (bare.reopen documents).Exact disk uri ∧
      ∀ module, Reaches ((bare.reopen documents).files.view disk).requires
          ((bare.reopen documents).analysisName uri) module →
        ((bare.reopen documents).diagnostics disk uri).2.analysis.engine.parsed.get? module =
          ((bare.reopen documents).files.view disk).parsed? module := by
  -- All modules are dirty in an engine that knows nothing, so it is in step with every view.
  have in_step := (coherent_reopen regular untouched documents disk).inStep
  have unknown := isFresh_of_untouched (untouched_reopen untouched documents)
    ((bare.reopen documents).analysisName uri)
  exact exact_of_current uri unknown ((regular_reopen regular documents).rooted.bounded disk)
    fun module _ => congrFun (in_step.current?_eq _) module

end

/-- The diagnostics after a load, and every form behind them, are those of a new workspace that
loads the same manifest exactly when each module behind the document that went unnoticed still has
the form that it was parsed to. -/
theorem diagnostics_loadManifest_iff (origin : Origin) (documentation : Documentation)
    (steps : List (Disk × Action)) (documents : List Document)
    (opened : documents.Perm
      ((origin.create ({} : LineEngine) documentation).run steps).files.documents.all)
    (disk : Disk) (manifest : Path) (uri : Uri) :
    let created := origin.create ({} : LineEngine) documentation
    let workspace := created.run steps
    let loaded := (workspace.loadManifest disk manifest).2
    let anew :=
      ((created.configure workspace.configuration).loadManifest disk manifest).2.reopen documents
    let view := loaded.files.view disk
    let name := loaded.analysisName uri
    ((loaded.diagnostics disk uri).1 = (anew.diagnostics disk uri).1 ∧
        ∀ module, Reaches view.requires name module →
          (loaded.diagnostics disk uri).2.analysis.engine.parsed.get? module =
            (anew.diagnostics disk uri).2.analysis.engine.parsed.get? module) ↔
      ∀ module, Reaches view.requires name module → module ≠ name →
        workspace.Unnoticed module →
        workspace.analysis.engine.parsed.get? module = view.parsed? module := by
  intro created workspace loaded anew view name
  have regular : workspace.Regular := (regular_create origin _ documentation).run steps
  have loaded_regular : loaded.Regular := regular.loadManifest manifest
  let configured := created.configure workspace.configuration
  let bare := (configured.loadManifest disk manifest).2
  have configured_regular : configured.Regular :=
    { regular_create origin _ documentation with compiled := rfl }
  have bare_regular : bare.Regular := configured_regular.loadManifest manifest
  have empty : bare.files.documents = {} := by cases origin <;> rfl
  have new : configured.analysis.Untouched := untouched_create origin documentation
  have untouched : bare.analysis.Untouched := untouched_loadManifest new manifest
  have alike : loaded.Alike anew :=
    alike_reopen loaded_regular bare_regular empty (root_run steps) rfl rfl opened
  obtain ⟨anew_exact, anew_forms⟩ := exact_reopen bare_regular untouched documents disk uri
  -- Both workspaces see the same modules, so the forms of the new one are those of `view`.
  have anew_form : ∀ module, Reaches view.requires name module →
      (anew.diagnostics disk uri).2.analysis.engine.parsed.get? module = view.parsed? module := by
    intro module way
    rw [alike.parsed?]
    refine anew_forms module ?_
    rwa [← alike.requires, ← alike.analysisName]
  constructor
  · rintro ⟨-, equal⟩ module way other unnoticed
    rw [← parsed_diagnostics_loadManifest manifest uri other unnoticed, equal module way,
      anew_form module way]
  · intro kept
    obtain ⟨exact, forms⟩ := exact_of_current uri (isFresh_loadManifest manifest _)
      (loaded_regular.rooted.bounded disk)
      fun module way => current?_loadManifest manifest view (kept module way)
    -- With right forms behind it the answer is exact, and exact answers agree.
    exact ⟨alike.diagnostics exact anew_exact,
      fun module way => (forms module way).trans (anew_form module way).symm⟩

namespace Moved

/-- A manifest that puts the module `U` into the first of two files, and one that puts it into
the second. -/
def one : String :=
  "\x7b\"name\":\"P\",\"className\":\"DataModel\",\"children\":[" ++
    "\x7b\"name\":\"U\",\"className\":\"\",\"filePaths\":[\"1.lua\"]\x7d]\x7d"

def two : String :=
  "\x7b\"name\":\"P\",\"className\":\"DataModel\",\"children\":[" ++
    "\x7b\"name\":\"U\",\"className\":\"\",\"filePaths\":[\"2.lua\"]\x7d]\x7d"

def disk : Disk :=
  ⟨⟨[ (["place"], .directory),
      (["place", "one.json"], .text one),
      (["place", "two.json"], .text two),
      (["place", "main.luau"], .text "local U = require(game.U)\n"),
      (["place", "1.lua"], .text "-- error: one\n"),
      (["place", "2.lua"], .text "-- error: two\n") ]⟩⟩

/-- The place with the module `U` in a file. -/
def tree (file : String) : Instances.Tree :=
  ⟨#[{ name := "P", className := "DataModel", filePaths := [], children := [1],
        virtualPath := ⟨"game"⟩ },
      { name := "U", className := "", filePaths := [file], virtualPath := ⟨"game/U"⟩ }]⟩

theorem load_one : Instances.Tree.load disk ⟨"/place/one.json"⟩ = .ok (tree "1.lua") := by
  decide +kernel

theorem load_two : Instances.Tree.load disk ⟨"/place/two.json"⟩ = .ok (tree "2.lua") := by
  decide +kernel

def created : Workspace LineEngine := (Origin.folder "place" (Place.file "")).create {} {}

/-- A script was checked under the first manifest, so `U` is known but went unnoticed. -/
def checked : Workspace LineEngine :=
  created.run
    ([.loading ⟨"/place/one.json"⟩, .asking (Place.file "main.luau") .diagnostics].map (disk, ·))

def reloaded : Workspace LineEngine := (checked.loadManifest disk ⟨"/place/two.json"⟩).2

def documents : List Document := checked.files.documents.all

/-- A new workspace that loads the second manifest alone. -/
def anew : Workspace LineEngine :=
  (((created.configure checked.configuration).loadManifest disk
    ⟨"/place/two.json"⟩).2).reopen documents

def diagnostics (workspace : Workspace LineEngine) : DocumentDiagnostics × Workspace LineEngine :=
  workspace.diagnostics disk (Place.file "main.luau")

end Moved

theorem diagnostics_loadManifest_iff_moved :
    Moved.documents.Perm Moved.checked.files.documents.all ∧
      (((Moved.diagnostics Moved.reloaded).1 = (Moved.diagnostics Moved.anew).1 ∧
          ∀ module, Reaches (Moved.reloaded.files.view Moved.disk).requires
              (Moved.reloaded.analysisName (Place.file "main.luau")) module →
            (Moved.diagnostics Moved.reloaded).2.analysis.engine.parsed.get? module =
              (Moved.diagnostics Moved.anew).2.analysis.engine.parsed.get? module) ↔
        ∀ module, Reaches (Moved.reloaded.files.view Moved.disk).requires
            (Moved.reloaded.analysisName (Place.file "main.luau")) module →
          module ≠ Moved.reloaded.analysisName (Place.file "main.luau") →
          Moved.checked.Unnoticed module →
          Moved.checked.analysis.engine.parsed.get? module =
            (Moved.reloaded.files.view Moved.disk).parsed? module) := by
  have opened : Moved.documents.Perm Moved.checked.files.documents.all := .refl _
  exact ⟨opened, diagnostics_loadManifest_iff _ _ _ _ opened _ _ _⟩

/-- A module that was only required keeps the form that it had under the manifest before. -/
theorem diagnostics_loadManifest_ne :
    Moved.documents.Perm Moved.checked.files.documents.all ∧
      (Moved.diagnostics Moved.reloaded).1 ≠ (Moved.diagnostics Moved.anew).1 := by
  refine ⟨.refl _, fun equal => ?_⟩
  have messages := congrArg Place.messages equal
  simp only [Moved.reloaded, Moved.anew, Moved.documents, Moved.checked, run, List.map_cons,
    List.map_nil, List.foldl_cons, List.foldl_nil, perform, loadManifest_of_ok Moved.load_one,
    loadManifest_of_ok Moved.load_two] at messages
  revert messages
  decide +kernel

end Workspace

end LuauWorkspace
