import LuauWorkspace.Proofs.Aliases
import LuauWorkspace.Proofs.Related
import LuauWorkspace.Proofs.Texts

/-!
# Open documents over the disk

A workspace reads a file from its open document, and from the disk only if it holds none. As long
as the edits of a document mark every module with its text, the memoized results keep up with the
documents, whatever instance tree there is. Then each problem that is filed under a URI stands in
the text that the workspace reads under that URI now.
-/
namespace LuauWorkspace

open Requires (DirtyReason)
open Traversal (Reaches fair_lastFirst)

namespace Analysis

variable {analysis : Analysis LineEngine} {view edited : SourceView}

/-- Of a view only the parsed forms matter. -/
theorem Coherent.congr (coherent : analysis.Coherent view)
    (same : ∀ x, view.parsed? x = edited.parsed? x) : analysis.Coherent edited := by
  have requires : view.requires = edited.requires := by
    funext x
    simp only [SourceView.requires, same]
  refine ⟨coherent.inStep.congr fun x _ => same x, coherent.timed, fun name problems found => ?_⟩
  obtain ⟨stamp, checked, vouched⟩ := coherent.kept name problems found
  refine ⟨stamp, checked, ?_, fun unedited => ?_⟩
  · simpa only [Settled, requires] using vouched.recorded
  · exact (vouched.report (requires ▸ unedited)).congr fun x _ => same x

/-- An edit may change all modules that it marks. -/
theorem Coherent.foldl_markDirty (coherent : analysis.Coherent view) (names : List ModuleName)
    (reason : DirtyReason) (leads : view.resolve? = edited.resolve?)
    (same : ∀ x, x ∉ names → view.parsed? x = edited.parsed? x) :
    (names.foldl (fun analysis marked => analysis.markDirty marked reason) analysis).Coherent
      edited := by
  induction names generalizing analysis view with
  | nil => exact coherent.congr fun x => same x (by simp)
  | cons first rest ih =>
    -- The first module changes before the others do.
    let between : SourceView :=
      { edited with read? := fun x => if x = first then edited.read? x else view.read? x }
    have forms : Line.parse view = Line.parse edited := by
      funext name text
      simp only [Line.parse, leads]
    have changed : between.parsed? first = edited.parsed? first :=
      congrArg (Option.map _) (if_pos rfl)
    have kept : ∀ x, x ≠ first → view.parsed? x = between.parsed? x := fun x other => by
      have read : between.read? x = view.read? x := if_neg other
      have form : Line.parse between = Line.parse view := forms ▸ rfl
      rw [SourceView.parsed?, SourceView.parsed?, read, form]
    refine ih (coherent.markDirty first reason kept) rfl fun x outside => ?_
    by_cases here : x = first
    · exact here ▸ changed
    · rw [← kept x here]
      exact same x (by simp [here, outside])

end Analysis

/-! ## Where reported problems stand -/

/-- A reported problem belongs to a module that is reached and stands in its text. -/
theorem SourceView.Reports.mem_errors {view : SourceView} {name : ModuleName}
    {problems : List Problem} (report : view.Reports name problems) {problem : Problem}
    (member : problem ∈ problems) :
    Reaches view.requires name problem.owner ∧
      ∃ code, view.read? problem.owner = some code ∧
        Diagnostic.ofProblem problem ∈ Line.errors code.text := by
  obtain ⟨order, run, rfl⟩ := report
  obtain ⟨module, visited, stands⟩ := List.mem_flatMap.mp member
  cases form : view.parsed? module with
  | none => simp [SourceView.problems, form] at stands
  | some parsed =>
    obtain ⟨code, read, rfl⟩ := Option.map_eq_some_iff.mp form
    rw [SourceView.problems, form, Option.map_some, Option.getD_some] at stands
    obtain ⟨rfl, shown⟩ := Line.mem_errors_of_mem_problems stands
    exact ⟨(run.mem_iff fair_lastFirst _).mp visited, code, read, shown⟩

namespace Files

/-- A module that is no instance is required by its path. -/
theorem Rooted.exists_requiredFile {files : Files} (rooted : files.Rooted) {disk : Disk}
    {start module : ModuleName} (way : Reaches (files.view disk).requires start module)
    (other : module ≠ start) (real : module.isVirtual = false) :
    ∃ written, module = files.requiredFile written := by
  obtain same | ⟨before, -, step⟩ := way.cases_tail
  · exact absurd same other
  cases form : (files.view disk).parsed? before with
  | none => simp [SourceView.requires, form] at step
  | some parsed =>
    obtain ⟨code, -, rfl⟩ := Option.map_eq_some_iff.mp form
    rw [SourceView.requires, form, Option.map_some, Option.getD_some] at step
    exact (rooted.requires_cases disk before code.text step).resolve_left (by simp [real])

/-- What other modules require is read under the name of the file that it has. -/
theorem Rooted.source?_of_reached {files : Files} (rooted : files.Rooted) {disk : Disk}
    {start module : ModuleName} (way : Reaches (files.view disk).requires start module)
    (other : module ≠ start) {real : ModuleName} {node : Option Instances.Instance}
    (source : files.source? module = some (real, node)) {path : Path}
    (owns : files.toReal? module = some path) (absolute : path.isAbsolute = true) :
    real = .ofPath path := by
  cases there : module.isVirtual with
  | true =>
    simp only [source?, toReal?, realPathOf?, there, if_true, Option.bind_eq_some_iff,
      Option.map_eq_some_iff, Prod.mk.injEq] at source owns
    obtain ⟨found, leads, script, written, rfl, -⟩ := source
    obtain ⟨again, also, same, here, rfl⟩ := owns
    obtain rfl := Option.some.inj (leads.symm.trans also)
    rw [Option.some.inj (written.symm.trans here)]
  | false =>
    simp only [source?, toReal?, there, Bool.false_eq_true, if_false, Option.some.injEq,
      Prod.mk.injEq] at source owns
    obtain ⟨rfl, -⟩ := source
    subst owns
    -- Some text requires the module by its path, and such names are normalized.
    obtain ⟨written, rfl⟩ := rooted.exists_requiredFile way other there
    exact (ModuleName.ofPath_path absolute).symm

end Files

namespace Workspace

section

variable {workspace : Workspace LineEngine} {disk : Disk}

/-! ## Edits that are noticed -/

/-- The edits of each open document mark every module with its text. -/
def Traced {ε : Type} (workspace : Workspace ε) : Prop :=
  ∀ name module, workspace.files.documents.contains name = true → workspace.Reads name module →
    module ∈ workspace.aliases name

/-- It is enough that the open scripts lead back to their instances. -/
theorem traced_of_instances {ε : Type} {workspace : Workspace ε}
    (back : ∀ node ∈ (workspace.files.instances.map (·.nodes.toList)).getD [],
      ∀ script ∈ node.script?,
        workspace.files.documents.contains
            (.ofPath (workspace.files.root.join ⟨script⟩)) = true →
          node.virtualPath ∈ workspace.aliases (.ofPath (workspace.files.root.join ⟨script⟩))) :
    workspace.Traced := by
  intro name module held reads
  rcases (reads_iff name module).mp reads with ⟨-, rfl⟩ | ⟨there, node, script, found, written, rfl⟩
  · exact List.mem_cons_self ..
  · simp only [Files.virtualNode?, there, if_true, Option.bind_eq_some_iff] at found
    obtain ⟨tree, loaded, listed⟩ := found
    rw [← tree.findVirtual?_path module node listed]
    refine back node ?_ script written held
    simpa [loaded] using Instances.Tree.mem_of_findVirtual? listed

/-- A workspace whose memoized results keep up with its documents while those are traced. -/
structure Attentive (workspace : Workspace LineEngine) (disk : Disk) : Prop where
  regular : workspace.Regular
  coherent : workspace.Traced → workspace.analysis.Coherent (workspace.files.view disk)

theorem attentive_of_untouched (regular : workspace.Regular)
    (untouched : workspace.analysis.Untouched) : workspace.Attentive disk :=
  ⟨regular, fun _ => untouched.coherent regular.timed _⟩

theorem Attentive.refreshed (attentive : workspace.Attentive disk) (uri : Uri) :
    (workspace.refreshed disk uri).Attentive disk :=
  ⟨attentive.regular.refreshed uri, fun traced =>
    (attentive.coherent traced).ensureFresh (attentive.regular.rooted.bounded disk) _⟩

theorem Attentive.edit (attentive : workspace.Attentive disk) (name : ModuleName)
    {document : Document} (own : ModuleName.ofUri document.uri = name) (reason : DirtyReason) :
    (workspace.edit name document reason).Attentive disk := by
  refine ⟨attentive.regular.edit name own reason, fun traced => ?_⟩
  have held : (workspace.edit name document reason).files.documents.contains name = true := by
    change ((workspace.files.documents.insert name document).get? name).isSome = true
    rw [Table.get?_insert_self, Option.isSome_some]
  -- Documents are not closed, so those that were open before were traced before.
  have before : workspace.Traced := by
    intro other module had reads
    refine traced other module ?_ reads
    change (workspace.files.documents.insert name document).contains other = true
    rw [Table.contains_insert, had, Bool.or_true]
  rw [analysis_edit]
  refine (attentive.coherent before).foldl_markDirty _ reason ?_ fun module outside => ?_
  · exact Files.resolve?_congr rfl rfl
  · refine workspace.files.parsed?_insert disk name document fun node source => outside ?_
    exact traced name module held ⟨node, source⟩

/-- Documents are not closed and no manifest is loaded. -/
theorem Attentive.perform (attentive : workspace.Attentive disk) {action : Action}
    (calm : action.Calm) : (workspace.perform disk action).Attentive disk := by
  have moves := workspace.moves_perform disk action
  have regular : (workspace.perform disk action).Regular := attentive.regular.perform action
  generalize workspace.perform disk action = after at moves regular ⊢
  cases moves with
  | idle => exact attentive
  | refreshed uri => exact attentive.refreshed uri
  | edited uri document reason own =>
    exact attentive.edit _ (attentive.regular.ofUri_eq own) reason
  | closed uri => exact calm.elim
  | configured configuration => exact ⟨regular, attentive.coherent⟩
  | loaded manifest => exact calm.elim

/-! ## Answers -/

/-- What a question reports of other modules stands in the texts that are read under their URIs. -/
theorem Attentive.related_stands (attentive : workspace.Attentive disk)
    (traced : workspace.Traced) (uri : Uri) :
    ∀ bucket ∈ (workspace.diagnostics disk uri).1.related.entries, ∀ entry ∈ bucket.2,
      ∃ text, workspace.files.text? disk (.ofUri bucket.1) = some text ∧
        entry ∈ Line.errors text := by
  intro bucket present entry listed
  have rooted := attentive.regular.rooted
  rw [related_diagnostics] at present
  split at present
  · obtain ⟨problem, foreign, filed, rfl⟩ :=
      DocumentDiagnostics.sorted_foldl_relate _ _ _ bucket present entry listed
    obtain ⟨path, owns, -, named⟩ :=
      (DocumentDiagnostics.relatedUri?_eq_some_iff _ _ _ bucket.1).mp filed
    obtain ⟨reported, other⟩ := List.mem_filter.mp foreign
    -- A fresh answer reports what a check of the present texts would.
    have exact := exact_of_coherent (attentive.coherent traced) (rooted.bounded disk) uri
    obtain ⟨way, code, read, stands⟩ := exact.report.mem_errors reported
    have absolute : path.isAbsolute = true := by
      rw [← Uri.isSome_ofFilePath?, named, Option.isSome_some]
    obtain ⟨⟨real, node⟩, source, step⟩ := Option.bind_eq_some_iff.mp read
    obtain ⟨text, here, rfl⟩ := Option.map_eq_some_iff.mp step
    refine ⟨text, ?_, stands⟩
    rw [Uri.ofUri_of_ofFilePath? named,
      ← rooted.source?_of_reached way (by simpa using other) source owns absolute]
    exact here
  · simp at present

end

end Workspace

end LuauWorkspace
