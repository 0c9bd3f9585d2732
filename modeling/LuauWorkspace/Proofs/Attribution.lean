import LuauWorkspace.Proofs.Buffers
import LuauWorkspace.Proofs.Relative
import Mathlib.Data.List.Induction

/-!
# A file seen by its dependents

A check visits each module once, so the problems that it reports of a module are those that the
text of the module says, in their order, whatever module was asked about. Without an instance
tree each required file has one name and one URI. So a document shows a file that it depends on as the
file shows itself, except that it shows repeated problems once.
-/
namespace LuauWorkspace

open Traversal (Reaches Visits fair_lastFirst)

namespace Traversal.Visits

theorem nodup {α : Type} {s : α → List α} {arrange : List α → List α → List α}
    {pending visited order : List α} (run : Visits s arrange pending visited order)
    (once : visited.Nodup) : order.Nodup := by
  induction run with
  | done visited => exact List.nodup_reverse.mpr once
  | again _ _ ih => exact ih once
  | first new _ ih => exact ih (List.nodup_cons.mpr ⟨new, once⟩)

end Traversal.Visits

/-! ## Problems by their owners -/

namespace Problem

variable {said : ModuleName → List Problem}
  (own : ∀ module, ∀ problem ∈ said module, problem.owner = module) {name : ModuleName}

include own

theorem filter_owner (other : ModuleName) :
    (said other).filter (fun problem => problem.owner = name) =
      if other = name then said name else [] := by
  split
  next same =>
    subst same
    exact List.filter_eq_self.mpr fun problem member => by simp [own _ _ member]
  next differs =>
    refine List.filter_eq_nil_iff.mpr fun problem member => ?_
    simpa [own _ _ member] using differs

/-- A module that is visited once has its problems reported once. -/
theorem filter_owner_flatMap {order : List ModuleName} (once : order.Nodup) (member : name ∈ order) :
    (order.flatMap said).filter (fun problem => problem.owner = name) = said name := by
  induction order with
  | nil => simp at member
  | cons first rest ih =>
    obtain ⟨fresh, others⟩ := List.nodup_cons.mp once
    rw [List.flatMap_cons, List.filter_append, filter_owner own]
    split
    next same =>
      have nothing : (rest.flatMap said).filter (fun problem => problem.owner = name) = [] := by
        rw [List.filter_flatMap, List.flatMap_eq_nil_iff]
        intro other later
        rw [filter_owner own, if_neg fun here : other = name => fresh (same ▸ here ▸ later)]
      rw [nothing, List.append_nil]
    next differs =>
      rw [ih others ((List.mem_cons.mp member).resolve_left (Ne.symm differs)), List.nil_append]

end Problem

namespace SourceView

variable {view : SourceView} {name : ModuleName}

theorem owner_of_mem_problems {problem : Problem} (member : problem ∈ view.problems name) :
    problem.owner = name := by
  cases form : view.parsed? name with
  | none => simp [problems, form] at member
  | some parsed =>
    obtain ⟨code, -, rfl⟩ := Option.map_eq_some_iff.mp form
    rw [problems, form] at member
    exact (Line.mem_errors_of_mem_problems member).1

theorem map_ofProblem_problems {code : SourceCode} (read : view.read? name = some code) :
    (view.problems name).map .ofProblem = Line.errors code.text := by
  rw [problems, parsed?, read]
  exact Line.map_ofProblem_problems view name code.text

theorem Reports.filter_owner {start : ModuleName} {problems : List Problem}
    (report : view.Reports start problems) (way : Reaches view.requires start name) :
    problems.filter (fun problem => problem.owner = name) = view.problems name := by
  obtain ⟨order, run, rfl⟩ := report
  exact Problem.filter_owner_flatMap (fun _ _ => owner_of_mem_problems) (run.nodup List.nodup_nil)
    ((run.mem_iff fair_lastFirst name).mpr way)

/-- Only what can be read requires anything. -/
theorem isSome_parsed?_of_reached {start : ModuleName} (way : Reaches view.requires start name)
    (other : name ≠ start) : (view.parsed? start).isSome := by
  obtain same | ⟨next, step, -⟩ := way.cases_head
  · exact absurd same.symm other
  · cases form : view.parsed? start with
    | none => simp [requires, form] at step
    | some parsed => rfl

end SourceView

/-! ## Buckets -/

namespace DocumentDiagnostics

/-- How a dependent shows the items of a file. -/
def bucket? (items : List Diagnostic) : Option (List Diagnostic) :=
  if items = [] then none else some items.eraseDups

theorem bucket?_concat (items : List Diagnostic) (item : Diagnostic) :
    bucket? (items ++ [item]) =
      some (if item ∈ (bucket? items).getD [] then (bucket? items).getD []
        else (bucket? items).getD [] ++ [item]) := by
  have held : (bucket? items).getD [] = items.eraseDups := by
    unfold bucket?
    split
    next none => simp [none]
    · rfl
  rw [held, bucket?, if_neg (by simp), List.eraseDups_append]
  by_cases old : item ∈ items
  · simp [old, List.removeAll]
  · simp [old, List.removeAll, List.eraseDups_cons]

/-- What is filed under a URI, each problem once and in the order of the report. -/
theorem get?_foldl_relate (files : Files) (ignore : IgnoreGlobs) (problems : List Problem)
    (key : Uri) :
    (problems.foldl (relate files ignore) {}).get? key =
      bucket? ((problems.filter fun problem =>
        relatedUri? files ignore problem.owner = some key).map .ofProblem) := by
  -- From the end: the last problem is filed behind those before it.
  induction problems using List.reverseRecOn with
  | nil => rfl
  | append_singleton front last ih =>
    rw [List.foldl_concat, List.filter_append, List.map_append, relate]
    cases filed : relatedUri? files ignore last.owner with
    | none => simp [ih, filed]
    | some uri =>
      by_cases same : key = uri
      · subst same
        simp only [file, Table.get?_insert_self, ih]
        simp [filed, bucket?_concat]
      · have differs : uri ≠ key := Ne.symm same
        simp [file, Table.get?_insert, same, ih, filed, differs]

end DocumentDiagnostics

namespace Files

variable {files : Files} {disk : Disk} {start name : ModuleName}

/-- Required files are named by normalized absolute paths. -/
theorem path_of_reached (bare : files.instances = none) (base : files.root.isAbsolute = true)
    (way : Reaches (files.view disk).requires start name) (other : name ≠ start)
    (real : name.isVirtual = false) :
    name.path.isAbsolute = true ∧ ModuleName.ofPath name.path = name := by
  obtain ⟨path, rfl⟩ : ∃ path, name = ModuleName.ofPath (files.root.join path) := by
    obtain ⟨written, required⟩ := (rooted_of_bare bare).exists_requiredFile way other real
    exact ⟨_, required⟩
  have absolute := ModuleName.isAbsolute_ofPath (Path.isAbsolute_join base path)
  exact ⟨absolute, ModuleName.ofPath_path absolute⟩

/-- Of all modules behind a document only a file itself is filed under its URI. -/
theorem relatedUri?_eq_some_iff_of_reached (bare : files.instances = none)
    (base : files.root.isAbsolute = true) {ignore : IgnoreGlobs} {key : Uri}
    (normal : ModuleName.ofPath name.path = name) (real : name.isVirtual = false)
    (shown : ignore.isIgnored (files.relative name.path) = false)
    (named : Uri.ofFilePath? name.path = some key) {owner : ModuleName}
    (way : Reaches (files.view disk).requires start owner) (other : owner ≠ start) :
    DocumentDiagnostics.relatedUri? files ignore owner = some key ↔ owner = name := by
  rw [DocumentDiagnostics.relatedUri?_eq_some_iff]
  constructor
  · rintro ⟨path, owns, -, found⟩
    rw [toReal?_of_bare bare] at owns
    split at owns
    · simp at owns
    next level =>
      obtain rfl := Option.some.inj owns
      have own := (path_of_reached bare base way other (Bool.eq_false_iff.mpr level)).2
      rw [← own, ← Uri.ofUri_of_ofFilePath? found, Uri.ofUri_of_ofFilePath? named, normal]
  · rintro rfl
    exact ⟨owner.path, files.toReal?_of_not_virtual owner real, shown, named⟩

end Files

namespace Workspace

section

variable {workspace : Workspace LineEngine} {disk : Disk} {uri other : Uri} {name : ModuleName}

/-- The items of a document are the errors of its text. -/
theorem Calm.items (calm : workspace.Calm disk) {code : SourceCode}
    (read : workspace.files.read? disk (ModuleName.ofUri uri) = some code) :
    (workspace.diagnostics disk uri).1.items = Line.errors code.text := by
  obtain ⟨source, report⟩ := exact_of_coherent calm.coherent calm.bounded uri
  have names : workspace.analysisName uri = ModuleName.ofUri uri := analysisName_of_bare calm.bare
  rw [names] at source report
  have form : (workspace.files.view disk).parsed? (ModuleName.ofUri uri) =
      some (Line.parse (workspace.files.view disk) (ModuleName.ofUri uri) code.text) :=
    congrArg (Option.map _) read
  have said : ((workspace.files.view disk).problems (ModuleName.ofUri uri)).map .ofProblem =
      Line.errors code.text := SourceView.map_ofProblem_problems read
  rw [form] at source
  rw [diagnostics_eq, names, source]
  simp [DocumentDiagnostics.ofProblems, DocumentDiagnostics.lintItems, report.filter_owner .refl,
    said]

/-- A file behind a document is shown with the errors of its text. -/
theorem Calm.related (calm : workspace.Calm disk) (base : workspace.files.root.isAbsolute = true)
    (included : workspace.configuration.includeDependents = true)
    (way : Reaches (workspace.files.view disk).requires (ModuleName.ofUri uri) name)
    (other : name ≠ ModuleName.ofUri uri) (real : name.isVirtual = false) {code : SourceCode}
    (read : workspace.files.read? disk name = some code)
    (shown : workspace.ignore.isIgnored (workspace.files.relative name.path) = false) {key : Uri}
    (named : Uri.ofFilePath? name.path = some key) :
    (workspace.diagnostics disk uri).1.related.get? key =
      DocumentDiagnostics.bucket? (Line.errors code.text) := by
  obtain ⟨source, report⟩ := exact_of_coherent calm.coherent calm.bounded uri
  have names : workspace.analysisName uri = ModuleName.ofUri uri := analysisName_of_bare calm.bare
  have normal := (Files.path_of_reached calm.bare base way other real).2
  have parsed : ((workspace.refreshed disk uri).analysis.source?
      (workspace.analysisName uri)).isSome := by
    rw [source, Option.isSome_map, names]
    exact SourceView.isSome_parsed?_of_reached way other
  rw [related_diagnostics, if_pos ⟨included, parsed⟩, DocumentDiagnostics.get?_foldl_relate,
    foreign, List.filter_filter]
  rw [names] at report ⊢
  have owned : ∀ problem ∈ (workspace.refreshed disk uri).analysis.problems (ModuleName.ofUri uri),
      (decide (DocumentDiagnostics.relatedUri? workspace.files workspace.ignore problem.owner =
          some key) && decide (problem.owner ≠ ModuleName.ofUri uri)) =
        decide (problem.owner = name) := by
    intro problem member
    by_cases own : problem.owner = ModuleName.ofUri uri
    · simp [own, Ne.symm other]
    · have filed := Files.relatedUri?_eq_some_iff_of_reached calm.bare base normal real shown named
        (report.mem_errors member).1 own
      simp [own, filed]
  rw [List.filter_congr owned, report.filter_owner way, SourceView.map_ofProblem_problems read]

/-- A document shows each file behind it as the file shows itself, by the errors of its text,
whichever of the two is asked about first. -/
theorem related_eq_items (origin : Origin) (documentation : Documentation) (disk : Disk)
    (steps : List (Disk × Action)) (quiet : ∀ step ∈ steps, step.1 = disk ∧ step.2.Calm)
    (uri : Uri) (name : ModuleName) (code : SourceCode) :
    let workspace := (origin.create ({} : LineEngine) documentation).run steps
    workspace.files.root.isAbsolute = true →
      workspace.configuration.includeDependents = true →
      Reaches (workspace.files.view disk).requires (ModuleName.ofUri uri) name →
      name ≠ ModuleName.ofUri uri → workspace.files.read? disk name = some code →
      workspace.isIgnoredModule name = false →
      ∃ key, Uri.ofFilePath? name.path = some key ∧ ModuleName.ofUri key = name ∧
        ∀ own, ModuleName.ofUri own = name →
          (workspace.diagnostics disk own).1.items = Line.errors code.text ∧
            (workspace.diagnostics disk uri).1.related.get? key =
              DocumentDiagnostics.bucket?
                ((workspace.diagnostics disk uri).2.diagnostics disk own).1.items ∧
            ((workspace.diagnostics disk own).2.diagnostics disk uri).1.related.get? key =
              DocumentDiagnostics.bucket? (workspace.diagnostics disk own).1.items := by
  intro workspace base included way other read shown
  have calm : workspace.Calm disk := (calm_create origin documentation disk).run quiet
  have later : ∀ uri, (workspace.diagnostics disk uri).2.Calm disk := fun uri =>
    ⟨calm.bare, calm.coherent.ensureFresh calm.bounded _⟩
  have real : name.isVirtual = false := by
    cases there : name.isVirtual with
    | false => rfl
    | true => simp [Files.read?, Files.source?_of_bare calm.bare, there] at read
  rw [isIgnoredModule, Files.toReal?_of_not_virtual _ _ real] at shown
  obtain ⟨absolute, normal⟩ := Files.path_of_reached calm.bare base way other real
  obtain ⟨key, named⟩ := Option.isSome_iff_exists.mp ((Uri.isSome_ofFilePath? _).trans absolute)
  refine ⟨key, named, (Uri.ofUri_of_ofFilePath? named).trans normal, ?_⟩
  rintro own rfl
  -- Asking changes what is memoized, but neither the files nor the settings.
  have filed := calm.related base included way other real read shown named
  have filed_after := (later own).related base included way other real read shown named
  have items := calm.items read
  have items_after := (later uri).items read
  exact ⟨items, filed.trans (congrArg _ items_after.symm), filed_after.trans (congrArg _ items.symm)⟩

end

theorem related_eq_items_place :
    let workspace := (Origin.create (.folder "place" (Place.file "")) ({} : LineEngine) {}).run
      Place.steps
    let asked := (workspace.diagnostics Place.disk Place.main.uri).2
    (workspace.diagnostics Place.disk Place.main.uri).1.related.get? (Place.file "util.luau") =
        DocumentDiagnostics.bucket?
          (asked.diagnostics Place.disk (Place.file "util.luau")).1.items ∧
      (workspace.diagnostics Place.disk (Place.file "util.luau")).1.items.map (·.message) =
        ["TypeError: changed"] := by
  have quiet : ∀ step ∈ Place.steps, step.1 = Place.disk ∧ step.2.Calm := by
    simp [Place.steps, Action.Calm]
  intro workspace asked
  let util : SourceCode := ⟨"-- error: changed\n", .module⟩
  have placed : workspace.files.root.isAbsolute = true ∧
      workspace.configuration.includeDependents = true ∧
      (⟨"/place/util.luau"⟩ : ModuleName) ∈
        (workspace.files.view Place.disk).requires (ModuleName.ofUri Place.main.uri) ∧
      workspace.files.read? Place.disk ⟨"/place/util.luau"⟩ = some util ∧
      workspace.isIgnoredModule ⟨"/place/util.luau"⟩ = false := by
    decide +kernel
  obtain ⟨base, included, step, read, shown⟩ := placed
  obtain ⟨key, named, -, shows⟩ := related_eq_items (.folder "place" (Place.file "")) {}
    Place.disk Place.steps quiet Place.main.uri ⟨"/place/util.luau"⟩ util base included
    (.single step) (by decide +kernel) read shown
  obtain rfl : Place.file "util.luau" = key := by
    have computed : Uri.ofFilePath? ⟨"/place/util.luau"⟩ = some (Place.file "util.luau") := by
      decide +kernel
    exact Option.some.inj (computed.symm.trans named)
  obtain ⟨items, filed, -⟩ := shows (Place.file "util.luau") (by decide +kernel)
  refine ⟨filed, ?_⟩
  rw [items]
  decide +kernel

end Workspace

end LuauWorkspace
