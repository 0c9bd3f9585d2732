import LuauWorkspace.Proofs.Documents
import LuauWorkspace.Proofs.FileUri
import LuauWorkspace.Proofs.Reload

/-!
# Where problems are filed

The problems of other modules are filed under URIs, while it is by module names that they are told
from those of the document itself. A file can own problems under its real name and under the name
of an instance, and the script of an instance that lies outside the root is filed as it is
written, with the `..` in it. So the file that was asked about comes up again exactly if it owns
problems under another name than the one that it was asked by, and another file comes up twice
exactly if two paths of different components lead to it.
-/
namespace LuauWorkspace

namespace Table

variable {κ α : Type} [DecidableEq κ]

theorem mem_keys_insert (t : Table κ α) (key other : κ) (value : α) :
    other ∈ (t.insert key value).keys ↔ other = key ∨ other ∈ t.keys := by
  rw [← not_iff_not, not_or, ← get?_eq_none_iff, ← get?_eq_none_iff, get?_insert]
  by_cases same : other = key <;> simp [same]

end Table

namespace DocumentDiagnostics

theorem keys_file (related : Table Uri (List Diagnostic)) (uri : Uri) (diagnostic : Diagnostic)
    (key : Uri) : key ∈ (file related uri diagnostic).keys ↔ key = uri ∨ key ∈ related.keys :=
  related.mem_keys_insert uri key _

variable (files : Files) (ignore : IgnoreGlobs)

theorem mem_keys_foldl_relate (problems : List Problem) (related : Table Uri (List Diagnostic))
    (key : Uri) :
    key ∈ (problems.foldl (relate files ignore) related).keys ↔
      key ∈ related.keys ∨
        ∃ problem ∈ problems, relatedUri? files ignore problem.owner = some key := by
  induction problems generalizing related with
  | nil => simp
  | cons first rest ih =>
    rw [List.foldl_cons, ih, relate, List.exists_mem_cons_iff, ← or_assoc]
    cases filed : relatedUri? files ignore first.owner with
    | none => simp
    | some uri => simp [keys_file, eq_comm, or_comm]

theorem nodup_keys_foldl_relate (problems : List Problem) {related : Table Uri (List Diagnostic)}
    (once : related.keys.Nodup) : (problems.foldl (relate files ignore) related).keys.Nodup := by
  refine List.foldlRecOn (motive := fun table : Table Uri (List Diagnostic) => table.keys.Nodup)
    problems _ once fun table once problem _ => ?_
  unfold relate
  split
  · exact Table.nodup_keys_insert once _ _
  · exact once

/-- Everything in a bucket is a problem whose owner is filed there. -/
def Sorted (problems : List Problem) (related : Table Uri (List Diagnostic)) : Prop :=
  ∀ bucket ∈ related.entries, ∀ entry ∈ bucket.2, ∃ problem ∈ problems,
    relatedUri? files ignore problem.owner = some bucket.1 ∧ entry = .ofProblem problem

variable {files ignore} in
theorem Sorted.relate {problems : List Problem} {related : Table Uri (List Diagnostic)}
    (sorted : Sorted files ignore problems related) {problem : Problem}
    (member : problem ∈ problems) :
    Sorted files ignore problems (DocumentDiagnostics.relate files ignore related problem) := by
  unfold DocumentDiagnostics.relate
  cases filed : relatedUri? files ignore problem.owner with
  | none => exact sorted
  | some uri =>
    intro bucket present entry listed
    rcases List.mem_cons.mp present with rfl | other
    · -- What was in the bucket before comes from the table.
      have before : ∀ entry ∈ (related.get? uri).getD [], ∃ problem ∈ problems,
          relatedUri? files ignore problem.owner = some uri ∧ entry = .ofProblem problem := by
        intro entry old
        cases found : related.get? uri with
        | none => simp [found] at old
        | some bucket =>
          rw [found, Option.getD_some] at old
          exact sorted _ (Table.mem_entries_of_get? found) entry old
      split at listed
      · exact before entry listed
      · rcases List.mem_append.mp listed with old | new
        · exact before entry old
        · exact ⟨problem, member, filed, List.mem_singleton.mp new⟩
    · exact sorted bucket (List.mem_filter.mp other).1 entry listed

theorem sorted_foldl_relate (problems : List Problem) :
    Sorted files ignore problems (problems.foldl (relate files ignore) {}) :=
  List.foldlRecOn (motive := Sorted files ignore problems) problems _
    (fun _ present => by simp at present) fun _ sorted _ member => sorted.relate member

theorem relatedUri?_eq_some_iff (owner : ModuleName) (key : Uri) :
    relatedUri? files ignore owner = some key ↔
      ∃ path, files.toReal? owner = some path ∧ ignore.isIgnored (files.relative path) = false ∧
        Uri.ofFilePath? path = some key := by
  rw [relatedUri?, Option.bind_eq_some_iff]
  refine exists_congr fun path => and_congr_right fun _ => ?_
  cases ignore.isIgnored (files.relative path) <;> simp

end DocumentDiagnostics

namespace Workspace

section

variable {ε : Type} [Engine ε] (workspace : Workspace ε) (disk : Disk) (uri : Uri)

/-- The problems of other modules that the check of a document reports. -/
def foreign : List Problem :=
  ((workspace.refreshed disk uri).analysis.problems (workspace.analysisName uri)).filter
    fun problem => problem.owner ≠ workspace.analysisName uri

/-- The path of a file that the diagnostics of a document show problems of. -/
structure Shows (path : Path) : Prop where
  included : workspace.configuration.includeDependents = true
  parsed : ((workspace.refreshed disk uri).analysis.source? (workspace.analysisName uri)).isSome
  owned : ∃ problem ∈ workspace.foreign disk uri,
    workspace.files.toReal? problem.owner = some path
  shown : workspace.ignore.isIgnored (workspace.files.relative path) = false
  absolute : path.isAbsolute = true

theorem related_diagnostics :
    (workspace.diagnostics disk uri).1.related =
      if workspace.configuration.includeDependents = true ∧
          ((workspace.refreshed disk uri).analysis.source? (workspace.analysisName uri)).isSome then
        (workspace.foreign disk uri).foldl
          (DocumentDiagnostics.relate workspace.files workspace.ignore) {}
      else {} := by
  change (DocumentDiagnostics.ofAnalysis (workspace.refreshed disk uri).analysis workspace.files
    workspace.ignore workspace.configuration.includeDependents
    (workspace.analysisName uri)).related = _
  unfold DocumentDiagnostics.ofAnalysis
  cases (workspace.refreshed disk uri).analysis.source? (workspace.analysisName uri) with
  | none => simp
  | some source => simp [DocumentDiagnostics.ofProblems, foreign]

theorem nodup_keys_related : (workspace.diagnostics disk uri).1.related.keys.Nodup := by
  rw [related_diagnostics]
  split
  · exact DocumentDiagnostics.nodup_keys_foldl_relate _ _ _ List.nodup_nil
  · exact List.nodup_nil

theorem mem_keys_related_iff (key : Uri) :
    key ∈ (workspace.diagnostics disk uri).1.related.keys ↔
      ∃ path, workspace.Shows disk uri path ∧ Uri.ofFilePath? path = some key := by
  rw [related_diagnostics]
  constructor
  · intro member
    split at member
    next answered =>
      obtain absurd | ⟨problem, present, filed⟩ :=
        (DocumentDiagnostics.mem_keys_foldl_relate _ _ _ _ key).mp member
      · simp [Table.keys] at absurd
      obtain ⟨path, owns, shown, named⟩ :=
        (DocumentDiagnostics.relatedUri?_eq_some_iff _ _ _ key).mp filed
      have absolute : path.isAbsolute = true := by
        rw [← Uri.isSome_ofFilePath?, named, Option.isSome_some]
      exact ⟨path, ⟨answered.1, answered.2, ⟨problem, present, owns⟩, shown, absolute⟩, named⟩
    · simp [Table.keys] at member
  · rintro ⟨path, ⟨included, parsed, ⟨problem, present, owns⟩, shown, -⟩, named⟩
    rw [if_pos ⟨included, parsed⟩]
    have filed := (DocumentDiagnostics.relatedUri?_eq_some_iff _ _ _ key).mpr
      ⟨path, owns, shown, named⟩
    exact (DocumentDiagnostics.mem_keys_foldl_relate _ _ _ _ key).mpr
      (Or.inr ⟨problem, present, filed⟩)

variable {workspace disk uri}

theorem Shows.key {path : Path} (shows : workspace.Shows disk uri path) :
    ∃ key ∈ (workspace.diagnostics disk uri).1.related.keys, Uri.ofFilePath? path = some key := by
  have named : (Uri.ofFilePath? path).isSome := by rw [Uri.isSome_ofFilePath?, shows.absolute]
  obtain ⟨key, found⟩ := Option.isSome_iff_exists.mp named
  exact ⟨key, (mem_keys_related_iff workspace disk uri key).mpr ⟨path, shows, found⟩, found⟩

/-- No file is shown that the document names itself. -/
theorem related_apart_iff :
    (∀ key ∈ (workspace.diagnostics disk uri).1.related.keys,
        ModuleName.ofUri key ≠ ModuleName.ofUri uri) ↔
      ∀ path, workspace.Shows disk uri path → ModuleName.ofPath path ≠ ModuleName.ofUri uri := by
  constructor
  · intro apart path shows
    obtain ⟨key, member, named⟩ := shows.key
    rw [← Uri.ofUri_of_ofFilePath? named]
    exact apart key member
  · intro apart key member
    obtain ⟨path, shows, named⟩ := (mem_keys_related_iff _ _ _ key).mp member
    rw [Uri.ofUri_of_ofFilePath? named]
    exact apart path shows

/-- No file is shown under two URIs. -/
theorem related_distinct_iff :
    (∀ one ∈ (workspace.diagnostics disk uri).1.related.keys,
        ∀ two ∈ (workspace.diagnostics disk uri).1.related.keys,
          ModuleName.ofUri one = ModuleName.ofUri two → one = two) ↔
      ∀ one two, workspace.Shows disk uri one → workspace.Shows disk uri two →
        ModuleName.ofPath one = ModuleName.ofPath two → one.components = two.components := by
  constructor
  · intro distinct one two shows other same
    obtain ⟨key, member, named⟩ := shows.key
    obtain ⟨again, present, found⟩ := other.key
    refine (Uri.ofFilePath?_eq_iff named found).mp (distinct key member again present ?_)
    rw [Uri.ofUri_of_ofFilePath? named, Uri.ofUri_of_ofFilePath? found, same]
  · intro distinct one member two present same
    obtain ⟨path, shows, named⟩ := (mem_keys_related_iff _ _ _ one).mp member
    obtain ⟨other, also, found⟩ := (mem_keys_related_iff _ _ _ two).mp present
    rw [Uri.ofUri_of_ofFilePath? named, Uri.ofUri_of_ofFilePath? found] at same
    exact (Uri.ofFilePath?_eq_iff named found).mpr (distinct path other shows also same)

theorem components_of_ofPath_eq {one two : Path} (absolute : one.isAbsolute = true)
    (also : two.isAbsolute = true) (level : .parent ∉ one.components)
    (flat : .parent ∉ two.components) (same : ModuleName.ofPath one = ModuleName.ofPath two) :
    one.components = two.components := by
  have folded : one.normalize = two.normalize :=
    congrArg (fun name : ModuleName => (⟨name.text⟩ : Path)) same
  rw [← Path.components_normalize_of_not_climbing absolute level, folded,
    Path.components_normalize_of_not_climbing also flat]

omit [Engine ε] in
theorem analysisName_of_bare (bare : workspace.files.instances = none) :
    workspace.analysisName uri = ModuleName.ofUri uri := by
  simp only [analysisName, Files.toVirtual?_of_bare bare]
  split <;> rfl

/-- Without instances a module has no second name, and its problems are filed under its own. -/
theorem Shows.owner {path : Path} (shows : workspace.Shows disk uri path)
    (bare : workspace.files.instances = none) :
    ∃ problem ∈ workspace.foreign disk uri, problem.owner.path = path := by
  obtain ⟨problem, present, owns⟩ := shows.owned
  refine ⟨problem, present, ?_⟩
  rw [Files.toReal?_of_bare bare] at owns
  split at owns
  · simp at owns
  · exact Option.some.inj owns

/-- Whatever an engine reports, no URI of an answer comes up twice. The document itself comes up
exactly if it owns shown problems under another name, and one file under two URIs exactly if it is
shown under paths of different components. Paths that do not climb exclude the second, and
without instances neither happens as long as the owners are named by normalized paths. -/
theorem related_files_iff (workspace : Workspace ε) (disk : Disk) (uri : Uri) :
    let keys := (workspace.diagnostics disk uri).1.related.keys
    let Apart := ∀ key ∈ keys, ModuleName.ofUri key ≠ ModuleName.ofUri uri
    let Distinct := ∀ one ∈ keys, ∀ two ∈ keys,
      ModuleName.ofUri one = ModuleName.ofUri two → one = two
    keys.Nodup ∧
    (Apart ↔
      ∀ path, workspace.Shows disk uri path → ModuleName.ofPath path ≠ ModuleName.ofUri uri) ∧
    (Distinct ↔
      ∀ one two, workspace.Shows disk uri one → workspace.Shows disk uri two →
        ModuleName.ofPath one = ModuleName.ofPath two → one.components = two.components) ∧
    ((∀ path, workspace.Shows disk uri path → .parent ∉ path.components) → Distinct) ∧
    (workspace.files.instances = none →
      (∀ problem ∈ workspace.foreign disk uri,
        ModuleName.ofPath problem.owner.path = problem.owner) → Apart ∧ Distinct) := by
  intro keys Apart Distinct
  have apart : Apart ↔ _ := related_apart_iff
  have distinct : Distinct ↔ _ := related_distinct_iff
  refine ⟨nodup_keys_related .., apart, distinct, fun level => ?_, fun bare named => ?_⟩
  · refine distinct.mpr fun one two shows also same => ?_
    exact components_of_ofPath_eq shows.absolute also.absolute (level one shows) (level two also)
      same
  · refine ⟨apart.mpr fun path shows => ?_, distinct.mpr fun one two shows also same => ?_⟩
    · obtain ⟨problem, present, rfl⟩ := shows.owner bare
      have other : problem.owner ≠ workspace.analysisName uri := by
        simpa using (List.mem_filter.mp present).2
      rw [named problem present, ← analysisName_of_bare bare]
      exact other
    · obtain ⟨problem, present, rfl⟩ := shows.owner bare
      obtain ⟨next, here, rfl⟩ := also.owner bare
      rw [named problem present, named next here] at same
      rw [same]

end

namespace Climbing

/-- A manifest of an instance inside the root and of one outside of it. -/
def manifest : String :=
  "\x7b\"name\":\"P\",\"className\":\"DataModel\",\"children\":[" ++
    "\x7b\"name\":\"Main\",\"className\":\"\",\"filePaths\":[\"main.lua\"]\x7d," ++
    "\x7b\"name\":\"Util\",\"className\":\"\",\"filePaths\":[\"../shared/u.lua\"]\x7d]\x7d"

def tree : Instances.Tree :=
  ⟨#[{ name := "P", className := "DataModel", filePaths := [], children := [1, 2],
        virtualPath := ⟨"game"⟩ },
      { name := "Main", className := "", filePaths := ["main.lua"],
        virtualPath := ⟨"game/Main"⟩ },
      { name := "Util", className := "", filePaths := ["../shared/u.lua"],
        virtualPath := ⟨"game/Util"⟩ }]⟩

/-- The document requires itself and the outer file by their paths, and that one also by its
instance. -/
def main : String :=
  "local M = require(\"main.lua\")\n" ++
    "local U = require(game.Util)\n" ++
    "local V = require(\"../shared/u.lua\")\n-- error: own\n"

def disk : Disk :=
  ⟨⟨[ (["place"], .directory),
      (["place", "tree.json"], .text manifest),
      (["place", "main.lua"], .text main),
      (["shared"], .directory),
      (["shared", "u.lua"], .text "-- error: shared\n") ]⟩⟩

theorem load_tree : Instances.Tree.load disk ⟨"/place/tree.json"⟩ = .ok tree := by
  decide +kernel

def created : Workspace LineEngine := (Origin.folder "place" (Place.file "")).create {} {}

def loaded : Workspace LineEngine := created.run [(disk, .loading ⟨"/place/tree.json"⟩)]

end Climbing

/-- A document that requires itself is filed behind itself, and the outer file is filed twice. -/
theorem related_files_repeated :
    let keys := (Climbing.loaded.diagnostics Climbing.disk (Place.file "main.lua")).1.related.keys
    (∃ key ∈ keys, ModuleName.ofUri key = ModuleName.ofUri (Place.file "main.lua")) ∧
      ∃ one ∈ keys, ∃ two ∈ keys, ModuleName.ofUri one = ModuleName.ofUri two ∧ one ≠ two := by
  have loaded : Climbing.loaded =
      { Climbing.created with
        files := { Climbing.created.files with instances := some Climbing.tree }
        analysis := Climbing.created.analysis.invalidateAll } :=
    loadManifest_of_ok Climbing.load_tree Climbing.created
  let outer (path : String) : Uri := { scheme := "file", authority := some {}, path }
  have keys : (Climbing.loaded.diagnostics Climbing.disk (Place.file "main.lua")).1.related.keys =
      [Place.file "main.lua", outer "/place/../shared/u.lua", outer "/shared/u.lua"] := by
    rw [loaded]
    decide +kernel
  rw [keys]
  decide +kernel

end Workspace

end LuauWorkspace
