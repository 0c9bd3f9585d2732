import LuauWorkspace.Proofs.Containment
import LuauWorkspace.Proofs.Partition

/-!
# Diagnostics and findings

A server shows the problems of a check under the files of their owners, and a batch run lists them.
Both leave ignored owners out, the server while it files a problem and the batch run while it
filters, and both look at the same fresh check. What the server shows of an owner with a file is
what the batch run lists of it: a bucket is found by its URI, paths with one URI fold to one path,
and what is ignored depends on the folded path alone. A check leaves its module clean if the module
could be parsed, so the second of two questions finds the check of the first one.
-/
namespace LuauWorkspace

/-- A check leaves the module that it was asked about clean if it has a parsed form afterwards. -/
def Engine.LeavesClean (ε : Type) [Engine ε] : Prop :=
  ∀ (engine : ε) (view : SourceView) (name : ModuleName),
    let after := (Engine.check engine view name).2
    (Engine.source? after name).isSome = true → Engine.isDirty after name = false

theorem ScriptedEngine.leavesClean : Engine.LeavesClean ScriptedEngine := by
  intro engine view name after _
  simp [after, Engine.check, check, Engine.isDirty]

/-- The line engine leaves only a module dirty that it could not read, and such a module loses its
parsed form. -/
theorem LineEngine.leavesClean : Engine.LeavesClean LineEngine := by
  intro engine view name after parsed
  -- A check starts with its module, whatever the budget, and reads it there.
  have visited : name ∈ engine.order view name := Traversal.start_mem_order ..
  have kept : (after.parsed.get? name).isSome = true := Option.isSome_map.symm.trans parsed
  have read : after.parsed.get? name = view.parsed? name := by
    rw [← engine.current?_of_read view name (Or.inl rfl)]
    exact (engine.parsed_check view name name).trans (if_pos visited)
  refine (isDirty_eq_false_iff name).mpr ⟨fun marked => ?_, kept⟩
  exact ((engine.mem_dirty_check view name name).mp marked).2 ⟨visited, Or.inl rfl, read ▸ kept⟩

namespace Workspace

variable {ε : Type} {workspace : Workspace ε}

/-! ## Roots and trees along a run -/

/-- A root is an absolute path or none at all, and the instances are those of an accepted
manifest. -/
structure Established (workspace : Workspace ε) : Prop where
  base : workspace.root.isAbsolute = true ∨ workspace.root.text = ""
  accepted : ∀ tree, workspace.files.instances = some tree → tree.Accepted

theorem established_create (origin : Origin) (engine : ε) (documentation : Documentation) :
    (origin.create engine documentation).Established := by
  refine ⟨?_, fun tree present => ?_⟩
  · cases origin with
    | null => exact Or.inr rfl
    | folder name uri =>
      change (uri.toFilePath?.getD ⟨""⟩).isAbsolute = true ∨ (uri.toFilePath?.getD ⟨""⟩).text = ""
      cases read : uri.toFilePath? with
      | none => exact Or.inr rfl
      | some path => exact Or.inl (Uri.isAbsolute_toFilePath? read)
  · cases origin <;> simp [Origin.create, ofFolder, null] at present

section

variable [Engine ε]

theorem Established.perform (established : workspace.Established) (disk : Disk) (action : Action) :
    (workspace.perform disk action).Established := by
  have moves := workspace.moves_perform disk action
  generalize workspace.perform disk action = after at moves ⊢
  cases moves with
  | loaded manifest =>
    refine ⟨established.base, fun tree present => ?_⟩
    have loaded : Instances.Tree.load disk manifest = .ok tree := eq_ok_of_toOption present
    exact Instances.Tree.exists_ofText_of_load loaded
  -- No other move touches the root or the instances.
  | _ => exact ⟨established.base, established.accepted⟩

theorem Established.run (established : workspace.Established) (steps : List (Disk × Action)) :
    (workspace.run steps).Established :=
  run_induction Established (fun _ _ _ before => before.perform _ _) established

end

/-! ## What is ignored -/

theorem isIgnored_congr (workspace : Workspace ε) {one two : Path}
    (same : one.normalize = two.normalize) : workspace.isIgnored one = workspace.isIgnored two := by
  unfold isIgnored Files.relative
  rw [Path.relativeTo_congr same rfl]

/-- Without a root an absolute path is seen as it folds. -/
theorem Established.normalize_join_relativeTo (established : workspace.Established) {path : Path}
    (absolute : path.isAbsolute = true) :
    (workspace.root.join (path.relativeTo workspace.root)).normalize = path.normalize := by
  rcases established.base with base | blank
  · exact Path.normalize_join_relativeTo base absolute
  · have folded := Path.isAbsolute_normalize absolute
    have nowhere : workspace.root = ⟨""⟩ := congrArg Path.mk blank
    have level : (Path.normalize ⟨""⟩).isAbsolute = false := by decide
    have seen : path.relativeTo workspace.root = path.normalize := by
      rw [nowhere, Path.relativeTo, folded, level, if_neg (by simp)]
    rw [seen, Path.join_of_absolute _ _ ((Path.isAbsolute_iff_startsWith _).mp folded),
      Path.normalize_normalize absolute]

/-- A file is ignored under the name that it is analyzed by exactly if its path is. -/
theorem Established.isIgnoredModule_analysisName (established : workspace.Established) {uri : Uri}
    {path : Path} (scheme : uri.scheme = "file") (read : uri.toFilePath? = some path) :
    workspace.isIgnoredModule (workspace.analysisName uri) = workspace.isIgnored path := by
  obtain ⟨absolute, -, real⟩ := ModuleName.ofUri_of_toFilePath? scheme read
  have folded : (ModuleName.ofUri uri).path = path.normalize := by
    rw [ModuleName.ofUri, if_pos scheme, read]
    rfl
  have back : path.normalize.normalize = path.normalize :=
    Path.normalize_normalize (Uri.isAbsolute_toFilePath? read)
  rw [folded] at absolute
  rw [analysisName, Files.toVirtual?, real, if_neg (by simp), folded]
  cases named : workspace.files.virtualNameOf? path.normalize with
  | none =>
    rw [Option.getD_none, isIgnoredModule, Files.toReal?_of_not_virtual _ _ real, folded]
    exact workspace.isIgnored_congr back
  -- The virtual name leads back to the path that is seen from the root.
  | some virtual =>
    have there : virtual.isVirtual = true := by
      obtain ⟨node, found, rfl⟩ := Option.map_eq_some_iff.mp named
      exact (Files.virtualNode?_of_realNode? established.accepted found).1
    rw [Option.getD_some, isIgnoredModule, Files.toReal?, if_pos there,
      Files.realPathOf?_of_virtualNameOf? established.accepted named]
    exact workspace.isIgnored_congr ((established.normalize_join_relativeTo absolute).trans back)

theorem isIgnoredModule_of_toReal? {owner : ModuleName} {path : Path}
    (owns : workspace.files.toReal? owner = some path) :
    workspace.isIgnoredModule owner = workspace.isIgnored path := by
  rw [isIgnoredModule, owns]

/-- Paths that have one URI are ignored together. -/
theorem isIgnored_eq_of_ofFilePath? (workspace : Workspace ε) {one two : Path} {key : Uri}
    (named : Uri.ofFilePath? one = some key) (other : Uri.ofFilePath? two = some key) :
    workspace.isIgnored one = workspace.isIgnored two := by
  apply workspace.isIgnored_congr
  rw [Path.normalize, Path.normalize, (Uri.ofFilePath?_eq_iff named other).mp rfl]

/-! ## One check, two answers -/

section

variable [Engine ε] (workspace : Workspace ε) (disk : Disk) (uri : Uri)

/-- The problems of the fresh check of a document. -/
def reported : List Problem :=
  (workspace.refreshed disk uri).analysis.problems (workspace.analysisName uri)

def Parsed : Prop :=
  ((workspace.refreshed disk uri).analysis.source? (workspace.analysisName uri)).isSome = true

/-- A batch run lists a problem when it comes to a document. -/
def Lists (problem : Problem) : Prop :=
  ∃ problems lints, (workspace.findings disk uri).1 = some (problems, lints) ∧ problem ∈ problems

/-- The diagnostics of a document hold a problem: as an item if the module of the document owns it,
and else in the bucket of the file that the owner leads to. -/
def Holds (problem : Problem) (path : Path) : Prop :=
  let answer := (workspace.diagnostics disk uri).1
  if problem.owner = workspace.analysisName uri then .ofProblem problem ∈ answer.items
  else
    ∃ key bucket, Uri.ofFilePath? path = some key ∧ answer.related.get? key = some bucket ∧
      .ofProblem problem ∈ bucket

variable {workspace disk uri} {problem : Problem}

theorem lists_iff :
    workspace.Lists disk uri problem ↔ workspace.Parsed disk uri ∧
      problem ∈ workspace.reported disk uri ∧ workspace.isIgnoredModule problem.owner = false := by
  unfold Lists Parsed reported findings
  cases parsed : (workspace.refreshed disk uri).analysis.source? (workspace.analysisName uri) <;>
    simp [parsed]

/-- What stands for a document that cannot be read is no problem of any check. -/
theorem ofProblem_ne_unresolved (problem : Problem) :
    Diagnostic.ofProblem problem ≠ .unresolved := by
  intro same
  have codes := congrArg Diagnostic.code same
  simp [Diagnostic.ofProblem, Diagnostic.unresolved, DiagnosticCode.ofNat] at codes

theorem ofProblem_mem_items_iff (member : problem ∈ workspace.reported disk uri)
    (own : problem.owner = workspace.analysisName uri) :
    Diagnostic.ofProblem problem ∈ (workspace.diagnostics disk uri).1.items ↔
      workspace.Parsed disk uri := by
  have answer : (workspace.diagnostics disk uri).1 =
      (workspace.refreshed disk uri).diagnosticsOf uri := rfl
  have name : (workspace.refreshed disk uri).analysisName uri = workspace.analysisName uri := rfl
  rw [answer, diagnosticsOf, DocumentDiagnostics.ofAnalysis, Parsed, name]
  cases (workspace.refreshed disk uri).analysis.source? (workspace.analysisName uri) with
  | none => simp [ofProblem_ne_unresolved]
  | some source =>
    -- The module's own problems stand in front of its lints.
    have kept : problem ∈ (workspace.reported disk uri).filter fun problem =>
        problem.owner = workspace.analysisName uri :=
      List.mem_filter.mpr ⟨member, by simpa using own⟩
    exact iff_of_true (List.mem_append_left _ (List.mem_map_of_mem kept)) rfl

/-- A problem of another module is in the bucket of a file exactly if the file is not ignored. -/
theorem exists_bucket_iff (included : workspace.configuration.includeDependents = true)
    (member : problem ∈ workspace.reported disk uri)
    (other : problem.owner ≠ workspace.analysisName uri) {path : Path}
    (owns : workspace.files.toReal? problem.owner = some path)
    (absolute : path.isAbsolute = true) :
    (∃ key bucket, Uri.ofFilePath? path = some key ∧
        (workspace.diagnostics disk uri).1.related.get? key = some bucket ∧
          .ofProblem problem ∈ bucket) ↔
      workspace.Parsed disk uri ∧ workspace.isIgnored path = false := by
  constructor
  · rintro ⟨key, bucket, named, found, -⟩
    obtain ⟨seen, shows, same⟩ :=
      (mem_keys_related_iff workspace disk uri key).mp (Table.mem_keys_of_get? found)
    -- The bucket may be there for another path, which is ignored with this one.
    exact ⟨shows.parsed, (workspace.isIgnored_eq_of_ofFilePath? named same).trans shows.shown⟩
  · rintro ⟨parsed, shown⟩
    obtain ⟨key, named⟩ :=
      Option.isSome_iff_exists.mp ((Uri.isSome_ofFilePath? path).trans absolute)
    have filed : DocumentDiagnostics.relatedUri? workspace.files workspace.ignore problem.owner =
        some key :=
      (DocumentDiagnostics.relatedUri?_eq_some_iff _ _ _ key).mpr ⟨path, owns, shown, named⟩
    have foreign : problem ∈ workspace.foreign disk uri :=
      List.mem_filter.mpr ⟨member, by simpa using other⟩
    -- So the bucket of the URI has something in it, and equal diagnostics stand there once.
    have present : problem ∈ (workspace.foreign disk uri).filter fun problem =>
        DocumentDiagnostics.relatedUri? workspace.files workspace.ignore problem.owner = some key :=
      List.mem_filter.mpr ⟨foreign, by simpa using filed⟩
    have bucket := (DocumentDiagnostics.get?_foldl_relate workspace.files workspace.ignore
      (workspace.foreign disk uri) key).trans
        (if_neg (List.map_eq_nil_iff.not.mpr (List.ne_nil_of_mem present)))
    rw [related_diagnostics, if_pos ⟨included, parsed⟩]
    exact ⟨key, _, named, bucket, List.mem_eraseDups.mpr (List.mem_map_of_mem present)⟩

/-- The second of two questions about a document finds its module fresh. -/
theorem refreshed_refreshed (clean : Engine.LeavesClean ε)
    (timed : workspace.analysis.dirty.Timed) (parsed : workspace.Parsed disk uri) (later : Disk) :
    (workspace.refreshed disk uri).refreshed later uri = workspace.refreshed disk uri := by
  have fresh : (workspace.refreshed disk uri).analysis.isFresh
      ((workspace.refreshed disk uri).analysisName uri) = true := by
    change ((workspace.analysis.ensureFresh _ (workspace.analysisName uri)).source? _).isSome = true
      at parsed
    change (workspace.analysis.ensureFresh _ (workspace.analysisName uri)).isFresh
      (workspace.analysisName uri) = true
    -- What was fresh is kept, and a new check that has a parsed form leaves its module clean.
    unfold Analysis.ensureFresh at parsed ⊢
    split at parsed
    next kept => rwa [if_pos kept]
    next stale =>
      rw [if_neg stale]
      exact Analysis.isFresh_refresh timed (clean _ _ _ parsed)
  rw [refreshed, Analysis.ensureFresh_of_isFresh _ _ _ fresh]

end

/-- Over any run a batch run lists a problem of an owner with a file exactly if the diagnostics hold
it. Where checks leave what they parsed clean, neither question about a document that can be parsed
changes what the other one says. -/
theorem lists_iff_holds [Engine ε] (origin : Origin) (engine : ε)
    (documentation : Documentation) (steps : List (Disk × Action)) (disk : Disk) (uri : Uri) :
    let workspace := (origin.create engine documentation).run steps
    (∀ path, uri.scheme = "file" → uri.toFilePath? = some path →
      workspace.isIgnoredModule (workspace.analysisName uri) = workspace.isIgnored path) ∧
      (workspace.configuration.includeDependents = true →
        workspace.isIgnoredModule (workspace.analysisName uri) = false →
          ∀ problem ∈ workspace.reported disk uri, ∀ path,
            workspace.files.toReal? problem.owner = some path → path.isAbsolute = true →
              (workspace.Lists disk uri problem ↔ workspace.Holds disk uri problem path)) ∧
      (Engine.LeavesClean ε → workspace.Parsed disk uri →
        ((workspace.findings disk uri).2.diagnostics disk uri).1 =
            (workspace.diagnostics disk uri).1 ∧
          ((workspace.diagnostics disk uri).2.findings disk uri).1 =
            (workspace.findings disk uri).1) := by
  intro workspace
  have established : workspace.Established :=
    (established_create origin engine documentation).run steps
  have regular : workspace.Regular := (regular_create origin engine documentation).run steps
  refine ⟨fun path => established.isIgnoredModule_analysisName, ?_, fun clean parsed => ?_⟩
  · intro included shown problem member path owns absolute
    rw [lists_iff, Holds]
    split
    -- The document itself is not ignored, so its own problems are in both answers.
    next own =>
      rw [ofProblem_mem_items_iff member own, own]
      exact ⟨fun listed => listed.1, fun parsed => ⟨parsed, member, shown⟩⟩
    next other =>
      rw [exists_bucket_iff included member other owns absolute, isIgnoredModule_of_toReal? owns]
      exact ⟨fun listed => ⟨listed.1, listed.2.2⟩, fun held => ⟨held.1, member, held.2⟩⟩
  · have again := refreshed_refreshed clean regular.timed parsed disk
    have listed : (workspace.findings disk uri).2.refreshed disk uri =
        workspace.refreshed disk uri := again
    have shown : (workspace.diagnostics disk uri).2.refreshed disk uri =
        workspace.refreshed disk uri := again
    constructor
    · rw [diagnostics, listed]
      rfl
    · rw [findings, shown]
      rfl

namespace Vendored

open DocumentDiagnostics

/-- A directory is ignored. -/
def steps : List (Disk × Action) := [(⟨⟨[]⟩⟩, .configuring { ignoreGlobs := ["vendor/*"] })]

def created : Workspace ScriptedEngine :=
  ((Origin.folder "place" (Place.file "")).create Mixed.engine {}).run steps

def main : Uri := Place.file "main.luau"

/-- The other file and the ignored one. -/
def far : Problem := Mixed.problem "/place/util.luau" "far"

def ignored : Problem := Mixed.problem "/place/vendor/x.luau" "ignored"

theorem parsed : created.Parsed ⟨⟨[]⟩⟩ main := by
  unfold Parsed
  decide +kernel

/-- A file that can be read. -/
def disk : Disk :=
  ⟨⟨[(["place"], .directory), (["place", "main.luau"], .text "-- error: read\n")]⟩⟩

def plain : Workspace LineEngine :=
  ((Origin.folder "place" (Place.file "")).create {} {}).run steps

theorem parsed_plain : plain.Parsed disk main := by
  unfold Parsed
  decide +kernel

end Vendored

theorem lists_iff_holds_vendored :
    Vendored.created.configuration.includeDependents = true ∧
      Vendored.created.isIgnoredModule (Vendored.created.analysisName Vendored.main) = false ∧
      Vendored.created.Holds ⟨⟨[]⟩⟩ Vendored.main Vendored.far ⟨"/place/util.luau"⟩ ∧
      ¬ Vendored.created.Holds ⟨⟨[]⟩⟩ Vendored.main Vendored.ignored ⟨"/place/vendor/x.luau"⟩ ∧
      Engine.LeavesClean ScriptedEngine ∧ Vendored.created.Parsed ⟨⟨[]⟩⟩ Vendored.main ∧
      ((Vendored.created.findings ⟨⟨[]⟩⟩ Vendored.main).2.diagnostics ⟨⟨[]⟩⟩ Vendored.main).1 =
        (Vendored.created.diagnostics ⟨⟨[]⟩⟩ Vendored.main).1 ∧
      Engine.LeavesClean LineEngine ∧ Vendored.plain.Parsed Vendored.disk Vendored.main ∧
      ((Vendored.plain.diagnostics Vendored.disk Vendored.main).2.findings Vendored.disk
          Vendored.main).1 =
        (Vendored.plain.findings Vendored.disk Vendored.main).1 := by
  obtain ⟨-, agree, scripted⟩ := lists_iff_holds (.folder "place" (Place.file ""))
    DocumentDiagnostics.Mixed.engine {} Vendored.steps ⟨⟨[]⟩⟩ Vendored.main
  obtain ⟨-, -, plain⟩ := lists_iff_holds (.folder "place" (Place.file "")) ({} : LineEngine) {}
    Vendored.steps Vendored.disk Vendored.main
  have included : Vendored.created.configuration.includeDependents = true := by decide +kernel
  have shown : Vendored.created.isIgnoredModule
      (Vendored.created.analysisName Vendored.main) = false := by
    decide +kernel
  have far : Vendored.far ∈ Vendored.created.reported ⟨⟨[]⟩⟩ Vendored.main := by decide +kernel
  have ignored : Vendored.ignored ∈ Vendored.created.reported ⟨⟨[]⟩⟩ Vendored.main := by
    decide +kernel
  refine ⟨included, shown, ?_, fun held => ?_,
    ScriptedEngine.leavesClean, Vendored.parsed,
    (scripted ScriptedEngine.leavesClean Vendored.parsed).1,
    LineEngine.leavesClean, Vendored.parsed_plain,
    (plain LineEngine.leavesClean Vendored.parsed_plain).2⟩
  · exact (agree included shown _ far _ (by decide +kernel) (by decide +kernel)).mp
      (lists_iff.mpr ⟨Vendored.parsed, far, by decide +kernel⟩)
  · have listed := (agree included shown _ ignored ⟨"/place/vendor/x.luau"⟩ (by decide +kernel)
      (by decide +kernel)).mpr held
    exact absurd (lists_iff.mp listed).2.2 (by decide +kernel)

end Workspace

end LuauWorkspace
