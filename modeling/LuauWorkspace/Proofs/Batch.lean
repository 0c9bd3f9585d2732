import LuauWorkspace.Batch.Run
import LuauWorkspace.Proofs.Attribution
import LuauWorkspace.Proofs.Scripts
import Mathlib.Data.List.Nodup

/-!
# What a batch run reports

A run visits its files one after the other. It tells a problem if no problem before it had the same
key, the owner included, and then what is said about the file itself, its lints or that it cannot be
read. So every problem is reported, and a report comes up again in two ways: problems of different
owners look alike, as those of a file do that is reached under two names, or a file has something
said about itself more than once. In runs of the line engine a second name is always the path of an
instance.
-/
namespace LuauWorkspace.Batch

/-! ## Telling problems -/

/-- The problems among others that a run still has to tell: the first ones of keys that were not
told so far. -/
def fresh (told : List Key) : List Problem → List Problem
  | [] => []
  | problem :: rest =>
    if told.contains (key problem) then fresh told rest
    else problem :: fresh (key problem :: told) rest

theorem fresh_cons (told : List Key) (problem : Problem) (rest : List Problem) :
    fresh told (problem :: rest) =
      if key problem ∈ told then fresh told rest else problem :: fresh (key problem :: told) rest := by
  simp [fresh]

theorem mem_fresh_iff (told : List Key) (problems : List Problem) (problem : Problem) :
    problem ∈ fresh told problems ↔
      key problem ∉ told ∧ problems.find? (fun other => key other = key problem) = some problem := by
  induction problems generalizing told with
  | nil => simp [fresh]
  | cons first rest ih =>
    rw [fresh_cons, List.find?_cons]
    by_cases same : key first = key problem
    -- The first problem has the key, so no other one can be told for it.
    · split
      next old => simp [ih, same ▸ old]
      next new =>
        rw [List.mem_cons, ih]
        simp only [same, List.mem_cons, true_or, not_true_eq_false, false_and, or_false,
          decide_true, Option.some.injEq]
        constructor
        · rintro rfl
          exact ⟨new, rfl⟩
        · rintro ⟨-, rfl⟩
          rfl
    · have differs : problem ≠ first := fun equal => same (equal ▸ rfl)
      split <;> simp [ih, same, differs, Ne.symm same]

theorem nodup_keys_fresh (told : List Key) (problems : List Problem) :
    ((fresh told problems).map key).Nodup := by
  induction problems generalizing told with
  | nil => exact List.nodup_nil
  | cons first rest ih =>
    rw [fresh_cons]
    split
    · exact ih told
    · refine List.nodup_cons.mpr ⟨fun again => ?_, ih _⟩
      obtain ⟨other, member, same⟩ := List.mem_map.mp again
      exact ((mem_fresh_iff _ _ _).mp member).1 (same ▸ List.mem_cons_self ..)

/-- No problem is left out but for one with the same key. -/
theorem exists_mem_fresh {problems : List Problem} {problem : Problem}
    (member : problem ∈ problems) : ∃ first ∈ fresh [] problems, key first = key problem := by
  cases found : problems.find? fun other => key other = key problem with
  | none => simpa using List.find?_eq_none.mp found problem member
  | some first =>
    have same : key first = key problem := by simpa using List.find?_some found
    refine ⟨first, (mem_fresh_iff _ _ _).mpr ⟨List.not_mem_nil, ?_⟩, same⟩
    simpa only [same] using found

theorem fresh_append (told : List Key) (front back : List Problem) :
    fresh told (front ++ back) =
      fresh told front ++ fresh (((fresh told front).map key).reverse ++ told) back := by
  induction front generalizing told with
  | nil => rfl
  | cons first rest ih =>
    rw [List.cons_append, fresh_cons, fresh_cons]
    split
    · exact ih told
    · simp [ih]

/-! ## Visits -/

/-- What one file brings into a run. -/
structure Visit where
  /-- The file as the reports about it show it. -/
  path : String
  /-- The problems of the file and of everything it requires. -/
  problems : List Problem
  /-- What is said about the file itself. -/
  own : List Report

section

variable {ε : Type} [Engine ε]

def Visit.ofFindings (workspace : Workspace ε) (path : Path) :
    Option (List Problem × Lints) → Visit
  | none =>
    let shown := workspace.displayPath (.ofPath path)
    ⟨shown, [], [.unreadable shown]⟩
  | some (problems, lints) =>
    let shown := workspace.displayPath (.ofPath path)
    ⟨shown, problems, if workspace.isIgnored path then [] else Report.ofLints shown lints⟩

/-- The visits of a run, which each start from the workspace that the one before leaves. -/
def visits (disk : Disk) (workspace : Workspace ε) : List Path → List Visit
  | [] => []
  | path :: rest =>
    match Uri.ofFilePath? path with
    | none => []
    | some uri =>
      let (found, after) := workspace.findings disk uri
      .ofFindings workspace path found :: visits disk after rest

theorem visits_cons {disk : Disk} {workspace : Workspace ε} {path : Path} {uri : Uri}
    (named : Uri.ofFilePath? path = some uri) (rest : List Path) :
    visits disk workspace (path :: rest) =
      .ofFindings workspace path (workspace.findings disk uri).1 ::
        visits disk (workspace.findings disk uri).2 rest := by
  simp only [visits, named]

/-- A visit of a run is one of its first file or of the run that goes on from there. -/
theorem mem_visits_cons {disk : Disk} {workspace : Workspace ε} {path : Path} {rest : List Path}
    {visit : Visit} (member : visit ∈ visits disk workspace (path :: rest)) :
    ∃ uri, Uri.ofFilePath? path = some uri ∧
      (visit = .ofFindings workspace path (workspace.findings disk uri).1 ∨
        visit ∈ visits disk (workspace.findings disk uri).2 rest) := by
  cases named : Uri.ofFilePath? path with
  | none => simp [visits, named] at member
  | some uri =>
    rw [visits_cons named] at member
    exact ⟨uri, rfl, List.mem_cons.mp member⟩

/-- A problem as it is reported. -/
def reportOf (workspace : Workspace ε) (problem : Problem) : Report :=
  .ofProblem (workspace.displayPath problem.owner) problem

namespace Progress

variable (progress : Progress ε)

omit [Engine ε] in
theorem foldl_tell (problems : List Problem) :
    problems.foldl tell progress =
      { progress with
        told := ((fresh progress.told problems).map key).reverse ++ progress.told
        reports := progress.reports ++
          (fresh progress.told problems).map (reportOf progress.workspace) } := by
  induction problems generalizing progress with
  | nil => simp [fresh]
  | cons first rest ih =>
    rw [List.foldl_cons, ih, tell, fresh_cons]
    split
    · rfl
    · simp [reportOf]

/-- A run goes on after a file with what its visit brought. -/
theorem analyze_eq_ok {disk : Disk} {path : Path} {after : Progress ε}
    (done : progress.analyze disk path = .ok after) :
    ∃ uri, Uri.ofFilePath? path = some uri ∧
      let found := progress.workspace.findings disk uri
      let visit := Visit.ofFindings progress.workspace path found.1
      after =
        { workspace := found.2
          told := ((fresh progress.told visit.problems).map key).reverse ++ progress.told
          reports := progress.reports ++
            (fresh progress.told visit.problems).map (reportOf progress.workspace) ++ visit.own } := by
  rw [analyze] at done
  cases named : Uri.ofFilePath? path with
  | none => simp [named] at done
  | some uri =>
    refine ⟨uri, rfl, ?_⟩
    simp only [named] at done
    -- Findings renew what is memoized and leave the files and the settings alone.
    have shows : reportOf (progress.workspace.findings disk uri).2 = reportOf progress.workspace :=
      rfl
    have ignores : (progress.workspace.findings disk uri).2.isIgnored path =
        progress.workspace.isIgnored path := rfl
    generalize progress.workspace.findings disk uri = found at done shows ignores ⊢
    obtain ⟨found, later⟩ := found
    cases found with
    | none =>
      obtain rfl := Except.ok.inj done
      simp [report, Visit.ofFindings, fresh]
    | some findings =>
      simp only [foldl_tell, shows, ignores] at done
      split at done
      all_goals
        obtain rfl := Except.ok.inj done
        simp [report, Visit.ofFindings, *]

end Progress

/-- What each visit of a run has to tell. -/
def tellings (told : List Key) : List Visit → List (List Problem)
  | [] => []
  | visit :: rest =>
    fresh told visit.problems ::
      tellings (((fresh told visit.problems).map key).reverse ++ told) rest

theorem flatten_tellings (told : List Key) (seen : List Visit) :
    (tellings told seen).flatten = fresh told (seen.flatMap (·.problems)) := by
  induction seen generalizing told with
  | nil => rfl
  | cons visit rest ih => rw [tellings, List.flatten_cons, ih, List.flatMap_cons, fresh_append]

theorem length_tellings (told : List Key) (seen : List Visit) :
    (tellings told seen).length = seen.length := by
  induction seen generalizing told with
  | nil => rfl
  | cons visit rest ih => rw [tellings, List.length_cons, List.length_cons, ih]

/-- A run reports for each file in turn the problems that it has to tell and what is said about
the file. -/
theorem foldlM_analyze {disk : Disk} {files : List Path} {progress final : Progress ε}
    (ran : files.foldlM (Progress.analyze disk) progress = .ok final) :
    let seen := visits disk progress.workspace files
    final.reports = progress.reports ++ ((tellings progress.told seen).zip seen).flatMap
      fun part => part.1.map (reportOf progress.workspace) ++ part.2.own := by
  induction files generalizing progress with
  | nil =>
    obtain rfl := Except.ok.inj ran
    simp [visits, tellings]
  | cons path rest ih =>
    rw [List.foldlM_cons] at ran
    cases done : progress.analyze disk path with
    | error failure => simp [done, bind, Except.bind] at ran
    | ok next =>
      rw [done] at ran
      obtain ⟨uri, named, rfl⟩ := progress.analyze_eq_ok done
      have shows : reportOf (progress.workspace.findings disk uri).2 = reportOf progress.workspace :=
        rfl
      have later := ih ran
      simp only [shows] at later
      simp only [visits_cons named, tellings, List.zip_cons_cons, List.flatMap_cons]
      rw [later]
      simp only [List.append_assoc]

/-! ## Repeated reports -/

/-- All of a report but its severity. -/
def Report.shown (report : Report) : String × Location × String × String :=
  (report.path, report.location, report.category, report.message)

/-- The problems that a run tells. -/
def told (seen : List Visit) : List Problem := fresh [] (seen.flatMap (·.problems))

/-- Nothing that a run reports looks like anything else that it reports. -/
structure Apart (workspace : Workspace ε) (seen : List Visit) : Prop where
  /-- Problems that look alike have one owner. -/
  owners : ∀ one ∈ told seen, ∀ other ∈ told seen,
    (reportOf workspace one).shown = (reportOf workspace other).shown → one.owner = other.owner
  /-- Visits of files that are shown alike have nothing in common to say about them. -/
  files : seen.Pairwise fun one other => one.path = other.path →
    ∀ report ∈ one.own, report.shown ∉ other.own.map Report.shown
  own : ∀ visit ∈ seen, (visit.own.map Report.shown).Nodup
  kinds : ∀ problem ∈ told seen, ∀ visit ∈ seen,
    (reportOf workspace problem).shown ∉ visit.own.map Report.shown

omit [Engine ε] in
theorem path_of_mem_own {workspace : Workspace ε} {path : Path}
    {found : Option (List Problem × Lints)} {report : Report}
    (member : report ∈ (Visit.ofFindings workspace path found).own) :
    report.path = (Visit.ofFindings workspace path found).path := by
  cases found with
  | none => exact congrArg Report.path (List.mem_singleton.mp member)
  | some findings =>
    simp only [Visit.ofFindings] at member ⊢
    split at member
    · simp at member
    · rcases (Report.mem_ofLints _ _ _).mp member with ⟨lint, -, rfl⟩ | ⟨lint, -, rfl⟩ <;> rfl

theorem path_of_mem_visits {disk : Disk} {workspace : Workspace ε} {files : List Path} {visit : Visit}
    (member : visit ∈ visits disk workspace files) :
    ∀ report ∈ visit.own, report.path = visit.path := by
  induction files generalizing workspace with
  | nil => simp [visits] at member
  | cons path rest ih =>
    obtain ⟨uri, -, rfl | later⟩ := mem_visits_cons member
    · exact fun report own => path_of_mem_own own
    · exact ih later

omit [Engine ε] in
theorem nodup_told_iff (workspace : Workspace ε) (seen : List Visit) :
    (((told seen).map (reportOf workspace)).map Report.shown).Nodup ↔
      ∀ one ∈ told seen, ∀ other ∈ told seen,
        (reportOf workspace one).shown = (reportOf workspace other).shown →
          one.owner = other.owner := by
  have keys : ((told seen).map key).Nodup := nodup_keys_fresh [] _
  rw [List.map_map, List.nodup_map_iff_inj_on (List.Nodup.of_map key keys)]
  refine forall₄_congr fun one here other there => forall_congr' fun alike => ?_
  constructor
  · rintro rfl
    rfl
  · intro owner
    -- What looks alike has one place and one message, so with one owner it has one key.
    refine List.inj_on_of_nodup_map keys here there ?_
    have place : one.location = other.location := congrArg (·.2.1) alike
    have message : one.message = other.message := congrArg (·.2.2.2) alike
    rw [key, key, owner, place, message]

theorem nodup_own_iff {seen : List Visit}
    (shows : ∀ visit ∈ seen, ∀ report ∈ visit.own, report.path = visit.path) :
    ((seen.flatMap (·.own)).map Report.shown).Nodup ↔
      (seen.Pairwise fun one other => one.path = other.path →
        ∀ report ∈ one.own, report.shown ∉ other.own.map Report.shown) ∧
        ∀ visit ∈ seen, (visit.own.map Report.shown).Nodup := by
  rw [List.map_flatMap, List.nodup_flatMap, and_comm]
  refine and_congr_left' (List.Pairwise.iff_of_mem fun {one other} here there => ?_)
  -- What is said about files that are shown differently differs in its path already.
  constructor
  · intro apart _ report member again
    exact apart (List.mem_map_of_mem member) again
  · intro apart shown member again
    obtain ⟨report, own, rfl⟩ := List.mem_map.mp member
    obtain ⟨other_report, other_own, same⟩ := List.mem_map.mp again
    have path : other_report.path = report.path := congrArg (·.1) same
    refine apart ?_ report own again
    rw [← shows one here report own, ← shows other there other_report other_own, path]

omit [Engine ε] in
theorem nodup_iff_apart {workspace : Workspace ε} {seen : List Visit}
    (shows : ∀ visit ∈ seen, ∀ report ∈ visit.own, report.path = visit.path) :
    (((told seen).map (reportOf workspace) ++ seen.flatMap (·.own)).map Report.shown).Nodup ↔
      Apart workspace seen := by
  rw [List.map_append, List.nodup_append', nodup_told_iff, nodup_own_iff shows]
  constructor
  -- The two halves of what is reported are apart exactly if no lint looks like a problem.
  · rintro ⟨owners, ⟨files, own⟩, kinds⟩
    refine ⟨owners, files, own, fun problem member visit visited again => ?_⟩
    obtain ⟨report, said, same⟩ := List.mem_map.mp again
    refine kinds (List.mem_map_of_mem (List.mem_map_of_mem member)) (same ▸ ?_)
    exact List.mem_map_of_mem (List.mem_flatMap.mpr ⟨visit, visited, said⟩)
  · rintro ⟨owners, files, own, kinds⟩
    refine ⟨owners, ⟨files, own⟩, fun shown problem_shown own_shown => ?_⟩
    obtain ⟨_, reported, rfl⟩ := List.mem_map.mp problem_shown
    obtain ⟨problem, member, rfl⟩ := List.mem_map.mp reported
    obtain ⟨report, said, same⟩ := List.mem_map.mp own_shown
    obtain ⟨visit, visited, own_report⟩ := List.mem_flatMap.mp said
    exact kinds problem member visit visited (same ▸ List.mem_map_of_mem own_report)

/-- The workspace of a run is that of a new folder, with the manifest loaded if one is given, and
configured. -/
theorem workspace?_eq_ok {options : Options} {disk : Disk} {root : Path} {engine : ε}
    {workspace : Workspace ε} (made : options.workspace? disk root engine = .ok workspace) :
    ∃ uri, Uri.ofDirectoryPath? root = some uri ∧
      ∃ loaded, workspace = loaded.configure { ignoreGlobs := options.ignore } ∧
        (options.manifest = none ∧ loaded = .ofFolder workspaceName uri engine {} ∨
          ∃ manifest, options.manifest = some manifest ∧
            loaded = ((Workspace.ofFolder workspaceName uri engine {}).loadManifest disk
              (root.join manifest)).2) := by
  rw [Options.workspace?] at made
  split at made
  · simp at made
  next uri named =>
    refine ⟨uri, named, ?_⟩
    simp only at made
    split at made
    next bare => exact ⟨_, (Except.ok.inj made).symm, Or.inl ⟨bare, rfl⟩⟩
    next manifest given =>
      split at made
      · simp at made
      next loaded result =>
        exact ⟨loaded, (Except.ok.inj made).symm,
          Or.inr ⟨manifest, given, (congrArg Prod.snd result).symm⟩⟩

/-- A run has an absolute root, since the root has a URI. -/
theorem isAbsolute_root {options : Options} {disk : Disk} {root : Path} {engine : ε}
    {workspace : Workspace ε} (made : options.workspace? disk root engine = .ok workspace) :
    workspace.files.root.isAbsolute = true := by
  obtain ⟨uri, named, loaded, rfl, start⟩ := workspace?_eq_ok made
  obtain ⟨read, found⟩ :=
    Option.isSome_iff_exists.mp (Uri.isSome_toFilePath?_of_ofDirectoryPath? named)
  have base : (uri.toFilePath?.getD ⟨""⟩).isAbsolute = true := by
    rw [found]
    exact Uri.isAbsolute_toFilePath? found
  -- A manifest that is loaded leaves the root where it is.
  rcases start with ⟨-, rfl⟩ | ⟨manifest, -, rfl⟩
  · exact base
  · have same : ((Workspace.ofFolder workspaceName uri engine {}).loadManifest disk
        (root.join manifest)).2.files.root = uri.toFilePath?.getD ⟨""⟩ :=
      Workspace.root_perform (.loading (root.join manifest))
    exact (congrArg Path.isAbsolute same).trans base

theorem reports_eq {options : Options} {disk : Disk} {root : Path} {engine : ε}
    {workspace : Workspace ε} {found : List Report}
    (made : options.workspace? disk root engine = .ok workspace)
    (ran : reports options disk root engine = .ok found) :
    let seen := visits disk workspace (listing disk root options.files)
    found = ((tellings [] seen).zip seen).flatMap
      fun part => part.1.map (reportOf workspace) ++ part.2.own := by
  rw [reports, made] at ran
  cases run : (listing disk root options.files).foldlM (Progress.analyze disk)
      ({ workspace } : Progress ε) with
  | error failure => simp [run, bind, Except.bind] at ran
  | ok final =>
    obtain rfl : final.reports = found := by
      simpa [run, bind, Except.bind, pure, Except.pure] using ran
    exact foldlM_analyze run

theorem reports_perm {options : Options} {disk : Disk} {root : Path} {engine : ε}
    {workspace : Workspace ε} {found : List Report}
    (made : options.workspace? disk root engine = .ok workspace)
    (ran : reports options disk root engine = .ok found) :
    let seen := visits disk workspace (listing disk root options.files)
    found.Perm ((told seen).map (reportOf workspace) ++ seen.flatMap (·.own)) := by
  intro seen
  rw [reports_eq made ran]
  -- The problems and the other reports come apart, each in their order.
  have problems : ((tellings [] seen).zip seen).flatMap (fun part =>
      part.1.map (reportOf workspace)) = (told seen).map (reportOf workspace) := by
    rw [told, ← flatten_tellings, List.map_flatten, ← List.flatMap_def]
    conv_rhs => rw [← List.map_fst_zip (length_tellings [] seen).le, List.flatMap_map]
  have others : ((tellings [] seen).zip seen).flatMap (fun part => part.2.own) =
      seen.flatMap (·.own) := by
    conv_rhs => rw [← List.map_snd_zip (length_tellings [] seen).ge, List.flatMap_map]
  rw [← problems, ← others]
  exact (List.flatMap_append_perm _ _ _).symm

theorem exists_workspace_of_reports {options : Options} {disk : Disk} {root : Path} {engine : ε}
    {found : List Report} (ran : reports options disk root engine = .ok found) :
    ∃ workspace, options.workspace? disk root engine = .ok workspace := by
  cases made : options.workspace? disk root engine with
  | error failure => simp [reports, made, bind, Except.bind] at ran
  | ok workspace => exact ⟨workspace, rfl⟩

end

/-! ## Runs of the line engine -/

section

variable {workspace : Workspace LineEngine} {disk : Disk}

/-- A file that is named by its normalized absolute path. -/
structure Placed (name : ModuleName) : Prop where
  real : name.isVirtual = false
  absolute : name.path.isAbsolute = true
  normal : ModuleName.ofPath name.path = name

/-- An owner of problems is a file or, if there is a tree, an instance. -/
def Located (files : Files) (name : ModuleName) : Prop :=
  Placed name ∨ name.isVirtual = true ∧ files.instances ≠ none

/-- Files are told apart by their paths as seen from the root. -/
theorem Placed.eq_of_displayPath (base : workspace.files.root.isAbsolute = true)
    {one other : ModuleName} (placed : Placed one) (other_placed : Placed other)
    (same : workspace.displayPath one = workspace.displayPath other) : one = other := by
  rw [Workspace.displayPath, Workspace.displayPath, Files.toReal?_of_not_virtual _ _ placed.real,
    Files.toReal?_of_not_virtual _ _ other_placed.real] at same
  have alike : one.path.relativeTo workspace.files.root =
      other.path.relativeTo workspace.files.root := by
    have seen : workspace.files.relative one.path = workspace.files.relative other.path := same
    rw [← Files.mk_relative, ← Files.mk_relative, seen]
  have normal : one.path.normalize = other.path.normalize := by
    rw [← Path.normalize_join_relativeTo base placed.absolute, alike,
      Path.normalize_join_relativeTo base other_placed.absolute]
  rw [← placed.normal, ← other_placed.normal, ModuleName.ofPath, normal, ModuleName.ofPath]

theorem placed_ofPath {path : Path} (absolute : path.isAbsolute = true)
    (real : (ModuleName.ofPath path).isVirtual = false) : Placed (.ofPath path) := by
  have named := ModuleName.isAbsolute_ofPath absolute
  exact ⟨real, named, ModuleName.ofPath_path named⟩

theorem located_of_findings (coherent : workspace.analysis.Coherent (workspace.files.view disk))
    (rooted : workspace.files.Rooted) (base : workspace.files.root.isAbsolute = true) {path : Path}
    {uri : Uri} (named : Uri.ofFilePath? path = some uri) {problems : List Problem} {lints : Lints}
    (found : (workspace.findings disk uri).1 = some (problems, lints)) :
    ∀ problem ∈ problems, Located workspace.files problem.owner := by
  intro problem member
  obtain ⟨_, report⟩ := Workspace.exact_of_coherent coherent (rooted.bounded disk) uri
  obtain ⟨_, _, same⟩ := Option.map_eq_some_iff.mp found
  obtain ⟨rfl, -⟩ := Prod.mk.inj same
  obtain ⟨way, code, read, -⟩ := report.mem_errors (List.mem_filter.mp member).1
  cases real : problem.owner.isVirtual with
  | true =>
    -- Without a tree no text can be read under a virtual name.
    refine Or.inr ⟨real, fun bare => ?_⟩
    change workspace.files.read? disk problem.owner = some code at read
    simp [Files.read?, Files.source?_of_bare bare, real] at read
  | false =>
    left
    by_cases start : problem.owner = workspace.analysisName uri
    · have absolute : path.isAbsolute = true := by
        rw [← Uri.isSome_ofFilePath?, named]
        rfl
      -- Instances have virtual names, so the document is analyzed under the name of its file.
      rw [start, Workspace.analysisName] at real ⊢
      cases other : workspace.files.toVirtual? (ModuleName.ofUri uri) with
      | none =>
        rw [other] at real
        rw [Option.getD_none, Uri.ofUri_of_ofFilePath? named] at real ⊢
        exact placed_ofPath absolute real
      | some virtual =>
        rw [other, Option.getD_some, rooted.isVirtual_toVirtual other] at real
        exact absurd real (by decide)
    -- Every other file that a check reaches was named by a require.
    · obtain ⟨written, required⟩ := rooted.exists_requiredFile way start real
      rw [required] at real ⊢
      exact placed_ofPath (Path.isAbsolute_join base _) real

theorem located_of_visits (coherent : workspace.analysis.Coherent (workspace.files.view disk))
    (rooted : workspace.files.Rooted) (base : workspace.files.root.isAbsolute = true)
    {files : List Path} {visit : Visit} (member : visit ∈ visits disk workspace files) :
    ∀ problem ∈ visit.problems, Located workspace.files problem.owner := by
  induction files generalizing workspace with
  | nil => simp [visits] at member
  | cons path rest ih =>
    obtain ⟨uri, named, rfl | later⟩ := mem_visits_cons member
    · cases found : (workspace.findings disk uri).1 with
      | none => simp [Visit.ofFindings]
      | some findings => exact located_of_findings coherent rooted base named found
    · have fresh_coherent : (workspace.findings disk uri).2.analysis.Coherent
          ((workspace.findings disk uri).2.files.view disk) :=
        coherent.ensureFresh (rooted.bounded disk) _
      have located := ih fresh_coherent rooted base later
      exact located

/-- A run starts from a workspace that checked nothing so far. -/
theorem workspace?_start {options : Options} {root : Path}
    (made : options.workspace? disk root ({} : LineEngine) = .ok workspace) :
    workspace.Regular ∧ workspace.analysis.Untouched := by
  obtain ⟨uri, -, loaded, rfl, unloaded | ⟨manifest, -, after⟩⟩ := workspace?_eq_ok made
  all_goals
    let origin : Workspace.Origin := .folder workspaceName uri
    have regular := Workspace.regular_create origin ({} : LineEngine) {}
    have untouched := Workspace.untouched_create origin {}
  · obtain rfl := unloaded.2
    exact ⟨{ regular with compiled := rfl }, untouched⟩
  · have still : loaded.analysis.Untouched :=
      after ▸ Workspace.untouched_loadManifest untouched (root.join manifest)
    have loaded_regular : loaded.Regular := after ▸ regular.loadManifest (root.join manifest)
    exact ⟨{ loaded_regular with compiled := rfl }, still⟩

/-- Two problems of a run that are shown in one file are owned alike, unless there is a tree and
one of them is owned under the path of an instance. -/
theorem owner_eq_of_displayPath {options : Options} {root : Path} {files : List Path}
    (made : options.workspace? disk root ({} : LineEngine) = .ok workspace) {one other : Problem}
    (told_one : one ∈ told (visits disk workspace files))
    (told_other : other ∈ told (visits disk workspace files))
    (same : workspace.displayPath one.owner = workspace.displayPath other.owner) :
    one.owner = other.owner ∨ workspace.files.instances ≠ none ∧
      (one.owner.isVirtual = true ∨ other.owner.isVirtual = true) := by
  have base := isAbsolute_root made
  obtain ⟨regular, untouched⟩ := workspace?_start made
  have coherent := untouched.coherent regular.timed (workspace.files.view disk)
  have located : ∀ problem ∈ told (visits disk workspace files),
      Located workspace.files problem.owner := by
    intro problem member
    have among := List.mem_of_find?_eq_some ((mem_fresh_iff _ _ _).mp member).2
    obtain ⟨visit, visited, brought⟩ := List.mem_flatMap.mp among
    exact located_of_visits coherent regular.rooted base visited problem brought
  -- Files are told apart by the paths that are shown, so a second name can only be an instance.
  rcases located one told_one with placed | ⟨virtual, tree⟩
  · rcases located other told_other with other_placed | ⟨virtual, tree⟩
    · exact Or.inl (placed.eq_of_displayPath base other_placed same)
    · exact Or.inr ⟨tree, Or.inr virtual⟩
  · exact Or.inr ⟨tree, Or.inl virtual⟩

end

/-! ## Nothing lost, and what is repeated -/

/-- A batch run reports everything that its files bring: each problem under the path of its owner,
and what is said about the files. It repeats no path, location, category and message exactly if
problems that look alike have one owner, visits of one file say different things about it, and no
lint looks like a problem or another lint of its file. In a run of the line engine problems that are
shown in one file have one owner, unless there is a tree and one of them is owned under the path of
an instance. -/
theorem nodup_reports_iff {ε : Type} [Engine ε] (options : Options) (disk : Disk) (root : Path)
    (engine : ε) (workspace : Workspace ε) (found : List Report)
    (made : options.workspace? disk root engine = .ok workspace)
    (ran : reports options disk root engine = .ok found) :
    let seen := visits disk workspace (listing disk root options.files)
    (∀ visit ∈ seen,
        (∀ problem ∈ visit.problems, ∃ report ∈ found,
          report.path = workspace.displayPath problem.owner ∧
            report.location = problem.location ∧ report.message = problem.message) ∧
          ∀ report ∈ visit.own, report ∈ found) ∧
      ((found.map Report.shown).Nodup ↔ Apart workspace seen) ∧
      ∀ lines : Workspace LineEngine, options.workspace? disk root {} = .ok lines →
        let problems := told (visits disk lines (listing disk root options.files))
        ∀ one ∈ problems, ∀ other ∈ problems,
          lines.displayPath one.owner = lines.displayPath other.owner →
            one.owner = other.owner ∨ lines.files.instances ≠ none ∧
              (one.owner.isVirtual = true ∨ other.owner.isVirtual = true) := by
  intro seen
  have whole : found.Perm ((told seen).map (reportOf workspace) ++ seen.flatMap (·.own)) :=
    reports_perm made ran
  refine ⟨fun visit visited => ⟨fun problem member => ?_, fun report own => ?_⟩, ?_,
    fun lines started one here other there => owner_eq_of_displayPath started here there⟩
  · obtain ⟨first, first_told, same⟩ :=
      exists_mem_fresh (List.mem_flatMap.mpr ⟨visit, visited, member⟩)
    have reported : reportOf workspace first ∈ found :=
      whole.mem_iff.mpr (List.mem_append_left _ (List.mem_map_of_mem first_told))
    refine ⟨_, reported, ?_, congrArg (·.2.1) same, congrArg (·.2.2) same⟩
    exact congrArg workspace.displayPath (congrArg (·.1) same)
  · exact whole.mem_iff.mpr (List.mem_append_right _ (List.mem_flatMap.mpr ⟨visit, visited, own⟩))
  · rw [(whole.map Report.shown).nodup_iff]
    exact nodup_iff_apart fun visit => path_of_mem_visits

namespace Shared

def manifest : String :=
  "\x7b\"name\":\"P\",\"className\":\"DataModel\",\"children\":[" ++
    "\x7b\"name\":\"U\",\"className\":\"\",\"filePaths\":[\"u.lua\"]\x7d]\x7d"

/-- A file that two others require, which one of them also does by the name of its instance. -/
def disk : Disk :=
  ⟨⟨[ (["place"], .directory),
      (["place", "tree.json"], .text manifest),
      (["place", "a.lua"], .text "local U = require(\"u.lua\")\n"),
      (["place", "b.lua"], .text "local U = require(game.U)\nlocal V = require(\"u.lua\")\n"),
      (["place", "u.lua"], .text "-- error: u\n") ]⟩⟩

def files : List Path := [⟨"a.lua"⟩, ⟨"b.lua"⟩]

def problem : String × Location × String × String := ("u.lua", .onLine 0 0 11, "TypeError", "u")

def shown (options : Options) : Option (List (String × Location × String × String)) :=
  (reports options disk ⟨"/place"⟩ ({} : LineEngine)).toOption.map fun found =>
    found.map Report.shown

end Shared

/-- With an instance tree the file is reached under two names, and its problem is reported as that
of each. -/
theorem reports_repeated :
    Shared.shown { manifest := some ⟨"tree.json"⟩, files := Shared.files } =
      some [Shared.problem, Shared.problem] := by
  decide +kernel

/-- Without one the problem of the file has one owner and is reported once. -/
theorem nodup_reports_iff_shared :
    ∃ workspace found, Options.workspace? { files := Shared.files } Shared.disk ⟨"/place"⟩
        ({} : LineEngine) = .ok workspace ∧
      reports { files := Shared.files } Shared.disk ⟨"/place"⟩ ({} : LineEngine) = .ok found ∧
      found.map Report.shown = [Shared.problem] ∧
      Apart workspace (visits Shared.disk workspace
        (listing Shared.disk ⟨"/place"⟩ Shared.files)) := by
  have shown : Shared.shown { files := Shared.files } = some [Shared.problem] := by
    decide +kernel
  obtain ⟨found, reported, single⟩ := Option.map_eq_some_iff.mp shown
  have ran := eq_ok_of_toOption reported
  obtain ⟨workspace, made⟩ := exists_workspace_of_reports ran
  have apart := nodup_reports_iff { files := Shared.files } Shared.disk ⟨"/place"⟩ {} workspace
    found made ran
  exact ⟨workspace, found, made, ran, single, apart.2.1.mp (single ▸ List.nodup_singleton _)⟩

end LuauWorkspace.Batch
