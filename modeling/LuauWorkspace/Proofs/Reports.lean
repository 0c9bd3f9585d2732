import LuauWorkspace.Proofs.Batch
import LuauWorkspace.Proofs.Rechecks

/-!
# Sound and complete batch runs

Over an engine whose modules do not change, whatever is memoized is what a check says, in whatever
order the files of a run come. So each file brings what it would bring alone: the problems of its
check whose owners are not ignored, and its lints or that it cannot be read. The problems that a
run tells have all the keys of these, each once, however they are spread over the files.
-/
namespace LuauWorkspace.Batch

/-! ## Memoized checks -/

/-- The engine has the scripts of another one, and nothing is memoized but what its checks say. -/
structure Settled (analysis : Analysis ScriptedEngine) (engine : ScriptedEngine) : Prop where
  scripts : analysis.engine.scripts = engine.scripts
  results : ∀ name problems, analysis.results.get? name = some problems →
    problems = (engine.check name).1

section

variable {analysis : Analysis ScriptedEngine} {engine : ScriptedEngine}

/-- What an engine says depends on the scripts alone. -/
theorem answers_congr {other : ScriptedEngine} (same : other.scripts = engine.scripts)
    (name : ModuleName) :
    (other.check name).1 = (engine.check name).1 ∧ other.source? name = engine.source? name ∧
      Engine.lint other name = Engine.lint engine name := by
  obtain ⟨scripts, _, _, _⟩ := other
  obtain rfl : scripts = engine.scripts := same
  exact ⟨rfl, rfl, rfl⟩

theorem settled_new (engine : ScriptedEngine) : Settled { engine } engine :=
  ⟨rfl, fun _ _ held => by simp at held⟩

theorem Settled.invalidateAll (settled : Settled analysis engine) :
    Settled analysis.invalidateAll engine :=
  ⟨(Analysis.scripts_foldl_markDirty _ _).1.trans settled.scripts, settled.results⟩

theorem Settled.refresh (settled : Settled analysis engine) (view : SourceView)
    (name : ModuleName) : Settled (analysis.refresh view name) engine := by
  refine ⟨settled.scripts, fun other problems held => ?_⟩
  change (analysis.results.insert name (analysis.engine.check name).1).get? other =
    some problems at held
  rw [Table.get?_insert] at held
  split at held
  next same =>
    obtain rfl := Option.some.inj held
    rw [same, (answers_congr settled.scripts _).1]
  next => exact settled.results other problems held

/-- What is fresh says what a check would say, memoized or not. -/
theorem Settled.ensureFresh (settled : Settled analysis engine) (view : SourceView)
    (name : ModuleName) :
    Settled (analysis.ensureFresh view name) engine ∧
      (analysis.ensureFresh view name).problems name = (engine.check name).1 := by
  cases fresh : analysis.isFresh name with
  | true =>
    rw [analysis.ensureFresh_of_isFresh view name fresh]
    refine ⟨settled, ?_⟩
    obtain ⟨problems, held⟩ :=
      Option.isSome_iff_exists.mp ((Analysis.isFresh_iff name).mp fresh).1
    rw [Analysis.problems, held]
    exact settled.results name problems held
  | false =>
    rw [analysis.ensureFresh_of_not_isFresh view name fresh]
    refine ⟨settled.refresh view name, ?_⟩
    have held : (analysis.refresh view name).results.get? name =
        some (analysis.engine.check name).1 := Table.get?_insert_self ..
    rw [Analysis.problems, held, Option.getD_some, (answers_congr settled.scripts _).1]

end

/-! ## What a file brings -/

section

variable (workspace : Workspace ScriptedEngine) (engine : ScriptedEngine)

/-- The name that a file is analyzed by. -/
def analyzedAs (path : Path) : ModuleName :=
  (workspace.files.toVirtual? (.ofPath path)).getD (.ofPath path)

def Readable (path : Path) : Prop := (engine.source? (analyzedAs workspace path)).isSome = true

instance (path : Path) : Decidable (Readable workspace engine path) :=
  inferInstanceAs (Decidable (_ = true))

def lintsOf (path : Path) : Lints := Engine.lint engine (analyzedAs workspace path)

/-- What is said about a file itself: its lints, errors before warnings, unless it is ignored, or
that it cannot be read. -/
def said (path : Path) : List Report :=
  let shown := workspace.displayPath (.ofPath path)
  if Readable workspace engine path then
    if workspace.isIgnored path then []
    else
      (lintsOf workspace engine path).errors.map (.ofLint shown .error) ++
        (lintsOf workspace engine path).warnings.map (.ofLint shown .warning)
  else [.unreadable shown]

/-- A problem is in the check of a readable file, and its owner is not ignored. -/
def Due (files : List Path) (problem : Problem) : Prop :=
  ∃ path ∈ files, Readable workspace engine path ∧
    problem ∈ (engine.check (analyzedAs workspace path)).1 ∧
      workspace.isIgnoredModule problem.owner = false

/-- The problems that a file brings. -/
def brought (path : Path) : List Problem :=
  if Readable workspace engine path then
    (engine.check (analyzedAs workspace path)).1.filter fun problem =>
      !workspace.isIgnoredModule problem.owner
  else []

end

section

variable {workspace : Workspace ScriptedEngine} {engine : ScriptedEngine} {disk : Disk}

/-- A file brings the same whenever it is visited. -/
theorem ofFindings_eq (settled : Settled workspace.analysis engine) {path : Path} {uri : Uri}
    (named : Uri.ofFilePath? path = some uri) :
    Visit.ofFindings workspace path (workspace.findings disk uri).1 =
      ⟨workspace.displayPath (.ofPath path), brought workspace engine path,
        said workspace engine path⟩ := by
  have called : workspace.analysisName uri = analyzedAs workspace path := by
    rw [Workspace.analysisName, Uri.ofUri_of_ofFilePath? named, analyzedAs]
  obtain ⟨after, problems⟩ :=
    settled.ensureFresh (workspace.files.view disk) (analyzedAs workspace path)
  obtain ⟨-, source, lints⟩ := answers_congr after.scripts (analyzedAs workspace path)
  have found : (workspace.findings disk uri).1 =
      (engine.source? (analyzedAs workspace path)).map fun _ =>
        ((engine.check (analyzedAs workspace path)).1.filter fun problem =>
          !workspace.isIgnoredModule problem.owner, lintsOf workspace engine path) := by
    rw [← source, ← problems, lintsOf, ← lints, ← called]
    rfl
  rw [found]
  cases parsed : engine.source? (analyzedAs workspace path) with
  | none =>
    have unread : ¬ Readable workspace engine path := by simp [Readable, parsed]
    simp only [Option.map_none, Visit.ofFindings, brought, said, if_neg unread]
  | some source =>
    have read : Readable workspace engine path := by simp [Readable, parsed]
    simp only [Option.map_some, Visit.ofFindings, brought, said, if_pos read, Report.ofLints]

theorem settled_findings (settled : Settled workspace.analysis engine) (disk : Disk) (uri : Uri) :
    Settled (workspace.findings disk uri).2.analysis engine :=
  (settled.ensureFresh (workspace.files.view disk) (workspace.analysisName uri)).1

/-- The visits of a run, file by file. -/
theorem visits_eq (settled : Settled workspace.analysis engine) {files : List Path}
    (absolute : ∀ path ∈ files, path.isAbsolute = true) :
    visits disk workspace files = files.map fun path =>
      ⟨workspace.displayPath (.ofPath path), brought workspace engine path,
        said workspace engine path⟩ := by
  -- Later files are visited in another workspace, which is settled as well.
  induction files generalizing workspace with
  | nil => rfl
  | cons path rest ih =>
    obtain ⟨uri, named⟩ := Option.isSome_iff_exists.mp
      ((Uri.isSome_ofFilePath? path).trans (absolute path (List.mem_cons_self ..)))
    have later := ih (settled_findings settled disk uri) fun other member =>
      absolute other (List.mem_cons_of_mem _ member)
    rw [visits_cons named, List.map_cons, ofFindings_eq settled named, later]
    rfl

theorem settled_workspace? {options : Options} {root : Path}
    (made : options.workspace? disk root engine = .ok workspace) :
    Settled workspace.analysis engine := by
  obtain ⟨uri, -, loaded, rfl, ⟨-, rfl⟩ | ⟨manifest, -, rfl⟩⟩ := workspace?_eq_ok made
  · exact settled_new engine
  · exact (settled_new engine).invalidateAll

end

/-! ## Runs that come to an end -/

section

variable {ε : Type} [Engine ε]

theorem exists_analyze_iff (disk : Disk) (progress : Progress ε) (path : Path) :
    (∃ after, progress.analyze disk path = .ok after) ↔ path.isAbsolute = true := by
  rw [← Uri.isSome_ofFilePath?, Progress.analyze]
  cases named : Uri.ofFilePath? path with
  | none => simp
  | some uri =>
    refine iff_of_true ?_ rfl
    simp only
    split
    · exact ⟨_, rfl⟩
    · split <;> exact ⟨_, rfl⟩

/-- A run goes through all its files exactly if their paths are absolute. -/
theorem exists_foldlM_analyze_iff (disk : Disk) (progress : Progress ε) (files : List Path) :
    (∃ final, files.foldlM (Progress.analyze disk) progress = .ok final) ↔
      ∀ path ∈ files, path.isAbsolute = true := by
  induction files generalizing progress with
  | nil => exact iff_of_true ⟨progress, rfl⟩ (by simp)
  | cons path rest ih =>
    rw [List.foldlM_cons, List.forall_mem_cons, ← exists_analyze_iff disk progress path]
    cases done : progress.analyze disk path with
    | error failure => simp [bind, Except.bind]
    | ok next =>
      rw [← ih next]
      simp [bind, Except.bind]

/-- A run has a list of reports exactly if its workspace can be made and all its files have
absolute paths. -/
theorem exists_reports_iff (options : Options) (disk : Disk) (root : Path) (engine : ε) :
    (∃ found, reports options disk root engine = .ok found) ↔
      (∃ workspace, options.workspace? disk root engine = .ok workspace) ∧
        ∀ path ∈ listing disk root options.files, path.isAbsolute = true := by
  rw [reports]
  cases made : options.workspace? disk root engine with
  | error failure => simp [bind, Except.bind]
  | ok workspace =>
    rw [← exists_foldlM_analyze_iff disk ({ workspace } : Progress ε)]
    cases run : (listing disk root options.files).foldlM (Progress.analyze disk)
        ({ workspace } : Progress ε) with
    | error failure => simp [bind, Except.bind, run]
    | ok final => simp [bind, Except.bind, run, pure, Except.pure]

end

/-! ## The reports of a run -/

section

variable {options : Options} {disk : Disk} {root : Path} {engine : ScriptedEngine}
  {workspace : Workspace ScriptedEngine} {found : List Report}

theorem mem_brought_iff {path : Path} {problem : Problem} :
    problem ∈ brought workspace engine path ↔ Readable workspace engine path ∧
      problem ∈ (engine.check (analyzedAs workspace path)).1 ∧
        workspace.isIgnoredModule problem.owner = false := by
  unfold brought
  split
  next read => simp [read]
  next unread => simp [unread]

/-- The problems that are due are those that the files bring. -/
theorem mem_flatMap_brought_iff (files : List Path) (problem : Problem) :
    problem ∈ files.flatMap (brought workspace engine) ↔ Due workspace engine files problem := by
  rw [List.mem_flatMap, Due]
  simp only [mem_brought_iff]

/-- What a run tells, file by file. -/
def toldBy (workspace : Workspace ScriptedEngine) (engine : ScriptedEngine) (files : List Path) :
    List (List Problem) :=
  tellings [] (files.map fun path =>
    ⟨workspace.displayPath (.ofPath path), brought workspace engine path,
      said workspace engine path⟩)

theorem flatten_toldBy (files : List Path) :
    (toldBy workspace engine files).flatten = fresh [] (files.flatMap (brought workspace engine)) := by
  rw [toldBy, flatten_tellings, List.flatMap_map]

theorem visits_of_reports (made : options.workspace? disk root engine = .ok workspace)
    (ran : reports options disk root engine = .ok found) :
    visits disk workspace (listing disk root options.files) =
      (listing disk root options.files).map fun path =>
        ⟨workspace.displayPath (.ofPath path), brought workspace engine path,
          said workspace engine path⟩ :=
  visits_eq (settled_workspace? made) ((exists_reports_iff options disk root engine).mp ⟨found, ran⟩).2

theorem reports_eq_toldBy (made : options.workspace? disk root engine = .ok workspace)
    (ran : reports options disk root engine = .ok found) :
    let files := listing disk root options.files
    found = ((toldBy workspace engine files).zip files).flatMap fun part =>
      part.1.map (reportOf workspace) ++ said workspace engine part.2 := by
  intro files
  have whole := reports_eq made ran
  simp only [visits_of_reports made ran] at whole
  rw [whole, toldBy, List.zip_map_right, List.flatMap_map]
  rfl

/-- The problems that are told are due, and none that is due is missing but for one with its
key. -/
theorem toldBy_sound_complete (workspace : Workspace ScriptedEngine) (engine : ScriptedEngine)
    (files : List Path) :
    (toldBy workspace engine files).length = files.length ∧
      ((toldBy workspace engine files).flatten.map key).Nodup ∧
      (∀ problem ∈ (toldBy workspace engine files).flatten, Due workspace engine files problem) ∧
      ∀ problem, Due workspace engine files problem →
        ∃ first ∈ (toldBy workspace engine files).flatten, key first = key problem := by
  rw [flatten_toldBy]
  refine ⟨?_, nodup_keys_fresh [] _, fun problem member => ?_, fun problem due => ?_⟩
  · rw [toldBy, length_tellings, List.length_map]
  · have among := List.mem_of_find?_eq_some ((mem_fresh_iff _ _ _).mp member).2
    exact (mem_flatMap_brought_iff files problem).mp among
  · exact exists_mem_fresh ((mem_flatMap_brought_iff files problem).mpr due)

theorem mem_reports_iff (made : options.workspace? disk root engine = .ok workspace)
    (ran : reports options disk root engine = .ok found) (report : Report) :
    let files := listing disk root options.files
    report ∈ found ↔
      (∃ problem ∈ (toldBy workspace engine files).flatten, reportOf workspace problem = report) ∨
        ∃ path ∈ files, report ∈ said workspace engine path := by
  intro files
  have whole := reports_perm made ran
  simp only [visits_of_reports made ran] at whole
  rw [whole.mem_iff, List.mem_append, List.mem_map, flatten_toldBy, told, List.flatMap_map,
    List.flatMap_map, List.mem_flatMap]

/-- A report up to its category and its severity. -/
def Report.triple (report : Report) : String × Location × String :=
  (report.path, report.location, report.message)

/-- The triples of a run by what is due and what is said about the files. -/
theorem mem_triples_iff (made : options.workspace? disk root engine = .ok workspace)
    (ran : reports options disk root engine = .ok found) (triple : String × Location × String) :
    let files := listing disk root options.files
    triple ∈ found.map Report.triple ↔
      (∃ problem, Due workspace engine files problem ∧
        (reportOf workspace problem).triple = triple) ∨
        ∃ path ∈ files, ∃ report ∈ said workspace engine path, report.triple = triple := by
  intro files
  obtain ⟨-, -, sound, complete⟩ := toldBy_sound_complete workspace engine files
  rw [List.mem_map]
  constructor
  · rintro ⟨report, member, rfl⟩
    rcases (mem_reports_iff made ran report).mp member with ⟨problem, told, rfl⟩ | ⟨path, listed, own⟩
    · exact Or.inl ⟨problem, sound problem told, rfl⟩
    · exact Or.inr ⟨path, listed, report, own, rfl⟩
  · rintro (⟨problem, due, rfl⟩ | ⟨path, listed, report, own, rfl⟩)
    · -- The problem that was told has the same owner, place and message.
      obtain ⟨first, told, same⟩ := complete problem due
      refine ⟨_, (mem_reports_iff made ran _).mpr (Or.inl ⟨first, told, rfl⟩), ?_⟩
      have owner : first.owner = problem.owner := congrArg (·.1) same
      have place : first.location = problem.location := congrArg (·.2.1) same
      have message : first.message = problem.message := congrArg (·.2.2) same
      simp only [Report.triple, reportOf, Report.ofProblem, owner, place, message]
    · exact ⟨report, (mem_reports_iff made ran report).mpr (Or.inr ⟨path, listed, own⟩), rfl⟩

theorem due_congr {files others : List Path} (same : ∀ path, path ∈ others ↔ path ∈ files)
    (problem : Problem) :
    Due workspace engine others problem ↔ Due workspace engine files problem := by
  simp only [Due, same]

/-- Which of the reports about a file are errors. -/
theorem exists_error_said_iff (path : Path) :
    (∃ report ∈ said workspace engine path, report.severity = .error) ↔
      ¬ Readable workspace engine path ∨
        workspace.isIgnored path = false ∧ (lintsOf workspace engine path).errors ≠ [] := by
  unfold said
  by_cases read : Readable workspace engine path
  · cases ignored : workspace.isIgnored path with
    | true => simp [read]
    | false =>
      cases errors : (lintsOf workspace engine path).errors with
      | nil => simp [read, Report.ofLint]
      | cons first rest => simp [read, Report.ofLint]
  · simp [read, Report.unreadable]

/-- A run fails exactly if it has a problem or an unreadable file to report, or a lint that is an
error. -/
theorem exists_error_iff (made : options.workspace? disk root engine = .ok workspace)
    (ran : reports options disk root engine = .ok found) :
    let files := listing disk root options.files
    (∃ report ∈ found, report.severity = .error) ↔
      (∃ problem, Due workspace engine files problem) ∨
        ∃ path ∈ files, ¬ Readable workspace engine path ∨
          workspace.isIgnored path = false ∧ (lintsOf workspace engine path).errors ≠ [] := by
  intro files
  obtain ⟨-, -, sound, complete⟩ := toldBy_sound_complete workspace engine files
  constructor
  · rintro ⟨report, member, error⟩
    rcases (mem_reports_iff made ran report).mp member with ⟨problem, told, -⟩ | ⟨path, listed, own⟩
    · exact Or.inl ⟨problem, sound problem told⟩
    · exact Or.inr ⟨path, listed, (exists_error_said_iff path).mp ⟨report, own, error⟩⟩
  · rintro (⟨problem, due⟩ | ⟨path, listed, fails⟩)
    · obtain ⟨first, told, -⟩ := complete problem due
      exact ⟨_, (mem_reports_iff made ran _).mpr (Or.inl ⟨first, told, rfl⟩), rfl⟩
    · obtain ⟨report, own, error⟩ := (exists_error_said_iff path).mpr fails
      exact ⟨report, (mem_reports_iff made ran report).mpr (Or.inr ⟨path, listed, own⟩), error⟩

end

/-- A run reports, file by file, problems that are due and then what is said about the file. It
tells each owner, place and message of a problem that is due once, under the path of the owner. So
any other list of the same files leads to the same paths, places and messages, and a run fails
exactly if an error is due. -/
theorem reports_sound_complete (options : Options) (disk : Disk) (root : Path)
    (engine : ScriptedEngine) (workspace : Workspace ScriptedEngine) (found : List Report)
    (made : options.workspace? disk root engine = .ok workspace)
    (ran : reports options disk root engine = .ok found) :
    let files := listing disk root options.files
    (∃ told : List (List Problem), told.length = files.length ∧
      found = ((told.zip files).flatMap fun part =>
        part.1.map (reportOf workspace) ++ said workspace engine part.2) ∧
      (told.flatten.map key).Nodup ∧
      (∀ problem ∈ told.flatten, Due workspace engine files problem) ∧
      ∀ problem, Due workspace engine files problem →
        ∃ first ∈ told.flatten, key first = key problem) ∧
    (∀ others : List Path, (∀ path, path ∈ listing disk root others ↔ path ∈ files) →
      ∃ again, reports { options with files := others } disk root engine = .ok again ∧
        ∀ triple, triple ∈ again.map Report.triple ↔ triple ∈ found.map Report.triple) ∧
    ∃ outcome, run options disk root engine = .ok outcome ∧
      (outcome.failed = true ↔ (∃ problem, Due workspace engine files problem) ∨
        ∃ path ∈ files, ¬ Readable workspace engine path ∨
          workspace.isIgnored path = false ∧ (lintsOf workspace engine path).errors ≠ []) := by
  intro files
  refine ⟨?_, fun others same => ?_, ?_⟩
  · obtain ⟨length, once, sound, complete⟩ := toldBy_sound_complete workspace engine files
    exact ⟨_, length, reports_eq_toldBy made ran, once, sound, complete⟩
  · have absolute := ((exists_reports_iff options disk root engine).mp ⟨found, ran⟩).2
    obtain ⟨again, reran⟩ :=
      (exists_reports_iff { options with files := others } disk root engine).mpr
        ⟨⟨workspace, made⟩, fun path member => absolute path ((same path).mp member)⟩
    refine ⟨again, reran, fun triple => ?_⟩
    have first := mem_triples_iff made ran triple
    have remade : ({ options with files := others } : Options).workspace? disk root engine =
        .ok workspace := made
    have second := mem_triples_iff remade reran triple
    simp only [due_congr same, same] at second
    exact second.trans first.symm
  · refine ⟨.ofReports found options.format, by rw [run, ran]; rfl, ?_⟩
    rw [Outcome.failed_ofReports_iff]
    exact exists_error_iff made ran

namespace Spread

def script (name : String) (requires : List ModuleName) (problems : List Problem) :
    ModuleName × ModuleScript :=
  (⟨name⟩,
    { source := some { name := ⟨name⟩, nodes := #[], locals := #[], root := 0, requires }
      problems
      lints := { errors := [⟨1, "Unknown", "strict " ++ name, .onLine 0 0 1⟩] } })

def problem (owner message : String) : Problem := ⟨⟨owner⟩, .onLine 0 0 1, .typing, 1000, message⟩

/-- Two files require a third one, and an ignored file reports a problem of it as well as one of its
own. -/
def engine : ScriptedEngine where
  scripts := .ofList [
    script "/place/a.lua" [⟨"/place/u.lua"⟩] [problem "/place/a.lua" "a"],
    script "/place/b.lua" [⟨"/place/u.lua"⟩] [],
    script "/place/u.lua" [] [problem "/place/u.lua" "u"],
    script "/place/v/x.lua" [] [problem "/place/v/x.lua" "x", problem "/place/u.lua" "w"]]

def disk : Disk := ⟨⟨[]⟩⟩

/-- One of the files cannot be read, and is listed twice. -/
def files : List Path := [⟨"a.lua"⟩, ⟨"b.lua"⟩, ⟨"none.lua"⟩, ⟨"v/x.lua"⟩, ⟨"none.lua"⟩]

def options : Options := { ignore := ["v/*"], files }

def shown : Option (List (String × String)) :=
  (reports options disk ⟨"/place"⟩ engine).toOption.map fun found =>
    found.map fun report => (report.path, report.message)

end Spread

theorem reports_sound_complete_spread :
    ∃ workspace found again, Spread.options.workspace? Spread.disk ⟨"/place"⟩ Spread.engine =
        .ok workspace ∧
      reports Spread.options Spread.disk ⟨"/place"⟩ Spread.engine = .ok found ∧
      found.map (fun report => (report.path, report.message)) =
        [("a.lua", "a"), ("u.lua", "u"), ("a.lua", "strict /place/a.lua"),
          ("b.lua", "strict /place/b.lua"), ("none.lua", "Failed to read source"), ("u.lua", "w"),
          ("none.lua", "Failed to read source")] ∧
      reports { Spread.options with files := Spread.files.reverse } Spread.disk ⟨"/place"⟩
        Spread.engine = .ok again ∧
      ∀ triple, triple ∈ again.map Report.triple ↔ triple ∈ found.map Report.triple := by
  have shown : Spread.shown = some
      [("a.lua", "a"), ("u.lua", "u"), ("a.lua", "strict /place/a.lua"),
        ("b.lua", "strict /place/b.lua"), ("none.lua", "Failed to read source"), ("u.lua", "w"),
        ("none.lua", "Failed to read source")] := by
    decide +kernel
  obtain ⟨found, reported, list⟩ := Option.map_eq_some_iff.mp shown
  have ran := eq_ok_of_toOption reported
  obtain ⟨workspace, made⟩ := exists_workspace_of_reports ran
  obtain ⟨-, reordered, -⟩ := reports_sound_complete Spread.options Spread.disk ⟨"/place"⟩
    Spread.engine workspace found made ran
  obtain ⟨again, reran, same⟩ := reordered Spread.files.reverse fun path => by
    simp [listing, Spread.options]
  exact ⟨workspace, found, again, made, ran, list, reran, same⟩

end LuauWorkspace.Batch
