import LuauWorkspace.Proofs.Attribution
import LuauWorkspace.Proofs.Evolution
import LuauWorkspace.Proofs.Reload

/-!
# Handing over to the disk

A close drops a document and tells the engine nothing, so the form that the engine keeps of the
module is still the one of the document. A check reads a module again if it starts there or if the
module is dirty, and edits of other modules do not make it so. After a close the file on disk
therefore takes over as soon as the module itself is checked or a manifest is loaded, and a check of
another module that comes first still reports what the engine kept.
-/
namespace LuauWorkspace

open Traversal (Reaches fair_lastFirst)

/-! ## What a check reports of one module -/

namespace LineEngine

variable {engine : LineEngine} {view : SourceView} {root name : ModuleName}

/-- The problems in the form of a module that the engine keeps. -/
def keptProblems (engine : LineEngine) (name : ModuleName) : List Problem :=
  ((engine.parsed.get? name).map (·.problems)).getD []

/-- All problems that an engine keeps are owned by the module that they are kept for. -/
def Owned (engine : LineEngine) : Prop :=
  ∀ name, ∀ problem ∈ engine.keptProblems name, problem.owner = name

theorem problems_of_read (reads : name = root ∨ engine.isDirty name = true) :
    engine.problems view root name = view.problems name := by
  rw [problems, engine.current?_of_read view root reads, SourceView.problems]

theorem problems_of_kept (other : name ≠ root) (clean : engine.isDirty name = false) :
    engine.problems view root name = engine.keptProblems name := by
  rw [problems, engine.current?_of_kept view root other clean, keptProblems]

theorem owned_empty : Owned {} := fun _ _ member => by simp [keptProblems] at member

theorem Owned.problems (owned : engine.Owned) (view : SourceView) (root : ModuleName) :
    ∀ name, ∀ problem ∈ engine.problems view root name, problem.owner = name := by
  intro name problem member
  by_cases reads : name = root ∨ engine.isDirty name = true
  · rw [problems_of_read reads] at member
    exact SourceView.owner_of_mem_problems member
  · simp only [not_or, Bool.not_eq_true] at reads
    rw [problems_of_kept reads.1 reads.2] at member
    exact owned name problem member

theorem Owned.check (owned : engine.Owned) (view : SourceView) (root : ModuleName) :
    (engine.check view root).2.Owned := by
  intro name problem member
  rw [keptProblems, parsed_check] at member
  split at member
  · exact owned.problems view root name problem member
  · exact owned name problem member

/-- A check reports each module that it visits once. -/
theorem Owned.filter_check (owned : engine.Owned) (bounded : view.Bounded)
    (way : Reaches (engine.requires view root) root name) :
    (engine.check view root).1.filter (fun problem => problem.owner = name) =
      engine.problems view root name :=
  Problem.filter_owner_flatMap (owned.problems view root)
    ((engine.visits_order view root bounded).nodup List.nodup_nil)
    ((engine.mem_order_iff view root bounded name).mpr way)

/-! ## What a check changes for one module -/

/-- A check reads a module that it visits if it starts there or finds it dirty, and leaves the form
that is kept otherwise. -/
theorem check_cases (engine : LineEngine) (view : SourceView) (root name : ModuleName) :
    (name ∈ engine.order view root ∧ (name = root ∨ engine.isDirty name = true) ∧
        (engine.check view root).2.keptProblems name = view.problems name) ∨
      (¬ (name ∈ engine.order view root ∧ (name = root ∨ engine.isDirty name = true)) ∧
        (engine.check view root).2.keptProblems name = engine.keptProblems name ∧
        (engine.check view root).2.isDirty name = engine.isDirty name) := by
  by_cases read : name ∈ engine.order view root ∧ (name = root ∨ engine.isDirty name = true)
  · refine Or.inl ⟨read.1, read.2, ?_⟩
    rw [keptProblems, parsed_check, if_pos read.1, engine.current?_of_read view root read.2,
      SourceView.problems]
  · have form : (engine.check view root).2.parsed.get? name = engine.parsed.get? name := by
      rw [parsed_check]
      split
      next member =>
        have unread : ¬ (name = root ∨ engine.isDirty name = true) := fun reads =>
          read ⟨member, reads⟩
        simp [current?, unread]
      · rfl
    have marks : name ∈ (engine.check view root).2.dirty ↔ name ∈ engine.dirty := by
      rw [mem_dirty_check]
      exact and_iff_left fun again => read ⟨again.1, again.2.1⟩
    refine Or.inr ⟨read, by rw [keptProblems, form, keptProblems], ?_⟩
    rw [Bool.eq_iff_iff]
    simp [isDirty, Table.contains, form, marks]

theorem checkCount_check (engine : LineEngine) (view : SourceView) (root name : ModuleName) :
    (engine.check view root).2.checkCount name =
      engine.checkCount name + if name = root then 1 else 0 := by
  have counts : (engine.check view root).2.checkCounts =
      engine.checkCounts.insert root (engine.checkCount root + 1) := by
    refine List.foldlRecOn (motive := fun now : LineEngine => now.checkCounts = _) _ _ rfl ?_
    intro now same visited _
    rw [record]
    split
    · split <;> exact same
    · exact same
  rw [checkCount, counts, Table.get?_insert]
  split
  next same => rw [same]; rfl
  · rfl

theorem keptProblems_foldl_markDirty (names : List ModuleName) (engine : LineEngine)
    (name : ModuleName) :
    (names.foldl Engine.markDirty engine).keptProblems name = engine.keptProblems name := by
  rw [keptProblems, (foldl_markDirty names engine name).1, keptProblems]

theorem checkCount_foldl_markDirty (names : List ModuleName) (engine : LineEngine)
    (name : ModuleName) :
    (names.foldl Engine.markDirty engine).checkCount name = engine.checkCount name :=
  List.foldlRecOn (motive := fun now : LineEngine => now.checkCount name = _) _ _ rfl
    fun _ same _ _ => same

end LineEngine

/-! ## What the files say -/

namespace Files

variable {files other : Files} {disk later : Disk} {name : ModuleName}

/-- The text of the file of a module, whether a document lies over it or not. -/
def fileText? (files : Files) (disk : Disk) (name : ModuleName) : Option String :=
  (files.toReal? name).bind disk.read?

/-- The problems of the file of a module. One that cannot be read has none. -/
def fileProblems (files : Files) (disk : Disk) (name : ModuleName) : List Problem :=
  ((files.fileText? disk name).map (Line.problemsOf name)).getD []

theorem fileText?_congr_of_bare (bare : files.instances = none) (other_bare : other.instances = none)
    (disk : Disk) (name : ModuleName) : files.fileText? disk name = other.fileText? disk name := by
  rw [fileText?, toReal?_of_bare bare, fileText?, toReal?_of_bare other_bare]

theorem fileProblems_congr (same : files.fileText? disk name = other.fileText? later name) :
    files.fileProblems disk name = other.fileProblems later name := by
  rw [fileProblems, same, fileProblems]

theorem problems_view_of_closed (bare : files.instances = none)
    (closed : files.documents.get? name = none) :
    (files.view disk).problems name = files.fileProblems disk name := by
  have read : (files.view disk).read? name = (files.fileText? disk name).map fun text =>
      ⟨text, ScriptKind.ofPath name.text⟩ := by
    change files.read? disk name = _
    rw [read?, source?_of_bare bare, fileText?, toReal?_of_bare bare]
    split
    · rfl
    · simp [text?, closed]
  rw [SourceView.problems, SourceView.parsed?, read, fileProblems]
  cases files.fileText? disk name with
  | none => rfl
  | some text => simp [Line.problems_parse]

end Files

/-! ## Modules that are known -/

namespace Requires.DirtySet

variable {set : DirtySet} {name : ModuleName}

/-- A module that was edited or checked at some time. -/
def Known (set : DirtySet) (name : ModuleName) : Prop := (set.modules.get? name).isSome = true

theorem Known.insert (known : set.Known name) (clock : Nat) (other : ModuleName)
    (state : ModuleState) : Known ⟨clock, set.modules.insert other state⟩ name := by
  rw [Known, Table.get?_insert]
  split
  · rfl
  · exact known

theorem known_markDirty_self (set : DirtySet) (name : ModuleName) (reason : DirtyReason) :
    (set.markDirty name reason).Known name := by
  simp [Known, markDirty]

theorem Known.invalidateAll (known : set.Known name) : set.invalidateAll.Known name :=
  List.foldlRecOn (motive := (Known · name)) _ _ known fun _ known _ _ => known.insert _ _ _

end Requires.DirtySet

namespace Workspace

section

variable {workspace : Workspace LineEngine} {disk : Disk} {name : ModuleName}

/-- Open documents are known. -/
def Registered (workspace : Workspace LineEngine) : Prop :=
  ∀ name, (workspace.document? name).isSome = true → workspace.analysis.dirty.Known name

theorem known_perform (known : workspace.analysis.dirty.Known name) (action : Action) :
    (workspace.perform disk action).analysis.dirty.Known name := by
  have moves := workspace.moves_perform disk action
  generalize workspace.perform disk action = after at moves ⊢
  cases moves with
  | idle => exact known
  | refreshed uri =>
    exact Analysis.ensureFresh_induction (·.dirty.Known name) known (known.insert _ _ _)
  | edited uri document reason own =>
    exact analysis_edit_induction (·.dirty.Known name)
      (fun _ known marked => known.insert _ _ _) known
  | closed uri => exact known
  | configured configuration => exact known
  | loaded manifest => exact known.invalidateAll

theorem known_edit (document : Document) (reason : Requires.DirtyReason) :
    (workspace.edit name document reason).analysis.dirty.Known name := by
  rw [analysis_edit, aliases, List.foldl_cons]
  refine List.foldlRecOn (motive := fun analysis : Analysis LineEngine =>
    analysis.dirty.Known name) _ _ ?_ fun _ known _ _ => known.insert _ _ _
  exact Requires.DirtySet.known_markDirty_self _ name reason

theorem Registered.perform (registered : workspace.Registered) (action : Action) :
    (workspace.perform disk action).Registered := by
  intro name opened
  by_cases before : (workspace.document? name).isSome = true
  · exact known_perform (registered name before) action
  have moves := workspace.moves_perform disk action
  generalize workspace.perform disk action = after at moves opened ⊢
  cases moves with
  | edited uri document reason own =>
    by_cases same : name = ModuleName.ofUri uri
    · subst same
      exact known_edit document reason
    · have kept : (workspace.edit (ModuleName.ofUri uri) document reason).document? name =
          workspace.document? name := Table.get?_insert_of_ne _ _ same
      exact absurd (kept ▸ opened) before
  | closed uri =>
    refine absurd ?_ before
    change ((workspace.files.documents.erase _).get? name).isSome = true at opened
    rw [Table.get?_erase] at opened
    split at opened
    · simp at opened
    · exact opened
  -- The other moves leave the documents as they are.
  | _ => exact absurd opened before

theorem registered_run (origin : Origin) (documentation : Documentation)
    (steps : List (Disk × Action)) :
    ((origin.create ({} : LineEngine) documentation).run steps).Registered := by
  refine run_induction Registered (fun step _ _ registered => registered.perform step.2) ?_
  intro name opened
  simp [document?_create] at opened

/-! ## Steps of the engine -/

/-- What an action does to the engine. A load marks everything that is known, and an edit marks the
names of a document that is open afterwards. -/
inductive EngineMoves (disk : Disk) (workspace : Workspace LineEngine) (action : Action) :
    LineEngine → Prop
  | kept : EngineMoves disk workspace action workspace.analysis.engine
  | checked (root : ModuleName) :
    EngineMoves disk workspace action
      (workspace.analysis.engine.check (workspace.files.view disk) root).2
  | reloaded (manifest : Path) (loading : action = .loading manifest) :
    EngineMoves disk workspace action
      (workspace.analysis.dirty.modules.keys.foldl Engine.markDirty workspace.analysis.engine)
  | edited (name : ModuleName)
    (opened : ((workspace.perform disk action).document? name).isSome = true) :
    EngineMoves disk workspace action
      ((workspace.aliases name).foldl Engine.markDirty workspace.analysis.engine)

theorem engineMoves_perform (disk : Disk) (workspace : Workspace LineEngine) (action : Action) :
    EngineMoves disk workspace action (workspace.perform disk action).analysis.engine := by
  have moves := workspace.moves_perform disk action
  generalize reached : workspace.perform disk action = after at moves ⊢
  cases moves with
  | idle => exact .kept
  | refreshed uri =>
    exact Analysis.ensureFresh_induction (EngineMoves disk workspace action ·.engine) .kept
      (.checked _)
  | edited uri document reason own =>
    have engine : (workspace.edit (ModuleName.ofUri uri) document reason).analysis.engine =
        (workspace.aliases (ModuleName.ofUri uri)).foldl Engine.markDirty
          workspace.analysis.engine := by
      rw [analysis_edit]
      exact (List.foldl_hom (fun analysis : Analysis LineEngine => analysis.engine)
        fun _ _ => rfl).symm
    rw [engine]
    refine .edited _ ?_
    rw [reached]
    exact congrArg Option.isSome (Table.get?_insert_self ..)
  | closed uri => exact .kept
  | configured configuration => exact .kept
  | loaded manifest => exact .reloaded manifest rfl

/-! ## Modules that are on the disk alone -/

/-- There is no instance tree and no document of the module. -/
structure Away (workspace : Workspace LineEngine) (name : ModuleName) : Prop where
  bare : workspace.files.instances = none
  closed : workspace.document? name = none

/-- A run during which there is no instance tree. -/
def Treeless (workspace : Workspace LineEngine) : List (Disk × Action) → Prop
  | [] => workspace.files.instances = none
  | step :: rest =>
    workspace.files.instances = none ∧ Treeless (workspace.perform step.1 step.2) rest

/-- The engine has the given problems of a module, or it reads the module again first. -/
def HandsOver (workspace : Workspace LineEngine) (name : ModuleName) (said : List Problem) : Prop :=
  workspace.analysis.engine.isDirty name = true ∨
    workspace.analysis.engine.keptProblems name = said

variable {steps : List (Disk × Action)} {said : List Problem}

theorem Treeless.bare (treeless : workspace.Treeless steps) : workspace.files.instances = none := by
  cases steps with
  | nil => exact treeless
  | cons step rest => exact treeless.1

theorem treeless_append {front back : List (Disk × Action)} :
    workspace.Treeless (front ++ back) →
      workspace.Treeless front ∧ (workspace.run front).Treeless back := by
  induction front generalizing workspace with
  | nil => exact fun treeless => ⟨treeless.bare, treeless⟩
  | cons step rest ih =>
    rintro ⟨bare, treeless⟩
    exact ⟨⟨bare, (ih treeless).1⟩, (ih treeless).2⟩

theorem document?_perform_of_closed (closed : workspace.document? name = none) {action : Action}
    (unopened : ∀ document, action.step? name ≠ some (.opened document)) :
    (workspace.perform disk action).document? name = none := by
  rw [document?_perform, closed]
  cases named : action.step? name with
  | none => rfl
  | some step =>
    cases step with
    | opened document => exact absurd named (unopened document)
    | updated update => rfl
    | closed => rfl

/-- What every step keeps as long as a module is on the disk alone. -/
theorem away_induction (property : Workspace LineEngine → Prop) (away : workspace.Away name)
    (treeless : workspace.Treeless steps)
    (unopened : ∀ step ∈ steps, ∀ document, step.2.step? name ≠ some (.opened document))
    (keeps : ∀ step ∈ steps, ∀ workspace : Workspace LineEngine, workspace.Away name →
      (workspace.perform step.1 step.2).Away name → property workspace →
        property (workspace.perform step.1 step.2))
    (start : property workspace) : (workspace.run steps).Away name ∧ property (workspace.run steps) := by
  induction steps generalizing workspace with
  | nil => exact ⟨away, start⟩
  | cons step rest ih =>
    have next : (workspace.perform step.1 step.2).Away name :=
      ⟨treeless.2.bare, document?_perform_of_closed away.closed (unopened step (List.mem_cons_self ..))⟩
    refine ih next treeless.2 (fun later member => unopened later (List.mem_cons_of_mem _ member))
      (fun later member => keeps later (List.mem_cons_of_mem _ member)) ?_
    exact keeps step (List.mem_cons_self ..) workspace away next start

/-- Without a tree the file of a module is always the same one. -/
theorem Away.fileProblems_eq {later : Workspace LineEngine} (there : later.Away name)
    (away : workspace.Away name) (disk : Disk) :
    later.files.fileProblems disk name = workspace.files.fileProblems disk name :=
  Files.fileProblems_congr (Files.fileText?_congr_of_bare there.bare away.bare disk name)

/-- Once the engine would report the file as it is, it goes on to do so. -/
theorem HandsOver.perform (away : workspace.Away name)
    (here : workspace.files.fileProblems disk name = said) (action : Action)
    (ready : workspace.HandsOver name said) :
    (workspace.perform disk action).HandsOver name said := by
  have moves := engineMoves_perform disk workspace action
  -- Marks make more modules dirty and leave what is kept.
  have marked : ∀ names : List ModuleName,
      (names.foldl Engine.markDirty workspace.analysis.engine).isDirty name = true ∨
        (names.foldl Engine.markDirty workspace.analysis.engine).keptProblems name = said := by
    intro names
    rw [LineEngine.keptProblems_foldl_markDirty,
      (LineEngine.foldl_markDirty names workspace.analysis.engine name).2]
    exact ready.imp (fun dirty => by rw [dirty, Bool.or_true]) id
  unfold HandsOver
  generalize (workspace.perform disk action).analysis.engine = engine at moves ⊢
  cases moves with
  | kept => exact ready
  | checked root =>
    rcases workspace.analysis.engine.check_cases (workspace.files.view disk) root name with
      ⟨-, -, read⟩ | ⟨-, kept, marks⟩
    · right
      rw [read, Files.problems_view_of_closed away.bare away.closed, here]
    · rwa [kept, marks]
  | reloaded manifest loading => exact marked _
  | edited other opened => exact marked _

/-- A check of the module itself reads the file. -/
theorem handsOver_of_checked (away : workspace.Away name)
    (here : workspace.files.fileProblems disk name = said) (action : Action)
    (counted : (workspace.perform disk action).analysis.engine.checkCount name ≠
      workspace.analysis.engine.checkCount name) :
    (workspace.perform disk action).HandsOver name said := by
  have moves := engineMoves_perform disk workspace action
  unfold HandsOver
  generalize (workspace.perform disk action).analysis.engine = engine at moves counted ⊢
  cases moves with
  | kept => exact absurd rfl counted
  | checked root =>
    -- Only a check that starts from the module is counted for it.
    have itself : name = root := by
      by_contra other
      exact counted (by rw [LineEngine.checkCount_check, if_neg other, Nat.add_zero])
    subst itself
    have bounded := (Files.rooted_of_bare away.bare).bounded disk
    have visited := (workspace.analysis.engine.mem_order_iff _ name bounded name).mpr .refl
    rcases workspace.analysis.engine.check_cases (workspace.files.view disk) name name with
      ⟨-, -, read⟩ | ⟨unread, -⟩
    · right
      rw [read, Files.problems_view_of_closed away.bare away.closed, here]
    · exact absurd ⟨visited, Or.inl rfl⟩ unread
  | reloaded manifest loading =>
    exact absurd (LineEngine.checkCount_foldl_markDirty ..) counted
  | edited other opened =>
    exact absurd (LineEngine.checkCount_foldl_markDirty ..) counted

/-- A load marks the module, so that the next check that visits it reads the file. -/
theorem handsOver_loadManifest (known : workspace.analysis.dirty.Known name) (manifest : Path) :
    (workspace.loadManifest disk manifest).2.HandsOver name said := by
  left
  by_contra clean
  rw [Bool.not_eq_true, isDirty_loadManifest, Unnoticed] at clean
  simp [Requires.DirtySet.Known, clean.1] at known

theorem checkCount_le_perform (disk : Disk) (workspace : Workspace LineEngine) (name : ModuleName)
    (action : Action) :
    workspace.analysis.engine.checkCount name ≤
      (workspace.perform disk action).analysis.engine.checkCount name := by
  have moves := engineMoves_perform disk workspace action
  generalize (workspace.perform disk action).analysis.engine = engine at moves ⊢
  cases moves with
  | kept => exact Nat.le_refl _
  | checked root =>
    rw [LineEngine.checkCount_check]
    exact Nat.le_add_right ..
  | reloaded manifest loading => exact Nat.le_of_eq (LineEngine.checkCount_foldl_markDirty ..).symm
  | edited other opened => exact Nat.le_of_eq (LineEngine.checkCount_foldl_markDirty ..).symm

/-- Only a load and a check of the module itself have the engine give up what it keeps. -/
theorem kept_perform (away : workspace.Away name) {action : Action}
    (next : (workspace.perform disk action).Away name)
    (unloaded : ∀ manifest, action ≠ .loading manifest)
    (clean : workspace.analysis.engine.isDirty name = false)
    (uncounted : (workspace.perform disk action).analysis.engine.checkCount name =
      workspace.analysis.engine.checkCount name) :
    (workspace.perform disk action).analysis.engine.isDirty name = false ∧
      (workspace.perform disk action).analysis.engine.keptProblems name =
        workspace.analysis.engine.keptProblems name := by
  have moves := engineMoves_perform disk workspace action
  generalize (workspace.perform disk action).analysis.engine = engine at moves uncounted ⊢
  cases moves with
  | kept => exact ⟨clean, rfl⟩
  | checked root =>
    have other : name ≠ root := by
      rintro rfl
      simp [LineEngine.checkCount_check] at uncounted
    rcases workspace.analysis.engine.check_cases (workspace.files.view disk) root name with
      ⟨-, reads, -⟩ | ⟨-, kept, marks⟩
    · simp [other, clean] at reads
    · exact ⟨marks.trans clean, kept⟩
  | reloaded manifest loading => exact absurd loading (unloaded manifest)
  | edited edited opened =>
    have differs : name ≠ edited := by
      rintro rfl
      simp [next.closed] at opened
    refine ⟨?_, LineEngine.keptProblems_foldl_markDirty ..⟩
    -- Without a tree the edit marks the edited module alone, and that one is open now.
    rw [(LineEngine.foldl_markDirty _ workspace.analysis.engine name).2, clean,
      aliases_of_bare away.bare]
    simpa using differs

theorem kept_run (away : workspace.Away name) (treeless : workspace.Treeless steps)
    (unopened : ∀ step ∈ steps, ∀ document, step.2.step? name ≠ some (.opened document))
    (unloaded : ∀ step ∈ steps, ∀ manifest, step.2 ≠ .loading manifest)
    (clean : workspace.analysis.engine.isDirty name = false)
    (uncounted : (workspace.run steps).analysis.engine.checkCount name =
      workspace.analysis.engine.checkCount name) :
    (workspace.run steps).analysis.engine.isDirty name = false ∧
      (workspace.run steps).analysis.engine.keptProblems name =
        workspace.analysis.engine.keptProblems name := by
  -- Counts only grow, so as long as the module was not checked all steps so far left it alone.
  let start := workspace.analysis.engine
  let property (after : Workspace LineEngine) : Prop :=
    start.checkCount name ≤ after.analysis.engine.checkCount name ∧
      (after.analysis.engine.checkCount name = start.checkCount name →
        after.analysis.engine.isDirty name = false ∧
          after.analysis.engine.keptProblems name = start.keptProblems name)
  have kept : property (workspace.run steps) := by
    refine (away_induction property away treeless unopened ?_
      ⟨Nat.le_refl _, fun _ => ⟨clean, rfl⟩⟩).2
    intro step member before away next ⟨grown, kept⟩
    have grows := checkCount_le_perform step.1 before name step.2
    refine ⟨Nat.le_trans grown grows, fun same => ?_⟩
    obtain ⟨clean, form⟩ := kept (by omega)
    obtain ⟨still, same_form⟩ := kept_perform away next (unloaded step member) clean (by omega)
    exact ⟨still, same_form.trans form⟩
  exact kept.2 uncounted

section

variable (unopened : ∀ step ∈ steps, ∀ document, step.2.step? name ≠ some (.opened document))
  (here : ∀ step ∈ steps, workspace.files.fileProblems step.1 name = said)

include unopened here

theorem HandsOver.run (away : workspace.Away name) (treeless : workspace.Treeless steps)
    (ready : workspace.HandsOver name said) : (workspace.run steps).HandsOver name said := by
  refine (away_induction (HandsOver · name said) away treeless unopened
    (fun step member before there _ ready => ?_) ready).2
  exact ready.perform there ((there.fileProblems_eq away _).trans (here step member)) step.2

theorem handsOver_run_of_counted (away : workspace.Away name) (treeless : workspace.Treeless steps)
    (counted : (workspace.run steps).analysis.engine.checkCount name ≠
      workspace.analysis.engine.checkCount name) : (workspace.run steps).HandsOver name said := by
  let property (after : Workspace LineEngine) : Prop :=
    after.analysis.engine.checkCount name = workspace.analysis.engine.checkCount name ∨
      after.HandsOver name said
  have reached : property (workspace.run steps) := by
    refine (away_induction property away treeless unopened
      (fun step member before there _ so_far => ?_) (Or.inl rfl)).2
    have still : before.files.fileProblems step.1 name = said :=
      (there.fileProblems_eq away _).trans (here step member)
    rcases so_far with same | ready
    · by_cases again : (before.perform step.1 step.2).analysis.engine.checkCount name =
        before.analysis.engine.checkCount name
      · exact Or.inl (again.trans same)
      · exact Or.inr (handsOver_of_checked there still step.2 again)
    · exact Or.inr (ready.perform there still step.2)
  exact reached.resolve_left counted

theorem handsOver_run_of_loaded (away : workspace.Away name)
    (known : workspace.analysis.dirty.Known name) (treeless : workspace.Treeless steps)
    (loaded : ∃ step ∈ steps, ∃ manifest, step.2 = .loading manifest) :
    (workspace.run steps).HandsOver name said := by
  obtain ⟨step, member, manifest, loading⟩ := loaded
  -- The run up to the load keeps the module known, so the load marks it.
  obtain ⟨front, back, rfl⟩ := List.append_of_mem member
  obtain ⟨before, later⟩ := treeless_append treeless
  have reached : (workspace.run front).Away name ∧
      (workspace.run front).analysis.dirty.Known name := by
    refine away_induction (·.analysis.dirty.Known name) away before ?_
      (fun step _ _ _ _ known => known_perform known step.2) known
    exact fun step member => unopened step (List.mem_append_left _ member)
  obtain ⟨there, still_known⟩ := reached
  have next : ((workspace.run front).perform step.1 step.2).Away name :=
    ⟨later.2.bare, document?_perform_of_closed there.closed (unopened step member)⟩
  rw [run_append, run_cons]
  have rest : ∀ other ∈ back, other ∈ front ++ step :: back := fun other member =>
    List.mem_append_right front (List.mem_cons_of_mem step member)
  refine HandsOver.run (fun step member => unopened step (rest step member))
    (fun step member => ?_) next later.2 ?_
  · exact (next.fileProblems_eq away _).trans (here step (rest step member))
  · rw [loading]
    exact handsOver_loadManifest still_known manifest

end

/-- A check that visits a module that is on the disk alone reports the file exactly if it starts
there or the engine hands over. -/
theorem Away.report_iff (away : workspace.Away name) (owned : workspace.analysis.engine.Owned)
    {root : ModuleName}
    (way : Reaches (workspace.analysis.engine.requires (workspace.files.view disk) root) root name) :
    (workspace.analysis.engine.check (workspace.files.view disk) root).1.filter
        (fun problem => problem.owner = name) = workspace.files.fileProblems disk name ↔
      root = name ∨ workspace.HandsOver name (workspace.files.fileProblems disk name) := by
  have bounded := (Files.rooted_of_bare away.bare).bounded disk
  rw [owned.filter_check bounded way, HandsOver]
  by_cases reads : name = root ∨ workspace.analysis.engine.isDirty name = true
  · rw [LineEngine.problems_of_read reads, Files.problems_view_of_closed away.bare away.closed]
    exact iff_of_true rfl (reads.elim (fun same => Or.inl same.symm) fun dirty => Or.inr (Or.inl dirty))
  · simp only [not_or, Bool.not_eq_true] at reads
    rw [LineEngine.problems_of_kept reads.1 reads.2]
    simp [Ne.symm reads.1, reads.2]

theorem owned_perform (owned : workspace.analysis.engine.Owned) (action : Action) :
    (workspace.perform disk action).analysis.engine.Owned := by
  have moves := engineMoves_perform disk workspace action
  have marked : ∀ names : List ModuleName,
      (names.foldl Engine.markDirty workspace.analysis.engine).Owned := by
    intro names name
    rw [LineEngine.keptProblems_foldl_markDirty]
    exact owned name
  generalize (workspace.perform disk action).analysis.engine = engine at moves ⊢
  cases moves with
  | kept => exact owned
  | checked root => exact owned.check _ root
  | reloaded manifest loading => exact marked _
  | edited other opened => exact marked _

theorem owned_run (owned : workspace.analysis.engine.Owned) (steps : List (Disk × Action)) :
    (workspace.run steps).analysis.engine.Owned :=
  run_induction (fun after : Workspace LineEngine => after.analysis.engine.Owned)
    (fun step _ _ owned => owned_perform owned step.2) owned

end

/-- After a close a check that visits the module reports what the file on disk says exactly if the
check starts there or the engine is to read the module or already keeps what the file says. If the
file stays as it is, that comes down to the engine being so at the close, or to a load or a check
of the module itself since. -/
theorem report_closed_iff (origin : Origin) (documentation : Documentation)
    (before : List (Disk × Action)) (uri : Uri) (after : List (Disk × Action)) (disk : Disk)
    (root : ModuleName) :
    let name := ModuleName.ofUri uri
    let opened := (origin.create ({} : LineEngine) documentation).run before
    let closed := opened.closeDocument uri
    let later := closed.run after
    let engine := later.analysis.engine
    let view := later.files.view disk
    let said := later.files.fileProblems disk name
    (opened.document? name).isSome = true → closed.Treeless after →
      (∀ step ∈ after, ∀ document, step.2.step? name ≠ some (.opened document)) →
      Reaches (engine.requires view root) root name →
        let reported := (Engine.check engine view root).1.filter fun problem => problem.owner = name
        (reported = said ↔ root = name ∨ later.HandsOver name said) ∧
          ((∀ step ∈ after,
              later.files.fileText? step.1 name = later.files.fileText? disk name) →
            (reported = said ↔ root = name ∨ closed.HandsOver name said ∨
              (∃ step ∈ after, ∃ manifest, step.2 = .loading manifest) ∨
              engine.checkCount name ≠ closed.analysis.engine.checkCount name)) := by
  intro name opened closed later engine view said held treeless unopened way reported
  have registered : opened.Registered := registered_run origin documentation before
  have known : closed.analysis.dirty.Known name := registered name held
  have away : closed.Away name := ⟨treeless.bare, Table.get?_erase_self ..⟩
  have there : later.Away name :=
    (away_induction (fun _ => True) away treeless unopened (fun _ _ _ _ _ _ => trivial) trivial).1
  have new : (origin.create ({} : LineEngine) documentation).analysis.engine.Owned := by
    cases origin <;> exact LineEngine.owned_empty
  have closed_owned : closed.analysis.engine.Owned := owned_run new before
  have owned : engine.Owned := owned_run closed_owned after
  have now : reported = said ↔ root = name ∨ later.HandsOver name said := there.report_iff owned way
  refine ⟨now, fun same => now.trans (or_congr_right ?_)⟩
  have here : ∀ step ∈ after, closed.files.fileProblems step.1 name = said := fun step member =>
    (away.fileProblems_eq there _).trans (Files.fileProblems_congr (same step member))
  constructor
  · intro ready
    by_contra unread
    simp only [not_or, not_exists, not_and, not_not] at unread
    obtain ⟨kept, unloaded, uncounted⟩ := unread
    -- Nothing had the engine read the file, so it is where it was at the close.
    refine kept ?_
    by_cases clean : closed.analysis.engine.isDirty name = false
    · obtain ⟨still, form⟩ := kept_run away treeless unopened unloaded clean uncounted
      rcases ready with dirty | keeps
      · exact absurd (still.symm.trans dirty) Bool.false_ne_true
      · exact Or.inr (form.symm.trans keeps)
    · exact Or.inl (by simpa using clean)
  · rintro (ready | loaded | counted)
    · exact ready.run unopened here away treeless
    · exact handsOver_run_of_loaded unopened here away known treeless loaded
    · exact handsOver_run_of_counted unopened here away treeless counted

namespace Handover

def one : Uri := Place.file "a.luau"

def two : Uri := Place.file "b.luau"

/-- The module that `two` names. -/
def behind : ModuleName := ⟨"/place/b.luau"⟩

def disk : Disk :=
  ⟨⟨[ (["place"], .directory),
      (["place", "a.luau"], .text "local B = require(\"b.luau\")\n"),
      (["place", "b.luau"], .text "-- error: disk\n") ]⟩⟩

/-- The second file is opened, and the first one is checked while it is open. -/
def before : List (Disk × Action) :=
  [ .opening two "luau" 1 "-- error: live\n",
    .asking one .diagnostics ].map (disk, ·)

def opened : Workspace LineEngine :=
  ((Origin.folder "place" (Place.file "")).create {} {}).run before

def closed : Workspace LineEngine := opened.closeDocument two

/-- The first file is opened with the text that it has on the disk. -/
def after : List (Disk × Action) :=
  [(disk, .opening one "luau" 1 "local B = require(\"b.luau\")\n")]

/-- What a check of the first file reports of the second one. -/
def reported (workspace : Workspace LineEngine) : List Problem :=
  (Engine.check workspace.analysis.engine (workspace.files.view disk) ⟨"/place/a.luau"⟩).1.filter
    fun problem => problem.owner = behind

theorem unopened (question : Question) :
    ∀ step ∈ after ++ [(disk, .asking two question)], ∀ document,
      step.2.step? behind ≠ some (.opened document) := by
  have other : behind ≠ ModuleName.ofUri one := by decide +kernel
  simp [after, Action.step?, other]

end Handover

/-- A dependent that is checked first still reports the document that was closed. -/
theorem report_closed_ne :
    let later := Handover.closed.run Handover.after
    (Handover.opened.document? Handover.behind).isSome = true ∧
      later.document? Handover.behind = none ∧ later.files.instances.isNone = true ∧
      (Handover.reported later).map (·.message) = ["live"] ∧
      (later.files.fileProblems Handover.disk Handover.behind).map (·.message) = ["disk"] := by
  decide +kernel

/-- After a question about the closed file itself its dependent reports what the disk says. -/
theorem report_closed_iff_asked :
    let after := Handover.after ++ [(Handover.disk, .asking Handover.two .diagnostics)]
    let later := Handover.closed.run after
    Handover.closed.Treeless after ∧
      Handover.reported later = later.files.fileProblems Handover.disk Handover.behind ∧
      (later.files.fileProblems Handover.disk Handover.behind).map (·.message) = ["disk"] := by
  intro after later
  have placed : (Handover.opened.document? (ModuleName.ofUri Handover.two)).isSome = true ∧
      Handover.behind ∈ later.analysis.engine.requires (later.files.view Handover.disk)
        ⟨"/place/a.luau"⟩ ⟨"/place/a.luau"⟩ ∧
      later.analysis.engine.checkCount Handover.behind ≠
        Handover.closed.analysis.engine.checkCount Handover.behind ∧
      (later.files.fileProblems Handover.disk Handover.behind).map (·.message) = ["disk"] := by
    decide +kernel
  obtain ⟨held, step, counted, said⟩ := placed
  have treeless : Handover.closed.Treeless after := ⟨rfl, rfl, rfl⟩
  have same : ∀ step ∈ after, later.files.fileText? step.1 Handover.behind =
      later.files.fileText? Handover.disk Handover.behind := by
    simp [after, Handover.after]
  have named : ModuleName.ofUri Handover.two = Handover.behind := by decide +kernel
  have report := report_closed_iff (.folder "place" (Place.file "")) {} Handover.before
    Handover.two after Handover.disk ⟨"/place/a.luau"⟩
  rw [named] at report
  refine ⟨treeless, ?_, said⟩
  have iff := (report (named ▸ held) treeless (Handover.unopened .diagnostics) (.single step)).2 same
  exact iff.mpr (Or.inr (Or.inr (Or.inr counted)))

end Workspace

end LuauWorkspace
