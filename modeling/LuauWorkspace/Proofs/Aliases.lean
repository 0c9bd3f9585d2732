import LuauWorkspace.Proofs.Reload

/-!
# Names of an edited file

A file can have its real name and the names of instances, and an edit marks the real name and the
one instance that its path leads back to. What reaches a marked name is stale afterwards, and its
result is not used again before the engine has checked it. Nothing else becomes stale: an
instance that shares its script with a later one, or whose script is not written as the path from
the root, reads the edited text unnoticed.
-/
namespace LuauWorkspace

open Requires (DirtyReason DirtySet Graph)
open Traversal (Reaches)

namespace Requires.DirtySet

variable {set : DirtySet}

/-- An edit makes stale what reaches the edited module and nothing else. -/
theorem isStale_markDirty_iff (timed : set.Timed) (marked : ModuleName) (reason : DirtyReason)
    (name : ModuleName) (graph : Graph) :
    (set.markDirty marked reason).isStale name graph = true ↔
      set.isStale name graph = true ∨ Reaches graph.requiredBy name marked := by
  rw [← not_iff_not, not_or, Bool.not_eq_true, Bool.not_eq_true, isStale_eq_false_iff,
    isStale_eq_false_iff]
  simp only [checkedAt?_markDirty]
  constructor
  · rintro ⟨stamp, checked, clean, unedited⟩
    have past := timed.checked name stamp checked
    have differs : name ≠ marked := by
      rintro rfl
      simp [isDirty_markDirty] at clean
    rw [isDirty_markDirty_of_ne set marked reason differs] at clean
    -- The mark is newer than any check, so what is still fresh cannot lead to it.
    have apart : ¬ Reaches graph.requiredBy name marked := fun way => by
      have early := unedited marked way differs.symm
      rw [editedAfter_markDirty, if_pos rfl, decide_eq_false_iff_not] at early
      omega
    refine ⟨⟨stamp, checked, clean, fun other way outside => ?_⟩, apart⟩
    have early := unedited other way outside
    rwa [editedAfter_markDirty, if_neg fun same : other = marked => apart (same ▸ way)] at early
  · rintro ⟨⟨stamp, checked, clean, unedited⟩, apart⟩
    have differs : name ≠ marked := fun same => apart (same ▸ .refl)
    refine ⟨stamp, checked, ?_, fun other way outside => ?_⟩
    · rwa [isDirty_markDirty_of_ne set marked reason differs]
    · rw [editedAfter_markDirty, if_neg fun same : other = marked => apart (same ▸ way)]
      exact unedited other way outside

theorem isStale_foldl_markDirty_iff (timed : set.Timed) (names : List ModuleName)
    (reason : DirtyReason) (name : ModuleName) (graph : Graph) :
    (names.foldl (fun set marked => set.markDirty marked reason) set).isStale name graph = true ↔
      set.isStale name graph = true ∨ ∃ marked ∈ names, Reaches graph.requiredBy name marked := by
  induction names generalizing set with
  | nil => simp
  | cons first rest ih =>
    rw [List.foldl_cons, ih (timed.markDirty first reason), isStale_markDirty_iff timed]
    simp only [List.exists_mem_cons_iff, or_assoc]

end Requires.DirtySet

namespace Analysis

variable {ε : Type} [Engine ε] {analysis : Analysis ε}

theorem foldl_markDirty (names : List ModuleName) (reason : DirtyReason) :
    (names.foldl (fun analysis marked => analysis.markDirty marked reason) analysis).dirty =
        names.foldl (fun set marked => set.markDirty marked reason) analysis.dirty ∧
      (names.foldl (fun analysis marked => analysis.markDirty marked reason) analysis).graph =
        analysis.graph := by
  induction names generalizing analysis with
  | nil => exact ⟨rfl, rfl⟩
  | cons first rest ih => exact ih

/-! ## Results that are not used any more -/

/-- The result of a module was dropped, or the module has to be checked before it is used. -/
def Dropped (analysis : Analysis ε) (name : ModuleName) : Prop :=
  analysis.results.get? name = none ∨ analysis.dirty.isDirty name = true

theorem Dropped.markDirty {name : ModuleName} (dropped : analysis.Dropped name)
    (marked : ModuleName) (reason : DirtyReason) :
    (analysis.markDirty marked reason).Dropped name := by
  rcases dropped with gone | dirty
  · left
    rw [Analysis.markDirty, get?_foldl_erase, gone, ite_self]
  · right
    by_cases same : name = marked
    · exact same ▸ analysis.dirty.isDirty_markDirty name reason
    · exact (analysis.dirty.isDirty_markDirty_of_ne marked reason same).trans dirty

theorem dropped_markDirty {name marked : ModuleName}
    (way : Reaches analysis.graph.requiredBy name marked) (reason : DirtyReason) :
    (analysis.markDirty marked reason).Dropped name := by
  by_cases same : name = marked
  · exact Or.inr (same ▸ analysis.dirty.isDirty_markDirty name reason)
  -- What depends on the marked module loses its result, the module itself is dirty.
  · left
    have dependent := (analysis.graph.mem_dependents_iff name marked).mpr ⟨way, same⟩
    rw [Analysis.markDirty, get?_foldl_erase, if_pos dependent]

theorem dropped_foldl_markDirty {name : ModuleName} {names : List ModuleName}
    (way : ∃ marked ∈ names, Reaches analysis.graph.requiredBy name marked)
    (reason : DirtyReason) :
    (names.foldl (fun analysis marked => analysis.markDirty marked reason) analysis).Dropped
      name := by
  induction names generalizing analysis with
  | nil => simp at way
  | cons first rest ih =>
    rcases List.exists_mem_cons_iff .. |>.mp way with here | there
    · exact List.foldlRecOn (motive := fun after : Analysis ε => after.Dropped name) rest _
        (dropped_markDirty here reason) fun _ dropped marked _ => dropped.markDirty marked reason
    · exact ih there

/-- Whatever is known of a module was found by a check after the clock showed `since`. -/
structure Renewed (analysis : Analysis ε) (since : Nat) (name : ModuleName) : Prop where
  begun : since ≤ analysis.dirty.clock
  renewed : analysis.Dropped name ∨
    ∃ stamp, analysis.dirty.checkedAt? name = some stamp ∧ since < stamp

variable {since : Nat} {name : ModuleName}

theorem Renewed.markDirty (old : analysis.Renewed since name) (marked : ModuleName)
    (reason : DirtyReason) : (analysis.markDirty marked reason).Renewed since name := by
  refine ⟨Nat.le_succ_of_le old.begun, old.renewed.imp (fun dropped => ?_) fun checked => ?_⟩
  · exact dropped.markDirty marked reason
  · simpa [Analysis.markDirty] using checked

theorem Renewed.ensureFresh (old : analysis.Renewed since name) (view : SourceView)
    (asked : ModuleName) : (analysis.ensureFresh view asked).Renewed since name := by
  refine ensureFresh_induction (·.Renewed since name) old ⟨Nat.le_succ_of_le old.begun, ?_⟩
  change (_ ∨ _) ∨ ∃ stamp, (analysis.dirty.markChecked asked).checkedAt? name = _ ∧ _
  rw [DirtySet.checkedAt?_markChecked]
  -- A check of the module itself is younger than `since`; other checks do not touch it.
  by_cases same : name = asked
  · exact Or.inr ⟨analysis.dirty.clock + 1, if_pos same, Nat.lt_succ_of_le old.begun⟩
  · rw [if_neg same]
    refine old.renewed.imp (Or.imp (fun gone => ?_) fun dirty => ?_) id
    · exact (Table.get?_insert_of_ne _ _ same).trans gone
    · exact (analysis.dirty.isDirty_markChecked_of_ne asked same).trans dirty

theorem Renewed.invalidateAll (old : analysis.Renewed since name) :
    analysis.invalidateAll.Renewed since name := by
  have begun : since ≤ analysis.dirty.invalidateAll.clock :=
    List.foldlRecOn (motive := fun set : DirtySet => since ≤ set.clock) _ _ old.begun
      fun _ before _ _ => Nat.le_succ_of_le before
  refine ⟨begun, old.renewed.imp (Or.imp id fun dirty => ?_) ?_⟩
  · change analysis.dirty.invalidateAll.isDirty name = true
    rw [DirtySet.invalidateAll, DirtySet.isDirty_foldl_markDirty, dirty, Bool.or_true]
  · rintro ⟨stamp, checked, late⟩
    refine ⟨stamp, ?_, late⟩
    change analysis.dirty.invalidateAll.checkedAt? name = some stamp
    rw [DirtySet.invalidateAll, DirtySet.checkedAt?_foldl_markDirty, checked]

theorem Renewed.checkedAt (old : analysis.Renewed since name)
    (fresh : analysis.isFresh name = true) :
    ∃ stamp, analysis.dirty.checkedAt? name = some stamp ∧ since < stamp := by
  refine old.renewed.resolve_left fun dropped => ?_
  simp only [isFresh, isStale, Table.contains, Bool.and_eq_true, Bool.not_eq_true',
    Bool.or_eq_false_iff] at fresh
  obtain ⟨present, calm, -⟩ := fresh
  obtain ⟨_, _, clean, _⟩ := (DirtySet.isStale_eq_false_iff _ name _).mp calm
  rcases dropped with gone | dirty
  · simp [gone] at present
  · simp [clean] at dirty

end Analysis

namespace Workspace

section

variable {ε : Type} [Engine ε] {workspace after : Workspace ε}

theorem renewed_perform {since : Nat} {name : ModuleName}
    (old : workspace.analysis.Renewed since name) (disk : Disk) (action : Action) :
    (workspace.perform disk action).analysis.Renewed since name := by
  have moves := workspace.moves_perform disk action
  generalize workspace.perform disk action = after at moves ⊢
  cases moves with
  | idle => exact old
  | refreshed uri => exact old.ensureFresh _ _
  | edited uri document reason own =>
    exact analysis_edit_induction (·.Renewed since name)
      (fun _ old marked => old.markDirty marked reason) old
  | closed uri => exact old
  | configured configuration => exact old
  | loaded manifest => exact old.invalidateAll

/-- A workspace after a document was opened or an update of it was accepted. -/
inductive Edits (workspace : Workspace ε) (uri : Uri) : Workspace ε → Prop
  | opened (language : String) (version : Int) (text : String) :
    Edits workspace uri (workspace.openDocument uri language version text)
  | updated {update : Update} {after : Workspace ε}
    (accepted : workspace.updateDocument uri update = .ok after) : Edits workspace uri after

theorem Edits.eq_edit {uri : Uri} (edits : workspace.Edits uri after) :
    ∃ document reason, after = workspace.edit (ModuleName.ofUri uri) document reason := by
  cases edits with
  | opened language version text => exact ⟨⟨uri, language, version, text⟩, .opened, rfl⟩
  | updated accepted =>
    obtain ⟨_, document, _, _, same⟩ := (workspace.updateDocument_eq_ok_iff _ _ _).mp accepted
    exact ⟨document, .changed, same⟩

/-- A module whose text is that of a document, whenever the document is open. -/
def Reads (workspace : Workspace ε) (document module : ModuleName) : Prop :=
  ∃ node, workspace.files.source? module = some (document, node)

omit [Engine ε] in
/-- A real module reads the document of its own name, an instance the one of its script. -/
theorem reads_iff (document module : ModuleName) :
    workspace.Reads document module ↔
      (module.isVirtual = false ∧ module = document) ∨
        (module.isVirtual = true ∧ ∃ node script,
          workspace.files.virtualNode? module = some node ∧ node.script? = some script ∧
          ModuleName.ofPath (workspace.files.root.join ⟨script⟩) = document) := by
  unfold Reads Files.source?
  cases there : module.isVirtual with
  | false => simp
  | true =>
    simp only [if_true, Option.bind_eq_some_iff, Option.map_eq_some_iff, Prod.mk.injEq]
    constructor
    · rintro ⟨_, node, found, script, written, same, _⟩
      exact Or.inr ⟨trivial, node, script, found, written, same⟩
    · rintro (⟨real, _⟩ | ⟨_, node, script, found, written, same⟩)
      · simp at real
      · exact ⟨some node, node, found, script, written, same, rfl⟩

omit [Engine ε] in
theorem read?_of_reads {document : Document} {name module : ModuleName}
    (open_ : workspace.files.documents.get? name = some document)
    (reads : workspace.Reads name module) (disk : Disk) :
    (workspace.files.read? disk module).map (·.text) = some document.text := by
  obtain ⟨node, source⟩ := reads
  simp [Files.read?, source, Files.text?, open_]

/-- Some name that an edit of a document marks can be reached from a module. -/
def Noticed (workspace : Workspace ε) (document module : ModuleName) : Prop :=
  ∃ marked ∈ workspace.aliases document,
    Reaches workspace.analysis.graph.requiredBy module marked

theorem isStale_edit_iff (regular : workspace.Regular) (name : ModuleName) (document : Document)
    (reason : DirtyReason) (module : ModuleName) :
    (workspace.edit name document reason).analysis.isStale module = true ↔
      workspace.Noticed name module ∨
        workspace.analysis.dirty.isStale module workspace.analysis.graph = true ∨
        Engine.isDirty (workspace.edit name document reason).analysis.engine module = true := by
  obtain ⟨dirty, graph⟩ := workspace.analysis.foldl_markDirty (workspace.aliases name) reason
  have marks := DirtySet.isStale_foldl_markDirty_iff regular.timed (workspace.aliases name) reason
    module workspace.analysis.graph
  rw [Analysis.isStale, Bool.or_eq_true, analysis_edit, dirty, graph, marks, Noticed, or_assoc,
    or_left_comm]

/-- What an edit notices is not answered from an older result in any later state. -/
theorem checkedAt_of_noticed {name : ModuleName} (document : Document) (reason : DirtyReason)
    {module : ModuleName} (noticed : workspace.Noticed name module)
    (later : List (Disk × Action))
    (fresh : ((workspace.edit name document reason).run later).analysis.isFresh module = true) :
    ∃ stamp,
      ((workspace.edit name document reason).run later).analysis.dirty.checkedAt? module =
          some stamp ∧
        (workspace.edit name document reason).analysis.dirty.clock < stamp := by
  let after := workspace.edit name document reason
  have dropped : after.analysis.Dropped module := by
    rw [analysis_edit]
    exact Analysis.dropped_foldl_markDirty noticed reason
  have old : after.analysis.Renewed after.analysis.dirty.clock module :=
    ⟨Nat.le_refl _, Or.inl dropped⟩
  have renewed : (after.run later).analysis.Renewed after.analysis.dirty.clock module :=
    run_induction (·.analysis.Renewed after.analysis.dirty.clock module)
      (fun step _ _ old => renewed_perform old step.1 step.2) old
  exact renewed.checkedAt fresh

end

/-- After an edit of a document, everything that reaches a module with its text is stale exactly
when all of it reaches a marked name, unless it was stale anyway. So it is when every module with the
text is marked itself. What does reach a marked name is checked again before it is answered for. -/
theorem isStale_of_reads_iff {ε : Type} [Engine ε] (origin : Origin) (engine : ε)
    (documentation : Documentation) (steps : List (Disk × Action)) (uri : Uri)
    (after : Workspace ε)
    (edits : ((origin.create engine documentation).run steps).Edits uri after) :
    let workspace := (origin.create engine documentation).run steps
    let name := ModuleName.ofUri uri
    (∃ document, after.files.documents.get? name = some document ∧
        ∀ module disk, after.Reads name module →
          (after.files.read? disk module).map (·.text) = some document.text) ∧
      ((∀ module, after.Reads name module →
          ∀ dependent, Reaches after.analysis.graph.requiredBy dependent module →
            after.analysis.isStale dependent = true) ↔
        ∀ module, after.Reads name module →
          ∀ dependent, Reaches after.analysis.graph.requiredBy dependent module →
            after.Noticed name dependent ∨
              workspace.analysis.dirty.isStale dependent workspace.analysis.graph = true ∨
              Engine.isDirty after.analysis.engine dependent = true) ∧
      ((∀ module, after.Reads name module → module ∈ after.aliases name) →
        ∀ module, after.Reads name module →
          ∀ dependent, Reaches after.analysis.graph.requiredBy dependent module →
            after.analysis.isStale dependent = true) ∧
      ∀ dependent, after.Noticed name dependent → ∀ later : List (Disk × Action),
        (after.run later).analysis.isFresh dependent = true →
          ∃ stamp, (after.run later).analysis.dirty.checkedAt? dependent = some stamp ∧
            after.analysis.dirty.clock < stamp := by
  intro workspace name
  have regular : workspace.Regular := (regular_create origin engine documentation).run steps
  obtain ⟨document, reason, rfl⟩ := edits.eq_edit
  have noticed : ∀ dependent, (workspace.edit name document reason).Noticed name dependent ↔
      workspace.Noticed name dependent := by
    intro dependent
    -- Marking records nothing in the graph and documents do not move names.
    have graph : (workspace.edit name document reason).analysis.graph =
        workspace.analysis.graph := by
      rw [analysis_edit]
      exact (Analysis.foldl_markDirty _ reason).2
    rw [Noticed, graph]
    rfl
  refine ⟨⟨document, Table.get?_insert_self .., fun module disk reads => ?_⟩, ?_, ?_, ?_⟩
  · exact read?_of_reads (Table.get?_insert_self ..) reads disk
  · refine forall_congr' fun module => forall_congr' fun reads => forall_congr' fun dependent =>
      forall_congr' fun way => ?_
    rw [noticed]
    exact isStale_edit_iff regular name document reason dependent
  · intro marks module reads dependent way
    rw [isStale_edit_iff regular, ← noticed]
    exact Or.inl ⟨module, marks module reads, way⟩
  · intro dependent marked later fresh
    exact checkedAt_of_noticed document reason ((noticed dependent).mp marked) later fresh

namespace Shared

/-- A manifest of two instances `A` and `B` with one script. -/
def manifest : String :=
  "\x7b\"name\":\"P\",\"className\":\"DataModel\",\"children\":[" ++
    "\x7b\"name\":\"A\",\"className\":\"\",\"filePaths\":[\"u.lua\"]\x7d," ++
    "\x7b\"name\":\"B\",\"className\":\"\",\"filePaths\":[\"u.lua\"]\x7d]\x7d"

def tree : Instances.Tree :=
  ⟨#[{ name := "P", className := "DataModel", filePaths := [], children := [1, 2],
        virtualPath := ⟨"game"⟩ },
      { name := "A", className := "", filePaths := ["u.lua"], virtualPath := ⟨"game/A"⟩ },
      { name := "B", className := "", filePaths := ["u.lua"], virtualPath := ⟨"game/B"⟩ }]⟩

def disk : Disk :=
  ⟨⟨[ (["place"], .directory),
      (["place", "shared.json"], .text manifest),
      (["place", "main.luau"], .text "local A = require(game.A)\n"),
      (["place", "u.lua"], .text "-- error: on disk\n") ]⟩⟩

theorem load_shared : Instances.Tree.load disk ⟨"/place/shared.json"⟩ = .ok tree := by
  decide +kernel

def created : Workspace LineEngine := (Origin.folder "place" (Place.file "")).create {} {}

/-- A document that requires `A` was checked. -/
def checked : Workspace LineEngine :=
  created.run
    ([.loading ⟨"/place/shared.json"⟩, .asking (Place.file "main.luau") .diagnostics].map (disk, ·))

/-- Then the script is opened. -/
def edited : Workspace LineEngine :=
  checked.openDocument (Place.file "u.lua") "luau" 1 "-- error: opened\n"

def loaded : Workspace LineEngine :=
  { created with
    files := { created.files with instances := some tree }
    analysis := created.analysis.invalidateAll }

theorem edited_eq :
    edited = (loaded.diagnostics disk (Place.file "main.luau")).2.openDocument
      (Place.file "u.lua") "luau" 1 "-- error: opened\n" := by
  simp only [edited, checked, run, List.map_cons, List.map_nil, List.foldl_cons, List.foldl_nil,
    perform, loadManifest_of_ok load_shared, asked, loaded]

end Shared

theorem isStale_of_reads_later :
    Shared.checked.Edits (Place.file "u.lua") Shared.edited ∧
      Shared.edited.Noticed (ModuleName.ofUri (Place.file "u.lua")) ⟨"game/B"⟩ ∧
      ∀ later : List (Disk × Action),
        (Shared.edited.run later).analysis.isFresh ⟨"game/B"⟩ = true →
          ∃ stamp, (Shared.edited.run later).analysis.dirty.checkedAt? ⟨"game/B"⟩ = some stamp ∧
            Shared.edited.analysis.dirty.clock < stamp := by
  have edits : Shared.checked.Edits (Place.file "u.lua") Shared.edited := .opened ..
  have marked : (⟨"game/B"⟩ : ModuleName) ∈
      Shared.edited.aliases (ModuleName.ofUri (Place.file "u.lua")) := by
    rw [Shared.edited_eq]
    decide +kernel
  have noticed : Shared.edited.Noticed (ModuleName.ofUri (Place.file "u.lua")) ⟨"game/B"⟩ :=
    ⟨_, marked, .refl⟩
  exact ⟨edits, noticed, (isStale_of_reads_iff _ _ _ _ _ _ edits).2.2.2 _ noticed⟩

/-- Of two instances with one script the edit marks the later, so what requires the other still
answers for the old text. -/
theorem isStale_of_reads_earlier :
    Shared.checked.Edits (Place.file "u.lua") Shared.edited ∧
      Shared.edited.Reads (ModuleName.ofUri (Place.file "u.lua")) ⟨"game/A"⟩ ∧
      Reaches Shared.edited.analysis.graph.requiredBy ⟨"/place/main.luau"⟩ ⟨"game/A"⟩ ∧
      Shared.edited.analysis.isStale ⟨"/place/main.luau"⟩ = false ∧
      Place.messages (Shared.edited.diagnostics Shared.disk (Place.file "main.luau")).1 =
        [["TypeError: on disk"]] := by
  have source : (Shared.edited.files.source? ⟨"game/A"⟩).map (·.1) =
      some (ModuleName.ofUri (Place.file "u.lua")) := by
    rw [Shared.edited_eq]
    decide +kernel
  have checked : (⟨"game/A"⟩ : ModuleName) ∈
        Shared.edited.analysis.graph.requiredBy ⟨"/place/main.luau"⟩ ∧
      Shared.edited.analysis.isStale ⟨"/place/main.luau"⟩ = false ∧
      Place.messages (Shared.edited.diagnostics Shared.disk (Place.file "main.luau")).1 =
        [["TypeError: on disk"]] := by
    rw [Shared.edited_eq]
    decide +kernel
  obtain ⟨⟨name, node⟩, found, same⟩ := Option.map_eq_some_iff.mp source
  exact ⟨.opened .., ⟨node, by rw [found, ← same]⟩, .single checked.1, checked.2⟩

end Workspace

end LuauWorkspace
