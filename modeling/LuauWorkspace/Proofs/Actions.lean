import LuauWorkspace.Workspace
import LuauWorkspace.Proofs.Documents
import LuauWorkspace.Proofs.Extent
import LuauWorkspace.Proofs.Requires

/-!
# Actions on a workspace

Everything that a client can have a workspace do, as data. An action comes down to one of six
moves: it leaves the workspace as it is, refreshes a module, edits a document, drops one,
configures the workspace or loads a manifest. What all moves keep holds after every run.
-/
namespace LuauWorkspace

theorem eq_ok_of_toOption {ε α : Type} {result : Except ε α} {value : α}
    (kept : result.toOption = some value) : result = .ok value := by
  cases result with
  | error failure => simp [Except.toOption] at kept
  | ok found => exact congrArg Except.ok (Option.some.inj kept)

namespace Workspace

/-- What can be asked about a document. -/
inductive Question where
  | diagnostics
  | findings
  | links
  | hover (position : Position)
  | signatureHelp (position : Position)
  | definition (position : Position)
  | typeDefinition (position : Position)
  | completion (position : Position)

inductive Action where
  | opening (uri : Uri) (language : String) (version : Int) (text : String)
  | updating (uri : Uri) (update : Update)
  | closing (uri : Uri)
  | configuring (configuration : Configuration)
  | loading (manifest : Path)
  | asking (uri : Uri) (question : Question)

variable {ε : Type} [Engine ε]

/-- The workspace after a question. -/
def asked (workspace : Workspace ε) (disk : Disk) (uri : Uri) : Question → Workspace ε
  | .diagnostics => (workspace.diagnostics disk uri).2
  | .findings => (workspace.findings disk uri).2
  | .links => (workspace.links disk uri).2
  | .hover position => (workspace.hover disk uri position).2
  | .signatureHelp position => (workspace.signatureHelp disk uri position).2
  | .definition position => (workspace.definition disk uri position).2
  | .typeDefinition position => (workspace.typeDefinition disk uri position).2
  | .completion position => (workspace.completion disk uri position).2

/-- An update that is refused changes nothing. -/
def perform (disk : Disk) (workspace : Workspace ε) : Action → Workspace ε
  | .opening uri language version text => workspace.openDocument uri language version text
  | .updating uri update => (workspace.updateDocument uri update).toOption.getD workspace
  | .closing uri => workspace.closeDocument uri
  | .configuring configuration => workspace.configure configuration
  | .loading manifest => (workspace.loadManifest disk manifest).2
  | .asking uri question => workspace.asked disk uri question

/-- A run of actions, each with the disk as it is at that time. -/
def run (workspace : Workspace ε) (steps : List (Disk × Action)) : Workspace ε :=
  steps.foldl (fun workspace step => workspace.perform step.1 step.2) workspace

/-- Puts a document under a name and marks the name. -/
def edit (workspace : Workspace ε) (name : ModuleName) (document : Document)
    (reason : Requires.DirtyReason) : Workspace ε :=
  (workspace.withDocuments (workspace.files.documents.insert name document)).markDirty name reason

/-- What an action comes down to. A document that is edited keeps its URI. -/
inductive Moves (disk : Disk) (workspace : Workspace ε) : Action → Workspace ε → Prop
  | idle {action : Action} : Moves disk workspace action workspace
  | refreshed {action : Action} (uri : Uri) :
    Moves disk workspace action (workspace.refreshed disk uri)
  | edited {action : Action} (uri : Uri) (document : Document) (reason : Requires.DirtyReason)
    (own : document.uri = uri ∨
      ∃ held, workspace.files.documents.get? (ModuleName.ofUri uri) = some held ∧
        document.uri = held.uri) :
    Moves disk workspace action (workspace.edit (ModuleName.ofUri uri) document reason)
  | closed (uri : Uri) : Moves disk workspace (.closing uri) (workspace.closeDocument uri)
  | configured (configuration : Configuration) :
    Moves disk workspace (.configuring configuration) (workspace.configure configuration)
  | loaded (manifest : Path) :
    Moves disk workspace (.loading manifest) (workspace.loadManifest disk manifest).2

variable (disk : Disk) (workspace : Workspace ε)

theorem asked_cases (uri : Uri) (question : Question) :
    workspace.asked disk uri question = workspace ∨
      workspace.asked disk uri question = workspace.refreshed disk uri := by
  cases question with
  | links =>
    right
    simp only [asked, links]
    split <;> rfl
  | completion position =>
    simp only [asked, completion]
    split
    · exact Or.inl rfl
    · exact Or.inr rfl
  -- The other questions refresh first and only read afterwards.
  | _ => exact Or.inr rfl

/-- An update is accepted when its document is open and older. -/
theorem updateDocument_eq_ok_iff (uri : Uri) (update : Update) (after : Workspace ε) :
    workspace.updateDocument uri update = .ok after ↔
      ∃ held document, workspace.files.documents.get? (ModuleName.ofUri uri) = some held ∧
        held.update update = .ok document ∧
        after = workspace.edit (ModuleName.ofUri uri) document .changed := by
  unfold updateDocument Documents.update
  cases found : workspace.files.documents.get? (ModuleName.ofUri uri) with
  | none => simp [Except.map, found]
  | some held =>
    cases updated : held.update update with
    | error refusal => simp [Except.map, found, updated]
    | ok document => simp [Except.map, found, updated, edit, eq_comm]

/-- What the documents of a workspace are after an update, refused or not. -/
theorem documents_updateDocument (uri : Uri) (update : Update) :
    ((workspace.updateDocument uri update).toOption.getD workspace).files.documents =
      workspace.files.documents.updated (.ofUri uri) update := by
  unfold updateDocument Documents.updated
  cases result : workspace.files.documents.update (.ofUri uri) update <;>
    simp only [result] <;> rfl

theorem moves_perform (action : Action) :
    Moves disk workspace action (workspace.perform disk action) := by
  cases action with
  | opening uri language version text =>
    exact .edited uri ⟨uri, language, version, text⟩ .opened (Or.inl rfl)
  | updating uri update =>
    simp only [perform]
    cases result : workspace.updateDocument uri update with
    | error refusal => exact .idle
    | ok after =>
      obtain ⟨held, document, found, updated, rfl⟩ :=
        (workspace.updateDocument_eq_ok_iff uri update after).mp result
      exact .edited uri document .changed (Or.inr ⟨held, found, Document.uri_of_update updated⟩)
  | closing uri => exact .closed uri
  | configuring configuration => exact .configured configuration
  | loading manifest => exact .loaded manifest
  | asking uri question =>
    rw [perform]
    rcases workspace.asked_cases disk uri question with same | fresh
    · rw [same]
      exact .idle
    · rw [fresh]
      exact .refreshed uri

/-! ## Runs -/

variable {disk workspace}

theorem run_cons (step : Disk × Action) (steps : List (Disk × Action)) :
    workspace.run (step :: steps) = (workspace.perform step.1 step.2).run steps := rfl

theorem run_append (front back : List (Disk × Action)) :
    workspace.run (front ++ back) = (workspace.run front).run back :=
  List.foldl_append

theorem run_induction (property : Workspace ε → Prop) {steps : List (Disk × Action)}
    (keeps : ∀ step ∈ steps, ∀ workspace, property workspace →
      property (workspace.perform step.1 step.2))
    (start : property workspace) : property (workspace.run steps) := by
  induction steps generalizing workspace with
  | nil => exact start
  | cons step rest ih =>
    rw [run_cons]
    exact ih (fun later member => keeps later (List.mem_cons_of_mem _ member))
      (keeps step (List.mem_cons_self ..) workspace start)

/-- The names that an edit of a module marks. -/
def aliases (workspace : Workspace ε) (name : ModuleName) : List ModuleName :=
  name :: ((workspace.files.toVirtual? name).filter (· ≠ name)).toList

theorem analysis_edit (name : ModuleName) (document : Document)
    (reason : Requires.DirtyReason) :
    (workspace.edit name document reason).analysis =
      (workspace.aliases name).foldl (fun analysis marked => analysis.markDirty marked reason)
        workspace.analysis := by
  have same : ∀ documents, (workspace.withDocuments documents).files.toVirtual? name =
      workspace.files.toVirtual? name := fun _ => rfl
  -- `markDirty` marks a second name only if it is another one, and so does the filter.
  simp only [edit, markDirty, aliases, same]
  cases workspace.files.toVirtual? name with
  | none => rfl
  | some other =>
    by_cases twice : other = name <;> simp [twice, withDocuments, Option.filter]

/-- What marking a name keeps is kept by an edit. -/
theorem analysis_edit_induction (property : Analysis ε → Prop) {name : ModuleName}
    {document : Document} {reason : Requires.DirtyReason}
    (keeps : ∀ analysis, property analysis → ∀ marked,
      property (analysis.markDirty marked reason))
    (start : property workspace.analysis) :
    property (workspace.edit name document reason).analysis := by
  rw [analysis_edit]
  exact List.foldlRecOn (motive := property) _ _ start fun analysis holds marked _ =>
    keeps analysis holds marked

/-- What holds of a workspace from the start and is kept by all actions. -/
structure Regular (workspace : Workspace ε) : Prop where
  timed : workspace.analysis.dirty.Timed
  rooted : workspace.files.Rooted
  filed : workspace.files.documents.Filed
  compiled : workspace.ignore = .ofGlobs workspace.configuration.ignoreGlobs

theorem Regular.refreshed (regular : workspace.Regular) (uri : Uri) :
    (workspace.refreshed disk uri).Regular :=
  { regular with
    timed := Analysis.ensureFresh_induction (·.dirty.Timed) regular.timed
      (regular.timed.markChecked _) }

theorem Regular.edit (regular : workspace.Regular) (name : ModuleName) {document : Document}
    (own : ModuleName.ofUri document.uri = name) (reason : Requires.DirtyReason) :
    (workspace.edit name document reason).Regular := by
  refine ⟨?_, regular.rooted, regular.filed.insert own, regular.compiled⟩
  exact analysis_edit_induction (·.dirty.Timed)
    (fun _ timed marked => timed.markDirty marked reason) regular.timed

theorem Regular.loadManifest (regular : workspace.Regular) (manifest : Path) :
    (workspace.loadManifest disk manifest).2.Regular := by
  refine ⟨regular.timed.invalidateAll, ?_, regular.filed, regular.compiled⟩
  intro tree present
  have loaded : Instances.Tree.load disk manifest = .ok tree := eq_ok_of_toOption present
  exact Instances.Tree.rooted_load loaded

omit [Engine ε] in
/-- A new document is named by its own URI, a changed one as it was before. -/
theorem Regular.ofUri_eq (regular : workspace.Regular) {uri : Uri} {document : Document}
    (own : document.uri = uri ∨
      ∃ held, workspace.files.documents.get? (ModuleName.ofUri uri) = some held ∧
        document.uri = held.uri) : ModuleName.ofUri document.uri = ModuleName.ofUri uri := by
  rcases own with same | ⟨held, found, same⟩
  · rw [same]
  · rw [same, regular.filed.named _ held found]

theorem Regular.perform (regular : workspace.Regular) (action : Action) :
    (workspace.perform disk action).Regular := by
  have moves := workspace.moves_perform disk action
  generalize workspace.perform disk action = after at moves ⊢
  cases moves with
  | idle => exact regular
  | refreshed uri => exact regular.refreshed uri
  | edited uri document reason own =>
    exact regular.edit _ (regular.ofUri_eq own) reason
  | closed uri => exact { regular with filed := regular.filed.erase _ }
  | configured configuration => exact { regular with compiled := rfl }
  | loaded manifest => exact regular.loadManifest manifest

theorem Regular.run (regular : workspace.Regular) (steps : List (Disk × Action)) :
    (workspace.run steps).Regular :=
  run_induction Regular (fun _ _ _ regular => regular.perform _) regular

theorem root_perform (action : Action) :
    (workspace.perform disk action).files.root = workspace.files.root := by
  have moves := workspace.moves_perform disk action
  generalize workspace.perform disk action = after at moves ⊢
  cases moves <;> rfl

theorem name_perform (action : Action) :
    (workspace.perform disk action).name = workspace.name := by
  have moves := workspace.moves_perform disk action
  generalize workspace.perform disk action = after at moves ⊢
  cases moves <;> rfl

/-- The document that an action is about. -/
def Action.uri? : Action → Option Uri
  | .opening uri _ _ _ | .updating uri _ | .closing uri | .asking uri _ => some uri
  | .configuring _ | .loading _ => none

/-- An action brings no document in but the one that it is about. -/
theorem uri_of_get?_perform (action : Action) {name : ModuleName} {document : Document}
    (held : (workspace.perform disk action).files.documents.get? name = some document) :
    action.uri? = some document.uri ∨
      ∃ old before, workspace.files.documents.get? old = some before ∧
        document.uri = before.uri := by
  cases action with
  | opening uri language version text =>
    change (workspace.files.documents.insert _ _).get? name = some document at held
    rw [Table.get?_insert] at held
    split at held
    · exact Or.inl (congrArg (fun held : Document => some held.uri) (Option.some.inj held))
    · exact Or.inr ⟨name, document, held, rfl⟩
  | updating uri update =>
    right
    rw [perform] at held
    cases result : workspace.updateDocument uri update with
    | error refusal =>
      rw [result] at held
      exact ⟨name, document, held, rfl⟩
    | ok after =>
      obtain ⟨old, renewed, found, updated, rfl⟩ :=
        (workspace.updateDocument_eq_ok_iff uri update after).mp result
      rw [result] at held
      change (workspace.files.documents.insert _ _).get? name = some document at held
      rw [Table.get?_insert] at held
      split at held
      · obtain rfl := Option.some.inj held
        exact ⟨_, old, found, Document.uri_of_update updated⟩
      · exact ⟨name, document, held, rfl⟩
  | closing uri =>
    change (workspace.files.documents.erase _).get? name = some document at held
    rw [Table.get?_erase] at held
    split at held
    · simp at held
    · exact Or.inr ⟨name, document, held, rfl⟩
  | configuring configuration => exact Or.inr ⟨name, document, held, rfl⟩
  | loading manifest => exact Or.inr ⟨name, document, held, rfl⟩
  | asking uri question =>
    right
    rcases workspace.asked_cases disk uri question with same | same <;>
      (rw [perform, same] at held; exact ⟨name, document, held, rfl⟩)

theorem root_run (steps : List (Disk × Action)) :
    (workspace.run steps).files.root = workspace.files.root := by
  refine run_induction (fun after => after.files.root = workspace.files.root) ?_ rfl
  exact fun step _ after same => (root_perform step.2).trans same

/-! ## New workspaces -/

/-- What a workspace is made for: a folder or the files that belong to none. -/
inductive Origin where
  | folder (name : String) (uri : Uri)
  | null

def Origin.create (origin : Origin) (engine : ε) (documentation : Documentation) :
    Workspace ε :=
  match origin with
  | .folder name uri => .ofFolder name uri engine documentation
  | .null => .null engine documentation

omit [Engine ε] in
theorem regular_create (origin : Origin) (engine : ε) (documentation : Documentation) :
    (origin.create engine documentation).Regular := by
  cases origin <;>
    exact ⟨Requires.DirtySet.timed_empty, Files.rooted_of_bare rfl, Documents.filed_empty, rfl⟩

/-- Opens documents, one after the other. -/
def reopen (workspace : Workspace ε) (documents : List Document) : Workspace ε :=
  documents.foldl
    (fun workspace document =>
      workspace.openDocument document.uri document.language document.version document.text)
    workspace

theorem reopen_induction (property : Workspace ε → Prop) {documents : List Document}
    (keeps : ∀ workspace, property workspace → ∀ document : Document,
      property (workspace.edit (ModuleName.ofUri document.uri) document .opened))
    (start : property workspace) : property (workspace.reopen documents) := by
  induction documents generalizing workspace with
  | nil => exact start
  | cons document rest ih => exact ih (keeps workspace start document)

/-- Documents with different names do not replace each other. -/
theorem get?_reopen (documents : List Document) (name : ModuleName) (document : Document)
    (once : (documents.map fun document => ModuleName.ofUri document.uri).Nodup) :
    (workspace.reopen documents).files.documents.get? name = some document ↔
      (document ∈ documents ∧ ModuleName.ofUri document.uri = name) ∨
        ((∀ other ∈ documents, ModuleName.ofUri other.uri ≠ name) ∧
          workspace.files.documents.get? name = some document) := by
  induction documents generalizing workspace with
  | nil => simp [reopen]
  | cons first rest ih =>
    simp only [List.map_cons, List.nodup_cons, List.mem_map, not_exists, not_and] at once
    have opened : ∀ document : Document,
        (workspace.openDocument first.uri first.language first.version
          first.text).files.documents.get? name = some document ↔
        if name = ModuleName.ofUri first.uri then first = document
        else workspace.files.documents.get? name = some document := by
      intro document
      simp only [openDocument, markDirty, withDocuments, Table.get?_insert]
      split <;> simp
    change ((workspace.openDocument first.uri first.language first.version
      first.text).reopen rest).files.documents.get? name = some document ↔ _
    rw [ih once.2, opened]
    -- The first document is found under its name afterwards, since no later one has that name.
    by_cases same : name = ModuleName.ofUri first.uri
    · subst same
      have others : ∀ other ∈ rest, ModuleName.ofUri other.uri ≠ ModuleName.ofUri first.uri :=
        once.1
      simp only [if_true, List.mem_cons, forall_eq_or_imp, ne_eq, not_true_eq_false, false_and,
        or_false]
      constructor
      · rintro (⟨later, equal⟩ | ⟨_, rfl⟩)
        · exact absurd equal (others document later)
        · exact ⟨Or.inl rfl, rfl⟩
      · rintro ⟨rfl | later, equal⟩
        · exact Or.inr ⟨others, rfl⟩
        · exact absurd equal (others document later)
    · simp only [same, if_false, List.mem_cons, forall_eq_or_imp, ne_eq, Ne.symm same,
        not_false_eq_true, true_and]
      constructor
      · rintro (⟨later, equal⟩ | kept)
        · exact Or.inl ⟨Or.inr later, equal⟩
        · exact Or.inr kept
      · rintro (⟨rfl | later, equal⟩ | kept)
        · exact absurd equal.symm same
        · exact Or.inl ⟨later, equal⟩
        · exact Or.inr kept

/-- The documents of one workspace, opened in another in any order. -/
theorem get?_reopen_of_perm {other : Workspace ε} (filed : workspace.files.documents.Filed)
    (empty : other.files.documents = {}) {documents : List Document}
    (same : documents.Perm workspace.files.documents.all) (name : ModuleName) :
    (other.reopen documents).files.documents.get? name =
      workspace.files.documents.get? name := by
  have once := (same.map fun document => ModuleName.ofUri document.uri).nodup_iff.mpr
    filed.nodup_names
  apply Option.ext
  intro document
  rw [get?_reopen documents name document once, filed.get?_eq_some_iff, same.mem_iff, empty]
  simp

end Workspace

end LuauWorkspace
