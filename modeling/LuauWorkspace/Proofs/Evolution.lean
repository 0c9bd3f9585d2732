import LuauWorkspace.Proofs.Actions

/-!
# How documents evolve

An action changes what lies under one name at most, so a document is what the steps that name it
make of it, one after the other. A refused update leaves no trace: a run without it ends in the
same workspace. In what is left of a run each update was newer than the document that it found, so
a document that is open is the one that was opened last under its name with all updates since, and
their versions increase.
-/
namespace LuauWorkspace

namespace Document

/-- What happens to the document of one name. -/
inductive Step where
  | opened (document : Document)
  | updated (update : Update)
  | closed
deriving DecidableEq

def Step.apply (held : Option Document) : Step → Option Document
  | opened document => some document
  | updated update => held.map fun document => (document.update update).toOption.getD document
  | closed => none

/-- A document after updates that were all accepted. -/
def revise (document : Document) (updates : List Update) : Document :=
  { document with
    version := (updates.map (·.version)).getLastD document.version
    text := (updates.flatMap (·.changes)).foldl (fun text change => change.apply text)
      document.text }

/-- Each update of a history is newer than the document that it finds. -/
def Newer (held : Option Document) : List Step → Prop
  | [] => True
  | step :: rest =>
    (∀ update, step = .updated update → ∃ document, held = some document ∧
      document.version < update.version) ∧ Newer (step.apply held) rest

variable {document start : Document} {held : Option Document}

theorem revise_cons (document : Document) (update : Update) (updates : List Update) :
    document.revise (update :: updates) = (document.revise [update]).revise updates := by
  simp only [revise, List.map_cons, List.map_nil, List.getLastD_cons, List.flatMap_cons,
    List.flatMap_nil, List.append_nil, List.foldl_append]
  rfl

theorem apply_updated_of_lt {update : Update} (newer : document.version < update.version) :
    Step.apply (some document) (.updated update) = some (document.revise [update]) := by
  have fresh : ¬ update.version ≤ document.version := by omega
  simp [Step.apply, Document.update, fresh, Except.toOption, revise]

theorem newer_append (front back : List Step) :
    Newer held (front ++ back) ↔ Newer held front ∧ Newer (front.foldl Step.apply held) back := by
  induction front generalizing held with
  | nil => simp [Newer]
  | cons step rest ih => simp only [List.cons_append, Newer, List.foldl_cons, ih, and_assoc]

/-- The versions of updates that follow each other increase. -/
theorem Newer.pairwise {updates : List Update} {after : List Step}
    (newer : Newer (some start) (updates.map .updated ++ after)) :
    (start.version :: updates.map (·.version)).Pairwise (· < ·) := by
  induction updates generalizing start with
  | nil => exact List.pairwise_singleton ..
  | cons update rest ih =>
    obtain ⟨found, same, later⟩ := newer.1 update rfl
    obtain rfl := Option.some.inj same
    have others := newer.2
    rw [apply_updated_of_lt later] at others
    have increasing := ih others
    refine List.pairwise_cons.mpr ⟨fun version member => ?_, increasing⟩
    rcases List.mem_cons.mp member with rfl | member
    · exact later
    · exact Int.lt_trans later ((List.pairwise_cons.mp increasing).1 version member)

theorem Newer.foldl_updated {updates : List Update}
    (newer : Newer (some start) (updates.map .updated)) :
    (updates.map Step.updated).foldl Step.apply (some start) = some (start.revise updates) := by
  induction updates generalizing start with
  | nil => rfl
  | cons update rest ih =>
    obtain ⟨found, same, later⟩ := newer.1 update rfl
    obtain rfl := Option.some.inj same
    have others := newer.2
    rw [apply_updated_of_lt later] at others
    rw [List.map_cons, List.foldl_cons, apply_updated_of_lt later,
      start.revise_cons update rest, ih others]

/-- A document that is open at the end was opened at some point, unless it was open before, and
has only been updated since. -/
theorem exists_start_of_foldl {steps : List Step}
    (open_now : steps.foldl Step.apply held = some document) :
    (∃ before start, ∃ updates : List Update,
        steps = before ++ .opened start :: updates.map .updated) ∨
      ∃ updates : List Update, held.isSome ∧ steps = updates.map .updated := by
  induction steps generalizing held with
  | nil =>
    obtain rfl : held = some document := open_now
    exact Or.inr ⟨[], rfl, rfl⟩
  | cons step rest ih =>
    rcases ih open_now with ⟨before, start, updates, rfl⟩ | ⟨updates, held_then, rfl⟩
    · exact Or.inl ⟨step :: before, start, updates, rfl⟩
    -- Only updates follow, so it is the first step that tells where the document comes from.
    cases step with
    | opened start => exact Or.inl ⟨[], start, updates, rfl⟩
    | updated update => exact Or.inr ⟨update :: updates, by simpa [Step.apply] using held_then, rfl⟩
    | closed => simp [Step.apply] at held_then

/-- The documents that a history of accepted updates ends with. -/
theorem Newer.foldl_eq_some_iff {steps : List Step} (newer : Newer none steps) :
    steps.foldl Step.apply none = some document ↔
      ∃ before start, ∃ updates : List Update, steps = before ++ .opened start :: updates.map .updated ∧
        document = start.revise updates := by
  have revised : ∀ before start (updates : List Update),
      steps = before ++ .opened start :: updates.map .updated →
        steps.foldl Step.apply none = some (start.revise updates) := by
    rintro before start updates rfl
    rw [newer_append] at newer
    rw [List.foldl_append, List.foldl_cons]
    exact Newer.foldl_updated newer.2.2
  constructor
  · intro open_now
    obtain ⟨before, start, updates, whole⟩ | ⟨updates, impossible, -⟩ :=
      exists_start_of_foldl open_now
    · have same := (revised before start updates whole).symm.trans open_now
      exact ⟨before, start, updates, whole, (Option.some.inj same).symm⟩
    · simp at impossible
  · rintro ⟨before, start, updates, whole, rfl⟩
    exact revised before start updates whole

end Document

namespace Workspace

/-- What an action does to the document of a name, if anything. -/
def Action.step? (name : ModuleName) : Action → Option Document.Step
  | .opening uri language version text =>
    if name = ModuleName.ofUri uri then some (.opened ⟨uri, language, version, text⟩) else none
  | .updating uri update => if name = ModuleName.ofUri uri then some (.updated update) else none
  | .closing uri => if name = ModuleName.ofUri uri then some .closed else none
  | .configuring _ | .loading _ | .asking _ _ => none

theorem Action.updating_of_step? {name : ModuleName} {action : Action} {update : Update}
    (named : action.step? name = some (.updated update)) :
    ∃ uri, action = .updating uri update ∧ name = ModuleName.ofUri uri := by
  cases action with
  | updating uri other =>
    rw [step?] at named
    split at named
    next same =>
      obtain rfl : other = update := by simpa using named
      exact ⟨uri, rfl, same⟩
    next => simp at named
  | _ => simp [step?] at named

/-- What a run does to the document of a name. -/
def history (name : ModuleName) (steps : List (Disk × Action)) : List Document.Step :=
  steps.filterMap fun step => step.2.step? name

section

variable {ε : Type} [Engine ε] (workspace : Workspace ε)

def document? (name : ModuleName) : Option Document := workspace.files.documents.get? name

omit [Engine ε] in
theorem document?_create (origin : Origin) (engine : ε) (documentation : Documentation)
    (name : ModuleName) : (origin.create engine documentation).document? name = none := by
  cases origin <;> rfl

/-- Only updates can be refused. -/
def accepts : Action → Bool
  | .updating uri update => (workspace.updateDocument uri update).isOk
  | _ => true

/-- A run without the updates that are refused in it. -/
def accepted (workspace : Workspace ε) : List (Disk × Action) → List (Disk × Action)
  | [] => []
  | step :: rest =>
    let later := accepted (workspace.perform step.1 step.2) rest
    if workspace.accepts step.2 then step :: later else later

/-- An update is accepted exactly if its document is open and older. -/
theorem isOk_updateDocument_iff (uri : Uri) (update : Update) :
    (workspace.updateDocument uri update).isOk = true ↔
      ∃ document, workspace.document? (ModuleName.ofUri uri) = some document ∧
        document.version < update.version := by
  have accepted : (workspace.updateDocument uri update).isOk = true ↔
      ∃ after, workspace.updateDocument uri update = .ok after := by
    cases workspace.updateDocument uri update <;> simp [Except.isOk, Except.toBool]
  rw [accepted]
  simp only [updateDocument_eq_ok_iff]
  constructor
  · rintro ⟨after, document, renewed, found, updated, -⟩
    exact ⟨document, found, (document.update_isOk_iff update).mp (by rw [updated]; rfl)⟩
  · rintro ⟨document, found, newer⟩
    cases updated : document.update update with
    | error refusal =>
      have renewed := (document.update_isOk_iff update).mpr newer
      simp [updated, Except.isOk, Except.toBool] at renewed
    | ok renewed => exact ⟨_, document, renewed, found, updated, rfl⟩

theorem perform_of_not_accepts (disk : Disk) {action : Action}
    (refused : workspace.accepts action = false) : workspace.perform disk action = workspace := by
  cases action with
  | updating uri update =>
    simp only [accepts] at refused
    rw [perform]
    cases result : workspace.updateDocument uri update with
    | error refusal => rfl
    | ok after => simp [result, Except.isOk, Except.toBool] at refused
  | _ => simp [accepts] at refused

theorem run_accepted (steps : List (Disk × Action)) :
    workspace.run (workspace.accepted steps) = workspace.run steps := by
  induction steps generalizing workspace with
  | nil => rfl
  | cons step rest ih =>
    rw [accepted, run_cons]
    split
    · rw [run_cons, ih]
    next refused =>
      rw [Bool.not_eq_true] at refused
      rw [workspace.perform_of_not_accepts step.1 refused, ih]

theorem document?_perform (disk : Disk) (action : Action) (name : ModuleName) :
    (workspace.perform disk action).document? name =
      (action.step? name).elim (workspace.document? name)
        (Document.Step.apply (workspace.document? name)) := by
  cases action with
  | opening uri language version text =>
    change (workspace.files.documents.insert _ _).get? name = _
    rw [Table.get?_insert, Action.step?]
    split <;> rfl
  | updating uri update =>
    rw [perform, document?, documents_updateDocument, Action.step?]
    split
    next same => rw [same, Documents.get?_updated_self]; rfl
    next differs => exact Documents.get?_updated_of_ne update differs
  | closing uri =>
    change (workspace.files.documents.erase _).get? name = _
    rw [Table.get?_erase, Action.step?]
    split <;> rfl
  | configuring configuration => rfl
  | loading manifest => rfl
  | asking uri question =>
    rcases workspace.asked_cases disk uri question with same | same <;>
      (rw [perform, same]; rfl)

theorem document?_run (steps : List (Disk × Action)) (name : ModuleName) :
    (workspace.run steps).document? name =
      (history name steps).foldl Document.Step.apply (workspace.document? name) := by
  induction steps generalizing workspace with
  | nil => rfl
  | cons step rest ih =>
    rw [run_cons, ih, document?_perform, history, history, List.filterMap_cons]
    cases step.2.step? name <;> rfl

/-- In what is left of a run each update was accepted. -/
theorem newer_accepted (steps : List (Disk × Action)) (name : ModuleName) :
    Document.Newer (workspace.document? name) (history name (workspace.accepted steps)) := by
  induction steps generalizing workspace with
  | nil => trivial
  | cons step rest ih =>
    have later := ih (workspace.perform step.1 step.2)
    rw [document?_perform] at later
    rw [accepted]
    split
    next accepts =>
      rw [history, List.filterMap_cons]
      cases named : step.2.step? name with
      | none => rw [named] at later; exact later
      | some single =>
        rw [named] at later
        refine ⟨?_, later⟩
        rintro update rfl
        obtain ⟨uri, updating, rfl⟩ := Action.updating_of_step? named
        rw [updating, Workspace.accepts] at accepts
        exact (workspace.isOk_updateDocument_iff uri update).mp accepts
    next refused =>
      rw [Bool.not_eq_true] at refused
      rw [← document?_perform, workspace.perform_of_not_accepts step.1 refused] at later
      rw [workspace.perform_of_not_accepts step.1 refused]
      exact later

/-- Steps that do nothing to a document may be left out. -/
theorem history_filter (name : ModuleName) (steps : List (Disk × Action)) :
    history name (steps.filter fun step => (step.2.step? name).isSome) = history name steps := by
  rw [history, List.filterMap_filter]
  refine List.filterMap_congr fun step _ => ?_
  cases step.2.step? name <;> rfl

/-- Refused updates may be left out of a run, an update is accepted exactly if its document is
open and older, and a document depends on its own steps alone: it is the one that was opened last
under its name with the updates that were accepted since, and from its opening on the versions of
these increase. -/
theorem run_eq_accepted (origin : Origin) (engine : ε) (documentation : Documentation)
    (steps : List (Disk × Action)) :
    let created := origin.create engine documentation
    let workspace := created.run steps
    let kept := created.accepted steps
    created.run kept = workspace ∧
    (∀ uri update, (workspace.updateDocument uri update).isOk = true ↔
      ∃ document, workspace.document? (ModuleName.ofUri uri) = some document ∧
        document.version < update.version) ∧
    ∀ name,
      workspace.document? name =
        (created.run
          (steps.filter fun step => (step.2.step? name).isSome)).document? name ∧
      (∀ before start (updates : List Update) after,
        history name kept = before ++ .opened start :: (updates.map .updated ++ after) →
          (start.version :: updates.map (·.version)).Pairwise (· < ·)) ∧
      ∀ document, workspace.document? name = some document ↔
        ∃ before start, ∃ updates : List Update,
          history name kept = before ++ .opened start :: updates.map .updated ∧
          document = start.revise updates := by
  intro created workspace kept
  have same : created.run kept = workspace := created.run_accepted steps
  refine ⟨same, workspace.isOk_updateDocument_iff, fun name => ?_⟩
  have empty : created.document? name = none := document?_create origin engine documentation name
  have newer := created.newer_accepted steps name
  rw [empty] at newer
  refine ⟨?_, fun before start updates after whole => ?_, fun document => ?_⟩
  · rw [document?_run, document?_run, history_filter]
  · change Document.Newer none (history name kept) at newer
    rw [whole, Document.newer_append] at newer
    exact newer.2.2.pairwise
  · rw [← same, document?_run, empty]
    exact newer.foldl_eq_some_iff

end

namespace Interleaved

def one : Uri := { scheme := "file", authority := some {}, path := "/one.luau" }

def two : Uri := { scheme := "file", authority := some {}, path := "/two.luau" }

/-- The second document is updated before it is opened and after it is closed, the first one is
opened again at a lower version, and both meet versions that are not newer. -/
def steps : List (Disk × Action) :=
  [ .opening one "luau" 5 "a",
    .updating two ⟨1, [{ text := "refused" }]⟩,
    .updating one ⟨5, [{ text := "refused" }]⟩,
    .opening two "luau" 1 "b",
    .updating one ⟨6, [{ text := "c" }]⟩,
    .updating two ⟨3, [{ text := "d" }, { range := some (⟨0, 1⟩, ⟨0, 1⟩), text := "e" }]⟩,
    .updating two ⟨3, [{ text := "refused" }]⟩,
    .opening one "luau" 2 "f",
    .updating one ⟨4, [{ range := some (⟨0, 0⟩, ⟨0, 0⟩), text := "g" }, { text := "h" }]⟩,
    .closing two,
    .updating two ⟨9, [{ text := "refused" }]⟩ ].map ({}, ·)

end Interleaved

theorem run_eq_accepted_interleaved :
    let created := Origin.null.create ({} : LineEngine) {}
    let kept := created.accepted Interleaved.steps
    created.run kept = created.run Interleaved.steps ∧ kept.length = 7 ∧
      (created.run Interleaved.steps).document? ⟨"/one.luau"⟩ =
        some ⟨Interleaved.one, "luau", 4, "h"⟩ ∧
      ((1 : Int) :: [3]).Pairwise (· < ·) := by
  obtain ⟨same, -, own⟩ :=
    run_eq_accepted .null ({} : LineEngine) {} Interleaved.steps
  -- The second document is opened, updated once and closed.
  have increasing := (own ⟨"/two.luau"⟩).2.1 [] ⟨Interleaved.two, "luau", 1, "b"⟩
    [⟨3, [{ text := "d" }, { range := some (⟨0, 1⟩, ⟨0, 1⟩), text := "e" }]⟩] [.closed]
    (by decide +kernel)
  exact ⟨same, by decide +kernel, by decide +kernel, increasing⟩

end Workspace

end LuauWorkspace
