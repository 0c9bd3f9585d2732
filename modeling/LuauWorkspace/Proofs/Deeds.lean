import LuauWorkspace.Proofs.Actions
import LuauWorkspace.Session

/-!
# What messages come down to

Whatever a message says, what a session does about it is made of few things: the workspace of a
document acts, a manifest is loaded again, all workspaces are configured, a folder comes or goes, or
there is something to tell the client. The method of a message decides which of these can happen at
all. So what a thing keeps is said once, and what messages keep follows for all of them.
-/
namespace LuauWorkspace

open Protocol (Message Method Notice Request)

inductive Deed where
  | serving
  | reloading
  | configuring
  | adding
  | removing
  | telling
deriving DecidableEq, Repr

namespace Protocol

def Notice.deeds : Notice → List Deed
  | .ready => [.telling]
  | .opened | .changed | .closed => [.serving]
  | .configured => [.configuring]
  | .filesChanged => [.reloading, .telling]
  | .foldersChanged => [.removing, .adding, .telling]
  | .other => []

end Protocol

namespace Session

variable {ε : Type} [Engine ε]

/-- One session becomes another one by deeds of a list, done any number of times. -/
inductive Does (disk : Disk) (deeds : List Deed) : Session ε → Session ε → Prop
  | nothing {session : Session ε} : Does disk deeds session session
  | later {one two three : Session ε} (first : Does disk deeds one two)
    (second : Does disk deeds two three) : Does disk deeds one three
  | serving {session : Session ε} (allowed : .serving ∈ deeds) {α : Type} (uri : Uri)
    (action : Workspace ε → α × Workspace ε) (step : Workspace.Action)
    (about : step.uri? = some uri)
    (acts : ∀ workspace, (action workspace).2 = workspace.perform disk step) :
    Does disk deeds session { session with server := (session.server.serve uri action).2 }
  | reloading {session : Session ε} (allowed : .reloading ∈ deeds) (index : Nat) :
    Does disk deeds session { session with server := session.server.reload disk index }
  | configuring {session : Session ε} (allowed : .configuring ∈ deeds)
    (configuration : Configuration) :
    Does disk deeds session { session with server := session.server.configure configuration }
  | adding {session : Session ε} (allowed : .adding ∈ deeds) (folder : Protocol.Folder) :
    Does disk deeds session (session.addFolder disk folder)
  | removing {session : Session ε} (allowed : .removing ∈ deeds) (folder : Protocol.Folder) :
    Does disk deeds session (session.removeFolder folder)
  | telling {session : Session ε} (allowed : .telling ∈ deeds) (waiting : List UserMessage)
    (asked : Nat) :
    Does disk deeds session { session with server := { session.server with waiting }, asked }

variable {session after : Session ε} {disk : Disk} {deeds : List Deed}

theorem Does.foldl {α : Type} (items : List α) (step : Session ε → α → Session ε)
    (does : ∀ (session : Session ε) item, session.Does disk deeds (step session item))
    (session : Session ε) : session.Does disk deeds (items.foldl step session) := by
  induction items generalizing session with
  | nil => exact .nothing
  | cons item rest ih => exact (does session item).later (ih (step session item))

/-- No deed ends a phase. -/
theorem Does.phase (does : session.Does disk deeds after) : after.phase = session.phase := by
  induction does with
  | later first second one two => exact two.trans one
  | removing allowed folder =>
    unfold removeFolder
    split <;> rfl
  | _ => rfl

theorem does_addFolders (allowed : .adding ∈ deeds) (folders : List Protocol.Folder) :
    session.Does disk deeds (session.addFolders disk folders) :=
  Does.foldl folders _ (fun _ folder => .adding allowed folder) session

theorem does_flush (allowed : .telling ∈ deeds) : session.Does disk deeds session.flush.2 :=
  .telling allowed [] session.asked

theorem does_ask (allowed : .telling ∈ deeds) (request : Nat → Protocol.Outgoing) :
    session.Does disk deeds (session.ask request).2 :=
  .telling allowed session.server.waiting (session.asked + 1)

theorem does_filesChanged (allowed : .reloading ∈ deeds) (files : List Uri) :
    session.Does disk deeds (session.filesChanged disk files).2 := by
  -- The steps carry along whether a manifest was loaded again, which does not matter here.
  refine List.foldlRecOn (motive := fun state : Bool × Session ε =>
    session.Does disk deeds state.2) files _ .nothing ?_
  rintro ⟨reloaded, before⟩ does uri -
  cases changed : before.manifestChanged? disk uri with
  | none => simpa only [changed] using does
  | some after =>
    simp only [changed]
    unfold manifestChanged? at changed
    split at changed
    · obtain ⟨index, -, rfl⟩ := Option.map_eq_some_iff.mp changed
      exact does.later (.reloading allowed index)
    · simp at changed

theorem does_hear (session : Session ε) (disk : Disk) (notice : Notice) (params : Json) :
    session.Does disk notice.deeds (session.hear disk notice params).2 := by
  cases notice with
  | ready =>
    simp only [hear]
    split
    · exact .nothing
    · exact (does_ask (by simp [Notice.deeds]) _).later (does_flush (by simp [Notice.deeds]))
  | opened =>
    simp only [hear]
    split
    · exact .nothing
    next document _ =>
      exact .serving (by simp [Notice.deeds]) document.uri _
        (.opening document.uri document.language document.version document.text) rfl fun _ => rfl
  | changed =>
    simp only [hear]
    split
    · exact .nothing
    next uri update _ =>
      exact .serving (by simp [Notice.deeds]) uri _ (.updating uri update) rfl fun _ => rfl
  | closed =>
    simp only [hear]
    split
    · exact .nothing
    next uri _ =>
      exact .serving (by simp [Notice.deeds]) uri _ (.closing uri) rfl fun _ => rfl
  | configured =>
    simp only [hear]
    split
    · exact .nothing
    next configuration _ => exact .configuring (by simp [Notice.deeds]) configuration
  | filesChanged =>
    simp only [hear]
    split
    · exact .nothing
    next files _ =>
      have reloaded : session.Does disk Notice.filesChanged.deeds
          (session.filesChanged disk files).2 := does_filesChanged (by simp [Notice.deeds]) files
      have shown := reloaded.later (does_flush (by simp [Notice.deeds]))
      -- Only a manifest that was loaded again asks the client for a refresh.
      split
      · exact shown.later (does_ask (by simp [Notice.deeds]) .refresh)
      · exact shown
  | foldersChanged =>
    simp only [hear]
    split
    · exact .nothing
    next change _ =>
      have removed : session.Does disk Notice.foldersChanged.deeds
          (change.removed.foldl removeFolder session) :=
        Does.foldl _ _ (fun _ folder => .removing (by simp [Notice.deeds]) folder) session
      exact (removed.later (does_addFolders (by simp [Notice.deeds]) change.added)).later
        (does_flush (by simp [Notice.deeds]))
  | other => exact .nothing

/-- A question makes the workspace of its document answer. -/
theorem does_answer? {request : Request} {params result : Json}
    (answered : session.answer? disk request params = some (result, after)) :
    session.Does disk [.serving] after := by
  have asks : ∀ {α : Type} (uri : Uri) (query : Workspace ε → α × Workspace ε)
      (question : Workspace.Question),
      (∀ workspace, (query workspace).2 = workspace.asked disk uri question) →
      session.Does disk [.serving]
        { session with server := (session.server.serve uri query).2 } :=
    fun uri query question acts =>
      .serving (List.mem_singleton_self _) uri query (.asking uri question) rfl acts
  -- What is found in the parameters decides the document, whatever the request.
  have done : ∀ {α β : Type} {found : Option α} {reply : α → β × Session ε} {answer : β},
      found.map reply = some (answer, after) →
        (∀ item, session.Does disk [.serving] (reply item).2) →
          session.Does disk [.serving] after := by
    intro α β found reply answer replied does
    obtain ⟨item, -, same⟩ := Option.map_eq_some_iff.mp replied
    have last : (reply item).2 = after := congrArg (·.2) same
    exact last ▸ does item
  cases request with
  | diagnostic => exact done answered fun uri => asks uri _ .diagnostics fun _ => rfl
  | hover => exact done answered fun place => asks place.uri _ (.hover place.position) fun _ => rfl
  | completion =>
    exact done answered fun place => asks place.uri _ (.completion place.position) fun _ => rfl
  | signatureHelp =>
    exact done answered fun place => asks place.uri _ (.signatureHelp place.position) fun _ => rfl
  | definition =>
    exact done answered fun place => asks place.uri _ (.definition place.position) fun _ => rfl
  | typeDefinition =>
    exact done answered fun place =>
      asks place.uri _ (.typeDefinition place.position) fun _ => rfl
  | links => exact done answered fun uri => asks uri _ .links fun _ => rfl

theorem does_receiveRequest (session : Session ε) (disk : Disk) (request : Request)
    (message : Message) :
    session.Does disk [.serving] (session.receiveRequest disk request message).2 := by
  unfold receiveRequest
  split
  · exact .nothing
  · exact .nothing
  next answered =>
    obtain ⟨params, -, answer⟩ := Option.bind_eq_some_iff.mp answered
    exact does_answer? answer

theorem does_receiveNotice (session : Session ε) (disk : Disk) (notice : Notice)
    (message : Message) :
    session.Does disk notice.deeds (session.receiveNotice disk notice message).2 := by
  unfold receiveNotice
  split
  · exact .nothing
  · exact .nothing
  · exact session.does_hear disk notice _

end Session

end LuauWorkspace
