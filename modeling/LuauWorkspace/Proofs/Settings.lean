import LuauWorkspace.Proofs.Sessions

/-!
# Settings of a session

The settings of a server are copied into each of its workspaces, with the globs compiled. Every
message that a session receives leaves all copies equal: settings reach all workspaces at once,
a folder that is added later gets the current ones, and nothing else touches them. So at any time
they are the last ones of the run that could be read. Which messages bring settings depends on the
phase of the session, and the phase on the messages alone.
-/
namespace LuauWorkspace

open Protocol (Message Method Notice Request Start)

/-! ## Copies of the settings -/

namespace Workspace

variable {ε : Type}

/-- A workspace has a configuration, and the globs that it ignores are those of it. -/
structure Configured (workspace : Workspace ε) (configuration : Configuration) : Prop where
  current : workspace.configuration = configuration
  compiled : workspace.ignore = .ofGlobs configuration.ignoreGlobs

variable {workspace : Workspace ε} {configuration : Configuration}

theorem configured_configure (workspace : Workspace ε) (configuration : Configuration) :
    (workspace.configure configuration).Configured configuration := ⟨rfl, rfl⟩

theorem Configured.configure_eq (configured : workspace.Configured configuration) :
    workspace.configure configuration = workspace := by
  obtain ⟨rfl, compiled⟩ := configured
  rw [configure, ← compiled]

variable [Engine ε]

theorem Configured.setup (configured : workspace.Configured configuration) (disk : Disk) :
    (workspace.setup disk).2.Configured configuration := by
  unfold Workspace.setup
  split
  · exact configured
  · exact ⟨configured.current, configured.compiled⟩

/-- Only configuring a workspace changes its configuration. -/
theorem Configured.perform (configured : workspace.Configured configuration) (disk : Disk)
    {action : Action} (other : ∀ configuration, action ≠ .configuring configuration) :
    (workspace.perform disk action).Configured configuration := by
  have moves := workspace.moves_perform disk action
  generalize workspace.perform disk action = after at moves ⊢
  cases moves with
  | idle => exact configured
  | refreshed uri => exact ⟨configured.current, configured.compiled⟩
  | edited uri document reason own => exact ⟨configured.current, configured.compiled⟩
  | closed uri => exact ⟨configured.current, configured.compiled⟩
  | configured configuration => exact absurd rfl (other configuration)
  | loaded manifest => exact ⟨configured.current, configured.compiled⟩

end Workspace

namespace Server

variable {ε : Type}

/-- The server and all its workspaces have one configuration. -/
structure Uniform (server : Server ε) (configuration : Configuration) : Prop where
  current : server.configuration = configuration
  each : server.Each (·.Configured configuration)

variable {server : Server ε} {configuration : Configuration}

theorem uniform_configure (server : Server ε) (configuration : Configuration) :
    (server.configure configuration).Uniform configuration := by
  refine ⟨rfl, fun workspace member => ?_, server.null.configured_configure configuration⟩
  obtain ⟨before, -, rfl⟩ := List.mem_map.mp member
  exact before.configured_configure configuration

/-- What everything has already changes nothing. -/
theorem Uniform.configure_eq (uniform : server.Uniform configuration) :
    server.configure configuration = server := by
  obtain ⟨rfl, each⟩ := uniform
  have folders : server.folders.map (·.configure server.configuration) = server.folders :=
    (List.map_congr_left fun workspace member => (each.folders workspace member).configure_eq).trans
      (List.map_id _)
  rw [configure, folders, each.null.configure_eq]

theorem Uniform.serve (uniform : server.Uniform configuration) {α : Type} (uri : Uri)
    (action : Workspace ε → α × Workspace ε)
    (keeps : ∀ workspace, workspace.Configured configuration →
      (action workspace).2.Configured configuration) :
    (server.serve uri action).2.Uniform configuration := by
  refine ⟨?_, uniform.each.serve uri action keeps⟩
  rw [← uniform.current]
  unfold Server.serve
  cases server.folderFor? uri <;> rfl

/-- A message to the user has no part in the configuration. -/
theorem configuration_warn (loaded : Bool) (name : String) :
    (if loaded then server else server.warn name).configuration = server.configuration := by
  unfold warn
  cases loaded
  · simp only [Bool.false_eq_true, if_false]
    split <;> rfl
  · rfl

theorem Uniform.remove? (uniform : server.Uniform configuration) {rootUri : Uri}
    {removed : Workspace ε × Server ε} (found : server.remove? rootUri = some removed) :
    removed.2.Uniform configuration := by
  unfold Server.remove? at found
  split at found
  · simp at found
  · obtain ⟨workspace, -, rfl⟩ := Option.map_eq_some_iff.mp found
    refine ⟨uniform.current, fun workspace member => ?_, uniform.each.null⟩
    exact uniform.each.folders workspace (List.mem_of_mem_eraseIdx member)

variable [Engine ε]

theorem Uniform.add (uniform : server.Uniform configuration) (disk : Disk)
    (workspace : Workspace ε) : (server.add disk workspace).Uniform configuration := by
  refine ⟨?_, uniform.each.add disk workspace ?_⟩
  · exact (configuration_warn _ _).trans uniform.current
  · rw [uniform.current]
    exact (workspace.configured_configure configuration).setup disk

theorem Uniform.reload (uniform : server.Uniform configuration) (disk : Disk) (index : Nat) :
    (server.reload disk index).Uniform configuration := by
  unfold Server.reload
  cases found : server.folders[index]? with
  | none => exact uniform
  | some workspace =>
    obtain ⟨folders, null⟩ := server.folders_warn (workspace.reloadManifest disk).1.isOk
      workspace.name
    have before := uniform.each.folders workspace (List.mem_of_getElem? found)
    refine ⟨(configuration_warn _ _).trans uniform.current, fun other member => ?_, ?_⟩
    · simp only [folders] at member
      rcases List.mem_or_eq_of_mem_set member with old | rfl
      · exact uniform.each.folders other old
      · exact ⟨before.current, before.compiled⟩
    · simp only [null]
      exact uniform.each.null

end Server

/-! ## What a message says -/

/-- The phase after a message. -/
def Phase.after (phase : Phase) (message : Message) : Phase :=
  match Method.ofName? message.method, phase with
  | some .start, .waiting =>
    if message.id.isSome ∧ (message.params.bind Protocol.start?).isSome then .running else .waiting
  | some .stop, .running => .stopped
  | some .leave, _ => .left
  | _, _ => phase

/-- The settings that a message brings: the options of the first message, or settings that have
changed since. Settings that cannot be read are none. -/
def Protocol.Message.settings? (message : Message) (phase : Phase) : Option Configuration :=
  match Method.ofName? message.method, phase, message.id with
  | some .start, .waiting, some _ =>
    (message.params.bind Protocol.start?).bind fun opening =>
      Configuration.ofSettings? opening.settings
  | some (.notice .configured), .running, none =>
    (message.params.bind Protocol.settings?).bind Configuration.ofSettings?
  | _, _, _ => none

/-- All settings that messages bring, one after the other. -/
def Protocol.settings (phase : Phase) : List Message → List Configuration
  | [] => []
  | message :: rest =>
    (message.settings? phase).toList ++ settings (phase.after message) rest

namespace Session

variable {ε : Type}

/-- A session goes on in its phase, and its workspaces still have one configuration. -/
structure Steady (before after : Session ε) : Prop where
  phase : after.phase = before.phase
  uniform : ∀ configuration, before.server.Uniform configuration →
    after.server.Uniform configuration

theorem Steady.refl (session : Session ε) : session.Steady session := ⟨rfl, fun _ => id⟩

variable [Engine ε]

/-- Only one kind of deed touches the configuration. -/
theorem Does.steady {session after : Session ε} {disk : Disk} {deeds : List Deed}
    (does : session.Does disk deeds after) (other : .configuring ∉ deeds) :
    session.Steady after := by
  refine ⟨does.phase, ?_⟩
  induction does with
  | nothing => exact fun _ => id
  | later _ _ one two => exact fun configuration uniform => two _ (one configuration uniform)
  | serving _ uri action step about acts =>
    refine fun configuration uniform => uniform.serve uri action fun workspace before => ?_
    rw [acts]
    refine before.perform _ fun settings same => ?_
    simp [same, Workspace.Action.uri?] at about
  | reloading _ index => exact fun _ uniform => uniform.reload _ index
  | configuring allowed => exact absurd allowed other
  | @adding session _ folder =>
    exact fun _ uniform => uniform.add _ (session.setup.workspace folder)
  | @removing session _ folder =>
    unfold removeFolder
    cases found : session.server.remove? folder.uri with
    | none => exact fun _ => id
    | some removed => exact fun _ uniform => uniform.remove? found
  | telling =>
    exact fun _ uniform => ⟨uniform.current, uniform.each.folders, uniform.each.null⟩

/-- Of the notices only that of changed settings changes the configuration. -/
theorem steady_hear (session : Session ε) (disk : Disk) {notice : Notice}
    (other : notice ≠ .configured) (params : Json) :
    session.Steady (session.hear disk notice params).2 :=
  (session.does_hear disk notice params).steady (by cases notice <;> simp_all [Notice.deeds])

/-! ## Messages and runs -/

/-- The folders of the first message are added, and the session runs. -/
def openFolders (session : Session ε) (disk : Disk) (opening : Start) : Session ε :=
  let ready := session.addFolders disk opening.folders
  let server :=
    if ready.setup.definitions = [] then ready.server.notify missingDefinitions else ready.server
  { ready with server, phase := .running }

theorem start_eq_openFolders (session : Session ε) (disk : Disk) (opening : Start) :
    session.start disk opening =
      { session with
        server := session.server.configure
          ((Configuration.ofSettings? opening.settings).getD {}) }.openFolders disk opening := rfl

theorem uniform_openFolders {session : Session ε} {configuration : Configuration}
    (uniform : session.server.Uniform configuration) (disk : Disk) (opening : Start) :
    (session.openFolders disk opening).server.Uniform configuration := by
  have adds : session.Does disk [.adding] (session.addFolders disk opening.folders) :=
    does_addFolders (List.mem_singleton_self _) opening.folders
  have added := (adds.steady (by simp)).uniform configuration uniform
  simp only [openFolders]
  split
  · exact ⟨added.current, added.each.folders, added.each.null⟩
  · exact added

/-- The workspaces have one configuration, which is the default one before the session starts. -/
structure Holds (session : Session ε) (configuration : Configuration) : Prop where
  uniform : session.server.Uniform configuration
  initial : session.phase = .waiting → configuration = {}

/-- A message leads to the phase that follows and to the settings that it brings, if any. -/
structure Heeds (session : Session ε) (message : Message) (after : Session ε) : Prop where
  phase : after.phase = session.phase.after message
  uniform : ∀ configuration, session.Holds configuration →
    after.server.Uniform ((message.settings? session.phase).getD configuration)

section

variable {session after : Session ε} {message : Message}

omit [Engine ε] in
/-- A message that brings no settings and is no turning point. -/
theorem Steady.heeds (steady : session.Steady after)
    (stays : session.phase.after message = session.phase)
    (silent : message.settings? session.phase = none) : session.Heeds message after := by
  refine ⟨steady.phase.trans stays.symm, fun configuration held => ?_⟩
  rw [silent]
  exact steady.uniform configuration held.uniform

theorem heeds_receiveStart (session : Session ε) (disk : Disk)
    (method : Method.ofName? message.method = some .start) :
    session.Heeds message (session.receiveStart disk message).2 := by
  unfold receiveStart
  split
  next started =>
    apply (Steady.refl session).heeds
    · cases phase : session.phase <;> simp_all [Phase.after]
    · cases phase : session.phase <;> simp_all [Message.settings?]
  next waits =>
    have phase : session.phase = .waiting := not_not.mp waits
    split
    next asks =>
      exact (Steady.refl session).heeds (by simp [Phase.after, method, phase, asks])
        (by simp [Message.settings?, method, phase, asks])
    next asks unread =>
      exact (Steady.refl session).heeds (by simp [Phase.after, method, phase, unread])
        (by simp [Message.settings?, method, phase, asks, unread])
    next id opening asks read =>
      constructor
      · simp [start, Phase.after, method, phase, asks, read]
      · intro configuration held
        have brings : message.settings? session.phase =
            Configuration.ofSettings? opening.settings := by
          simp [Message.settings?, method, phase, asks, read]
        -- Before the start the configuration is what unreadable settings stand for.
        rw [brings, held.initial phase, start_eq_openFolders]
        exact uniform_openFolders (session.server.uniform_configure _) disk opening

omit [Engine ε] in
theorem heeds_receiveStop (session : Session ε)
    (method : Method.ofName? message.method = some .stop) :
    session.Heeds message (session.receiveStop message).2 := by
  have silent : message.settings? session.phase = none := by
    simp [Message.settings?, method]
  cases phase : session.phase with
  | running =>
    have stops : (session.receiveStop message).2 = { session with phase := .stopped } := by
      simp only [receiveStop, phaseRefusal?, phase]
      split <;> rfl
    rw [stops]
    refine ⟨by simp [Phase.after, method, phase], fun configuration held => ?_⟩
    rw [silent]
    exact held.uniform
  | _ =>
    simp only [receiveStop, phaseRefusal?, phase]
    exact (Steady.refl session).heeds (by simp [Phase.after, method, phase]) silent

theorem heeds_receiveNotice (running : session.phase = .running) (disk : Disk) {notice : Notice}
    (method : Method.ofName? message.method = some (.notice notice)) :
    session.Heeds message (session.receiveNotice disk notice message).2 := by
  have stays : session.phase.after message = session.phase := by
    simp [Phase.after, method]
  unfold receiveNotice
  split
  next id asks =>
    exact (Steady.refl session).heeds stays (by simp [Message.settings?, method, running, asks])
  next asks empty =>
    refine (Steady.refl session).heeds stays ?_
    simp only [Message.settings?, method, running, asks, empty]
    split <;> simp_all
  next params asks given =>
    by_cases configured : notice = .configured
    · subst configured
      have brings : message.settings? session.phase =
          (Protocol.settings? params).bind Configuration.ofSettings? := by
        simp [Message.settings?, method, running, asks, given]
      simp only [hear]
      split
      next unread =>
        exact (Steady.refl session).heeds stays (brings.trans unread)
      next configuration read =>
        refine ⟨stays.symm, fun _ _ => ?_⟩
        rw [brings, read]
        exact session.server.uniform_configure configuration
    · refine (session.steady_hear disk configured params).heeds stays ?_
      simp only [Message.settings?, method, running, asks]
      split <;> simp_all

omit [Engine ε] in
/-- Once the client has left nothing has an effect any more. -/
theorem heeds_of_left (left : session.phase = .left) (message : Message) :
    session.Heeds message session := by
  apply (Steady.refl session).heeds
  · rw [left]
    unfold Phase.after
    split <;> simp_all
  · rw [left]
    unfold Message.settings?
    split <;> simp_all

theorem steady_receiveRequest (session : Session ε) (disk : Disk) (request : Request)
    (message : Message) : session.Steady (session.receiveRequest disk request message).2 :=
  (session.does_receiveRequest disk request message).steady (by simp)

omit [Engine ε] in
theorem phaseRefusal?_eq_none_iff (session : Session ε) :
    session.phaseRefusal? = none ↔ session.phase = .running := by
  unfold phaseRefusal?
  cases session.phase <;> simp

theorem heeds_receive (session : Session ε) (disk : Disk) (message : Message) :
    session.Heeds message (session.receive disk message).2 := by
  unfold receive
  split
  next left => exact heeds_of_left left message
  cases method : Method.ofName? message.method with
  | none =>
    exact (Steady.refl session).heeds (by simp [Phase.after, method])
      (by simp [Message.settings?, method])
  | some known =>
    cases known with
    | start => exact session.heeds_receiveStart disk method
    | stop => exact session.heeds_receiveStop method
    | leave =>
      refine ⟨by simp [Phase.after, method], fun configuration held => ?_⟩
      simpa [Message.settings?, method] using held.uniform
    | cancel =>
      exact (Steady.refl session).heeds (by simp [Phase.after, method])
        (by simp [Message.settings?, method])
    | request request =>
      have stays : session.phase.after message = session.phase := by simp [Phase.after, method]
      have silent : message.settings? session.phase = none := by
        simp [Message.settings?, method]
      cases session.phaseRefusal? with
      | some refusal => exact (Steady.refl session).heeds stays silent
      | none => exact (session.steady_receiveRequest disk request message).heeds stays silent
    | notice notice =>
      cases refused : session.phaseRefusal? with
      | some refusal =>
        have rests : session.phase ≠ .running := fun running => by
          rw [(session.phaseRefusal?_eq_none_iff).mpr running] at refused
          simp at refused
        refine (Steady.refl session).heeds (by simp [Phase.after, method]) ?_
        unfold Message.settings?
        split <;> simp_all
      | none =>
        exact heeds_receiveNotice (session.phaseRefusal?_eq_none_iff.mp refused) disk method
    | unanswered shape =>
      have stays : session.phase.after message = session.phase := by simp [Phase.after, method]
      have silent : message.settings? session.phase = none := by
        simp [Message.settings?, method]
      cases session.phaseRefusal? <;> exact (Steady.refl session).heeds stays silent

/-- A message after which the session still waits brought no settings. -/
theorem settings?_eq_none_of_waiting {phase : Phase} (waits : phase.after message = .waiting) :
    phase = .waiting ∧ message.settings? phase = none := by
  unfold Phase.after at waits
  split at waits
  next method =>
    split at waits
    · simp at waits
    next unread =>
      refine ⟨rfl, ?_⟩
      cases asks : message.id with
      | none => simp [Message.settings?, method, asks]
      | some id =>
        have nothing : message.params.bind Protocol.start? = none :=
          Option.not_isSome_iff_eq_none.mp fun read => unread ⟨by simp [asks], read⟩
        simp [Message.settings?, method, asks, nothing]
  · simp at waits
  · simp at waits
  next unchanged _ _ =>
    subst waits
    refine ⟨rfl, ?_⟩
    unfold Message.settings?
    split <;> simp_all

theorem Holds.receive {configuration : Configuration} (held : session.Holds configuration)
    (disk : Disk) (message : Message) :
    (session.receive disk message).2.Holds
      ((message.settings? session.phase).getD configuration) := by
  have heeds := session.heeds_receive disk message
  refine ⟨heeds.uniform configuration held, fun waits => ?_⟩
  obtain ⟨before, silent⟩ := settings?_eq_none_of_waiting (heeds.phase.symm.trans waits)
  rw [silent]
  exact held.initial before

theorem getLast?_getD_append {α : Type} (first : Option α) (rest : List α) (default : α) :
    (first.toList ++ rest).getLast?.getD default = rest.getLast?.getD (first.getD default) := by
  cases first <;> cases rest <;> simp [List.getLast?_cons]

/-- The last settings of a run hold after it. -/
theorem Holds.run {configuration : Configuration} (held : session.Holds configuration)
    (messages : List (Disk × Message)) :
    (session.run messages).Holds
      ((Protocol.settings session.phase (messages.map (·.2))).getLast?.getD configuration) := by
  -- The settings so far stand in for those of the rest if it brings none.
  induction messages generalizing session configuration with
  | nil => exact held
  | cons sent rest ih =>
    have later := ih (held.receive sent.1 sent.2)
    rw [(session.heeds_receive sent.1 sent.2).phase] at later
    rw [List.map_cons, Protocol.settings, getLast?_getD_append]
    exact later

omit [Engine ε] in
theorem holds_new (setup : Setup ε) : (new setup).Holds {} :=
  ⟨⟨rfl, fun _ member => absurd member List.not_mem_nil, ⟨rfl, rfl⟩⟩, fun _ => rfl⟩

/-- Changed settings that cannot be read have no effect whatever. -/
theorem receive_of_unread_settings (session : Session ε) (disk : Disk) {message : Message}
    (method : message.method = "workspace/didChangeConfiguration")
    (unread : message.settings? session.phase = none) :
    (session.receive disk message).2 = session := by
  have known : Method.ofName? message.method = some (.notice .configured) := method ▸ rfl
  unfold receive
  split
  · rfl
  rw [known]
  cases refused : session.phaseRefusal? with
  | some refusal => rfl
  | none =>
    have running := session.phaseRefusal?_eq_none_iff.mp refused
    simp only [receiveNotice]
    split
    · rfl
    · rfl
    next params asks given =>
      have nothing : (Protocol.settings? params).bind Configuration.ofSettings? = none := by
        simpa [Message.settings?, known, running, asks, given] using unread
      simp only [hear, nothing]

/-- With unreadable options the first message starts the session and sets nothing. -/
theorem Holds.start_eq (held : session.Holds {}) (disk : Disk) {opening : Start}
    (unread : Configuration.ofSettings? opening.settings = none) :
    session.start disk opening = session.openFolders disk opening := by
  rw [start_eq_openFolders, unread, Option.getD_none, held.uniform.configure_eq]

/-- After any messages the server, each folder and the null workspace have one configuration, the
last one that the messages brought, with its globs compiled. Settings that cannot be read change
nothing: changed settings leave the whole session as it is, and the options of a first message
leave the configuration alone while its folders are added. -/
theorem uniform_run (setup : Setup ε) (messages : List (Disk × Message)) :
    let session := (new setup).run messages
    session.server.Uniform
        ((Protocol.settings .waiting (messages.map (·.2))).getLast?.getD {}) ∧
      (∀ disk message, message.method = "workspace/didChangeConfiguration" →
        message.settings? session.phase = none → (session.receive disk message).2 = session) ∧
      (session.phase = .waiting → ∀ disk opening,
        Configuration.ofSettings? opening.settings = none →
          session.start disk opening = session.openFolders disk opening) := by
  intro session
  have held := (holds_new setup).run messages
  refine ⟨held.uniform, fun disk message method unread => ?_, fun waits disk opening unread => ?_⟩
  · exact session.receive_of_unread_settings disk method unread
  · exact Holds.start_eq (held.initial waits ▸ held) disk unread

end

/-! Settings that come too early or have another shape bring nothing. -/
namespace Mistaken

def disk : Disk := ⟨⟨[]⟩⟩

def setup : Setup LineEngine := { makeEngine := fun _ => {} }

def globs (pattern : Json) : Json := .object [("ignoreGlobs", .list [pattern])]

def changed (settings : Json) : Message :=
  { method := "workspace/didChangeConfiguration",
    params := some (.object [("settings", settings)]) }

/-- The first message, with one folder and options. -/
def opening : Message :=
  { method := "initialize",
    params := some (.object [("capabilities", .object []),
      ("workspaceFolders",
        .list [.object [("uri", .text "file:///place"), ("name", .text "place")]]),
      ("initializationOptions", globs (.text "one"))]),
    id := some (.int 0) }

def messages : List (Disk × Message) :=
  [changed (globs (.text "early")), opening, changed (globs (.bool true)),
    changed (globs (.text "two"))].map fun message => (disk, message)

def session : Session LineEngine := (new setup).run messages

end Mistaken

theorem uniform_run_mistaken :
    Mistaken.session.server.folders.map (·.name) = ["place"] ∧
      Protocol.settings .waiting (Mistaken.messages.map (·.2)) =
        [{ ignoreGlobs := ["one"] }, { ignoreGlobs := ["two"] }] ∧
      Mistaken.session.server.Uniform { ignoreGlobs := ["two"] } ∧
      (Mistaken.session.receive Mistaken.disk (Mistaken.changed (Mistaken.globs (.bool true)))).2 =
        Mistaken.session := by
  have brought : Protocol.settings .waiting (Mistaken.messages.map (·.2)) =
      [{ ignoreGlobs := ["one"] }, { ignoreGlobs := ["two"] }] := by
    decide +kernel
  have running : Mistaken.session.phase = .running := by decide +kernel
  obtain ⟨uniform, unread, -⟩ := uniform_run Mistaken.setup Mistaken.messages
  rw [brought] at uniform
  refine ⟨by decide +kernel, brought, uniform, unread Mistaken.disk _ rfl ?_⟩
  change Message.settings? _ Mistaken.session.phase = none
  rw [running]
  decide +kernel

end Session

end LuauWorkspace
