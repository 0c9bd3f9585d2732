import LuauWorkspace.Proofs.Nesting

/-!
# Turns of a session

A message that starts a session, that says that files changed or that folders come and go, does
something to the folders or their manifests. It and the message that the client is ready are the
turns of a session. All turns but the start show what waits for the user, and between turns nothing
is queued or shown.
-/
namespace LuauWorkspace

open Protocol (FolderChange Message Method Notice Outgoing Start)

/-- What a message does to the folders, their manifests, or the messages that wait. -/
inductive Turn where
  | starts (opening : Start)
  | ready
  | touches (files : List Uri)
  | moves (change : FolderChange)

/-- All turns but the first show what waits. -/
def Turn.Shows : Turn → Prop
  | starts _ => False
  | ready | touches _ | moves _ => True

def Protocol.Message.turn? (message : Message) (phase : Phase) : Option Turn :=
  match Method.ofName? message.method, phase, message.id with
  | some .start, .waiting, some _ => (message.params.bind Protocol.start?).map .starts
  | some (.notice .ready), .running, none =>
    (message.params.bind Protocol.nothing?).map fun _ => .ready
  | some (.notice .filesChanged), .running, none =>
    (message.params.bind Protocol.watchedFiles?).map .touches
  | some (.notice .foldersChanged), .running, none =>
    (message.params.bind Protocol.folderChange?).map .moves
  | _, _, _ => none

def Protocol.Outgoing.isNotice : Outgoing → Bool
  | request .. => false
  | notice .. => true

namespace Server

variable {ε : Type}

/-- A server has shown some of the messages that waited, in order, and has done nothing else that
matters here. -/
structure Tells (before : Server ε) (outgoing : List Outgoing) (after : Server ε) : Prop where
  places : after.places = before.places
  warned : after.warned = before.warned
  shown : outgoing.filter (·.isNotice) ++ after.waiting.map .ofUserMessage =
    before.waiting.map .ofUserMessage

theorem Tells.refl (server : Server ε) : server.Tells [] server := ⟨rfl, rfl, rfl⟩

/-- Once what waits is shown, nothing waits. -/
theorem Tells.all {before after : Server ε} {outgoing : List Outgoing}
    (places : after.places = before.places) (warned : after.warned = before.warned)
    (empty : after.waiting = [])
    (shown : outgoing.filter (·.isNotice) = before.waiting.map .ofUserMessage) :
    before.Tells outgoing after :=
  ⟨places, warned, by rw [empty, List.map_nil, List.append_nil, shown]⟩

theorem Tells.request {before after : Server ε} {outgoing : List Outgoing}
    (tells : before.Tells outgoing after) {id : Nat} {method : String} {params : Json} :
    before.Tells (.request id method params :: outgoing) after :=
  ⟨tells.places, tells.warned, tells.shown⟩

theorem Tells.request_last {before after : Server ε} {outgoing : List Outgoing}
    (tells : before.Tells outgoing after) {id : Nat} {method : String} {params : Json} :
    before.Tells (outgoing ++ [.request id method params]) after := by
  refine ⟨tells.places, tells.warned, ?_⟩
  rw [List.filter_append]
  simpa [Outgoing.isNotice] using tells.shown

theorem filter_isNotice_ofUserMessage (messages : List UserMessage) :
    (messages.map Outgoing.ofUserMessage).filter (·.isNotice) =
      messages.map .ofUserMessage := by
  simp [List.filter_eq_self, Outgoing.ofUserMessage, Outgoing.isNotice]

end Server

namespace Session

variable {ε : Type} [Engine ε] {session after : Session ε} {disk : Disk}

/-- What a turn changes before anything is shown. -/
def turn (session : Session ε) (disk : Disk) : Turn → Session ε
  | .starts opening => session.start disk opening
  | .ready => session
  | .touches files => (session.filesChanged disk files).2
  | .moves change =>
    (change.removed.foldl (fun session folder => session.removeFolder folder) session).addFolders
      disk change.added

/-- Whether a manifest was among the files does not matter to the session. -/
theorem snd_filesChanged (session : Session ε) (disk : Disk) (files : List Uri) :
    (session.filesChanged disk files).2 =
      files.foldl (fun session uri => (session.manifestChanged? disk uri).getD session) session := by
  unfold filesChanged
  generalize false = reloaded
  induction files generalizing session reloaded with
  | nil => rfl
  | cons uri rest ih =>
    simp only [List.foldl_cons]
    cases session.manifestChanged? disk uri with
    | none => exact ih session reloaded
    | some after => exact ih after true

/-- Workspaces that act or are configured have nothing to tell. -/
theorem Does.tells {deeds : List Deed} (does : session.Does disk deeds after)
    (quiet : ∀ deed ∈ deeds, deed = .serving ∨ deed = .configuring) :
    session.server.Tells [] after.server := by
  have places := does.places ⟨fun allowed => by simpa using quiet _ allowed,
    fun allowed => by simpa using quiet _ allowed⟩
  suffices same : after.server.warned = session.server.warned ∧
      after.server.waiting = session.server.waiting from ⟨places, same.1, by simp [same.2]⟩
  clear places
  induction does with
  | nothing => exact ⟨rfl, rfl⟩
  | later _ _ one two => exact ⟨two.1.trans one.1, two.2.trans one.2⟩
  | @serving session _ _ uri action =>
    simp only [Server.serve]
    cases session.server.folderFor? uri <;> exact ⟨rfl, rfl⟩
  | configuring => exact ⟨rfl, rfl⟩
  | reloading allowed | adding allowed | removing allowed | telling allowed =>
    simpa using quiet _ allowed

omit [Engine ε] in
theorem tells_flush (session : Session ε) :
    session.server.Tells session.flush.1 session.flush.2.server :=
  .all rfl rfl rfl (Server.filter_isNotice_ofUserMessage _)

/-- What comes of a message goes with its turn: a message that shows what waits leaves nothing. -/
structure Follows (session : Session ε) (disk : Disk) (message : Message)
    (outgoing : List Outgoing) (after : Session ε) : Prop where
  tells : ((message.turn? session.phase).elim session (session.turn disk)).server.Tells outgoing
    after.server
  empties : ∀ turn ∈ message.turn? session.phase, turn.Shows → after.server.waiting = []

section

variable {message : Message} {outgoing : List Outgoing}

theorem follows_of_none (aside : message.turn? session.phase = none)
    (tells : session.server.Tells outgoing after.server) :
    session.Follows disk message outgoing after :=
  ⟨by rw [aside]; exact tells, by simp [aside]⟩

theorem follows_of_some {turn : Turn} (takes : message.turn? session.phase = some turn)
    (tells : (session.turn disk turn).server.Tells outgoing after.server)
    (empty : turn.Shows → after.server.waiting = []) :
    session.Follows disk message outgoing after := by
  refine ⟨by rw [takes]; exact tells, fun other member => ?_⟩
  rw [takes] at member
  cases member
  exact empty

/-- Only what shows messages sends anything. -/
theorem hear_fst_eq_nil (session : Session ε) (disk : Disk) {notice : Notice} (params : Json)
    (quiet : notice ∉ [.ready, .filesChanged, .foldersChanged]) :
    (session.hear disk notice params).1 = [] := by
  cases notice with
  | ready | filesChanged | foldersChanged => simp at quiet
  | opened | changed | closed | configured =>
    simp only [hear]
    split <;> rfl
  | other => rfl

theorem follows_hear (running : session.phase = .running) (disk : Disk) {notice : Notice}
    {params : Json} (method : Method.ofName? message.method = some (.notice notice))
    (asks : message.id = none) (given : message.params = some params) :
    session.Follows disk message (session.hear disk notice params).1
      (session.hear disk notice params).2 := by
  by_cases quiet : notice ∈ [.ready, .filesChanged, .foldersChanged]
  · simp only [List.mem_cons, List.not_mem_nil, or_false] at quiet
    rcases quiet with rfl | rfl | rfl
    · have turns : message.turn? session.phase =
          (Protocol.nothing? params).map fun _ => .ready := by
        simp [Message.turn?, method, running, asks, given]
      cases read : Protocol.nothing? params <;> rw [read] at turns <;> simp only [hear, read]
      · exact follows_of_none turns (.refl _)
      · exact follows_of_some turns (session.ask .watch).2.tells_flush.request fun _ => rfl
    · have turns : message.turn? session.phase =
          (Protocol.watchedFiles? params).map .touches := by
        simp [Message.turn?, method, running, asks, given]
      cases read : Protocol.watchedFiles? params <;> rw [read] at turns <;> simp only [hear, read]
      · exact follows_of_none turns (.refl _)
      next files =>
        have shows := (session.filesChanged disk files).2.tells_flush
        -- A refresh is asked for behind what is shown.
        split
        · exact follows_of_some turns shows.request_last fun _ => rfl
        · exact follows_of_some turns shows fun _ => rfl
    · have turns : message.turn? session.phase =
          (Protocol.folderChange? params).map .moves := by
        simp [Message.turn?, method, running, asks, given]
      cases read : Protocol.folderChange? params <;> rw [read] at turns <;> simp only [hear, read]
      · exact follows_of_none turns (.refl _)
      · exact follows_of_some turns (tells_flush _) fun _ => rfl
  · rw [hear_fst_eq_nil session disk params quiet]
    refine follows_of_none ?_ ((session.does_hear disk notice params).tells ?_)
    · cases notice <;> simp_all [Message.turn?]
    · cases notice <;> simp_all [Notice.deeds]

theorem follows_receiveStart (session : Session ε) (disk : Disk)
    (method : Method.ofName? message.method = some .start) :
    session.Follows disk message (session.receiveStart disk message).1.outgoing
      (session.receiveStart disk message).2 := by
  unfold receiveStart
  split
  next started =>
    refine follows_of_none ?_ (.refl _)
    cases phase : session.phase <;> simp_all [Message.turn?]
  next waits =>
    have phase : session.phase = .waiting := not_not.mp waits
    split
    next asks =>
      exact follows_of_none (by simp [Message.turn?, method, phase, asks]) (.refl _)
    next asks unread =>
      exact follows_of_none (by simp [Message.turn?, method, phase, asks, unread]) (.refl _)
    next id opening asks read =>
      have takes : message.turn? session.phase = some (.starts opening) := by
        simp [Message.turn?, method, phase, asks, read]
      exact follows_of_some takes (.refl _) False.elim

omit [Engine ε] in
theorem server_receiveStop (session : Session ε) (message : Message) :
    (session.receiveStop message).1.outgoing = [] ∧
      (session.receiveStop message).2.server = session.server := by
  unfold receiveStop
  split
  · exact ⟨rfl, rfl⟩
  · split <;> exact ⟨rfl, rfl⟩

theorem follows_receiveNotice (running : session.phase = .running) (disk : Disk) {notice : Notice}
    (method : Method.ofName? message.method = some (.notice notice)) :
    session.Follows disk message (session.receiveNotice disk notice message).1.outgoing
      (session.receiveNotice disk notice message).2 := by
  unfold receiveNotice
  split
  next id asks =>
    exact follows_of_none (by simp [Message.turn?, method, asks]) (.refl _)
  next asks empty =>
    refine follows_of_none ?_ (.refl _)
    cases notice <;> simp [Message.turn?, method, asks, empty, running]
  next params asks given => exact follows_hear running disk method asks given

theorem follows_receiveRequest (session : Session ε) (disk : Disk) {request : Protocol.Request}
    (method : Method.ofName? message.method = some (.request request)) :
    session.Follows disk message (session.receiveRequest disk request message).1.outgoing
      (session.receiveRequest disk request message).2 := by
  have silent : (session.receiveRequest disk request message).1.outgoing = [] := by
    unfold receiveRequest
    split <;> rfl
  rw [silent]
  exact follows_of_none (by simp [Message.turn?, method])
    ((session.does_receiveRequest disk request message).tells (by simp))

theorem follows_receive (session : Session ε) (disk : Disk) (message : Message) :
    session.Follows disk message (session.receive disk message).1.outgoing
      (session.receive disk message).2 := by
  unfold receive
  split
  next left =>
    refine follows_of_none ?_ (.refl _)
    unfold Message.turn?
    split <;> simp_all
  cases method : Method.ofName? message.method with
  | none =>
    refine follows_of_none (by simp [Message.turn?, method]) ?_
    simp only
    split <;> exact .refl _
  | some known =>
    cases known with
    | start => exact session.follows_receiveStart disk method
    | stop =>
      obtain ⟨silent, same⟩ := session.server_receiveStop message
      refine follows_of_none (by simp [Message.turn?, method]) ?_
      simp only [silent, same]
      exact .refl _
    | leave | cancel => exact follows_of_none (by simp [Message.turn?, method]) (.refl _)
    | request request =>
      cases session.phaseRefusal? with
      | some refusal => exact follows_of_none (by simp [Message.turn?, method]) (.refl _)
      | none => exact session.follows_receiveRequest disk method
    | notice notice =>
      cases refused : session.phaseRefusal? with
      | some refusal =>
        have rests : session.phase ≠ .running := fun running => by
          rw [(session.phaseRefusal?_eq_none_iff).mpr running] at refused
          simp at refused
        refine follows_of_none ?_ (.refl _)
        unfold Message.turn?
        split <;> simp_all
      | none =>
        exact follows_receiveNotice (session.phaseRefusal?_eq_none_iff.mp refused) disk method
    | unanswered shape =>
      cases session.phaseRefusal? <;>
        exact follows_of_none (by simp [Message.turn?, method]) (.refl _)

end

end Session

end LuauWorkspace
