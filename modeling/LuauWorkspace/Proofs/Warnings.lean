import LuauWorkspace.Proofs.Loads
import LuauWorkspace.Proofs.Turns

/-!
# Warnings of a session

Beside a session stands its past: the folders by number, the loads of their manifests, all messages
that were ever queued for the user, and what was sent to the client. Each message leaves it in a state
where what was shown and what still waits are together what was queued, in order; so a message that
shows what waits leaves nothing out and nothing twice.
-/
namespace LuauWorkspace

open Protocol (Folder Message Outgoing Start)

namespace Server

variable {ε : Type}

/-- A missing manifest is mentioned unless it was. -/
theorem warn_cases (server : Server ε) (name : String) :
    name ∈ server.warned ∧ server.warn name = server ∨
      name ∉ server.warned ∧ server.warn name =
        { server with
          warned := name :: server.warned
          waiting := server.waiting ++ [manifestFailure name] } := by
  unfold warn
  by_cases known : name ∈ server.warned
  · exact .inl ⟨known, by simp [known]⟩
  · exact .inr ⟨known, by simp [known, manifestFailure]⟩

/-- A load that failed is mentioned, and the other way round a load that did not is not. -/
theorem ite_warn (server : Server ε) (loaded : Bool) (name : String) :
    (if loaded = true then server else server.warn name) =
      if (!loaded) = true then server.warn name else server := by
  cases loaded <;> rfl

/-- A new folder comes last. -/
theorem names_add [Engine ε] (server : Server ε) (disk : Disk) (workspace : Workspace ε) :
    (server.add disk workspace).places.map (·.1) =
      server.places.map (·.1) ++ [workspace.name] := by
  have named : ((workspace.configure server.configuration).setup disk).2.name = workspace.name := by
    unfold Workspace.setup
    split <;> rfl
  simp only [add, places, (server.folders_warn _ _).1, List.map_append, List.map_cons, List.map_nil,
    named]

end Server

/-! ## The past of a session -/

/-- A session with its folders by number, the loads of their manifests, all messages that were queued
for the user, and what was sent to the client. -/
structure Watch (ε : Type) where
  session : Session ε
  seats : List Seat := []
  issued : Nat := 0
  loads : List Load := []
  queued : List UserMessage := []
  sent : List Outgoing := []

namespace Watch

variable {ε : Type} (watch : Watch ε)

/-- What waits in a session and did not wait before. -/
def news (after : Session ε) : List UserMessage :=
  after.server.waiting.drop watch.session.server.waiting.length

def note (after : Session ε) : Watch ε :=
  { watch with session := after, queued := watch.queued ++ watch.news after }

/-- The manifest of a folder is loaded. -/
def load (seat : Seat) (failed : Bool) (after : Session ε) : Watch ε :=
  { watch.note after with loads := watch.loads ++ [⟨seat, failed, watch.news after⟩] }

def removeFolder (folder : Folder) : Watch ε :=
  { watch with
    session := watch.session.removeFolder folder
    seats :=
      match watch.session.server.folders.findIdx? fun workspace =>
          workspace.rootUri = some folder.uri with
      | some index => watch.seats.eraseIdx index
      | none => watch.seats }

def configure (configuration : Configuration) : Watch ε :=
  { watch with
    session := { watch.session with server := watch.session.server.configure configuration } }

variable [Engine ε]

def addFolder (disk : Disk) (folder : Folder) : Watch ε :=
  let seat : Seat := ⟨watch.issued, folder.name⟩
  let workspace := (watch.session.setup.workspace folder).configure
    watch.session.server.configuration
  { watch.load seat (!(workspace.setup disk).1.isOk) (watch.session.addFolder disk folder) with
    seats := watch.seats ++ [seat]
    issued := watch.issued + 1 }

def addFolders (disk : Disk) (folders : List Folder) : Watch ε :=
  folders.foldl (fun watch folder => watch.addFolder disk folder) watch

def reload (disk : Disk) (index : Nat) : Watch ε :=
  let after := { watch.session with server := watch.session.server.reload disk index }
  match watch.session.server.folders[index]?, watch.seats[index]? with
  | some workspace, some seat =>
    watch.load seat (!(workspace.reloadManifest disk).1.isOk) after
  | _, _ => watch.note after

def fileChanged (disk : Disk) (uri : Uri) : Watch ε :=
  if Session.isManifest uri then
    match watch.session.server.folderFor? uri with
    | some index => watch.reload disk index
    | none => watch
  else watch

/-- The settings come first, then the folders, and at last what the session says about its setup. -/
def start (disk : Disk) (opening : Start) : Watch ε :=
  let configured :=
    watch.configure ((Configuration.ofSettings? opening.settings).getD {})
  (configured.addFolders disk opening.folders).note (watch.session.start disk opening)

def turn (disk : Disk) : Turn → Watch ε
  | .starts opening => watch.start disk opening
  | .ready => watch
  | .touches files => files.foldl (fun watch uri => watch.fileChanged disk uri) watch
  | .moves change => (change.removed.foldl removeFolder watch).addFolders disk change.added

def receive (disk : Disk) (message : Message) : Watch ε :=
  let reply := watch.session.receive disk message
  let turned := (message.turn? watch.session.phase).elim watch (watch.turn disk)
  { turned with
    session := reply.2
    sent := turned.sent ++ reply.1.outgoing }

def new (setup : Setup ε) : Watch ε where
  session := .new setup

def run (messages : List (Disk × Message)) : Watch ε :=
  messages.foldl (fun watch sent => watch.receive sent.1 sent.2) watch

/-! ## What the past tells -/

omit [Engine ε] in
/-- The folders have their names, a name is known once a load for it failed, and what was queued was
shown or still waits. -/
structure Sound (watch : Watch ε) : Prop where
  seated : watch.seats.map (·.name) = watch.session.server.places.map (·.1)
  warned : ∀ name, name ∈ watch.session.server.warned ↔ Load.FailedFor watch.loads name
  regular : Load.Regular watch.loads
  accounted : watch.queued.filter (·.kind = .warning) = watch.loads.flatMap (·.queued)
  delivered : watch.sent.filter (·.isNotice) ++
    watch.session.server.waiting.map .ofUserMessage = watch.queued.map .ofUserMessage

variable {watch}

omit [Engine ε] in
/-- What newly waits is noted. -/
theorem note_queued {after : Session ε} {added : List UserMessage}
    (waits : after.server.waiting = watch.session.server.waiting ++ added) :
    watch.news after = added := by
  rw [news, waits, List.drop_left]

omit [Engine ε] in
/-- A failed load is mentioned if it is the first one for its name. -/
theorem Sound.mention (sound : watch.Sound) (seat : Seat) (failed : Bool) :
    let server := if failed then watch.session.server.warn seat.name else watch.session.server
    server.waiting = watch.session.server.waiting ++ Load.expected watch.loads seat failed ∧
      ∀ name, name ∈ server.warned ↔
        Load.FailedFor watch.loads name ∨ failed = true ∧ seat.name = name := by
  cases failed with
  | false => simp [Load.expected, sound.warned]
  | true =>
    rcases watch.session.server.warn_cases seat.name with ⟨known, same⟩ | ⟨new, same⟩
    · have before := (sound.warned _).mp known
      simp only [if_true, same, Load.expected, before, not_true, and_false, if_false,
        List.append_nil, true_and, sound.warned]
      refine fun name => ⟨.inl, ?_⟩
      rintro (failed | rfl)
      · exact failed
      · exact before
    · have never := (sound.warned _).not.mp new
      simp only [if_true, same, Load.expected, never, not_false_eq_true, and_self, true_and,
        List.mem_cons, sound.warned]
      refine fun name => ?_
      rw [or_comm, eq_comm]

omit [Engine ε] in
/-- The load of a manifest keeps the past in order, whatever it does to the workspaces. -/
theorem Sound.load (sound : watch.Sound) {seat : Seat} {failed : Bool} {after : Session ε}
    {seats : List Seat} {issued : Nat}
    (warned : after.server.warned =
      (if failed then watch.session.server.warn seat.name else watch.session.server).warned)
    (waiting : after.server.waiting =
      (if failed then watch.session.server.warn seat.name else watch.session.server).waiting)
    (seated : seats.map (·.name) = after.server.places.map (·.1)) :
    Sound { watch.load seat failed after with seats, issued } := by
  obtain ⟨waits, knows⟩ := sound.mention seat failed
  have news := note_queued (waiting.trans waits)
  refine ⟨seated, fun name => ?_, ?_, ?_, ?_⟩
  · simp only [Watch.load, note, warned, knows]
    simp [Load.FailedFor, or_and_right, exists_or]
  · simp only [Watch.load, note, news]
    exact sound.regular.concat seat failed
  · simp only [Watch.load, note, news, List.filter_append, List.flatMap_append, sound.accounted,
      Load.filter_expected, List.flatMap_cons, List.flatMap_nil, List.append_nil]
  · simp only [Watch.load, note, news, waiting, waits, List.map_append, ← sound.delivered]
    simp

omit [Engine ε] in
/-- What is queued without a load is no warning. -/
theorem Sound.note (sound : watch.Sound) {after : Session ε} {added : List UserMessage}
    (places : after.server.places = watch.session.server.places)
    (warned : after.server.warned = watch.session.server.warned)
    (waits : after.server.waiting = watch.session.server.waiting ++ added)
    (other : added.filter (·.kind = .warning) = []) : (watch.note after).Sound := by
  have news := note_queued waits
  refine ⟨?_, fun name => ?_, sound.regular, ?_, ?_⟩
  · simp only [Watch.note, sound.seated, places]
  · simp only [Watch.note, warned, sound.warned]
  · simp only [Watch.note, news, List.filter_append, other, List.append_nil, sound.accounted]
  · simp only [Watch.note, news, waits, List.map_append, ← sound.delivered, List.append_assoc]

theorem Sound.addFolder (sound : watch.Sound) (disk : Disk) (folder : Folder) :
    (watch.addFolder disk folder).Sound := by
  refine sound.load ?_ ?_ ?_
  · rw [← Server.ite_warn]
    rfl
  · rw [← Server.ite_warn]
    rfl
  · rw [List.map_append, sound.seated]
    exact (watch.session.server.names_add disk (watch.session.setup.workspace folder)).symm

theorem Sound.reload (sound : watch.Sound) (disk : Disk) (index : Nat) :
    (watch.reload disk index).Sound := by
  have seated : watch.seats.map (·.name) =
      (watch.session.server.reload disk index).places.map (·.1) := by
    rw [Server.places_reload, sound.seated]
  have names := congrArg (·[index]?) sound.seated
  simp only [Server.places, List.map_map, List.getElem?_map] at names
  unfold Watch.reload
  cases found : watch.session.server.folders[index]? with
  | none =>
    have same : watch.session.server.reload disk index = watch.session.server := by
      simp only [Server.reload, found]
    exact sound.note (by rw [same]) (by rw [same]) (by rw [same, List.append_nil]) rfl
  | some workspace =>
    -- The folder is warned about under the name of its seat.
    obtain ⟨seat, there, named⟩ :
        ∃ seat, watch.seats[index]? = some seat ∧ seat.name = workspace.name := by
      simpa [found] using names
    simp only [there]
    refine sound.load ?_ ?_ seated
    · rw [named, ← Server.ite_warn]
      simp only [Server.reload, found]
    · rw [named, ← Server.ite_warn]
      simp only [Server.reload, found]

theorem Sound.fileChanged (sound : watch.Sound) (disk : Disk) (uri : Uri) :
    (watch.fileChanged disk uri).Sound := by
  unfold Watch.fileChanged
  split
  · split
    · exact sound.reload disk _
    · exact sound
  · exact sound

omit [Engine ε] in
theorem Sound.removeFolder (sound : watch.Sound) (folder : Folder) :
    (watch.removeFolder folder).Sound := by
  have server := watch.session.server_removeFolder folder
  refine ⟨?_, ?_, sound.regular, sound.accounted, ?_⟩
  · simp only [Watch.removeFolder, server, Server.places]
    cases watch.session.server.folders.findIdx? fun workspace =>
        workspace.rootUri = some folder.uri with
    | none => exact sound.seated
    | some index =>
      simp only
      rw [← List.eraseIdx_map, sound.seated, Server.places, List.eraseIdx_map, List.eraseIdx_map]
  · simp only [Watch.removeFolder, server]
    exact sound.warned
  · simp only [Watch.removeFolder, server]
    exact sound.delivered

theorem Sound.addFolders (sound : watch.Sound) (disk : Disk) (folders : List Folder) :
    (watch.addFolders disk folders).Sound :=
  List.foldlRecOn (motive := Sound) folders _ sound fun _ before folder _ =>
    before.addFolder disk folder

theorem session_addFolders (disk : Disk) (folders : List Folder) :
    (watch.addFolders disk folders).session = watch.session.addFolders disk folders :=
  Eq.symm (List.foldl_hom Watch.session fun _ _ => rfl)

omit [Engine ε] in
theorem Sound.configure (sound : watch.Sound) (configuration : Configuration) :
    (watch.configure configuration).Sound :=
  ⟨sound.seated.trans (by rw [Watch.configure, Server.places_configure]), sound.warned,
    sound.regular, sound.accounted, sound.delivered⟩

theorem Sound.start (sound : watch.Sound) (disk : Disk) (opening : Start) :
    (watch.start disk opening).Sound := by
  let configured := watch.configure ((Configuration.ofSettings? opening.settings).getD {})
  have ready : (configured.addFolders disk opening.folders).Sound :=
    (sound.configure _).addFolders disk opening.folders
  let session := (configured.addFolders disk opening.folders).session
  have started : (watch.session.start disk opening).server =
      if session.setup.definitions = [] then session.server.notify Session.missingDefinitions
      else session.server := by
    simp only [session, session_addFolders]
    rfl
  -- What is told about the setup is an error and no warning.
  split at started
  · exact ready.note (by rw [started]; rfl) (by rw [started]; rfl) (by rw [started]; rfl) rfl
  · exact ready.note (by rw [started]) (by rw [started]) (by rw [started, List.append_nil]) rfl

theorem Sound.turn (sound : watch.Sound) (disk : Disk) (turn : Turn) :
    (watch.turn disk turn).Sound := by
  cases turn with
  | starts opening => exact sound.start disk opening
  | ready => exact sound
  | touches files =>
    exact List.foldlRecOn (motive := Sound) files _ sound fun _ before uri _ =>
      before.fileChanged disk uri
  | moves change =>
    have removed : (change.removed.foldl Watch.removeFolder watch).Sound :=
      List.foldlRecOn (motive := Sound) change.removed _ sound fun _ before folder _ =>
        before.removeFolder folder
    exact removed.addFolders disk change.added

theorem session_reload (disk : Disk) (index : Nat) :
    (watch.reload disk index).session =
      { watch.session with server := watch.session.server.reload disk index } := by
  unfold Watch.reload
  split <;> rfl

theorem session_fileChanged (disk : Disk) (uri : Uri) :
    (watch.fileChanged disk uri).session =
      (watch.session.manifestChanged? disk uri).getD watch.session := by
  unfold Watch.fileChanged Session.manifestChanged?
  split
  · cases watch.session.server.folderFor? uri with
    | none => rfl
    | some index => exact session_reload disk index
  · rfl

/-- The past is kept beside the session and does not matter to it. -/
theorem session_turn (disk : Disk) (turn : Turn) :
    (watch.turn disk turn).session = watch.session.turn disk turn := by
  cases turn with
  | starts opening => rfl
  | ready => rfl
  | touches files =>
    exact (List.foldl_hom Watch.session fun _ _ => (session_fileChanged disk _).symm).symm.trans
      (watch.session.snd_filesChanged disk files).symm
  | moves change =>
    have removed : (change.removed.foldl Watch.removeFolder watch).session =
        change.removed.foldl (fun session folder => session.removeFolder folder) watch.session :=
      Eq.symm (List.foldl_hom Watch.session fun _ _ => rfl)
    exact (session_addFolders disk change.added).trans (by rw [removed]; rfl)

omit [Engine ε] in
/-- What a server tells is delivered. -/
theorem Sound.tell (sound : watch.Sound) {outgoing : List Outgoing} {after : Session ε}
    (tells : watch.session.server.Tells outgoing after.server) :
    Sound { watch with session := after, sent := watch.sent ++ outgoing } where
  seated := by rw [tells.places]; exact sound.seated
  warned name := by rw [tells.warned]; exact sound.warned name
  regular := sound.regular
  accounted := sound.accounted
  delivered := by rw [List.filter_append, List.append_assoc, tells.shown, sound.delivered]

theorem Sound.receive (sound : watch.Sound) (disk : Disk) (message : Message) :
    (watch.receive disk message).Sound := by
  have tells := (watch.session.follows_receive disk message).tells
  unfold Watch.receive
  cases takes : message.turn? watch.session.phase with
  | none =>
    rw [takes] at tells
    exact sound.tell tells
  | some turn =>
    rw [takes, Option.elim_some, ← session_turn] at tells
    exact (sound.turn disk turn).tell tells

omit [Engine ε] in
theorem sound_new (setup : Setup ε) : (new setup).Sound :=
  ⟨rfl, by simp [new, Session.new, Load.FailedFor], .nil, rfl, rfl⟩

theorem Sound.run (sound : watch.Sound) (messages : List (Disk × Message)) :
    (watch.run messages).Sound :=
  List.foldlRecOn (motive := Sound) messages _ sound fun _ before sent _ =>
    before.receive sent.1 sent.2

theorem session_run (messages : List (Disk × Message)) :
    (watch.run messages).session = watch.session.run messages :=
  Eq.symm (List.foldl_hom Watch.session fun _ _ => rfl)

end Watch

/-! Folders without manifests, of which some have one name. -/
namespace Unlisted

def folder (name path : String) : Json :=
  .object [("uri", .text ("file:///" ++ path)), ("name", .text name)]

def opening (folders : List Json) : Message where
  method := "initialize"
  params := some (.object [("capabilities", .object []), ("workspaceFolders", .list folders)])
  id := some (.int 0)

def ready : Message where
  method := "initialized"
  params := some (.object [])

def touched (path : String) : Message where
  method := "workspace/didChangeWatchedFiles"
  params := some (.object [("changes",
    .list [.object [("uri", .text ("file:///" ++ path)), ("type", .int 2)]])])

def moved (added removed : List Json) : Message where
  method := "workspace/didChangeWorkspaceFolders"
  params := some (.object [("event",
    .object [("added", .list added), ("removed", .list removed)])])

def setup : Setup LineEngine := { makeEngine := fun _ => {} }

def unread (messages : List Message) : List (Disk × Message) :=
  messages.map fun message => ({}, message)

/-- Two folders with names of their own, of which the first is touched. -/
def named : List Message :=
  [opening [folder "a" "one", folder "b" "two"], ready, touched "one/sourcemap.json"]

/-- Two folders of one name. -/
def twins : List Message := [opening [folder "game" "one", folder "game" "two"], ready]

/-- A folder that goes and comes back. -/
def returned : List Message :=
  [opening [folder "game" "one"], moved [folder "game" "one"] [folder "game" "one"]]

def loaded (messages : List Message) : List Load := ((Watch.new setup).run (unread messages)).loads

end Unlisted

namespace Watch

variable {ε : Type} [Engine ε]

/-- In every run the user is told once about each folder with a load that failed, and never about the
others, exactly if all failed loads of folders of one name are those of one folder. All warnings are
told for a load. All that was queued was shown, once and in order, or still waits, and after the
next message that shows anything nothing waits. -/
theorem once_iff_apart (setup : Setup ε) (messages : List (Disk × Message)) :
    let watch := (new setup).run messages
    watch.session = (Session.new setup).run messages ∧
      (Load.Once watch.loads ↔ Load.Apart watch.loads) ∧
      watch.queued.filter (·.kind = .warning) = watch.loads.flatMap (·.queued) ∧
      watch.sent.filter (·.isNotice) ++ watch.session.server.waiting.map .ofUserMessage =
        watch.queued.map .ofUserMessage ∧
      ∀ disk message, ∀ turn ∈ message.turn? watch.session.phase, turn.Shows →
        (watch.receive disk message).sent.filter (·.isNotice) =
          (watch.receive disk message).queued.map .ofUserMessage := by
  intro watch
  have sound : watch.Sound := (sound_new setup).run messages
  refine ⟨session_run messages, sound.regular.once_iff, sound.accounted, sound.delivered, ?_⟩
  intro disk message turn takes shows
  have empty : (watch.receive disk message).session.server.waiting = [] :=
    (watch.session.follows_receive disk message).empties turn takes shows
  have delivered := (sound.receive disk message).delivered
  rwa [empty, List.map_nil, List.append_nil] at delivered

open Unlisted (loaded named returned twins)

/-- Folders with names of their own are mentioned once each, although one of them fails again. A
message that changes no folder shows what waits. -/
theorem once_iff_apart_named :
    let watch := (new Unlisted.setup).run (Unlisted.unread named)
    watch.loads = [⟨⟨0, "a"⟩, true, [manifestFailure "a"]⟩, ⟨⟨1, "b"⟩, true, [manifestFailure "b"]⟩,
        ⟨⟨0, "a"⟩, true, []⟩] ∧
      Load.Once watch.loads ∧
      (watch.receive {} (Unlisted.moved [] [])).sent.filter (·.isNotice) =
        (watch.receive {} (Unlisted.moved [] [])).queued.map .ofUserMessage := by
  intro watch
  have past : watch.loads = [⟨⟨0, "a"⟩, true, [manifestFailure "a"]⟩,
      ⟨⟨1, "b"⟩, true, [manifestFailure "b"]⟩, ⟨⟨0, "a"⟩, true, []⟩] := by
    decide +kernel
  have apart : Load.Apart watch.loads := by
    rw [past]
    decide
  have running : watch.session.phase = .running := by
    decide +kernel
  have moves : (Unlisted.moved [] []).turn? watch.session.phase = some (.moves ⟨[], []⟩) := by
    rw [running]
    rfl
  obtain ⟨-, once, -, -, shows⟩ := once_iff_apart Unlisted.setup (Unlisted.unread named)
  exact ⟨past, once.mpr apart, shows _ _ _ moves trivial⟩

/-- Nobody is told about the second of two folders of one name, be it another one or the same that
was added again. -/
theorem not_once_twins :
    loaded twins = [⟨⟨0, "game"⟩, true, [manifestFailure "game"]⟩, ⟨⟨1, "game"⟩, true, []⟩] ∧
      loaded returned = loaded twins ∧ ¬ Load.Once (loaded twins) := by
  have past : loaded twins =
      [⟨⟨0, "game"⟩, true, [manifestFailure "game"]⟩, ⟨⟨1, "game"⟩, true, []⟩] := by
    decide +kernel
  refine ⟨past, by decide +kernel, fun once => ?_⟩
  have second := once ⟨1, "game"⟩
  rw [past] at second
  revert second
  decide

end Watch

end LuauWorkspace
