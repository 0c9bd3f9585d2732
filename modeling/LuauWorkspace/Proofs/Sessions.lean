import LuauWorkspace.Proofs.Buffers
import LuauWorkspace.Proofs.Routing

/-!
# Answers across folders

A folder reads the files of other folders from the disk, since only the folder that serves a
document holds it. So the diagnostics of a document are those of the open documents of its own
folder and of the disk for everything else. A session keeps to that while documents are opened and
changed and diagnostics are asked for, on a disk that nobody writes to meanwhile.
-/
namespace LuauWorkspace

open Protocol (Message Notice Start)

/-! ## Runs of messages -/

/-- Documents are opened and changed and diagnostics are asked for. -/
def Protocol.Message.Editing (message : Message) : Prop :=
  message.method ∈ ["textDocument/didOpen", "textDocument/didChange", "textDocument/diagnostic"]
deriving Decidable

namespace Session

section

variable {ε : Type} [Engine ε]

/-- Receives messages, each with the disk as it is at that time. -/
def run (session : Session ε) (messages : List (Disk × Message)) : Session ε :=
  messages.foldl (fun session sent => (session.receive sent.1 sent.2).2) session

end

/-- A session whose workspaces keep up with their documents. -/
structure Attentive (session : Session LineEngine) (disk : Disk) : Prop where
  running : session.phase = .running
  each : session.server.Each (·.Attentive disk)
  housed : session.server.Housed

theorem attentive_setup (origin : Workspace.Origin) (documentation : Documentation) (disk : Disk)
    (configuration : Configuration) :
    (((origin.create ({} : LineEngine) documentation).configure configuration).setup
      disk).2.Attentive disk := by
  let configured := (origin.create ({} : LineEngine) documentation).configure configuration
  have regular : configured.Regular :=
    { Workspace.regular_create origin _ documentation with compiled := rfl }
  have untouched : configured.analysis.Untouched :=
    Workspace.untouched_create origin documentation
  unfold Workspace.setup
  split
  · exact Workspace.attentive_of_untouched regular untouched
  · exact Workspace.attentive_of_untouched (regular.loadManifest _)
      (Workspace.untouched_loadManifest untouched _)

variable {session : Session LineEngine} {disk : Disk}

/-- A session with the line engine in each workspace. -/
def begun (documentation : Documentation) (definitions : List Path) (disk : Disk)
    (opening : Start) : Session LineEngine :=
  (new { makeEngine := fun _ => {}, documentation, definitions }).start disk opening

/-- No document is open at the start. -/
theorem housed_begun (documentation : Documentation) (definitions : List Path) (disk : Disk)
    (opening : Start) : (begun documentation definitions disk opening).server.Housed := by
  refine Server.housed_of_documents (fun documents member => ?_) (documents_null_start _ _ _)
  rw [begun, documents_start] at member
  obtain ⟨_, _, rfl⟩ := List.mem_map.mp member
  rfl

theorem attentive_begun (documentation : Documentation) (definitions : List Path) (disk : Disk)
    (opening : Start) : (begun documentation definitions disk opening).Attentive disk := by
  let setup : Setup LineEngine := { makeEngine := fun _ => {}, documentation, definitions }
  let configuration := (Configuration.ofSettings? opening.settings).getD {}
  let configured : Session LineEngine :=
    { new setup with server := (new setup).server.configure configuration }
  have started : configured.server.Each (·.Attentive disk) :=
    ⟨fun workspace member => absurd member List.not_mem_nil,
      attentive_setup .null documentation disk configuration⟩
  -- The folders are added one by one, each with an engine that knows nothing.
  have added : (configured.addFolders disk opening.folders).server.Each (·.Attentive disk) ∧
      (configured.addFolders disk opening.folders).setup = setup := by
    refine List.foldlRecOn (motive := fun session : Session LineEngine =>
      session.server.Each (·.Attentive disk) ∧ session.setup = setup) opening.folders _
      ⟨started, rfl⟩ ?_
    rintro before ⟨each, same⟩ folder -
    refine ⟨each.add disk _ ?_, same⟩
    rw [same]
    exact attentive_setup (.folder folder.name folder.uri) documentation disk _
  refine ⟨rfl, ?_, housed_begun documentation definitions disk opening⟩
  simp only [begun, start]
  split
  · exact ⟨added.1.folders, added.1.null⟩
  · exact added.1

/-- A workspace acts without closing documents or loading a manifest. -/
theorem Attentive.serve (attentive : session.Attentive disk) {α : Type} (uri : Uri)
    (action : Workspace LineEngine → α × Workspace LineEngine) (step : Workspace.Action)
    (calm : step.Calm) (about : step.uri? = some uri)
    (acts : ∀ workspace, (action workspace).2 = workspace.perform disk step) :
    ({ session with server := (session.server.serve uri action).2 } :
      Session LineEngine).Attentive disk := by
  refine ⟨attentive.running, ?_, ?_⟩
  · refine attentive.each.serve uri action fun workspace before => ?_
    rw [acts]
    exact before.perform calm
  · refine attentive.housed.serve uri action (fun workspace => ?_) ?_
    · rw [acts]
      exact ⟨Workspace.name_perform step, Workspace.root_perform step⟩
    · intro workspace name document held
      rw [acts] at held
      refine (Workspace.uri_of_get?_perform step held).imp_left fun same => ?_
      exact Option.some.inj (same.symm.trans about)

theorem Attentive.hear (attentive : session.Attentive disk) {notice : Notice}
    (edits : notice = .opened ∨ notice = .changed) (params : Json) :
    (session.hear disk notice params).2.Attentive disk := by
  rcases edits with rfl | rfl
  · simp only [Session.hear]
    cases Protocol.opened? params with
    | none => exact attentive
    | some document =>
      exact attentive.serve document.uri _
        (.opening document.uri document.language document.version document.text) trivial rfl
        fun _ => rfl
  · simp only [Session.hear]
    cases Protocol.changed? params with
    | none => exact attentive
    | some change =>
      exact attentive.serve change.1 _ (.updating change.1 change.2) trivial rfl fun _ => rfl

theorem Attentive.receiveNotice (attentive : session.Attentive disk) {notice : Notice}
    (edits : notice = .opened ∨ notice = .changed) (message : Message) :
    (session.receiveNotice disk notice message).2.Attentive disk := by
  unfold Session.receiveNotice
  split
  · exact attentive
  · exact attentive
  · exact attentive.hear edits _

theorem Attentive.receiveDiagnostic (attentive : session.Attentive disk) (message : Message) :
    (session.receiveRequest disk .diagnostic message).2.Attentive disk := by
  unfold Session.receiveRequest
  split
  · exact attentive
  · exact attentive
  next id result after _ answered =>
    obtain ⟨params, -, answer⟩ := Option.bind_eq_some_iff.mp answered
    obtain ⟨uri, -, served⟩ := Option.map_eq_some_iff.mp answer
    obtain rfl : _ = after := congrArg (·.2) served
    exact attentive.serve uri _ (.asking uri .diagnostics) trivial rfl fun _ => rfl

theorem receive_of_running (running : session.phase = .running) (disk : Disk)
    (message : Message) :
    (message.method = "textDocument/didOpen" →
      session.receive disk message = session.receiveNotice disk .opened message) ∧
    (message.method = "textDocument/didChange" →
      session.receive disk message = session.receiveNotice disk .changed message) ∧
    (message.method = "textDocument/diagnostic" →
      session.receive disk message = session.receiveRequest disk .diagnostic message) := by
  have opened : Protocol.Method.ofName? "textDocument/didOpen" = some (.notice .opened) := rfl
  have changed : Protocol.Method.ofName? "textDocument/didChange" = some (.notice .changed) := rfl
  have diagnostic : Protocol.Method.ofName? "textDocument/diagnostic" =
      some (.request .diagnostic) := rfl
  refine ⟨fun name => ?_, fun name => ?_, fun name => ?_⟩ <;>
    simp [Session.receive, phaseRefusal?, running, name, opened, changed, diagnostic]

theorem Attentive.receive (attentive : session.Attentive disk) {message : Message}
    (editing : message.Editing) : (session.receive disk message).2.Attentive disk := by
  obtain ⟨opened, changed, asked⟩ := receive_of_running attentive.running disk message
  simp only [Message.Editing, List.mem_cons, List.not_mem_nil, or_false] at editing
  rcases editing with name | name | name
  · exact opened name ▸ attentive.receiveNotice (Or.inl rfl) message
  · exact changed name ▸ attentive.receiveNotice (Or.inr rfl) message
  · exact asked name ▸ attentive.receiveDiagnostic message

theorem Attentive.run (attentive : session.Attentive disk) {messages : List (Disk × Message)}
    (editing : ∀ sent ∈ messages, sent.1 = disk ∧ sent.2.Editing) :
    (session.run messages).Attentive disk := by
  refine List.foldlRecOn (motive := fun session : Session LineEngine => session.Attentive disk)
    messages _ attentive fun before attentive sent member => ?_
  obtain ⟨rfl, edits⟩ := editing sent member
  exact attentive.receive edits

/-- A request for diagnostics is answered by the workspace that serves the document. -/
theorem receive_diagnostic (running : session.phase = .running) (id params : Json) {uri : Uri}
    (asks : Protocol.diagnosticsOf? params = some uri) :
    (session.receive disk ⟨"textDocument/diagnostic", some params, some id⟩).1.response =
      some ⟨id, .ok (Protocol.report
        ((session.server.workspaceFor uri).diagnostics disk uri).1)⟩ := by
  have served : session.answer? disk .diagnostic params =
      some (session.serve uri (fun workspace => workspace.diagnostics disk uri)
        Protocol.report) := by
    simp only [answer?, asks, Option.map_some]
  rw [(receive_of_running running disk _).2.2 rfl]
  simp only [receiveRequest, Option.bind_some, served, serve, Server.serve_fst]

end Session

namespace Siblings

def address (path : String) : Json := .text ("file:///place/" ++ path)

def opened (path text : String) : Message where
  method := "textDocument/didOpen"
  params := some (.object [("textDocument", .object [("uri", address path),
    ("languageId", .text "luau"), ("version", .int 1), ("text", .text text)])])

def changed (path text : String) : Message where
  method := "textDocument/didChange"
  params := some (.object [
    ("textDocument", .object [("uri", address path), ("version", .int 2)]),
    ("contentChanges", .list [.object [("text", .text text)]])])

def about (path : String) : Json := .object [("textDocument", .object [("uri", address path)])]

def asked (path : String) : Message where
  method := "textDocument/diagnostic"
  params := some (about path)
  id := some (.int 1)

/-- A manifest of one script. -/
def manifest : String :=
  "\x7b\"name\":\"P\",\"className\":\"DataModel\",\"children\":[" ++
    "\x7b\"name\":\"Util\",\"className\":\"\",\"filePaths\":[\"util.luau\"]\x7d]\x7d"

def disk : Disk :=
  ⟨⟨[ (["place"], .directory),
      (["place", "a"], .directory),
      (["place", "a", "sourcemap.json"], .text manifest),
      (["place", "a", "main.luau"],
        .text "local U = require(game.Util)\nlocal V = require(\"../b/util.luau\")\n"),
      (["place", "a", "util.luau"], .text "-- error: saved\n"),
      (["place", "b"], .directory),
      (["place", "b", "util.luau"], .text "-- error: saved\n") ]⟩⟩

/-- A script of each of two folders is open, and a document of the first requires both. -/
def messages : List (Disk × Message) :=
  [ opened "a/util.luau" "-- error: old\n",
    asked "a/main.luau",
    changed "a/util.luau" "-- error: new\n",
    opened "b/util.luau" "-- error: other\n" ].map (disk, ·)

def queried : Uri := Workspace.Place.file "a/main.luau"

def session : Session LineEngine :=
  (Session.begun {} [] disk
    { folders := [⟨"a", Workspace.Place.file "a"⟩, ⟨"b", Workspace.Place.file "b"⟩] }).run messages

def workspace : Workspace LineEngine := session.server.workspaceFor queried

/-- One of the scripts is shown as it is open and the other as it is on disk. -/
theorem entries_workspace :
    (workspace.diagnostics disk queried).1.related.entries =
      [ (Workspace.Place.file "a/util.luau",
          [⟨⟨⟨0, 0⟩, ⟨0, 13⟩⟩, .error, .number 1000, "TypeError: new"⟩]),
        (Workspace.Place.file "b/util.luau",
          [⟨⟨⟨0, 0⟩, ⟨0, 15⟩⟩, .error, .number 1000, "TypeError: saved"⟩]) ] := by
  decide +kernel

/-- The disk with the text of a module between a document and an open one. -/
def between (text : String) : Disk :=
  ⟨⟨[ (["place"], .directory),
      (["place", "main.luau"], .text "local M = require(\"mid.luau\")\n"),
      (["place", "mid.luau"], .text text) ]⟩⟩

def before : Disk := between "local U = require(\"util.luau\")\n"

def after : Disk := between ""

/-- The module between them is written anew, and it is asked about before the open one changes. -/
def rewritten : Session LineEngine :=
  (Session.begun {} [] before { folders := [⟨"place", Workspace.Place.file ""⟩] }).run
    [ (before, opened "util.luau" "-- error: old\n"),
      (before, asked "main.luau"),
      (after, asked "mid.luau"),
      (after, changed "util.luau" "-- error: new\n") ]

end Siblings

namespace Session

/-- After any run of openings, changes and questions on one disk, what an answer reports under the
URI of an open document that its own folder serves stands in the present text of the document. What
it reports under the URI of any other file stands in the text on disk, be that open in another
folder or not. -/
theorem related_current (documentation : Documentation) (definitions : List Path) (disk : Disk)
    (opening : Start) (messages : List (Disk × Message))
    (editing : ∀ sent ∈ messages, sent.1 = disk ∧ sent.2.Editing) (id params : Json) (uri : Uri)
    (asks : Protocol.diagnosticsOf? params = some uri)
    (traced : (((begun documentation definitions disk opening).run messages).server.workspaceFor
      uri).Traced) :
    let session := (begun documentation definitions disk opening).run messages
    let workspace := session.server.workspaceFor uri
    let answer := (workspace.diagnostics disk uri).1
    (session.receive disk ⟨"textDocument/diagnostic", some params, some id⟩).1.response =
        some ⟨id, .ok (Protocol.report answer)⟩ ∧
      ∀ bucket ∈ answer.related.entries, ∀ entry ∈ bucket.2,
        (∀ holder ∈ session.server.null :: session.server.folders,
          ∀ document ∈ holder.files.documents.get? (.ofUri bucket.1),
            session.server.folderFor? document.uri = session.server.folderFor? uri →
              entry ∈ Line.errors document.text) ∧
          (workspace.files.documents.get? (.ofUri bucket.1) = none →
            ∃ text, disk.read? (ModuleName.ofUri bucket.1).path = some text ∧
              entry ∈ Line.errors text) := by
  intro session workspace answer
  have attentive : session.Attentive disk :=
    (attentive_begun documentation definitions disk opening).run editing
  refine ⟨receive_diagnostic attentive.running id params asks,
    fun bucket present entry listed => ?_⟩
  obtain ⟨text, read, stands⟩ :=
    (attentive.each.workspaceFor uri).related_stands traced uri bucket present entry listed
  change workspace.files.text? disk (.ofUri bucket.1) = some text at read
  refine ⟨fun holder member document held same => ?_, fun absent => ⟨text, ?_, stands⟩⟩
  · obtain rfl : holder = workspace := attentive.housed.eq_workspaceFor member held same
    have own : workspace.files.documents.get? (.ofUri bucket.1) = some document := held
    rw [Files.text?, own] at read
    exact Option.some.inj read ▸ stands
  · rwa [Files.text?, absent] at read

open Siblings (about queried messages rewritten workspace)

theorem related_current_siblings :
    (∀ sent ∈ messages, sent.1 = Siblings.disk ∧ sent.2.Editing) ∧
      Protocol.diagnosticsOf? (about "a/main.luau") = some queried ∧ workspace.Traced ∧
      (Siblings.session.receive Siblings.disk (Siblings.asked "a/main.luau")).1.response =
        some ⟨.int 1, .ok (Protocol.report (workspace.diagnostics Siblings.disk queried).1)⟩ ∧
      Workspace.Place.messages (workspace.diagnostics Siblings.disk queried).1 =
        [["TypeError: new"], ["TypeError: saved"]] := by
  have editing : ∀ sent ∈ messages, sent.1 = Siblings.disk ∧ sent.2.Editing := by
    simp [messages, Siblings.opened, Siblings.asked, Siblings.changed, Message.Editing]
  have asks : Protocol.diagnosticsOf? (about "a/main.luau") = some queried := by decide +kernel
  have traced : workspace.Traced := Workspace.traced_of_instances (by decide +kernel)
  exact ⟨editing, asks, traced,
    (related_current {} [] Siblings.disk _ messages editing (.int 1) _ queried asks traced).1,
    by rw [Workspace.Place.messages, Siblings.entries_workspace]; rfl⟩

/-- What an answer reports under the URI of a document stands in its text, in whichever folder the
document is open. -/
def Current (session : Session LineEngine) (disk : Disk) (uri : Uri) : Prop :=
  ∀ bucket ∈ ((session.server.workspaceFor uri).diagnostics disk uri).1.related.entries,
    ∀ holder ∈ session.server.null :: session.server.folders,
      ∀ document ∈ holder.files.documents.get? (.ofUri bucket.1),
        ∀ entry ∈ bucket.2, entry ∈ Line.errors document.text
deriving Decidable

/-- A document that is open in another folder is reported as it is on disk, and one of the same
folder as it was before if the way to it has gone from the disk meanwhile. -/
theorem related_outdated :
    ¬ Siblings.session.Current Siblings.disk queried ∧
      ¬ rewritten.Current Siblings.after (Workspace.Place.file "main.luau") := by
  refine ⟨?_, by decide +kernel⟩
  change ¬ ∀ bucket ∈ (workspace.diagnostics Siblings.disk queried).1.related.entries, _
  rw [Siblings.entries_workspace]
  decide +kernel

end Session

end LuauWorkspace
