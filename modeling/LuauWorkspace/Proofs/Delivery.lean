import LuauWorkspace.Proofs.Actions
import LuauWorkspace.Proofs.Ledger
import LuauWorkspace.Proofs.Routing

/-!
# Delivery of edits

Messages about a document go to the workspace that serves it at that time, and workspaces never
hand documents over to each other. So an edit is lost when a folder comes or goes around an open
document. It is not lost when all messages about the document, from its opening on, went to the
workspace that serves it now, whatever else happened to the folders.
-/
namespace LuauWorkspace

open Protocol (Folder FolderChange Notice Start)

/-- A session together with what its client has and the numbers of the folders. Documents are
told apart by the modules that their URIs name. -/
structure Exchange (ε : Type) where
  session : Session ε
  numbers : List Nat
  issued : Nat
  copies : Table ModuleName Copy := {}

/-- A notice of the client and the disk at that time. -/
structure Sent where
  disk : Disk
  notice : Notice
  params : Json

namespace Exchange

variable {ε : Type} (exchange : Exchange ε)

/-- The folder that serves a URI now. -/
def station (uri : Uri) : Option Nat :=
  (exchange.session.server.folderFor? uri).bind fun index => exchange.numbers[index]?

def ledger : Ledger where
  folders := exchange.session.server.documents
  null := exchange.session.server.null.files.documents
  numbers := exchange.numbers
  issued := exchange.issued
  copies := exchange.copies

/-- The documents of the client once it sent a notice. -/
def noted (notice : Notice) (params : Json) : Table ModuleName Copy :=
  match notice with
  | .opened =>
    match Protocol.opened? params with
    | none => exchange.copies
    | some document =>
      exchange.copies.insert (.ofUri document.uri)
        ⟨document.version, document.text, [exchange.station document.uri]⟩
  | .changed =>
    match Protocol.changed? params with
    | none => exchange.copies
    | some (uri, update) =>
      match exchange.copies.get? (.ofUri uri) with
      | none => exchange.copies
      | some copy =>
        exchange.copies.insert (.ofUri uri) (copy.update update (exchange.station uri))
  | .closed =>
    match Protocol.closed? params with
    | none => exchange.copies
    | some uri => exchange.copies.erase (.ofUri uri)
  | _ => exchange.copies

/-- The versions of an open document increase. -/
def Proper (notice : Notice) (params : Json) : Prop :=
  notice = .changed → ∀ change ∈ Protocol.changed? params,
    ∀ copy ∈ exchange.copies.get? (.ofUri change.1), copy.version < change.2.version
deriving Decidable

def removeFolder (folder : Folder) : Exchange ε :=
  { exchange with
    session := exchange.session.removeFolder folder
    numbers :=
      match exchange.session.server.folders.findIdx? fun workspace =>
          workspace.rootUri = some folder.uri with
      | some index => exchange.numbers.eraseIdx index
      | none => exchange.numbers }

/-- The workspace that serves a URI acts, and the client notes its documents. -/
def deliver (uri : Uri) (action : Workspace ε → Workspace ε) (copies : Table ModuleName Copy) :
    Exchange ε :=
  { exchange with
    session := { exchange.session with
      server := (exchange.session.server.serve uri fun workspace => ((), action workspace)).2 }
    copies }

/-- What the workspace that serves a URI holds. -/
theorem documents?_folderFor (uri : Uri) :
    exchange.ledger.documents? (exchange.session.server.folderFor? uri) =
      some (exchange.session.server.workspaceFor uri).files.documents := by
  cases place : exchange.session.server.folderFor? uri with
  | none =>
    rw [exchange.session.server.workspaceFor_of_none place]
    rfl
  | some index =>
    exact exchange.session.server.getElem?_documents
      (exchange.session.server.workspaceFor_of_some place)

theorem ledger_deliver (uri : Uri) (action : Workspace ε → Workspace ε)
    (copies : Table ModuleName Copy) :
    (exchange.deliver uri action copies).ledger =
      exchange.ledger.write (exchange.session.server.folderFor? uri)
        (action (exchange.session.server.workspaceFor uri)).files.documents copies := by
  obtain ⟨within, outside⟩ := exchange.session.server.documents_serve uri fun workspace =>
    ((), action workspace)
  cases place : exchange.session.server.folderFor? uri with
  | none =>
    obtain ⟨documents, null⟩ := outside place
    simp only [ledger, deliver, Ledger.write, documents, null,
      exchange.session.server.workspaceFor_of_none place]
  | some index =>
    obtain ⟨documents, null⟩ := within index place
    simp only [ledger, deliver, Ledger.write, documents, null]

variable {exchange}

/-- A document that the client has now went to one more station, and the document that is there
is the same if all messages went there. -/
theorem faithful_deliver (faithful : exchange.ledger.Faithful) {uri : Uri}
    {action : Workspace ε → Workspace ε} {copies : Table ModuleName Copy}
    (documents_same : ∀ workspace name, name ≠ ModuleName.ofUri uri →
      (action workspace).files.documents.get? name = workspace.files.documents.get? name)
    (copies_same : ∀ name, name ≠ ModuleName.ofUri uri →
      copies.get? name = exchange.copies.get? name)
    (noted : ∀ copy, copies.get? (ModuleName.ofUri uri) = some copy →
      exchange.station uri ∈ copy.stations ∧
        (∀ number, some number ∈ copy.stations → number < exchange.issued) ∧
        ((∀ other ∈ copy.stations, other = exchange.station uri) →
          copy.Matches (ModuleName.ofUri uri)
            (action (exchange.session.server.workspaceFor uri)).files.documents)) :
    (exchange.deliver uri action copies).ledger.Faithful := by
  rw [ledger_deliver]
  exact faithful.write (exchange.documents?_folderFor uri) (documents_same _) copies_same noted

theorem faithful_removeFolder (faithful : exchange.ledger.Faithful) (folder : Folder) :
    (exchange.removeFolder folder).ledger.Faithful := by
  obtain ⟨documents, null⟩ := exchange.session.documents_removeFolder folder
  cases found : exchange.session.server.folders.findIdx? fun workspace =>
      workspace.rootUri = some folder.uri with
  | none =>
    have same : (exchange.removeFolder folder).ledger = exchange.ledger := by
      simp only [ledger, removeFolder, documents, null, found]
    rwa [same]
  | some index =>
    have same : (exchange.removeFolder folder).ledger = exchange.ledger.remove index := by
      simp only [ledger, removeFolder, Ledger.remove, documents, null, found]
    rw [same]
    exact faithful.remove index

/-! ## Messages -/

variable [Engine ε]

def start (setup : Setup ε) (disk : Disk) (opening : Start) : Exchange ε where
  session := (Session.new setup).start disk opening
  numbers := List.range opening.folders.length
  issued := opening.folders.length

def addFolder (disk : Disk) (folder : Folder) : Exchange ε :=
  { exchange with
    session := exchange.session.addFolder disk folder
    numbers := exchange.numbers ++ [exchange.issued]
    issued := exchange.issued + 1 }

def changeFolders (disk : Disk) (change : FolderChange) : Exchange ε :=
  change.added.foldl (fun exchange folder => exchange.addFolder disk folder)
    (change.removed.foldl removeFolder exchange)

def hear (sent : Sent) : Exchange ε :=
  let renumbered :=
    match sent.notice, Protocol.folderChange? sent.params with
    | .foldersChanged, some change => exchange.changeFolders sent.disk change
    | _, _ => exchange
  { renumbered with
    session := (exchange.session.hear sent.disk sent.notice sent.params).2
    copies := exchange.noted sent.notice sent.params }

def run (messages : List Sent) : Exchange ε :=
  messages.foldl (fun exchange sent => exchange.hear sent) exchange

/-- A client that follows the protocol throughout. -/
def Follows (exchange : Exchange ε) : List Sent → Prop
  | [] => True
  | sent :: rest =>
    exchange.Proper sent.notice sent.params ∧ (exchange.hear sent).Follows rest

instance decidableFollows (exchange : Exchange ε) : (messages : List Sent) →
    Decidable (exchange.Follows messages)
  | [] => .isTrue trivial
  | sent :: rest =>
    have := decidableFollows (exchange.hear sent) rest
    inferInstanceAs (Decidable (exchange.Proper sent.notice sent.params ∧
      (exchange.hear sent).Follows rest))

/-! ## Documents -/

theorem faithful_opened (faithful : exchange.ledger.Faithful) (disk : Disk) (params : Json) :
    (exchange.hear ⟨disk, .opened, params⟩).ledger.Faithful := by
  cases read : Protocol.opened? params with
  | none =>
    have same : (exchange.hear ⟨disk, .opened, params⟩).ledger = exchange.ledger := by
      simp only [hear, Session.hear, noted, ledger, read]
    rwa [same]
  | some document =>
    have delivered : exchange.hear ⟨disk, .opened, params⟩ =
        exchange.deliver document.uri
          (fun workspace => workspace.openDocument document.uri document.language
            document.version document.text)
          (exchange.copies.insert (.ofUri document.uri)
            ⟨document.version, document.text, [exchange.station document.uri]⟩) := by
      simp only [hear, Session.hear, noted, deliver, read]
    rw [delivered]
    refine faithful_deliver faithful ?_ ?_ ?_
    · exact fun workspace name differs => Table.get?_insert_of_ne _ _ differs
    · exact fun name differs => Table.get?_insert_of_ne _ _ differs
    · intro copy found
      obtain rfl := Option.some.inj ((Table.get?_insert_self ..).symm.trans found)
      refine ⟨List.mem_singleton_self _, fun number listed => ?_, fun _ => ?_⟩
      · exact faithful.station_lt (List.mem_singleton.mp listed).symm
      -- An opening is never refused.
      · exact ⟨_, Table.get?_insert_self .., rfl, rfl⟩

theorem faithful_changed (faithful : exchange.ledger.Faithful) (disk : Disk) (params : Json)
    (proper : exchange.Proper .changed params) :
    (exchange.hear ⟨disk, .changed, params⟩).ledger.Faithful := by
  cases read : Protocol.changed? params with
  | none =>
    have same : (exchange.hear ⟨disk, .changed, params⟩).ledger = exchange.ledger := by
      simp only [hear, Session.hear, noted, ledger, read]
    rwa [same]
  | some change =>
    obtain ⟨uri, update⟩ := change
    have delivered : exchange.hear ⟨disk, .changed, params⟩ =
        exchange.deliver uri
          (fun workspace => (workspace.updateDocument uri update).toOption.getD workspace)
          (exchange.noted .changed params) := by
      simp only [hear, Session.hear, deliver, read]
    rw [delivered]
    refine faithful_deliver faithful ?_ ?_ ?_
    · intro workspace name differs
      rw [workspace.documents_updateDocument]
      exact Documents.get?_updated_of_ne update differs
    · intro name differs
      simp only [noted, read]
      split
      · rfl
      · exact Table.get?_insert_of_ne _ _ differs
    · intro after found
      simp only [noted, read] at found
      cases had : exchange.copies.get? (.ofUri uri) with
      | none => simp [had] at found
      | some copy =>
        simp only [had, Table.get?_insert_self, Option.some.injEq] at found
        subst found
        obtain ⟨_, past⟩ := faithful.known _ copy had
        refine ⟨List.mem_cons_self, fun number listed => ?_, fun all => ?_⟩
        · rcases List.mem_cons.mp listed with here | before
          · exact faithful.station_lt here.symm
          · exact past number before
        · -- The messages before went there too, so the update meets the client's version.
          obtain ⟨document, opened, version, text⟩ :=
            faithful.matches_at (exchange.documents?_folderFor uri) had
              fun station listed => all station (List.mem_cons_of_mem _ listed)
          have newer : document.version < update.version :=
            version ▸ proper rfl (uri, update) read copy had
          rw [Workspace.documents_updateDocument]
          refine ⟨_, Documents.get?_updated_of_lt opened newer, rfl, ?_⟩
          exact congrArg (update.changes.foldl fun text change => change.apply text) text

theorem faithful_closed (faithful : exchange.ledger.Faithful) (disk : Disk) (params : Json) :
    (exchange.hear ⟨disk, .closed, params⟩).ledger.Faithful := by
  cases read : Protocol.closed? params with
  | none =>
    have same : (exchange.hear ⟨disk, .closed, params⟩).ledger = exchange.ledger := by
      simp only [hear, Session.hear, noted, ledger, read]
    rwa [same]
  | some uri =>
    have delivered : exchange.hear ⟨disk, .closed, params⟩ =
        exchange.deliver uri (fun workspace => workspace.closeDocument uri)
          (exchange.copies.erase (.ofUri uri)) := by
      simp only [hear, Session.hear, noted, deliver, read]
    rw [delivered]
    refine faithful_deliver faithful ?_ ?_ ?_
    · intro workspace name differs
      exact (Table.get?_erase ..).trans (if_neg differs)
    · exact fun name differs => (Table.get?_erase ..).trans (if_neg differs)
    · intro copy found
      simp at found

/-! ## Folders -/

theorem faithful_addFolder (faithful : exchange.ledger.Faithful) (disk : Disk) (folder : Folder) :
    (exchange.addFolder disk folder).ledger.Faithful := by
  obtain ⟨documents, null⟩ := exchange.session.documents_addFolder disk folder
  have same : (exchange.addFolder disk folder).ledger = exchange.ledger.append := by
    simp only [ledger, addFolder, Ledger.append, documents, null]
  rw [same]
  exact faithful.append

theorem faithful_changeFolders (faithful : exchange.ledger.Faithful) (disk : Disk)
    (change : FolderChange) : (exchange.changeFolders disk change).ledger.Faithful := by
  have removed : (change.removed.foldl removeFolder exchange).ledger.Faithful :=
    List.foldlRecOn (motive := fun state : Exchange ε => state.ledger.Faithful) change.removed _
      faithful fun _ before folder _ => faithful_removeFolder before folder
  exact List.foldlRecOn (motive := fun state : Exchange ε => state.ledger.Faithful) change.added _
    removed fun _ before folder _ => faithful_addFolder before disk folder

/-- The numbers of the folders are kept beside the session and do not matter to it. -/
theorem session_changeFolders (disk : Disk) (change : FolderChange) :
    (exchange.changeFolders disk change).session =
      (change.removed.foldl (fun session folder => session.removeFolder folder)
        exchange.session).addFolders disk change.added := by
  have removed : (change.removed.foldl removeFolder exchange).session =
      change.removed.foldl (fun session folder => session.removeFolder folder) exchange.session :=
    Eq.symm (List.foldl_hom Exchange.session fun _ _ => rfl)
  rw [← removed]
  exact Eq.symm (List.foldl_hom Exchange.session fun _ _ => rfl)

theorem copies_changeFolders (disk : Disk) (change : FolderChange) :
    (exchange.changeFolders disk change).copies = exchange.copies := by
  have removed : (change.removed.foldl removeFolder exchange).copies = exchange.copies :=
    List.foldlRecOn (motive := fun state : Exchange ε => state.copies = exchange.copies)
      change.removed _ rfl fun _ same _ _ => same
  exact List.foldlRecOn (motive := fun state : Exchange ε => state.copies = exchange.copies)
    change.added _ removed fun _ same _ _ => same

theorem faithful_foldersChanged (faithful : exchange.ledger.Faithful) (disk : Disk)
    (params : Json) : (exchange.hear ⟨disk, .foldersChanged, params⟩).ledger.Faithful := by
  cases read : Protocol.folderChange? params with
  | none =>
    have same : (exchange.hear ⟨disk, .foldersChanged, params⟩).ledger = exchange.ledger := by
      simp only [hear, Session.hear, noted, ledger, read]
    rwa [same]
  | some change =>
    have same : (exchange.hear ⟨disk, .foldersChanged, params⟩).ledger =
        (exchange.changeFolders disk change).ledger := by
      simp only [hear, Session.hear, noted, ledger, read, copies_changeFolders,
        session_changeFolders]
      rfl
    rw [same]
    exact faithful_changeFolders faithful disk change

/-! ## Runs -/

/-- One notice keeps the ledger faithful. -/
theorem faithful_hear (faithful : exchange.ledger.Faithful) (sent : Sent)
    (proper : exchange.Proper sent.notice sent.params) : (exchange.hear sent).ledger.Faithful := by
  obtain ⟨disk, notice, params⟩ := sent
  have aside (other : notice ∉ [.opened, .changed, .closed, .foldersChanged]) :
      (exchange.hear ⟨disk, notice, params⟩).ledger.Faithful := by
    obtain ⟨folders, null⟩ := exchange.session.sameDocuments_hear disk notice params other
    -- Neither the client's documents nor the numbers of folders change.
    have same : (exchange.hear ⟨disk, notice, params⟩).ledger = exchange.ledger := by
      cases notice <;> simp_all [hear, noted, ledger]
    rwa [same]
  cases notice with
  | opened => exact faithful_opened faithful disk params
  | changed => exact faithful_changed faithful disk params proper
  | closed => exact faithful_closed faithful disk params
  | foldersChanged => exact faithful_foldersChanged faithful disk params
  | ready => exact aside (by decide)
  | configured => exact aside (by decide)
  | filesChanged => exact aside (by decide)
  | other => exact aside (by decide)

theorem faithful_run (faithful : exchange.ledger.Faithful) (messages : List Sent)
    (follows : exchange.Follows messages) : (exchange.run messages).ledger.Faithful := by
  induction messages generalizing exchange with
  | nil => exact faithful
  | cons sent rest ih =>
    obtain ⟨proper, later⟩ := follows
    exact ih (faithful_hear faithful sent proper) later

/-- No messages went anywhere when a session starts. -/
theorem faithful_start (setup : Setup ε) (disk : Disk) (opening : Start) :
    (start setup disk opening).ledger.Faithful := by
  have count : (start setup disk opening).session.server.documents.length =
      opening.folders.length := by
    rw [start, Session.documents_start, List.length_map]
  refine ⟨?_, List.nodup_range, ?_, ?_, ?_⟩
  · exact List.length_range.trans count.symm
  · exact fun number listed => List.mem_range.mp listed
  · intro name copy found
    simp [ledger, start] at found
  · intro name copy found
    simp [ledger, start] at found

end Exchange

namespace Nested

/-- A file of a small place, as messages write it and as the server reads it. -/
def address (path : String) : Json := .text ("file:///place/" ++ path)

def file (path : String) : Uri :=
  { scheme := "file", authority := some {}, path := "/place/" ++ path }

def opened (path text : String) : Sent where
  disk := {}
  notice := .opened
  params := .object [("textDocument", .object [("uri", address path),
    ("languageId", .text "luau"), ("version", .int 1), ("text", .text text)])]

def changed (path : String) (version : Int) (text : String) : Sent where
  disk := {}
  notice := .changed
  params := .object [
    ("textDocument", .object [("uri", address path), ("version", .int version)]),
    ("contentChanges", .list [.object [("text", .text text)]])]

def folder (path : String) : Json := .object [("uri", address path), ("name", .text path)]

def folders (added removed : List String) : Sent where
  disk := {}
  notice := .foldersChanged
  params := .object [("event", .object [
    ("added", .list (added.map folder)), ("removed", .list (removed.map folder))])]

/-- A session with the whole place as its only folder. -/
def begun : Exchange LineEngine :=
  .start { makeEngine := fun _ => {} } {} { folders := [⟨"place", file ""⟩] }

/-- Folders come and go around an open document and beside it, but not between its folder and it. -/
def around : List Sent :=
  [opened "b/x.luau" "old", folders ["c", "b"] ["b"], folders ["a"] ["c", "b"],
    changed "b/x.luau" 2 "new"]

/-- The folder of an open document is added after the document was opened. -/
def between : List Sent :=
  [opened "b/x.luau" "old", folders ["b"] [], changed "b/x.luau" 2 "new"]

/-- One file is opened under two URIs. -/
def respelled : List Sent := [opened "x.luau" "one", opened "%78.luau" "two"]

/-- The documents of the workspace that serves a file after messages. -/
def served (messages : List Sent) (path : String) : Documents :=
  ((begun.run messages).session.server.workspaceFor (file path)).files.documents

end Nested

namespace Exchange

open Nested

variable {ε : Type} [Engine ε]

/-- The workspace that serves an open document now holds it with the text of the client, if it
got all messages about the document since its opening. -/
theorem holds_copy_of_same_station (setup : Setup ε) (disk : Disk) (opening : Start)
    (messages : List Sent) (follows : (start setup disk opening).Follows messages)
    (uri : Uri) (copy : Copy)
    (opened : ((start setup disk opening).run messages).copies.get? (.ofUri uri) = some copy)
    (all : ∀ station ∈ copy.stations,
      station = ((start setup disk opening).run messages).station uri) :
    ∃ document, (((start setup disk opening).run messages).session.server.workspaceFor
        uri).files.documents.get? (.ofUri uri) = some document ∧
      document.version = copy.version ∧ document.text = copy.text := by
  have faithful := faithful_run (faithful_start setup disk opening) messages follows
  exact faithful.matches_at (documents?_folderFor _ uri) opened all

/-- Folders that come and go beside a document do not touch it. -/
theorem holds_copy_of_same_station_around :
    begun.Follows around ∧
      (begun.run around).copies.get? (.ofUri (file "b/x.luau")) =
        some ⟨2, "new", [some 0, some 0]⟩ ∧
      (∀ station ∈ [some 0, some 0], station = (begun.run around).station (file "b/x.luau")) ∧
      ∃ document, (served around "b/x.luau").get? (.ofUri (file "b/x.luau")) = some document ∧
        document.version = 2 ∧ document.text = "new" := by
  have follows : begun.Follows around := by decide +kernel
  have opened : (begun.run around).copies.get? (.ofUri (file "b/x.luau")) =
      some ⟨2, "new", [some 0, some 0]⟩ := by
    decide +kernel
  have all : ∀ station ∈ [some 0, some 0],
      station = (begun.run around).station (file "b/x.luau") := by
    decide +kernel
  exact ⟨follows, opened, all,
    holds_copy_of_same_station _ _ _ around follows (file "b/x.luau") _ opened all⟩

/-- A client that follows the protocol loses its document when a folder is added around it, and
one of two documents when their URIs name one file. -/
theorem document_lost :
    (begun.Follows between ∧
        (begun.run between).copies.get? (.ofUri (file "b/x.luau")) =
          some ⟨2, "new", [some 1, some 0]⟩ ∧
        (served between "b/x.luau").get? (.ofUri (file "b/x.luau")) = none) ∧
      begun.Follows respelled ∧ file "x.luau" ≠ file "%78.luau" ∧
        ((served respelled "x.luau").get? (.ofUri (file "x.luau"))).map (·.text) = some "two" := by
  decide +kernel

end Exchange

end LuauWorkspace
