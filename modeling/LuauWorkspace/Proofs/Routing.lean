import LuauWorkspace.Proofs.Deeds
import LuauWorkspace.Proofs.Scans
import Mathlib.Data.List.InsertIdx

/-!
# Routing

What a server does to the documents of its folders. A message reaches the folder that serves its
URI at that time, or the null workspace. Folders that are added start without documents, folders
that are removed take theirs along, and nothing else moves a document.
-/
namespace LuauWorkspace

/-- What all items keep is kept when one of them is replaced by one that has the same. -/
theorem map_set_of_same {α β : Type} (f : α → β) {items : List α} {index : Nat} {before after : α}
    (found : items[index]? = some before) (same : f after = f before) :
    (items.set index after).map f = items.map f := by
  obtain ⟨inside, rfl⟩ := List.getElem?_eq_some_iff.mp found
  have bound : index < (items.map f).length := by rwa [List.length_map]
  have held : (items.map f)[index] = f items[index] := List.getElem_map ..
  rw [List.map_set, same, ← held, List.set_getElem_self]

namespace Server

variable {ε : Type} (server : Server ε)

/-- The documents of each folder. -/
def documents : List Documents := server.folders.map (·.files.documents)

/-- The workspaces of both servers hold the same documents. -/
def SameDocuments (other : Server ε) : Prop :=
  other.documents = server.documents ∧ other.null.files.documents = server.null.files.documents

theorem deeper_eq :
    deeper = keepLast fun entry : Nat × Workspace ε => depth entry.2 := by
  funext best next
  cases best <;> rfl

/-- A URI is served by a folder around it that no other one is deeper than, or there is none. -/
theorem folderFor?_cases (uri : Uri) :
    (server.folderFor? uri = none ∧ ∀ folder ∈ server.folders, folder.contains uri = false) ∨
      ∃ index folder, server.folderFor? uri = some index ∧ server.folders[index]? = some folder ∧
        folder.contains uri = true ∧
          ∀ other ∈ server.folders, other.contains uri = true → depth other ≤ depth folder := by
  let around := ((List.range server.folders.length).zip server.folders).filter fun entry =>
    entry.2.contains uri
  have mem_around : ∀ {index folder}, (index, folder) ∈ around ↔
      server.folders[index]? = some folder ∧ folder.contains uri = true := by
    intro index folder
    rw [List.mem_filter, mem_zip_range_iff]
  have scan : server.folderFor? uri = (around.foldl (keepLast fun entry => depth entry.2) none).map
      (·.1) := by rw [folderFor?, deeper_eq]
  rcases foldl_keepLast_cases Nat.le_trans Nat.le_of_not_le around with
    ⟨nothing, scanned⟩ | ⟨⟨index, folder⟩, last, scanned⟩
  · refine Or.inl ⟨by rw [scan, scanned]; rfl, fun folder listed => ?_⟩
    obtain ⟨index, found⟩ := List.mem_iff_getElem?.mp listed
    by_contra contains
    have present := mem_around.mpr ⟨found, Bool.eq_true_of_not_eq_false contains⟩
    rw [nothing] at present
    simp at present
  · obtain ⟨found, contains⟩ := mem_around.mp last.mem
    refine Or.inr ⟨index, folder, by rw [scan, scanned]; rfl, found, contains, ?_⟩
    intro other listed also
    obtain ⟨place, there⟩ := List.mem_iff_getElem?.mp listed
    exact last.bounds (place, other) (mem_around.mpr ⟨there, also⟩)

/-- The workspace that serves a URI is one of the folders or the null workspace. -/
theorem workspaceFor_of_some {uri : Uri} {index : Nat}
    (chosen : server.folderFor? uri = some index) :
    server.folders[index]? = some (server.workspaceFor uri) := by
  rcases server.folderFor?_cases uri with ⟨nowhere, -⟩ | ⟨place, folder, served, found, -⟩
  · simp [nowhere] at chosen
  · obtain rfl : place = index := Option.some.inj (served.symm.trans chosen)
    simp [workspaceFor, chosen, found]

theorem workspaceFor_of_none {uri : Uri} (none_found : server.folderFor? uri = none) :
    server.workspaceFor uri = server.null := by
  simp [workspaceFor, none_found]

section Places

variable {server} {other : Server ε}

/-- A workspace with a number, as far as it matters which URIs it serves. -/
def place (entry : Nat × Workspace ε) : Nat × String × Path :=
  (entry.1, entry.2.name, entry.2.files.root)

theorem contains_congr {one two : Nat × Workspace ε} (same : place one = place two) (uri : Uri) :
    one.2.contains uri = two.2.contains uri := by
  simp only [place, Prod.mk.injEq] at same
  obtain ⟨-, names, roots⟩ := same
  unfold Workspace.contains Workspace.isNull Workspace.root
  rw [names, roots]

theorem deeper_congr {best again : Option (Nat × Workspace ε)} {one two : Nat × Workspace ε}
    (found : best.map place = again.map place) (same : place one = place two) :
    (deeper best one).map place = (deeper again two).map place := by
  have depths : ∀ {a b : Nat × Workspace ε}, place a = place b → depth a.2 = depth b.2 := by
    intro a b equal
    simp only [place, Prod.mk.injEq] at equal
    simp only [depth, Workspace.root, equal]
  cases best with
  | none =>
    obtain rfl : again = none := by simpa using found.symm
    simpa [deeper] using same
  | some first =>
    obtain ⟨second, rfl, equal⟩ := Option.map_eq_some_iff.mp found.symm
    simp only [deeper, depths same, depths equal]
    split
    · simpa using same
    · simpa using equal.symm

/-- Who serves a URI depends on the names and the roots of the folders alone. -/
theorem folderFor?_congr
    (same : server.folders.map (fun w => (w.name, w.files.root)) =
      other.folders.map fun w => (w.name, w.files.root)) (uri : Uri) :
    server.folderFor? uri = other.folderFor? uri := by
  have chosen : ∀ (one two : List (Nat × Workspace ε)), one.map place = two.map place →
      ∀ best again : Option (Nat × Workspace ε), best.map place = again.map place →
        ((one.filter fun entry => entry.2.contains uri).foldl deeper best).map place =
          ((two.filter fun entry => entry.2.contains uri).foldl deeper again).map place := by
    intro one
    induction one with
    | nil =>
      intro two equal best again found
      obtain rfl : two = [] := by simpa using equal.symm
      exact found
    | cons first rest ih =>
      intro two equal best again found
      obtain ⟨second, others, rfl, head, tail⟩ := List.map_eq_cons_iff.mp equal.symm
      rw [List.filter_cons, List.filter_cons, contains_congr head]
      split
      · exact ih others tail.symm _ _ (deeper_congr found head.symm)
      · exact ih others tail.symm best again found
  have count : server.folders.length = other.folders.length := by
    simpa using congrArg List.length same
  have numbered : ∀ folders : List (Workspace ε),
      ((List.range folders.length).zip folders).map place =
        (List.range folders.length).zip (folders.map fun w => (w.name, w.files.root)) := by
    intro folders
    rw [List.zip_map_right]
    rfl
  have equal : ((List.range server.folders.length).zip server.folders).map place =
      ((List.range other.folders.length).zip other.folders).map place := by
    rw [numbered, numbered, same, count]
  have numbers := congrArg (Option.map Prod.fst) (chosen _ _ equal none none rfl)
  rwa [Option.map_map, Option.map_map] at numbers

end Places

theorem documents_configure (configuration : Configuration) :
    (server.configure configuration).documents = server.documents := by
  simp [documents, configure, Workspace.configure]

/-- A warning is for the user and leaves the workspaces alone. -/
theorem folders_warn (loaded : Bool) (name : String) :
    (if loaded then server else server.warn name).folders = server.folders ∧
      (if loaded then server else server.warn name).null = server.null := by
  unfold warn
  cases loaded
  · simp only [Bool.false_eq_true, if_false]
    split <;> exact ⟨rfl, rfl⟩
  · exact ⟨rfl, rfl⟩

theorem documents_set (index : Nat) (workspace : Workspace ε) :
    (server.folders.set index workspace).map (·.files.documents) =
      server.documents.set index workspace.files.documents := by
  rw [List.map_set, documents]

theorem getElem?_documents {index : Nat} {workspace : Workspace ε}
    (found : server.folders[index]? = some workspace) :
    server.documents[index]? = some workspace.files.documents := by
  simp [documents, found]

/-- The folders keep their documents when one of them is replaced by one with the same. -/
theorem documents_set_of_same {index : Nat} {before after : Workspace ε}
    (found : server.folders[index]? = some before)
    (same : after.files.documents = before.files.documents) :
    (server.folders.set index after).map (·.files.documents) = server.documents :=
  map_set_of_same (·.files.documents) found same

/-- Documents of the workspace that serves a URI, as an action leaves them. -/
theorem documents_serve {α : Type} (uri : Uri) (action : Workspace ε → α × Workspace ε) :
    (∀ index, server.folderFor? uri = some index →
        (server.serve uri action).2.documents = server.documents.set index
            (action (server.workspaceFor uri)).2.files.documents ∧
          (server.serve uri action).2.null = server.null) ∧
      (server.folderFor? uri = none →
        (server.serve uri action).2.documents = server.documents ∧
          (server.serve uri action).2.null = (action server.null).2) := by
  constructor
  · intro index found
    simp only [serve, found, and_true]
    exact server.documents_set index _
  · intro nowhere
    simp only [serve, nowhere, server.workspaceFor_of_none nowhere, and_true]
    rfl

section Everywhere

variable {server} {property : Workspace ε → Prop}

/-- Something holds of each workspace of a server. -/
structure Each (server : Server ε) (property : Workspace ε → Prop) : Prop where
  folders : ∀ workspace ∈ server.folders, property workspace
  null : property server.null

variable {server : Server ε} {property : Workspace ε → Prop}

theorem Each.workspaceFor (each : server.Each property) (uri : Uri) :
    property (server.workspaceFor uri) := by
  cases place : server.folderFor? uri with
  | none =>
    rw [server.workspaceFor_of_none place]
    exact each.null
  | some index => exact each.folders _ (List.mem_of_getElem? (server.workspaceFor_of_some place))

/-- The workspace that serves a URI answers. -/
theorem serve_fst {α : Type} (uri : Uri) (action : Workspace ε → α × Workspace ε) :
    (server.serve uri action).1 = (action (server.workspaceFor uri)).1 := by
  simp only [Server.serve]
  cases server.folderFor? uri <;> rfl

/-- What an action keeps is kept when the workspace that serves a URI acts. -/
theorem Each.serve (each : server.Each property) {α : Type} (uri : Uri)
    (action : Workspace ε → α × Workspace ε)
    (keeps : ∀ workspace, property workspace → property (action workspace).2) :
    (server.serve uri action).2.Each property := by
  have after := keeps _ (each.workspaceFor uri)
  cases place : server.folderFor? uri with
  | none =>
    simp only [Server.serve, place]
    exact ⟨each.folders, after⟩
  | some index =>
    simp only [Server.serve, place]
    refine ⟨fun workspace member => ?_, each.null⟩
    rcases List.mem_or_eq_of_mem_set member with old | rfl
    · exact each.folders workspace old
    · exact after

theorem Each.add [Engine ε] (each : server.Each property) (disk : Disk) (workspace : Workspace ε)
    (ready : property ((workspace.configure server.configuration).setup disk).2) :
    (server.add disk workspace).Each property := by
  obtain ⟨folders, null⟩ := server.folders_warn
    ((workspace.configure server.configuration).setup disk).1.isOk workspace.name
  constructor
  · intro other member
    simp only [Server.add, folders, List.mem_append, List.mem_singleton] at member
    rcases member with old | rfl
    · exact each.folders other old
    · exact ready
  · simp only [Server.add, null]
    exact each.null

/-- Each document lies with the folder that serves its URI. -/
structure Housed (server : Server ε) : Prop where
  folders : ∀ index workspace, server.folders[index]? = some workspace →
    ∀ name document, workspace.files.documents.get? name = some document →
      server.folderFor? document.uri = some index
  null : ∀ name document, server.null.files.documents.get? name = some document →
    server.folderFor? document.uri = none

/-- The workspace that serves a URI has documents of URIs that it serves. -/
theorem Housed.folderFor? (housed : server.Housed) {uri : Uri} {name : ModuleName}
    {document : Document}
    (held : (server.workspaceFor uri).files.documents.get? name = some document) :
    server.folderFor? document.uri = server.folderFor? uri := by
  cases place : server.folderFor? uri with
  | none => exact housed.null name document (server.workspaceFor_of_none place ▸ held)
  | some index =>
    exact housed.folders index _ (server.workspaceFor_of_some place) name document held

/-- What holds a document is the workspace that serves it. -/
theorem Housed.eq_workspaceFor (housed : server.Housed) {holder : Workspace ε}
    (member : holder ∈ server.null :: server.folders) {name : ModuleName} {document : Document}
    (held : holder.files.documents.get? name = some document) {uri : Uri}
    (same : server.folderFor? document.uri = server.folderFor? uri) :
    holder = server.workspaceFor uri := by
  rcases List.mem_cons.mp member with rfl | listed
  · rw [server.workspaceFor_of_none (same.symm.trans (housed.null name document held))]
  · obtain ⟨index, found⟩ := List.mem_iff_getElem?.mp listed
    have place := same.symm.trans (housed.folders index holder found name document held)
    exact Option.some.inj (found.symm.trans (server.workspaceFor_of_some place))

/-- The workspace that serves a URI may open a document of that URI. -/
theorem Housed.serve (housed : server.Housed) {α : Type} (uri : Uri)
    (action : Workspace ε → α × Workspace ε)
    (stays : ∀ workspace, (action workspace).2.name = workspace.name ∧
      (action workspace).2.files.root = workspace.files.root)
    (own : ∀ workspace name document,
      (action workspace).2.files.documents.get? name = some document →
        document.uri = uri ∨ ∃ old held, workspace.files.documents.get? old = some held ∧
          document.uri = held.uri) : (server.serve uri action).2.Housed := by
  -- What the acting workspace holds then has URIs that it served before.
  have kept : ∀ name document,
      (action (server.workspaceFor uri)).2.files.documents.get? name = some document →
        server.folderFor? document.uri = server.folderFor? uri := by
    intro name document found
    rcases own _ name document found with same | ⟨old, held, before, same⟩
    · rw [same]
    · rw [same, housed.folderFor? before]
  cases place : server.folderFor? uri with
  | none =>
    rw [place] at kept
    simp only [Server.serve, place]
    exact ⟨housed.folders, kept⟩
  | some index =>
    rw [place] at kept
    simp only [Server.serve, place]
    obtain ⟨inside, -⟩ := List.getElem?_eq_some_iff.mp (server.workspaceFor_of_some place)
    let after : Server ε :=
      { server with
        folders := server.folders.set index (action (server.workspaceFor uri)).2 }
    have routes : ∀ other, after.folderFor? other = server.folderFor? other :=
      folderFor?_congr (map_set_of_same _ (server.workspaceFor_of_some place)
        (Prod.ext (stays _).1 (stays _).2))
    refine ⟨fun other workspace there name document held => ?_, fun name document held => ?_⟩
    · change after.folderFor? document.uri = some other
      rw [routes]
      by_cases here : other = index
      · subst here
        obtain rfl : _ = workspace := by simpa [inside] using there
        exact kept name document held
      · rw [List.getElem?_set_ne (Ne.symm here)] at there
        exact housed.folders other workspace there name document held
    · change after.folderFor? document.uri = none
      rw [routes]
      exact housed.null name document held

/-- A server without documents. -/
theorem housed_of_documents (folders : ∀ documents ∈ server.documents, documents = {})
    (null : server.null.files.documents = {}) : server.Housed := by
  refine ⟨fun index workspace found name document held => ?_, fun name document held => ?_⟩
  · have empty := folders _ (List.mem_of_getElem? (server.getElem?_documents found))
    simp [empty] at held
  · simp [null] at held

end Everywhere

variable [Engine ε]

theorem documents_add (disk : Disk) (workspace : Workspace ε) :
    (server.add disk workspace).documents = server.documents ++ [workspace.files.documents] ∧
      (server.add disk workspace).null = server.null := by
  have ready : ((workspace.configure server.configuration).setup disk).2.files.documents =
      workspace.files.documents := by
    unfold Workspace.setup
    split <;> rfl
  obtain ⟨folders, null⟩ := server.folders_warn
    ((workspace.configure server.configuration).setup disk).1.isOk workspace.name
  refine ⟨?_, null⟩
  simp only [add, documents, folders, List.map_append, List.map_singleton, ready]

/-- Reloading the manifest of a folder leaves its documents as they are. -/
theorem documents_reload (disk : Disk) (index : Nat) :
    (server.reload disk index).documents = server.documents ∧
      (server.reload disk index).null = server.null := by
  unfold reload
  cases found : server.folders[index]? with
  | none => exact ⟨rfl, rfl⟩
  | some workspace =>
    obtain ⟨folders, null⟩ := server.folders_warn (workspace.reloadManifest disk).1.isOk
      workspace.name
    refine ⟨?_, null⟩
    have kept : (workspace.reloadManifest disk).2.files.documents = workspace.files.documents := rfl
    simp only [documents, folders]
    exact server.documents_set_of_same found kept

end Server

namespace Session

variable {ε : Type} (session : Session ε)

/-- Removing a folder does nothing else to a server. -/
theorem server_removeFolder (folder : Protocol.Folder) :
    (session.removeFolder folder).server =
      { session.server with
        folders :=
          match session.server.folders.findIdx? fun workspace =>
              workspace.rootUri = some folder.uri with
          | some index => session.server.folders.eraseIdx index
          | none => session.server.folders } := by
  unfold removeFolder Server.remove?
  cases found : session.server.folders.findIdx? fun workspace =>
      workspace.rootUri = some folder.uri with
  | none => rfl
  | some index =>
    have inside := (List.findIdx?_eq_some_iff_findIdx_eq.mp found).1
    simp [inside]

theorem documents_removeFolder (folder : Protocol.Folder) :
    (session.removeFolder folder).server.documents =
        (match session.server.folders.findIdx? fun workspace =>
            workspace.rootUri = some folder.uri with
          | some index => session.server.documents.eraseIdx index
          | none => session.server.documents) ∧
      (session.removeFolder folder).server.null = session.server.null := by
  rw [server_removeFolder]
  refine ⟨?_, rfl⟩
  simp only [Server.documents]
  split
  · rw [List.eraseIdx_map]
  · rfl

variable [Engine ε]

theorem documents_addFolder (disk : Disk) (folder : Protocol.Folder) :
    (session.addFolder disk folder).server.documents =
        session.server.documents ++ [({} : Table ModuleName Document)] ∧
      (session.addFolder disk folder).server.null = session.server.null :=
  session.server.documents_add disk (session.setup.workspace folder)

theorem documents_addFolders (disk : Disk) (folders : List Protocol.Folder) :
    (session.addFolders disk folders).server.documents =
        session.server.documents ++ folders.map (fun _ => ({} : Table ModuleName Document)) ∧
      (session.addFolders disk folders).server.null = session.server.null := by
  induction folders generalizing session with
  | nil => simp [addFolders]
  | cons folder rest ih =>
    obtain ⟨documents, null⟩ := session.documents_addFolder disk folder
    obtain ⟨later, same⟩ := ih (session.addFolder disk folder)
    refine ⟨?_, same.trans null⟩
    change ((session.addFolder disk folder).addFolders disk rest).server.documents = _
    rw [later, documents, List.append_assoc]
    rfl

/-- The folders of a new session have no documents. -/
theorem documents_start (setup : Setup ε) (disk : Disk) (opening : Protocol.Start) :
    ((new setup).start disk opening).server.documents =
      opening.folders.map fun _ => ({} : Table ModuleName Document) := by
  have none_yet (configuration : Configuration) :
      ((new setup).server.configure configuration).documents = [] :=
    (new setup).server.documents_configure configuration
  simp only [start]
  split <;>
    exact (documents_addFolders _ disk opening.folders).1.trans
      (by rw [none_yet, List.nil_append])

theorem documents_null_start (setup : Setup ε) (disk : Disk) (opening : Protocol.Start) :
    ((new setup).start disk opening).server.null.files.documents = {} := by
  simp only [start]
  split <;>
    exact congrArg (fun null : Workspace ε => null.files.documents)
      (documents_addFolders _ disk opening.folders).2

/-- Documents move only when a workspace acts or folders come and go. -/
theorem Does.sameDocuments {session after : Session ε} {disk : Disk} {deeds : List Deed}
    (does : session.Does disk deeds after)
    (aside : .serving ∉ deeds ∧ .adding ∉ deeds ∧ .removing ∉ deeds) :
    session.server.SameDocuments after.server := by
  induction does with
  | nothing => exact ⟨rfl, rfl⟩
  | later _ _ one two => exact ⟨two.1.trans one.1, two.2.trans one.2⟩
  | serving allowed => exact absurd allowed aside.1
  | @reloading session _ index =>
    obtain ⟨documents, null⟩ := session.server.documents_reload disk index
    exact ⟨documents, congrArg (·.files.documents) null⟩
  | @configuring session _ configuration =>
    exact ⟨session.server.documents_configure configuration, rfl⟩
  | adding allowed => exact absurd allowed aside.2.1
  | removing allowed => exact absurd allowed aside.2.2
  | telling => exact ⟨rfl, rfl⟩

/-- A notice about something else than documents and folders leaves all documents as they are. -/
theorem sameDocuments_hear (disk : Disk) (notice : Protocol.Notice) (params : Json)
    (aside : notice ∉ [.opened, .changed, .closed, .foldersChanged]) :
    session.server.SameDocuments (session.hear disk notice params).2.server := by
  refine (session.does_hear disk notice params).sameDocuments ?_
  cases notice <;> simp_all [Protocol.Notice.deeds]

end Session

end LuauWorkspace
