import LuauWorkspace.Proofs.Folding
import LuauWorkspace.Proofs.Settings
import Mathlib.Data.Set.Finite.Lemmas

/-!
# Nested folders

Roots around one file lie inside each other, since each begins the names of the file. So the deepest
of them is told by the number of its components, and in a list of different roots there is one at
most, wherever it stands. A server finds it unless it has the name of the null workspace, which
serves no file as a folder. Messages leave names and roots of folders alone, so until folders come
or go, and under every spelling of its path, a document stays with one workspace.
-/
namespace LuauWorkspace

open Protocol (Message Method)

namespace Workspace

variable {ε : Type} (workspace : Workspace ε)

/-- The URI names a file in the directory of the root or below. -/
def Encloses (uri : Uri) : Prop :=
  ∃ path, uri.toFilePath? = some path ∧ workspace.root.names <+: path.names

instance (uri : Uri) : Decidable (workspace.Encloses uri) :=
  match read : uri.toFilePath? with
  | none => isFalse fun ⟨_, found, _⟩ => by simp [read] at found
  | some path =>
    decidable_of_iff (workspace.root.names <+: path.names)
      ⟨fun inside => ⟨path, read, inside⟩, fun ⟨_, found, inside⟩ =>
        Option.some.inj (found.symm.trans read) ▸ inside⟩

theorem contains_iff_encloses (uri : Uri) (base : workspace.root.isAbsolute = true)
    (folded : workspace.root.components = workspace.root.normalize.components) :
    workspace.contains uri = true ↔ workspace.isNull = false ∧ workspace.Encloses uri := by
  have rooted := Path.text_ne_of_isAbsolute base
  have below : ∀ path : Path, path.normalize.startsWith workspace.root =
      path.normalize.startsWith workspace.root.normalize := fun path => by
    rw [Path.startsWith, Path.startsWith, folded]
  unfold contains Encloses
  cases read : uri.toFilePath? with
  | none => simp
  | some path =>
    have inside := Path.startsWith_normalize_iff base (Uri.isAbsolute_toFilePath? read)
    cases workspace.isNull <;> simp [rooted, below, inside]

/-- Spellings of a path that fold to one name lie in the same folders. -/
theorem contains_congr {uri again : Uri}
    (same : uri.toFilePath?.map ModuleName.ofPath = again.toFilePath?.map ModuleName.ofPath) :
    workspace.contains uri = workspace.contains again := by
  unfold contains
  cases read : uri.toFilePath? with
  | none =>
    obtain spelled : again.toFilePath? = none := by simpa [read] using same.symm
    rw [spelled]
  | some path =>
    rw [read, Option.map_some] at same
    obtain ⟨other, spelled, names⟩ := Option.map_eq_some_iff.mp same.symm
    have folds : other.normalize = path.normalize := congrArg ModuleName.path names
    rw [spelled]
    simp only [folds]

end Workspace

namespace Server

variable {ε : Type}

/-- Folders with absolute, folded roots that all differ. -/
structure Separate (folders : List (Workspace ε)) : Prop where
  absolute : ∀ folder ∈ folders, folder.root.isAbsolute = true
  folded : ∀ folder ∈ folders, folder.root.components = folder.root.normalize.components
  distinct : (folders.map (·.root.names)).Nodup

/-- The folder around a file that lies inside all others around it. -/
structure Inmost (folders : List (Workspace ε)) (uri : Uri) (folder : Workspace ε) : Prop where
  member : folder ∈ folders
  around : folder.Encloses uri
  inside : ∀ other ∈ folders, other.Encloses uri → other.root.names <+: folder.root.names

instance (folders : List (Workspace ε)) : Decidable (Separate folders) :=
  decidable_of_iff
    ((∀ folder ∈ folders, folder.root.isAbsolute = true) ∧
      (∀ folder ∈ folders, folder.root.components = folder.root.normalize.components) ∧
      (folders.map (·.root.names)).Nodup)
    ⟨fun ⟨absolute, folded, distinct⟩ => ⟨absolute, folded, distinct⟩,
      fun ⟨absolute, folded, distinct⟩ => ⟨absolute, folded, distinct⟩⟩

section

variable {folders : List (Workspace ε)} {uri : Uri} {folder other : Workspace ε}

theorem Separate.contains_iff (separate : Separate folders) (member : folder ∈ folders) (uri : Uri) :
    folder.contains uri = true ↔ folder.isNull = false ∧ folder.Encloses uri :=
  folder.contains_iff_encloses uri (separate.absolute folder member) (separate.folded folder member)

theorem Separate.depth_eq (separate : Separate folders) (member : folder ∈ folders) :
    depth folder = folder.root.names.length + 1 := by
  rw [depth, separate.folded folder member,
    Path.components_normalize (separate.absolute folder member)]
  simp

/-- Of roots around one file the deeper one lies inside the other. -/
theorem Separate.prefix_of_depth_le (separate : Separate folders) (first : folder ∈ folders)
    (second : other ∈ folders) (around : folder.Encloses uri) (also : other.Encloses uri)
    (deeper : depth other ≤ depth folder) : other.root.names <+: folder.root.names := by
  obtain ⟨path, read, inside⟩ := around
  obtain ⟨again, same, within⟩ := also
  obtain rfl : path = again := Option.some.inj (read.symm.trans same)
  rw [separate.depth_eq first, separate.depth_eq second] at deeper
  exact List.prefix_of_prefix_length_le within inside (by omega)

theorem Separate.eq_of_names (separate : Separate folders) (first : folder ∈ folders)
    (second : other ∈ folders) (same : folder.root.names = other.root.names) : folder = other :=
  List.inj_on_of_nodup_map separate.distinct first second same

theorem Separate.index_eq (separate : Separate folders) {index place : Nat}
    (found : folders[index]? = some folder) (again : folders[place]? = some folder) :
    index = place := by
  have inside : index < (folders.map (·.root.names)).length := by
    rw [List.length_map]
    exact (List.getElem?_eq_some_iff.mp found).1
  refine (List.getElem?_inj inside separate.distinct).mp ?_
  rw [List.getElem?_map, List.getElem?_map, found, again]

theorem Inmost.unique (separate : Separate folders) (one : Inmost folders uri folder)
    (two : Inmost folders uri other) : folder = other :=
  separate.eq_of_names one.member two.member
    ((two.inside folder one.member one.around).eq_of_length_le
      (one.inside other two.member two.around).length_le)

/-- Where a file lies in some folder it lies in an inmost one. -/
theorem Separate.exists_inmost (separate : Separate folders) (member : folder ∈ folders)
    (around : folder.Encloses uri) : ∃ inmost, Inmost folders uri inmost := by
  -- A deepest one will do, since all roots around the file begin its names.
  have finite : {folder : Workspace ε | folder ∈ folders ∧ folder.Encloses uri}.Finite :=
    (List.finite_toSet folders).subset fun _ here => here.1
  obtain ⟨deepest, ⟨listed, encloses⟩, most⟩ :=
    Set.exists_max_image _ depth finite ⟨folder, member, around⟩
  exact ⟨deepest, listed, encloses, fun other second also =>
    separate.prefix_of_depth_le listed second encloses also (most other ⟨second, also⟩)⟩

end

/-! ## Served folders -/

variable (server : Server ε)

/-- The folder that serves a URI. -/
def folder? (uri : Uri) : Option (Workspace ε) :=
  (server.folderFor? uri).bind fun index => server.folders[index]?

/-- A URI goes to the inmost folder around it. -/
def Routed (uri : Uri) : Prop :=
  (∀ index folder, server.folders[index]? = some folder →
      (server.folderFor? uri = some index ↔ Inmost server.folders uri folder)) ∧
    (server.folderFor? uri = none ↔ ∀ folder ∈ server.folders, ¬ folder.Encloses uri)

variable {server}

theorem folder?_cases (uri : Uri) :
    (server.folder? uri = none ∧ ∀ folder ∈ server.folders, folder.contains uri = false) ∨
      ∃ folder ∈ server.folders, server.folder? uri = some folder ∧ folder.contains uri = true ∧
        ∀ other ∈ server.folders, other.contains uri = true → depth other ≤ depth folder := by
  rcases server.folderFor?_cases uri with
    ⟨nowhere, outside⟩ | ⟨index, folder, served, found, contains, most⟩
  · exact Or.inl ⟨by simp [folder?, nowhere], outside⟩
  · exact Or.inr ⟨folder, List.mem_of_getElem? found, by simp [folder?, served, found], contains,
      most⟩

theorem Separate.eq_of_depths {folders : List (Workspace ε)} (separate : Separate folders)
    {uri : Uri} {one two : Workspace ε} (first : one ∈ folders) (second : two ∈ folders)
    (around : one.Encloses uri) (also : two.Encloses uri) (below : depth one ≤ depth two)
    (above : depth two ≤ depth one) : one = two :=
  separate.eq_of_names first second
    ((separate.prefix_of_depth_le second first also around below).eq_of_length_le
      (separate.prefix_of_depth_le first second around also above).length_le)

/-- The order of the folders does not matter. -/
theorem folder?_of_perm (separate : Separate server.folders) {other : Server ε}
    (same : other.folders.Perm server.folders) (uri : Uri) :
    other.folder? uri = server.folder? uri := by
  rcases server.folder?_cases uri with
    ⟨nowhere, outside⟩ | ⟨one, first, served, contains, most⟩ <;>
  rcases other.folder?_cases uri with
    ⟨nothing, apart⟩ | ⟨two, second, chosen, also, deepest⟩
  · rw [nowhere, nothing]
  · simp [outside two (same.mem_iff.mp second)] at also
  · simp [apart one (same.mem_iff.mpr first)] at contains
  · -- Each list chooses a deepest folder around the file, and there is one at most.
    have listed := same.mem_iff.mp second
    rw [served, chosen, Option.some.injEq]
    exact separate.eq_of_depths listed first
      ((separate.contains_iff listed uri).mp also).2
      ((separate.contains_iff first uri).mp contains).2
      (most two listed also) (deepest one (same.mem_iff.mpr first) contains)

/-- A URI goes to the inmost folder around it unless that has the name of the null workspace. -/
theorem routed_iff (separate : Separate server.folders) (uri : Uri) :
    server.Routed uri ↔
      ∀ folder, Inmost server.folders uri folder → folder.isNull = false := by
  constructor
  · rintro ⟨chosen, -⟩ folder inmost
    obtain ⟨index, found⟩ := List.mem_iff_getElem?.mp inmost.member
    have goes := (chosen index folder found).mpr inmost
    rcases server.folderFor?_cases uri with ⟨nowhere, -⟩ | ⟨place, other, served, there, contains, -⟩
    · simp [goes] at nowhere
    · obtain rfl : place = index := Option.some.inj (served.symm.trans goes)
      obtain rfl : other = folder := Option.some.inj (there.symm.trans found)
      exact ((separate.contains_iff inmost.member uri).mp contains).1
  intro named
  -- The inmost folder does not pass for the null workspace, so the scan comes to it.
  have contained : ∀ {folder}, Inmost server.folders uri folder → folder.contains uri = true :=
    fun inmost => (separate.contains_iff inmost.member uri).mpr ⟨named _ inmost, inmost.around⟩
  rcases server.folderFor?_cases uri with
    ⟨nowhere, outside⟩ | ⟨place, folder, served, there, contains, most⟩
  · have apart : ∀ folder ∈ server.folders, ¬ folder.Encloses uri := by
      intro folder member around
      obtain ⟨deepest, inmost⟩ := separate.exists_inmost member around
      exact absurd (contained inmost) (by simp [outside deepest inmost.member])
    refine ⟨fun index folder found => ?_, iff_of_true nowhere apart⟩
    exact iff_of_false (by simp [nowhere]) fun inmost => apart folder inmost.member inmost.around
  · have listed := List.mem_of_getElem? there
    have around := ((separate.contains_iff listed uri).mp contains).2
    have inmost : Inmost server.folders uri folder := by
      -- The folder is deepest of those that contain the file, and so is the inmost one.
      obtain ⟨deepest, holds⟩ := separate.exists_inmost listed around
      have same : deepest = folder := separate.eq_of_names holds.member listed
        ((separate.prefix_of_depth_le listed holds.member around holds.around
          (most deepest holds.member (contained holds))).eq_of_length_le
            (holds.inside folder listed around).length_le)
      exact same ▸ holds
    refine ⟨fun index other found => ?_, iff_of_false (by simp [served]) fun apart =>
      apart folder listed around⟩
    rw [served, Option.some.injEq]
    constructor
    · rintro rfl
      exact Option.some.inj (there.symm.trans found) ▸ inmost
    · intro also
      obtain rfl := inmost.unique separate also
      exact separate.index_eq there found

/-- The names and the roots of the folders. -/
def places (server : Server ε) : List (String × Path) :=
  server.folders.map fun folder => (folder.name, folder.files.root)

/-- Spellings of a path that fold to one name go to the same folder. -/
theorem folderFor?_spelled (server : Server ε) {uri again : Uri}
    (same : uri.toFilePath?.map ModuleName.ofPath = again.toFilePath?.map ModuleName.ofPath) :
    server.folderFor? uri = server.folderFor? again := by
  have contained : ∀ folder : Workspace ε, folder.contains uri = folder.contains again :=
    fun folder => folder.contains_congr same
  simp only [folderFor?, contained]

theorem places_serve (server : Server ε) {α : Type} (uri : Uri)
    (action : Workspace ε → α × Workspace ε)
    (stays : ∀ workspace, (action workspace).2.name = workspace.name ∧
      (action workspace).2.files.root = workspace.files.root) :
    (server.serve uri action).2.places = server.places := by
  unfold serve
  cases place : server.folderFor? uri with
  | none => rfl
  | some index =>
    exact map_set_of_same _ (server.workspaceFor_of_some place)
      (Prod.ext (stays _).1 (stays _).2)

theorem places_reload [Engine ε] (server : Server ε) (disk : Disk) (index : Nat) :
    (server.reload disk index).places = server.places := by
  unfold reload
  cases found : server.folders[index]? with
  | none => rfl
  | some workspace =>
    obtain ⟨folders, -⟩ := server.folders_warn (workspace.reloadManifest disk).1.isOk
      workspace.name
    simp only [places, folders]
    exact map_set_of_same _ found rfl

theorem places_configure (server : Server ε) (configuration : Configuration) :
    (server.configure configuration).places = server.places := by
  simp [places, configure, Workspace.configure]

end Server

/-! ## Sessions -/

/-- The message says that folders come or go. -/
def Protocol.Message.MovesFolders (message : Message) : Prop :=
  Method.ofName? message.method = some (.notice .foldersChanged)

namespace Session

variable {ε : Type} [Engine ε] {session after : Session ε} {disk : Disk} {deeds : List Deed}

theorem Does.places (does : session.Does disk deeds after)
    (apart : .adding ∉ deeds ∧ .removing ∉ deeds) :
    after.server.places = session.server.places := by
  induction does with
  | nothing => rfl
  | later _ _ one two => exact two.trans one
  | @serving session _ _ uri action step _ acts =>
    refine session.server.places_serve uri action fun workspace => ?_
    rw [acts]
    exact ⟨Workspace.name_perform step, Workspace.root_perform step⟩
  | @reloading session _ index => exact session.server.places_reload disk index
  | @configuring session _ configuration => exact session.server.places_configure configuration
  | adding allowed => exact absurd allowed apart.1
  | removing allowed => exact absurd allowed apart.2
  | telling => rfl

/-- Once a session has started, only folders that come or go change the places. -/
theorem places_receive (started : session.phase ≠ .waiting) {message : Message}
    (still : ¬ message.MovesFolders) (disk : Disk) :
    (session.receive disk message).2.server.places = session.server.places := by
  unfold receive
  split
  · rfl
  cases method : Method.ofName? message.method with
  | none => rfl
  | some known =>
    cases known with
    | start => simp [receiveStart, started]
    -- What starts, stops or leaves a session changes its phase alone once it has started.
    | stop =>
      simp only [receiveStop]
      split
      · rfl
      · split <;> rfl
    | leave => rfl
    | cancel => rfl
    | request request =>
      cases session.phaseRefusal? with
      | some refusal => rfl
      | none => exact (session.does_receiveRequest disk request message).places (by simp)
    | notice notice =>
      cases session.phaseRefusal? with
      | some refusal => rfl
      | none =>
        have other : notice ≠ .foldersChanged := by
          rintro rfl
          exact still method
        refine (session.does_receiveNotice disk notice message).places ?_
        cases notice <;> simp_all [Protocol.Notice.deeds]
    | unanswered shape => cases session.phaseRefusal? <;> rfl

theorem places_run (started : session.phase ≠ .waiting) {messages : List (Disk × Message)}
    (still : ∀ sent ∈ messages, ¬ sent.2.MovesFolders) :
    (session.run messages).server.places = session.server.places := by
  have kept := List.foldlRecOn (motive := fun later : Session ε =>
    later.phase ≠ .waiting ∧ later.server.places = session.server.places) messages
    (fun session sent => (session.receive sent.1 sent.2).2) ⟨started, rfl⟩ ?_
  · exact kept.2
  rintro before ⟨going, same⟩ sent member
  refine ⟨fun waits => going ?_, (places_receive going (still sent member) sent.1).trans same⟩
  -- No message takes a session back to where it waits for its start.
  exact (settings?_eq_none_of_waiting
    ((before.heeds_receive sent.1 sent.2).phase.symm.trans waits)).1

/-- In folders with absolute, folded and different roots a file goes to the inmost one around it, and
to none exactly if none is around it, unless the inmost one has the name of the null workspace. The
order of the folders does not matter. Until folders come or go they keep their places, and all
messages about a document, however its path is spelled, go to the same one. -/
theorem routed_run_iff (session : Session ε)
    (separate : Server.Separate session.server.folders) (started : session.phase ≠ .waiting)
    (messages : List (Disk × Message)) (still : ∀ sent ∈ messages, ¬ sent.2.MovesFolders) :
    let server := session.server
    let later := (session.run messages).server
    (∀ uri, server.Routed uri ↔
        ∀ folder, Server.Inmost server.folders uri folder → folder.isNull = false) ∧
      (∀ other : Server ε, other.folders.Perm server.folders →
        ∀ uri, other.folder? uri = server.folder? uri) ∧
      later.places = server.places ∧
      ∀ uri again : Uri,
        uri.toFilePath?.map ModuleName.ofPath = again.toFilePath?.map ModuleName.ofPath →
          later.folderFor? again = server.folderFor? uri := by
  intro server later
  have places : later.places = server.places := places_run started still
  refine ⟨Server.routed_iff separate, fun other same => Server.folder?_of_perm separate same, places,
    fun uri again spelled => ?_⟩
  rw [Server.folderFor?_congr places, server.folderFor?_spelled spelled]

end Session

namespace Enclosed

open Workspace (Place.file)

def disk : Disk := ⟨⟨[]⟩⟩

/-- Two folders, one in the other, in the order of a client that names the inner one first. -/
def session : Session LineEngine :=
  Session.begun {} [] disk { folders := [⟨"inner", Place.file "sub"⟩, ⟨"outer", Place.file ""⟩] }

def messages : List (Disk × Message) :=
  [Siblings.opened "sub/x.luau" "", Siblings.asked "x.luau"].map (disk, ·)

def uri : Uri := Place.file "sub/x.luau"

def again : Uri := Place.file "a/../sub/./x.luau"

/-- One folder that a client calls what the null workspace is called. -/
def namesake : Session LineEngine :=
  Session.begun {} [] disk { folders := [⟨Workspace.nullName, Place.file ""⟩] }

end Enclosed

namespace Session

open Enclosed (uri again messages)

theorem routed_run_iff_enclosed :
    Server.Separate Enclosed.session.server.folders ∧ Enclosed.session.phase ≠ .waiting ∧
      (∀ sent ∈ messages, ¬ sent.2.MovesFolders) ∧ Enclosed.session.server.Routed uri ∧
      Enclosed.session.server.folderFor? uri = some 0 ∧
      (Enclosed.session.run messages).server.folderFor? again = some 0 := by
  have separate : Server.Separate Enclosed.session.server.folders := by decide +kernel
  have still : ∀ sent ∈ messages, ¬ sent.2.MovesFolders := by
    have opens : Method.ofName? "textDocument/didOpen" = some (.notice .opened) := rfl
    have asks : Method.ofName? "textDocument/diagnostic" = some (.request .diagnostic) := rfl
    simp [messages, Siblings.opened, Siblings.asked, Message.MovesFolders, opens, asks]
  have started : Enclosed.session.phase ≠ .waiting := by decide +kernel
  have named : ∀ folder ∈ Enclosed.session.server.folders, folder.isNull = false := by
    decide +kernel
  obtain ⟨routed, -, -, stays⟩ :=
    routed_run_iff Enclosed.session separate started messages still
  have inner : Enclosed.session.server.folderFor? uri = some 0 := by decide +kernel
  refine ⟨separate, started, still, ?_, inner, ?_⟩
  · exact (routed uri).mpr fun folder inmost => named folder inmost.member
  · rw [stays uri again (by decide +kernel), inner]

/-- A folder that has the name of the null workspace serves none of its files. -/
theorem not_routed_namesake :
    Server.Separate Enclosed.namesake.server.folders ∧
      (∃ folder ∈ Enclosed.namesake.server.folders, folder.Encloses uri) ∧
      Enclosed.namesake.server.folderFor? uri = none := by
  decide +kernel

end Session

end LuauWorkspace
