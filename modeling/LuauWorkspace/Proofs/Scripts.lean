import LuauWorkspace.Proofs.Aliases
import LuauWorkspace.Proofs.Relative

/-!
# Scripts of instances

The instance of a file has the path of the file, as seen from the root, as its script. So the
name under which a document is analyzed always leads back to the document, however the manifest
writes its paths. The other way round an instance is found by one spelling of its script only. A
file that the manifest writes as an absolute path, or as one that climbs out of the root and comes
back in, has no virtual name.
-/
namespace LuauWorkspace

namespace Instances.Tree

/-- A tree that was read from the text of a manifest. -/
def Accepted (tree : Tree) : Prop := ∃ text, ofText text = .ok tree

theorem Accepted.rooted {tree : Tree} (accepted : tree.Accepted) : tree.Rooted := by
  obtain ⟨text, read⟩ := accepted
  obtain ⟨manifest, rfl⟩ := exists_ofManifest read
  exact rooted_ofManifest manifest

theorem Accepted.distinct {tree : Tree} (accepted : tree.Accepted) : tree.Distinct := by
  obtain ⟨text, read⟩ := accepted
  obtain ⟨manifest, rfl⟩ := exists_ofManifest read
  exact distinct_ofManifest manifest

end Instances.Tree

namespace Files

variable {files : Files}

/-- An instance that is found for a file is also the one that its virtual name leads to. -/
theorem virtualNode?_of_realNode?
    (accepted : ∀ tree, files.instances = some tree → tree.Accepted) {path : Path}
    {node : Instances.Instance} (found : files.realNode? path = some node) :
    node.virtualPath.isVirtual = true ∧ files.virtualNode? node.virtualPath = some node ∧
      node.script? = some (files.relative path) := by
  obtain ⟨tree, present, script⟩ := Option.bind_eq_some_iff.mp found
  have member := Instances.Tree.mem_of_findScript? script
  have virtual := (accepted tree present).rooted node member
  refine ⟨virtual, ?_, tree.findScript?_script _ node script⟩
  rw [virtualNode?, if_pos virtual, present]
  exact (accepted tree present).distinct.findVirtual? member

/-- The virtual name of a file leads to the path that is seen from the root. -/
theorem realPathOf?_of_virtualNameOf?
    (accepted : ∀ tree, files.instances = some tree → tree.Accepted) {path : Path}
    {virtual : ModuleName} (named : files.virtualNameOf? path = some virtual) :
    files.realPathOf? virtual = some (files.root.join (path.relativeTo files.root)) := by
  obtain ⟨node, found, rfl⟩ := Option.map_eq_some_iff.mp named
  obtain ⟨-, leads, script⟩ := virtualNode?_of_realNode? accepted found
  rw [realPathOf?, leads, Option.bind_some, script, Option.map_some, mk_relative]

/-- A name and the virtual name of its file read the same text in the same way. -/
theorem source?_of_virtualNameOf? (base : files.root.isAbsolute = true)
    (accepted : ∀ tree, files.instances = some tree → tree.Accepted) {name virtual : ModuleName}
    (absolute : name.path.isAbsolute = true) (normal : ModuleName.ofPath name.path = name)
    (real : name.isVirtual = false) (named : files.virtualNameOf? name.path = some virtual) :
    files.source? virtual = files.source? name := by
  obtain ⟨node, found, rfl⟩ := Option.map_eq_some_iff.mp named
  obtain ⟨virtual, leads, script⟩ := virtualNode?_of_realNode? accepted found
  have back : ModuleName.ofPath (files.root.join ⟨files.relative name.path⟩) = name := by
    conv_rhs => rw [← normal]
    rw [mk_relative, ModuleName.ofPath, ModuleName.ofPath,
      Path.normalize_join_relativeTo base absolute]
  rw [source?, source?, if_pos virtual, real, leads, Option.bind_some, script, Option.map_some,
    back, found]
  rfl

/-- A file has a virtual name if its path from the root is the script of an instance. -/
theorem exists_virtualNameOf?_iff {tree : Instances.Tree} (present : files.instances = some tree)
    (path : Path) :
    (∃ virtual, files.virtualNameOf? path = some virtual) ↔
      ∃ node ∈ tree.nodes.toList, node.script? = some (files.relative path) := by
  rw [← Option.isSome_iff_exists, virtualNameOf?, Option.isSome_map, realNode?, present]
  simp [Instances.Tree.findScript?]

/-- A path leads to a virtual name, and that back to the path as it is written. -/
def Returns (files : Files) (path : Path) : Prop :=
  ∃ virtual, files.virtualNameOf? path = some virtual ∧ files.realPathOf? virtual = some path

theorem returns_iff (base : files.root.isAbsolute = true) {tree : Instances.Tree}
    (present : files.instances = some tree) (accepted : tree.Accepted) {path : Path}
    (absolute : path.isAbsolute = true) :
    files.Returns path ↔
      ∃ node ∈ tree.nodes.toList, ∃ script, node.script? = some script ∧
        Path.Straight files.root ⟨script⟩ ∧ files.root.join ⟨script⟩ = path := by
  have all : ∀ tree, files.instances = some tree → tree.Accepted := by
    intro other found
    rw [present] at found
    exact Option.some.inj found ▸ accepted
  constructor
  · rintro ⟨virtual, named, back⟩
    obtain ⟨node, found, runs⟩ := (exists_virtualNameOf?_iff present _).mp ⟨virtual, named⟩
    rw [realPathOf?_of_virtualNameOf? all named] at back
    rw [relative] at runs
    have straight := Path.straight_relativeTo base absolute
    generalize path.relativeTo files.root = seen at back runs straight
    exact ⟨node, found, seen.text, runs, straight, Option.some.inj back⟩
  · rintro ⟨node, found, script, runs, straight, rfl⟩
    -- The straight spelling is the one that is seen from the root.
    have seen := (Path.relativeTo_join_iff base _).mpr straight
    obtain ⟨virtual, named⟩ := (exists_virtualNameOf?_iff present (files.root.join ⟨script⟩)).mpr
      ⟨node, found, by rw [runs, relative, seen]⟩
    refine ⟨virtual, named, ?_⟩
    rw [realPathOf?_of_virtualNameOf? all named, seen]

/-- The path of a script leads to an instance and back, as it is written, exactly if the tree has
a straight spelling of it. A script below the root is written straight. -/
theorem returns_join_script_iff (base : files.root.isAbsolute = true) {tree : Instances.Tree}
    (present : files.instances = some tree) (accepted : tree.Accepted) {node : Instances.Instance}
    (member : node ∈ tree.nodes.toList) {script : String} (runs : node.script? = some script) :
    (Path.Straight files.root ⟨script⟩ → files.Returns (files.root.join ⟨script⟩)) ∧
      (∀ below : List String, (∀ name ∈ below, (Path.Component.name name).Written) →
        ⟨script⟩ = Path.ofNames false below → files.Returns (files.root.join ⟨script⟩)) ∧
      (files.Returns (files.root.join ⟨script⟩) ↔
        ∃ other ∈ tree.nodes.toList, ∃ written, other.script? = some written ∧
          Path.Straight files.root ⟨written⟩ ∧
          files.root.join ⟨written⟩ = files.root.join ⟨script⟩) := by
  have spelled := returns_iff base present accepted (Path.isAbsolute_join base ⟨script⟩)
  have returns : Path.Straight files.root ⟨script⟩ → files.Returns (files.root.join ⟨script⟩) :=
    fun straight => spelled.mpr ⟨node, member, script, runs, straight, rfl⟩
  refine ⟨returns, fun below written same => returns ?_, spelled⟩
  exact same ▸ Path.straight_ofNames written

namespace Spelled

/-- A manifest of an instance `A` with a script beside the root and an instance `B` with a script
at an absolute path. -/
def manifest : String :=
  "\x7b\"name\":\"P\",\"className\":\"DataModel\",\"children\":[" ++
    "\x7b\"name\":\"A\",\"className\":\"\",\"filePaths\":[\"../u.lua\"]\x7d," ++
    "\x7b\"name\":\"B\",\"className\":\"\",\"filePaths\":[\"/place/v.lua\"]\x7d]\x7d"

def node (name script : String) : Instances.Instance :=
  { name, className := "", filePaths := [script], virtualPath := ⟨"game/" ++ name⟩ }

def tree : Instances.Tree :=
  ⟨#[{ name := "P", className := "DataModel", filePaths := [], children := [1, 2],
        virtualPath := ⟨"game"⟩ },
      node "A" "../u.lua", node "B" "/place/v.lua"]⟩

def place : Files := { root := ⟨"/place"⟩, instances := some tree }

theorem accepted_tree : tree.Accepted := ⟨manifest, by decide +kernel⟩

end Spelled

/-- A script beside the root is found by the path that leads there. -/
theorem returns_join_script_beside :
    Spelled.tree.Accepted ∧ Spelled.node "A" "../u.lua" ∈ Spelled.tree.nodes.toList ∧
      Spelled.place.Returns (Spelled.place.root.join ⟨"../u.lua"⟩) := by
  have base : Spelled.place.root.isAbsolute = true := by decide +kernel
  have member : Spelled.node "A" "../u.lua" ∈ Spelled.tree.nodes.toList := by
    decide +kernel
  have runs : (Spelled.node "A" "../u.lua").script? = some "../u.lua" := by
    decide +kernel
  have straight : Path.Straight Spelled.place.root ⟨"../u.lua"⟩ :=
    (Path.relativeTo_join_iff base _).mp (by decide +kernel)
  have returns := (returns_join_script_iff base rfl Spelled.accepted_tree member runs).1 straight
  exact ⟨Spelled.accepted_tree, member, returns⟩

/-- A script below the root that is written as an absolute path is not found by that path. -/
theorem virtualNameOf?_join_script_absolute :
    Spelled.tree.Accepted ∧ Spelled.node "B" "/place/v.lua" ∈ Spelled.tree.nodes.toList ∧
      (Spelled.node "B" "/place/v.lua").script? = some "/place/v.lua" ∧
      Spelled.place.virtualNameOf? (Spelled.place.root.join ⟨"/place/v.lua"⟩) = none :=
  ⟨Spelled.accepted_tree, by decide +kernel⟩

end Files

namespace Uri

/-- A file URI names an absolute path. -/
theorem isAbsolute_toFilePath? {uri : Uri} {path : Path} (read : uri.toFilePath? = some path) :
    path.isAbsolute = true := by
  rw [Path.isAbsolute_iff_startsWith, String.startsWith_string_iff]
  unfold toFilePath? segments? at read
  split at read
  · simp at read
  next segments found =>
    split at found
    next first rest _ =>
      obtain rfl := Option.some.inj found
      dsimp only at read
      split at read
      · obtain rfl := Option.some.inj read
        simp only [String.toList_ofList, List.flatMap_cons]
        -- A slash stands in front of the first name, and a drive is closed at the end.
        rcases closeDrive_cases (('/' :: Percent.decode first.toList) ++
          rest.flatMap fun segment => '/' :: Percent.decode segment.toList) with same | closed
        · exact ⟨_, same.symm⟩
        · exact ⟨_, closed.symm⟩
      · simp at read
    · simp at found

end Uri

namespace ModuleName

/-- The module of a local file is named by a normalized absolute path. -/
theorem ofUri_of_toFilePath? {uri : Uri} {path : Path} (scheme : uri.scheme = "file")
    (read : uri.toFilePath? = some path) :
    (ofUri uri).path.isAbsolute = true ∧ ofPath (ofUri uri).path = ofUri uri ∧
      (ofUri uri).isVirtual = false := by
  have named : ofUri uri = ofPath path := by rw [ofUri, if_pos scheme, read]
  have absolute := isAbsolute_ofPath (Uri.isAbsolute_toFilePath? read)
  rw [named]
  refine ⟨absolute, ofPath_path absolute, ?_⟩
  obtain ⟨rest, -, pieces⟩ := Path.pieces_of_isAbsolute absolute
  change Text.pieces '/' (ofPath path).text = "" :: rest at pieces
  rw [isVirtual, pieces]
  rfl

end ModuleName

namespace Workspace

/-- What is read under the name that a document is analyzed by is the document, and the virtual
name of a file leads to the file. -/
theorem read?_analysisName {ε : Type} (workspace : Workspace ε)
    (base : workspace.files.root.isAbsolute = true)
    (accepted : ∀ tree, workspace.files.instances = some tree → tree.Accepted) :
    (∀ uri path, uri.scheme = "file" → uri.toFilePath? = some path →
      let name := ModuleName.ofUri uri
      (∃ node, workspace.files.source? (workspace.analysisName uri) = some (name, node) ∧
          workspace.files.source? name = some (name, node)) ∧
        (∀ disk, workspace.files.read? disk (workspace.analysisName uri) =
          workspace.files.read? disk name) ∧
        ∀ document, workspace.files.documents.get? name = some document → ∀ disk,
          (workspace.files.read? disk (workspace.analysisName uri)).map (·.text) =
            some document.text) ∧
      ∀ path, path.isAbsolute = true → ∀ virtual,
        workspace.files.virtualNameOf? path = some virtual →
          ∃ real, workspace.files.realPathOf? virtual = some real ∧
            real.normalize = path.normalize := by
  refine ⟨fun uri path scheme read => ?_, fun path absolute virtual named => ?_⟩
  · intro name
    obtain ⟨absolute, normal, real⟩ := ModuleName.ofUri_of_toFilePath? scheme read
    have itself : workspace.files.source? name =
        some (name, workspace.files.realNode? name.path) := by
      rw [Files.source?, real]
      rfl
    have same : workspace.files.source? (workspace.analysisName uri) =
        workspace.files.source? name := by
      rw [analysisName, Files.toVirtual?, real, if_neg (by simp)]
      cases named : workspace.files.virtualNameOf? name.path with
      | none => rfl
      | some virtual =>
        exact Files.source?_of_virtualNameOf? base accepted absolute normal real named
    have leads := same.trans itself
    refine ⟨⟨_, leads, itself⟩, fun disk => ?_, fun document opened disk => ?_⟩
    · rw [Files.read?, Files.read?, same]
    · exact read?_of_reads opened ⟨_, leads⟩ disk
  · exact ⟨_, Files.realPathOf?_of_virtualNameOf? accepted named,
      Path.normalize_join_relativeTo base absolute⟩

namespace Spelled

def beside : Uri := { scheme := "file", authority := some {}, path := "/u.lua" }

/-- The script of `A` is opened. -/
def opened : Workspace LineEngine :=
  Workspace.openDocument { Shared.created with files := Files.Spelled.place } beside "luau" 1
    "-- error: opened\n"

end Spelled

theorem read?_analysisName_beside :
    Spelled.opened.analysisName Spelled.beside = ⟨"game/A"⟩ ∧
      ∀ disk, (Spelled.opened.files.read? disk ⟨"game/A"⟩).map (·.text) =
        some "-- error: opened\n" := by
  have base : Spelled.opened.files.root.isAbsolute = true := by decide +kernel
  have accepted : ∀ tree, Spelled.opened.files.instances = some tree → tree.Accepted := by
    intro tree present
    obtain rfl : Files.Spelled.tree = tree := Option.some.inj present
    exact Files.Spelled.accepted_tree
  have name : Spelled.opened.analysisName Spelled.beside = ⟨"game/A"⟩ := by decide +kernel
  have reads := ((read?_analysisName Spelled.opened base accepted).1 Spelled.beside ⟨"/u.lua"⟩ rfl
    (by decide +kernel)).2.2 _ (Table.get?_insert_self ..)
  rw [name] at reads
  exact ⟨name, reads⟩

end Workspace

end LuauWorkspace
