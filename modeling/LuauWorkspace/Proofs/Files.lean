import LuauWorkspace.Diagnostics
import LuauWorkspace.Proofs.Line

/-!
# What the files of a workspace decide

Where a require leads, which file has an instance and where a problem is filed depend on the root
and on the instance tree alone. Documents decide only what is read. Without a tree each module is
read from its own document, so an edit changes the form of one module.
-/
namespace LuauWorkspace

namespace Files

variable {files other : Files}

theorem mk_relative (path : Path) : (⟨files.relative path⟩ : Path) = path.relativeTo files.root := by
  unfold relative
  -- A path is the path of its text; what that text is need not be unfolded.
  generalize path.relativeTo files.root = seen
  rfl

section Congruence

variable (roots : files.root = other.root) (trees : files.instances = other.instances)

include roots trees

omit trees in
theorem relative_congr : files.relative = other.relative := by
  funext path
  simp only [relative, roots]

theorem toVirtual?_congr : files.toVirtual? = other.toVirtual? := by
  funext name
  simp only [toVirtual?, virtualNameOf?, realNode?, trees, relative_congr roots]

theorem toReal?_congr : files.toReal? = other.toReal? := by
  funext name
  simp only [toReal?, realPathOf?, virtualNode?, trees, roots]

theorem source?_congr : files.source? = other.source? := by
  funext name
  simp only [source?, virtualNode?, realNode?, trees, roots, relative_congr roots]

theorem resolve?_congr : files.resolve? = other.resolve? := by
  have virtuals := toVirtual?_congr roots trees
  have required : files.requiredFile = other.requiredFile := by
    funext written
    simp only [requiredFile, roots]
  -- By induction on the bound of the descent; each level looks at the tree and the root only.
  have within : ∀ context source limit id,
      files.resolveWithin context source limit id =
        other.resolveWithin context source limit id := by
    intro context source limit
    induction limit with
    | zero => intro id; rfl
    | succ limit ih =>
      intro id
      simp only [resolveWithin, ih, virtuals, required]
  funext context source id
  exact within context source source.nodes.size id

/-- A text is parsed alike wherever requires lead to the same modules. -/
theorem parse_congr (disk : Disk) :
    Line.parse (files.view disk) = Line.parse (other.view disk) := by
  have leads : (files.view disk).resolve? = (other.view disk).resolve? :=
    resolve?_congr roots trees
  funext name text
  simp only [Line.parse, leads]

theorem parsed?_congr (disk : Disk) {name : ModuleName}
    (reads : files.read? disk name = other.read? disk name) :
    (files.view disk).parsed? name = (other.view disk).parsed? name := by
  simp only [SourceView.parsed?, parse_congr roots trees disk]
  exact congrArg (Option.map _) reads

theorem read?_congr (disk : Disk)
    (texts : ∀ real, files.documents.get? real = other.documents.get? real) :
    files.read? disk = other.read? disk := by
  funext name
  simp only [read?, source?_congr roots trees, text?, texts]

theorem ofProblems_congr (ignore : IgnoreGlobs) (dependents : Bool) :
    DocumentDiagnostics.ofProblems files ignore dependents =
      DocumentDiagnostics.ofProblems other ignore dependents := by
  have filed : DocumentDiagnostics.relate files ignore =
      DocumentDiagnostics.relate other ignore := by
    funext related problem
    simp only [DocumentDiagnostics.relate, DocumentDiagnostics.relatedUri?,
      toReal?_congr roots trees, relative_congr roots]
  funext name problems lints
  simp only [DocumentDiagnostics.ofProblems, filed]

end Congruence

/-- What is not read from an edited document is parsed as before. -/
theorem parsed?_insert (files : Files) (disk : Disk) (edited : ModuleName) (document : Document)
    {name : ModuleName} (apart : ∀ node, files.source? name ≠ some (edited, node)) :
    (files.view disk).parsed? name =
      ({ files with documents := files.documents.insert edited document }.view disk).parsed?
        name := by
  let edit : Files := { files with documents := files.documents.insert edited document }
  -- Documents decide the text and not the place.
  have place : edit.source? name = files.source? name := rfl
  have reads : files.read? disk name = edit.read? disk name := by
    rw [read?, read?, place]
    cases found : files.source? name with
    | none => rfl
    | some source =>
      obtain ⟨real, node⟩ := source
      have differs : real ≠ edited := fun same => apart node (same ▸ found)
      simp only [Option.bind_some, text?, edit, Table.get?_insert_of_ne _ _ differs]
  have roots : files.root = edit.root := rfl
  have trees : files.instances = edit.instances := rfl
  exact parsed?_congr roots trees disk reads

/-! ## Without an instance tree -/

variable (bare : files.instances = none)

include bare

theorem toVirtual?_of_bare (name : ModuleName) :
    files.toVirtual? name = if name.isVirtual then some name else none := by
  simp [toVirtual?, virtualNameOf?, realNode?, bare]

theorem toReal?_of_bare (name : ModuleName) :
    files.toReal? name = if name.isVirtual then none else some name.path := by
  simp [toReal?, realPathOf?, virtualNode?, bare]

theorem source?_of_bare (name : ModuleName) :
    files.source? name = if name.isVirtual then none else some (name, none) := by
  simp [source?, virtualNode?, realNode?, bare]

theorem parsed?_insert_of_bare (disk : Disk) (edited : ModuleName) (document : Document)
    {name : ModuleName} (differs : name ≠ edited) :
    (files.view disk).parsed? name =
      ({ files with documents := files.documents.insert edited document }.view disk).parsed?
        name := by
  refine files.parsed?_insert disk edited document fun node => ?_
  rw [source?_of_bare bare]
  split
  · simp
  · simp [differs]

end Files

end LuauWorkspace
