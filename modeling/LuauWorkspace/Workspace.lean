import LuauWorkspace.Diagnostics
import LuauWorkspace.Query.Completion
import LuauWorkspace.Query.Definition
import LuauWorkspace.Query.Links
import LuauWorkspace.Query.Signature

/-!
# Workspaces

A workspace folder with its open documents, its instance tree, its configuration and its memoized
checks. Documents are kept under the real names of their modules. The engine is asked under the
virtual name when the file has an instance, since that is what requires resolve to, and edits
mark both names. Queries make their module fresh first; what they show is then read off.
-/
namespace LuauWorkspace

structure Workspace (ε : Type) where
  name : String
  rootUri : Option Uri := none
  files : Files
  analysis : Analysis ε
  configuration : Configuration := {}
  ignore : IgnoreGlobs := {}
  documentation : Documentation := {}

namespace Workspace

/-- The workspace of the files that belong to no folder. -/
def nullName : String := "$NULL_WORKSPACE"

def manifestName : String := "sourcemap.json"

/-- A workspace folder. One whose URI names no path has an empty root. -/
def ofFolder {ε : Type} (name : String) (uri : Uri) (engine : ε) (documentation : Documentation) :
    Workspace ε :=
  { name
    rootUri := some uri
    files := { root := uri.toFilePath?.getD ⟨""⟩ }
    analysis := { engine }
    documentation }

def null {ε : Type} (engine : ε) (documentation : Documentation) : Workspace ε :=
  { name := nullName, files := { root := ⟨""⟩ }, analysis := { engine }, documentation }

variable {ε : Type} [Engine ε] (workspace : Workspace ε)

def root : Path := workspace.files.root

def isNull : Bool := workspace.name = nullName

/-- Whether a URI names a file below the root. -/
def contains (uri : Uri) : Bool :=
  if workspace.isNull || workspace.root.text = "" then false
  else
    match uri.toFilePath? with
    | some path => path.normalize.startsWith workspace.root
    | none => false

def configure (configuration : Configuration) : Workspace ε :=
  { workspace with configuration, ignore := .ofGlobs configuration.ignoreGlobs }

/-- Replaces the instance tree and forgets what was fresh. A manifest that cannot be loaded
leaves no tree. -/
def loadManifest (disk : Disk) (path : Path) : Except LoadError Unit × Workspace ε :=
  let loaded := Instances.Tree.load disk path
  (loaded.map fun _ => (),
    { workspace with
      files := { workspace.files with instances := loaded.toOption }
      analysis := workspace.analysis.invalidateAll })

def reloadManifest (disk : Disk) : Except LoadError Unit × Workspace ε :=
  workspace.loadManifest disk (workspace.root.join ⟨manifestName⟩)

/-- Loads the manifest of a folder; the null workspace has none. -/
def setup (disk : Disk) : Except LoadError Unit × Workspace ε :=
  if workspace.isNull then (.ok (), workspace) else workspace.reloadManifest disk

def isIgnored (path : Path) : Bool := workspace.ignore.isIgnored (workspace.files.relative path)

def isIgnoredModule (name : ModuleName) : Bool :=
  match workspace.files.toReal? name with
  | some path => workspace.isIgnored path
  | none => false

/-- The path of a module seen from the root, or its name when it has no file. -/
def displayPath (name : ModuleName) : String :=
  match workspace.files.toReal? name with
  | some path => workspace.files.relative path
  | none => name.text

/-- The name that the engine knows a document by. -/
def analysisName (uri : Uri) : ModuleName :=
  let name := ModuleName.ofUri uri
  (workspace.files.toVirtual? name).getD name

/-! ## Documents -/

/-- Marks a module under both of its names. -/
def markDirty (name : ModuleName) (reason : Requires.DirtyReason) : Workspace ε :=
  let marked := workspace.analysis.markDirty name reason
  let analysis :=
    match workspace.files.toVirtual? name with
    | some other => if other = name then marked else marked.markDirty other reason
    | none => marked
  { workspace with analysis }

def withDocuments (documents : Documents) : Workspace ε :=
  { workspace with files := { workspace.files with documents } }

def openDocument (uri : Uri) (language : String) (version : Int) (text : String) : Workspace ε :=
  let name := ModuleName.ofUri uri
  let documents := workspace.files.documents.insert name { uri, language, version, text }
  (workspace.withDocuments documents).markDirty name .opened

def updateDocument (uri : Uri) (update : Update) : Except DocumentError (Workspace ε) :=
  let name := ModuleName.ofUri uri
  (workspace.files.documents.update name update).map fun documents =>
    (workspace.withDocuments documents).markDirty name .changed

/-- Drops a document. The file takes over at the next check. -/
def closeDocument (uri : Uri) : Workspace ε :=
  workspace.withDocuments (workspace.files.documents.erase (ModuleName.ofUri uri))

def isOpen (uri : Uri) : Bool := workspace.files.documents.contains (ModuleName.ofUri uri)

/-! ## Queries -/

/-- Has the engine check the module of a document if that is needed. -/
def refreshed (disk : Disk) (uri : Uri) : Workspace ε :=
  { workspace with
    analysis := workspace.analysis.ensureFresh (workspace.files.view disk)
      (workspace.analysisName uri) }

/-- The parsed and the checked form of a document. -/
def modules? (uri : Uri) : Option (Syntax.Source × Checked) := do
  let name := workspace.analysisName uri
  return (← workspace.analysis.source? name, ← workspace.analysis.checked? name)

def diagnosticsOf (uri : Uri) : DocumentDiagnostics :=
  .ofAnalysis workspace.analysis workspace.files workspace.ignore
    workspace.configuration.includeDependents (workspace.analysisName uri)

def diagnostics (disk : Disk) (uri : Uri) : DocumentDiagnostics × Workspace ε :=
  let fresh := workspace.refreshed disk uri
  (fresh.diagnosticsOf uri, fresh)

/-- Asks something about the fresh forms of a document. -/
def ask {α : Type} (disk : Disk) (uri : Uri) (query : Syntax.Source → Checked → Option α) :
    Option α × Workspace ε :=
  let fresh := workspace.refreshed disk uri
  ((fresh.modules? uri).bind fun (source, module) => query source module, fresh)

def hover (disk : Disk) (uri : Uri) (position : Position) : Option Query.Hover × Workspace ε :=
  workspace.ask disk uri fun source module =>
    Query.hover? source module workspace.documentation position

def signatureHelp (disk : Disk) (uri : Uri) (position : Position) :
    Option Query.SignatureHelp × Workspace ε :=
  workspace.ask disk uri fun source module =>
    Query.signatureHelp? source module workspace.documentation position

def definition (disk : Disk) (uri : Uri) (position : Position) : Option Location × Workspace ε :=
  workspace.ask disk uri fun source module => Query.definition? source module position

def typeDefinition (disk : Disk) (uri : Uri) (position : Position) :
    Option Location × Workspace ε :=
  workspace.ask disk uri fun source module => Query.typeDefinition? source module position

def links (disk : Disk) (uri : Uri) : List Query.Link × Workspace ε :=
  let fresh := workspace.refreshed disk uri
  let name := workspace.analysisName uri
  match fresh.analysis.source? name with
  | some source => (Query.links workspace.files name source, fresh)
  | none => ([], fresh)

/-- None when completion is disabled. -/
def completion (disk : Disk) (uri : Uri) (position : Position) :
    Option (List Query.CompletionItem) × Workspace ε :=
  if ¬ workspace.configuration.completionEnabled then (none, workspace)
  else
    let fresh := workspace.refreshed disk uri
    let name := workspace.analysisName uri
    let candidates := Engine.candidates fresh.analysis.engine name position
    let types := (fresh.analysis.checked? name).map (·.types)
    (some (Query.completionItems types workspace.documentation candidates), fresh)

/-- What a batch run reports about a document: the problems of its check, without those of
ignored files, and its lints. None when its text cannot be read. -/
def findings (disk : Disk) (uri : Uri) : Option (List Problem × Lints) × Workspace ε :=
  let fresh := workspace.refreshed disk uri
  let name := workspace.analysisName uri
  ((fresh.analysis.source? name).map fun _ =>
    ((fresh.analysis.problems name).filter fun problem => !workspace.isIgnoredModule problem.owner,
      Engine.lint fresh.analysis.engine name),
    fresh)

end Workspace

end LuauWorkspace
