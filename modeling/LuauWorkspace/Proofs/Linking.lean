import LuauWorkspace.Proofs.Drafts
import LuauWorkspace.Proofs.Handover
import LuauWorkspace.Proofs.Texts

/-!
# Links and requires

Requires are resolved while a text is parsed, and links find them again among the statements of the
tree. Each line with a require leaves one statement, and nothing that comes later touches it, so
both see the same arguments and resolve them alike. The graph holds the requires of every form that
the engine keeps, and what was asked about is kept in a form of the present instance tree unless it
is dirty. So the links of a document lead to the files of the modules that the graph holds edges
to.
-/
namespace LuauWorkspace

open Syntax (Draft LocalId NodeId Source)
open Traversal (Reaches)

namespace Files

variable (files : Files)

/-- The file of a module, if it has one with an absolute path. -/
def uri? (module : ModuleName) : Option Uri := (files.toReal? module).bind Uri.ofFilePath?

/-- The files of modules, in order. -/
def uris (modules : List ModuleName) : List Uri := modules.filterMap files.uri?

/-- Where an expression leads does not depend on what is recorded beside the tree. -/
theorem resolve?_withRequires (context : ModuleName) (source : Source)
    (requires : List ModuleName) (id : NodeId) :
    files.resolve? context { source with requires } id = files.resolve? context source id := by
  have within : ∀ limit id, files.resolveWithin context { source with requires } limit id =
      files.resolveWithin context source limit id := by
    intro limit
    induction limit with
    | zero => exact fun _ => rfl
    | succ limit ih =>
      intro id
      simp only [resolveWithin, ih]
      rfl
  exact within source.nodes.size id

end Files

/-! ## Statements of a text -/

namespace Line

open Syntax.Draft (Extends extends_add getElem?_add)

/-- The statement of a `require` call: it declares local variables whose one value calls `require`
with the argument alone. -/
inductive Stands (draft : Draft) (found : Require) : Prop
  | intro {whole called named written : Location} {declared : List LocalId} {value callee : NodeId}
    (statement : draft.nodes[found.statement]? = some ⟨whole, .stat (.localDecl declared [value])⟩)
    (call : draft.nodes[value]? =
      some ⟨called, .expr (.call callee [found.argument] false written)⟩)
    (name : draft.nodes[callee]? = some ⟨named, .expr (.globalName "require")⟩) :
    Stands draft found

variable {draft after : Draft}

theorem Stands.mono {found : Require} (stands : Stands draft found)
    (grown : Extends draft after) : Stands after found := by
  obtain ⟨statement, call, name⟩ := stands
  exact ⟨grown _ _ statement, grown _ _ call, grown _ _ name⟩

/-- A statement that was just added stands in the draft when its callee was there before. -/
theorem stands_add (draft : Draft) (called whole written : Location) (declared : List LocalId)
    (argument : NodeId) {callee : NodeId} {named : Location}
    (name : draft.nodes[callee]? = some ⟨named, .expr (.globalName "require")⟩) :
    let call := draft.add called (.expr (.call callee [argument] false written))
    let statement := call.2.add whole (.stat (.localDecl declared [call.1]))
    Extends draft statement.2 ∧ Stands statement.2 ⟨statement.1, argument⟩ := by
  intro call statement
  have first : Extends draft call.2 := extends_add draft called _
  have second : Extends call.2 statement.2 := extends_add call.2 whole _
  exact ⟨first.trans second, getElem?_add call.2 whole _,
    second _ _ (getElem?_add draft called _), second _ _ (first _ _ name)⟩

theorem stands_require? {line : Nat} {text : List Char} {found : Require}
    (required : require? draft line text = some (found, after)) :
    Extends draft after ∧ Stands after found := by
  obtain ⟨declared, named, called, whole, written, start, between, -, same, last⟩ :=
    require?_steps required
  let start_draft := (draft.declare declared).2
  let callee := start_draft.add named (.expr (.globalName "require"))
  have before : Extends start_draft callee.2 := extends_add start_draft named _
  have inside := (argument_argument callee.2 line start between).1
  obtain ⟨behind, stands⟩ := stands_add (argument callee.2 line start between).2 called whole
    written [draft.locals.size] (argument callee.2 line start between).1
    (inside _ _ (getElem?_add start_draft named _))
  -- A declaration leaves the nodes alone.
  have declares : Extends draft start_draft := .refl draft
  rw [same, last]
  exact ⟨declares.trans (before.trans (inside.trans behind)), stands⟩

/-- The statements of all requires that were found so far. -/
def Scan.Standing (scan : Scan) : Prop := ∀ found ∈ scan.requires, Stands scan.draft found

theorem Scan.Standing.scanLine {scan : Scan} (standing : scan.Standing) (owner : ModuleName)
    (line : Nat) (text : List Char) : (scanLine owner scan line text).Standing := by
  unfold Line.scanLine
  split
  · exact standing
  split
  next found after required =>
    obtain ⟨grown, stands⟩ := stands_require? required
    intro call member
    rcases List.mem_append.mp member with before | last
    · exact (standing call before).mono grown
    · exact List.mem_singleton.mp last ▸ stands
  · exact standing

theorem Scan.Standing.scanLines {scan : Scan} (standing : scan.Standing) (owner : ModuleName)
    (line : Nat) (texts : List (List Char)) : (scanLines owner scan line texts).Standing := by
  induction texts generalizing scan line with
  | nil => exact standing
  | cons text rest ih => exact ih (standing.scanLine owner line text) (line + 1)

end Line

namespace Query

variable {source : Source}

/-- The only value of a statement calls `require`. -/
def Demands (source : Source) (found : Line.Require) : Prop :=
  ∃ declared value written, source.stat? found.statement = some (.localDecl declared [value]) ∧
    requireArgument? source value = some (found.argument, written)

theorem demands_of_stands {draft : Draft} (same : source.nodes = draft.nodes)
    {found : Line.Require} (stands : Line.Stands draft found) : Demands source found := by
  have nodes : ∀ {id location node}, draft.nodes[id]? = some ⟨location, node⟩ →
      source.node? id = some node := fun here => by simp [Source.node?, same, here]
  obtain @⟨_, _, _, written, declared, value, callee, statement, call, name⟩ := stands
  have called := (source.expr?_eq_some_iff value _).mpr (nodes call)
  have required := (source.expr?_eq_some_iff callee _).mpr (nodes name)
  refine ⟨declared, value, written, ?_, ?_⟩
  · simp only [Source.stat?, nodes statement]
  · simp only [requireArgument?, called, required]

theorem target_link? (files : Files) (name : ModuleName) {value argument : NodeId}
    {written : Location} (found : requireArgument? source value = some (argument, written)) :
    (link? files name source value).map (·.target) =
      (files.resolve? name source argument).bind files.uri? := by
  simp only [link?, found, Option.bind_eq_bind, Option.bind_some, Option.pure_def, Option.map_bind,
    Function.comp_def, Option.map_some, Option.bind_fun_some]
  rfl

/-- Over statements that each require one module, links lead to the files of those modules. -/
theorem targets_links (files : Files) (name : ModuleName) (calls : List Line.Require)
    (demands : ∀ found ∈ calls, Demands source found)
    (body : source.body = calls.map (·.statement)) :
    (links files name source).map (·.target) =
      files.uris (calls.filterMap fun found => files.resolve? name source found.argument) := by
  rw [links, localValues, body, List.map_filterMap, Files.uris, List.filterMap_filterMap]
  clear body
  induction calls with
  | nil => rfl
  | cons found rest ih =>
    obtain ⟨declared, value, written, statement, argument⟩ := demands found (List.mem_cons_self ..)
    have later := ih fun other member => demands other (List.mem_cons_of_mem _ member)
    simp only [List.map_cons, List.flatMap_cons, statement, List.singleton_append]
    rw [List.filterMap_cons, List.filterMap_cons, target_link? files name argument, later]

/-- The links of a parsed text lead to the files of what it requires, in the same order. -/
theorem targets_parse (files : Files) (disk : Disk) (name : ModuleName) (text : String) :
    (links files name (Line.parse (files.view disk) name text).source).map (·.target) =
      files.uris (Line.parse (files.view disk) name text).source.requires := by
  let texts := Line.lines text.toList
  let draft := (Line.scanLines name {} 0 texts).draft
  let span : Location := ⟨⟨0, 0⟩, ⟨texts.length, 0⟩⟩
  let block : Syntax.Node := .stat (.block ((Line.calls name text).map (·.statement)))
  let whole := (draft.add span block).2
  let source := (Line.parse (files.view disk) name text).source
  have standing : Line.Scan.Standing (Line.scanLines name {} 0 texts) :=
    Line.Scan.Standing.scanLines (by simp [Line.Scan.Standing]) name 0 texts
  have demands : ∀ found ∈ Line.calls name text, Demands source found := fun found member =>
    demands_of_stands (show source.nodes = whole.nodes from rfl)
      ((standing found member).mono (Syntax.Draft.extends_add draft span block))
  -- The block is added last, so it is what the root leads to.
  have body : source.body = (Line.calls name text).map (·.statement) := by
    have root : source.nodes[source.root]? = some ⟨span, block⟩ :=
      Syntax.Draft.getElem?_add draft span block
    simp only [Source.body, Source.stat?, Source.node?, root, Option.map_some, block]
  rw [targets_links files name _ demands body, Line.requires_parse_eq]
  -- The parse resolved the arguments before there were requires to record.
  have resolved : ∀ id, files.resolve? name source id =
      (files.view disk).resolve? name (Line.unresolved name text) id :=
    files.resolve?_withRequires name (Line.unresolved name text) _
  simp only [source, resolved]

end Query

/-! ## Recorded edges -/

namespace Files

/-- A form that a text of the module has under the present root and instance tree. -/
def Forms (files : Files) (name : ModuleName) (parsed : Line.Parsed) : Prop :=
  ∃ disk text, parsed = Line.parse (files.view disk) name text

theorem Forms.congr {files other : Files} {name : ModuleName} {parsed : Line.Parsed}
    (forms : files.Forms name parsed) (roots : files.root = other.root)
    (trees : files.instances = other.instances) : other.Forms name parsed := by
  obtain ⟨disk, text, rfl⟩ := forms
  exact ⟨disk, text, by rw [parse_congr roots trees]⟩

theorem forms_of_parsed? {files : Files} {disk : Disk} {name : ModuleName} {parsed : Line.Parsed}
    (read : (files.view disk).parsed? name = some parsed) : files.Forms name parsed := by
  obtain ⟨code, -, rfl⟩ := Option.map_eq_some_iff.mp read
  exact ⟨disk, code.text, rfl⟩

end Files

namespace Analysis

variable {analysis : Analysis LineEngine} {view : SourceView}

/-- The graph holds the requires of every form that the engine keeps. -/
def Mirrored (analysis : Analysis LineEngine) : Prop :=
  ∀ name, (analysis.source? name).isSome → ∀ module,
    module ∈ analysis.graph.requiredBy name ↔ module ∈ requires analysis.engine name

theorem mirrored_new : Mirrored { engine := {} } := by
  intro name parsed
  simp [source?, LineEngine.source?_eq] at parsed

theorem requires_eq (engine : LineEngine) (name : ModuleName) :
    requires engine name = ((engine.parsed.get? name).map (·.source.requires)).getD [] := by
  rw [requires, LineEngine.source?_eq, Option.map_map]
  rfl

/-- After a check the engine has the requires that the check went along. -/
theorem reaches_requires_check (bounded : view.Bounded) {root name : ModuleName}
    (way : Reaches (analysis.engine.requires view root) root name) :
    Reaches (requires (analysis.engine.check view root).2) root name := by
  refine (Reaches.congr fun other reached => ?_).mp way
  rw [requires_eq, LineEngine.parsed_check,
    if_pos ((analysis.engine.mem_order_iff view root bounded other).mpr reached)]
  rfl

theorem Mirrored.refresh (mirrored : analysis.Mirrored) (bounded : view.Bounded)
    (root : ModuleName) : (analysis.refresh view root).Mirrored := by
  intro name parsed module
  refine (mem_recordRequires_iff _ analysis.graph root (fun _ => LineEngine.mem_known _) name
    module).trans ?_
  by_cases renews : Renews (analysis.engine.check view root).2 root name
  · exact ⟨fun edge => edge.elim And.right fun old => absurd renews old.1,
      fun required => Or.inl ⟨renews, required⟩⟩
  -- What the check did not reach was not parsed again, so its edges are still right.
  have apart : name ∉ analysis.engine.order view root := fun member =>
    renews ⟨reaches_requires_check bounded
      ((analysis.engine.mem_order_iff view root bounded name).mp member), parsed⟩
  have kept : Engine.source? (analysis.engine.check view root).2 name =
      Engine.source? analysis.engine name := by
    rw [LineEngine.source?_eq, LineEngine.parsed_check, if_neg apart, LineEngine.source?_eq]
  have same : requires (analysis.engine.check view root).2 name =
      requires analysis.engine name := by rw [requires, requires, kept]
  have before := mirrored name ((congrArg Option.isSome kept).symm.trans parsed) module
  rw [← same] at before
  exact ⟨fun edge => before.mp (edge.elim (fun new => absurd new.1 renews) And.right),
    fun required => Or.inr ⟨renews, before.mpr required⟩⟩

theorem Mirrored.ensureFresh (mirrored : analysis.Mirrored) (bounded : view.Bounded)
    (name : ModuleName) : (analysis.ensureFresh view name).Mirrored :=
  ensureFresh_induction Mirrored mirrored (mirrored.refresh bounded name)

theorem Mirrored.markDirty (mirrored : analysis.Mirrored) (name : ModuleName)
    (reason : Requires.DirtyReason) : (analysis.markDirty name reason).Mirrored := mirrored

theorem Mirrored.invalidateAll (mirrored : analysis.Mirrored) :
    analysis.invalidateAll.Mirrored := by
  intro name parsed module
  have forms := (LineEngine.foldl_markDirty analysis.dirty.modules.keys analysis.engine name).1
  have same : Engine.source? analysis.invalidateAll.engine name =
      Engine.source? analysis.engine name := by
    rw [LineEngine.source?_eq, LineEngine.source?_eq, Analysis.invalidateAll, forms]
  rw [requires, same]
  exact mirrored name ((congrArg Option.isSome same).symm.trans parsed) module

/-- What was asked about is known, and it is kept in a form of the present instance tree unless it is
dirty. -/
structure Tracked (analysis : Analysis LineEngine) (files : Files) : Prop where
  mirrored : analysis.Mirrored
  known : ∀ name, (analysis.results.get? name).isSome → analysis.dirty.Known name
  forms : ∀ name parsed, (analysis.results.get? name).isSome →
    analysis.engine.isDirty name = false → analysis.engine.parsed.get? name = some parsed →
      files.Forms name parsed

section

variable {files : Files} {disk : Disk}

theorem tracked_new (files : Files) : Tracked { engine := {} } files :=
  ⟨mirrored_new, fun _ asked => by simp at asked, fun _ _ asked => by simp at asked⟩

theorem Tracked.congr (tracked : analysis.Tracked files) {other : Files}
    (roots : files.root = other.root) (trees : files.instances = other.instances) :
    analysis.Tracked other :=
  { tracked with
    forms := fun name parsed asked clean kept =>
      (tracked.forms name parsed asked clean kept).congr roots trees }

theorem Tracked.markDirty (tracked : analysis.Tracked files) (name : ModuleName)
    (reason : Requires.DirtyReason) : (analysis.markDirty name reason).Tracked files := by
  -- An edit drops results and makes modules dirty, so it asks for less than before.
  have asked : ∀ other, ((analysis.markDirty name reason).results.get? other).isSome →
      (analysis.results.get? other).isSome := by
    intro other present
    rw [Analysis.markDirty, get?_foldl_erase] at present
    split at present
    · simp at present
    · exact present
  refine ⟨tracked.mirrored.markDirty name reason, ?_, ?_⟩
  · exact fun other present => (tracked.known other (asked other present)).insert _ _ _
  · intro other parsed present clean kept
    rw [LineEngine.isDirty_eq_false_iff] at clean
    have before : analysis.engine.isDirty other = false :=
      (LineEngine.isDirty_eq_false_iff other).mpr
        ⟨fun dirty => clean.1 (List.mem_insert_of_mem dirty), clean.2⟩
    exact tracked.forms other parsed (asked other present) before kept

theorem Tracked.refresh (tracked : analysis.Tracked files) (bounded : (files.view disk).Bounded)
    (root : ModuleName) : (analysis.refresh (files.view disk) root).Tracked files := by
  have asked : ∀ name, name ≠ root →
      ((analysis.refresh (files.view disk) root).results.get? name).isSome →
        (analysis.results.get? name).isSome := fun name other present => by
    rwa [Analysis.refresh, Table.get?_insert_of_ne _ _ other] at present
  refine ⟨tracked.mirrored.refresh bounded root, ?_, ?_⟩
  · intro name present
    by_cases same : name = root
    · subst same
      simp [Analysis.refresh, Requires.DirtySet.Known, Requires.DirtySet.markChecked]
    · exact (tracked.known name (asked name same present)).insert _ _ _
  · intro name parsed present clean kept
    change (analysis.engine.check (files.view disk) root).2.isDirty name = false at clean
    change (analysis.engine.check (files.view disk) root).2.parsed.get? name = some parsed at kept
    by_cases reads : name = root ∨ analysis.engine.isDirty name = true
    · by_cases listed : name ∈ analysis.engine.order (files.view disk) root
      · rw [LineEngine.parsed_check, if_pos listed, LineEngine.current?_of_read _ _ _ reads] at kept
        exact Files.forms_of_parsed? kept
      -- What the check did not reach is as dirty as before, and it reached the root.
      have reached := (analysis.engine.mem_order_iff _ root bounded root).mpr .refl
      have dirty := reads.resolve_left fun same => listed (same ▸ reached)
      rw [LineEngine.isDirty_eq_false_iff, LineEngine.mem_dirty_check, LineEngine.parsed_check,
        if_neg listed] at clean
      have before : analysis.engine.isDirty name = false :=
        (LineEngine.isDirty_eq_false_iff name).mpr
          ⟨fun marked => clean.1 ⟨marked, fun visited => listed visited.1⟩, clean.2⟩
      simp [before] at dirty
    · simp only [not_or, Bool.not_eq_true] at reads
      rw [LineEngine.parsed_check_of_kept reads.1 reads.2] at kept
      exact tracked.forms name parsed (asked name reads.1 present) reads.2 kept

theorem Tracked.ensureFresh (tracked : analysis.Tracked files)
    (bounded : (files.view disk).Bounded) (name : ModuleName) :
    (analysis.ensureFresh (files.view disk) name).Tracked files :=
  ensureFresh_induction (·.Tracked files) tracked (tracked.refresh bounded name)

/-- After everything was invalidated the forms of what was asked about count for nothing, so any
instance tree may come. -/
theorem Tracked.invalidateAll (tracked : analysis.Tracked files) (other : Files) :
    analysis.invalidateAll.Tracked other := by
  refine ⟨tracked.mirrored.invalidateAll, fun name asked => (tracked.known name asked).invalidateAll,
    fun name parsed asked clean _ => ?_⟩
  have marks := (LineEngine.foldl_markDirty analysis.dirty.modules.keys analysis.engine name).2
  change LineEngine.isDirty (analysis.dirty.modules.keys.foldl Engine.markDirty _) name =
    false at clean
  rw [marks, Bool.or_eq_false_iff, decide_eq_false_iff_not, ← Table.get?_eq_none_iff] at clean
  have known := tracked.known name asked
  simp [Requires.DirtySet.Known, clean.1] at known

/-- A question is answered from a form of the present instance tree. -/
theorem Tracked.forms_ensureFresh (tracked : analysis.Tracked files)
    (bounded : (files.view disk).Bounded) {name : ModuleName} {parsed : Line.Parsed}
    (kept : (analysis.ensureFresh (files.view disk) name).engine.parsed.get? name = some parsed) :
    files.Forms name parsed := by
  unfold Analysis.ensureFresh at kept
  split at kept
  next fresh =>
    obtain ⟨asked, -, clean⟩ := (isFresh_iff name).mp fresh
    exact tracked.forms name parsed asked clean kept
  · have reached := (analysis.engine.mem_order_iff _ name bounded name).mpr .refl
    rw [Analysis.refresh, LineEngine.check_eq, LineEngine.parsed_check, if_pos reached,
      LineEngine.current?_of_read _ _ _ (Or.inl rfl)] at kept
    exact Files.forms_of_parsed? kept

end

end Analysis

/-! ## Workspaces -/

namespace Workspace

variable {workspace : Workspace LineEngine} {disk : Disk}

theorem tracked_create (origin : Origin) (documentation : Documentation) :
    (origin.create ({} : LineEngine) documentation).analysis.Tracked
      (origin.create ({} : LineEngine) documentation).files := by
  cases origin <;> exact Analysis.tracked_new _

theorem tracked_perform (regular : workspace.Regular)
    (tracked : workspace.analysis.Tracked workspace.files) (action : Action) :
    (workspace.perform disk action).analysis.Tracked (workspace.perform disk action).files := by
  have moves := workspace.moves_perform disk action
  generalize workspace.perform disk action = after at moves ⊢
  cases moves with
  | idle => exact tracked
  | refreshed uri => exact tracked.ensureFresh (regular.rooted.bounded disk) _
  | edited uri document reason own =>
    -- Documents are no part of what a form depends on.
    refine Analysis.Tracked.congr (show Analysis.Tracked _ workspace.files from ?_) rfl rfl
    exact analysis_edit_induction (·.Tracked workspace.files)
      (fun _ tracked marked => tracked.markDirty marked reason) tracked
  | closed uri => exact tracked.congr rfl rfl
  | configured configuration => exact tracked
  | loaded manifest => exact tracked.invalidateAll _

theorem tracked_run (origin : Origin) (documentation : Documentation)
    (steps : List (Disk × Action)) :
    let workspace := (origin.create ({} : LineEngine) documentation).run steps
    workspace.Regular ∧ workspace.analysis.Tracked workspace.files := by
  refine run_induction
    (fun workspace => workspace.Regular ∧ workspace.analysis.Tracked workspace.files) ?_
    ⟨regular_create origin _ documentation, tracked_create origin documentation⟩
  rintro ⟨disk, action⟩ - workspace ⟨regular, tracked⟩
  exact ⟨regular.perform action, tracked_perform regular tracked action⟩

theorem links_eq (uri : Uri) :
    workspace.links disk uri =
      ((((workspace.refreshed disk uri).analysis.source? (workspace.analysisName uri)).map
        (Query.links workspace.files (workspace.analysisName uri))).getD [],
        workspace.refreshed disk uri) := by
  rw [links]
  cases (workspace.refreshed disk uri).analysis.source? (workspace.analysisName uri) <;> rfl

/-- The links of a document lead to the files of what its form requires. -/
theorem targets_links (regular : workspace.Regular)
    (tracked : workspace.analysis.Tracked workspace.files) (uri : Uri) :
    (workspace.links disk uri).1.map (·.target) =
      workspace.files.uris
        (Analysis.requires (workspace.links disk uri).2.analysis.engine
          (workspace.analysisName uri)) := by
  let name := workspace.analysisName uri
  let fresh := workspace.refreshed disk uri
  rw [links_eq, Analysis.requires]
  change List.map _ ((fresh.analysis.source? name).map _ |>.getD []) = _
  change _ = workspace.files.uris (((fresh.analysis.source? name).map (·.requires)).getD [])
  cases kept : fresh.analysis.engine.parsed.get? name with
  | none => simp [Analysis.source?, LineEngine.source?_eq, kept, Files.uris]
  | some parsed =>
    obtain ⟨disk', text, rfl⟩ :=
      tracked.forms_ensureFresh (regular.rooted.bounded disk) kept
    simp only [Analysis.source?, LineEngine.source?_eq, kept, Option.map_some, Option.getD_some]
    exact Query.targets_parse workspace.files disk' name text

/-- Whatever the root and the instance tree, the links of a parsed text lead to the files of the
modules that it requires, in the same order. In a workspace these are the modules that the graph
holds edges to, so each link leads along an edge, and along each edge to a module with a file there
is a link. -/
theorem links_follow_requires :
    (∀ (files : Files) (disk : Disk) (name : ModuleName) (text : String),
      let source := (Line.parse (files.view disk) name text).source
      (Query.links files name source).map (·.target) = files.uris source.requires) ∧
    ∀ (origin : Origin) (documentation : Documentation) (steps : List (Disk × Action))
        (disk : Disk) (uri : Uri),
      let workspace := (origin.create ({} : LineEngine) documentation).run steps
      let name := workspace.analysisName uri
      let links := (workspace.links disk uri).1
      let after := (workspace.links disk uri).2.analysis
      links.map (·.target) = workspace.files.uris (Analysis.requires after.engine name) ∧
        ((after.source? name).isSome →
          (∀ module, module ∈ after.graph.requiredBy name ↔
            module ∈ Analysis.requires after.engine name) ∧
          ∀ target, (∃ link ∈ links, link.target = target) ↔
            ∃ module ∈ after.graph.requiredBy name,
              workspace.files.uri? module = some target) := by
  refine ⟨Query.targets_parse, ?_⟩
  intro origin documentation steps disk uri workspace name links after
  obtain ⟨regular, tracked⟩ := tracked_run origin documentation steps
  have targets : links.map (·.target) = workspace.files.uris (Analysis.requires after.engine name) :=
    targets_links regular tracked uri
  refine ⟨targets, fun parsed => ?_⟩
  have later : after.Mirrored := by
    have same : after = (workspace.refreshed disk uri).analysis := by
      simp only [after, links_eq]
    exact same ▸ tracked.mirrored.ensureFresh (regular.rooted.bounded disk) _
  have edges : ∀ module, module ∈ after.graph.requiredBy name ↔
      module ∈ Analysis.requires after.engine name := later name parsed
  -- The graph keeps no order, so only the set of targets is told by the edges.
  refine ⟨edges, fun target => ?_⟩
  rw [← List.mem_map (f := Query.Link.target), targets, Files.uris, List.mem_filterMap]
  simp only [edges]

namespace Linked

/-- A text that requires an instance with a file, one without a file, and a file. -/
def text : String :=
  "local U = require(game.U)\nlocal V = require(game.V)\nlocal C = require(\"c\")\n"

/-- The text was asked about, and then an instance tree was loaded. -/
def steps : List (Disk × Action) :=
  [ .opening (Place.file "main.luau") "luau" 1 text,
    .asking (Place.file "main.luau") .links,
    .loading ⟨"/place/one.json"⟩ ].map (Moved.disk, ·)

def place : Workspace LineEngine :=
  ((Origin.folder "place" (Place.file "")).create {} {}).run steps

def links : List Query.Link × Workspace LineEngine :=
  place.links Moved.disk (Place.file "main.luau")

def name : ModuleName := place.analysisName (Place.file "main.luau")

end Linked

theorem links_follow_requires_linked :
    (Linked.links.2.analysis.source? Linked.name).isSome ∧
      Linked.links.1.map (·.target) = [Place.file "1.lua", Place.file "c.lua"] ∧
      Linked.links.2.analysis.graph.requiredBy Linked.name =
        [⟨"/place/c.lua"⟩, ⟨"game/V"⟩, ⟨"game/U"⟩] ∧
      ∀ target, (∃ link ∈ Linked.links.1, link.target = target) ↔
        ∃ module ∈ Linked.links.2.analysis.graph.requiredBy Linked.name,
          Linked.place.files.uri? module = some target := by
  have shown : (Linked.links.2.analysis.source? Linked.name).isSome ∧
      Linked.links.1.map (·.target) = [Place.file "1.lua", Place.file "c.lua"] ∧
      Linked.links.2.analysis.graph.requiredBy Linked.name =
        [⟨"/place/c.lua"⟩, ⟨"game/V"⟩, ⟨"game/U"⟩] := by decide +kernel
  have follows := links_follow_requires.2 (.folder "place" (Place.file "")) {} Linked.steps
    Moved.disk (Place.file "main.luau")
  exact ⟨shown.1, shown.2.1, shown.2.2, (follows.2 shown.1).2⟩

end Workspace

end LuauWorkspace
