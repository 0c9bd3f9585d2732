import LuauWorkspace.Diagnostics
import LuauWorkspace.Proofs.Extent

/-!
# What a text says

The problems of a text are those of its lines, each by itself, and apart from the module that
owns them they depend on the text alone. A require names a file by its written path, or an
instance by names joined by dots: the scan only adds nodes to its draft, so an argument stays what
it was when its line was read.
-/
namespace LuauWorkspace

open Syntax (Draft NodeId Placed)

namespace Line

/-! ## Problems -/

/-- The problems of a text with their owner. -/
def problemsOf (owner : ModuleName) (text : String) : List Problem :=
  (lines text.toList).zipIdx.filterMap fun (line, row) => problem? owner row line

/-- The problems of a text as they are shown. -/
def errors (text : String) : List Diagnostic :=
  (lines text.toList).zipIdx.filterMap fun (line, row) =>
    (problem? ⟨""⟩ row line).map .ofProblem

theorem problems_scanLine (owner : ModuleName) (scan : Scan) (row : Nat) (text : List Char) :
    (scanLine owner scan row text).problems = scan.problems ++ (problem? owner row text).toList := by
  unfold scanLine
  cases problem? owner row text with
  | some problem => rfl
  | none =>
    cases require? scan.draft row text <;> simp

theorem problems_scanLines (owner : ModuleName) (scan : Scan) (row : Nat)
    (texts : List (List Char)) :
    (scanLines owner scan row texts).problems =
      scan.problems ++ (texts.zipIdx row).filterMap fun (line, row) => problem? owner row line := by
  induction texts generalizing scan row with
  | nil => simp [scanLines]
  | cons first rest ih =>
    rw [scanLines, ih, problems_scanLine, List.zipIdx_cons, List.filterMap_cons]
    cases found : problem? owner row first <;> simp [found]

theorem owner_of_problem? {owner : ModuleName} {row : Nat} {line : List Char} {problem : Problem}
    (found : problem? owner row line = some problem) : problem.owner = owner := by
  obtain ⟨message, -, rfl⟩ := Option.map_eq_some_iff.mp found
  rfl

/-- A problem is shown alike whoever owns it. -/
theorem map_ofProblem_problem? (owner other : ModuleName) (row : Nat) (line : List Char) :
    (problem? owner row line).map Diagnostic.ofProblem =
      (problem? other row line).map Diagnostic.ofProblem := by
  simp only [problem?, Option.map_map]
  rfl

theorem problems_parse (view : SourceView) (name : ModuleName) (text : String) :
    (parse view name text).problems = problemsOf name text := by
  change (scanLines name {} 0 (lines text.toList)).problems = _
  rw [problems_scanLines, List.nil_append, problemsOf]

theorem map_ofProblem_problems (view : SourceView) (name : ModuleName) (text : String) :
    (parse view name text).problems.map .ofProblem = errors text := by
  rw [problems_parse, problemsOf, List.map_filterMap, errors]
  simp only [map_ofProblem_problem? name ⟨""⟩]

theorem mem_errors_of_mem_problems {view : SourceView} {name : ModuleName} {text : String}
    {problem : Problem} (member : problem ∈ (parse view name text).problems) :
    problem.owner = name ∧ Diagnostic.ofProblem problem ∈ errors text := by
  refine ⟨?_, map_ofProblem_problems view name text ▸ List.mem_map_of_mem member⟩
  rw [problems_parse, problemsOf] at member
  obtain ⟨_, -, found⟩ := List.mem_filterMap.mp member
  exact owner_of_problem? found

end Line

/-! ## Requires -/

namespace Syntax.Draft

/-- All nodes stay in their places. -/
def Extends (draft after : Draft) : Prop :=
  ∀ (id : NodeId) (node : Placed), draft.nodes[id]? = some node → after.nodes[id]? = some node

theorem Extends.refl (draft : Draft) : Extends draft draft := fun _ _ found => found

theorem Extends.trans {draft after last : Draft} (first : Extends draft after)
    (second : Extends after last) : Extends draft last :=
  fun id node found => second id node (first id node found)

theorem extends_add (draft : Draft) (location : Location) (node : Node) :
    Extends draft (draft.add location node).2 := by
  intro id old found
  obtain ⟨inside, rfl⟩ := Array.getElem?_eq_some_iff.mp found
  simp [add, Array.getElem?_push_lt inside]

theorem getElem?_add (draft : Draft) (location : Location) (node : Node) :
    (draft.add location node).2.nodes[(draft.add location node).1]? = some ⟨location, node⟩ := by
  simp [add]

end Syntax.Draft

namespace Line

open Syntax.Draft (Extends extends_add getElem?_add)

/-- Names joined by dots. -/
inductive Dotted (draft : Draft) : NodeId → Prop
  | name {id : NodeId} {location : Location} {name : String}
    (found : draft.nodes[id]? = some ⟨location, .expr (.globalName name)⟩) : Dotted draft id
  | member {id base : NodeId} {location nameAt : Location} {name : String} {separator : Char}
    (found : draft.nodes[id]? = some ⟨location, .expr (.member base name nameAt separator)⟩)
    (before : Dotted draft base) : Dotted draft id

/-- What stands between the parentheses of a `require` call. -/
inductive Argument (draft : Draft) (id : NodeId) : Prop
  | file {location : Location} {written : String}
    (found : draft.nodes[id]? = some ⟨location, .expr (.text written)⟩) : Argument draft id
  | place (dotted : Dotted draft id) : Argument draft id

variable {draft after : Draft}

theorem Dotted.mono {id : NodeId} (dotted : Dotted draft id) (grown : Extends draft after) :
    Dotted after id := by
  induction dotted with
  | name found => exact .name (grown _ _ found)
  | member found _ ih => exact .member (grown _ _ found) ih

theorem Argument.mono {id : NodeId} (argument : Argument draft id) (grown : Extends draft after) :
    Argument after id := by
  cases argument with
  | file found => exact .file (grown _ _ found)
  | place dotted => exact .place (dotted.mono grown)

theorem dotted_members (line start : Nat) (names : List (List Char)) {base : NodeId}
    (column : Nat) (dotted : Dotted draft base) :
    Extends draft (members draft line start base column names).2 ∧
      Dotted (members draft line start base column names).2
        (members draft line start base column names).1 := by
  induction names generalizing draft base column with
  | nil => exact ⟨.refl draft, dotted⟩
  | cons name rest ih =>
    rw [members]
    have grown := extends_add draft (.onLine line start (column + 1 + width name))
      (.expr (.member base (String.ofList name) (.onLine line (column + 1)
        (column + 1 + width name)) '.'))
    obtain ⟨more, reaches⟩ := ih (column + 1 + width name)
      (.member (getElem?_add draft _ _) (dotted.mono grown))
    exact ⟨grown.trans more, reaches⟩

theorem argument_argument (draft : Draft) (line start : Nat) (text : List Char) :
    Extends draft (argument draft line start text).2 ∧
      Argument (argument draft line start text).2 (argument draft line start text).1 := by
  unfold argument
  cases quoted? text with
  | some path => exact ⟨extends_add draft _ _, .file (getElem?_add draft _ _)⟩
  | none =>
    let root := (Text.split '.' text).headD []
    let stop := start + width root
    let node : Syntax.Node := .expr (.globalName (String.ofList root))
    obtain ⟨more, reaches⟩ := dotted_members line start (Text.split '.' text).tail stop
      (.name (getElem?_add draft (.onLine line start stop) node))
    exact ⟨(extends_add draft _ node).trans more, .place reaches⟩

/-- A `require` call is read as its argument between nodes of its own. -/
theorem require?_cases {line : Nat} {text : List Char} {found : Require}
    (required : require? draft line text = some (found, after)) :
    ∃ called start written, Extends draft called ∧
      found.argument = (argument called line start written).1 ∧
        Extends (argument called line start written).2 after := by
  obtain ⟨⟨name, written⟩, -, built⟩ := Option.map_eq_some_iff.mp required
  refine ⟨_, _, written, ?_, congrArg (·.1.argument) built.symm, ?_⟩
  · exact extends_add (draft.declare _).2 _ _
  · have last : _ = after := congrArg (·.2) built
    exact last ▸ (extends_add _ _ _).trans (extends_add _ _ _)

theorem argument_require? {line : Nat} {text : List Char} {found : Require}
    (required : require? draft line text = some (found, after)) :
    Extends draft after ∧ Argument after found.argument := by
  obtain ⟨called, start, written, before, same, behind⟩ := require?_cases required
  obtain ⟨grown, argument⟩ := argument_argument called line start written
  exact ⟨(before.trans grown).trans behind, same ▸ argument.mono behind⟩

theorem argument_scanLine (owner : ModuleName) (scan : Scan) (line : Nat) (text : List Char)
    (known : ∀ call ∈ scan.requires, Argument scan.draft call.argument) :
    ∀ call ∈ (scanLine owner scan line text).requires,
      Argument (scanLine owner scan line text).draft call.argument := by
  unfold scanLine
  split
  · exact known
  split
  next found after required =>
    obtain ⟨grown, argument⟩ := argument_require? required
    intro call member
    rcases List.mem_append.mp member with before | last
    · exact (known call before).mono grown
    · exact List.mem_singleton.mp last ▸ argument
  · exact known

theorem argument_scanLines (owner : ModuleName) (scan : Scan) (line : Nat)
    (texts : List (List Char))
    (known : ∀ call ∈ scan.requires, Argument scan.draft call.argument) :
    ∀ call ∈ (scanLines owner scan line texts).requires,
      Argument (scanLines owner scan line texts).draft call.argument := by
  induction texts generalizing scan line with
  | nil => exact known
  | cons text rest ih => exact ih _ _ (argument_scanLine owner scan line text known)

end Line

namespace Files

open Line (Argument Dotted)

variable {files : Files}

/-- Names joined by dots lead to instances. -/
theorem Rooted.isVirtual_of_dotted (rooted : files.Rooted) (context : ModuleName)
    {source : Syntax.Source} {draft : Draft} (same : source.nodes = draft.nodes) {id : NodeId}
    (dotted : Dotted draft id) {limit : Nat} {found : ModuleName}
    (leads : files.resolveWithin context source limit id = some found) :
    found.isVirtual = true := by
  have exprs : ∀ {id location expr}, draft.nodes[id]? = some ⟨location, .expr expr⟩ →
      source.expr? id = some expr := fun here => by
    simp [Syntax.Source.expr?, Syntax.Source.node?, same, here]
  induction dotted generalizing limit found with
  | name here =>
    cases limit with
    | zero => simp [resolveWithin] at leads
    | succ limit =>
      simp only [resolveWithin, exprs here] at leads
      split at leads
      · obtain rfl : (⟨ModuleName.dataModelRoot⟩ : ModuleName) = found := by simpa using leads
        decide
      split at leads
      · exact rooted.isVirtual_toVirtual leads
      · simp at leads
  | member here _ ih =>
    cases limit with
    | zero => simp [resolveWithin] at leads
    | succ limit =>
      simp only [resolveWithin, exprs here] at leads
      obtain ⟨before, led, step⟩ := Option.bind_eq_some_iff.mp leads
      have there := ih led
      split at step
      · exact (ModuleName.isVirtual_parent step).trans there
      · obtain rfl := Option.some.inj step
        exact (before.isVirtual_child _).trans there

/-- What a text requires is an instance or a file that it names by its path. -/
theorem Rooted.requires_cases (rooted : files.Rooted) (disk : Disk) (name : ModuleName)
    (text : String) {required : ModuleName}
    (member : required ∈ (Line.parse (files.view disk) name text).source.requires) :
    required.isVirtual = true ∨ ∃ written, required = files.requiredFile written := by
  rw [Line.requires_parse_eq] at member
  obtain ⟨call, scanned, leads⟩ := List.mem_filterMap.mp member
  let texts := Line.lines text.toList
  let draft := (Line.scanLines name {} 0 texts).draft
  let block : Syntax.Node := .stat (.block ((Line.calls name text).map (·.statement)))
  let span : Location := ⟨⟨0, 0⟩, ⟨texts.length, 0⟩⟩
  let whole := (draft.add span block).2
  have same : (Line.unresolved name text).nodes = whole.nodes := rfl
  have known : Argument draft call.argument :=
    Line.argument_scanLines name {} 0 texts (by simp) call scanned
  have kept : Argument whole call.argument := known.mono (Syntax.Draft.extends_add draft span block)
  change files.resolveWithin name (Line.unresolved name text) _ _ = some required at leads
  cases kept with
  | @file _ written here =>
    have expr : (Line.unresolved name text).expr? call.argument = some (.text written) := by
      simp [Syntax.Source.expr?, Syntax.Source.node?, same, whole, here]
    right
    generalize (Line.unresolved name text).nodes.size = limit at leads
    cases limit with
    | zero => simp [resolveWithin] at leads
    | succ limit =>
      simp only [resolveWithin, expr, Option.some.injEq] at leads
      exact ⟨written, leads.symm⟩
  | place dotted => exact Or.inl (rooted.isVirtual_of_dotted name same dotted leads)

end Files

end LuauWorkspace
