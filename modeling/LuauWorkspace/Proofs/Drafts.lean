import LuauWorkspace.Engine.Line

/-!
# Trees grown node by node

Whoever builds a tree hands out ids one by one and puts into a node only ids that were handed out
before, those of the typings of its local variables included. Nodes and local variables never change
once they are there, so in the finished tree every child still has a smaller id than its parent: it
is an id inside the node, or the typing of a local variable that the node declares. The line engine
builds its trees so, whatever the text.
-/
namespace LuauWorkspace

namespace Syntax

/-! ## Ids inside a node -/

def Expr.parts : Expr → List NodeId
  | nil | bool | number | text _ | varargs | globalName _ | localName _ => []
  | call callee arguments _ _ => callee :: arguments
  | member base _ _ _ => [base]
  | element base key => [base, key]
  | function _ _ body => [body]
  | table items => items.flatMap fun item => item.key.toList ++ [item.value]
  | unary operand => [operand]
  | binary left right => [left, right]
  | group inner => [inner]
  | cast operand typing => [operand, typing]

def Stat.parts : Stat → List NodeId
  | block body => body
  | localDecl _ values => values
  | assign targets values => targets ++ values
  | expression inner => [inner]
  | result values => values
  | branch condition first second => condition :: first :: second.toList
  | loop condition body => [condition, body]
  | function name body => [name, body]
  | localFunction _ body => [body]
  | typeAlias _ type => [type]

namespace Node

/-- The ids of nodes inside a node. -/
def parts : Node → List NodeId
  | expr e => e.parts
  | stat s => s.parts
  | type t => Source.typeChildren t

def declared : Node → List LocalId
  | stat (.localDecl locals _) => locals
  | stat (.localFunction id _) => [id]
  | expr (.function receiver parameters _) => receiver.toList ++ parameters
  | _ => []

/-- The ids of local variables inside a node: those that it declares, and the one that it reads. -/
def locals : Node → List LocalId
  | expr (.localName id) => [id]
  | node => node.declared

theorem mem_locals_of_mem_declared {node : Node} {id : LocalId} (member : id ∈ node.declared) :
    id ∈ node.locals := by
  unfold locals
  split
  · simp [declared] at member
  · exact member

end Node

/-! ## Drafts -/

namespace Draft

def typing? (draft : Draft) (id : LocalId) : Option NodeId := (draft.locals[id]?).bind (·.typing)

/-- Every id inside the node stands for something in the draft, and every node that it refers to has
an id below `limit`. -/
structure Admits (draft : Draft) (limit : NodeId) (node : Node) : Prop where
  parts : ∀ id ∈ node.parts, id < limit
  locals : ∀ id ∈ node.locals, id < draft.locals.size
  typings : ∀ id ∈ node.declared, ∀ typing ∈ draft.typing? id, typing < limit

instance (draft : Draft) (limit : NodeId) (node : Node) : Decidable (draft.Admits limit node) :=
  decidable_of_iff
    ((∀ id ∈ node.parts, id < limit) ∧ (∀ id ∈ node.locals, id < draft.locals.size) ∧
      ∀ id ∈ node.declared, ∀ typing ∈ draft.typing? id, typing < limit)
    ⟨fun ⟨parts, locals, typings⟩ => ⟨parts, locals, typings⟩,
      fun ⟨parts, locals, typings⟩ => ⟨parts, locals, typings⟩⟩

/-- Drafts whose nodes were given only ids that had been handed out. -/
inductive Built : Draft → Prop
  | empty : Built {}
  | add {draft : Draft} (built : Built draft) (location : Location) {node : Node}
    (known : draft.Admits draft.nodes.size node) : Built (draft.add location node).2
  | declare {draft : Draft} (built : Built draft) (declared : Local) :
    Built (draft.declare declared).2

theorem Admits.declare {draft : Draft} {limit : NodeId} {node : Node}
    (admits : draft.Admits limit node) (declared : Local) :
    (draft.declare declared).2.Admits limit node where
  parts := admits.parts
  locals id member := by
    rw [Draft.declare, Array.size_push]
    exact Nat.lt_succ_of_lt (admits.locals id member)
  typings id member := by
    -- The local variable is an old one, whose entry stays as it is.
    have known := admits.locals id (Node.mem_locals_of_mem_declared member)
    have kept : (draft.declare declared).2.typing? id = draft.typing? id := by
      simp [typing?, Draft.declare, Array.getElem?_push, Nat.ne_of_lt known]
    rw [kept]
    exact admits.typings id member

/-- Every node in the draft refers to nodes in front of it. -/
theorem Built.admits {draft : Draft} (built : draft.Built) {id : NodeId} {placed : Placed}
    (found : draft.nodes[id]? = some placed) : draft.Admits id placed.node := by
  induction built with
  | empty => simp at found
  | @add draft built location node known ih =>
    rw [Draft.add, Array.getElem?_push] at found
    -- The new node was admitted just now, the others when they were added.
    split at found
    next last =>
      obtain rfl := last
      obtain rfl := Option.some.inj found
      exact ⟨known.parts, known.locals, known.typings⟩
    next before =>
      obtain ⟨parts, locals, typings⟩ := ih found
      exact ⟨parts, locals, typings⟩
  | declare built declared ih => exact (ih found).declare declared

end Draft

/-! ## Finished trees -/

namespace Source

/-- The tree was finished from a draft, with a body that had been handed out. -/
def Built (source : Source) : Prop :=
  ∃ (draft : Draft) (location : Location) (body : List NodeId), draft.Built ∧
    (∀ id ∈ body, id < draft.nodes.size) ∧
    source = { draft.finish source.name location body with requires := source.requires }

variable {source : Source}

theorem mem_typings_iff (locals : List LocalId) (id : NodeId) :
    id ∈ source.typings locals ↔ ∃ declared ∈ locals, source.typing? declared = some id :=
  List.mem_filterMap

/-- A child is an id inside the node or the typing of something that the node declares. -/
theorem exists_part_of_mem_children {id child : NodeId} (member : child ∈ source.children id) :
    ∃ node, source.node? id = some node ∧
      (child ∈ node.parts ∨ ∃ declared ∈ node.declared, source.typing? declared = some child) := by
  cases found : source.node? id with
  | none => simp [children, found] at member
  | some node =>
    refine ⟨node, rfl, ?_⟩
    simp only [children, found] at member
    cases node with
    | type type => exact Or.inl member
    | stat stat =>
      cases stat with
      | localDecl locals values =>
        change child ∈ source.typings locals ++ values at member
        rw [List.mem_append, mem_typings_iff] at member
        exact member.symm
      | _ => exact Or.inl member
    | expr expr =>
      cases expr with
      | function receiver parameters body =>
        change child ∈ source.typings (receiver.toList ++ parameters) ++ [body] at member
        rw [List.mem_append, mem_typings_iff] at member
        exact member.symm
      | _ => exact Or.inl member

theorem Built.exists_draft (built : source.Built) :
    ∃ draft : Draft, draft.Built ∧ source.nodes = draft.nodes ∧ source.locals = draft.locals ∧
      source.root < draft.nodes.size := by
  obtain ⟨draft, location, body, grown, known, finished⟩ := built
  -- Finishing a draft adds one more node, the block around everything.
  have admits : draft.Admits draft.nodes.size (.stat (.block body)) :=
    ⟨known, by simp [Node.locals, Node.declared], by simp [Node.declared]⟩
  refine ⟨_, grown.add location admits, ?_, ?_, ?_⟩
  · rw [finished]; rfl
  · rw [finished]; rfl
  · rw [finished]
    simp [Draft.finish, Draft.add]

theorem Built.root_lt (built : source.Built) : source.root < source.nodes.size := by
  obtain ⟨draft, -, nodes, -, bound⟩ := built.exists_draft
  exact nodes ▸ bound

/-- Children come before their parents. -/
theorem Built.lt_of_mem_children (built : source.Built) {id child : NodeId}
    (member : child ∈ source.children id) : child < id := by
  obtain ⟨draft, grown, nodes, locals, -⟩ := built.exists_draft
  obtain ⟨node, found, inside⟩ := exists_part_of_mem_children member
  obtain ⟨placed, there, rfl⟩ := Option.map_eq_some_iff.mp found
  obtain ⟨parts, -, typings⟩ := grown.admits (nodes ▸ there)
  rcases inside with part | ⟨declared, listed, typed⟩
  · exact parts child part
  · refine typings declared listed child ?_
    rw [typing?, local?, locals] at typed
    exact typed

end Source

end Syntax

/-! ## The trees of the line engine -/

namespace Line

open Syntax (Draft Expr Local Node NodeId Stat)

/-- The draft was grown by nodes only, and the id is that of a node. -/
structure Yields (draft : Draft) (result : NodeId × Draft) : Prop where
  built : result.2.Built
  known : result.1 < result.2.nodes.size
  grows : draft.nodes.size ≤ result.2.nodes.size
  locals : result.2.locals = draft.locals

variable {draft : Draft}

theorem Yields.trans {first second : NodeId × Draft} (one : Yields draft first)
    (two : Yields first.2 second) : Yields draft second where
  built := two.built
  known := two.known
  grows := Nat.le_trans one.grows two.grows
  locals := two.locals.trans one.locals

theorem yields_add (built : draft.Built) (location : Location) {node : Node}
    (known : draft.Admits draft.nodes.size node) : Yields draft (draft.add location node) where
  built := built.add location known
  known := by simp [Draft.add]
  grows := by simp [Draft.add]
  locals := rfl

/-- A node without local variables may be added if its parts are there. -/
theorem yields_add_of_parts (built : draft.Built) (location : Location) (node : Node)
    (parts : ∀ id ∈ node.parts, id < draft.nodes.size) (plain : node.locals = []) :
    Yields draft (draft.add location node) := by
  refine yields_add built location ⟨parts, by simp [plain], fun id member => ?_⟩
  have inside := Node.mem_locals_of_mem_declared member
  simp [plain] at inside

theorem yields_members (built : draft.Built) (line start column : Nat) {base : NodeId}
    (known : base < draft.nodes.size) (names : List (List Char)) :
    Yields draft (members draft line start base column names) := by
  induction names generalizing draft base column with
  | nil => exact ⟨built, known, Nat.le_refl _, rfl⟩
  | cons name rest ih =>
    let stop := column + 1 + width name
    have added := yields_add_of_parts built (.onLine line start stop)
      (.expr (.member base (String.ofList name) (.onLine line (column + 1) stop) '.'))
      (by simpa [Node.parts, Expr.parts] using known) rfl
    exact added.trans (ih added.built stop added.known)

theorem yields_argument (built : draft.Built) (line start : Nat) (text : List Char) :
    Yields draft (argument draft line start text) := by
  unfold argument
  cases quoted? text with
  | some path =>
    exact yields_add_of_parts built _ (.expr (.text (String.ofList path)))
      (by simp [Node.parts, Expr.parts]) rfl
  | none =>
    let root := (Text.split '.' text).headD []
    let stop := start + width root
    have named := yields_add_of_parts built (.onLine line start stop)
      (.expr (.globalName (String.ofList root))) (by simp [Node.parts, Expr.parts]) rfl
    exact named.trans (yields_members named.built line start stop named.known _)

/-- A declaration of one local variable that has no typing. -/
theorem yields_declaration (built : draft.Built) (location : Location) {id value : NodeId}
    {declared : Local} (there : draft.locals[id]? = some declared) (bare : declared.typing = none)
    (known : value < draft.nodes.size) :
    Yields draft (draft.add location (.stat (.localDecl [id] [value]))) := by
  have inside : id < draft.locals.size := (Array.getElem?_eq_some_iff.mp there).1
  refine yields_add built location ⟨?_, ?_, ?_⟩
  · simpa [Node.parts, Stat.parts] using known
  · simpa [Node.locals, Node.declared] using inside
  · simp [Node.declared, Draft.typing?, there, bare]

/-- What a line with a require adds, one after the other. -/
theorem require?_steps {line : Nat} {text : List Char} {found : Require} {after : Draft}
    (required : require? draft line text = some (found, after)) :
    ∃ (declared : Local) (named called whole span : Location) (start : Nat) (written : List Char),
      declared.typing = none ∧
        let callee := (draft.declare declared).2.add named (.expr (.globalName "require"))
        let inner := argument callee.2 line start written
        let call := inner.2.add called (.expr (.call callee.1 [inner.1] false span))
        let statement := call.2.add whole (.stat (.localDecl [draft.locals.size] [call.1]))
        found = ⟨statement.1, inner.1⟩ ∧ after = statement.2 := by
  obtain ⟨⟨name, written⟩, -, same⟩ := Option.map_eq_some_iff.mp required
  exact ⟨_, _, _, _, _, _, written, rfl, congrArg (·.1) same.symm, congrArg (·.2) same.symm⟩

theorem built_require? (built : draft.Built) {line : Nat} {text : List Char} {found : Require}
    {after : Draft} (required : require? draft line text = some (found, after)) :
    after.Built ∧ found.statement < after.nodes.size ∧ draft.nodes.size ≤ after.nodes.size := by
  obtain ⟨declared, named, called, whole, span, start, written, bare, rfl, rfl⟩ :=
    require?_steps required
  have callee := yields_add_of_parts (built.declare declared) named (.expr (.globalName "require"))
    (by simp [Node.parts, Expr.parts]) rfl
  have inner := yields_argument callee.built line start written
  have parts := And.intro (Nat.lt_of_lt_of_le callee.known inner.grows) inner.known
  have call := yields_add_of_parts inner.built called
    (.expr (.call _ [_] false span)) (by simpa [Node.parts, Expr.parts] using parts) rfl
  have before := callee.trans (inner.trans call)
  have there : (draft.declare declared).2.locals[draft.locals.size]? = some declared := by
    simp [Draft.declare]
  have finished := yields_declaration call.built whole (before.locals ▸ there) bare call.known
  exact ⟨finished.built, finished.known, Nat.le_trans before.grows finished.grows⟩

/-- The draft of a scan was built, and the statements of all requires are in it. -/
structure Scan.Built (scan : Scan) : Prop where
  draft : scan.draft.Built
  known : ∀ call ∈ scan.requires, call.statement < scan.draft.nodes.size

theorem Scan.Built.scanLine {scan : Scan} (built : scan.Built) (owner : ModuleName) (line : Nat)
    (text : List Char) : (scanLine owner scan line text).Built := by
  unfold Line.scanLine
  split
  · exact ⟨built.draft, built.known⟩
  split
  next found after required =>
    obtain ⟨grown, last, grows⟩ := built_require? built.draft required
    refine ⟨grown, fun call member => ?_⟩
    rcases List.mem_append.mp member with before | here
    · exact Nat.lt_of_lt_of_le (built.known call before) grows
    · exact List.mem_singleton.mp here ▸ last
  · exact built

theorem Scan.Built.scanLines {scan : Scan} (built : scan.Built) (owner : ModuleName) (line : Nat)
    (texts : List (List Char)) : (scanLines owner scan line texts).Built := by
  induction texts generalizing scan line with
  | nil => exact built
  | cons text rest ih => exact ih (built.scanLine owner line text) (line + 1)

/-- Every text gives a tree whose ids were handed out before they were used. -/
theorem built_parse (view : SourceView) (name : ModuleName) (text : String) :
    (parse view name text).source.Built := by
  have start : Scan.Built {} := ⟨.empty, by simp⟩
  have scanned := start.scanLines name 0 (lines text.toList)
  refine ⟨_, ⟨⟨0, 0⟩, ⟨(lines text.toList).length, 0⟩⟩, _, scanned.draft, ?_, rfl⟩
  intro id member
  obtain ⟨call, listed, rfl⟩ := List.mem_map.mp member
  exact scanned.known call listed

end Line

end LuauWorkspace
