import LuauWorkspace.Proofs.Drafts
import LuauWorkspace.Syntax.Lookup
import Mathlib.Data.List.Basic

/-!
# Lookups in a tree

A lookup descends from a node to the first child that holds the position, as long as there is one.
Children have smaller ids, so the ids decrease on the way down and the budget of a walk is never used
up. The way down depends on nothing but which locations hold the position: where two tests agree, so
do the lookups. Half-open and closed locations differ only at the ends of nodes and at the end of the
document.
-/
namespace LuauWorkspace

theorem Position.lt_iff_le_of_ne {a b : Position} (apart : a ≠ b) : a < b ↔ a ≤ b := by
  obtain ⟨line, column⟩ := a
  obtain ⟨other, behind⟩ := b
  simp only [ne_eq, Position.mk.injEq] at apart
  simp only [lt_iff, le_iff]
  omega

namespace Syntax.Source

/-- The first item of a list that has a property. -/
def First {α : Type} (holds : α → Prop) (items : List α) (item : α) : Prop :=
  ∃ before after, items = before ++ item :: after ∧ holds item ∧ ∀ other ∈ before, ¬ holds other

section First

variable {α : Type} {holds : α → Prop} {items : List α} {item : α}

theorem first_iff_find? [DecidablePred holds] :
    First holds items item ↔ items.find? (fun other => holds other) = some item := by
  rw [List.find?_eq_some_iff_append]
  constructor
  · rintro ⟨before, after, rfl, here, others⟩
    refine ⟨by simpa using here, before, after, rfl, fun other member => ?_⟩
    simpa using others other member
  · rintro ⟨here, before, after, rfl, others⟩
    refine ⟨before, after, rfl, by simpa using here, fun other member => ?_⟩
    simpa using others other member

theorem First.mem (first : First holds items item) : item ∈ items := by
  obtain ⟨before, after, rfl, -, -⟩ := first
  simp

theorem First.here (first : First holds items item) : holds item := by
  obtain ⟨before, after, rfl, here, -⟩ := first
  exact here

theorem First.unique {other : α} (one : First holds items item)
    (two : First holds items other) : item = other := by
  classical
  exact Option.some.inj ((first_iff_find?.mp one).symm.trans (first_iff_find?.mp two))

theorem First.congr {other : α → Prop} (same : ∀ x ∈ items, holds x ↔ other x)
    (first : First holds items item) : First other items item := by
  obtain ⟨before, after, rfl, here, others⟩ := first
  refine ⟨before, after, rfl, (same item (by simp)).mp here, fun x member holds => ?_⟩
  exact others x member ((same x (by simp [member])).mpr holds)

theorem not_first_nil : ¬ First holds [] item := by
  classical
  simp [first_iff_find?]

theorem first_cons_iff {head : α} : First holds (head :: items) item ↔
    holds head ∧ head = item ∨ ¬ holds head ∧ First holds items item := by
  classical
  by_cases here : holds head <;> simp [first_iff_find?, here]

/-- The last item with a property is that of the rest, or the head when the rest has none. -/
theorem first_reverse_cons_iff {head : α} : First holds (head :: items).reverse item ↔
    First holds items.reverse item ∨ (∀ other ∈ items, ¬ holds other) ∧ holds head ∧ head = item := by
  classical
  simp only [first_iff_find?, List.reverse_cons, List.find?_append, Option.or_eq_some_iff,
    List.find?_eq_none, List.find?_singleton]
  simp

end First

variable {source : Source}

/-! ## The way down -/

/-- From a node each time to the first child that holds, until no child does. -/
inductive Descent (source : Source) (holds : NodeId → Prop) : NodeId → List NodeId → NodeId → Prop
  | stop {id : NodeId} (none : ∀ child ∈ source.children id, ¬ holds child) :
    Descent source holds id [id] id
  | step {id child last : NodeId} {path : List NodeId}
    (first : First holds (source.children id) child) (further : Descent source holds child path last) :
    Descent source holds id (id :: path) last

namespace Descent

variable {holds : NodeId → Prop} {start last : NodeId} {path : List NodeId}

theorem head?_eq (descent : source.Descent holds start path last) : path.head? = some start := by
  cases descent <;> rfl

theorem getLast?_eq (descent : source.Descent holds start path last) :
    path.getLast? = some last := by
  induction descent with
  | stop none => rfl
  | step first further ih => simp [List.getLast?_cons, ih]

/-- There is one way down. -/
theorem unique {other : NodeId} {way : List NodeId} (one : source.Descent holds start path last)
    (two : source.Descent holds start way other) : path = way := by
  induction one generalizing other way with
  | stop none =>
    cases two with
    | stop _ => rfl
    | step first _ => exact absurd first.here (none _ first.mem)
  | step first _ ih =>
    cases two with
    | stop none => exact absurd first.here (none _ first.mem)
    | step again further =>
      obtain rfl := first.unique again
      rw [ih further]

theorem children (descent : source.Descent holds start path last) :
    path.IsChain fun parent child => child ∈ source.children parent := by
  induction descent with
  | stop none => exact .singleton _
  | step first further ih =>
    cases further <;> exact .cons_cons first.mem ih

/-- Ids decrease on the way down. -/
theorem pairwise (built : source.Built) (descent : source.Descent holds start path last) :
    path.Pairwise (· > ·) := by
  rw [← List.isChain_iff_pairwise]
  exact descent.children.imp fun _ _ member => built.lt_of_mem_children member

/-- Only the nodes of the tree are tested. -/
theorem congr {other : NodeId → Prop} (built : source.Built) (bound : start < source.nodes.size)
    (same : ∀ id < source.nodes.size, holds id ↔ other id)
    (descent : source.Descent holds start path last) : source.Descent other start path last := by
  -- All ids on the way are those of nodes, since they only get smaller.
  have below : ∀ {id child : NodeId}, id < source.nodes.size → child ∈ source.children id →
      child < source.nodes.size := fun inside member =>
    Nat.lt_trans (built.lt_of_mem_children member) inside
  induction descent with
  | stop none =>
    refine .stop fun child member here => none child member ?_
    exact (same child (below bound member)).mpr here
  | step first further ih =>
    refine .step (first.congr fun child member => same child (below bound member)) ?_
    exact ih (below bound first.mem)

theorem length_le (built : source.Built) (descent : source.Descent holds start path last) :
    path.length ≤ start + 1 := by
  induction descent with
  | stop none => simp
  | step first further ih =>
    have below := built.lt_of_mem_children first.mem
    rw [List.length_cons]
    exact Nat.succ_le_succ (Nat.le_trans ih below)

end Descent

/-- With a budget of the start's id, a walk goes all the way down. -/
theorem Built.exists_descent_walk (built : source.Built) (holds : Location → Bool) {limit : Nat}
    {start : NodeId} (enough : start ≤ limit) :
    ∃ last, source.Descent (fun id => holds (source.location id) = true) start
      (source.walk holds limit start) last := by
  induction limit generalizing start with
  | zero =>
    -- The start is the first node of the tree, which has no children.
    refine ⟨start, .stop fun child member => ?_⟩
    have below := Nat.lt_of_lt_of_le (built.lt_of_mem_children member) enough
    exact absurd below (Nat.not_lt_zero child)
  | succ limit ih =>
    cases found : (source.children start).find? fun child => holds (source.location child) with
    | none =>
      have nothing := List.find?_eq_none.mp found
      refine ⟨start, ?_⟩
      rw [walk, found]
      exact .stop nothing
    | some child =>
      have first : First (fun id => holds (source.location id) = true) (source.children start)
          child := first_iff_find?.mpr (by simpa using found)
      have below := Nat.lt_of_lt_of_le (built.lt_of_mem_children first.mem) enough
      obtain ⟨last, further⟩ := ih (Nat.lt_succ_iff.mp below)
      refine ⟨last, ?_⟩
      rw [walk, found]
      exact .step first further

/-- A lookup goes down from the root if the root itself holds. -/
theorem Built.exists_descent_path (built : source.Built) (holds : Location → Bool)
    (rooted : holds (source.location source.root) = true) :
    ∃ last, source.Descent (fun id => holds (source.location id) = true) source.root
      (source.path holds) last := by
  rw [path, if_pos rooted]
  exact built.exists_descent_walk holds (Nat.le_of_lt built.root_lt)

/-! ## Targets -/

/-- A node declares a local variable whose location holds. -/
def Declares (source : Source) (holds : LocalId → Prop) (node : NodeId) : Prop :=
  ∃ declared ∈ source.declared node, holds declared

def IsExpr (source : Source) (node : NodeId) : Prop := (source.expr? node).isSome = true

section Target

variable {holds : Location → Bool} {path : List NodeId} {found : Option Target}

theorem not_declares_of_find? {id : NodeId}
    (nothing : (source.declared id).find? (fun declared => holds (source.localLocation declared)) =
      none) : ¬ source.Declares (fun declared => holds (source.localLocation declared) = true) id := by
  rintro ⟨declared, member, here⟩
  exact List.find?_eq_none.mp nothing declared member here

theorem first_of_find? {id : NodeId} {declared : LocalId}
    (search : (source.declared id).find? (fun other => holds (source.localLocation other)) =
      some declared) :
    First (fun other => holds (source.localLocation other) = true) (source.declared id) declared :=
  first_iff_find?.mpr (by simpa using search)

theorem targetOn_eq_declaration_iff {declared : LocalId}
    (other : found ≠ some (.declaration declared)) :
    source.targetOn holds found path = some (.declaration declared) ↔
      ∃ node, First (source.Declares fun id => holds (source.localLocation id) = true) path node ∧
        First (fun id => holds (source.localLocation id) = true) (source.declared node) declared := by
  induction path generalizing found with
  | nil => simp [targetOn, other, not_first_nil]
  | cons id rest ih =>
    rw [targetOn]
    cases search : (source.declared id).find? fun inner => holds (source.localLocation inner) with
    | none =>
      have nothing := not_declares_of_find? search
      simp only [first_cons_iff, nothing, false_and, not_false_eq_true, true_and, false_or]
      -- The node itself may be the last expression so far, but never a declaration.
      apply ih
      split <;> simp [other]
    | some inner =>
      have first := first_of_find? search
      have here : source.Declares (fun id => holds (source.localLocation id) = true) id :=
        ⟨inner, first.mem, first.here⟩
      constructor
      · intro same
        obtain rfl : inner = declared := by simpa using same
        exact ⟨id, first_cons_iff.mpr (Or.inl ⟨here, rfl⟩), first⟩
      · rintro ⟨node, top, again⟩
        rcases first_cons_iff.mp top with ⟨-, rfl⟩ | ⟨absent, -⟩
        · rw [first.unique again]
        · exact absurd here absent

theorem targetOn_eq_expr_iff {id : NodeId} :
    source.targetOn holds found path = some (.expr id) ↔
      (∀ node ∈ path, ¬ source.Declares (fun id => holds (source.localLocation id) = true) node) ∧
        (First source.IsExpr path.reverse id ∨
          (∀ node ∈ path, ¬ source.IsExpr node) ∧ found = some (.expr id)) := by
  induction path generalizing found with
  | nil => simp [targetOn, not_first_nil]
  | cons head rest ih =>
    rw [targetOn]
    cases search : (source.declared head).find? fun inner => holds (source.localLocation inner) with
    | none =>
      have nothing := not_declares_of_find? search
      simp only [ih, List.forall_mem_cons, nothing, not_false_eq_true, true_and,
        first_reverse_cons_iff]
      by_cases here : (source.expr? head).isSome = true <;> simp [IsExpr, here]
    | some inner =>
      have first := first_of_find? search
      constructor
      · intro same
        simp at same
      · rintro ⟨absent, -⟩
        exact absurd ⟨inner, first.mem, first.here⟩ (absent head (List.mem_cons_self ..))

end Target

/-! ## What lies at a position -/

abbrev Covers (source : Source) (position : Position) (id : NodeId) : Prop :=
  source.covers (source.location id) position = true

abbrev CoversLocal (source : Source) (position : Position) (id : LocalId) : Prop :=
  source.covers (source.localLocation id) position = true

theorem covers_root_of_nodeAt? {position : Position} {id : NodeId}
    (found : source.nodeAt? position = some id) : source.Covers position source.root := by
  by_contra outside
  rw [Bool.not_eq_true, ← nodeAt?_eq_none_iff, found] at outside
  simp at outside

theorem Built.descent_nodeAt? (built : source.Built) {position : Position} {id : NodeId}
    (found : source.nodeAt? position = some id) :
    source.Descent (source.Covers position) source.root (source.coveringPath position) id := by
  obtain ⟨last, descent⟩ := built.exists_descent_path
    (fun location => source.covers location position) (covers_root_of_nodeAt? found)
  have same : source.nodeAt? position = some last := descent.getLast?_eq
  obtain rfl : id = last := Option.some.inj (found.symm.trans same)
  exact descent

/-- A lookup finds the node at the end of the way down, and on the same way the declaration under the
position or else the last expression. -/
theorem descent_lookup (built : source.Built) (position : Position) :
    (source.nodeAt? position = none ↔ ¬ source.Covers position source.root) ∧
    (source.nodeAt? position = none → source.targetAt? position = none) ∧
    ∀ id, source.nodeAt? position = some id → ∃ path,
      source.Descent (source.Covers position) source.root path id ∧
      path.Pairwise (· > ·) ∧ path.length ≤ source.nodes.size ∧
      (∀ declared, source.targetAt? position = some (.declaration declared) ↔
        ∃ node, First (source.Declares (source.CoversLocal position)) path node ∧
          First (source.CoversLocal position) (source.declared node) declared) ∧
      (∀ expr, source.targetAt? position = some (.expr expr) ↔
        (∀ node ∈ path, ¬ source.Declares (source.CoversLocal position) node) ∧
          First source.IsExpr path.reverse expr) := by
  refine ⟨?_, ?_, ?_⟩
  · rw [Bool.not_eq_true]
    exact source.nodeAt?_eq_none_iff position
  · intro nothing
    have empty : source.coveringPath position = [] := List.getLast?_eq_none_iff.mp nothing
    rw [targetAt?, empty]
    rfl
  · intro id found
    have descent := built.descent_nodeAt? found
    refine ⟨source.coveringPath position, descent, descent.pairwise built, ?_, ?_, ?_⟩
    · exact Nat.le_trans (descent.length_le built) built.root_lt
    · intro declared
      exact targetOn_eq_declaration_iff (by simp)
    · intro expr
      rw [targetAt?, targetOn_eq_expr_iff]
      simp

namespace Recovered

/-- `local p: Point = make(p)` as it may be left by recovery from an error: the typing runs into the
value. -/
def draft : Draft :=
  let typed := (Draft.add {} (.onLine 0 9 19) (.type (.reference none "Point"))).2
  let declared := (typed.declare ⟨"p", .onLine 0 6 7, some 0⟩).2
  let callee := (declared.add (.onLine 0 17 21) (.expr (.globalName "make"))).2
  let argument := (callee.add (.onLine 0 22 23) (.expr (.localName 0))).2
  let value := (argument.add (.onLine 0 17 24) (.expr (.call 1 [2] false (.onLine 0 22 23)))).2
  (value.add (.onLine 0 0 24) (.stat (.localDecl [0] [3]))).2

def tree : Source := draft.finish ⟨"main"⟩ (.onLine 0 0 24) [4]

theorem built : tree.Built := by
  refine ⟨draft, .onLine 0 0 24, [4], ?_, by decide, rfl⟩
  refine .add (.add (.add (.add (.declare (.add .empty _ ?_) _) _ ?_) _ ?_) _ ?_) _ ?_ <;> decide

/-- `local U = require(game.U)` as the line engine parses it, without any file to require. -/
def required : Source :=
  (Line.parse ⟨fun _ => none, fun _ _ _ => none, 0⟩ ⟨"main"⟩ "local U = require(game.U)").source

end Recovered

/-- Behind the end of the document lies what ends there. In what the line engine parses a lookup goes
down to the first name of an argument. -/
theorem descent_lookup_behind :
    Recovered.tree.Built ∧ Recovered.tree.nodeAt? ⟨3, 0⟩ = some 3 ∧
      Recovered.tree.targetAt? ⟨3, 0⟩ = some (.expr 3) ∧
      ∃ path, Recovered.tree.Descent (Recovered.tree.Covers ⟨3, 0⟩) 5 path 3 ∧
        path.length ≤ 6 ∧ First Recovered.tree.IsExpr path.reverse 3 ∧
      Recovered.required.Built ∧ Recovered.required.nodeAt? ⟨0, 20⟩ = some 1 ∧
      ∃ way, Recovered.required.Descent (Recovered.required.Covers ⟨0, 20⟩) 5 way 1 ∧
        way.Pairwise (· > ·) := by
  have found : Recovered.tree.nodeAt? ⟨3, 0⟩ = some 3 := by decide
  have target : Recovered.tree.targetAt? ⟨3, 0⟩ = some (.expr 3) := by decide
  obtain ⟨path, descent, -, short, -, last⟩ :=
    (descent_lookup Recovered.built ⟨3, 0⟩).2.2 3 found
  have parsed : Recovered.required.Built := Line.built_parse ..
  have named : Recovered.required.nodeAt? ⟨0, 20⟩ = some 1 := by decide +kernel
  obtain ⟨way, further, falls, -⟩ := (descent_lookup parsed ⟨0, 20⟩).2.2 1 named
  exact ⟨Recovered.built, found, target, path, descent, short, ((last 3).mp target).2,
    parsed, named, way, further, falls⟩

/-! ## Ancestry -/

/-- Away from the ends of nodes and of the document, a location holds what it touches. -/
theorem covers_iff_containsClosed {position : Position} (inside : position < source.documentEnd)
    {location : Location} (apart : location.stop ≠ position) :
    source.covers location position = true ↔ location.containsClosed position = true := by
  have early : ¬ source.documentEnd ≤ position := inside.2
  have ahead : position < location.stop ↔ position ≤ location.stop :=
    Position.lt_iff_le_of_ne apart.symm
  simp only [covers, Bool.or_eq_true, Location.contains_iff, Location.containsClosed_iff,
    Bool.and_eq_true, decide_eq_true_eq, early, false_and, or_false, ahead]

theorem ancestry_eq_nil_iff (position : Position) :
    source.ancestry position = [] ↔
      (source.location source.root).containsClosed position = false := by
  rw [ancestry, path]
  split
  next rooted => simp [walk_ne_nil, rooted]
  next outside => simpa using outside

/-- The nodes around a position that is no end of any node are those that a lookup passes. -/
theorem ancestry_eq_descent (built : source.Built) {position : Position}
    (inside : position < source.documentEnd)
    (apart : ∀ id < source.nodes.size, (source.location id).stop ≠ position) :
    (source.ancestry position = [] ↔ source.nodeAt? position = none) ∧
    ∀ id, source.nodeAt? position = some id →
      (∀ path, source.Descent (source.Covers position) source.root path id ↔
        path = source.ancestry position) ∧
      (source.ancestry position).head? = some source.root ∧
      (source.ancestry position).getLast? = some id ∧
      (source.ancestry position).IsChain fun parent child => child ∈ source.children parent := by
  have same : ∀ id < source.nodes.size, (source.location id).containsClosed position = true ↔
      source.Covers position id := fun id bound =>
    (covers_iff_containsClosed inside (apart id bound)).symm
  constructor
  · rw [ancestry_eq_nil_iff, nodeAt?_eq_none_iff, ← Bool.not_eq_true, ← Bool.not_eq_true,
      same source.root built.root_lt]
  · intro id found
    have passes := built.descent_nodeAt? found
    obtain ⟨last, around⟩ := built.exists_descent_path
      (fun location => location.containsClosed position)
      ((same source.root built.root_lt).mpr (covers_root_of_nodeAt? found))
    -- On the nodes of the tree the two tests agree, and there is only one way down.
    have equal : source.ancestry position = source.coveringPath position :=
      (around.congr built built.root_lt same).unique passes
    rw [equal]
    exact ⟨fun path => ⟨fun other => other.unique passes, fun path => path ▸ passes⟩,
      passes.head?_eq, passes.getLast?_eq, passes.children⟩

/-- Where two children overlap, both go to the first one. -/
theorem ancestry_eq_descent_overlapping :
    (⟨0, 18⟩ : Position) < Recovered.tree.documentEnd ∧
      (∀ id < Recovered.tree.nodes.size, (Recovered.tree.location id).stop ≠ ⟨0, 18⟩) ∧
      Recovered.tree.ancestry ⟨0, 18⟩ = [5, 4, 0] ∧
      Recovered.tree.Descent (Recovered.tree.Covers ⟨0, 18⟩) 5 [5, 4, 0] 0 := by
  have inside : (⟨0, 18⟩ : Position) < Recovered.tree.documentEnd := by decide
  have apart : ∀ id < Recovered.tree.nodes.size,
      (Recovered.tree.location id).stop ≠ ⟨0, 18⟩ := by decide
  have around : Recovered.tree.ancestry ⟨0, 18⟩ = [5, 4, 0] := by decide
  have passes := (ancestry_eq_descent Recovered.built inside apart).2 0 (by decide)
  exact ⟨inside, apart, around, (passes.1 _).mpr around.symm⟩

end Syntax.Source

end LuauWorkspace
