import LuauWorkspace.Proofs.Scopes
import LuauWorkspace.Query.Hover

/-!
# Behind the end of a document

Where everything lies within the document, a position at its end or behind it is covered by what ends
there and by nothing else, so all such positions lead to the same nodes and to the same target. Scopes
have no such rule. The scope of the file ends with the document, so it lies around the end and around
nothing behind it, and a symbol that is bound at the end is unbound behind it. A definition always needs
a scope, a hover only for the declaration of a local variable.
-/
namespace LuauWorkspace

namespace Position

theorem lt_of_le_of_ne {a b : Position} (le : a ≤ b) (apart : a ≠ b) : a < b := by
  obtain ⟨line, column⟩ := a
  obtain ⟨other, behind⟩ := b
  simp only [ne_eq, Position.mk.injEq] at apart
  simp only [le_iff] at le
  simp only [lt_iff]
  omega

theorem le_refl (position : Position) : position ≤ position := by
  simp [le_iff]

theorem origin_le (position : Position) : default ≤ position := by
  change 0 < position.line ∨ 0 = position.line ∧ 0 ≤ position.column
  omega

end Position

namespace Syntax.Source

/-- Nodes and local variables lie within the root. -/
structure Bounded (source : Source) : Prop where
  nodes : ∀ id < source.nodes.size,
    (source.location source.root).start ≤ (source.location id).start ∧
      (source.location id).stop ≤ source.documentEnd
  locals : ∀ id < source.locals.size,
    (source.location source.root).start ≤ (source.localLocation id).start ∧
      (source.localLocation id).stop ≤ source.documentEnd

instance (source : Source) : Decidable source.Bounded :=
  decidable_of_iff (_ ∧ _)
    ⟨fun ⟨nodes, locals⟩ => ⟨nodes, locals⟩, fun ⟨nodes, locals⟩ => ⟨nodes, locals⟩⟩

variable {source : Source}

/-! ## Lookups with tests that agree -/

section Congruence

variable {holds other : Location → Bool}

theorem walk_congr (same : ∀ id, holds (source.location id) = other (source.location id))
    (limit : Nat) (start : NodeId) :
    source.walk holds limit start = source.walk other limit start := by
  induction limit generalizing start with
  | zero => rfl
  | succ limit ih => simp only [walk, same, ih]

theorem path_congr (same : ∀ id, holds (source.location id) = other (source.location id)) :
    source.path holds = source.path other := by
  simp only [path, same, walk_congr same]

theorem targetOn_congr
    (same : ∀ id, holds (source.localLocation id) = other (source.localLocation id))
    (found : Option Target) (path : List NodeId) :
    source.targetOn holds found path = source.targetOn other found path := by
  induction path generalizing found with
  | nil => rfl
  | cons id rest ih => simp only [targetOn, same, ih]

/-- A walk comes only to nodes that hold. -/
theorem holds_of_mem_walk {limit : Nat} {start id : NodeId}
    (here : holds (source.location start) = true) (member : id ∈ source.walk holds limit start) :
    holds (source.location id) = true := by
  induction limit generalizing start with
  | zero =>
    obtain rfl : id = start := by simpa [walk] using member
    exact here
  | succ limit ih =>
    rw [walk, List.mem_cons] at member
    rcases member with rfl | further
    · exact here
    · cases found : (source.children start).find? fun child => holds (source.location child) with
      | none => simp [found] at further
      | some child =>
        have below : holds (source.location child) = true := by simpa using List.find?_some found
        exact ih below (by simpa [found] using further)

theorem holds_of_mem_path {id : NodeId} (member : id ∈ source.path holds) :
    holds (source.location id) = true := by
  rw [path] at member
  split at member
  next rooted => exact holds_of_mem_walk rooted member
  · simp at member

end Congruence

/-! ## What ends with the document -/

/-- At the end and behind it, what does not reach further is covered exactly if it ends there. -/
theorem covers_of_stop_le {position : Position} (behind : source.documentEnd ≤ position)
    {location : Location} (within : location.stop ≤ source.documentEnd) :
    source.covers location position = decide (location.stop = source.documentEnd) := by
  have outside : ¬ position < location.stop := by
    intro inside
    exact inside.2 (Position.le_trans within behind)
  simp [covers, Location.contains, behind, outside]

namespace Bounded

variable (bounded : source.Bounded)

include bounded

/-- Ids outside the tree stand at the origin, which is no later than any end. -/
theorem stop_le (id : NodeId) : (source.location id).stop ≤ source.documentEnd := by
  by_cases inside : id < source.nodes.size
  · exact (bounded.nodes id inside).2
  · have origin : source.location id = default := by simp [location, inside]
    exact origin ▸ Position.origin_le _

theorem local_stop_le (id : LocalId) : (source.localLocation id).stop ≤ source.documentEnd := by
  by_cases inside : id < source.locals.size
  · exact (bounded.locals id inside).2
  · have origin : source.localLocation id = default := by simp [localLocation, local?, inside]
    exact origin ▸ Position.origin_le _

variable {position : Position} (behind : source.documentEnd ≤ position)

include behind

theorem covers_location (id : NodeId) : source.covers (source.location id) position =
    source.covers (source.location id) source.documentEnd := by
  rw [covers_of_stop_le behind (bounded.stop_le id),
    covers_of_stop_le (Position.le_refl _) (bounded.stop_le id)]

theorem covers_localLocation (id : LocalId) : source.covers (source.localLocation id) position =
    source.covers (source.localLocation id) source.documentEnd := by
  rw [covers_of_stop_le behind (bounded.local_stop_le id),
    covers_of_stop_le (Position.le_refl _) (bounded.local_stop_le id)]

theorem coveringPath_eq : source.coveringPath position = source.coveringPath source.documentEnd :=
  path_congr (bounded.covers_location behind)

theorem stop_of_mem_coveringPath {id : NodeId} (member : id ∈ source.coveringPath position) :
    (source.location id).stop = source.documentEnd := by
  have covered := holds_of_mem_path member
  simpa [covers_of_stop_le behind (bounded.stop_le id)] using covered

theorem targetAt?_eq : source.targetAt? position = source.targetAt? source.documentEnd := by
  rw [targetAt?, bounded.coveringPath_eq behind]
  exact targetOn_congr (bounded.covers_localLocation behind) none _

end Bounded

end Syntax.Source

namespace Checked

/-- The first scope is that of the whole file and holds all others. -/
structure Spans (module : Checked) (whole : Location) : Prop where
  first : (module.scope? 0).map (·.location) = some whole
  others : ∀ {id scope}, module.scope? id = some scope →
    whole.start ≤ scope.location.start ∧ scope.location.stop ≤ whole.stop

theorem Spans.scopeAt?_eq_none {module : Checked} {whole : Location} (spans : module.Spans whole)
    {position : Position} (behind : whole.stop < position) : module.scopeAt? position = none := by
  rw [scopeAt?_eq_none_iff]
  rintro id ⟨scope, found, holds⟩
  rw [Location.containsClosed_iff] at holds
  exact behind.2 (Position.le_trans holds.2 (spans.others found).2)

/-- A scope around the position has a binding of the symbol. -/
def Binds (module : Checked) (position : Position) (symbol : Symbol) : Prop :=
  ∃ id binding, module.scopeAt? position = some id ∧ module.lookup? id symbol = some binding

end Checked

namespace Query

open Syntax (Source)

variable {source : Source} {module : Checked}

/-- Where no scope lies around itself, every lookup ends with what a walk without a budget comes to. -/
theorem exists_walks_lookup? (acyclic : module.Acyclic) (id : ScopeId) (symbol : Symbol) :
    ∃ visited, module.Walks (binds symbol) (some id) visited (module.lookup? id symbol) := by
  obtain ⟨visited, answer, walks⟩ := acyclic.exists_walks (binds symbol) id
  have found : module.lookup? id symbol = answer :=
    ((module.ends_iff_not_circles (binds symbol) id).2 visited answer walks).2
  exact ⟨visited, found ▸ walks⟩

theorem hover?_eq_none_iff {docs : Documentation} {position : Position} :
    hover? source module docs position = none ↔
      ∀ target, source.targetAt? position = some target →
        typeAt? source module target position = none := by
  cases aimed : source.targetAt? position with
  | none => simp [hover?, aimed]
  | some target => cases found : typeAt? source module target position <;> simp [hover?, aimed, found]

theorem typeAt?_declaration_eq_none_iff {id : Syntax.LocalId} {position : Position} :
    typeAt? source module (.declaration id) position = none ↔
      ¬ module.Binds position (.declaration id) := by
  cases around : module.scopeAt? position with
  | none => simp [typeAt?, Checked.Binds, around]
  | some scope =>
    cases found : module.lookup? scope (.declaration id) <;>
      simp [typeAt?, Checked.Binds, around, found]

theorem definition?_eq_none_iff {position : Position} :
    definition? source module position = none ↔ ∀ target symbol,
      source.targetAt? position = some target → Names source target symbol →
        ¬ module.Binds position symbol := by
  constructor
  · rintro nothing target symbol aimed names ⟨id, binding, around, found⟩
    have answer := definition?_eq_some_iff.mpr
      ⟨target, symbol, id, binding, aimed, names, around, found, rfl⟩
    exact absurd (nothing.symm.trans answer) (by simp)
  · intro unbound
    by_contra found
    obtain ⟨location, answer⟩ := Option.ne_none_iff_exists'.mp found
    obtain ⟨target, symbol, id, binding, aimed, names, around, bound, -⟩ :=
      definition?_eq_some_iff.mp answer
    exact unbound target symbol aimed names ⟨id, binding, around, bound⟩

theorem definition?_eq_iff (spans : module.Spans (source.location source.root)) {position : Position}
    (behind : source.documentEnd ≤ position) :
    definition? source module position = definition? source module source.documentEnd ↔
      position = source.documentEnd ∨ ∀ target symbol,
        source.targetAt? source.documentEnd = some target → Names source target symbol →
          ¬ module.Binds source.documentEnd symbol := by
  by_cases same : position = source.documentEnd
  · simp [same]
  have further := Position.lt_of_le_of_ne behind (Ne.symm same)
  have silent : definition? source module position = none := by
    rw [definition?_eq_none_iff]
    rintro target symbol - - ⟨id, binding, around, -⟩
    exact absurd (around.symm.trans (spans.scopeAt?_eq_none further)) (by simp)
  rw [silent, eq_comm, definition?_eq_none_iff]
  simp [same]

section

variable (bounded : source.Bounded) (spans : module.Spans (source.location source.root))
  {position : Position} (behind : source.documentEnd ≤ position)

include bounded spans behind

/-- Behind the end a declaration has no type, and all else has the type that it has at the end. -/
theorem hover?_eq_iff (docs : Documentation) :
    hover? source module docs position = hover? source module docs source.documentEnd ↔
      position = source.documentEnd ∨ ∀ declared,
        source.targetAt? source.documentEnd = some (.declaration declared) →
          ¬ module.Binds source.documentEnd (.declaration declared) := by
  by_cases same : position = source.documentEnd
  · simp [same]
  have further := Position.lt_of_le_of_ne behind (Ne.symm same)
  have outside := spans.scopeAt?_eq_none further
  have aimed := bounded.targetAt?_eq behind
  simp only [same, false_or]
  cases target : source.targetAt? source.documentEnd with
  | none => simp [hover?, aimed, target]
  | some target' =>
    cases target' with
    | expr id => simp [hover?, aimed, target, typeAt?]
    | declaration id =>
      have silent : hover? source module docs position = none := by
        simp [hover?, aimed, target, typeAt?, outside]
      rw [silent, eq_comm, hover?_eq_none_iff]
      simp [target, typeAt?_declaration_eq_none_iff]

/-- A position behind the end of the document leads to the nodes and the target that the end leads to,
all of which end there. Where every lookup in the scopes ends, it has the same hover exactly if no scope
binds the target, a declared local variable, and the same definition exactly if no scope binds the
symbol of the target. -/
theorem behind_documentEnd_iff (docs : Documentation) :
    source.coveringPath position = source.coveringPath source.documentEnd ∧
    (∀ id ∈ source.coveringPath position, (source.location id).stop = source.documentEnd) ∧
    source.targetAt? position = source.targetAt? source.documentEnd ∧
    (module.Acyclic →
      (∀ id symbol, ∃ visited,
        module.Walks (binds symbol) (some id) visited (module.lookup? id symbol)) ∧
      (hover? source module docs position = hover? source module docs source.documentEnd ↔
        position = source.documentEnd ∨ ∀ declared,
          source.targetAt? source.documentEnd = some (.declaration declared) →
            ¬ module.Binds source.documentEnd (.declaration declared)) ∧
      (hover? source module docs position = hover? source module docs source.documentEnd ∧
          definition? source module position = definition? source module source.documentEnd ↔
        position = source.documentEnd ∨ ∀ target symbol,
          source.targetAt? source.documentEnd = some target → Names source target symbol →
            ¬ module.Binds source.documentEnd symbol)) := by
  refine ⟨bounded.coveringPath_eq behind, fun id => bounded.stop_of_mem_coveringPath behind,
    bounded.targetAt?_eq behind, fun acyclic => ⟨exists_walks_lookup? acyclic,
      hover?_eq_iff bounded spans behind docs, ?_⟩⟩
  rw [hover?_eq_iff bounded spans behind docs, definition?_eq_iff spans behind]
  constructor
  · exact And.right
  · -- A declaration is its own symbol, so what holds of all symbols holds of it.
    intro unbound
    refine ⟨unbound.imp_right fun silent declared aimed => ?_, unbound⟩
    exact silent _ _ aimed (.declaration declared)

end

end Query

namespace Query.Final

open Syntax (Draft Source)

/-- The local variable of a file with one line. -/
def file (stop : Nat) : Checked where
  types := { entries := #[{ shape := .primitive .number }] }
  expressionTypes := .ofList [(0, 0)]
  scopes := #[
    { location := .onLine 0 0 stop
      bindings := .ofList [(.declaration 0, ⟨0, .onLine 0 6 7, none⟩)] }]

/-- `local x` -/
def declared : Source :=
  let named := (Draft.declare {} ⟨"x", .onLine 0 6 7, none⟩).2
  let statement := (named.add (.onLine 0 0 7) (.stat (.localDecl [0] []))).2
  statement.finish ⟨"main"⟩ (.onLine 0 0 7) [0]

/-- `local x return x` -/
def read : Source :=
  let named := (Draft.declare {} ⟨"x", .onLine 0 6 7, none⟩).2
  let value := (named.add (.onLine 0 15 16) (.expr (.localName 0))).2
  let statement := (value.add (.onLine 0 0 7) (.stat (.localDecl [0] []))).2
  let result := (statement.add (.onLine 0 8 16) (.stat (.result [0]))).2
  result.finish ⟨"main"⟩ (.onLine 0 0 16) [1, 2]

theorem acyclic_file (stop : Nat) : (file stop).Acyclic := by
  refine Checked.acyclic_of_falls id fun {id outer} up => ?_
  obtain _ | later := id <;> simp [Checked.parent?, Checked.scope?, file] at up

theorem spans_file (stop : Nat) : (file stop).Spans (.onLine 0 0 stop) := by
  refine ⟨rfl, fun {id scope} found => ?_⟩
  match id with
  | 0 =>
    obtain rfl := Option.some.inj found
    exact ⟨Position.le_refl _, Position.le_refl _⟩
  | later + 1 => simp [file, Checked.scope?] at found

end Query.Final

namespace Query

/-- A use keeps its hover behind the end of the document, and its definition is lost there. -/
theorem behind_documentEnd_iff_read :
    Final.read.Bounded ∧ (Final.file 16).Spans (Final.read.location Final.read.root) ∧
      Final.read.documentEnd ≤ ⟨3, 0⟩ ∧ (Final.file 16).Acyclic ∧
      Final.read.targetAt? ⟨3, 0⟩ = some (.expr 0) ∧
      hover? Final.read (Final.file 16) {} ⟨3, 0⟩ =
        hover? Final.read (Final.file 16) {} Final.read.documentEnd ∧
      ¬ (hover? Final.read (Final.file 16) {} ⟨3, 0⟩ =
          hover? Final.read (Final.file 16) {} Final.read.documentEnd ∧
        definition? Final.read (Final.file 16) ⟨3, 0⟩ =
          definition? Final.read (Final.file 16) Final.read.documentEnd) := by
  have bounded : Final.read.Bounded := by decide
  have spans : (Final.file 16).Spans (Final.read.location Final.read.root) := Final.spans_file 16
  have behind : Final.read.documentEnd ≤ ⟨3, 0⟩ := by decide
  have target : Final.read.targetAt? Final.read.documentEnd = some (.expr 0) := by decide
  obtain ⟨-, -, same, answers⟩ := behind_documentEnd_iff bounded spans behind {}
  obtain ⟨-, hover, both⟩ := answers (Final.acyclic_file 16)
  refine ⟨bounded, spans, behind, Final.acyclic_file 16, same.trans target,
    hover.mpr (Or.inr ?_), fun equal => ?_⟩
  · intro declared aimed
    exact absurd (target.symm.trans aimed) (by simp)
  · -- The scope of the file binds the variable at the end.
    rcases both.mp equal with at_end | unbound
    · exact absurd at_end (by decide)
    · exact unbound _ _ target (.localName rfl) ⟨0, _, by decide, rfl⟩

/-- Behind the end, a declaration that ends with the document has neither hover nor definition. -/
theorem behind_documentEnd_lost :
    Final.declared.Bounded ∧ (Final.file 7).Spans (Final.declared.location Final.declared.root) ∧
      Final.declared.documentEnd = ⟨0, 7⟩ ∧ (Final.file 7).Acyclic ∧
      hover? Final.declared (Final.file 7) {} ⟨0, 7⟩ =
        some ⟨Markdown.codeBlock "lua" "local x: number", .onLine 0 6 7⟩ ∧
      hover? Final.declared (Final.file 7) {} ⟨0, 8⟩ = none ∧
      definition? Final.declared (Final.file 7) ⟨0, 7⟩ = some (.onLine 0 6 7) ∧
      definition? Final.declared (Final.file 7) ⟨0, 8⟩ = none := by
  refine ⟨by decide, Final.spans_file 7, by decide, Final.acyclic_file 7, ?_, by decide, by decide,
    by decide⟩
  decide

end Query

end LuauWorkspace
