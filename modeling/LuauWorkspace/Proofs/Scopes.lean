import LuauWorkspace.Proofs.Scans
import LuauWorkspace.Proofs.Walks
import LuauWorkspace.Query.Definition

/-!
# Nested scopes

Scopes are added parents first and lie within their parents. Then whatever starts last around a
position, and of those that start together the one added last, has no scope around the position below
it, since a scope below starts no earlier and was added later. No scope lies around itself, so a walk
through the scopes around a scope ends, and its answer is that of the nearest scope: every other scope
on the way that has one lies around it.
-/
namespace LuauWorkspace

namespace Position

theorem le_trans {a b c : Position} (first : a ≤ b) (second : b ≤ c) : a ≤ c := by
  simp only [le_iff] at *
  omega

theorem le_of_not_le {a b : Position} (apart : ¬ a ≤ b) : b ≤ a := by
  simp only [le_iff] at *
  omega

end Position

namespace Checked

variable (module : Checked)

/-! ## Scopes around scopes -/

/-- No scope lies around itself. -/
def Acyclic : Prop := ∀ id, ¬ module.Below id id

/-- A scope whose location, its end included, holds the position. -/
def Around (position : Position) (id : ScopeId) : Prop :=
  ∃ scope, module.scope? id = some scope ∧ scope.location.containsClosed position = true

/-- Parents come first, and a scope lies within its parent. -/
structure Nested : Prop where
  earlier : ∀ {id outer}, module.parent? id = some outer → outer < id
  inside : ∀ {id outer inner around}, module.parent? id = some outer →
    module.scope? id = some inner → module.scope? outer = some around →
      around.location.start ≤ inner.location.start ∧ inner.location.stop ≤ around.location.stop

variable {module}

theorem exists_scope?_of_lt {id : ScopeId} (bound : id < module.scopes.size) :
    ∃ scope, module.scope? id = some scope := ⟨_, Array.getElem?_eq_getElem bound⟩

/-- Only the scopes that there are need to be looked at. -/
theorem nested_iff : module.Nested ↔ ∀ id < module.scopes.size, ∀ inner ∈ module.scope? id,
    ∀ outer ∈ inner.parent, outer < id ∧ ∀ around ∈ module.scope? outer,
      around.location.start ≤ inner.location.start ∧
        inner.location.stop ≤ around.location.stop := by
  constructor
  · intro nested id _ inner found outer parent
    have up : module.parent? id = some outer := Option.bind_eq_some_iff.mpr ⟨inner, found, parent⟩
    exact ⟨nested.earlier up, fun around there => nested.inside up found there⟩
  · intro checked
    constructor
    · intro id outer up
      obtain ⟨inner, found, parent⟩ := Option.bind_eq_some_iff.mp up
      exact (checked id (lt_size_of_scope? found) inner found outer parent).1
    · intro id outer inner around up found there
      obtain ⟨again, same, parent⟩ := Option.bind_eq_some_iff.mp up
      obtain rfl : inner = again := Option.some.inj (found.symm.trans same)
      exact (checked id (lt_size_of_scope? found) inner found outer parent).2 around there

instance : Decidable module.Nested := decidable_of_iff _ nested_iff.symm

/-- Nothing lies around itself where something falls from each scope to its parent. -/
theorem acyclic_of_falls (rank : ScopeId → Nat)
    (falls : ∀ {id outer}, module.parent? id = some outer → rank outer < rank id) :
    module.Acyclic := by
  have lower : ∀ {id outer : ScopeId}, module.Below id outer → rank outer < rank id := by
    intro id outer below
    induction below with
    | single up => exact falls up
    | tail _ up ih => exact Nat.lt_trans (falls up) ih
  exact fun id around => Nat.lt_irrefl _ (lower around)

theorem Nested.acyclic (nested : module.Nested) : module.Acyclic :=
  acyclic_of_falls id nested.earlier

namespace Nested

variable (nested : module.Nested)

include nested

theorem exists_parent {id outer : ScopeId} (up : module.parent? id = some outer) :
    ∃ inner around, module.scope? id = some inner ∧ module.scope? outer = some around := by
  obtain ⟨inner, found, -⟩ := Option.bind_eq_some_iff.mp up
  obtain ⟨around, there⟩ :=
    exists_scope?_of_lt (Nat.lt_trans (nested.earlier up) (lt_size_of_scope? found))
  exact ⟨inner, around, found, there⟩

/-- Further out, scopes have smaller ids and wider locations. -/
theorem of_within {id outer : ScopeId} (within : module.Within id outer) {inner : Scope}
    (found : module.scope? id = some inner) :
    ∃ around, module.scope? outer = some around ∧ outer ≤ id ∧
      around.location.start ≤ inner.location.start ∧
      inner.location.stop ≤ around.location.stop := by
  induction within with
  | refl => exact ⟨inner, found, Nat.le_refl _, by simp [Position.le_iff], by simp [Position.le_iff]⟩
  | tail _ up ih =>
    obtain ⟨between, there, older, starts, stops⟩ := ih
    obtain ⟨_, around, -, further⟩ := nested.exists_parent up
    have wider := nested.inside up there further
    refine ⟨around, further, Nat.le_trans (Nat.le_of_lt (nested.earlier up)) older, ?_, ?_⟩
    · exact Position.le_trans wider.1 starts
    · exact Position.le_trans stops wider.2

theorem around_of_within {position : Position} {id outer : ScopeId}
    (within : module.Within id outer) (here : module.Around position id) :
    module.Around position outer := by
  obtain ⟨inner, found, holds⟩ := here
  obtain ⟨around, there, -, starts, stops⟩ := nested.of_within within found
  rw [Location.containsClosed_iff] at holds
  refine ⟨around, there, (Location.containsClosed_iff _ _).mpr ⟨?_, ?_⟩⟩
  · exact Position.le_trans starts holds.1
  · exact Position.le_trans holds.2 stops

end Nested

/-! ## The innermost scope -/

/-- The scopes with their ids. -/
def numbered (module : Checked) : List (ScopeId × Scope) :=
  (List.range module.scopes.size).zip module.scopes.toList

theorem mem_numbered_iff {entry : ScopeId × Scope} :
    entry ∈ module.numbered ↔ module.scope? entry.1 = some entry.2 := by
  rw [numbered, ← Array.length_toList, mem_zip_range_iff, Array.getElem?_toList, scope?]

theorem pairwise_numbered (module : Checked) :
    module.numbered.Pairwise fun one two => one.1 < two.1 := by
  have ids : module.numbered.map Prod.fst = List.range module.scopes.size :=
    List.map_fst_zip (by simp)
  rw [← List.pairwise_map (f := Prod.fst), ids]
  exact List.pairwise_lt_range

/-- No entry with a later id starts where this one starts or behind. -/
def Inmost (entries : List (ScopeId × Scope)) (entry : ScopeId × Scope) : Prop :=
  entry ∈ entries ∧
    ∀ other ∈ entries, entry.2.location.start ≤ other.2.location.start → other.1 ≤ entry.1

theorem inner_eq : inner = keepLast fun entry => entry.2.location.start := by
  funext best next
  cases best <;> rfl

/-- Of entries with growing ids, the scan keeps one that no other starts behind and that no later entry
beats. -/
theorem foldl_inner_cases (entries : List (ScopeId × Scope))
    (ordered : entries.Pairwise fun one two => one.1 < two.1) :
    entries = [] ∧ entries.foldl inner none = none ∨
      ∃ entry, Inmost entries entry ∧
        (∀ other ∈ entries, other.2.location.start ≤ entry.2.location.start) ∧
        entries.foldl inner none = some entry := by
  rw [inner_eq]
  refine (foldl_keepLast_cases Position.le_trans Position.le_of_not_le entries).imp_right ?_
  rintro ⟨best, last, scanned⟩
  refine ⟨best, ⟨last.mem, fun other member behind => ?_⟩, last.bounds, scanned⟩
  obtain ⟨before, after, rfl, sooner⟩ := last.place
  obtain ⟨-, -, younger⟩ := List.pairwise_append.mp ordered
  -- What was added later starts sooner, or the scan would have taken it.
  rcases List.mem_append.mp member with earlier | here
  · exact Nat.le_of_lt (younger other earlier best (List.mem_cons_self ..))
  · rcases List.mem_cons.mp here with rfl | later
    · exact Nat.le_refl _
    · exact absurd behind (sooner other later)

/-- Of the scopes around a position the one that starts last, and of those that start there the one
added last. -/
structure Innermost (module : Checked) (position : Position) (id : ScopeId) : Prop where
  around : module.Around position id
  latest : ∀ {scope other outside}, module.scope? id = some scope →
    module.scope? other = some outside → module.Around position other →
      outside.location.start ≤ scope.location.start ∧
        (scope.location.start ≤ outside.location.start → other ≤ id)

theorem Innermost.unique {position : Position} {one two : ScopeId}
    (first : module.Innermost position one) (second : module.Innermost position two) :
    one = two := by
  obtain ⟨scope, found, -⟩ := first.around
  obtain ⟨other, there, -⟩ := second.around
  have forward := first.latest found there second.around
  have back := second.latest there found first.around
  exact Nat.le_antisymm (back.2 forward.1) (forward.2 back.1)

/-- The scan finds nothing if nothing lies around the position, and else the innermost scope there. -/
theorem scopeAt?_cases (module : Checked) (position : Position) :
    (∀ id, ¬ module.Around position id) ∧ module.scopeAt? position = none ∨
      ∃ id, module.Innermost position id ∧ module.scopeAt? position = some id := by
  let around := module.numbered.filter fun entry => entry.2.location.containsClosed position
  have mem_around : ∀ {id : ScopeId} {scope : Scope}, (id, scope) ∈ around ↔
      module.scope? id = some scope ∧ scope.location.containsClosed position = true := by
    intro id scope
    rw [List.mem_filter, mem_numbered_iff]
  have scan : module.scopeAt? position = (around.foldl inner none).map (·.1) := rfl
  rcases foldl_inner_cases around ((pairwise_numbered module).filter _) with
    ⟨nothing, scanned⟩ | ⟨⟨id, scope⟩, ⟨member, inmost⟩, behind, scanned⟩
  · refine Or.inl ⟨?_, by rw [scan, scanned]; rfl⟩
    rintro id ⟨scope, here⟩
    have member := mem_around.mpr here
    rw [nothing] at member
    simp at member
  · obtain ⟨found, holds⟩ := mem_around.mp member
    refine Or.inr ⟨id, ⟨⟨scope, found, holds⟩, ?_⟩, by rw [scan, scanned]; rfl⟩
    rintro same other outside at_id there ⟨again, also, touches⟩
    obtain rfl : scope = same := Option.some.inj (found.symm.trans at_id)
    obtain rfl : outside = again := Option.some.inj (there.symm.trans also)
    have listed : (other, outside) ∈ around := mem_around.mpr ⟨there, touches⟩
    exact ⟨behind _ listed, inmost _ listed⟩

theorem scopeAt?_eq_some_iff (module : Checked) {position : Position} {id : ScopeId} :
    module.scopeAt? position = some id ↔ module.Innermost position id := by
  rcases scopeAt?_cases module position with ⟨nothing, same⟩ | ⟨other, innermost, same⟩
  · simp only [same, reduceCtorEq, false_iff]
    exact fun one => nothing id one.around
  · simp only [same, Option.some.injEq]
    constructor
    · rintro rfl
      exact innermost
    · exact innermost.unique

theorem scopeAt?_eq_none_iff (module : Checked) (position : Position) :
    module.scopeAt? position = none ↔ ∀ id, ¬ module.Around position id := by
  rcases scopeAt?_cases module position with ⟨nothing, same⟩ | ⟨id, innermost, same⟩
  · simp [same, nothing]
  · simp only [same, reduceCtorEq, false_iff, not_forall, not_not]
    exact ⟨id, innermost.around⟩

theorem around_of_scopeAt? {position : Position} {id : ScopeId}
    (found : module.scopeAt? position = some id) : module.Around position id :=
  ((scopeAt?_eq_some_iff module).mp found).around

/-- What is found is innermost: a scope below it would start no earlier and have a later id. -/
theorem Nested.not_around_below (nested : module.Nested) {position : Position} {id below : ScopeId}
    (found : module.scopeAt? position = some id) (within : module.Within below id)
    (other : below ≠ id) : ¬ module.Around position below := by
  rintro ⟨inner, stands, touches⟩
  have innermost := (scopeAt?_eq_some_iff module).mp found
  -- The scope below starts no earlier, so the scan would have preferred it.
  obtain ⟨around, outside, older, starts, -⟩ := nested.of_within within stands
  have younger := (innermost.latest outside stands ⟨inner, stands, touches⟩).2 starts
  exact other (Nat.le_antisymm younger older)

/-! ## The nearest answer -/

/-- A scope on the way out that has an answer, with every other one that has any around it. -/
structure Nearest {α : Type} (module : Checked) (pick : Scope → Option α) (id holder : ScopeId)
    (answer : α) : Prop where
  within : module.Within id holder
  holds : (module.scope? holder).bind pick = some answer
  outer : ∀ other, module.Within id other → ((module.scope? other).bind pick).isSome = true →
    module.Within holder other

/-- Two nearest scopes lie around each other. -/
theorem Nearest.unique (acyclic : module.Acyclic) {α : Type} {pick : Scope → Option α}
    {id one two : ScopeId} {first second : α} (left : module.Nearest pick id one first)
    (right : module.Nearest pick id two second) : one = two ∧ first = second := by
  have outward := left.outer two right.within (by simp [right.holds])
  have inward := right.outer one left.within (by simp [left.holds])
  obtain rfl : one = two := by
    rcases Relation.reflTransGen_iff_eq_or_transGen.mp outward with same | around
    · exact same.symm
    · -- Around the other and back would be a way from a scope to itself.
      exact absurd (around.trans_left inward) (acyclic one)
  exact ⟨rfl, Option.some.inj (left.holds.symm.trans right.holds)⟩

/-- A walk that ends has found the nearest answer, or went all the way out without one. -/
theorem Walks.nearest_cases {α : Type} {pick : Scope → Option α} {start : Option ScopeId}
    {visited : List ScopeId} {answer : Option α} (walks : module.Walks pick start visited answer)
    {id : ScopeId} (here : start = some id) :
    (∃ holder found, module.Nearest pick id holder found ∧ answer = some found) ∨
    (∀ other, module.Within id other → (module.scope? other).bind pick = none) ∧ answer = none := by
  induction walks generalizing id with
  | outside absent =>
    subst here
    have nowhere : module.scope? id = none := absent
    refine .inr ⟨fun other within => ?_, rfl⟩
    obtain rfl := eq_of_within (by simp [parent?, nowhere]) within
    rw [nowhere, Option.bind_none]
  | @own id scope answer there holds =>
    cases here
    exact .inl ⟨id, answer, ⟨.refl, by simp [there, holds], fun _ within _ => within⟩, rfl⟩
  | @further id scope visited answer there silent rest ih =>
    cases here
    have own : (module.scope? id).bind pick = none := by simp [there, silent]
    have parent : module.parent? id = scope.parent := by simp [parent?, there]
    cases up : scope.parent with
    | none =>
      rw [up] at parent rest
      obtain rfl : answer = none := (rest.unique (.outside rfl)).2
      refine .inr ⟨fun other within => ?_, rfl⟩
      obtain rfl := eq_of_within parent within
      exact own
    | some outer =>
      rw [up] at parent
      rcases ih up with ⟨holder, found, nearest, rfl⟩ | ⟨nothing, rfl⟩
      · refine .inl ⟨holder, found, ⟨.head parent nearest.within, nearest.holds, ?_⟩, rfl⟩
        intro other within answers
        rcases (within_iff_of_parent parent).mp within with rfl | around
        · simp [own] at answers
        · exact nearest.outer other around answers
      · refine .inr ⟨fun other within => ?_, rfl⟩
        rcases (within_iff_of_parent parent).mp within with rfl | around
        · exact own
        · exact nothing other around

/-- Where no scope lies around itself every walk ends. -/
theorem Acyclic.exists_walks (acyclic : module.Acyclic) {α : Type} (pick : Scope → Option α)
    (id : ScopeId) : ∃ visited answer, module.Walks pick (some id) visited answer := by
  refine (module.ends_iff_not_circles pick id).1.mpr fun circles => ?_
  obtain ⟨back, -, round⟩ := circles.back
  exact acyclic back round

theorem Acyclic.walkFrom_cases (acyclic : module.Acyclic) {α : Type} (pick : Scope → Option α)
    (id : ScopeId) :
    (∃ holder answer, module.Nearest pick id holder answer ∧
      module.walkFrom pick id = .found answer) ∨
    (∀ other, module.Within id other → (module.scope? other).bind pick = none) ∧
      module.walkFrom pick id = .absent := by
  obtain ⟨visited, answer, walks⟩ := acyclic.exists_walks pick id
  rw [walks.walkFrom_eq]
  rcases walks.nearest_cases rfl with ⟨holder, found, nearest, rfl⟩ | ⟨nothing, rfl⟩
  · exact .inl ⟨holder, found, nearest, rfl⟩
  · exact .inr ⟨nothing, rfl⟩

theorem Acyclic.answer?_walkFrom_eq_some_iff (acyclic : module.Acyclic) {α : Type}
    (pick : Scope → Option α) {id : ScopeId} (answer : α) :
    (module.walkFrom pick id).answer? = some answer ↔
      ∃ holder, module.Nearest pick id holder answer := by
  rcases acyclic.walkFrom_cases pick id with ⟨holder, found, nearest, walked⟩ | ⟨nothing, walked⟩
  · rw [walked, Walk.answer?, Option.some.injEq]
    constructor
    · rintro rfl
      exact ⟨holder, nearest⟩
    · rintro ⟨other, again⟩
      exact (nearest.unique acyclic again).2
  · rw [walked, Walk.answer?]
    simp only [reduceCtorEq, false_iff, not_exists]
    intro holder nearest
    have holds := nearest.holds
    rw [nothing holder nearest.within] at holds
    simp at holds

theorem Acyclic.answer?_walkFrom_eq_none_iff (acyclic : module.Acyclic) {α : Type}
    (pick : Scope → Option α) {id : ScopeId} :
    (module.walkFrom pick id).answer? = none ↔
      ∀ other, module.Within id other → (module.scope? other).bind pick = none := by
  rcases acyclic.walkFrom_cases pick id with ⟨holder, found, nearest, walked⟩ | ⟨nothing, walked⟩
  · rw [walked, Walk.answer?]
    simp only [reduceCtorEq, false_iff, not_forall]
    exact ⟨holder, nearest.within, by simp [nearest.holds]⟩
  · rw [walked, Walk.answer?]
    simpa using nothing

end Checked

namespace Query

open Syntax (Source)

/-- What an expression or a declaration is called in the scopes. -/
inductive Names (source : Source) : Source.Target → Symbol → Prop
  | declaration (id : Syntax.LocalId) : Names source (.declaration id) (.declaration id)
  | localName {id : Syntax.NodeId} {read : Syntax.LocalId}
    (reads : source.expr? id = some (.localName read)) : Names source (.expr id) (.declaration read)
  | globalName {id : Syntax.NodeId} {name : String}
    (reads : source.expr? id = some (.globalName name)) : Names source (.expr id) (.globalName name)

theorem symbolAt?_eq_some_iff (source : Source) (target : Source.Target) (symbol : Symbol) :
    symbolAt? source target = some symbol ↔ Names source target symbol := by
  constructor
  · intro read
    unfold symbolAt? at read
    split at read
    · cases read
      exact .declaration _
    · split at read
      next found =>
        cases read
        exact .localName found
      next found =>
        cases read
        exact .globalName found
      · simp at read
  · rintro (_ | reads | reads)
    · rfl
    · simp [symbolAt?, reads]
    · simp [symbolAt?, reads]

theorem definition?_eq_some_iff {source : Source} {module : Checked} {position : Position}
    {location : Location} :
    definition? source module position = some location ↔ ∃ target symbol id binding,
      source.targetAt? position = some target ∧ Names source target symbol ∧
        module.scopeAt? position = some id ∧ module.lookup? id symbol = some binding ∧
        binding.location = location := by
  simp only [definition?, Option.bind_eq_bind, Option.bind_eq_some_iff, Option.pure_def,
    Option.some.injEq, symbolAt?_eq_some_iff]
  constructor
  · rintro ⟨target, aimed, symbol, names, id, around, binding, found, place⟩
    exact ⟨target, symbol, id, binding, aimed, names, around, found, place⟩
  · rintro ⟨target, symbol, id, binding, aimed, names, around, found, place⟩
    exact ⟨target, aimed, symbol, names, id, around, binding, found, place⟩

/-- The scope that is found is the innermost one around the position, and a definition is that of the
nearest scope from there outward that binds the symbol. -/
theorem definition_nearest {module : Checked} (nested : module.Nested) (source : Source)
    (position : Position) :
    (module.scopeAt? position = none ↔ ∀ id, ¬ module.Around position id) ∧
    (∀ id, module.scopeAt? position = some id →
      module.Around position id ∧ (∀ outer, module.Within id outer → module.Around position outer) ∧
        ∀ below, module.Within below id → below ≠ id → ¬ module.Around position below) ∧
    (∀ location, definition? source module position = some location ↔
      ∃ target symbol id holder binding, source.targetAt? position = some target ∧
        Names source target symbol ∧ module.scopeAt? position = some id ∧
        module.Nearest (binds symbol) id holder binding ∧ module.Around position holder ∧
        binding.location = location) ∧
    (∀ target symbol id, source.targetAt? position = some target → Names source target symbol →
      module.scopeAt? position = some id →
        (definition? source module position = none ↔ ∀ outer, module.Within id outer →
          (module.scope? outer).bind (binds symbol) = none)) := by
  have outward : ∀ {id outer : ScopeId}, module.scopeAt? position = some id →
      module.Within id outer → module.Around position outer := fun around within =>
    nested.around_of_within within (Checked.around_of_scopeAt? around)
  refine ⟨Checked.scopeAt?_eq_none_iff module position, fun id around => ?_, fun location => ?_, ?_⟩
  · exact ⟨Checked.around_of_scopeAt? around, fun outer => outward around,
      fun below within other => nested.not_around_below around within other⟩
  · rw [definition?_eq_some_iff]
    constructor
    · rintro ⟨target, symbol, id, binding, aimed, names, around, found, place⟩
      obtain ⟨holder, nearest⟩ :=
        (nested.acyclic.answer?_walkFrom_eq_some_iff (binds symbol) binding).mp found
      exact ⟨target, symbol, id, holder, binding, aimed, names, around, nearest,
        outward around nearest.within, place⟩
    · rintro ⟨target, symbol, id, holder, binding, aimed, names, around, nearest, -, place⟩
      refine ⟨target, symbol, id, binding, aimed, names, around, ?_, place⟩
      exact (nested.acyclic.answer?_walkFrom_eq_some_iff (binds symbol) binding).mpr
        ⟨holder, nearest⟩
  · intro target symbol id aimed names around
    rw [← nested.acyclic.answer?_walkFrom_eq_none_iff (binds symbol)]
    change _ ↔ module.lookup? id symbol = none
    have named := (symbolAt?_eq_some_iff source target symbol).mpr names
    cases found : module.lookup? id symbol <;> simp [definition?, aimed, named, around, found]

namespace Shadowed

/-- A file whose function binds a name that the file binds too; a block next to the function binds it
once more. -/
def module : Checked where
  scopes := #[
    { location := ⟨⟨0, 0⟩, ⟨9, 0⟩⟩
      bindings := .ofList [(.globalName "n", ⟨0, .onLine 0 6 7, none⟩)] },
    { parent := some 0
      location := ⟨⟨2, 0⟩, ⟨4, 3⟩⟩
      bindings := .ofList [(.globalName "n", ⟨0, .onLine 2 9 10, none⟩)] },
    { parent := some 1
      location := ⟨⟨3, 0⟩, ⟨4, 0⟩⟩ },
    { parent := some 0
      location := ⟨⟨4, 3⟩, ⟨6, 0⟩⟩
      bindings := .ofList [(.globalName "n", ⟨0, .onLine 5 0 1, none⟩)] }]

def source : Source :=
  let read := (Syntax.Draft.add {} (.onLine 3 4 5) (.expr (.globalName "n"))).2
  read.finish ⟨"main"⟩ ⟨⟨0, 0⟩, ⟨9, 0⟩⟩ [0]

end Shadowed

/-- In a block of a function, the binding of the function hides that of the file. -/
theorem definition_nearest_shadowed :
    Shadowed.module.Nested ∧ Shadowed.module.scopeAt? ⟨3, 4⟩ = some 2 ∧
      definition? Shadowed.source Shadowed.module ⟨3, 4⟩ = some (.onLine 2 9 10) ∧
      ∃ symbol holder binding, Shadowed.module.Nearest (binds symbol) 2 holder binding ∧
        Shadowed.module.Around ⟨3, 4⟩ holder ∧ binding.location = .onLine 2 9 10 := by
  have nested : Shadowed.module.Nested := by decide
  have inmost : Shadowed.module.scopeAt? ⟨3, 4⟩ = some 2 := by decide
  have found : definition? Shadowed.source Shadowed.module ⟨3, 4⟩ = some (.onLine 2 9 10) := by
    decide
  obtain ⟨-, -, held, -⟩ := definition_nearest nested Shadowed.source ⟨3, 4⟩
  obtain ⟨target, symbol, id, holder, binding, -, -, around, nearest, here, place⟩ :=
    (held (.onLine 2 9 10)).mp found
  obtain rfl : 2 = id := Option.some.inj (inmost.symm.trans around)
  exact ⟨nested, inmost, found, symbol, holder, binding, nearest, here, place⟩

end Query

end LuauWorkspace
