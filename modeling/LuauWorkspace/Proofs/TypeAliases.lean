import LuauWorkspace.Proofs.Scopes

/-!
# Aliases of written types

A type definition goes by one written reference: the one under the cursor, or the typing of the local
variable there. The name of the reference is looked up in the scopes around the place where it stands,
and leads to the alias of the nearest scope that has one. The module in front of the name is not looked
at, so `Types.Point` leads to an alias `Point` of the file itself where the scopes have one.
-/
namespace LuauWorkspace.Query

open Syntax (Source)

/-- The reference that a type definition goes by, as the module in front of it, if any, its name and
the place from where the name is looked up. -/
inductive Follows (source : Source) (position : Position) : Option String → String → Position → Prop
  | cursor {id : Syntax.NodeId} {qualifier : Option String} {name : String}
    (under : source.nodeAt? position = some id)
    (written : source.type? id = some (.reference qualifier name)) :
    Follows source position qualifier name position
  | typing {id typing : Syntax.NodeId} {target : Source.Target} {declared : Syntax.LocalId}
    {qualifier : Option String} {name : String} (under : source.nodeAt? position = some id)
    (other : ∀ qualifier name, source.type? id ≠ some (.reference qualifier name))
    (aimed : source.targetAt? position = some target)
    (reads : target.local? source = some declared) (typed : source.typing? declared = some typing)
    (written : source.type? typing = some (.reference qualifier name)) :
    Follows source position qualifier name (source.location typing).start

section Follows

variable {source : Source} {position : Position}

/-- There is one reference to go by. -/
theorem Follows.unique {one two : Option String} {name other : String} {place elsewhere : Position}
    (first : Follows source position one name place)
    (second : Follows source position two other elsewhere) :
    one = two ∧ name = other ∧ place = elsewhere := by
  cases first with
  | cursor under written =>
    cases second with
    | cursor again also =>
      obtain rfl := Option.some.inj (under.symm.trans again)
      obtain ⟨rfl, rfl⟩ := by simpa using written.symm.trans also
      exact ⟨rfl, rfl, rfl⟩
    | typing again none =>
      obtain rfl := Option.some.inj (under.symm.trans again)
      exact absurd written (none _ _)
  | typing under none aimed reads typed written =>
    cases second with
    | cursor again also =>
      obtain rfl := Option.some.inj (under.symm.trans again)
      exact absurd also (none _ _)
    | typing _ _ aimed' reads' typed' also =>
      obtain rfl := Option.some.inj (aimed.symm.trans aimed')
      obtain rfl := Option.some.inj (reads.symm.trans reads')
      obtain rfl := Option.some.inj (typed.symm.trans typed')
      obtain ⟨rfl, rfl⟩ := by simpa using written.symm.trans also
      exact ⟨rfl, rfl, rfl⟩

theorem annotatedType?_eq_some_iff {module : Checked} {location : Location} :
    annotatedType? source module position = some location ↔
      ∃ target declared typing qualifier name, source.targetAt? position = some target ∧
        target.local? source = some declared ∧ source.typing? declared = some typing ∧
        source.type? typing = some (.reference qualifier name) ∧
        aliasAt? module name (source.location typing).start = some location := by
  simp only [annotatedType?, Option.bind_eq_bind, Option.bind_eq_some_iff]
  constructor
  · rintro ⟨target, aimed, declared, reads, typing, typed, found⟩
    split at found
    next qualifier name written =>
      exact ⟨target, declared, typing, qualifier, name, aimed, reads, typed, written, found⟩
    · simp at found
  · rintro ⟨target, declared, typing, qualifier, name, aimed, reads, typed, written, found⟩
    refine ⟨target, aimed, declared, reads, typing, typed, ?_⟩
    simpa [written] using found

theorem typeDefinition?_eq_some_iff {module : Checked} {location : Location} :
    typeDefinition? source module position = some location ↔
      ∃ qualifier name place, Follows source position qualifier name place ∧
        aliasAt? module name place = some location := by
  simp only [typeDefinition?, Option.bind_eq_bind, Option.bind_eq_some_iff]
  constructor
  · rintro ⟨id, under, found⟩
    split at found
    next qualifier name written => exact ⟨qualifier, name, position, .cursor under written, found⟩
    next other =>
      obtain ⟨target, declared, typing, qualifier, name, aimed, reads, typed, written, answer⟩ :=
        annotatedType?_eq_some_iff.mp found
      exact ⟨qualifier, name, _, .typing under other aimed reads typed written, answer⟩
  · rintro ⟨qualifier, name, place, follows, found⟩
    cases follows with
    | cursor under written => exact ⟨_, under, by simpa [written] using found⟩
    | typing under other aimed reads typed written =>
      refine ⟨_, under, ?_⟩
      split
      next qualifier name also => exact absurd also (other qualifier name)
      · exact annotatedType?_eq_some_iff.mpr
          ⟨_, _, _, qualifier, name, aimed, reads, typed, written, found⟩

end Follows

theorem aliasAt?_eq_some_iff {module : Checked} (acyclic : module.Acyclic) {name : String}
    {place : Position} {location : Location} :
    aliasAt? module name place = some location ↔ ∃ id holder, module.Innermost place id ∧
      module.Nearest (aliases name) id holder location := by
  simp only [aliasAt?, Option.bind_eq_some_iff, Checked.scopeAt?_eq_some_iff]
  constructor
  · rintro ⟨id, innermost, found⟩
    obtain ⟨holder, nearest⟩ :=
      (acyclic.answer?_walkFrom_eq_some_iff (aliases name) location).mp found
    exact ⟨id, holder, innermost, nearest⟩
  · rintro ⟨id, holder, innermost, nearest⟩
    exact ⟨id, innermost,
      (acyclic.answer?_walkFrom_eq_some_iff (aliases name) location).mpr ⟨holder, nearest⟩⟩

theorem aliasAt?_eq_none_iff {module : Checked} (acyclic : module.Acyclic) {name : String}
    {place : Position} :
    aliasAt? module name place = none ↔ ∀ id, module.Innermost place id →
      ∀ outer, module.Within id outer → (module.scope? outer).bind (aliases name) = none := by
  rw [aliasAt?, Option.bind_eq_none_iff]
  simp only [Checked.scopeAt?_eq_some_iff]
  exact forall₂_congr fun id _ => acyclic.answer?_walkFrom_eq_none_iff (aliases name)

/-- A type definition is the nearest alias around the reference it goes by. That reference has no
module in front of it, whatever the answer, exactly if no scope around a reference to another module
has an alias of its name. -/
theorem typeDefinition_nearest_iff {module : Checked} (acyclic : module.Acyclic) (source : Source)
    (position : Position) :
    (∀ location, typeDefinition? source module position = some location ↔
      ∃ qualifier name place id holder, Follows source position qualifier name place ∧
        module.Innermost place id ∧ module.Nearest (aliases name) id holder location) ∧
    ((∀ location, typeDefinition? source module position = some location →
      ∃ name place id holder, Follows source position none name place ∧
        module.Innermost place id ∧ module.Nearest (aliases name) id holder location) ↔
      ∀ qualifier name place, Follows source position (some qualifier) name place →
        ∀ id, module.Innermost place id → ∀ outer, module.Within id outer →
          (module.scope? outer).bind (aliases name) = none) := by
  have answers : ∀ location, typeDefinition? source module position = some location ↔
      ∃ qualifier name place id holder, Follows source position qualifier name place ∧
        module.Innermost place id ∧ module.Nearest (aliases name) id holder location := by
    intro location
    simp only [typeDefinition?_eq_some_iff, aliasAt?_eq_some_iff acyclic, exists_and_left]
  refine ⟨answers, ?_, ?_⟩
  · intro plain qualifier name place follows
    rw [← aliasAt?_eq_none_iff acyclic]
    by_contra found
    obtain ⟨location, leads⟩ := Option.ne_none_iff_exists'.mp found
    -- The answer would come from a reference without a module, but there is only this one.
    obtain ⟨other, elsewhere, -, -, bare, -⟩ :=
      plain location (typeDefinition?_eq_some_iff.mpr ⟨_, name, place, follows, leads⟩)
    exact absurd (follows.unique bare).1 (by simp)
  · intro silent location found
    obtain ⟨qualifier, name, place, id, holder, follows, innermost, nearest⟩ :=
      (answers location).mp found
    cases qualifier with
    | none => exact ⟨name, place, id, holder, follows, innermost, nearest⟩
    | some qualifier =>
      have nothing := silent qualifier name place follows id innermost holder nearest.within
      exact absurd (nothing.symm.trans nearest.holds) (by simp)

namespace Annotated

open Syntax (Draft)

/-- `type Point = number`, and below it `local p: Point` with a module in front of the name or without
one. -/
def source (qualifier : Option String) : Source :=
  let number := (Draft.add {} (.onLine 0 13 19) (.type (.reference none "number"))).2
  let named := (number.add (.onLine 0 0 19) (.stat (.typeAlias "Point" 0))).2
  let typed := (named.add (.onLine 1 9 20) (.type (.reference qualifier "Point"))).2
  let declared := (typed.declare ⟨"p", .onLine 1 6 7, some 2⟩).2
  let statement := (declared.add (.onLine 1 0 20) (.stat (.localDecl [0] []))).2
  statement.finish ⟨"main"⟩ ⟨⟨0, 0⟩, ⟨1, 20⟩⟩ [1, 3]

/-- One scope with the alias of the first line. -/
def file : Checked where
  scopes := #[{ location := ⟨⟨0, 0⟩, ⟨1, 20⟩⟩, aliases := .ofList [("Point", .onLine 0 0 19)] }]

/-- A scope of the second line with an alias of its own, added before the one around it. -/
def nested : Checked where
  scopes := #[
    { parent := some 1
      location := .onLine 1 0 20
      aliases := .ofList [("Point", .onLine 7 0 5)] },
    { location := ⟨⟨0, 0⟩, ⟨1, 20⟩⟩
      aliases := .ofList [("Point", .onLine 0 0 19)] }]

theorem acyclic_nested : nested.Acyclic := by
  refine Checked.acyclic_of_falls (fun id => 1 - id) fun {id outer} up => ?_
  match id with
  | 0 =>
    obtain rfl : 1 = outer := by simpa [nested, Checked.parent?, Checked.scope?] using up
    decide
  | 1 => simp [nested, Checked.parent?, Checked.scope?] at up
  | later + 2 => simp [nested, Checked.parent?, Checked.scope?] at up

/-- The typing of the variable, reached from the variable. -/
theorem follows_typing (qualifier : Option String) :
    Follows (source qualifier) ⟨1, 6⟩ qualifier "Point" ⟨1, 9⟩ := by
  have under : (source qualifier).nodeAt? ⟨1, 6⟩ = some 3 := by cases qualifier <;> rfl
  have aimed : (source qualifier).targetAt? ⟨1, 6⟩ = some (.declaration 0) := by
    cases qualifier <;> rfl
  have typed : (source qualifier).typing? 0 = some 2 := rfl
  refine .typing under (fun _ _ => ?_) aimed rfl typed rfl
  simp [source, Source.type?, Source.node?, Draft.finish, Draft.add, Draft.declare]

end Annotated

/-- From the variable to the alias that is nearest to its typing, by a reference without a module. -/
theorem typeDefinition_nearest_iff_shadowed :
    Annotated.nested.Acyclic ∧ ¬ Annotated.nested.Nested ∧
      typeDefinition? (Annotated.source none) Annotated.nested ⟨1, 6⟩ = some (.onLine 7 0 5) ∧
      ∃ name place id holder, Follows (Annotated.source none) ⟨1, 6⟩ none name place ∧
        Annotated.nested.Innermost place id ∧
        Annotated.nested.Nearest (aliases name) id holder (.onLine 7 0 5) := by
  have found : typeDefinition? (Annotated.source none) Annotated.nested ⟨1, 6⟩ =
      some (.onLine 7 0 5) := by decide
  have plain :=
    (typeDefinition_nearest_iff Annotated.acyclic_nested (Annotated.source none) ⟨1, 6⟩).2.mpr
  refine ⟨Annotated.acyclic_nested, by decide, found, plain (fun _ _ _ follows => ?_) _ found⟩
  -- The only reference to go by is the typing, which has no module in front of it.
  exact absurd ((Annotated.follows_typing none).unique follows).1 (by simp)

/-- The type of another module leads to an alias of the file, from the reference as from the variable. -/
theorem typeDefinition_qualified :
    Annotated.file.Acyclic ∧
      (typeDefinition? (Annotated.source (some "Types")) Annotated.file ⟨1, 10⟩ =
          some (.onLine 0 0 19) ∧
        Follows (Annotated.source (some "Types")) ⟨1, 10⟩ (some "Types") "Point" ⟨1, 10⟩ ∧
        ∀ name place, ¬ Follows (Annotated.source (some "Types")) ⟨1, 10⟩ none name place) ∧
      typeDefinition? (Annotated.source (some "Types")) Annotated.file ⟨1, 6⟩ =
          some (.onLine 0 0 19) ∧
        Follows (Annotated.source (some "Types")) ⟨1, 6⟩ (some "Types") "Point" ⟨1, 9⟩ ∧
        ∀ name place, ¬ Follows (Annotated.source (some "Types")) ⟨1, 6⟩ none name place := by
  have only : ∀ {position place : Position},
      Follows (Annotated.source (some "Types")) position (some "Types") "Point" place →
        ∀ name other, ¬ Follows (Annotated.source (some "Types")) position none name other :=
    fun follows _ _ plain => absurd (follows.unique plain).1 (by simp)
  have under : (Annotated.source (some "Types")).nodeAt? ⟨1, 10⟩ = some 2 := by decide
  have cursor : Follows (Annotated.source (some "Types")) ⟨1, 10⟩ (some "Types") "Point" ⟨1, 10⟩ :=
    .cursor under rfl
  have typing := Annotated.follows_typing (some "Types")
  have nested : Annotated.file.Nested := by decide
  exact ⟨nested.acyclic, ⟨by decide, cursor, only cursor⟩, by decide, typing, only typing⟩

end LuauWorkspace.Query
