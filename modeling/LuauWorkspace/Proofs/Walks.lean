import LuauWorkspace.Checked
import Mathlib.Data.List.Perm.Subperm
import Mathlib.Logic.Relation

/-!
# Walks without a budget

A walk without a budget goes on while the scope where it is has a parent and no answer. If it ends,
it never comes to a scope twice, since it would do there what it did before; so a budget of as many
scopes as there are is enough for every walk that ends. The others circle: they come back to a scope,
and nowhere on their way is an answer.
-/
namespace LuauWorkspace

namespace Checked

variable (module : Checked)

/-! ## The way out of a scope -/

def parent? (id : ScopeId) : Option ScopeId := (module.scope? id).bind (·.parent)

/-- The second scope is the first one or one of those around it. -/
def Within : ScopeId → ScopeId → Prop :=
  Relation.ReflTransGen fun id outer => module.parent? id = some outer

/-- The second scope is one of those around the first one. -/
def Below : ScopeId → ScopeId → Prop :=
  Relation.TransGen fun id outer => module.parent? id = some outer

variable {module}

theorem lt_size_of_scope? {id : ScopeId} {scope : Scope} (found : module.scope? id = some scope) :
    id < module.scopes.size := by
  simp only [scope?, Array.getElem?_eq_some_iff] at found
  exact found.1

theorem within_cases {id other : ScopeId} (within : module.Within id other) :
    other = id ∨ ∃ outer, module.parent? id = some outer ∧ module.Within outer other := by
  rcases Relation.ReflTransGen.cases_head within with rfl | ⟨outer, up, rest⟩
  · exact Or.inl rfl
  · exact Or.inr ⟨outer, up, rest⟩

/-- Nothing lies around a scope without a parent. -/
theorem eq_of_within {id other : ScopeId} (top : module.parent? id = none)
    (within : module.Within id other) : other = id := by
  rcases within_cases within with same | ⟨outer, up, -⟩
  · exact same
  · rw [top] at up
    cases up

/-- Everything on the way out but the scope itself is on the way out of its parent. -/
theorem within_iff_of_parent {id outer other : ScopeId} (up : module.parent? id = some outer) :
    module.Within id other ↔ other = id ∨ module.Within outer other := by
  constructor
  · intro within
    rcases within_cases within with same | ⟨next, step, rest⟩
    · exact .inl same
    · obtain rfl : outer = next := Option.some.inj (up.symm.trans step)
      exact .inr rest
  · rintro (rfl | rest)
    · exact .refl
    · exact .head up rest

theorem length_le_size {ids : List ScopeId} (distinct : ids.Nodup)
    (bound : ∀ id ∈ ids, id < module.scopes.size) : ids.length ≤ module.scopes.size := by
  have inside : ids ⊆ List.range module.scopes.size :=
    fun id member => List.mem_range.mpr (bound id member)
  have room := (List.subperm_of_subset distinct inside).length_le
  rwa [List.length_range] at room

variable {α : Type}

/-- What a walk without a budget comes to, with the scopes that it visits. -/
inductive Walks (module : Checked) (pick : Scope → Option α) :
    Option ScopeId → List ScopeId → Option α → Prop
  | outside {id : Option ScopeId} (absent : id.bind module.scope? = none) :
    Walks module pick id [] none
  | own {id : ScopeId} {scope : Scope} {answer : α} (there : module.scope? id = some scope)
    (holds : pick scope = some answer) : Walks module pick (some id) [id] (some answer)
  | further {id : ScopeId} {scope : Scope} {visited : List ScopeId} {answer : Option α}
    (there : module.scope? id = some scope) (silent : pick scope = none)
    (rest : Walks module pick scope.parent visited answer) :
    Walks module pick (some id) (id :: visited) answer

/-- The way out comes to a scope that lies around itself, and no scope on it has an answer. -/
structure Circles (module : Checked) (pick : Scope → Option α) (id : ScopeId) : Prop where
  back : ∃ back, module.Within id back ∧ module.Below back back
  silent : ∀ other, module.Within id other → (module.scope? other).bind pick = none

variable {pick : Scope → Option α}

/-! ## Walks that end -/

namespace Walks

theorem unique {id : Option ScopeId} {one two : List ScopeId} {first second : Option α}
    (left : module.Walks pick id one first) (right : module.Walks pick id two second) :
    one = two ∧ first = second := by
  induction left generalizing two second with
  | outside absent =>
    cases right with
    | outside => exact ⟨rfl, rfl⟩
    | own there | further there => simp [there] at absent
  | own there holds =>
    cases right with
    | outside absent => simp [there] at absent
    | own again also =>
      obtain rfl := Option.some.inj (there.symm.trans again)
      exact ⟨rfl, holds.symm.trans also⟩
    | further again silent =>
      obtain rfl := Option.some.inj (there.symm.trans again)
      simp [silent] at holds
  | further there silent _ ih =>
    cases right with
    | outside absent => simp [there] at absent
    | own again also =>
      obtain rfl := Option.some.inj (there.symm.trans again)
      simp [silent] at also
    | further again _ rest =>
      obtain rfl := Option.some.inj (there.symm.trans again)
      obtain ⟨rfl, rfl⟩ := ih rest
      exact ⟨rfl, rfl⟩

/-- From each scope on its way a walk goes on to the same answer. -/
theorem from_visited {id : Option ScopeId} {visited : List ScopeId} {answer : Option α}
    (walks : module.Walks pick id visited answer) {passed : ScopeId} (member : passed ∈ visited) :
    ∃ left, module.Walks pick (some passed) left answer ∧ left.length ≤ visited.length := by
  induction walks with
  | outside => simp at member
  | own there holds =>
    obtain rfl := List.mem_singleton.mp member
    exact ⟨_, .own there holds, Nat.le_refl _⟩
  | further there silent rest ih =>
    rcases List.mem_cons.mp member with rfl | later
    · exact ⟨_, .further there silent rest, Nat.le_refl _⟩
    · obtain ⟨left, onward, shorter⟩ := ih later
      exact ⟨left, onward, Nat.le_succ_of_le shorter⟩

theorem nodup {id : Option ScopeId} {visited : List ScopeId} {answer : Option α}
    (walks : module.Walks pick id visited answer) : visited.Nodup := by
  induction walks with
  | outside => exact List.nodup_nil
  | own => exact List.pairwise_singleton _ _
  | further there silent rest ih =>
    refine List.nodup_cons.mpr ⟨fun again => ?_, ih⟩
    -- From the same scope there would be a shorter walk.
    obtain ⟨left, onward, shorter⟩ := rest.from_visited again
    obtain ⟨rfl, -⟩ := onward.unique (.further there silent rest)
    exact absurd shorter (Nat.not_succ_le_self _)

theorem length_le {id : Option ScopeId} {visited : List ScopeId} {answer : Option α}
    (walks : module.Walks pick id visited answer) : visited.length ≤ module.scopes.size := by
  -- No scope is visited twice, and all that are visited belong to the module.
  refine length_le_size walks.nodup ?_
  induction walks with
  | outside => simp
  | own there => simpa using lt_size_of_scope? there
  | further there _ _ ih => simpa using ⟨lt_size_of_scope? there, ih⟩

/-- A budget for the scopes on its way does not change a walk. -/
theorem walk_eq {id : Option ScopeId} {visited : List ScopeId} {answer : Option α}
    (walks : module.Walks pick id visited answer) {budget : Nat}
    (enough : visited.length ≤ budget) :
    module.walk pick budget id = answer.elim .absent .found := by
  induction walks generalizing budget with
  | outside absent => simp [walk, absent]
  | own there holds =>
    obtain ⟨left, rfl⟩ := Nat.exists_eq_add_of_lt (Nat.lt_of_succ_le enough)
    exact module.walk_own pick (0 + left) _ _ _ there holds
  | further there silent rest ih =>
    obtain ⟨left, rfl⟩ := Nat.exists_eq_add_of_le' (Nat.le_trans (Nat.le_add_left 1 _) enough)
    rw [module.walk_parent pick left _ _ there silent]
    exact ih (Nat.le_of_succ_le_succ enough)

theorem walkFrom_eq {id : ScopeId} {visited : List ScopeId} {answer : Option α}
    (walks : module.Walks pick (some id) visited answer) :
    module.walkFrom pick id = answer.elim .absent .found :=
  walks.walk_eq walks.length_le

end Walks

/-- What is not cut off has ended. -/
theorem exists_walks_of_walk (budget : Nat) (id : Option ScopeId)
    (finished : module.walk pick budget id ≠ .unfinished) :
    ∃ visited answer, module.Walks pick id visited answer := by
  induction budget generalizing id with
  | zero =>
    cases found : id.bind module.scope? with
    | none => exact ⟨_, _, .outside found⟩
    | some scope => simp [walk, found] at finished
  | succ budget ih =>
    cases found : id.bind module.scope? with
    | none => exact ⟨_, _, .outside found⟩
    | some scope =>
      obtain ⟨id, rfl, there⟩ := Option.bind_eq_some_iff.mp found
      cases own : pick scope with
      | some answer => exact ⟨_, _, .own there own⟩
      | none =>
        rw [module.walk_parent pick budget id scope there own] at finished
        obtain ⟨visited, answer, rest⟩ := ih scope.parent finished
        exact ⟨_, _, .further there own rest⟩

/-! ## Walks that circle -/

/-- Every scope on the way has a parent, and the way from there circles too. -/
theorem Circles.parent {id : ScopeId} (circles : module.Circles pick id) :
    ∃ outer, module.parent? id = some outer ∧ module.Circles pick outer := by
  obtain ⟨back, within, round⟩ := circles.back
  have onward : ∀ {outer}, module.parent? id = some outer → module.Within outer back →
      ∃ outer, module.parent? id = some outer ∧ module.Circles pick outer := fun up rest =>
    ⟨_, up, ⟨_, rest, round⟩, fun other further => circles.silent other (.head up further)⟩
  rcases within_cases within with rfl | ⟨outer, up, rest⟩
  · obtain ⟨outer, up, rest⟩ := Relation.TransGen.head'_iff.mp round
    exact onward up rest
  · exact onward up rest

theorem Walks.not_circles {start : Option ScopeId} {visited : List ScopeId} {answer : Option α}
    (walks : module.Walks pick start visited answer) {id : ScopeId} (here : start = some id) :
    ¬ module.Circles pick id := by
  intro circles
  induction walks generalizing id with
  | outside absent =>
    subst here
    obtain ⟨outer, up, -⟩ := circles.parent
    obtain ⟨scope, there, -⟩ := Option.bind_eq_some_iff.mp up
    exact absurd there (by simp_all)
  | own there holds =>
    cases here
    have silent := circles.silent _ .refl
    simp [there, holds] at silent
  | further there silent rest ih =>
    cases here
    obtain ⟨outer, up, again⟩ := circles.parent
    exact ih (by simpa [parent?, there] using up) again

/-- Different scopes that a walk has come through on its way to a scope. -/
structure Passed (module : Checked) (seen : List ScopeId) (id : ScopeId) : Prop where
  distinct : seen.Nodup
  bound : ∀ {passed}, passed ∈ seen → passed < module.scopes.size
  below : ∀ {passed}, passed ∈ seen → module.Below passed id

namespace Passed

variable {seen : List ScopeId} {id : ScopeId}

theorem length_lt (passed : module.Passed seen id) (unseen : id ∉ seen)
    (bound : id < module.scopes.size) : seen.length < module.scopes.size := by
  refine length_le_size (List.nodup_cons.mpr ⟨unseen, passed.distinct⟩) fun other member => ?_
  rcases List.mem_cons.mp member with rfl | before
  · exact bound
  · exact passed.bound before

theorem step (passed : module.Passed seen id) (unseen : id ∉ seen)
    (bound : id < module.scopes.size) {outer : ScopeId} (up : module.parent? id = some outer) :
    module.Passed (id :: seen) outer where
  distinct := List.nodup_cons.mpr ⟨unseen, passed.distinct⟩
  bound member := by
    rcases List.mem_cons.mp member with rfl | before
    · exact bound
    · exact passed.bound before
  below member := by
    rcases List.mem_cons.mp member with rfl | before
    · exact .single up
    · exact .tail (passed.below before) up

end Passed

/-- No walk from the scope ends. -/
def Endless (module : Checked) (pick : Scope → Option α) (id : ScopeId) : Prop :=
  ∀ visited answer, ¬ module.Walks pick (some id) visited answer

namespace Endless

/-- Where a walk does not end, a scope has no answer, and the walk does not end at its parent. -/
theorem parent {id : ScopeId} (endless : module.Endless pick id) :
    (∃ scope, module.scope? id = some scope ∧ pick scope = none) ∧
      ∃ outer, module.parent? id = some outer ∧ module.Endless pick outer := by
  cases there : module.scope? id with
  | none => exact absurd (.outside there) (endless _ _)
  | some scope =>
    cases own : pick scope with
    | some answer => exact absurd (.own there own) (endless _ _)
    | none =>
      refine ⟨⟨scope, rfl, own⟩, ?_⟩
      -- A walk that ended further out would also end from here.
      have further : ∀ visited answer, ¬ module.Walks pick scope.parent visited answer :=
        fun _ _ rest => endless _ _ (.further there own rest)
      cases parent : scope.parent with
      | none => exact absurd (.outside (by simp [parent])) (further _ _)
      | some outer =>
        rw [parent] at further
        exact ⟨outer, by simp [parent?, there, parent], further⟩

theorem of_within {id outer : ScopeId} (endless : module.Endless pick id)
    (within : module.Within id outer) : module.Endless pick outer := by
  induction within with
  | refl => exact endless
  | tail _ up ih =>
    obtain ⟨next, also, further⟩ := ih.parent.2
    rwa [Option.some.inj (up.symm.trans also)]

/-- Scopes run out, so a way that does not end comes back to one where it was. -/
theorem exists_back {id : ScopeId} (endless : module.Endless pick id) {seen : List ScopeId}
    (passed : module.Passed seen id) : ∃ back, module.Within id back ∧ module.Below back back := by
  by_cases again : id ∈ seen
  · exact ⟨id, .refl, passed.below again⟩
  · obtain ⟨⟨scope, there, -⟩, outer, up, further⟩ := endless.parent
    have bound := lt_size_of_scope? there
    have room := passed.length_lt again bound
    obtain ⟨back, within, round⟩ := further.exists_back (passed.step again bound up)
    exact ⟨back, .head up within, round⟩
termination_by module.scopes.size - seen.length
decreasing_by simp only [List.length_cons]; omega

theorem circles {id : ScopeId} (endless : module.Endless pick id) : module.Circles pick id where
  back := endless.exists_back ⟨List.nodup_nil, by simp, by simp⟩
  silent other within := by
    obtain ⟨scope, there, silent⟩ := (endless.of_within within).parent.1
    simp [there, silent]

end Endless

theorem endless_iff_circles (id : ScopeId) : module.Endless pick id ↔ module.Circles pick id :=
  ⟨Endless.circles, fun circles _ _ walks => walks.not_circles rfl circles⟩

/-- The budget of as many scopes as there are cuts off what would not end, and nothing else. -/
theorem walkFrom_eq_unfinished_iff (id : ScopeId) :
    module.walkFrom pick id = .unfinished ↔ module.Circles pick id := by
  rw [← endless_iff_circles]
  constructor
  · intro cut visited answer walks
    rw [walks.walkFrom_eq] at cut
    cases answer <;> cases cut
  · intro endless
    by_contra finished
    obtain ⟨visited, answer, walks⟩ := exists_walks_of_walk _ _ finished
    exact endless visited answer walks

/-- A walk ends unless it circles, and then with the answer of the one that may visit as many scopes
as there are, since it visits no more. -/
theorem ends_iff_not_circles (module : Checked) (pick : Scope → Option α) (id : ScopeId) :
    ((∃ visited answer, module.Walks pick (some id) visited answer) ↔
      ¬ module.Circles pick id) ∧
    ∀ visited answer, module.Walks pick (some id) visited answer →
      visited.length ≤ module.scopes.size ∧ (module.walkFrom pick id).answer? = answer := by
  refine ⟨?_, fun visited answer walks => ⟨walks.length_le, ?_⟩⟩
  · rw [← endless_iff_circles, Endless]
    simp only [not_forall, not_not]
  · rw [walks.walkFrom_eq]
    cases answer <;> rfl

end Checked

namespace Query

/-- The bindings of one symbol. -/
def binds (symbol : Symbol) (scope : Scope) : Option Binding := scope.bindings.get? symbol

/-- The aliases of one name. -/
def aliases (name : String) (scope : Scope) : Option Location := scope.aliases.get? name

/-- Looking up a symbol or an alias ends within as many scopes as there are unless the way out comes
back to a scope and nothing on it declares the name. Then it never ends. -/
theorem lookup_ends_iff_not_circles (module : Checked) (start : ScopeId) :
    (∀ symbol,
      ((∃ visited answer, module.Walks (binds symbol) (some start) visited answer) ↔
        ¬ module.Circles (binds symbol) start) ∧
      ∀ visited answer, module.Walks (binds symbol) (some start) visited answer →
        visited.length ≤ module.scopes.size ∧ module.lookup? start symbol = answer) ∧
    ∀ name,
      ((∃ visited answer, module.Walks (aliases name) (some start) visited answer) ↔
        ¬ module.Circles (aliases name) start) ∧
      ∀ visited answer, module.Walks (aliases name) (some start) visited answer →
        visited.length ≤ module.scopes.size ∧ module.alias? start name = answer :=
  ⟨fun symbol => module.ends_iff_not_circles (binds symbol) start,
    fun name => module.ends_iff_not_circles (aliases name) start⟩

namespace Mutual

def declared : Binding := ⟨0, .onLine 0 6 7, none⟩

/-- Two blocks around each other, of which the second declares a name. -/
def module : Checked where
  scopes := #[
    { parent := some 1, location := ⟨⟨0, 0⟩, ⟨1, 0⟩⟩ },
    { parent := some 0
      location := ⟨⟨0, 0⟩, ⟨1, 0⟩⟩
      bindings := .ofList [(.globalName "x", declared)] }]

end Mutual

/-- The name is found before the way out comes back. -/
theorem lookup_ends_iff_not_circles_declared :
    Mutual.module.Walks (binds (.globalName "x")) (some 0) [0, 1] (some Mutual.declared) ∧
      ¬ Mutual.module.Circles (binds (.globalName "x")) 0 ∧
      Mutual.module.lookup? 0 (.globalName "x") = some Mutual.declared := by
  have walks : Mutual.module.Walks (binds (.globalName "x")) (some 0) [0, 1]
      (some Mutual.declared) := .further rfl rfl (.own rfl rfl)
  obtain ⟨ends, answers⟩ := (lookup_ends_iff_not_circles Mutual.module 0).1 (.globalName "x")
  exact ⟨walks, ends.mp ⟨_, _, walks⟩, (answers _ _ walks).2⟩

namespace OwnParent

/-- A block that goes around itself. -/
def module : Checked where
  scopes := #[{ parent := some 0, location := ⟨⟨0, 0⟩, ⟨1, 0⟩⟩ }]

theorem circles {α : Type} {pick : Scope → Option α}
    (silent : (module.scope? 0).bind pick = none) : module.Circles pick 0 where
  back := ⟨0, .refl, .single rfl⟩
  silent other within := by
    obtain rfl : other = 0 := by
      induction within with
      | refl => rfl
      | tail _ up ih =>
        subst ih
        exact (Option.some.inj up).symm
    exact silent

end OwnParent

/-- Neither a name nor an alias that the block does not declare is ever settled. -/
theorem not_lookup_ends_own_parent :
    (¬ ∃ visited answer,
      OwnParent.module.Walks (binds (.globalName "x")) (some 0) visited answer ∧
        visited.length ≤ OwnParent.module.scopes.size) ∧
    ¬ ∃ visited answer, OwnParent.module.Walks (aliases "T") (some 0) visited answer ∧
      visited.length ≤ OwnParent.module.scopes.size := by
  constructor
  · rintro ⟨visited, answer, walks, -⟩
    exact walks.not_circles rfl (OwnParent.circles rfl)
  · rintro ⟨visited, answer, walks, -⟩
    exact walks.not_circles rfl (OwnParent.circles rfl)

end Query

end LuauWorkspace
