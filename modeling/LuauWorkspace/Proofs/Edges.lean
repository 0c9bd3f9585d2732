import LuauWorkspace.Proofs.Requires
import Mathlib.Data.List.Basic
import Mathlib.Data.List.Induction

/-!
# What a graph remembers

Edges are added one at a time, or a module gets new edges in place of all that it had. Whatever
the order of these changes, a graph holds for each module the edges of the last replacement and
those that were added since, and both closures follow exactly these: one from a module to what it
requires, the other against them. So the two answer the same question from its two ends.
-/
namespace LuauWorkspace.Requires

inductive Change where
  | added (dependent dependency : ModuleName)
  | replaced (module : ModuleName) (dependencies : List ModuleName)
deriving DecidableEq, Repr

namespace Change

/-- The change puts an edge from `a` to `b`. -/
def Gives (a b : ModuleName) : Change → Prop
  | added dependent dependency => dependent = a ∧ dependency = b
  | replaced module dependencies => module = a ∧ b ∈ dependencies

/-- The change takes away the edges that `a` had. -/
def Replaces (a : ModuleName) : Change → Prop
  | added _ _ => False
  | replaced module _ => module = a

end Change

/-- The edges that the last replacement for their module gave, and those added for it since. -/
def Kept (changes : List Change) (a b : ModuleName) : Prop :=
  ∃ earlier change later, changes = earlier ++ change :: later ∧ change.Gives a b ∧
    ∀ next ∈ later, ¬ next.Replaces a

theorem not_kept_nil (a b : ModuleName) : ¬ Kept [] a b := by
  rintro ⟨earlier, change, later, split, -, -⟩
  simp at split

theorem kept_concat_iff (changes : List Change) (last : Change) (a b : ModuleName) :
    Kept (changes ++ [last]) a b ↔ last.Gives a b ∨ Kept changes a b ∧ ¬ last.Replaces a := by
  constructor
  · rintro ⟨earlier, change, later, split, gives, spared⟩
    -- Either the last change is the one that gave the edge, or it came after that one.
    rcases List.eq_nil_or_concat' later with rfl | ⟨between, final, rfl⟩
    · obtain ⟨-, same⟩ := List.append_inj' split rfl
      obtain rfl : last = change := by simpa using same
      exact Or.inl gives
    · have parted : changes ++ [last] = (earlier ++ change :: between) ++ [final] := by
        rw [split, List.append_assoc, List.cons_append]
      obtain ⟨rfl, same⟩ := List.append_inj' parted rfl
      obtain rfl : last = final := by simpa using same
      refine Or.inr ⟨⟨earlier, change, between, rfl, gives, fun next member => ?_⟩, ?_⟩
      · exact spared next (List.mem_append_left _ member)
      · exact spared last (List.mem_append_right _ (List.mem_singleton.mpr rfl))
  · rintro (gives | ⟨⟨earlier, change, later, rfl, gives, spared⟩, keeps⟩)
    · exact ⟨changes, last, [], rfl, gives, by simp⟩
    · refine ⟨earlier, change, later ++ [last], by simp, gives, fun next member => ?_⟩
      rcases List.mem_append.mp member with member | only
      · exact spared next member
      · exact List.mem_singleton.mp only ▸ keeps

namespace Graph

def change (graph : Graph) : Change → Graph
  | .added dependent dependency => graph.add dependent dependency
  | .replaced module dependencies => graph.set module dependencies

/-- The graph after some changes. -/
def after (changes : List Change) : Graph := changes.foldl change .empty

theorem mem_change (graph : Graph) (made : Change) (a b : ModuleName) :
    b ∈ (graph.change made).requiredBy a ↔
      made.Gives a b ∨ b ∈ graph.requiredBy a ∧ ¬ made.Replaces a := by
  cases made with
  | added dependent dependency =>
    rw [change, mem_add, Change.Gives, Change.Replaces, not_false_eq_true, and_true,
      eq_comm (a := a), eq_comm (a := b)]
  | replaced module dependencies =>
    rw [change, mem_set, Change.Gives, Change.Replaces]
    by_cases same : a = module
    · simp [same]
    · simp [same, Ne.symm same]

theorem mem_after_iff (changes : List Change) (a b : ModuleName) :
    b ∈ (after changes).requiredBy a ↔ Kept changes a b := by
  induction changes using List.reverseRecOn with
  | nil => simp [after, not_kept_nil]
  | append_singleton changes last ih =>
    have stepped : after (changes ++ [last]) = (after changes).change last :=
      by rw [after, List.foldl_append]; rfl
    rw [stepped, mem_change, ih, kept_concat_iff]

theorem dependencies_nodup (graph : Graph) (module : ModuleName) :
    (graph.dependencies module).Nodup :=
  (Traversal.visit_nodup _ _ _ _ _ List.nodup_nil).filter _

theorem dependents_nodup (graph : Graph) (module : ModuleName) :
    (graph.dependents module).Nodup :=
  (Traversal.visit_nodup _ _ _ _ _ List.nodup_nil).filter _

/-- After any changes, both closures are what the kept edges reach, each in its direction and
without the module that was asked about. -/
theorem closures_after (changes : List Change) :
    (∀ a b, b ∈ (after changes).dependencies a ↔
      Relation.ReflTransGen (Kept changes) a b ∧ b ≠ a) ∧
    (∀ a b, a ∈ (after changes).dependents b ↔
      Relation.ReflTransGen (Kept changes) a b ∧ a ≠ b) ∧
    (∀ a b, a ∈ (after changes).dependents b ↔ b ∈ (after changes).dependencies a) ∧
    ∀ a, ((after changes).dependencies a).Nodup ∧ ((after changes).dependents a).Nodup := by
  have edges : Kept changes = fun a b => b ∈ (after changes).requiredBy a := by
    funext a b
    exact propext (mem_after_iff changes a b).symm
  rw [edges]
  refine ⟨mem_dependencies_iff _, mem_dependents_iff _, fun a b => ?_, fun a => ?_⟩
  · rw [mem_dependents_iff, mem_dependencies_iff, ne_comm]
  · exact ⟨dependencies_nodup _ a, dependents_nodup _ a⟩

-- Neither the self edge nor the cycle brings a module into its own closures.
example :
    let cycle := after [.replaced ⟨"a"⟩ [⟨"old"⟩], .replaced ⟨"b"⟩ [⟨"c"⟩],
      .added ⟨"b"⟩ ⟨"a"⟩, .replaced ⟨"a"⟩ [⟨"a"⟩, ⟨"b"⟩]]
    cycle.dependencies ⟨"a"⟩ = [⟨"b"⟩, ⟨"c"⟩] ∧ cycle.dependents ⟨"a"⟩ = [⟨"b"⟩] := by
  decide +kernel

end Graph

end LuauWorkspace.Requires
