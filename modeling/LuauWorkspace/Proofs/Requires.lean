import LuauWorkspace.Analysis
import LuauWorkspace.Proofs.Traversal
import Mathlib.Tactic.Tauto

/-!
# Reachability and stamps

The two closures of a require graph are reachability along its edges in either direction. A check
renews the edges of exactly the parsed modules that it reaches. The stamps of a dirty set never
run ahead of its clock, and a module that is clean was checked at or after its last edit.
-/
namespace LuauWorkspace

open Traversal (Reaches fair_breadthFirst mem_order_iff)

namespace Requires

/-- The closure over a table is what can be reached in it, without the start. -/
theorem Neighbours.mem_closure_iff (neighbours : Neighbours) (a b : ModuleName) :
    b ∈ neighbours.closure a ↔ Reaches neighbours.of a b ∧ b ≠ a := by
  have listed : neighbours.keys.length ≤ neighbours.size := by simp [Table.keys, Table.size]
  rw [closure, List.mem_filter, decide_eq_true_eq,
    mem_order_iff fair_breadthFirst neighbours.keys listed]
  -- What has neighbours has an entry, so the budget counts it.
  intro x _ busy
  refine Decidable.byContradiction fun absent => busy ?_
  rw [Neighbours.of, (Table.get?_eq_none_iff neighbours x).mpr absent]
  rfl

namespace Graph

variable (graph : Graph)

theorem mem_set (module : ModuleName) (dependencies : List ModuleName) (a b : ModuleName) :
    b ∈ (graph.set module dependencies).requiredBy a ↔
      if a = module then b ∈ dependencies else b ∈ graph.requiredBy a := by
  -- The fold adds edges to what `clear` left, so the claim is about any graph it starts from.
  have added : ∀ (found : List ModuleName) (before : Graph),
      b ∈ (found.foldl (fun graph dependency => graph.add module dependency) before).requiredBy a ↔
        b ∈ before.requiredBy a ∨ (a = module ∧ b ∈ found) := by
    intro found
    induction found with
    | nil => simp
    | cons first rest ih =>
      intro before
      rw [List.foldl_cons, ih, mem_add, List.mem_cons]
      tauto
  rw [set, added, mem_clear]
  split <;> simp_all

theorem mem_dependencies_iff (a b : ModuleName) :
    b ∈ graph.dependencies a ↔ Reaches graph.requiredBy a b ∧ b ≠ a :=
  graph.forward.mem_closure_iff a b

theorem reaches_requiring_iff (a b : ModuleName) :
    Reaches graph.requiring b a ↔ Reaches graph.requiredBy a b := by
  -- The two step relations are each other's converse.
  have turned : (fun a b => b ∈ graph.requiring a) =
      Function.swap fun a b => b ∈ graph.requiredBy a := by
    funext a b
    simp only [Function.swap, mem_requiring]
  rw [Reaches, turned, Relation.reflTransGen_swap]

theorem mem_dependents_iff (a b : ModuleName) :
    a ∈ graph.dependents b ↔ Reaches graph.requiredBy a b ∧ a ≠ b := by
  rw [← reaches_requiring_iff]
  exact graph.reverse.mem_closure_iff b a

end Graph

namespace DirtySet

variable (set : DirtySet)

def checkedAt? (name : ModuleName) : Option Nat := (set.modules.get? name).bind (·.checkedAt)

@[simp] theorem checkedAt?_markDirty (marked : ModuleName) (reason : DirtyReason)
    (name : ModuleName) : (set.markDirty marked reason).checkedAt? name = set.checkedAt? name := by
  by_cases same : name = marked
  · subst same; simp [checkedAt?, markDirty]
  · simp [checkedAt?, markDirty, Table.get?_insert_of_ne _ _ same]

theorem checkedAt?_markChecked (checked name : ModuleName) :
    (set.markChecked checked).checkedAt? name =
      if name = checked then some (set.clock + 1) else set.checkedAt? name := by
  by_cases same : name = checked
  · subst same; simp [checkedAt?, markChecked]
  · simp [checkedAt?, markChecked, Table.get?_insert_of_ne _ _ same, same]

theorem editedAfter_markDirty (marked : ModuleName) (reason : DirtyReason) (stamp : Nat)
    (name : ModuleName) :
    (set.markDirty marked reason).editedAfter stamp name =
      if name = marked then decide (stamp < set.clock + 1) else set.editedAfter stamp name := by
  by_cases same : name = marked
  · subst same; simp [editedAfter, markDirty]
  · simp [editedAfter, markDirty, Table.get?_insert_of_ne _ _ same, same]

@[simp] theorem editedAfter_markChecked (checked : ModuleName) (stamp : Nat) (name : ModuleName) :
    (set.markChecked checked).editedAfter stamp name = set.editedAfter stamp name := by
  by_cases same : name = checked
  · subst same
    cases held : set.modules.get? name <;> simp [editedAfter, markChecked, held]
  · simp [editedAfter, markChecked, Table.get?_insert_of_ne _ _ same]

theorem isDirty_markDirty_of_ne (marked : ModuleName) (reason : DirtyReason) {name : ModuleName}
    (differs : name ≠ marked) : (set.markDirty marked reason).isDirty name = set.isDirty name := by
  simp [isDirty, markDirty, Table.get?_insert_of_ne _ _ differs]

theorem isDirty_markChecked_of_ne (checked : ModuleName) {name : ModuleName}
    (differs : name ≠ checked) : (set.markChecked checked).isDirty name = set.isDirty name := by
  simp [isDirty, markChecked, Table.get?_insert_of_ne _ _ differs]

theorem isDirty_foldl_markDirty (names : List ModuleName) (reason : DirtyReason)
    (name : ModuleName) :
    (names.foldl (fun set name => set.markDirty name reason) set).isDirty name =
      (decide (name ∈ names) || set.isDirty name) := by
  induction names generalizing set with
  | nil => simp
  | cons first rest ih =>
    rw [List.foldl_cons, ih]
    by_cases same : name = first
    · simp [same, isDirty_markDirty]
    · simp [same, isDirty_markDirty_of_ne set first reason same]

theorem checkedAt?_foldl_markDirty (names : List ModuleName) (reason : DirtyReason)
    (name : ModuleName) :
    (names.foldl (fun set name => set.markDirty name reason) set).checkedAt? name =
      set.checkedAt? name := by
  induction names generalizing set with
  | nil => rfl
  | cons first rest ih => rw [List.foldl_cons, ih, checkedAt?_markDirty]

/-- A module is fresh when it was checked after its last edit and none of those that it can reach
was edited later. -/
theorem isStale_eq_false_iff (name : ModuleName) (graph : Graph) :
    set.isStale name graph = false ↔
      ∃ stamp, set.checkedAt? name = some stamp ∧ set.isDirty name = false ∧
        ∀ other, Reaches graph.requiredBy name other → other ≠ name →
          set.editedAfter stamp other = false := by
  unfold isStale checkedAt?
  cases (set.modules.get? name).bind (·.checkedAt) with
  | none => simp
  | some stamp =>
    simp [Graph.mem_dependencies_iff]

/-- The stamps of a dirty set lie in its past, and clean modules were not edited after their
last check. -/
structure Timed : Prop where
  edited : ∀ stamp name, set.clock ≤ stamp → set.editedAfter stamp name = false
  checked : ∀ name stamp, set.checkedAt? name = some stamp → stamp ≤ set.clock
  clean : ∀ name stamp, set.checkedAt? name = some stamp → set.isDirty name = false →
    set.editedAfter stamp name = false

theorem timed_empty : Timed {} :=
  ⟨fun _ _ _ => rfl, fun _ _ found => by simp [checkedAt?] at found,
    fun _ _ found => by simp [checkedAt?] at found⟩

variable {set}

theorem Timed.markDirty (timed : set.Timed) (marked : ModuleName) (reason : DirtyReason) :
    (set.markDirty marked reason).Timed := by
  refine ⟨fun stamp name late => ?_, fun name stamp found => ?_, fun name stamp found clean => ?_⟩
  · have past : set.clock + 1 ≤ stamp := late
    rw [editedAfter_markDirty]
    split
    · simpa using past
    · exact timed.edited stamp name (by omega)
  · rw [checkedAt?_markDirty] at found
    exact Nat.le_succ_of_le (timed.checked name stamp found)
  · by_cases same : name = marked
    · subst same
      simp [isDirty_markDirty] at clean
    · rw [checkedAt?_markDirty] at found
      rw [isDirty_markDirty_of_ne set marked reason same] at clean
      rw [editedAfter_markDirty, if_neg same]
      exact timed.clean name stamp found clean

theorem Timed.markChecked (timed : set.Timed) (checked : ModuleName) :
    (set.markChecked checked).Timed := by
  refine ⟨fun stamp name late => ?_, fun name stamp found => ?_, fun name stamp found clean => ?_⟩
  · have past : set.clock + 1 ≤ stamp := late
    rw [editedAfter_markChecked]
    exact timed.edited stamp name (by omega)
  · change stamp ≤ set.clock + 1
    rw [checkedAt?_markChecked] at found
    split at found
    · simp only [Option.some.injEq] at found
      omega
    · have past := timed.checked name stamp found
      omega
  · rw [editedAfter_markChecked]
    rw [checkedAt?_markChecked] at found
    split at found
    · simp only [Option.some.injEq] at found
      exact timed.edited stamp name (by omega)
    next differs =>
      rw [isDirty_markChecked_of_ne set checked differs] at clean
      exact timed.clean name stamp found clean

theorem Timed.invalidateAll (timed : set.Timed) : set.invalidateAll.Timed := by
  rw [DirtySet.invalidateAll]
  exact List.foldlRecOn (motive := DirtySet.Timed) _ _ timed fun _ before name _ =>
    before.markDirty name .invalidated

end DirtySet

end Requires

namespace Analysis

variable {ε : Type} [Engine ε]

/-- Whether a check of `root` renews the edges of a module. -/
def Renews (engine : ε) (root name : ModuleName) : Prop :=
  Reaches (requires engine) root name ∧ (Engine.source? engine name).isSome

/-- Edges after the modules of a list were renewed in order: what a module requires does not depend
on the graph, so renewing it once more changes nothing. -/
theorem mem_foldl_renew_iff (engine : ε) {renew : Requires.Graph → ModuleName → Requires.Graph}
    (sets : ∀ graph name source, Engine.source? engine name = some source →
      renew graph name = graph.set name source.requires)
    (keeps : ∀ graph name, Engine.source? engine name = none → renew graph name = graph)
    (names : List ModuleName) (graph : Requires.Graph) (a b : ModuleName) :
    b ∈ (names.foldl renew graph).requiredBy a ↔
      if a ∈ names ∧ (Engine.source? engine a).isSome then b ∈ requires engine a
      else b ∈ graph.requiredBy a := by
  induction names generalizing graph with
  | nil => simp
  | cons name rest ih =>
    rw [List.foldl_cons, ih]
    cases parsed : Engine.source? engine name with
    | none =>
      rw [keeps graph name parsed]
      by_cases here : a = name <;> simp_all
    | some source =>
      rw [sets graph name source parsed]
      by_cases here : a = name
      · subst here
        simp [Requires.Graph.mem_set, parsed, requires]
      · simp [Requires.Graph.mem_set, here]

theorem mem_recordRequires_iff (engine : ε) (graph : Requires.Graph) (root : ModuleName)
    (listed : ∀ name, (Engine.source? engine name).isSome → name ∈ Engine.known engine)
    (a b : ModuleName) :
    b ∈ (recordRequires engine graph root).requiredBy a ↔
      (Renews engine root a ∧ b ∈ requires engine a) ∨
        (¬ Renews engine root a ∧ b ∈ graph.requiredBy a) := by
  have busy_known : ∀ x, Reaches (requires engine) root x → requires engine x ≠ [] →
      x ∈ Engine.known engine := by
    intro x _ busy
    apply listed
    cases parsed : Engine.source? engine x with
    | none => simp [requires, parsed] at busy
    | some source => rfl
  -- What requires something is parsed and so known, hence the budget lasts.
  have reached := mem_order_iff fair_breadthFirst (Engine.known engine) (Nat.le_refl _) busy_known
  rw [Renews, ← reached, recordRequires]
  refine (mem_foldl_renew_iff engine ?_ ?_ _ graph a b).trans ?_
  · exact fun graph name source parsed => by simp only [parsed]
  · exact fun graph name missing => by simp only [missing]
  · split <;> simp_all

theorem isFresh_iff {analysis : Analysis ε} (name : ModuleName) :
    analysis.isFresh name = true ↔ (analysis.results.get? name).isSome ∧
      analysis.dirty.isStale name analysis.graph = false ∧
        Engine.isDirty analysis.engine name = false := by
  simp only [isFresh, isStale, Table.contains, Bool.and_eq_true, Bool.not_eq_true',
    Bool.or_eq_false_iff]

/-- What holds now and after a check holds where there is a check only if it is needed. -/
theorem ensureFresh_induction (property : Analysis ε → Prop) {analysis : Analysis ε}
    {view : SourceView} {name : ModuleName} (now : property analysis)
    (later : property (analysis.refresh view name)) :
    property (analysis.ensureFresh view name) := by
  unfold ensureFresh
  split
  · exact now
  · exact later

/-- What was checked last is fresh if the engine left it clean. -/
theorem isFresh_refresh {analysis : Analysis ε} (timed : analysis.dirty.Timed)
    {view : SourceView} {name : ModuleName}
    (clean : Engine.isDirty (Engine.check analysis.engine view name).2 name = false) :
    (analysis.refresh view name).isFresh name = true := by
  refine (isFresh_iff name).mpr ⟨?_, ?_, clean⟩
  · simp [refresh]
  · refine (Requires.DirtySet.isStale_eq_false_iff _ name _).mpr
      ⟨analysis.dirty.clock + 1, ?_, ?_, ?_⟩
    · exact (Requires.DirtySet.checkedAt?_markChecked analysis.dirty name name).trans (if_pos rfl)
    · exact analysis.dirty.isDirty_markChecked name
    -- Nothing was edited after the present moment.
    · exact fun other _ _ => (timed.markChecked name).edited _ other (Nat.le_refl _)

end Analysis

end LuauWorkspace
