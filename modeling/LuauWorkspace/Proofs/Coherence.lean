import LuauWorkspace.Proofs.Line
import LuauWorkspace.Proofs.Requires

/-!
# Memoized results of the line engine

A result that is kept need not be right: its modules may have been edited since. What it owes is
that it is right unless one of them was edited after its check, and that the graph leads to the
first module on each way that was. A check of another module may renew edges meanwhile, but those
of modules that were not edited since are renewed as they were. So a result is out of date only if
its module is stale, and a query answers with what a check from scratch would report.
-/
namespace LuauWorkspace

open Requires (DirtyReason DirtySet)
open Traversal (Reaches)

namespace Analysis

/-- Steps along the requires as long as they lead from modules that were not edited after a
stamp. -/
def Settled (dirty : DirtySet) (view : SourceView) (stamp : Nat) : ModuleName → ModuleName → Prop :=
  Relation.ReflTransGen fun a b => dirty.editedAfter stamp a = false ∧ b ∈ view.requires a

/-- What a result that was found at a stamp owes. -/
structure Vouched (analysis : Analysis LineEngine) (view : SourceView) (name : ModuleName)
    (stamp : Nat) (problems : List Problem) : Prop where
  recorded : ∀ x, Settled analysis.dirty view stamp name x →
    analysis.dirty.editedAfter stamp x = false →
      ∀ y ∈ view.requires x, y ∈ analysis.graph.requiredBy x
  report : (∀ x, Reaches view.requires name x → analysis.dirty.editedAfter stamp x = false) →
    view.Reports name problems

structure Coherent (analysis : Analysis LineEngine) (view : SourceView) : Prop where
  inStep : analysis.engine.InStep view
  timed : analysis.dirty.Timed
  kept : ∀ name problems, analysis.results.get? name = some problems →
    ∃ stamp, analysis.dirty.checkedAt? name = some stamp ∧
      Vouched analysis view name stamp problems

theorem coherent_new (view : SourceView) : Coherent { engine := {} } view :=
  ⟨LineEngine.inStep_empty view, DirtySet.timed_empty, fun _ _ found => by simp at found⟩

variable {analysis : Analysis LineEngine} {view : SourceView}

/-! ## Edits -/

theorem get?_foldl_erase (names : List ModuleName) (results : Table ModuleName (List Problem))
    (name : ModuleName) :
    (names.foldl Table.erase results).get? name =
      if name ∈ names then none else results.get? name := by
  induction names generalizing results with
  | nil => simp
  | cons first rest ih =>
    rw [List.foldl_cons, ih, Table.get?_erase]
    by_cases same : name = first <;> simp [same]

/-- An edit may change the edited module and nothing else that the engine sees. -/
theorem Coherent.markDirty (coherent : analysis.Coherent view) (name : ModuleName)
    (reason : DirtyReason) {edited : SourceView}
    (same : ∀ x, x ≠ name → view.parsed? x = edited.parsed? x) :
    (analysis.markDirty name reason).Coherent edited := by
  -- The edited module itself is dirty from now on, so the engine stays in step.
  have same_requires : ∀ x, x ≠ name → view.requires x = edited.requires x := fun x differs => by
    simp [SourceView.requires, same x differs]
  refine ⟨?_, coherent.timed.markDirty name reason, ?_⟩
  · refine (coherent.inStep.markDirty name).congr fun x clean => same x ?_
    rintro rfl
    rw [LineEngine.isDirty_eq_false_iff] at clean
    exact clean.1 (List.mem_insert_self ..)
  intro dependent problems found
  have held : analysis.results.get? dependent = some problems := by
    rw [Analysis.markDirty, get?_foldl_erase] at found
    split at found
    · simp at found
    · exact found
  obtain ⟨stamp, checked, vouched⟩ := coherent.kept dependent problems held
  -- The edit comes after every check, so only what it left alone still counts as settled.
  have settled : ∀ x, (analysis.dirty.markDirty name reason).editedAfter stamp x = false →
      x ≠ name ∧ analysis.dirty.editedAfter stamp x = false := by
    intro x unedited
    have past := coherent.timed.checked dependent stamp checked
    rw [DirtySet.editedAfter_markDirty] at unedited
    split at unedited
    · simp only [decide_eq_false_iff_not] at unedited
      omega
    next differs => exact ⟨differs, unedited⟩
  refine ⟨stamp, by simpa [Analysis.markDirty] using checked, ?_, ?_⟩
  · intro x way unedited y required
    obtain ⟨differs, before⟩ := settled x unedited
    rw [← same_requires x differs] at required
    have along : Settled analysis.dirty view stamp dependent x := by
      refine Relation.ReflTransGen.mono (fun a b step => ?_) _ _ way
      obtain ⟨other, earlier⟩ := settled a step.1
      exact ⟨earlier, same_requires a other ▸ step.2⟩
    exact vouched.recorded x along before y required
  · intro unedited
    have here : ∀ x, Reaches edited.requires dependent x → view.parsed? x = edited.parsed? x :=
      fun x way => same x (settled x (unedited x way)).1
    -- Nothing behind the result was edited, so it was found for the modules that are there now.
    have ways : ∀ x, Reaches edited.requires dependent x ↔ Reaches view.requires dependent x :=
      fun x => Reaches.congr fun y way =>
        (same_requires y (settled y (unedited y way)).1).symm
    have report := vouched.report fun x way => (settled x (unedited x ((ways x).mpr way))).2
    exact report.congr fun x way => here x ((ways x).mpr way)

/-! ## Checks -/

/-- After a check the engine knows the requires of everything that the check reached. -/
theorem requires_check (step : analysis.engine.InStep view) (bounded : view.Bounded)
    {root name : ModuleName} (way : Reaches view.requires root name) :
    requires (analysis.engine.check view root).2 name = view.requires name := by
  rw [requires, LineEngine.source?_eq, step.parsed_check bounded way, SourceView.requires,
    Option.map_map]
  rfl

/-- After a check the edges of what it reached are those of the present texts, and other edges
are as they were. -/
theorem mem_edges_refresh (step : analysis.engine.InStep view) (bounded : view.Bounded)
    (root : ModuleName) {x y : ModuleName} (required : y ∈ view.requires x)
    (known : Reaches view.requires root x ∨ y ∈ analysis.graph.requiredBy x) :
    y ∈ (analysis.refresh view root).graph.requiredBy x := by
  have ways : ∀ z, Reaches view.requires root z ↔
      Reaches (requires (analysis.engine.check view root).2) root z :=
    fun z => Reaches.congr fun w way => (requires_check step bounded way).symm
  refine (mem_recordRequires_iff _ _ root (fun _ => LineEngine.mem_known _) x y).mpr ?_
  -- An edge is renewed if the check reached its dependent and is left as it was otherwise.
  by_cases renews : Renews (analysis.engine.check view root).2 root x
  · have way := (ways x).mpr renews.1
    exact Or.inl ⟨renews, (requires_check step bounded way).symm ▸ required⟩
  · refine Or.inr ⟨renews, known.resolve_left ?_⟩
    intro way
    refine renews ⟨(ways x).mp way, ?_⟩
    rw [LineEngine.source?_eq, step.parsed_check bounded way]
    cases present : view.parsed? x with
    | none => simp [SourceView.requires, present] at required
    | some _ => rfl

theorem Coherent.refresh (coherent : analysis.Coherent view) (bounded : view.Bounded)
    (root : ModuleName) : (analysis.refresh view root).Coherent view := by
  have step := coherent.inStep
  refine ⟨step.check root, coherent.timed.markChecked root, ?_⟩
  intro name problems found
  change (analysis.results.insert root (analysis.engine.check view root).1).get? name = _ at found
  change ∃ stamp, (analysis.dirty.markChecked root).checkedAt? name = some stamp ∧ _
  rw [DirtySet.checkedAt?_markChecked]
  by_cases same : name = root
  · subst same
    rw [Table.get?_insert_self, Option.some.injEq] at found
    subst found
    -- The new result is right at once, and the check recorded every edge on its ways.
    refine ⟨analysis.dirty.clock + 1, by simp, ?_, fun _ => step.reports_check bounded name⟩
    intro x way _ y required
    refine mem_edges_refresh step bounded name required (Or.inl ?_)
    exact Relation.ReflTransGen.mono (fun a b step => step.2) _ _ way
  · rw [Table.get?_insert_of_ne _ _ same] at found
    obtain ⟨stamp, checked, vouched⟩ := coherent.kept name problems found
    -- A check edits nothing, so other results owe what they owed and the graph still pays.
    have unchanged : ∀ x, (analysis.refresh view root).dirty.editedAfter stamp x =
        analysis.dirty.editedAfter stamp x :=
      DirtySet.editedAfter_markChecked analysis.dirty root stamp
    refine ⟨stamp, by simpa [same] using checked, ?_, ?_⟩
    · intro x way unedited y required
      simp only [Settled, unchanged] at way unedited
      exact mem_edges_refresh step bounded root required
        (Or.inr (vouched.recorded x way unedited y required))
    · intro unedited
      simp only [unchanged] at unedited
      exact vouched.report unedited

theorem Coherent.ensureFresh (coherent : analysis.Coherent view) (bounded : view.Bounded)
    (name : ModuleName) : (analysis.ensureFresh view name).Coherent view :=
  ensureFresh_induction (·.Coherent view) coherent (coherent.refresh bounded name)

/-! ## Answers -/

/-- A module that is not stale reaches nothing that was edited after its check. -/
theorem Coherent.report_of_isFresh (coherent : analysis.Coherent view) {name : ModuleName}
    (fresh : analysis.isFresh name = true) : view.Reports name (analysis.problems name) := by
  simp only [isFresh, isStale, Table.contains, Bool.and_eq_true, Bool.not_eq_true',
    Bool.or_eq_false_iff] at fresh
  obtain ⟨present, calm, -⟩ := fresh
  obtain ⟨problems, found⟩ := Option.isSome_iff_exists.mp present
  obtain ⟨stamp, checked, vouched⟩ := coherent.kept name problems found
  obtain ⟨found_at, again, clean, unedited⟩ :=
    (DirtySet.isStale_eq_false_iff analysis.dirty name analysis.graph).mp calm
  obtain rfl : stamp = found_at := by simpa [checked] using again
  have settled : ∀ x, Reaches analysis.graph.requiredBy name x →
      analysis.dirty.editedAfter stamp x = false := by
    intro x way
    by_cases same : x = name
    · exact same ▸ coherent.timed.clean name stamp checked clean
    · exact unedited x way same
  -- Each step along the requires was recorded, so it is also a step of the graph.
  have along : ∀ x, Reaches view.requires name x →
      Settled analysis.dirty view stamp name x ∧ Reaches analysis.graph.requiredBy name x := by
    intro x way
    induction way with
    | refl => exact ⟨.refl, .refl⟩
    | @tail y z _ step ih =>
      have calm := settled y ih.2
      exact ⟨ih.1.tail ⟨calm, step⟩, ih.2.tail (vouched.recorded y ih.1 calm z step)⟩
  have report := vouched.report fun x way => settled x (along x way).2
  simpa [Analysis.problems, found] using report

/-- A query answers with what a check from scratch would report. -/
theorem Coherent.report_ensureFresh (coherent : analysis.Coherent view) (bounded : view.Bounded)
    (name : ModuleName) :
    view.Reports name ((analysis.ensureFresh view name).problems name) := by
  unfold Analysis.ensureFresh
  split
  next fresh => exact coherent.report_of_isFresh fresh
  · have found : (analysis.refresh view name).problems name =
        (analysis.engine.check view name).1 := by
      simp [Analysis.problems, Analysis.refresh, Engine.check]
    rw [found]
    exact coherent.inStep.reports_check bounded name

theorem Coherent.source?_ensureFresh (coherent : analysis.Coherent view) (bounded : view.Bounded)
    (name : ModuleName) :
    (analysis.ensureFresh view name).source? name = (view.parsed? name).map (·.source) := by
  unfold Analysis.ensureFresh
  split
  next fresh =>
    simp only [isFresh, isStale, Bool.and_eq_true, Bool.not_eq_true', Bool.or_eq_false_iff] at fresh
    rw [Analysis.source?, LineEngine.source?_eq, coherent.inStep name fresh.2.2]
  · rw [Analysis.source?, LineEngine.source?_eq, Analysis.refresh, LineEngine.check_eq,
      coherent.inStep.parsed_check bounded .refl]

end Analysis

end LuauWorkspace
