import LuauWorkspace.Engine.Scripted
import LuauWorkspace.Proofs.Aliases

/-!
# When the engine runs

A question has the engine run in three cases that are kept apart: its result was dropped over the
recorded edges, something behind it was edited after its check, or the engine itself holds it for
dirty. Over an engine whose modules do not change they come to one: the module was never checked,
or since its last check everything was invalidated or something was marked that it reaches over
its requires, itself included. The invariant is that edges are only recorded where a script
requires something, and that all of them are recorded behind a module that was checked.
-/
namespace LuauWorkspace

open Requires (DirtyReason DirtySet Graph)
open Traversal (Reaches)

/-- What is asked of the memoized checks. -/
inductive Call where
  | marking (name : ModuleName) (reason : DirtyReason)
  | ensuring (view : SourceView) (name : ModuleName)
  | invalidating

/-- The call marks the module, something that the module reaches, or everything. -/
def Call.Disturbs (requires : ModuleName → List ModuleName) (name : ModuleName) : Call → Prop
  | marking marked _ => Reaches requires name marked
  | ensuring _ _ => False
  | invalidating => True

namespace Analysis

section

variable {ε : Type} [Engine ε]

def perform (analysis : Analysis ε) : Call → Analysis ε
  | .marking name reason => analysis.markDirty name reason
  | .ensuring view name => analysis.ensureFresh view name
  | .invalidating => analysis.invalidateAll

/-- The memoized checks after some calls, the latest call first. -/
def after (engine : ε) : List Call → Analysis ε
  | [] => { engine }
  | call :: earlier => (after engine earlier).perform call

/-- How often the engine checked a module. -/
def checkCount (analysis : Analysis ε) (name : ModuleName) : Nat :=
  Engine.checkCount analysis.engine name

/-- The calls after the last one that had the engine check the module, if one had. -/
def sinceCheck (engine : ε) (name : ModuleName) : List Call → Option (List Call)
  | [] => none
  | call :: earlier =>
    if (after engine (call :: earlier)).checkCount name = (after engine earlier).checkCount name
    then (sinceCheck engine name earlier).map (call :: ·)
    else some []

end

variable {scripts : Table ModuleName ModuleScript} {analysis : Analysis ScriptedEngine}

/-- The module was not checked yet, or was disturbed since its last check. -/
def Due (scripts : Table ModuleName ModuleScript) (name : ModuleName) (calls : List Call) : Prop :=
  ∀ since, sinceCheck { scripts : ScriptedEngine } name calls = some since →
    ∃ call ∈ since, call.Disturbs (ScriptedEngine.requires { scripts }) name

/-! ## Edges and scripts -/

/-- Every recorded edge is a require of a script, and behind a checked module none is missing. -/
structure Recorded (analysis : Analysis ScriptedEngine)
    (scripts : Table ModuleName ModuleScript) : Prop where
  scripted : analysis.engine.scripts = scripts
  timed : analysis.dirty.Timed
  required : ∀ a b, b ∈ analysis.graph.requiredBy a → b ∈ ScriptedEngine.requires { scripts } a
  complete : ∀ name stamp, analysis.dirty.checkedAt? name = some stamp →
    ∀ a, Reaches (ScriptedEngine.requires { scripts }) name a →
      ∀ b ∈ ScriptedEngine.requires { scripts } a, b ∈ analysis.graph.requiredBy a

theorem recorded_new (scripts : Table ModuleName ModuleScript) :
    Recorded { engine := { scripts } } scripts :=
  ⟨rfl, DirtySet.timed_empty, fun _ _ edge => by simp at edge,
    fun _ _ found => by simp [DirtySet.checkedAt?] at found⟩

theorem Recorded.reaches_iff (recorded : analysis.Recorded scripts) {name : ModuleName}
    {stamp : Nat} (checked : analysis.dirty.checkedAt? name = some stamp) (other : ModuleName) :
    Reaches analysis.graph.requiredBy name other ↔
      Reaches (ScriptedEngine.requires { scripts }) name other := by
  constructor
  · exact Relation.ReflTransGen.mono recorded.required name other
  · intro way
    induction way with
    | refl => exact .refl
    | tail before step ih => exact ih.tail (recorded.complete name stamp checked _ before _ step)

theorem Recorded.markDirty (recorded : analysis.Recorded scripts) (marked : ModuleName)
    (reason : DirtyReason) : (analysis.markDirty marked reason).Recorded scripts where
  scripted := recorded.scripted
  timed := recorded.timed.markDirty marked reason
  required := recorded.required
  complete name stamp checked := by
    refine recorded.complete name stamp ?_
    rwa [Analysis.markDirty, DirtySet.checkedAt?_markDirty] at checked

theorem scripts_foldl_markDirty (names : List ModuleName) (engine : ScriptedEngine) :
    (names.foldl Engine.markDirty engine).scripts = engine.scripts ∧
      (names.foldl Engine.markDirty engine).checkCounts = engine.checkCounts :=
  List.foldlRecOn (motive := fun after : ScriptedEngine =>
    after.scripts = engine.scripts ∧ after.checkCounts = engine.checkCounts) names _ ⟨rfl, rfl⟩
    fun _ same _ _ => same

theorem Recorded.invalidateAll (recorded : analysis.Recorded scripts) :
    analysis.invalidateAll.Recorded scripts where
  scripted := (scripts_foldl_markDirty _ _).1.trans recorded.scripted
  timed := recorded.timed.invalidateAll
  required := recorded.required
  complete name stamp checked := by
    refine recorded.complete name stamp ?_
    rwa [Analysis.invalidateAll, DirtySet.invalidateAll, DirtySet.checkedAt?_foldl_markDirty]
      at checked

theorem requires_of_scripts {engine : ScriptedEngine} (scripted : engine.scripts = scripts) :
    requires engine = ScriptedEngine.requires { scripts } := by
  funext name
  subst scripted
  rfl

/-- A check of `root` records the requires of what it reaches and leaves other edges alone. -/
theorem Recorded.mem_refresh_iff (recorded : analysis.Recorded scripts) (view : SourceView)
    (root a b : ModuleName) :
    b ∈ (analysis.refresh view root).graph.requiredBy a ↔
      (Reaches (ScriptedEngine.requires { scripts }) root a ∧
        b ∈ ScriptedEngine.requires { scripts } a) ∨ b ∈ analysis.graph.requiredBy a := by
  have scripted : (analysis.engine.check root).2.scripts = scripts := recorded.scripted
  have listed : ∀ name, (Engine.source? (analysis.engine.check root).2 name).isSome →
      name ∈ Engine.known (analysis.engine.check root).2 := by
    intro name parsed
    obtain ⟨source, found⟩ := Option.isSome_iff_exists.mp parsed
    obtain ⟨script, held, -⟩ := Option.bind_eq_some_iff.mp found
    exact Table.mem_keys_of_get? held
  -- What requires something is parsed, so a check that reaches it records that.
  have parsed : ∀ name, b ∈ requires (analysis.engine.check root).2 name →
      (Engine.source? (analysis.engine.check root).2 name).isSome := by
    intro name required
    cases found : Engine.source? (analysis.engine.check root).2 name with
    | none => simp [requires, found] at required
    | some source => rfl
  refine (mem_recordRequires_iff _ _ root listed a b).trans ?_
  rw [Renews, requires_of_scripts scripted]
  constructor
  · rintro (⟨⟨way, -⟩, edge⟩ | ⟨-, edge⟩)
    · exact Or.inl ⟨way, edge⟩
    · exact Or.inr edge
  · intro edge
    have required : b ∈ ScriptedEngine.requires { scripts } a :=
      edge.elim And.right (recorded.required a b)
    have present := parsed a (requires_of_scripts scripted ▸ required)
    by_cases way : Reaches (ScriptedEngine.requires { scripts }) root a
    · exact Or.inl ⟨⟨way, present⟩, required⟩
    · exact Or.inr ⟨fun renews => way renews.1, edge.resolve_left fun new => way new.1⟩

theorem Recorded.refresh (recorded : analysis.Recorded scripts) (view : SourceView)
    (root : ModuleName) : (analysis.refresh view root).Recorded scripts where
  scripted := recorded.scripted
  timed := recorded.timed.markChecked root
  required a b edge := by
    rw [recorded.mem_refresh_iff view root] at edge
    exact edge.elim And.right (recorded.required a b)
  complete name stamp checked a way b required := by
    rw [recorded.mem_refresh_iff view root]
    change (analysis.dirty.markChecked root).checkedAt? name = some stamp at checked
    rw [DirtySet.checkedAt?_markChecked] at checked
    by_cases same : name = root
    · exact Or.inl ⟨same ▸ way, required⟩
    · rw [if_neg same] at checked
      exact Or.inr (recorded.complete name stamp checked a way b required)

theorem Recorded.ensureFresh (recorded : analysis.Recorded scripts) (view : SourceView)
    (name : ModuleName) : (analysis.ensureFresh view name).Recorded scripts :=
  ensureFresh_induction (·.Recorded scripts) recorded (recorded.refresh view name)

theorem recorded_after (scripts : Table ModuleName ModuleScript) (calls : List Call) :
    (after { scripts : ScriptedEngine } calls).Recorded scripts := by
  induction calls with
  | nil => exact recorded_new scripts
  | cons call earlier ih =>
    cases call with
    | marking name reason => exact ih.markDirty name reason
    | ensuring view name => exact ih.ensureFresh view name
    | invalidating => exact ih.invalidateAll

/-! ## Freshness after one call -/

theorem exists_checkedAt_of_isFresh {name : ModuleName} (fresh : analysis.isFresh name = true) :
    ∃ stamp, analysis.dirty.checkedAt? name = some stamp := by
  obtain ⟨-, calm, -⟩ := (isFresh_iff name).mp fresh
  obtain ⟨stamp, checked, -⟩ := (DirtySet.isStale_eq_false_iff _ name _).mp calm
  exact ⟨stamp, checked⟩

theorem isDirty_markDirty (engine : ScriptedEngine) (marked name : ModuleName) :
    Engine.isDirty (Engine.markDirty engine marked) name = false ↔
      name ≠ marked ∧ Engine.isDirty engine name = false := by
  simp [Engine.isDirty, Engine.markDirty, List.mem_insert_iff, and_assoc]

theorem Recorded.isFresh_markDirty_iff (recorded : analysis.Recorded scripts)
    (marked : ModuleName) (reason : DirtyReason) (name : ModuleName) :
    (analysis.markDirty marked reason).isFresh name = true ↔
      analysis.isFresh name = true ∧
        ¬ Reaches (ScriptedEngine.requires { scripts }) name marked := by
  have along : (analysis.markDirty marked reason).isFresh name = true ↔
      analysis.isFresh name = true ∧ ¬ Reaches analysis.graph.requiredBy name marked := by
    have stale := DirtySet.isStale_markDirty_iff recorded.timed marked reason name analysis.graph
    by_cases way : Reaches analysis.graph.requiredBy name marked
    · refine iff_of_false (fun fresh => ?_) fun kept => kept.2 way
      have calm := ((isFresh_iff name).mp fresh).2.1
      exact Bool.false_ne_true (calm.symm.trans (stale.mpr (Or.inr way)))
    · have other : name ≠ marked := fun same => way (same ▸ .refl)
      have independent : name ∉ analysis.graph.dependents marked := fun dependent =>
        way ((Graph.mem_dependents_iff _ name marked).mp dependent).1
      have calm : (analysis.dirty.markDirty marked reason).isStale name analysis.graph =
          analysis.dirty.isStale name analysis.graph := by
        rw [Bool.eq_iff_iff, stale, or_iff_left way]
      rw [isFresh_iff, isFresh_iff, Analysis.markDirty, get?_foldl_erase, if_neg independent,
        calm, isDirty_markDirty]
      simp [other, way]
  rw [along]
  refine and_congr_right fun fresh => ?_
  obtain ⟨stamp, checked⟩ := exists_checkedAt_of_isFresh fresh
  rw [recorded.reaches_iff checked]

theorem Recorded.isFresh_refresh_self (recorded : analysis.Recorded scripts) (view : SourceView)
    (name : ModuleName) : (analysis.refresh view name).isFresh name = true :=
  isFresh_refresh recorded.timed (by simp [Engine.check, ScriptedEngine.check, Engine.isDirty])

theorem Recorded.isFresh_refresh_of_ne (recorded : analysis.Recorded scripts) (view : SourceView)
    {root name : ModuleName} (other : name ≠ root) :
    (analysis.refresh view root).isFresh name = true ↔ analysis.isFresh name = true := by
  have results : (analysis.refresh view root).results.get? name = analysis.results.get? name :=
    Table.get?_insert_of_ne _ _ other
  have engine : Engine.isDirty (analysis.refresh view root).engine name =
      Engine.isDirty analysis.engine name := by
    simp [Analysis.refresh, Engine.check, ScriptedEngine.check, Engine.isDirty, other]
  have checkedAt : (analysis.refresh view root).dirty.checkedAt? name =
      analysis.dirty.checkedAt? name :=
    (DirtySet.checkedAt?_markChecked analysis.dirty root name).trans (if_neg other)
  have dirty : (analysis.refresh view root).dirty.isDirty name = analysis.dirty.isDirty name :=
    analysis.dirty.isDirty_markChecked_of_ne root other
  have edited : ∀ stamp x, (analysis.refresh view root).dirty.editedAfter stamp x =
      analysis.dirty.editedAfter stamp x := analysis.dirty.editedAfter_markChecked root
  have later := recorded.refresh view root
  rw [isFresh_iff, isFresh_iff, results, engine, DirtySet.isStale_eq_false_iff,
    DirtySet.isStale_eq_false_iff]
  simp only [checkedAt, dirty, edited]
  -- Both graphs lead from a checked module to what its script reaches.
  have ways : ∀ stamp, analysis.dirty.checkedAt? name = some stamp → ∀ x,
      Reaches (analysis.refresh view root).graph.requiredBy name x ↔
        Reaches analysis.graph.requiredBy name x := fun stamp checked x =>
    (later.reaches_iff (checkedAt.trans checked) x).trans (recorded.reaches_iff checked x).symm
  refine and_congr_right fun _ => and_congr_left fun _ => exists_congr fun stamp =>
    and_congr_right fun checked => and_congr_right fun _ => forall_congr' fun x => ?_
  rw [ways stamp checked x]

/-! ## Counting checks -/

section

variable (analysis : Analysis ScriptedEngine)

theorem checkCount_invalidateAll (name : ModuleName) :
    analysis.invalidateAll.checkCount name = analysis.checkCount name :=
  congrArg (fun counts : Table ModuleName Nat => (counts.get? name).getD 0)
    (scripts_foldl_markDirty _ _).2

theorem checkCount_ensureFresh (view : SourceView) (asked name : ModuleName) :
    (analysis.ensureFresh view asked).checkCount name =
      analysis.checkCount name +
        if name = asked ∧ analysis.isFresh name = false then 1 else 0 := by
  by_cases fresh : analysis.isFresh asked = true
  · rw [analysis.ensureFresh_of_isFresh view asked fresh, if_neg, Nat.add_zero]
    rintro ⟨rfl, stale⟩
    simp [fresh] at stale
  · rw [Bool.not_eq_true] at fresh
    rw [analysis.ensureFresh_of_not_isFresh view asked fresh]
    by_cases same : name = asked
    · subst same
      simp [fresh, checkCount, Analysis.refresh, Engine.check, Engine.checkCount,
        ScriptedEngine.check, ScriptedEngine.checkCount]
    · simp [same, checkCount, Analysis.refresh, Engine.check, Engine.checkCount,
        ScriptedEngine.check, ScriptedEngine.checkCount, Table.get?_insert_of_ne _ _ same]

end

/-! ## Due checks -/

theorem due_nil (name : ModuleName) : Due scripts name [] :=
  fun _ none => by simp [sinceCheck] at none

/-- A call that has the engine check the module leaves nothing due. -/
theorem not_due_of_checked {name : ModuleName} {call : Call} {calls : List Call}
    (checked : (after { scripts : ScriptedEngine } (call :: calls)).checkCount name ≠
      (after { scripts : ScriptedEngine } calls).checkCount name) :
    ¬ Due scripts name (call :: calls) := by
  intro due
  obtain ⟨_, nothing, -⟩ := due [] (by rw [sinceCheck, if_neg checked])
  simp at nothing

theorem due_cons_iff (scripts : Table ModuleName ModuleScript) (name : ModuleName) (call : Call)
    (calls : List Call)
    (idle : (after { scripts : ScriptedEngine } (call :: calls)).checkCount name =
      (after { scripts : ScriptedEngine } calls).checkCount name) :
    Due scripts name (call :: calls) ↔
      Due scripts name calls ∨ call.Disturbs (ScriptedEngine.requires { scripts }) name := by
  rw [Due, sinceCheck, if_pos idle, Due]
  cases sinceCheck { scripts : ScriptedEngine } name calls with
  | none => simp
  | some since => simp [or_comm]

theorem isFresh_after_iff (scripts : Table ModuleName ModuleScript) (calls : List Call)
    (name : ModuleName) :
    (after { scripts : ScriptedEngine } calls).isFresh name = true ↔ ¬ Due scripts name calls := by
  induction calls with
  | nil => simp [due_nil, isFresh, after, Table.contains]
  | cons call earlier ih =>
    have recorded := recorded_after scripts earlier
    cases call with
    | marking marked reason =>
      rw [due_cons_iff _ _ _ _ rfl, not_or, ← ih]
      exact recorded.isFresh_markDirty_iff marked reason name
    | invalidating =>
      have stale : (after { scripts : ScriptedEngine } (.invalidating :: earlier)).isFresh name =
          false := isFresh_invalidateAll _ name
      have due : Due scripts name (.invalidating :: earlier) :=
        (due_cons_iff scripts name .invalidating earlier
          (checkCount_invalidateAll _ name)).mpr (Or.inr trivial)
      exact iff_of_false (by simp [stale]) (not_not_intro due)
    | ensuring view asked =>
      have counted := checkCount_ensureFresh (after { scripts } earlier) view asked name
      by_cases runs : name = asked ∧ (after { scripts : ScriptedEngine } earlier).isFresh name = false
      · obtain ⟨rfl, stale⟩ := runs
        have fresh := recorded.isFresh_refresh_self view name
        rw [after, perform, Analysis.ensureFresh_of_not_isFresh _ view name stale]
        refine iff_of_true fresh (not_due_of_checked ?_)
        rw [after, perform, counted, if_pos ⟨rfl, stale⟩]
        omega
      · rw [if_neg runs, Nat.add_zero] at counted
        have due : Due scripts name (.ensuring view asked :: earlier) ↔ Due scripts name earlier :=
          (due_cons_iff scripts name (.ensuring view asked) earlier counted).trans (or_iff_left id)
        rw [due, ← ih, after, perform]
        by_cases same : name = asked
        · subst same
          have fresh : (after { scripts : ScriptedEngine } earlier).isFresh name = true := by
            simpa using runs
          rw [Analysis.ensureFresh_of_isFresh _ view name fresh]
        · unfold Analysis.ensureFresh
          split
          · rfl
          · exact recorded.isFresh_refresh_of_ne view same

/-- Whatever was asked before, a question has the engine check its module if and only if that is
due, and otherwise it changes nothing. -/
theorem ensureFresh_runs_iff (scripts : Table ModuleName ModuleScript) (calls : List Call)
    (view : SourceView) (name : ModuleName) :
    let before := after { scripts : ScriptedEngine } calls
    ((before.ensureFresh view name).checkCount name = before.checkCount name + 1 ↔
      Due scripts name calls) ∧
    (¬ Due scripts name calls → before.ensureFresh view name = before) ∧
    (∀ other, other ≠ name →
      (before.ensureFresh view name).checkCount other = before.checkCount other) ∧
    (∀ marked reason, Due scripts name (.marking marked reason :: calls) ↔
      Due scripts name calls ∨ Reaches (ScriptedEngine.requires { scripts }) name marked) ∧
    ¬ Due scripts name (.ensuring view name :: calls) := by
  intro before
  have fresh : before.isFresh name = true ↔ ¬ Due scripts name calls :=
    isFresh_after_iff scripts calls name
  refine ⟨?_, fun calm => ?_, fun other differs => ?_, fun marked reason => ?_, ?_⟩
  · rw [checkCount_ensureFresh, ← not_iff_not, ← fresh]
    cases before.isFresh name <;> simp
  · exact before.ensureFresh_of_isFresh view name (fresh.mpr calm)
  · rw [checkCount_ensureFresh, if_neg fun here => differs here.1, Nat.add_zero]
  · exact due_cons_iff _ _ _ _ rfl
  · rw [← isFresh_after_iff, after, perform]
    unfold Analysis.ensureFresh
    split
    · assumption
    · exact (recorded_after scripts calls).isFresh_refresh_self view name

end Analysis

end LuauWorkspace
