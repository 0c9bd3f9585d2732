import LuauWorkspace.Engine.Line
import LuauWorkspace.Proofs.Traversal
import Mathlib.Algebra.GroupWithZero.Nat

/-!
# Checks of the line engine

A check of the line engine never runs out of its budget, whatever the engine has parsed before.
An engine is in step with what it sees when each module that is not dirty is kept in its present
form. Its checks report what a check of everything from scratch would report, in the same order,
and keep it in step.
-/
namespace LuauWorkspace

open Line (Parsed)
open Traversal (Reaches Visits fair_lastFirst lastFirst)

namespace Table

variable {κ α : Type}

theorem total_eq_sum (t : Table κ α) (measure : α → Nat) :
    t.total measure = (t.entries.map fun entry => measure entry.2).sum := by
  obtain ⟨entries⟩ := t
  induction entries with
  | nil => rfl
  | cons entry rest ih =>
    simp only [total, List.foldr_cons, List.map_cons, List.sum_cons] at ih ⊢
    rw [ih]

end Table

namespace SourceView

variable (view : SourceView)

/-- The form that a module has as it can be read now. -/
def parsed? (name : ModuleName) : Option Parsed :=
  (view.read? name).map fun code => Line.parse view name code.text

def requires (name : ModuleName) : List ModuleName :=
  ((view.parsed? name).map (·.source.requires)).getD []

def problems (name : ModuleName) : List Problem :=
  ((view.parsed? name).map (·.problems)).getD []

/-- What a check of a module reports when everything is parsed from scratch. -/
def Reports (name : ModuleName) (problems : List Problem) : Prop :=
  ∃ order, Visits view.requires lastFirst [name] [] order ∧ problems = order.flatMap view.problems

/-- The extent bounds how many modules can be read among those that the texts require. -/
def Bounded : Prop :=
  ∃ names : List ModuleName, names.length ≤ view.extent ∧
    ∀ name, ∀ required ∈ view.requires name, (view.parsed? required).isSome → required ∈ names

variable {view}

theorem Reports.unique {name : ModuleName} {one two : List Problem}
    (first : view.Reports name one) (second : view.Reports name two) : one = two := by
  obtain ⟨order, run, rfl⟩ := first
  obtain ⟨other, again, rfl⟩ := second
  rw [run.unique again]

/-- A report depends on the modules that it reaches and on no others. -/
theorem Reports.congr {other : SourceView} {name : ModuleName} {problems : List Problem}
    (report : view.Reports name problems)
    (same : ∀ x, Reaches view.requires name x → view.parsed? x = other.parsed? x) :
    other.Reports name problems := by
  obtain ⟨order, run, rfl⟩ := report
  have visited : ∀ x ∈ order, view.parsed? x = other.parsed? x := fun x member =>
    same x ((run.mem_iff fair_lastFirst x).mp member)
  refine ⟨order, run.congr fun x member => by simp [requires, visited x member], ?_⟩
  have here : ∀ x ∈ order, view.problems x = other.problems x := fun x member => by
    simp [SourceView.problems, visited x member]
  rw [List.flatMap_def, List.flatMap_def, List.map_congr_left here]

end SourceView

namespace LineEngine

variable (engine : LineEngine) (view : SourceView) (root : ModuleName)

theorem source?_eq (name : ModuleName) :
    Engine.source? engine name = (engine.parsed.get? name).map (·.source) := rfl

/-- What is parsed is known. -/
theorem mem_known {name : ModuleName} (parsed : (Engine.source? engine name).isSome) :
    name ∈ Engine.known engine := by
  obtain ⟨_, found⟩ := Option.isSome_iff_exists.mp (Option.isSome_map.symm.trans parsed)
  exact Table.mem_keys_of_get? found

theorem check_eq : Engine.check engine view root = engine.check view root := rfl

theorem current?_of_read {name : ModuleName} (reads : name = root ∨ engine.isDirty name = true) :
    engine.current? view root name = view.parsed? name := by
  simp [current?, reads, SourceView.parsed?]

theorem current?_of_kept {name : ModuleName} (other : name ≠ root)
    (clean : engine.isDirty name = false) :
    engine.current? view root name = engine.parsed.get? name := by
  simp [current?, other, clean]

/-- The requires of every form that is kept. -/
def keptRequires : List ModuleName :=
  engine.parsed.entries.flatMap fun entry => entry.2.source.requires

theorem kept_fit :
    engine.parsed.keys.length + engine.keptRequires.length =
      engine.parsed.total fun parsed => parsed.source.requires.length + 1 := by
  obtain ⟨⟨entries⟩, seen, dirty, counts⟩ := engine
  simp only [Table.total_eq_sum, keptRequires, Table.keys]
  induction entries with
  | nil => rfl
  | cons entry rest ih =>
    simp only [List.map_cons, List.length_cons, List.flatMap_cons, List.length_append,
      List.sum_cons] at ih ⊢
    omega

/-- The budget is enough: what has requires is the start, can be read by a name that some text
holds, or is kept itself or named by what is kept. -/
theorem visits_order (bounded : view.Bounded) :
    Visits (engine.requires view root) lastFirst [root] [] (engine.order view root) := by
  obtain ⟨names, fits, readable⟩ := bounded
  have kept := engine.kept_fit
  apply Traversal.visits_order fair_lastFirst
    (root :: (names ++ (engine.parsed.keys ++ engine.keptRequires)))
  · simp only [List.length_cons, List.length_append, budget]
    omega
  intro x way busy
  rcases way.cases_tail with rfl | ⟨y, _, step⟩
  · exact List.mem_cons_self ..
  by_cases reads : x = root ∨ engine.isDirty x = true
  · rcases reads with rfl | dirty
    · exact List.mem_cons_self ..
    have present : (view.parsed? x).isSome := by
      rw [requires, engine.current?_of_read view root (Or.inr dirty)] at busy
      cases form : view.parsed? x with
      | none => simp [form] at busy
      | some _ => rfl
    -- The name comes from the text of `y` or from the form of `y` that is kept.
    by_cases fresh : y = root ∨ engine.isDirty y = true
    · rw [requires, engine.current?_of_read view root fresh] at step
      simp [readable y x step present]
    · simp only [not_or, Bool.not_eq_true] at fresh
      rw [requires, engine.current?_of_kept view root fresh.1 fresh.2] at step
      cases form : engine.parsed.get? y with
      | none => simp [form] at step
      | some parsed =>
        simp only [form, Option.map_some, Option.getD_some] at step
        have named : x ∈ engine.keptRequires :=
          List.mem_flatMap.mpr ⟨_, Table.mem_entries_of_get? form, step⟩
        simp [named]
  · simp only [not_or, Bool.not_eq_true] at reads
    -- What is neither read nor kept has no requires, so it costs no budget.
    rw [requires, engine.current?_of_kept view root reads.1 reads.2] at busy
    cases form : engine.parsed.get? x with
    | none => simp [form] at busy
    | some parsed => simp [Table.mem_keys_of_get? form]

theorem mem_order_iff (bounded : view.Bounded) (name : ModuleName) :
    name ∈ engine.order view root ↔ Reaches (engine.requires view root) root name :=
  (engine.visits_order view root bounded).mem_iff fair_lastFirst name

/-! ## What a check keeps -/

theorem parsed_foldl_record (names : List ModuleName) (now : LineEngine) (name : ModuleName) :
    (names.foldl (engine.record view root) now).parsed.get? name =
      if name ∈ names ∧ (name = root ∨ engine.isDirty name = true) then view.parsed? name
      else now.parsed.get? name := by
  induction names generalizing now with
  | nil => simp
  | cons first rest ih =>
    rw [List.foldl_cons, ih]
    -- The forms that are recorded come from the view, not from what the fold has built so far, so
    -- the last record of a name decides.
    by_cases later : name ∈ rest ∧ (name = root ∨ engine.isDirty name = true)
    · simp [later]
    by_cases same : name = first
    · subst same
      by_cases reads : name = root ∨ engine.isDirty name = true
      · have form := engine.current?_of_read view root reads
        cases found : view.parsed? name <;> simp_all [record]
      · simp_all [record]
    · have others : (engine.record view root now first).parsed.get? name =
          now.parsed.get? name := by
        simp only [record]
        split
        · split <;> simp [Table.get?_insert, Table.get?_erase, same]
        · rfl
      simp [others, same]

theorem dirty_foldl_record (names : List ModuleName) (now : LineEngine) (name : ModuleName) :
    name ∈ (names.foldl (engine.record view root) now).dirty ↔
      name ∈ now.dirty ∧ ¬ (name ∈ names ∧ (name = root ∨ engine.isDirty name = true) ∧
        (view.parsed? name).isSome) := by
  induction names generalizing now with
  | nil => simp
  | cons first rest ih =>
    rw [List.foldl_cons, ih]
    by_cases reads : first = root ∨ engine.isDirty first = true
    · have form := engine.current?_of_read view root reads
      cases found : view.parsed? first with
      | none => by_cases same : name = first <;> simp_all [record]
      | some parsed => by_cases same : name = first <;> simp_all [record]
    · by_cases same : name = first <;> simp_all [record]

theorem parsed_check (name : ModuleName) :
    (engine.check view root).2.parsed.get? name =
      if name ∈ engine.order view root then engine.current? view root name
      else engine.parsed.get? name := by
  change ((engine.order view root).foldl (engine.record view root) _).parsed.get? name = _
  rw [parsed_foldl_record]
  by_cases reads : name = root ∨ engine.isDirty name = true
  · simp [reads, engine.current?_of_read view root reads]
  · have kept : engine.current? view root name = engine.parsed.get? name := by
      simp [current?, reads]
    simp [reads, kept]

theorem mem_dirty_check (name : ModuleName) :
    name ∈ (engine.check view root).2.dirty ↔
      name ∈ engine.dirty ∧ ¬ (name ∈ engine.order view root ∧
        (name = root ∨ engine.isDirty name = true) ∧ (view.parsed? name).isSome) :=
  engine.dirty_foldl_record view root _ _ name

variable {engine view root}

/-- When the forms that a check uses are right, it reports what a check from scratch would. -/
theorem reports_check_of_current (bounded : view.Bounded)
    (right : ∀ name, Reaches view.requires root name →
      engine.current? view root name = view.parsed? name) :
    view.Reports root (engine.check view root).1 ∧
      ∀ name, Reaches view.requires root name →
        (engine.check view root).2.parsed.get? name = view.parsed? name := by
  have requires : ∀ name, Reaches view.requires root name →
      view.requires name = engine.requires view root name := fun name way => by
    simp only [LineEngine.requires, right name way, SourceView.requires]
  -- The forms agree where the view leads, so both ways of following requires lead there.
  have ways : ∀ name, Reaches (engine.requires view root) root name ↔
      Reaches view.requires root name := fun name => (Traversal.Reaches.congr requires).symm
  have listed := fun name => (engine.mem_order_iff view root bounded name).trans (ways name)
  refine ⟨⟨engine.order view root, ?_, ?_⟩, fun name way => ?_⟩
  · refine (engine.visits_order view root bounded).congr fun name member => ?_
    exact (requires name ((listed name).mp member)).symm
  · have problems : ∀ name ∈ engine.order view root,
        engine.problems view root name = view.problems name := fun name member => by
      simp only [LineEngine.problems, right name ((listed name).mp member), SourceView.problems]
    change (engine.order view root).flatMap (engine.problems view root) = _
    rw [List.flatMap_def, List.flatMap_def, List.map_congr_left problems]
  · rw [LineEngine.parsed_check, if_pos ((listed name).mpr way), right name way]

/-! ## Being in step -/

variable (engine view)

/-- What is not dirty is kept in its present form. -/
def InStep : Prop :=
  ∀ name, engine.isDirty name = false → engine.parsed.get? name = view.parsed? name

variable {engine view}

theorem isDirty_eq_false_iff (name : ModuleName) :
    engine.isDirty name = false ↔ name ∉ engine.dirty ∧ (engine.parsed.get? name).isSome := by
  simp [isDirty, Table.contains]

theorem inStep_empty (view : SourceView) : InStep {} view := by
  intro name clean
  simp [isDirty_eq_false_iff] at clean

theorem InStep.current?_eq (step : engine.InStep view) (root : ModuleName) :
    engine.current? view root = view.parsed? := by
  funext name
  by_cases reads : name = root ∨ engine.isDirty name = true
  · exact engine.current?_of_read view root reads
  · simp only [not_or, Bool.not_eq_true] at reads
    rw [engine.current?_of_kept view root reads.1 reads.2, step name reads.2]

theorem InStep.reports_check (step : engine.InStep view) (bounded : view.Bounded)
    (root : ModuleName) : view.Reports root (engine.check view root).1 :=
  (reports_check_of_current bounded fun name _ => congrFun (step.current?_eq root) name).1

theorem InStep.check (step : engine.InStep view) (root : ModuleName) :
    (engine.check view root).2.InStep view := by
  intro name clean
  rw [isDirty_eq_false_iff, mem_dirty_check] at clean
  rw [parsed_check]
  split
  · rw [step.current?_eq]
  next absent =>
    apply step
    -- A module that the check did not reach was clean before it.
    rw [isDirty_eq_false_iff]
    rw [parsed_check, if_neg absent] at clean
    exact ⟨by simpa [absent] using clean.1, clean.2⟩

/-- What a check reaches is kept in its present form afterwards. -/
theorem InStep.parsed_check (step : engine.InStep view) (bounded : view.Bounded)
    {root name : ModuleName} (way : Reaches view.requires root name) :
    (engine.check view root).2.parsed.get? name = view.parsed? name :=
  (reports_check_of_current bounded fun name _ => congrFun (step.current?_eq root) name).2 name way

theorem InStep.markDirty (step : engine.InStep view) (name : ModuleName) :
    (Engine.markDirty engine name).InStep view := by
  intro other clean
  rw [isDirty_eq_false_iff] at clean
  apply step
  rw [isDirty_eq_false_iff]
  exact ⟨fun dirty => clean.1 (List.mem_insert_of_mem dirty), clean.2⟩

/-- An engine stays in step when only what is dirty changes. -/
theorem InStep.congr {other : SourceView} (step : engine.InStep view)
    (same : ∀ name, engine.isDirty name = false → view.parsed? name = other.parsed? name) :
    engine.InStep other := fun name clean => (step name clean).trans (same name clean)

end LineEngine

end LuauWorkspace
