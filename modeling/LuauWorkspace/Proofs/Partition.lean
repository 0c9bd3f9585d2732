import LuauWorkspace.Engine.Scripted
import LuauWorkspace.Proofs.Attribution
import Mathlib.Data.List.Perm.Basic

/-!
# Every problem in one place

The problems of a check are told apart by their owners. Those of the checked module are its items,
those of other modules go to the bucket of the file that their owner leads to, and what remains
has an owner without a file of an absolute path, or one that is ignored. Together these are the
problems of the check, none left out and none put in two places. Within a bucket equal
diagnostics are shown once, where the first of them stands.
-/
namespace LuauWorkspace

/-! ## First occurrences -/

section

variable {α : Type} [DecidableEq α]

/-- The values of a list, each once, in the order in which they come up first. -/
structure FirstOccurrences (values firsts : List α) : Prop where
  once : firsts.Nodup
  members : ∀ value, value ∈ firsts ↔ value ∈ values
  order : firsts.Pairwise fun one two => values.idxOf one < values.idxOf two

/-- Values that follow leave what stands in front of them in its order. -/
theorem FirstOccurrences.order_append {values firsts : List α}
    (shown : FirstOccurrences values firsts) (more : List α) :
    firsts.Pairwise fun one two => (values ++ more).idxOf one < (values ++ more).idxOf two := by
  apply shown.order.imp_of_mem
  intro one two first second before
  rwa [List.idxOf_append_of_mem ((shown.members one).mp first),
    List.idxOf_append_of_mem ((shown.members two).mp second)]

theorem FirstOccurrences.concat_old {values firsts : List α}
    (shown : FirstOccurrences values firsts) {last : α} (old : last ∈ values) :
    FirstOccurrences (values ++ [last]) firsts := by
  refine ⟨shown.once, fun value => ?_, shown.order_append [last]⟩
  rw [shown.members, List.mem_append, List.mem_singleton]
  constructor
  · exact Or.inl
  · rintro (member | rfl)
    · exact member
    · exact old

theorem FirstOccurrences.concat_new {values firsts : List α}
    (shown : FirstOccurrences values firsts) {last : α} (new : last ∉ values) :
    FirstOccurrences (values ++ [last]) (firsts ++ [last]) := by
  have absent : last ∉ firsts := fun member => new ((shown.members last).mp member)
  refine ⟨?_, fun value => ?_, ?_⟩
  · exact List.Nodup.append shown.once (List.nodup_singleton last) (by simpa using absent)
  · rw [List.mem_append, List.mem_append, shown.members]
  · refine List.pairwise_append.mpr
      ⟨shown.order_append [last], List.pairwise_singleton _ _, ?_⟩
    -- The last value stands behind all that were there.
    intro one first two second
    obtain rfl := List.mem_singleton.mp second
    have member := (shown.members one).mp first
    rw [List.idxOf_append_of_mem member, List.idxOf_append_of_notMem new]
    exact Nat.lt_add_right _ (List.idxOf_lt_length_iff.mpr member)

theorem firstOccurrences_eraseDups (values : List α) :
    FirstOccurrences values values.eraseDups := by
  induction values using List.reverseRecOn with
  | nil => exact ⟨List.nodup_nil, fun _ => Iff.rfl, List.Pairwise.nil⟩
  | append_singleton front last ih =>
    rw [List.eraseDups_append]
    by_cases old : last ∈ front
    · simpa [List.removeAll, old] using ih.concat_old old
    · simpa [List.removeAll, old, List.eraseDups_cons] using ih.concat_new old

end

/-- A list is made of what falls under each of some keys and what falls under none of them. -/
theorem perm_flatMap_filter {α κ : Type} [DecidableEq κ] (key? : α → Option κ) {keys : List κ}
    (once : keys.Nodup) (values : List α) :
    values.Perm ((keys.flatMap fun key => values.filter fun value => key? value = some key) ++
      values.filter fun value => ∀ key ∈ keys, key? value ≠ some key) := by
  -- The first key takes its part away, and the other keys share what is left.
  induction keys generalizing values with
  | nil => simp
  | cons first rest ih =>
    obtain ⟨fresh, others⟩ := List.nodup_cons.mp once
    let left := values.filter fun value => !decide (key? value = some first)
    have parts := ih others left
    -- What falls under a later key does not fall under the first one.
    have later : (rest.flatMap fun key => left.filter fun value => key? value = some key) =
        rest.flatMap fun key => values.filter fun value => key? value = some key := by
      refine List.flatMap_congr fun key member => ?_
      rw [List.filter_filter]
      refine List.filter_congr fun value _ => ?_
      have differs : key ≠ first := fun same => fresh (same ▸ member)
      by_cases here : key? value = some key <;> simp [here, differs]
    have remains : (left.filter fun value => ∀ key ∈ rest, key? value ≠ some key) =
        values.filter fun value => ∀ key ∈ first :: rest, key? value ≠ some key := by
      rw [List.filter_filter]
      refine List.filter_congr fun value _ => ?_
      simp [Bool.and_comm]
    rw [later, remains] at parts
    rw [List.flatMap_cons, List.append_assoc]
    exact (List.filter_append_perm (fun value => decide (key? value = some first)) values).symm.trans
      (parts.append_left _)

namespace DocumentDiagnostics

/-! ## Owners and files -/

section

variable (files : Files) (ignore : IgnoreGlobs) (owner : ModuleName)

/-- The owner leads to a file of an absolute path that no glob ignores. -/
def HasFile : Prop :=
  ∃ path, files.toReal? owner = some path ∧ path.isAbsolute = true ∧
    ignore.isIgnored (files.relative path) = false

/-- The owner leads to such a file, and the URI names it. -/
def FiledUnder (key : Uri) : Prop :=
  ∃ path, files.toReal? owner = some path ∧ path.isAbsolute = true ∧
    ignore.isIgnored (files.relative path) = false ∧ Uri.ofFilePath? path = some key

theorem filedUnder_iff (key : Uri) :
    FiledUnder files ignore owner key ↔ relatedUri? files ignore owner = some key := by
  rw [relatedUri?_eq_some_iff]
  constructor
  · rintro ⟨path, owns, -, shown, named⟩
    exact ⟨path, owns, shown, named⟩
  · rintro ⟨path, owns, shown, named⟩
    refine ⟨path, owns, ?_, shown, named⟩
    rw [← Uri.isSome_ofFilePath?, named, Option.isSome_some]

theorem hasFile_iff : HasFile files ignore owner ↔ ∃ key, FiledUnder files ignore owner key := by
  constructor
  · rintro ⟨path, owns, absolute, shown⟩
    obtain ⟨key, named⟩ := Option.isSome_iff_exists.mp ((Uri.isSome_ofFilePath? path).trans absolute)
    exact ⟨key, path, owns, absolute, shown, named⟩
  · rintro ⟨key, path, owns, absolute, shown, -⟩
    exact ⟨path, owns, absolute, shown⟩

instance (key : Uri) : Decidable (FiledUnder files ignore owner key) :=
  decidable_of_iff _ (filedUnder_iff files ignore owner key).symm

instance : Decidable (HasFile files ignore owner) :=
  decidable_of_iff ((relatedUri? files ignore owner).isSome = true) (by
    rw [hasFile_iff, Option.isSome_iff_exists]
    exact exists_congr fun key => (filedUnder_iff files ignore owner key).symm)

end

section

variable (files : Files) (ignore : IgnoreGlobs) (name : ModuleName) (problems : List Problem)

/-- The problems of other modules that belong to the file of a URI. -/
def filed (key : Uri) : List Problem :=
  problems.filter fun problem => problem.owner ≠ name ∧ FiledUnder files ignore problem.owner key

/-- The problems of other modules that belong to no file, or to one that is ignored. -/
def hidden : List Problem :=
  problems.filter fun problem => problem.owner ≠ name ∧ ¬ HasFile files ignore problem.owner

/-- The buckets hold what belongs to their files. With the problems of the module itself and the
hidden ones these are all problems. -/
structure Splits (related : Table Uri (List Diagnostic)) : Prop where
  once : related.keys.Nodup
  keys : ∀ key, key ∈ related.keys ↔
    ∃ problem ∈ problems, problem.owner ≠ name ∧ FiledUnder files ignore problem.owner key
  buckets : ∀ key bucket, related.get? key = some bucket →
    FirstOccurrences ((filed files ignore name problems key).map .ofProblem) bucket
  whole : problems.Perm (problems.filter (fun problem => problem.owner = name) ++
    related.keys.flatMap (filed files ignore name problems) ++ hidden files ignore name problems)

theorem filter_others (key : Uri) :
    ((problems.filter fun problem => problem.owner ≠ name).filter fun problem =>
      relatedUri? files ignore problem.owner = some key) = filed files ignore name problems key := by
  rw [List.filter_filter, filed]
  refine List.filter_congr fun problem _ => ?_
  simp [filedUnder_iff, Bool.and_comm]

/-- Everything with a file falls under the key of a bucket. -/
theorem filter_hidden {keys : List Uri}
    (all : ∀ key, key ∈ keys ↔
      ∃ problem ∈ problems, problem.owner ≠ name ∧ FiledUnder files ignore problem.owner key) :
    ((problems.filter fun problem => problem.owner ≠ name).filter fun problem =>
      ∀ key ∈ keys, relatedUri? files ignore problem.owner ≠ some key) =
        hidden files ignore name problems := by
  rw [List.filter_filter, hidden]
  refine List.filter_congr fun problem member => ?_
  rw [← Bool.decide_and, decide_eq_decide, and_comm]
  refine and_congr_right fun other => ?_
  rw [hasFile_iff, not_exists]
  constructor
  · intro nowhere key filed
    exact nowhere key ((all key).mpr ⟨problem, member, other, filed⟩)
      ((filedUnder_iff files ignore problem.owner key).mp filed)
  · intro nowhere key _ filed
    exact nowhere key ((filedUnder_iff files ignore problem.owner key).mpr filed)

theorem splits_foldl_relate :
    Splits files ignore name problems
      ((problems.filter fun problem => problem.owner ≠ name).foldl (relate files ignore) {}) := by
  let others := problems.filter fun problem => problem.owner ≠ name
  let related := others.foldl (relate files ignore) {}
  have once : related.keys.Nodup := nodup_keys_foldl_relate files ignore others List.nodup_nil
  have keys : ∀ key, key ∈ related.keys ↔
      ∃ problem ∈ problems, problem.owner ≠ name ∧ FiledUnder files ignore problem.owner key := by
    intro key
    rw [mem_keys_foldl_relate]
    simp [others, Table.keys, filedUnder_iff, and_assoc]
  refine ⟨once, keys, fun key bucket found => ?_, ?_⟩
  -- A bucket keeps the first of equal diagnostics, and there is none without a diagnostic.
  · rw [get?_foldl_relate, filter_others] at found
    unfold bucket? at found
    split at found
    · simp at found
    · obtain rfl := Option.some.inj found
      exact firstOccurrences_eraseDups _
  -- Each of the others has one URI or none, so the buckets and the hidden ones are all of them.
  · have parts := perm_flatMap_filter (fun problem => relatedUri? files ignore problem.owner) once
      others
    have buckets : (related.keys.flatMap fun key =>
        others.filter fun problem => relatedUri? files ignore problem.owner = some key) =
        related.keys.flatMap (filed files ignore name problems) :=
      List.flatMap_congr fun key _ => filter_others files ignore name problems key
    rw [buckets, filter_hidden files ignore name problems keys] at parts
    have halves := List.filter_append_perm (fun problem => decide (problem.owner = name)) problems
    have rest : (problems.filter fun problem => !decide (problem.owner = name)) = others := by
      simp [others]
    rw [rest] at halves
    rw [List.append_assoc]
    exact halves.symm.trans (parts.append_left _)

end

/-- What is shown of a check: as items the problems of the module, in their order, then its lints,
first the errors and then the warnings, and under other files the problems that belong there, or
nothing at all where those are not asked for. -/
theorem partition_ofAnalysis {ε : Type} [Engine ε] (analysis : Analysis ε) (files : Files)
    (disk : Disk) (ignore : IgnoreGlobs) (includeDependents : Bool) (name : ModuleName)
    (parsed : ((analysis.ensureFresh (files.view disk) name).source? name).isSome) :
    let fresh := analysis.ensureFresh (files.view disk) name
    let answer := ofAnalysis fresh files ignore includeDependents name
    let lints := Engine.lint fresh.engine name
    answer.items =
        ((fresh.problems name).filter fun problem => problem.owner = name).map .ofProblem ++
          lints.errors.map (.ofLint .error) ++ lints.warnings.map (.ofLint .warning) ∧
      (includeDependents = true → Splits files ignore name (fresh.problems name) answer.related) ∧
      (includeDependents = false → answer.related.entries = []) := by
  intro fresh answer lints
  obtain ⟨source, found⟩ := Option.isSome_iff_exists.mp parsed
  have shown : answer = ofProblems files ignore includeDependents name (fresh.problems name) lints := by
    simp only [answer, ofAnalysis, fresh, found]
    rfl
  rw [shown]
  refine ⟨?_, fun included => ?_, fun left => ?_⟩
  · simp [ofProblems, lintItems]
  · rw [ofProblems, if_pos included]
    exact splits_foldl_relate files ignore name (fresh.problems name)
  · rw [ofProblems, left]
    rfl

namespace Mixed

def name : ModuleName := ⟨"/place/main.luau"⟩

def problem (owner message : String) : Problem :=
  ⟨⟨owner⟩, ⟨⟨0, 0⟩, ⟨0, 1⟩⟩, .typing, 1000, message⟩

/-- A module whose check reports problems of itself, of another file, twice the same one, of an
ignored file and of an instance without a file. -/
def engine : ScriptedEngine where
  scripts := .ofList [(name, {
    source := some { name, nodes := #[], locals := #[], root := 0 }
    problems := [problem "/place/util.luau" "far", problem "/place/main.luau" "first",
      problem "game/Util" "nowhere", problem "/place/util.luau" "further",
      problem "/place/vendor/x.luau" "ignored", problem "/place/util.luau" "far",
      problem "/place/main.luau" "second"]
    lints := {
      errors := [⟨1, "Unknown", "strict", default⟩]
      warnings := [⟨2, "Unused", "loose", default⟩] } })]

def files : Files := { root := ⟨"/place"⟩ }

def ignore : IgnoreGlobs := .ofGlobs ["vendor/*"]

def fresh : Analysis ScriptedEngine :=
  ({ engine } : Analysis ScriptedEngine).ensureFresh (files.view ⟨⟨[]⟩⟩) name

def answer : DocumentDiagnostics := ofAnalysis fresh files ignore true name

end Mixed

theorem partition_ofAnalysis_mixed :
    (Mixed.fresh.source? Mixed.name).isSome ∧
      Mixed.answer.items.map (·.message) =
        ["TypeError: first", "TypeError: second", "Unknown: strict", "Unused: loose"] ∧
      Splits Mixed.files Mixed.ignore Mixed.name (Mixed.fresh.problems Mixed.name)
        Mixed.answer.related ∧
      Mixed.answer.related.entries.map (fun bucket => bucket.2.map (·.message)) =
        [["TypeError: far", "TypeError: further"]] ∧
      (hidden Mixed.files Mixed.ignore Mixed.name (Mixed.fresh.problems Mixed.name)).map
        (·.message) = ["nowhere", "ignored"] := by
  have parsed : (Mixed.fresh.source? Mixed.name).isSome := by decide +kernel
  obtain ⟨items, splits, -⟩ := partition_ofAnalysis { engine := Mixed.engine } Mixed.files ⟨⟨[]⟩⟩
    Mixed.ignore true Mixed.name parsed
  refine ⟨parsed, ?_, splits rfl, by decide +kernel, by decide +kernel⟩
  rw [Mixed.answer, Mixed.fresh, items]
  decide +kernel

end DocumentDiagnostics

end LuauWorkspace
