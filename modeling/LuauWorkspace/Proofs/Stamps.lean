import LuauWorkspace.Requires.Dirty

/-!
# Stamps

Beside a dirty set stand the events that led to it, in their order and each with the time on the
clock. An invalidation edits all modules that there are, in any order. The stamps of a module are
those of its last edit and its last check, so the flag, the reason and the two stamps say the same,
and stamps of different modules can be compared instead of the events themselves.
-/
namespace LuauWorkspace.Requires

/-- What the clock ticks at. -/
inductive Event where
  | edited (name : ModuleName)
  | checked (name : ModuleName)
deriving DecidableEq

/-- A dirty set, and the events that led to it with their stamps. -/
structure Annals where
  set : DirtySet := {}
  stamped : List (Nat × Event) := []

namespace Annals

variable (annals : Annals)

def events : List Event := annals.stamped.map (·.2)

def mark (name : ModuleName) (reason : DirtyReason) : Annals where
  set := annals.set.markDirty name reason
  stamped := annals.stamped ++ [((annals.set.markDirty name reason).clock, .edited name)]

def check (name : ModuleName) : Annals where
  set := annals.set.markChecked name
  stamped := annals.stamped ++ [((annals.set.markChecked name).clock, .checked name)]

def invalidate (order : List ModuleName) : Annals :=
  order.foldl (fun annals name => annals.mark name .invalidated) annals

/-- What marks, checks and invalidations lead to. -/
inductive Reached : Annals → Prop
  | new : Reached {}
  | marked {annals : Annals} (reached : Reached annals) (name : ModuleName)
    (reason : DirtyReason) : Reached (annals.mark name reason)
  | checked {annals : Annals} (reached : Reached annals) (name : ModuleName) :
    Reached (annals.check name)
  | invalidated {annals : Annals} (reached : Reached annals) (order : List ModuleName)
    (all : order.Perm annals.set.modules.keys) : Reached (annals.invalidate order)

/-- The order of the table is one of those in which an invalidation may go. -/
theorem set_invalidate_keys :
    (annals.invalidate annals.set.modules.keys).set = annals.set.invalidateAll :=
  Eq.symm (List.foldl_hom Annals.set fun _ _ => rfl)

end Annals

/-! ## Last events -/

structure LastAt (events : List Event) (event : Event) (place : Nat) : Prop where
  here : events[place]? = some event
  last : ∀ later, events[later]? = some event → later ≤ place

/-- The stamp of the last event of a kind, if there was one. -/
inductive Dated (events : List Event) (event : Event) : Option Nat → Prop
  | never (absent : event ∉ events) : Dated events event none
  | last {place : Nat} (last : LastAt events event place) : Dated events event (some (place + 1))

variable {events : List Event} {event next : Event}

theorem LastAt.unique {one two : Nat} (first : LastAt events event one)
    (second : LastAt events event two) : one = two :=
  Nat.le_antisymm (second.last one first.here) (first.last two second.here)

theorem dated_concat_self (events : List Event) (event : Event) :
    Dated (events ++ [event]) event (some (events.length + 1)) := by
  refine .last ⟨List.getElem?_concat_length, fun later found => ?_⟩
  obtain ⟨inside, -⟩ := List.getElem?_eq_some_iff.mp found
  rw [List.length_append, List.length_singleton] at inside
  omega

theorem Dated.concat {stamp : Option Nat} (dated : Dated events event stamp)
    (other : next ≠ event) : Dated (events ++ [next]) event stamp := by
  -- The new event stands behind all places that count.
  have kept : ∀ {place : Nat}, (events ++ [next])[place]? = some event →
      events[place]? = some event := by
    intro place found
    rcases Nat.lt_or_ge place events.length with before | behind
    · rwa [List.getElem?_append_left before] at found
    · rw [List.getElem?_append_right behind, List.getElem?_singleton] at found
      split at found
      · exact absurd (Option.some.inj found) other
      · simp at found
  cases dated with
  | never absent =>
    refine .never fun member => ?_
    rcases List.mem_append.mp member with old | new
    · exact absent old
    · exact other (List.mem_singleton.mp new).symm
  | last last =>
    obtain ⟨inside, -⟩ := List.getElem?_eq_some_iff.mp last.here
    exact .last ⟨(List.getElem?_append_left inside).trans last.here,
      fun later found => last.last later (kept found)⟩

/-- Stamps begin at one and have a place each. -/
theorem Dated.bound {stamp : Option Nat} (dated : Dated events event stamp) :
    stamp.getD 0 ≤ events.length := by
  cases dated with
  | never absent => exact Nat.zero_le _
  | last last => exact (List.getElem?_eq_some_iff.mp last.here).1

theorem Dated.lt_iff {other : Event} {one : Option Nat} {stamp : Nat}
    (first : Dated events event one) (second : Dated events other (some stamp)) :
    stamp < one.getD 0 ↔
      ∃ place before, LastAt events event place ∧ LastAt events other before ∧ before < place := by
  cases second with
  | last early =>
    cases first with
    | never absent =>
      simp only [Option.getD_none, Nat.not_lt_zero, false_iff]
      rintro ⟨place, -, late, -⟩
      exact absent (List.mem_of_getElem? late.here)
    | last late =>
      simp only [Option.getD_some, Nat.add_lt_add_iff_right]
      constructor
      · exact fun later => ⟨_, _, late, early, later⟩
      · rintro ⟨place, before, again, also, later⟩
        rwa [late.unique again, early.unique also]

/-! ## What every operation keeps -/

/-- The flag of a module is that of its stamps, and there is a reason for it. -/
structure ModuleState.Coherent (state : ModuleState) : Prop where
  flag : state.dirty = true ↔ ∀ stamp ∈ state.checkedAt, stamp < state.editedAt
  reason : state.reason.isSome = state.dirty

theorem ModuleState.Coherent.dirty_iff {state : ModuleState} (coherent : state.Coherent) :
    state.dirty = true ↔
      state.checkedAt = none ∨ ∃ stamp, state.checkedAt = some stamp ∧ stamp < state.editedAt := by
  rw [coherent.flag]
  cases state.checkedAt <;> simp

namespace Annals

/-- Each event has the next stamp, and the stamps of a module are those of its last events. -/
structure Kept (annals : Annals) : Prop where
  clock : annals.set.clock = annals.events.length
  stamps : annals.stamped.map (·.1) = List.range' 1 annals.set.clock
  edited : ∀ name, ∃ stamp, Dated annals.events (.edited name) stamp ∧
    ((annals.set.modules.get? name).map (·.editedAt)).getD 0 = stamp.getD 0
  checked : ∀ name,
    Dated annals.events (.checked name) ((annals.set.modules.get? name).bind (·.checkedAt))
  coherent : ∀ name state, annals.set.modules.get? name = some state → state.Coherent

variable {annals : Annals}

theorem kept_new : Kept {} where
  clock := rfl
  stamps := rfl
  edited _ := ⟨none, .never List.not_mem_nil, rfl⟩
  checked _ := .never List.not_mem_nil
  coherent _ _ found := by simp at found

/-- An event comes with a state for its module, whose stamps and flag are in order. -/
theorem Kept.concat (kept : annals.Kept) {event : Event} {name : ModuleName} {state : ModuleState}
    (edited : ∃ stamp, Dated (annals.events ++ [event]) (.edited name) stamp ∧
      state.editedAt = stamp.getD 0)
    (checked : Dated (annals.events ++ [event]) (.checked name) state.checkedAt)
    (coherent : state.Coherent)
    (apart : ∀ other, other ≠ name → event ≠ .edited other ∧ event ≠ .checked other) :
    Kept {
      set := ⟨annals.set.clock + 1, annals.set.modules.insert name state⟩
      stamped := annals.stamped ++ [(annals.set.clock + 1, event)] } := by
  have events : Annals.events {
      set := ⟨annals.set.clock + 1, annals.set.modules.insert name state⟩
      stamped := annals.stamped ++ [(annals.set.clock + 1, event)] } =
      annals.events ++ [event] := List.map_append
  refine ⟨?_, ?_, fun other => ?_, fun other => ?_, fun other found there => ?_⟩
  · rw [events, List.length_append, List.length_singleton, kept.clock]
  · rw [List.map_append, kept.stamps, List.map_singleton, List.range'_1_concat, Nat.add_comm 1]
  · rw [events]
    by_cases same : other = name
    · subst same
      simpa using edited
    · obtain ⟨stamp, dated, right⟩ := kept.edited other
      rw [Table.get?_insert_of_ne _ _ same]
      exact ⟨stamp, dated.concat (apart other same).1, right⟩
  · rw [events]
    by_cases same : other = name
    · subst same
      simpa using checked
    · rw [Table.get?_insert_of_ne _ _ same]
      exact (kept.checked other).concat (apart other same).2
  · by_cases same : other = name
    · subst same
      rw [Table.get?_insert_self] at there
      exact Option.some.inj there ▸ coherent
    · rw [Table.get?_insert_of_ne _ _ same] at there
      exact kept.coherent other found there

theorem Kept.mark (kept : annals.Kept) (name : ModuleName) (reason : DirtyReason) :
    (annals.mark name reason).Kept := by
  have edited := dated_concat_self annals.events (.edited name)
  have checked : Dated (annals.events ++ [.edited name]) (.checked name) _ :=
    (kept.checked name).concat (by simp)
  refine kept.concat ⟨_, edited, congrArg (· + 1) kept.clock⟩ checked ⟨?_, rfl⟩
    fun other differs => ⟨by simpa using differs.symm, by simp⟩
  -- Every check that there was came before.
  refine iff_of_true rfl fun stamp found => Nat.lt_succ_of_le ?_
  have past := (kept.checked name).bound
  change (annals.set.modules.get? name).bind (·.checkedAt) = some stamp at found
  rwa [found, Option.getD_some, ← kept.clock] at past

theorem Kept.check (kept : annals.Kept) (name : ModuleName) : (annals.check name).Kept := by
  obtain ⟨stamp, dated, right⟩ := kept.edited name
  have checked := dated_concat_self annals.events (.checked name)
  rw [← kept.clock] at checked
  refine kept.concat ⟨stamp, dated.concat (by simp), right⟩ checked ⟨?_, rfl⟩
    fun other differs => ⟨by simp, by simpa using differs.symm⟩
  -- The check comes after every edit that there was.
  have past := dated.bound
  rw [← right, ← kept.clock] at past
  simpa using Nat.le_succ_of_le past

theorem Kept.invalidate (kept : annals.Kept) (order : List ModuleName) :
    (annals.invalidate order).Kept :=
  List.foldlRecOn (motive := Kept) order _ kept fun _ before name _ => before.mark name .invalidated

theorem Reached.kept (reached : annals.Reached) : annals.Kept := by
  induction reached with
  | new => exact kept_new
  | marked _ name reason before => exact before.mark name reason
  | checked _ name before => exact before.check name
  | invalidated _ order _ before => exact before.invalidate order

theorem Kept.editedAt_le (kept : annals.Kept) {name : ModuleName} {state : ModuleState}
    (found : annals.set.modules.get? name = some state) : state.editedAt ≤ annals.set.clock := by
  obtain ⟨stamp, dated, right⟩ := kept.edited name
  rw [found] at right
  change state.editedAt = stamp.getD 0 at right
  rw [right, kept.clock]
  exact dated.bound

theorem Kept.checkedAt_le (kept : annals.Kept) {name : ModuleName} {state : ModuleState}
    (found : annals.set.modules.get? name = some state) {stamp : Nat}
    (checked : state.checkedAt = some stamp) : stamp ≤ annals.set.clock := by
  have dated := kept.checked name
  rw [found, Option.bind_some, checked] at dated
  exact kept.clock ▸ dated.bound

/-- Instead of the last events of two modules their stamps can be compared. -/
theorem Kept.lt_editedAt_iff (kept : annals.Kept) {one two : ModuleName}
    {edited checked : ModuleState} (first : annals.set.modules.get? one = some edited)
    (second : annals.set.modules.get? two = some checked) {stamp : Nat}
    (recorded : checked.checkedAt = some stamp) :
    stamp < edited.editedAt ↔ ∃ edit check, LastAt annals.events (.edited one) edit ∧
      LastAt annals.events (.checked two) check ∧ check < edit := by
  obtain ⟨late, dated, right⟩ := kept.edited one
  have early := kept.checked two
  rw [first] at right
  rw [second, Option.bind_some, recorded] at early
  change edited.editedAt = late.getD 0 at right
  rw [right]
  exact dated.lt_iff early

/-- Marks, checks and invalidations take a stamp each. Flag, reason and stamps of a module agree,
and the stamps of two modules are in the order of the last edit of the one and the last check of
the other. -/
theorem Reached.flag_reason_stamps (reached : annals.Reached) :
    ((annals.stamped.map (·.1)).Nodup ∧ ∀ stamp ∈ annals.stamped.map (·.1),
      stamp ≤ annals.set.clock) ∧
    (∀ name state, annals.set.modules.get? name = some state →
      state.editedAt ≤ annals.set.clock ∧
      (∀ stamp, state.checkedAt = some stamp → stamp ≤ annals.set.clock) ∧
      (state.dirty = true ↔
        state.checkedAt = none ∨
          ∃ stamp, state.checkedAt = some stamp ∧ stamp < state.editedAt) ∧
      (state.reason.isSome = true ↔ state.dirty = true)) ∧
    ∀ a b one two stamp, annals.set.modules.get? a = some one →
      annals.set.modules.get? b = some two → two.checkedAt = some stamp →
      (stamp < one.editedAt ↔ ∃ edit check, LastAt annals.events (.edited a) edit ∧
        LastAt annals.events (.checked b) check ∧ check < edit) := by
  have kept := reached.kept
  refine ⟨⟨?_, fun stamp member => ?_⟩, fun name state found => ?_, ?_⟩
  · exact kept.stamps ▸ List.nodup_range'
  · rw [kept.stamps, List.mem_range'_1] at member
    omega
  · have coherent := kept.coherent name state found
    exact ⟨kept.editedAt_le found, fun _ => kept.checkedAt_le found, coherent.dirty_iff,
      by rw [coherent.reason]⟩
  · exact fun a b one two stamp first second checked => kept.lt_editedAt_iff first second checked

/-- A check creates the first entry, and an invalidation that goes the other way round than the
table puts its edit behind the check of the second. -/
theorem flag_reason_stamps_invalidated :
    let a : ModuleName := ⟨"a"⟩
    let b : ModuleName := ⟨"b"⟩
    let annals := ((((({} : Annals).check a).mark b .changed).check b).invalidate
      [a, b]).check a
    Reached annals ∧
      (∃ state, annals.set.modules.get? b = some state ∧ state.editedAt ≤ annals.set.clock ∧
        (state.dirty = true ↔
          state.checkedAt = none ∨
            ∃ stamp, state.checkedAt = some stamp ∧ stamp < state.editedAt)) ∧
      ∃ edit check, LastAt annals.events (.edited a) edit ∧
        LastAt annals.events (.checked b) check ∧ check < edit := by
  intro a b annals
  have reached : Reached annals :=
    .checked (.invalidated (.checked (.marked (.checked .new a) b .changed) b)
      [a, b] (by decide)) a
  obtain ⟨-, states, pairs⟩ := reached.flag_reason_stamps
  have second : annals.set.modules.get? b = some ⟨5, some 3, true, some .invalidated⟩ := by decide
  have first : annals.set.modules.get? a = some ⟨4, some 6, false, none⟩ := by decide
  exact ⟨reached, ⟨_, second, (states _ _ second).1, (states _ _ second).2.2.1⟩,
    (pairs _ _ _ _ 3 first second rfl).mp (by decide)⟩

end Annals

end LuauWorkspace.Requires
