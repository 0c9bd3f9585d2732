import Mathlib.Logic.Relator

/-!
# Ways of single steps

Where each place has at most one next place, there is one way from each place. It comes to an end,
or it comes back to where it was, or it goes on for ever. Whoever takes the steps of a way but no more
than so many stops at its end exactly if it has no more steps, and can go on from there otherwise. On
a way that comes back all of them are taken.
-/
namespace LuauWorkspace

/-- So many steps lead from the first place to the second. -/
inductive Leads {α : Type} (step : α → α → Prop) : Nat → α → α → Prop
  | here (place : α) : Leads step 0 place place
  | further {count : Nat} {place next last : α} (first : step place next)
    (rest : Leads step count next last) : Leads step (count + 1) place last

section Ways

variable {α : Type} (step : α → α → Prop)

/-- No step leads on. -/
def Final (place : α) : Prop := ∀ next, ¬ step place next

/-- The way comes back to a place where it was. -/
def Circles (start : α) : Prop :=
  ∃ passed round back, Leads step passed start back ∧ Leads step (round + 1) back back

/-- Steps are taken until none leads on, but no more than so many. -/
def Stops (limit : Nat) (start place : α) : Prop :=
  ∃ count ≤ limit, Leads step count start place ∧ (count < limit → Final step place)

variable {step} {other : α → α → Prop} {count more limit : Nat} {start next place last : α}

/-! ## Steps that are taken -/

namespace Leads

theorem trans (front : Leads step count start place) (back : Leads step more place last) :
    Leads step (count + more) start last := by
  induction front with
  | here => simpa using back
  | further first _ ih =>
    rw [Nat.add_right_comm]
    exact .further first (ih back)

theorem mono (weaker : ∀ one two, step one two → other one two)
    (leads : Leads step count start last) : Leads other count start last := by
  induction leads with
  | here => exact .here _
  | further first _ ih => exact .further (weaker _ _ first) ih

variable (unique : Relator.RightUnique step)
include unique

/-- The longer of two ways from one place goes on from the end of the shorter one. -/
theorem split (short : Leads step count start place)
    (long : Leads step (count + more) start last) : Leads step more place last := by
  induction short with
  | here => simpa using long
  | further first _ ih =>
    rw [Nat.add_right_comm] at long
    cases long with
    | further also rest => exact ih (unique first also ▸ rest)

theorem last_unique (one : Leads step count start place) (two : Leads step count start last) :
    place = last := by
  have rest : Leads step 0 place last := split unique one two
  cases rest
  rfl

section Ending

variable (ending : Leads step count start last) (final : Final step last)
include ending final

theorem le_of_final (leads : Leads step more start place) : more ≤ count := by
  apply Nat.le_of_not_lt
  intro longer
  obtain ⟨left, rfl⟩ := Nat.exists_eq_add_of_lt longer
  -- The longer way would go on from the end.
  have onward : Leads step (left + 1) last place := split unique ending leads
  cases onward with
  | further first => exact final _ first

theorem end_unique (leads : Leads step more start place) (ended : Final step place) :
    more = count ∧ place = last := by
  obtain rfl : more = count :=
    Nat.le_antisymm (le_of_final unique ending final leads) (le_of_final unique leads ended ending)
  exact ⟨rfl, last_unique unique leads ending⟩

/-- Each place on a way that ends has the rest of the way before it. -/
theorem rest (leads : Leads step more start place) : Leads step (count - more) place last := by
  have within := le_of_final unique ending final leads
  exact split unique leads ((Nat.add_sub_cancel' within).symm ▸ ending)

theorem not_circles : ¬ Circles step start := by
  rintro ⟨passed, round, back, there, around⟩
  -- One more round would give a longer way from there to the same end.
  have onward := rest unique ending final there
  obtain ⟨same, -⟩ := end_unique unique onward final (around.trans onward) final
  omega

end Ending

end Leads

/-! ## Steps that may be taken -/

namespace Stops

theorem of_final (limit : Nat) (final : Final step start) : Stops step limit start start :=
  ⟨0, Nat.zero_le _, .here _, fun _ => final⟩

theorem cut (start : α) : Stops step 0 start start :=
  ⟨0, Nat.le_refl _, .here _, fun room => absurd room (Nat.lt_irrefl _)⟩

theorem further (first : step start next) (stops : Stops step limit next place) :
    Stops step (limit + 1) start place := by
  obtain ⟨count, within, leads, ended⟩ := stops
  exact ⟨count + 1, Nat.succ_le_succ within, .further first leads,
    fun room => ended (Nat.lt_of_succ_lt_succ room)⟩

/-- Where no step leads on, none is taken. -/
theorem eq_of_final (final : Final step start) (stops : Stops step limit start place) :
    place = start := by
  obtain ⟨count, -, leads, -⟩ := stops
  cases leads with
  | here => rfl
  | further first => exact absurd first (final _)

variable (unique : Relator.RightUnique step)
include unique

/-- A way that comes back is given up after as many steps as there may be. -/
theorem leads_of_circles (circles : Circles step start) (stops : Stops step limit start place) :
    Leads step limit start place := by
  obtain ⟨count, within, leads, ended⟩ := stops
  rcases Nat.lt_or_eq_of_le within with room | rfl
  · exact absurd circles (Leads.not_circles unique leads (ended room))
  · exact leads

section Ending

variable (stops : Stops step limit start place) (ending : Leads step count start last)
  (final : Final step last)
include stops ending final

/-- The end of a way is reached exactly if it has no more steps than there may be. -/
theorem eq_last_iff : place = last ↔ count ≤ limit := by
  obtain ⟨taken, within, leads, ended⟩ := stops
  constructor
  · rintro rfl
    rwa [(Leads.end_unique unique leads final ending final).1]
  · intro room
    rcases Nat.lt_or_eq_of_le within with early | rfl
    · exact (Leads.end_unique unique ending final leads (ended early)).2
    · obtain rfl : taken = count :=
        Nat.le_antisymm (Leads.le_of_final unique ending final leads) room
      exact Leads.last_unique unique leads ending

theorem final_iff : Final step place ↔ count ≤ limit := by
  rw [← eq_last_iff unique stops ending final]
  constructor
  · obtain ⟨taken, -, leads, -⟩ := stops
    exact fun ended => (Leads.end_unique unique ending final leads ended).2
  · rintro rfl
    exact final

/-- Starting again where one stopped leads nowhere else exactly if the way was not given up there. -/
theorem again_iff (some : 0 < limit) {later : α} (again : Stops step limit place later) :
    later = place ↔ count ≤ limit := by
  rw [← final_iff unique stops ending final]
  constructor
  · rintro rfl
    obtain ⟨taken, within, around, ended⟩ := again
    rcases Nat.lt_or_eq_of_le within with early | rfl
    · exact ended early
    · -- The steps would lead round and round, on a way that ends.
      obtain ⟨passed, -, leads, -⟩ := stops
      obtain ⟨round, rfl⟩ := Nat.exists_eq_add_of_lt some
      rw [Nat.zero_add] at around
      exact absurd ⟨passed, round, _, leads, around⟩ (Leads.not_circles unique ending final)
  · exact fun ended => eq_of_final ended again

end Ending

end Stops

end Ways

end LuauWorkspace
