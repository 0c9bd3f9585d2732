import LuauWorkspace.Traversal
import Mathlib.Logic.Relation

/-!
# What a traversal visits

Without its budget a traversal is the relation `Visits`, which has at most one outcome. Each visit
of something that has successors takes one step of the budget, so a traversal never runs out of a
budget that covers everything of that kind that can be reached. What it visits then is exactly
what can be reached from the start, and the order depends only on the successors of what is
visited.
-/
namespace LuauWorkspace.Traversal

variable {α : Type}

/-- Some steps along the successors, or none. -/
abbrev Reaches (successors : α → List α) : α → α → Prop :=
  Relation.ReflTransGen fun a b => b ∈ successors a

theorem Reaches.congr {s t : α → List α} {start x : α}
    (same : ∀ y, Reaches s start y → s y = t y) : Reaches s start x ↔ Reaches t start x := by
  constructor
  · intro way
    induction way with
    | refl => exact .refl
    | tail before step ih => exact ih.tail (same _ before ▸ step)
  · intro way
    induction way with
    | refl => exact .refl
    | @tail y z _ step ih => exact ih.tail (show z ∈ s y from same _ ih ▸ step)

/-- An arrangement keeps what is pending and what was found, and adds nothing. -/
structure Fair (arrange : List α → List α → List α) : Prop where
  mem_iff : ∀ rest found x, x ∈ arrange rest found ↔ x ∈ rest ∨ x ∈ found
  nil_found : ∀ rest, arrange rest [] = rest

theorem fair_breadthFirst : Fair (α := α) breadthFirst :=
  ⟨fun _ _ _ => List.mem_append, fun rest => List.append_nil rest⟩

theorem fair_lastFirst : Fair (α := α) lastFirst :=
  ⟨fun _ _ _ => by simp [lastFirst, or_comm], fun rest => by simp [lastFirst]⟩

/-- A traversal that nothing stops, from what is pending and visited to the order of its visits. -/
inductive Visits (successors : α → List α) (arrange : List α → List α → List α) :
    List α → List α → List α → Prop
  | done (visited : List α) : Visits successors arrange [] visited visited.reverse
  | again {next : α} {rest visited order : List α} (old : next ∈ visited)
      (later : Visits successors arrange rest visited order) :
      Visits successors arrange (next :: rest) visited order
  | first {next : α} {rest visited order : List α} (new : next ∉ visited)
      (later : Visits successors arrange (arrange rest (successors next)) (next :: visited) order) :
      Visits successors arrange (next :: rest) visited order

namespace Visits

variable {s t : α → List α} {arrange : List α → List α → List α}
  {pending visited order other : List α}

theorem unique (one : Visits s arrange pending visited order)
    (two : Visits s arrange pending visited other) : order = other := by
  induction one generalizing other with
  | done visited => cases two; rfl
  | again old _ ih =>
    cases two with
    | again _ later => exact ih later
    | first new _ => exact absurd old new
  | first new _ ih =>
    cases two with
    | again old _ => exact absurd old new
    | first _ later => exact ih later

theorem mem_of_visited (run : Visits s arrange pending visited order) {x : α}
    (member : x ∈ visited) : x ∈ order := by
  induction run with
  | done visited => exact List.mem_reverse.mpr member
  | again _ _ ih => exact ih member
  | first _ _ ih => exact ih (List.mem_cons_of_mem _ member)

theorem mem_of_pending (fair : Fair arrange) (run : Visits s arrange pending visited order)
    {x : α} (member : x ∈ pending) : x ∈ order := by
  induction run with
  | done visited => simp at member
  | again old later ih =>
    rcases List.mem_cons.mp member with rfl | member
    · exact later.mem_of_visited old
    · exact ih member
  | first _ later ih =>
    rcases List.mem_cons.mp member with rfl | member
    · exact later.mem_of_visited (List.mem_cons_self ..)
    · exact ih ((fair.mem_iff _ _ _).mpr (Or.inl member))

/-- Only the successors of what is visited matter. -/
theorem congr (run : Visits s arrange pending visited order)
    (same : ∀ x ∈ order, s x = t x) : Visits t arrange pending visited order := by
  induction run with
  | done visited => exact .done visited
  | again old _ ih => exact .again old (ih same)
  | @first next _ _ _ new later ih =>
    -- What is visited now stays in the order, so both agree on its successors.
    have here : s next = t next := same next (later.mem_of_visited (List.mem_cons_self ..))
    exact .first new (here ▸ ih same)

theorem reached (fair : Fair arrange) (run : Visits s arrange pending visited order) {x : α}
    (member : x ∈ order) : x ∈ visited ∨ ∃ start ∈ pending, Reaches s start x := by
  induction run with
  | done visited => exact Or.inl (List.mem_reverse.mp member)
  | again _ _ ih =>
    rcases ih member with old | ⟨start, pending, way⟩
    · exact Or.inl old
    · exact Or.inr ⟨start, List.mem_cons_of_mem _ pending, way⟩
  | @first next rest visited order _ _ ih =>
    rcases ih member with old | ⟨start, pending, way⟩
    · rcases List.mem_cons.mp old with rfl | old
      · exact Or.inr ⟨x, List.mem_cons_self .., .refl⟩
      · exact Or.inl old
    -- What is pending now was pending before or was just found behind `next`.
    · rcases (fair.mem_iff _ _ _).mp pending with pending | found
      · exact Or.inr ⟨start, List.mem_cons_of_mem _ pending, way⟩
      · exact Or.inr ⟨next, List.mem_cons_self .., way.head found⟩

/-- What follows a visit is visited or pending at every moment, so in the end it is visited. -/
theorem closed (fair : Fair arrange) (run : Visits s arrange pending visited order)
    (behind : ∀ a ∈ visited, ∀ b ∈ s a, b ∈ visited ∨ b ∈ pending) :
    ∀ a ∈ order, ∀ b ∈ s a, b ∈ order := by
  induction run with
  | done visited =>
    intro a member b step
    have found := behind a (List.mem_reverse.mp member) b step
    simpa using found
  | again old _ ih =>
    apply ih
    intro a member b step
    rcases behind a member b step with seen | waiting
    · exact Or.inl seen
    · rcases List.mem_cons.mp waiting with rfl | waiting
      · exact Or.inl old
      · exact Or.inr waiting
  | @first next rest visited order _ _ ih =>
    apply ih
    intro a member b step
    rcases List.mem_cons.mp member with rfl | member
    · exact Or.inr ((fair.mem_iff _ _ _).mpr (Or.inr step))
    · rcases behind a member b step with seen | waiting
      · exact Or.inl (List.mem_cons_of_mem _ seen)
      · rcases List.mem_cons.mp waiting with rfl | waiting
        · exact Or.inl (List.mem_cons_self ..)
        · exact Or.inr ((fair.mem_iff _ _ _).mpr (Or.inl waiting))

theorem mem_iff (fair : Fair arrange) {start : α} (run : Visits s arrange [start] [] order)
    (x : α) : x ∈ order ↔ Reaches s start x := by
  constructor
  · intro member
    rcases run.reached fair member with seen | ⟨_, only, way⟩
    · simp at seen
    · exact List.mem_singleton.mp only ▸ way
  · intro way
    induction way with
    | refl => exact run.mem_of_pending fair (List.mem_singleton.mpr rfl)
    | tail _ step ih => exact run.closed fair (by simp) _ ih _ step

end Visits

/-- A budget covers what is still to be visited when it is no smaller than a list of everything
that has successors there. -/
def Covers (successors : α → List α) (budget : Nat) (pending visited : List α) : Prop :=
  ∃ support : List α, support.length ≤ budget ∧
    ∀ start ∈ pending, ∀ x, Reaches successors start x → successors x ≠ [] → x ∉ visited →
      x ∈ support

theorem Covers.mono {s : α → List α} {budget : Nat} {pending visited less more : List α}
    (covers : Covers s budget pending visited)
    (fewer : ∀ start ∈ less, ∃ before ∈ pending, Reaches s before start)
    (grown : ∀ x ∈ visited, x ∈ more) : Covers s budget less more := by
  obtain ⟨support, fits, holds⟩ := covers
  refine ⟨support, fits, fun start member x way busy new => ?_⟩
  obtain ⟨before, pending, earlier⟩ := fewer start member
  exact holds before pending x (earlier.trans way) busy fun old => new (grown x old)

variable [DecidableEq α]

/-- Visiting something that has successors takes it out of the support. -/
theorem Covers.step {s : α → List α} {arrange : List α → List α → List α} (fair : Fair arrange)
    {budget : Nat} {next : α} {rest visited : List α}
    (covers : Covers s budget (next :: rest) visited) (new : next ∉ visited)
    (busy : s next ≠ []) :
    ∃ left, budget = left + 1 ∧ Covers s left (arrange rest (s next)) (next :: visited) := by
  obtain ⟨support, fits, holds⟩ := covers
  have present : next ∈ support := holds next (List.mem_cons_self ..) next .refl busy new
  -- Nothing unseen later is `next`, so the support does without it from now on.
  have smaller := List.length_erase_of_mem present
  have positive := List.length_pos_of_mem present
  refine ⟨budget - 1, by omega, support.erase next, by omega, ?_⟩
  intro start member x way busyX newX
  have differs : x ≠ next := fun same => newX (same ▸ List.mem_cons_self ..)
  apply (List.mem_erase_of_ne differs).mpr
  have unseen : x ∉ visited := fun old => newX (List.mem_cons_of_mem _ old)
  rcases (fair.mem_iff _ _ _).mp member with pending | found
  · exact holds start (List.mem_cons_of_mem _ pending) x way busyX unseen
  · exact holds next (List.mem_cons_self ..) x (way.head found) busyX unseen

theorem visits_skim {s : α → List α} {arrange further : List α → List α → List α}
    (fair : Fair arrange) {budget : Nat}
    (goes_on : ∀ left, budget = left + 1 → ∀ pending visited, Covers s left pending visited →
      Visits s arrange pending visited (further pending visited))
    (pending visited : List α) (covers : Covers s budget pending visited) :
    Visits s arrange pending visited (skim s arrange further pending visited) := by
  fun_induction skim s arrange further pending visited with
  | case1 => exact .done _
  | case2 next rest visited old ih =>
    have kept : Covers s budget rest visited := covers.mono
      (fun start member => ⟨start, List.mem_cons_of_mem _ member, .refl⟩) (fun _ old => old)
    exact .again old (ih kept)
  | case3 next rest visited new idle ih =>
    have kept : Covers s budget rest (next :: visited) := covers.mono
      (fun start member => ⟨start, List.mem_cons_of_mem _ member, .refl⟩)
      (fun _ old => List.mem_cons_of_mem _ old)
    refine .first new ?_
    rw [idle, fair.nil_found]
    exact ih kept
  | case4 next rest visited new first more busy =>
    obtain ⟨left, enough, kept⟩ := covers.step fair new (by simp [busy])
    refine .first new ?_
    rw [busy] at kept ⊢
    exact goes_on left enough _ _ kept

theorem visits_visit {s : α → List α} {arrange : List α → List α → List α} (fair : Fair arrange)
    (budget : Nat) (pending visited : List α) (covers : Covers s budget pending visited) :
    Visits s arrange pending visited (visit s arrange budget pending visited) := by
  induction budget generalizing pending visited with
  | zero => exact visits_skim fair (fun _ impossible => by simp at impossible) _ _ covers
  | succ left ih =>
    refine visits_skim fair (fun fewer same => ?_) _ _ covers
    obtain rfl : left = fewer := Nat.succ.inj same
    exact ih

/-- A budget that covers everything with successors that can be reached is enough. -/
theorem visits_order {s : α → List α} {arrange : List α → List α → List α} (fair : Fair arrange)
    {budget : Nat} {start : α} (support : List α) (fits : support.length ≤ budget)
    (holds : ∀ x, Reaches s start x → s x ≠ [] → x ∈ support) :
    Visits s arrange [start] [] (order s arrange budget start) := by
  apply visits_visit fair
  refine ⟨support, fits, fun first only x way busy _ => ?_⟩
  exact holds x (List.mem_singleton.mp only ▸ way) busy

theorem mem_order_iff {s : α → List α} {arrange : List α → List α → List α} (fair : Fair arrange)
    {budget : Nat} {start : α} (support : List α) (fits : support.length ≤ budget)
    (holds : ∀ x, Reaches s start x → s x ≠ [] → x ∈ support) (x : α) :
    x ∈ order s arrange budget start ↔ Reaches s start x :=
  (visits_order fair support fits holds).mem_iff fair x

/-! ## Budgets that run out -/

/-- What was visited stays in the order. -/
theorem mem_skim_of_visited {s : α → List α} {arrange further : List α → List α → List α} {x : α}
    (keeps : ∀ pending visited, x ∈ visited → x ∈ further pending visited)
    (pending visited : List α) (member : x ∈ visited) :
    x ∈ skim s arrange further pending visited := by
  fun_induction skim s arrange further pending visited with
  | case1 => exact List.mem_reverse.mpr member
  | case2 _ _ _ _ ih => exact ih member
  | case3 _ _ _ _ _ ih => exact ih (List.mem_cons_of_mem _ member)
  | case4 => exact keeps _ _ (List.mem_cons_of_mem _ member)

theorem mem_visit_of_visited {s : α → List α} {arrange : List α → List α → List α} {x : α}
    (budget : Nat) (pending visited : List α) (member : x ∈ visited) :
    x ∈ visit s arrange budget pending visited := by
  induction budget generalizing pending visited with
  | zero => exact mem_skim_of_visited (fun _ _ => List.mem_reverse.mpr) pending visited member
  | succ left ih => exact mem_skim_of_visited ih pending visited member

theorem start_mem_skim {s : α → List α} {arrange further : List α → List α → List α} {start : α}
    (keeps : ∀ pending visited, start ∈ visited → start ∈ further pending visited) :
    start ∈ skim s arrange further [start] [] := by
  -- Nothing was visited before, so the start is not passed over.
  rw [skim, if_neg List.not_mem_nil]
  split
  · exact mem_skim_of_visited keeps [] [start] (List.mem_singleton_self start)
  · exact keeps _ _ (List.mem_singleton_self start)

/-- The start is visited on any budget. -/
theorem start_mem_order (s : α → List α) (arrange : List α → List α → List α) (budget : Nat)
    (start : α) : start ∈ order s arrange budget start := by
  cases budget with
  | zero => exact start_mem_skim fun _ _ => List.mem_reverse.mpr
  | succ left => exact start_mem_skim (mem_visit_of_visited left)

end LuauWorkspace.Traversal
