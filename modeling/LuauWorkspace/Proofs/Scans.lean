import Mathlib.Data.List.Induction

/-!
# Scans for the best entry

The scope around a position and the folder around a file are found alike: the candidates are
numbered, and a scan keeps one of them until it comes to another that is at least as good. It ends
with the last of the best ones.
-/
namespace LuauWorkspace

theorem mem_zip_range_iff {α : Type} (items : List α) (index : Nat) (item : α) :
    (index, item) ∈ (List.range items.length).zip items ↔ items[index]? = some item := by
  simp only [List.mem_iff_getElem?, List.getElem?_zip_eq_some]
  constructor
  · rintro ⟨place, number, found⟩
    obtain ⟨_, same⟩ := List.getElem?_eq_some_iff.mp number
    rw [List.getElem_range] at same
    exact same ▸ found
  · intro found
    exact ⟨index, List.getElem?_range (List.getElem?_eq_some_iff.mp found).1, found⟩

section

variable {α β : Type} [LE β] (rank : α → β)

/-- The next entry takes the place of a best one that ranks no higher. -/
def keepLast [DecidableLE β] (best : Option α) (next : α) : Option α :=
  match best with
  | none => some next
  | some found => if rank found ≤ rank next then some next else some found

/-- No entry ranks higher, and no later one as high. -/
structure LastBest (entries : List α) (best : α) : Prop where
  bounds : ∀ other ∈ entries, rank other ≤ rank best
  place : ∃ before after, entries = before ++ best :: after ∧
    ∀ other ∈ after, ¬ rank best ≤ rank other

variable {rank}

theorem LastBest.mem {entries : List α} {best : α} (last : LastBest rank entries best) :
    best ∈ entries := by
  obtain ⟨before, after, rfl, -⟩ := last.place
  simp

/-- A scan finds the last best entry, if there is any. -/
theorem foldl_keepLast_cases [DecidableLE β] (trans : ∀ {a b c : β}, a ≤ b → b ≤ c → a ≤ c)
    (total : ∀ {a b : β}, ¬ a ≤ b → b ≤ a) (entries : List α) :
    entries = [] ∧ entries.foldl (keepLast rank) none = none ∨
      ∃ best, LastBest rank entries best ∧ entries.foldl (keepLast rank) none = some best := by
  have refl : ∀ entry : α, rank entry ≤ rank entry := fun entry =>
    Decidable.byContradiction fun apart => apart (total apart)
  induction entries using List.reverseRecOn with
  | nil => exact Or.inl ⟨rfl, rfl⟩
  | append_singleton before last ih =>
    right
    rw [List.foldl_append]
    rcases ih with ⟨rfl, scanned⟩ | ⟨best, ⟨bounds, front, behind, rfl, lower⟩, scanned⟩
    · exact ⟨last, ⟨by simp [refl], [], [], rfl, by simp⟩, rfl⟩
    rw [scanned]
    by_cases later : rank best ≤ rank last
    · refine ⟨last, ⟨?_, front ++ best :: behind, [], rfl, by simp⟩, by simp [keepLast, later]⟩
      rw [List.forall_mem_append, List.forall_mem_singleton]
      exact ⟨fun other earlier => trans (bounds other earlier) later, refl last⟩
    · refine ⟨best, ⟨?_, front, behind ++ [last], by simp, ?_⟩, by simp [keepLast, later]⟩
      · rw [List.forall_mem_append, List.forall_mem_singleton]
        exact ⟨bounds, total later⟩
      · rw [List.forall_mem_append, List.forall_mem_singleton]
        exact ⟨lower, later⟩

end

end LuauWorkspace
