/-!
# Traversals

A traversal visits everything that can be reached over successors, each thing once, in the order
that `arrange` gives to what is still pending and what was just found. The budget counts visits
of things that have successors, so it is enough when there are no more such things than that.
-/
namespace LuauWorkspace.Traversal

variable {α : Type} [DecidableEq α]

/-- Visits what is pending as far as the first thing that has successors, and goes further from
there. `visited` holds what was visited so far, the last visit first. -/
def skim (successors : α → List α) (arrange further : List α → List α → List α) :
    List α → List α → List α
  | [], visited => visited.reverse
  | next :: rest, visited =>
    if next ∈ visited then skim successors arrange further rest visited
    else
      match successors next with
      | [] => skim successors arrange further rest (next :: visited)
      | first :: more => further (arrange rest (first :: more)) (next :: visited)

def visit (successors : α → List α) (arrange : List α → List α → List α) :
    Nat → List α → List α → List α
  | 0 => skim successors arrange fun _ visited => visited.reverse
  | left + 1 => skim successors arrange (visit successors arrange left)

/-- What is found last waits longest. -/
def breadthFirst (rest found : List α) : List α := rest ++ found

/-- What is found last is visited next. -/
def lastFirst (rest found : List α) : List α := found.reverse ++ rest

/-- Everything that can be reached from `start`, in the order of the visits. -/
def order (successors : α → List α) (arrange : List α → List α → List α) (budget : Nat)
    (start : α) : List α :=
  visit successors arrange budget [start] []

omit [DecidableEq α] in
theorem nodup_reverse {list : List α} (once : list.Nodup) : list.reverse.Nodup := by
  simpa [List.Nodup, List.pairwise_reverse, ne_comm] using once

theorem skim_nodup (successors : α → List α) (arrange further : List α → List α → List α)
    (keeps : ∀ pending visited, visited.Nodup → (further pending visited).Nodup)
    (pending visited : List α) (once : visited.Nodup) :
    (skim successors arrange further pending visited).Nodup := by
  fun_induction skim successors arrange further pending visited with
  | case1 => exact nodup_reverse once
  | case2 _ _ _ _ ih => exact ih once
  | case3 _ _ _ fresh _ ih => exact ih (List.nodup_cons.mpr ⟨fresh, once⟩)
  | case4 _ _ _ fresh => exact keeps _ _ (List.nodup_cons.mpr ⟨fresh, once⟩)

theorem visit_nodup (successors : α → List α) (arrange : List α → List α → List α) (budget : Nat)
    (pending visited : List α) (once : visited.Nodup) :
    (visit successors arrange budget pending visited).Nodup := by
  induction budget generalizing pending visited with
  | zero =>
    exact skim_nodup _ _ _ (fun _ _ once => nodup_reverse once) pending visited once
  | succ left ih => exact skim_nodup _ _ _ ih pending visited once

end LuauWorkspace.Traversal
