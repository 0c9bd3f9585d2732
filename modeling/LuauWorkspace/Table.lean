/-!
# Finite tables

A table binds each key to at most one value. Writing a key replaces its binding, so the
list of entries never holds a key twice. Nothing observes the order of the entries: callers
that show them sort them first.
-/
namespace LuauWorkspace

structure Table (κ α : Type) where
  entries : List (κ × α) := []
deriving Repr

namespace Table

variable {κ α : Type} [DecidableEq κ]

instance : Inhabited (Table κ α) := ⟨{}⟩

def get? (t : Table κ α) (key : κ) : Option α := t.entries.lookup key

def contains (t : Table κ α) (key : κ) : Bool := (t.get? key).isSome

def erase (t : Table κ α) (key : κ) : Table κ α :=
  ⟨t.entries.filter fun entry => entry.1 ≠ key⟩

def insert (t : Table κ α) (key : κ) (value : α) : Table κ α :=
  ⟨(key, value) :: (t.erase key).entries⟩

def keys (t : Table κ α) : List κ := t.entries.map (·.1)

def size (t : Table κ α) : Nat := t.entries.length

/-- The sum of a measure of all values. -/
def total (t : Table κ α) (measure : α → Nat) : Nat :=
  t.entries.foldr (fun entry rest => measure entry.2 + rest) 0

/-- Later pairs replace earlier ones with the same key. -/
def ofList (pairs : List (κ × α)) : Table κ α :=
  pairs.foldl (fun t pair => t.insert pair.1 pair.2) {}

@[simp] theorem get?_empty (key : κ) : ({} : Table κ α).get? key = none := rfl

theorem lookup_filter (entries : List (κ × α)) (gone key : κ) :
    (entries.filter fun entry => entry.1 ≠ gone).lookup key =
      if key = gone then none else entries.lookup key := by
  induction entries with
  | nil => simp
  | cons entry rest ih =>
    obtain ⟨bound, held⟩ := entry
    by_cases dropped : bound = gone
    · subst dropped
      by_cases same : key = bound
      · subst same; simpa using ih
      · have differ : (key == bound) = false := by simpa using same
        simpa [List.lookup_cons, differ, same] using ih
    · by_cases same : key = bound
      · subst same; simp [dropped]
      · have differ : (key == bound) = false := by simpa using same
        simpa [List.filter_cons, dropped, List.lookup_cons, differ] using ih

theorem get?_erase (t : Table κ α) (gone key : κ) :
    (t.erase gone).get? key = if key = gone then none else t.get? key :=
  lookup_filter t.entries gone key

theorem get?_insert (t : Table κ α) (key other : κ) (value : α) :
    (t.insert key value).get? other = if other = key then some value else t.get? other := by
  by_cases same : other = key
  · subst same; simp [get?, insert]
  · have differ : (other == key) = false := by simpa using same
    have kept := get?_erase t key other
    simp only [get?, same, if_false] at kept ⊢
    simp only [insert, List.lookup_cons, differ, kept]

@[simp] theorem get?_insert_self (t : Table κ α) (key : κ) (value : α) :
    (t.insert key value).get? key = some value := by simp [get?_insert]

theorem get?_insert_of_ne (t : Table κ α) {key other : κ} (value : α) (differ : other ≠ key) :
    (t.insert key value).get? other = t.get? other := by simp [get?_insert, differ]

@[simp] theorem get?_erase_self (t : Table κ α) (key : κ) : (t.erase key).get? key = none := by
  simp [get?_erase]

theorem contains_insert (t : Table κ α) (key other : κ) (value : α) :
    (t.insert key value).contains other = (decide (other = key) || t.contains other) := by
  by_cases same : other = key <;> simp [contains, get?_insert, same]

theorem mem_entries_of_get? {t : Table κ α} {key : κ} {value : α}
    (found : t.get? key = some value) : (key, value) ∈ t.entries := by
  obtain ⟨before, after, split, _⟩ := List.lookup_eq_some_iff.mp found
  simp [split]

theorem mem_keys_of_get? {t : Table κ α} {key : κ} {value : α}
    (found : t.get? key = some value) : key ∈ t.keys :=
  List.mem_map.mpr ⟨_, mem_entries_of_get? found, rfl⟩

theorem get?_eq_none_iff (t : Table κ α) (key : κ) : t.get? key = none ↔ key ∉ t.keys := by
  rw [get?, List.lookup_eq_none_iff, keys, List.mem_map]
  constructor
  · rintro absent ⟨entry, member, rfl⟩
    simpa using absent entry member
  · intro absent entry member
    simpa using fun same => absent ⟨entry, member, same.symm⟩

/-- The entries of a table of names, ordered by the code points of the names. -/
def sorted (t : Table String α) : List (String × α) :=
  t.entries.mergeSort fun a b => decide (a.1 ≤ b.1)

theorem mem_sorted (t : Table String α) (entry : String × α) :
    entry ∈ t.sorted ↔ entry ∈ t.entries := List.mem_mergeSort

end Table

end LuauWorkspace
