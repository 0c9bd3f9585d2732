import LuauWorkspace.Server
import Mathlib.Data.List.Nodup

/-!
# Loads of manifests

The manifest of a folder is loaded when the folder is added and whenever the manifest changes. The
user is to be told once for each folder for which that failed. A server remembers what it told by
name, and folders can have one name, at the same time or one after the other. So it tells once for
each folder exactly as long as no two folders of one name fail.
-/
namespace LuauWorkspace

/-- A folder, told from others of its name by its number. -/
structure Seat where
  number : Nat
  name : String
deriving DecidableEq, Repr

/-- A load of the manifest of a folder, with what the user is told about it. -/
structure Load where
  seat : Seat
  failed : Bool
  queued : List UserMessage
deriving DecidableEq, Repr

def manifestFailure (name : String) : UserMessage :=
  ⟨.warning, "Failed to load sourcemap.json for workspace '" ++ name
    ++ "'. Instance information will not be available"⟩

namespace Load

/-- What the user is told about a folder. -/
def told (loads : List Load) (seat : Seat) : List UserMessage :=
  loads.flatMap fun load => if load.seat = seat then load.queued else []

/-- The user is told once about each folder for which a load failed and never about the others. -/
def Once (loads : List Load) : Prop :=
  ∀ seat, told loads seat =
    if ∃ load ∈ loads, load.failed = true ∧ load.seat = seat then [manifestFailure seat.name] else []

/-- Loads that failed for one name were for one folder. -/
def Apart (loads : List Load) : Prop :=
  ∀ one ∈ loads, ∀ two ∈ loads, one.failed = true → two.failed = true →
    one.seat.name = two.seat.name → one.seat = two.seat
deriving Decidable

/-- A load failed for a folder of the name. -/
def FailedFor (loads : List Load) (name : String) : Prop :=
  ∃ load ∈ loads, load.failed = true ∧ load.seat.name = name
deriving Decidable

/-- What a load adds by the names alone. -/
def expected (loads : List Load) (seat : Seat) (failed : Bool) : List UserMessage :=
  if failed = true ∧ ¬ FailedFor loads seat.name then [manifestFailure seat.name] else []

theorem filter_expected (loads : List Load) (seat : Seat) (failed : Bool) :
    (expected loads seat failed).filter (·.kind = .warning) = expected loads seat failed := by
  unfold expected
  split <;> rfl

/-- The user is told about the first failure for each name. -/
inductive Regular : List Load → Prop
  | nil : Regular []
  | concat {loads : List Load} (regular : Regular loads) (seat : Seat) (failed : Bool) :
    Regular (loads ++ [⟨seat, failed, expected loads seat failed⟩])

def first? (loads : List Load) (name : String) : Option Load :=
  loads.find? fun load => load.failed && load.seat.name = name

variable {loads : List Load}

theorem first?_eq_none_iff {name : String} : first? loads name = none ↔ ¬ FailedFor loads name := by
  simp [first?, FailedFor, List.find?_eq_none]

theorem of_first? {name : String} {load : Load} (found : first? loads name = some load) :
    load ∈ loads ∧ load.failed = true ∧ load.seat.name = name := by
  have right := List.find?_some found
  exact ⟨List.mem_of_find?_eq_some found, by simpa using right⟩

theorem first?_concat (load : Load) (name : String) :
    first? (loads ++ [load]) name = (first? loads name).or
      (if load.failed = true ∧ load.seat.name = name then some load else none) := by
  rw [first?, List.find?_append, first?]
  congr 1
  by_cases here : load.failed = true ∧ load.seat.name = name
  · simp [here]
  · rw [if_neg here, List.find?_singleton, if_neg (by simpa using here)]

theorem told_concat (load : Load) (seat : Seat) : told (loads ++ [load]) seat =
    told loads seat ++ if load.seat = seat then load.queued else [] := by
  simp [told]

/-- The folder of the first failure is the one that the user is told about. -/
theorem Regular.told_eq (regular : Regular loads) (seat : Seat) :
    told loads seat =
      if (first? loads seat.name).map (·.seat) = some seat then [manifestFailure seat.name]
      else [] := by
  induction regular with
  | nil => rfl
  | @concat loads regular other failed ih =>
    rw [told_concat, first?_concat, ih]
    -- A load counts only if none before it failed for the name.
    cases found : first? loads seat.name with
    | some early =>
      have before : FailedFor loads seat.name := ⟨early, of_first? found⟩
      by_cases here : other = seat
      · subst here
        simp [expected, before]
      · simp [here]
    | none =>
      have never := first?_eq_none_iff.mp found
      by_cases here : other = seat
      · subst here
        cases failed <;> simp [expected, never]
      · by_cases named : other.name = seat.name <;> cases failed <;> simp [here, named]

/-- Being told once for each name is being told once for each folder if no name stands for two. -/
theorem Regular.once_iff (regular : Regular loads) : Once loads ↔ Apart loads := by
  constructor
  · intro once one member two also failed fails same
    -- The user is told about both folders, so each had the first failure for its name.
    have here : ∀ load ∈ loads, load.failed = true →
        (first? loads load.seat.name).map (·.seat) = some load.seat := by
      intro load member failed
      have told := once load.seat
      rw [regular.told_eq, if_pos (⟨load, member, failed, rfl⟩ : ∃ _, _)] at told
      by_contra elsewhere
      simp [elsewhere] at told
    have first := here one member failed
    rw [same, here two also fails] at first
    exact (Option.some.inj first).symm
  · intro apart seat
    rw [regular.told_eq]
    congr 1
    rw [eq_iff_iff]
    constructor
    · intro found
      obtain ⟨load, first, rfl⟩ := Option.map_eq_some_iff.mp found
      obtain ⟨member, failed, -⟩ := of_first? first
      exact ⟨load, member, failed, rfl⟩
    · rintro ⟨load, member, failed, rfl⟩
      cases found : first? loads load.seat.name with
      | none => exact absurd ⟨load, member, failed, rfl⟩ (first?_eq_none_iff.mp found)
      | some early =>
        obtain ⟨listed, fails, named⟩ := of_first? found
        rw [Option.map_some, apart early listed load member fails failed named]

end Load

end LuauWorkspace
