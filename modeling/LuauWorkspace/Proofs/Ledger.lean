import LuauWorkspace.Documents
import Mathlib.Data.List.InsertIdx
import Mathlib.Data.List.Nodup

/-!
# Ledgers

A ledger sets the documents of all workspaces beside the documents as a client has them. Folders
are numbered in the order in which they were added, so that a folder can be told from one that
later takes its place. The invariant says that a workspace which got all messages about a document
holds it as the client has it; folders that come and go keep it, and so does a message that
reaches one workspace.
-/
namespace LuauWorkspace

/-- A document as its client has it, with the folders that its messages went to. Folders are
given by their numbers, and the null workspace has none. -/
structure Copy where
  version : Int
  text : String
  stations : List (Option Nat)
deriving DecidableEq, Repr

/-- The client's document after an update that went to a station. The client is taken to read the
positions of its changes as the server does, by `Change.apply`. One for which fewer characters end a
line can come to another text, as the module on replayed edits shows. -/
def Copy.update (copy : Copy) (update : Update) (station : Option Nat) : Copy where
  version := update.version
  text := update.changes.foldl (fun text change => change.apply text) copy.text
  stations := station :: copy.stations

/-- The document of a name is the one that the client has. -/
def Copy.Matches (copy : Copy) (name : ModuleName) (documents : Documents) : Prop :=
  ∃ document, documents.get? name = some document ∧
    document.version = copy.version ∧ document.text = copy.text

theorem Copy.Matches.congr {copy : Copy} {name : ModuleName} {documents other : Documents}
    (matched : copy.Matches name documents) (same : other.get? name = documents.get? name) :
    copy.Matches name other := by
  obtain ⟨document, found, right⟩ := matched
  exact ⟨document, same.trans found, right⟩

/-- The documents of all workspaces, the numbers of the folders in their order, and what the
client has. -/
structure Ledger where
  folders : List Documents
  null : Documents
  numbers : List Nat
  issued : Nat
  copies : Table ModuleName Copy

namespace Ledger

variable (ledger : Ledger)

/-- The documents at a place in the list of folders, or of the null workspace. -/
def documents? (place : Option Nat) : Option Documents :=
  match place with
  | none => some ledger.null
  | some index => ledger.folders[index]?

def station (place : Option Nat) : Option Nat := place.bind fun index => ledger.numbers[index]?

/-- What a station holds, as long as it is there. -/
def Holds (station : Option Nat) (property : Documents → Prop) : Prop :=
  match station with
  | none => property ledger.null
  | some number => ∀ index : Nat, ledger.numbers[index]? = some number →
      ∃ documents, ledger.folders[index]? = some documents ∧ property documents

/-- A station that got all messages about a document holds it as the client has it. -/
structure Faithful : Prop where
  numbered : ledger.numbers.length = ledger.folders.length
  unique : ledger.numbers.Nodup
  issued : ∀ number ∈ ledger.numbers, number < ledger.issued
  known : ∀ name copy, ledger.copies.get? name = some copy → copy.stations ≠ [] ∧
    ∀ number, some number ∈ copy.stations → number < ledger.issued
  held : ∀ name copy, ledger.copies.get? name = some copy →
    ∀ station, (∀ other ∈ copy.stations, other = station) →
      ledger.Holds station (copy.Matches name)

def remove (index : Nat) : Ledger :=
  { ledger with
    folders := ledger.folders.eraseIdx index
    numbers := ledger.numbers.eraseIdx index }

def append : Ledger :=
  { ledger with
    folders := ledger.folders ++ [{}]
    numbers := ledger.numbers ++ [ledger.issued]
    issued := ledger.issued + 1 }

def write (place : Option Nat) (documents : Documents) (copies : Table ModuleName Copy) : Ledger :=
  match place with
  | none => { ledger with null := documents, copies }
  | some index => { ledger with folders := ledger.folders.set index documents, copies }

variable {ledger}

theorem Faithful.remove (faithful : ledger.Faithful) (index : Nat) :
    (ledger.remove index).Faithful := by
  refine ⟨?_, faithful.unique.eraseIdx index, ?_, faithful.known, ?_⟩
  · simp only [Ledger.remove, List.length_eraseIdx, faithful.numbered]
  · exact fun number member => faithful.issued number (List.mem_of_mem_eraseIdx member)
  intro name copy found station all
  -- Folders behind the one that goes move up, with their numbers and their documents.
  have held := faithful.held name copy found station all
  cases station with
  | none => exact held
  | some number =>
    intro other listed
    simp only [Ledger.remove, List.getElem?_eraseIdx] at listed ⊢
    split at listed
    next before =>
      rw [if_pos before]
      exact held other listed
    next behind =>
      rw [if_neg behind]
      exact held (other + 1) listed

theorem Faithful.append (faithful : ledger.Faithful) : ledger.append.Faithful := by
  have fresh : ledger.issued ∉ ledger.numbers := fun member =>
    Nat.lt_irrefl _ (faithful.issued _ member)
  refine ⟨?_, ?_, ?_, ?_, ?_⟩
  · simp only [Ledger.append, List.length_append, faithful.numbered, List.length_cons,
      List.length_nil]
  · change (ledger.numbers ++ [ledger.issued]).Nodup
    rw [← List.concat_eq_append]
    exact List.Nodup.concat fresh faithful.unique
  · intro number member
    rcases List.mem_append.mp member with old | new
    · exact Nat.lt_succ_of_lt (faithful.issued number old)
    · exact List.mem_singleton.mp new ▸ Nat.lt_succ_self _
  · intro name copy found
    obtain ⟨some_station, past⟩ := faithful.known name copy found
    exact ⟨some_station, fun number member => Nat.lt_succ_of_lt (past number member)⟩
  intro name copy found station all
  have held := faithful.held name copy found station all
  cases station with
  | none => exact held
  | some number =>
    intro index listed
    rcases Nat.lt_or_ge index ledger.numbers.length with inside | behind
    · rw [Ledger.append, List.getElem?_append_left inside] at listed
      rw [Ledger.append, List.getElem?_append_left (faithful.numbered ▸ inside)]
      exact held index listed
    · -- No message went to a folder that was just added.
      obtain ⟨some_station, past⟩ := faithful.known name copy found
      obtain ⟨first, member⟩ := List.exists_mem_of_ne_nil _ some_station
      have early := past number (all first member ▸ member)
      rw [Ledger.append, List.getElem?_append_right behind, List.getElem?_singleton] at listed
      split at listed
      · simp only [Option.some.injEq] at listed
        omega
      · simp at listed

theorem Faithful.holds_write (faithful : ledger.Faithful) {place : Option Nat}
    {before after : Documents} (here : ledger.documents? place = some before)
    (copies : Table ModuleName Copy) {property : Documents → Prop} (right : property after) :
    (ledger.write place after copies).Holds (ledger.station place) property := by
  cases place with
  | none => exact right
  | some index =>
    obtain ⟨inside, _⟩ := List.getElem?_eq_some_iff.mp here
    have listed : index < ledger.numbers.length := faithful.numbered ▸ inside
    have number := List.getElem?_eq_getElem listed
    simp only [station, Option.bind_some, number]
    intro other same
    -- A number stands at one place only.
    obtain rfl : index = other :=
      (List.getElem?_inj listed faithful.unique).mp (number.trans same.symm)
    exact ⟨after, List.getElem?_set_self inside, right⟩

theorem holds_write_of_holds {place station : Option Nat} {before after : Documents}
    (here : ledger.documents? place = some before) (copies : Table ModuleName Copy)
    {property : Documents → Prop} (keeps : property before → property after)
    (held : ledger.Holds station property) :
    (ledger.write place after copies).Holds station property := by
  cases place with
  | none =>
    cases station with
    | none =>
      obtain rfl : ledger.null = before := Option.some.inj here
      exact keeps held
    | some number => exact held
  | some index =>
    cases station with
    | none => exact held
    | some number =>
      intro other listed
      obtain ⟨documents, found, right⟩ := held other listed
      -- The station may be the place that is written; otherwise its documents are untouched.
      by_cases same : index = other
      · subst same
        obtain rfl : documents = before := Option.some.inj (found.symm.trans here)
        obtain ⟨inside, _⟩ := List.getElem?_eq_some_iff.mp here
        exact ⟨after, List.getElem?_set_self inside, keeps right⟩
      · exact ⟨documents, (List.getElem?_set_ne same).trans found, right⟩

theorem Faithful.station_lt (faithful : ledger.Faithful) {place : Option Nat} {number : Nat}
    (numbered : ledger.station place = some number) : number < ledger.issued := by
  obtain ⟨_, _, listed⟩ := Option.bind_eq_some_iff.mp numbered
  exact faithful.issued number (List.mem_of_getElem? listed)

/-- A place whose station got all messages holds the document as the client has it. -/
theorem Faithful.matches_at (faithful : ledger.Faithful) {place : Option Nat}
    {documents : Documents} (here : ledger.documents? place = some documents) {name : ModuleName}
    {copy : Copy} (found : ledger.copies.get? name = some copy)
    (all : ∀ station ∈ copy.stations, station = ledger.station place) :
    copy.Matches name documents := by
  have held := faithful.held name copy found _ all
  cases place with
  | none =>
    obtain rfl : ledger.null = documents := Option.some.inj here
    exact held
  | some index =>
    obtain ⟨inside, _⟩ := List.getElem?_eq_some_iff.mp here
    have listed : index < ledger.numbers.length := faithful.numbered ▸ inside
    have number := List.getElem?_eq_getElem listed
    simp only [station, Option.bind_some, number] at held
    obtain ⟨other, same, matched⟩ := held index number
    obtain rfl : other = documents := Option.some.inj (same.symm.trans here)
    exact matched

/-- Documents may change at one place under one name when the client's copy of it keeps up. -/
theorem Faithful.write (faithful : ledger.Faithful) {place : Option Nat} {before : Documents}
    (here : ledger.documents? place = some before) {name : ModuleName} {after : Documents}
    {copies : Table ModuleName Copy}
    (documents_same : ∀ other, other ≠ name → after.get? other = before.get? other)
    (copies_same : ∀ other, other ≠ name → copies.get? other = ledger.copies.get? other)
    (noted : ∀ copy, copies.get? name = some copy →
      ledger.station place ∈ copy.stations ∧
        (∀ number, some number ∈ copy.stations → number < ledger.issued) ∧
        ((∀ other ∈ copy.stations, other = ledger.station place) → copy.Matches name after)) :
    (ledger.write place after copies).Faithful := by
  have numbers : (ledger.write place after copies).numbers = ledger.numbers := by
    cases place <;> rfl
  have issued : (ledger.write place after copies).issued = ledger.issued := by
    cases place <;> rfl
  have written : (ledger.write place after copies).copies = copies := by
    cases place <;> rfl
  refine ⟨?_, numbers ▸ faithful.unique, ?_, ?_, ?_⟩
  · cases place with
    | none => exact faithful.numbered
    | some index => simp only [Ledger.write, List.length_set, faithful.numbered]
  · rw [numbers, issued]
    exact faithful.issued
  · rw [written, issued]
    intro other copy found
    by_cases same : other = name
    · obtain ⟨member, past, _⟩ := noted copy (same ▸ found)
      exact ⟨List.ne_nil_of_mem member, past⟩
    · exact faithful.known other copy (copies_same other same ▸ found)
  · rw [written]
    intro other copy found station all
    by_cases same : other = name
    · subst same
      obtain ⟨member, _, right⟩ := noted copy found
      obtain rfl : ledger.station place = station := all _ member
      exact faithful.holds_write here copies (right all)
    · have held := faithful.held other copy (copies_same other same ▸ found) station all
      exact holds_write_of_holds here copies
        (fun matched => matched.congr (documents_same other same)) held

end Ledger

end LuauWorkspace
