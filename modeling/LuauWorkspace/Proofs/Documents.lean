import LuauWorkspace.Documents
import LuauWorkspace.Uri.FilePath
import LuauWorkspace.Proofs.Line
import Mathlib.Data.List.Nodup

/-!
# Documents under their names

A table whose keys are unique gives back each of its entries. The documents of a workspace form
such a table, and each lies under the name of its URI.
-/
namespace LuauWorkspace

namespace Table

variable {κ α : Type} [DecidableEq κ]

theorem nodup_keys_insert {t : Table κ α} (once : t.keys.Nodup) (key : κ) (value : α) :
    (t.insert key value).keys.Nodup := by
  have others : (t.erase key).keys = t.keys.filter (· ≠ key) := by
    simp only [erase, keys, List.filter_map, Function.comp_def]
  have whole : (t.insert key value).keys = key :: (t.erase key).keys := rfl
  rw [whole, others, List.nodup_cons]
  exact ⟨by simp, once.filter _⟩

theorem nodup_keys_erase {t : Table κ α} (once : t.keys.Nodup) (key : κ) :
    (t.erase key).keys.Nodup :=
  once.sublist (List.filter_sublist.map _)

theorem get?_of_mem_entries {t : Table κ α} (once : t.keys.Nodup) {key : κ} {value : α}
    (member : (key, value) ∈ t.entries) : t.get? key = some value := by
  obtain ⟨entries⟩ := t
  simp only [keys, get?] at once ⊢
  induction entries with
  | nil => simp at member
  | cons entry rest ih =>
    rw [List.map_cons, List.nodup_cons] at once
    rcases List.mem_cons.mp member with rfl | later
    · simp
    -- The first entry of a key is its only one, so a later member has another key.
    · have differs : key ≠ entry.1 := by
        rintro rfl
        exact once.1 (List.mem_map.mpr ⟨_, later, rfl⟩)
      rw [List.lookup_cons, beq_false_of_ne differs]
      exact ih once.2 later

end Table

/-- An accepted update replaces the version and the text. -/
theorem Document.uri_of_update {held document : Document} {update : Update}
    (updated : held.update update = .ok document) : document.uri = held.uri := by
  unfold Document.update at updated
  split at updated
  · simp at updated
  · exact Except.ok.inj updated ▸ rfl

namespace Documents

/-- Each document is kept once, under the name of its URI. -/
structure Filed (documents : Documents) : Prop where
  once : documents.keys.Nodup
  named : ∀ name document, documents.get? name = some document →
    ModuleName.ofUri document.uri = name

def all (documents : Documents) : List Document := documents.entries.map (·.2)

theorem filed_empty : Filed {} := ⟨List.nodup_nil, fun _ _ found => by simp at found⟩

variable {documents : Documents}

theorem Filed.insert (filed : documents.Filed) {name : ModuleName} {document : Document}
    (own : ModuleName.ofUri document.uri = name) : Filed (documents.insert name document) := by
  refine ⟨Table.nodup_keys_insert filed.once _ _, fun other held found => ?_⟩
  rw [Table.get?_insert] at found
  split at found
  next same =>
    obtain rfl : document = held := by simpa using found
    exact own.trans same.symm
  · exact filed.named other held found

theorem Filed.erase (filed : documents.Filed) (name : ModuleName) :
    Filed (documents.erase name) := by
  refine ⟨Table.nodup_keys_erase filed.once name, fun other held found => ?_⟩
  rw [Table.get?_erase] at found
  split at found
  · simp at found
  · exact filed.named other held found

theorem Filed.get?_eq_some_iff (filed : documents.Filed) (name : ModuleName)
    (document : Document) :
    documents.get? name = some document ↔
      document ∈ documents.all ∧ ModuleName.ofUri document.uri = name := by
  constructor
  · intro found
    exact ⟨List.mem_map.mpr ⟨_, Table.mem_entries_of_get? found, rfl⟩,
      filed.named name document found⟩
  · rintro ⟨member, rfl⟩
    -- The entry lies under some name, which is that of its own URI.
    obtain ⟨⟨name, held⟩, listed, rfl⟩ := List.mem_map.mp member
    have found := Table.get?_of_mem_entries filed.once listed
    rw [filed.named name held found, found]

/-- No two documents have one name. -/
theorem Filed.nodup_names (filed : documents.Filed) :
    (documents.all.map fun document => ModuleName.ofUri document.uri).Nodup := by
  have names : documents.all.map (fun document => ModuleName.ofUri document.uri) =
      documents.keys := by
    rw [all, List.map_map]
    refine List.map_congr_left fun entry listed => ?_
    exact filed.named entry.1 entry.2 (Table.get?_of_mem_entries filed.once listed)
  exact names ▸ filed.once

/-- The table of documents after an update, refused or not. -/
def updated (documents : Documents) (name : ModuleName) (update : Update) : Documents :=
  (documents.update name update).toOption.getD documents

theorem get?_updated_of_ne {name other : ModuleName} (update : Update) (differs : other ≠ name) :
    (documents.updated name update).get? other = documents.get? other := by
  unfold updated Documents.update
  split
  · rfl
  next document _ =>
    cases document.update update with
    | error refusal => rfl
    | ok document => exact Table.get?_insert_of_ne _ _ differs

theorem get?_updated_self (documents : Documents) (name : ModuleName) (update : Update) :
    (documents.updated name update).get? name =
      (documents.get? name).map fun document =>
        (document.update update).toOption.getD document := by
  unfold updated Documents.update
  cases found : documents.get? name with
  | none => simp [Except.toOption, found]
  | some document =>
    cases result : document.update update with
    | error refusal => simp [Except.map, Except.toOption, found, result]
    | ok renewed => simp [Except.map, Except.toOption, result]

/-- An open document takes a newer update. -/
theorem get?_updated_of_lt {name : ModuleName} {update : Update} {document : Document}
    (opened : documents.get? name = some document) (newer : document.version < update.version) :
    (documents.updated name update).get? name =
      some { document with
        version := update.version
        text := update.changes.foldl (fun text change => change.apply text) document.text } := by
  have fresh : ¬ update.version ≤ document.version := by omega
  simp only [updated, Documents.update, opened, Document.update, if_neg fresh]
  exact Table.get?_insert_self _ _ _

end Documents

end LuauWorkspace
