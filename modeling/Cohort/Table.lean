/-!
# Tables

Finite maps kept as a list of entries, oldest insertion first. A key occurs at
most once; inserting a key that is present moves it to the end.
-/

set_option autoImplicit false

namespace Cohort

/-- Entries of a finite map, in the order in which their keys were last inserted. -/
structure Table (κ α : Type) where
  entries : List (κ × α) := []

namespace Table

variable {κ α : Type}

instance : Inhabited (Table κ α) := ⟨{}⟩

def empty : Table κ α := {}

def keys (table : Table κ α) : List κ :=
  table.entries.map Prod.fst

def values (table : Table κ α) : List α :=
  table.entries.map Prod.snd

def size (table : Table κ α) : Nat :=
  table.entries.length

variable [DecidableEq κ]

/-- The value stored under `key`, found at its first entry. -/
def find? (table : Table κ α) (key : κ) : Option α :=
  (table.entries.find? (fun entry => decide (entry.1 = key))).map Prod.snd

def contains (table : Table κ α) (key : κ) : Bool :=
  (table.find? key).isSome

def erase (table : Table κ α) (key : κ) : Table κ α :=
  ⟨table.entries.filter (fun entry => decide (entry.1 ≠ key))⟩

def insert (table : Table κ α) (key : κ) (value : α) : Table κ α :=
  ⟨(table.erase key).entries ++ [(key, value)]⟩

@[simp]
theorem find?_empty (key : κ) : (empty : Table κ α).find? key = none := rfl

theorem contains_eq_isSome (table : Table κ α) (key : κ) :
    table.contains key = (table.find? key).isSome := rfl

theorem mem_keys_erase {table : Table κ α} {key other : κ} :
    other ∈ (table.erase key).keys ↔ other ∈ table.keys ∧ other ≠ key := by
  simp only [keys, erase, List.mem_map, List.mem_filter, decide_eq_true_eq]
  constructor
  · rintro ⟨entry, ⟨member, different⟩, rfl⟩
    exact ⟨⟨entry, member, rfl⟩, different⟩
  · rintro ⟨⟨entry, member, rfl⟩, different⟩
    exact ⟨entry, ⟨member, different⟩, rfl⟩

@[simp]
theorem find?_erase_self (table : Table κ α) (key : κ) :
    (table.erase key).find? key = none := by
  simp [find?, erase]

theorem find?_erase_of_ne (table : Table κ α) {key other : κ} (different : other ≠ key) :
    (table.erase key).find? other = table.find? other := by
  simp only [find?, erase, List.find?_filter]
  congr 2
  funext entry
  by_cases same : entry.1 = other
  · simp [same, different]
  · simp [same]

theorem find?_insert (table : Table κ α) (key other : κ) (value : α) :
    (table.insert key value).find? other =
      if key = other then some value else table.find? other := by
  by_cases same : key = other
  · subst same
    have absent := table.find?_erase_self key
    simp only [find?, Option.map_eq_none_iff] at absent
    simp [find?, insert, List.find?_append, absent]
  · have kept := table.find?_erase_of_ne (Ne.symm same)
    simp only [find?] at kept
    simp [find?, insert, List.find?_append, same, kept]

@[simp]
theorem find?_insert_self (table : Table κ α) (key : κ) (value : α) :
    (table.insert key value).find? key = some value := by
  simp [find?_insert]

theorem find?_insert_of_ne (table : Table κ α) {key other : κ} (value : α)
    (different : other ≠ key) : (table.insert key value).find? other = table.find? other := by
  simp [find?_insert, Ne.symm different]

theorem find?_eq_none_of_insert {table : Table κ α} {key other : κ} {value : α}
    (absent : (table.insert key value).find? other = none) : table.find? other = none := by
  rw [find?_insert] at absent
  split at absent
  · cases absent
  · exact absent

/-- Erasing keeps the keys apart. -/
theorem nodup_keys_erase {table : Table κ α} (distinct : table.keys.Nodup) (key : κ) :
    (table.erase key).keys.Nodup :=
  List.Nodup.sublist (List.Sublist.map Prod.fst List.filter_sublist) distinct

/-- Inserting keeps the keys apart: no table that grew from the empty one repeats a key. -/
theorem nodup_keys_insert {table : Table κ α} (distinct : table.keys.Nodup) (key : κ)
    (value : α) : (table.insert key value).keys.Nodup := by
  have erased := nodup_keys_erase distinct key
  have absent : key ∉ (table.erase key).keys := fun member => (mem_keys_erase.mp member).2 rfl
  simp only [keys] at erased absent
  simp only [keys, insert, List.map_append, List.map_cons, List.map_nil]
  rw [List.nodup_append]
  refine ⟨erased, by simp, ?_⟩
  intro other member single found
  simp only [List.mem_singleton] at found
  subst found
  exact fun same => absent (same ▸ member)

end Table

end Cohort
