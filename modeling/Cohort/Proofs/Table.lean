import Mathlib.Data.List.Nodup
import Mathlib.Data.List.Perm.Basic
import Cohort.Table

/-!
# Tables by their entries

A table whose keys are apart is a finite map: an entry is found exactly if it is there.
-/

set_option autoImplicit false

namespace Cohort.Table

variable {κ α : Type} [DecidableEq κ] {table : Table κ α} {key : κ} {value : α}

theorem find?_eq_none_iff : table.find? key = none ↔ key ∉ table.keys := by
  simp only [find?, keys, Option.map_eq_none_iff, List.find?_eq_none, decide_eq_true_eq,
    List.mem_map, not_exists, not_and]

theorem mem_entries_of_find? (found : table.find? key = some value) :
    (key, value) ∈ table.entries := by
  obtain ⟨entry, first, rfl⟩ := Option.map_eq_some_iff.mp found
  have same : entry.1 = key := by simpa using List.find?_some first
  rw [← same]
  exact List.mem_of_find?_eq_some first

theorem find?_eq_some_iff (apart : table.keys.Nodup) :
    table.find? key = some value ↔ (key, value) ∈ table.entries := by
  refine ⟨mem_entries_of_find?, fun member => ?_⟩
  cases found : table.find? key with
  | none => exact absurd (List.mem_map_of_mem member) (find?_eq_none_iff.mp found)
  | some other =>
      have both := List.inj_on_of_nodup_map apart (mem_entries_of_find? found) member rfl
      rw [(Prod.mk.inj both).2]

theorem entries_insert_of_find?_eq_none (absent : table.find? key = none) (value : α) :
    (table.insert key value).entries = table.entries ++ [(key, value)] := by
  have unchanged : (table.erase key).entries = table.entries := by
    refine List.filter_eq_self.mpr fun entry member => ?_
    simp only [ne_eq, decide_not, Bool.not_eq_eq_eq_not, Bool.not_true, decide_eq_false_iff_not]
    rintro rfl
    exact find?_eq_none_iff.mp absent (List.mem_map_of_mem member)
  rw [insert, unchanged]

theorem entries_erase_perm {rest : List (κ × α)} (apart : table.keys.Nodup)
    (split : table.entries.Perm ((key, value) :: rest)) : (table.erase key).entries.Perm rest := by
  have kept : ∀ entry ∈ rest, decide (entry.1 ≠ key) = true := by
    intro entry member
    have distinct := (split.map Prod.fst).nodup_iff.mp apart
    have absent := (List.nodup_cons.mp distinct).1
    simp only [decide_eq_true_eq]
    rintro rfl
    exact absent (List.mem_map.mpr ⟨entry, member, rfl⟩)
  have filtered := split.filter (fun entry => decide (entry.1 ≠ key))
  rwa [List.filter_cons_of_neg (by simp), List.filter_eq_self.mpr kept] at filtered

theorem entries_perm_of_find? (apart : table.keys.Nodup) (found : table.find? key = some value) :
    table.entries.Perm ((key, value) :: (table.erase key).entries) := by
  obtain ⟨before, after, split⟩ := List.append_of_mem (mem_entries_of_find? found)
  have middle : table.entries.Perm ((key, value) :: (before ++ after)) := by
    rw [split]
    exact List.perm_middle
  exact middle.trans ((entries_erase_perm apart middle).symm.cons _)

/-- A value stands in the table once for each key that holds it. -/
theorem count_values [DecidableEq α] (apart : table.keys.Nodup) (value : α) :
    table.values.count value =
      table.keys.countP (fun key => decide (table.find? key = some value)) := by
  rw [values, keys, List.count, List.countP_map, List.countP_map]
  refine List.countP_congr fun entry member => ?_
  have found : table.find? entry.1 = some entry.2 := (find?_eq_some_iff apart).mpr member
  simp [found]

end Cohort.Table
