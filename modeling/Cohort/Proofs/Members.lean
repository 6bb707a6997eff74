import Mathlib.Data.List.Perm.Basic

/-!
# Members

Lists whose members change in place, seen through what matters of each.
-/

set_option autoImplicit false

namespace Cohort

variable {α β : Type} {list : List α}

theorem filterMap_cons_eq (pick : α → Option β) (one : α) (others : List α) :
    (one :: others).filterMap pick = (pick one).toList ++ others.filterMap pick := by
  cases picked : pick one <;> simp [picked]

/-- What matters of a member stands among the rest as what mattered of it before did. -/
theorem filterMap_set_perm (pick : α → Option β) {number : Nat} {one : α}
    (found : list[number]? = some one) :
    ∃ rest, (list.filterMap pick).Perm ((pick one).toList ++ rest) ∧
      ∀ other, ((list.set number other).filterMap pick).Perm ((pick other).toList ++ rest) := by
  obtain ⟨inside, rfl⟩ := List.getElem?_eq_some_iff.mp found
  refine ⟨(list.eraseIdx number).filterMap pick, ?_, fun other => ?_⟩
  · rw [← filterMap_cons_eq]
    exact ((List.getElem_cons_eraseIdx_perm inside).filterMap _).symm
  · rw [← filterMap_cons_eq]
    exact (List.set_perm_cons_eraseIdx inside _).filterMap _

theorem exists_of_filterMap_perm (pick : α → Option β) {user : β} {rest : List β}
    (same : (list.filterMap pick).Perm (user :: rest)) :
    ∃ number one, list[number]? = some one ∧ pick one = some user ∧
      ∀ other, ((list.set number other).filterMap pick).Perm ((pick other).toList ++ rest) := by
  obtain ⟨one, member, picked⟩ := List.mem_filterMap.mp (same.mem_iff.mpr List.mem_cons_self)
  obtain ⟨number, found⟩ := List.mem_iff_getElem?.mp member
  obtain ⟨others, split, replaced⟩ := filterMap_set_perm pick found
  rw [picked] at split
  have others_perm : others.Perm rest := (split.symm.trans same).cons_inv
  exact ⟨number, one, found, picked, fun other => (replaced other).trans (others_perm.append_left _)⟩

/-- A newcomer changes before anything matters of it. -/
theorem filterMap_newcomer_perm (pick : α → Option β) (list : List α) (newcomer other : α) :
    (((list ++ [newcomer]).set list.length other).filterMap pick).Perm
      ((pick other).toList ++ list.filterMap pick) := by
  rw [List.set_append_right _ _ (Nat.le_refl _), Nat.sub_self, List.set_cons_zero,
    List.filterMap_append, filterMap_cons_eq, List.filterMap_nil, List.append_nil]
  exact List.perm_append_comm

end Cohort
