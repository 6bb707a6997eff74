import Mathlib.Algebra.BigOperators.Group.List.Basic
import Mathlib.Algebra.Ring.Nat
import Mathlib.Data.List.Nodup
import Mathlib.Logic.Function.Basic

/-!
# The callers of a round

Each of them stands in some phase, and one poll moves one of them on. What is known of all of them
together changes by what is known of that one.
-/

set_option autoImplicit false

namespace Cohort

variable {α β : Type} {total caller : Nat} {phases : Nat → α}

/-! ## Phases -/

theorem getD_setIfInBounds (stored : Array α) (default phase : α) (caller one : Nat) :
    (stored.setIfInBounds caller phase).getD one default =
      if one = caller ∧ caller < stored.size then phase else stored.getD one default := by
  simp only [Array.getD_eq_getD_getElem?, Array.getElem?_setIfInBounds]
  by_cases same : caller = one
  · subst same
    by_cases inside : caller < stored.size <;> simp [inside]
  · simp [same, Ne.symm same]

/-- One caller goes on, all others stand where they stood. -/
theorem getD_setIfInBounds_eq_update {stored : Array α} (inside : caller < stored.size)
    (default phase : α) :
    (fun one => (stored.setIfInBounds caller phase).getD one default) =
      Function.update (fun one => stored.getD one default) caller phase := by
  funext one
  rw [getD_setIfInBounds, Function.update_apply]
  simp [inside]

theorem getD_replicate (total : Nat) (phase : α) (one : Nat) :
    (Array.replicate total phase).getD one phase = phase := by
  rw [Array.getD_eq_getD_getElem?, Array.getElem?_replicate]
  split <;> rfl

theorem lt_size_of_getD_ne {stored : Array α} {default : α}
    (stands : stored.getD caller default ≠ default) : caller < stored.size := by
  by_contra outside
  refine stands ?_
  simp [Array.getD_eq_getD_getElem?, outside]

/-! ## What they call for -/

/-- The names that callers call for, each once. -/
structure Serves (name : Nat → String) (total : Nat) (names : List String) : Prop where
  distinct : names.Nodup
  mem_iff : ∀ one, one ∈ names ↔ ∃ caller < total, name caller = one

/-- Every key has its callers. -/
theorem serves_keys {name : Nat → String} (apart : Function.Injective name) {callers keys : Nat}
    (called : 0 < callers) (keyed : 0 < keys) :
    Serves (fun caller => name (caller % keys)) (callers * keys)
      ((List.range keys).map name) where
  distinct := List.nodup_range.map apart
  mem_iff := by
    intro one
    rw [List.mem_map]
    constructor
    · rintro ⟨key, member, rfl⟩
      have inside := List.mem_range.mp member
      refine ⟨key, Nat.lt_of_lt_of_le inside (Nat.le_mul_of_pos_left _ called), ?_⟩
      simp only [Nat.mod_eq_of_lt inside]
    · rintro ⟨caller, _, rfl⟩
      exact ⟨caller % keys, List.mem_range.mpr (Nat.mod_lt _ keyed), rfl⟩

theorem toString_injective : Function.Injective (toString : Nat → String) := by
  intro number other same
  have shown : Nat.repr number = Nat.repr other := same
  calc number = Nat.ofDigitChars 10 (Nat.repr number).toList 0 := by
        rw [Nat.toList_repr, Nat.ofDigitChars_ten_toDigits]
    _ = Nat.ofDigitChars 10 (Nat.repr other).toList 0 := by rw [shown]
    _ = other := by rw [Nat.toList_repr, Nat.ofDigitChars_ten_toDigits]

/-! ## What is picked of each -/

/-- What is picked of the callers, in their order. -/
def picked (total : Nat) (pick : Nat → α → Option β) (phases : Nat → α) : List β :=
  (List.range total).filterMap (fun caller => pick caller (phases caller))

section Picked

variable {pick : Nat → α → Option β} {one : Nat} {item : β}

theorem mem_picked :
    item ∈ picked total pick phases ↔
      ∃ caller < total, pick caller (phases caller) = some item := by
  simp [picked]

theorem picked_update (inside : caller < total) (pick : Nat → α → Option β) (phases : Nat → α) :
    ∃ rest, (picked total pick phases).Perm ((pick caller (phases caller)).toList ++ rest) ∧
      ∀ phase, (picked total pick (Function.update phases caller phase)).Perm
        ((pick caller phase).toList ++ rest) := by
  have split := List.perm_cons_erase (List.mem_range.mpr inside)
  refine ⟨((List.range total).erase caller).filterMap (fun one => pick one (phases one)),
    ?_, fun phase => ?_⟩
  · refine (split.filterMap _).trans ?_
    cases chosen : pick caller (phases caller) <;> simp [chosen]
  · have others : ((List.range total).erase caller).filterMap
          (fun one => pick one (Function.update phases caller phase one)) =
        ((List.range total).erase caller).filterMap (fun one => pick one (phases one)) := by
      refine List.filterMap_congr fun one member => ?_
      rw [Function.update_of_ne (List.nodup_range.mem_erase_iff.mp member).1]
    refine (split.filterMap _).trans ?_
    cases chosen : pick caller phase <;> simp [chosen, others]

/-- Nothing is picked twice, so it tells of whom it was picked. -/
theorem eq_of_picked (distinct : (picked total pick phases).Nodup) (inside : caller < total)
    (inside' : one < total) (chosen : pick caller (phases caller) = some item)
    (chosen' : pick one (phases one) = some item) : caller = one := by
  by_contra different
  have split := List.perm_cons_erase (List.mem_range.mpr inside)
  have there : one ∈ (List.range total).erase caller :=
    (List.nodup_range.mem_erase_iff).mpr ⟨Ne.symm different, List.mem_range.mpr inside'⟩
  have apart := (split.filterMap (fun one => pick one (phases one))).nodup_iff.mp distinct
  rw [List.filterMap_cons_some (f := fun one => pick one (phases one)) chosen, List.nodup_cons]
    at apart
  exact apart.1 (List.mem_filterMap.mpr ⟨one, there, chosen'⟩)

end Picked

/-! ## What each weighs -/

/-- What the callers weigh together. -/
def weightOf (total : Nat) (weigh : α → Nat) (phases : Nat → α) : Nat :=
  ((List.range total).map (fun caller => weigh (phases caller))).sum

section Weight

variable {weigh : α → Nat}

theorem weightOf_eq_add (inside : caller < total) (weigh : α → Nat) (phases : Nat → α) :
    ∃ rest, weightOf total weigh phases = weigh (phases caller) + rest ∧
      ∀ phase, weightOf total weigh (Function.update phases caller phase) = weigh phase + rest := by
  have split := List.perm_cons_erase (List.mem_range.mpr inside)
  refine ⟨(((List.range total).erase caller).map (fun one => weigh (phases one))).sum,
    ?_, fun phase => ?_⟩
  · rw [weightOf, (split.map _).sum_eq, List.map_cons, List.sum_cons]
  · have others : ((List.range total).erase caller).map
          (fun one => weigh (Function.update phases caller phase one)) =
        ((List.range total).erase caller).map (fun one => weigh (phases one)) := by
      refine List.map_congr_left fun one member => ?_
      rw [Function.update_of_ne (List.nodup_range.mem_erase_iff.mp member).1]
    rw [weightOf, (split.map _).sum_eq, List.map_cons, List.sum_cons, others,
      Function.update_self]

theorem weightOf_update (inside : caller < total) (weigh : α → Nat) (phases : Nat → α)
    (phase : α) :
    weightOf total weigh (Function.update phases caller phase) + weigh (phases caller) =
      weightOf total weigh phases + weigh phase := by
  obtain ⟨rest, before, after⟩ := weightOf_eq_add inside weigh phases
  rw [before, after]
  omega

theorem le_weightOf (inside : caller < total) : weigh (phases caller) ≤ weightOf total weigh phases := by
  obtain ⟨rest, split, _⟩ := weightOf_eq_add inside weigh phases
  omega

theorem weightOf_eq_zero (light : ∀ caller < total, weigh (phases caller) = 0) :
    weightOf total weigh phases = 0 := by
  refine List.sum_eq_zero fun weight member => ?_
  obtain ⟨caller, inside, rfl⟩ := List.mem_map.mp member
  exact light caller (List.mem_range.mp inside)

theorem weightOf_le (light : ∀ phase, weigh phase ≤ 1) (total : Nat) (phases : Nat → α) :
    weightOf total weigh phases ≤ total := by
  induction total with
  | zero => exact Nat.le_refl 0
  | succ total ih =>
      rw [weightOf, List.range_succ, List.map_append, List.sum_append, List.map_singleton,
        List.sum_singleton]
      exact Nat.add_le_add ih (light _)

theorem weightOf_of_alike {each : Nat} (alike : ∀ caller < total, weigh (phases caller) = each) :
    weightOf total weigh phases = total * each := by
  have same : (List.range total).map (fun caller => weigh (phases caller)) =
      List.replicate total each := by
    refine List.eq_replicate_iff.mpr ⟨by simp, fun weight member => ?_⟩
    obtain ⟨caller, inside, rfl⟩ := List.mem_map.mp member
    exact alike caller (List.mem_range.mp inside)
  rw [weightOf, same, List.sum_replicate_nat]

end Weight

end Cohort
