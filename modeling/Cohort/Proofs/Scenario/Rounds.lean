import Mathlib.Logic.Function.Iterate
import Cohort.Scenario.Round

/-!
# Runs of rounds

A roll call that fits into memory numbers all callers. Rounds that each succeed and keep what
holds between them are all played, and each of them is recorded.
-/

set_option autoImplicit false

namespace Cohort

theorem rollCall_eq {count : Nat} (few : count ≤ maxCallers) :
    rollCall count = .ok (List.range count) :=
  if_pos few

theorem rollCallPerKey_eq {config : Config} (few : config.callers * config.keys ≤ maxCallers) :
    rollCallPerKey config = .ok (List.range (config.callers * config.keys)) := by
  have fits : config.callers * config.keys < UInt64.size := by
    unfold maxCallers UInt64.size at *
    omega
  rw [rollCallPerKey, checkedProduct, if_pos fits]
  exact rollCall_eq few

/-- More callers than a list can have are never called. -/
theorem rollCallPerKey_of_many {config : Config}
    (many : maxCallers < config.callers * config.keys)
    (fits : config.callers * config.keys < UInt64.size) :
    rollCallPerKey config = .error (.fault .callersOverflow) := by
  rw [rollCallPerKey, checkedProduct, if_pos fits]
  exact if_neg (Nat.not_le_of_lt many)

section Rounds

variable {α : Type} {round : Nat → α → Nat → Except Halt (α × Nat × List Remark)}

/-- All rounds are played if each succeeds wherever the one before may have left off. -/
theorem playRounds_ok (invariant : Nat → α → Prop) {index count : Nat}
    (keeps : ∀ number < index + count, ∀ played now, invariant number played →
      ∃ next later log, round number played now = .ok (next, later, log) ∧
        invariant (number + 1) next)
    {played : α} (holds : invariant index played) (course : Course) :
    ∃ last finished, playRounds round count index played course = (.ok last, finished) ∧
      invariant (index + count) last ∧
      finished.progress = Progress.roundDone^[count] course.progress := by
  induction count generalizing index played course with
  | zero => exact ⟨played, course, rfl, holds, rfl⟩
  | succ count ih =>
      have first : index < index + (count + 1) := Nat.lt_add_of_pos_right (Nat.succ_pos count)
      obtain ⟨next, later, log, succeeds, holds⟩ := keeps index first played course.now holds
      have others : index + 1 + count = index + (count + 1) := Nat.succ_add_eq_add_succ index count
      obtain ⟨last, finished, plays, holds, recorded⟩ :=
        ih (fun number inside => keeps number (others ▸ inside)) holds
          { now := later, progress := course.progress.roundDone, log := log ++ course.log }
      refine ⟨last, finished, ?_, others ▸ holds, recorded⟩
      rw [playRounds, succeeds]
      exact plays

/-- A first round that fails is the last one. -/
theorem playRounds_error {index count : Nat} {played : α} {course : Course} {halt : Halt}
    (fails : round index played course.now = .error halt) :
    playRounds round (count + 1) index played course = (.error halt, course) := by
  rw [playRounds, fails]

end Rounds

end Cohort
