import Mathlib.Algebra.Group.Nat.Defs
import Cohort.CommandLine.Arguments
import Cohort.Proofs.Scenario.Rounds

/-!
# Reasonable arguments

Arguments are accepted if and only if each of them keeps its bounds. The bounds of callers and keys
keep their product small. No bound is set to the rounds, so a total over several scenarios need
not fit into 64 bits.
-/

set_option autoImplicit false

namespace Cohort.Arguments

variable {arguments : Arguments}

structure Reasonable (arguments : Arguments) : Prop where
  callers : 1 ≤ arguments.callers ∧ arguments.callers ≤ 100000
  keys : 1 ≤ arguments.keys ∧ arguments.keys ≤ 10000
  load : arguments.callers * arguments.keys ≤ 1000000
  capacity : 1 ≤ arguments.capacity
  rounds : 1 ≤ arguments.rounds
  work : arguments.workMs ≤ 60000
  quiet : arguments.quiet = true → arguments.verbose = 0

/-- Callers and keys that keep their own bounds have a product that fits. -/
theorem min_mul_eq (callers : arguments.callers ≤ 100000) (keys : arguments.keys ≤ 10000) :
    min (arguments.callers * arguments.keys) (UInt64.size - 1) =
      arguments.callers * arguments.keys := by
  refine Nat.min_eq_left ?_
  calc arguments.callers * arguments.keys ≤ 100000 * 10000 := Nat.mul_le_mul callers keys
    _ ≤ UInt64.size - 1 := by decide

theorem validate_eq_ok_iff : arguments.validate = .ok () ↔ arguments.Reasonable := by
  constructor
  · intro accepted
    unfold validate at accepted
    split at accepted
    · cases accepted
    split at accepted
    · cases accepted
    split at accepted
    · cases accepted
    split at accepted
    · cases accepted
    split at accepted
    · cases accepted
    split at accepted
    · cases accepted
    split at accepted
    · cases accepted
    next callers keys load capacity rounds work quiet =>
      rw [min_mul_eq (by omega) (by omega)] at load
      refine ⟨by omega, by omega, by omega, by omega, by omega, by omega, fun quietly => ?_⟩
      exact Nat.eq_zero_of_not_pos fun loud => quiet ⟨quietly, loud⟩
  · intro reasonable
    obtain ⟨callers, keys, load, capacity, rounds, work, quiet⟩ := reasonable
    rw [validate, min_mul_eq callers.2 keys.2, if_neg (by omega), if_neg (by omega),
      if_neg (by omega), if_neg (by omega), if_neg (by omega), if_neg (by omega)]
    refine if_neg fun both => ?_
    exact Nat.ne_of_gt both.2 (quiet both.1)

theorem Reasonable.few (reasonable : arguments.Reasonable) :
    arguments.config.callers * arguments.config.keys ≤ maxCallers :=
  Nat.le_trans reasonable.load (by decide)

/-! ## Products -/

/-- A selection of one scenario has as many rounds as asked for, which fits. -/
theorem totalRounds_eq (word : arguments.rounds < 2 ^ 64) :
    arguments.totalRounds =
      if arguments.scenario = .all ∧ (2 ^ 64 - 1) / 3 < arguments.rounds then
        .error .productOverflow
      else .ok (arguments.scenario.expand.length * arguments.rounds) := by
  rw [totalRounds, checkedProduct]
  have size : UInt64.size = 2 ^ 64 := rfl
  cases selected : arguments.scenario with
  | flight | cache | limit =>
      have single : 1 * arguments.rounds < UInt64.size := by omega
      change (if 1 * arguments.rounds < UInt64.size then _ else _) = _
      rw [if_pos single, if_neg (by simp)]
  | all =>
      change (if 3 * arguments.rounds < UInt64.size then _ else _) = _
      by_cases many : (2 ^ 64 - 1) / 3 < arguments.rounds
      · rw [if_neg (by omega), if_pos ⟨rfl, many⟩]
      · rw [if_pos (by omega), if_neg fun both => many both.2]

/-- Of the products that are formed of accepted arguments those of callers and keys fit. The one
of scenarios and rounds does not if all scenarios are selected for too many rounds. -/
theorem products_of_accepted (accepted : arguments.validate = .ok ())
    (word : arguments.rounds < 2 ^ 64) :
    min (arguments.callers * arguments.keys) (UInt64.size - 1) =
        arguments.callers * arguments.keys ∧
      rollCallPerKey arguments.config =
        .ok (List.range (arguments.callers * arguments.keys)) ∧
      arguments.totalRounds =
        if arguments.scenario = .all ∧ (2 ^ 64 - 1) / 3 < arguments.rounds then
          .error .productOverflow
        else .ok (arguments.scenario.expand.length * arguments.rounds) := by
  have reasonable := validate_eq_ok_iff.mp accepted
  exact ⟨min_mul_eq reasonable.callers.2 reasonable.keys.2, rollCallPerKey_eq reasonable.few,
    totalRounds_eq word⟩

theorem products_of_largest :
    let arguments : Arguments :=
      { callers := 100000, keys := 10, rounds := 6148914691236517205, workMs := 60000 }
    min (arguments.callers * arguments.keys) (UInt64.size - 1) = 1000000 ∧
      rollCallPerKey arguments.config = .ok (List.range 1000000) ∧
      arguments.totalRounds = .ok 18446744073709551615 :=
  products_of_accepted rfl (by decide)

/-- The largest number of rounds is accepted, and its total over all scenarios does not fit. -/
theorem products_overflow :
    let arguments : Arguments := { rounds := 18446744073709551615 }
    arguments.rounds < 2 ^ 64 ∧ arguments.validate = .ok () ∧
      arguments.totalRounds = .error .productOverflow :=
  ⟨by decide, rfl, rfl⟩

end Cohort.Arguments
