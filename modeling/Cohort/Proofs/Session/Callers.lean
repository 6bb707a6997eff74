import Cohort.Proofs.Flight.Traffic
import Cohort.Proofs.Session.Shelves

/-!
# Callers among the stakes

A task that waits at a flight or at a manager is a caller there, which leads the call
whose work it runs, or follows one.
-/

set_option autoImplicit false

namespace Cohort

namespace Flight

variable {κ ρ : Type}

def Caller.underWay? (caller : Caller κ ρ) : Option (Caller κ ρ) :=
  match caller.phase with
  | .leads _ | .follows _ _ => some caller
  | .idle | .returned _ _ | .gone => none

theorem eq_of_underWay? {one caller : Caller κ ρ} (picked : one.underWay? = some caller) :
    one = caller := by
  obtain ⟨key, phase⟩ := one
  cases phase with
  | leads _ | follows _ _ => exact Option.some.inj picked
  | idle | returned _ _ | gone => cases picked

theorem filterMap_underWay? (callers : List (Caller κ ρ)) :
    (callers.filterMap Caller.underWay?).filterMap Caller.lead? =
      callers.filterMap Caller.lead? := by
  rw [List.filterMap_filterMap]
  refine List.filterMap_congr fun caller _ => ?_
  obtain ⟨key, phase⟩ := caller
  cases phase <;> rfl

end Flight

/-- It is flight `number`, whether its results are marked or not. -/
def Home.isFlight (number : Nat) : Home → Bool
  | .flight one _ => decide (one = number)
  | .manager _ => false

def Home.isManager (number : Nat) : Home → Bool
  | .flight _ _ => false
  | .manager one => decide (one = number)

/-- The caller that a task waits as, if it waits here. -/
def Stake.caller? {ρ : Type} (here : Home → Bool) : Stake → Option (Flight.Caller String ρ)
  | .follow home key call ticket =>
      if here home = true then some ⟨key, .follows call ticket⟩ else none
  | .lead home key call => if here home = true then some ⟨key, .leads call⟩ else none
  | .turn | .gate _ _ | .borrow _ _ _ | .guard _ => none

/-- Those who lead here run the work of their calls. -/
theorem Stake.mem_leaders_iff {ρ : Type} {here : Home → Bool} {stakes : List Stake} {key : String}
    {call : Nat} :
    (key, call) ∈ (stakes.filterMap (@Stake.caller? ρ here)).filterMap Flight.Caller.lead? ↔
      ∃ home, here home = true ∧ Stake.lead home key call ∈ stakes := by
  rw [List.filterMap_filterMap, List.mem_filterMap]
  constructor
  · rintro ⟨stake, member, picked⟩
    cases stake with
    | turn | gate _ _ | borrow _ _ _ | guard _ => cases picked
    | follow home own one ticket =>
        simp only [Stake.caller?] at picked
        split at picked <;> cases picked
    | lead home own one =>
        simp only [Stake.caller?] at picked
        split at picked
        · next there =>
            cases picked
            exact ⟨home, there, member⟩
        · cases picked
  · rintro ⟨home, there, member⟩
    refine ⟨_, member, ?_⟩
    simp only [Stake.caller?, if_pos there]
    rfl

namespace Bench

variable {ρ : Type} {here : Home → Bool} {home : Home}

theorem callers_follow (there : here home = true) (key : String) (call : Nat) (ticket : UInt64) :
    [Stake.follow home key call ticket].filterMap (Stake.caller? here) =
      [(⟨key, .follows call ticket⟩ : Flight.Caller String ρ)] := by
  simp [Stake.caller?, there]

theorem callers_lead (there : here home = true) (key : String) (call : Nat) :
    [Stake.lead home key call].filterMap (Stake.caller? here) =
      [(⟨key, .leads call⟩ : Flight.Caller String ρ)] := by
  simp [Stake.caller?, there]

theorem no_callers_entrance (elsewhere : here home = false) (entrance : Entrance) (key : String) :
    (entrance.stakes home key).filterMap (@Stake.caller? ρ here) = [] := by
  cases entrance <;> simp [Entrance.stakes, Stake.caller?, elsewhere]

theorem no_callers_following (elsewhere : here home = false) (following : Following Settlement)
    (key : String) (call : Nat) :
    (followingStakes home key call following).filterMap (@Stake.caller? ρ here) = [] := by
  cases following with
  | parked _ => simp [followingStakes, Stake.caller?, elsewhere]
  | settled _ => rfl

theorem no_callers_passage (gate : Nat) (passage : Passage) :
    (passageStakes gate passage).filterMap (@Stake.caller? ρ here) = [] := by
  cases passage <;> rfl

theorem no_callers_claim (limit : Nat) (guarded : Bool) (claim : Claim) :
    (claimStakes limit guarded claim).filterMap (@Stake.caller? ρ here) = [] := by
  cases claim <;> cases guarded <;> rfl

end Bench

end Cohort
