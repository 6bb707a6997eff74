import Cohort.Progress
import Cohort.Rota
import Cohort.Scenario.Remark

/-!
# Rounds

What all scenarios have in common: a number of rounds, each of which releases its
callers at one instant, checks what they came back with and counts as progress.
-/

set_option autoImplicit false

namespace Cohort

/-- Why a scenario did not come to its end. -/
inductive Halt where
  | fault (fault : Fault)
  | error (error : LoadError)
  /-- A caller never returned. -/
  | stuck
deriving DecidableEq

/-- Where a run of scenarios stands. -/
structure Course where
  /-- The time in milliseconds. -/
  now : Nat := 0
  progress : Progress := {}
  /-- What was remarked so far, the latest first. -/
  log : List Remark := []

def Course.note (course : Course) (remark : Remark) : Course :=
  { course with log := remark :: course.log }

/-- The schedule of each round. -/
abbrev Timetable := Nat → Schedule

/-- How many callers a list can have at most: their handles take eight bytes each, and
the list has to be addressable. -/
def maxCallers : Nat := (UInt64.size / 2 - 1) / 8

/-- The callers of a round, numbered from zero. -/
def rollCall (count : Nat) : Except Halt (List Nat) :=
  if count ≤ maxCallers then .ok (List.range count) else .error (.fault .callersOverflow)

/-- The callers of a round in which each key has its own. -/
def rollCallPerKey (config : Config) : Except Halt (List Nat) :=
  match checkedProduct config.callers config.keys with
  | .error fault => .error (.fault fault)
  | .ok count => rollCall count

/-- Releases callers at one instant and runs them to their ends. A caller is polled
at most three times and sleeps at most once, which bounds the run. -/
def Rota.play {σ : Type} (behavior : Behavior σ) (schedule : Schedule) (now : Nat)
    (callers : List Nat) (state : σ) : Rota σ :=
  Rota.run behavior schedule (4 * callers.length + 1) 0 { now, state, ready := callers }

/-- Plays `count` rounds, the first of them numbered `index`. A round is given the
time at which it starts, and gives the one at which it ends and what was remarked in
it, the latest first. -/
def playRounds {α : Type} (round : Nat → α → Nat → Except Halt (α × Nat × List Remark)) :
    Nat → Nat → α → Course → Except Halt α × Course
  | 0, _, played, course => (.ok played, course)
  | count + 1, index, played, course =>
      match round index played course.now with
      | .error halt => (.error halt, course)
      | .ok (played, now, log) =>
          playRounds round count (index + 1) played
            { now, progress := course.progress.roundDone, log := log ++ course.log }

/-- Stops with a property that does not hold. -/
def violated {α : Type} (scenario : Scenario) (detail : String) : Except Halt α :=
  .error (.error (.violated scenario.name detail))

end Cohort
