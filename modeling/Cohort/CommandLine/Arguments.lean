import Cohort.Scenario.Config

/-!
# Arguments

What a command line asks for, and what is reasonable to ask for.
-/

set_option autoImplicit false

namespace Cohort

structure Arguments where
  scenario : Scenario := .all
  callers : Nat := 64
  keys : Nat := 4
  capacity : Nat := 8
  workMs : Nat := 10
  rounds : Nat := 3
  failCloseEvery : Nat := 0
  flakyDials : Bool := false
  /-- Threads to run on; zero for one per processor. -/
  workerThreads : Nat := 0
  progress : Bool := false
  /-- How often more output was asked for. -/
  verbose : Nat := 0
  quiet : Bool := false
deriving DecidableEq

/-- Why arguments are turned down. -/
inductive Unreasonable where
  | callers (count : Nat)
  | keys (count : Nat)
  | load (perKey keyCount : Nat)
  | capacity
  | rounds
  | work (milliseconds : Nat)
  | quietAndVerbose
deriving DecidableEq

def Unreasonable.message : Unreasonable → String
  | .callers count => "Callers must be between 1 and 100000, got: " ++ toString count
  | .keys count => "Keys must be between 1 and 10000, got: " ++ toString count
  | .load perKey keyCount =>
      "Too many concurrent callers: " ++ toString perKey ++ " callers x " ++ toString keyCount
        ++ " keys"
  | .capacity => "Capacity must be at least 1"
  | .rounds => "Rounds must be at least 1"
  | .work milliseconds =>
      "Work duration too long (max 60000 ms): " ++ toString milliseconds ++ " ms"
  | .quietAndVerbose => "Cannot use both --quiet and --verbose options"

namespace Arguments

/-- Checks the arguments in a fixed order; the first that is out of bounds is told. -/
def validate (arguments : Arguments) : Except Unreasonable Unit :=
  if arguments.callers = 0 ∨ 100000 < arguments.callers then
    .error (.callers arguments.callers)
  else if arguments.keys = 0 ∨ 10000 < arguments.keys then
    .error (.keys arguments.keys)
  else if 1000000 < min (arguments.callers * arguments.keys) (UInt64.size - 1) then
    .error (.load arguments.callers arguments.keys)
  else if arguments.capacity = 0 then .error .capacity
  else if arguments.rounds = 0 then .error .rounds
  else if 60000 < arguments.workMs then .error (.work arguments.workMs)
  else if arguments.quiet ∧ 0 < arguments.verbose then .error .quietAndVerbose
  else .ok ()

/-- Rounds in all scenarios of the selection. -/
def totalRounds (arguments : Arguments) : Except Fault Nat :=
  checkedProduct arguments.scenario.expand.length arguments.rounds

/-- The load that the arguments describe. -/
def config (arguments : Arguments) : Config where
  callers := arguments.callers
  keys := arguments.keys
  capacity := arguments.capacity
  work := arguments.workMs
  rounds := arguments.rounds
  failCloseEvery := arguments.failCloseEvery
  flakyDials := arguments.flakyDials

end Arguments

end Cohort
