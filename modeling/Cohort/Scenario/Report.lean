import Cohort.Duration

/-!
# Reports

The counts of one run of a scenario, and the line that tells them.
-/

set_option autoImplicit false

namespace Cohort

structure Report where
  scenario : String
  calls : Nat := 0
  /-- How often the protected work ran. -/
  executions : Nat := 0
  /-- Calls served without running the work themselves. -/
  shared : Nat := 0
  /-- The most tokens held at once. -/
  peak : Nat := 0
  /-- Refusals handed to callers. -/
  dialFailures : Nat := 0
  /-- Connections that failed to close. -/
  closeFailures : Nat := 0
  elapsed : Duration := {}
deriving DecidableEq

namespace Report

/-- A count that goes without saying when it is zero. -/
def unlessZero (count : Nat) (lead trail : String) : String :=
  if count = 0 then "" else lead ++ toString count ++ trail

/-- The report without the time that the run took. -/
def summary (report : Report) : String :=
  report.scenario ++ ": " ++ toString report.calls ++ " calls, "
    ++ toString report.executions ++ " executions, "
    ++ toString report.shared ++ " shared"
    ++ unlessZero report.peak ", peak " " holders"
    ++ unlessZero report.dialFailures ", " " dial failures"
    ++ unlessZero report.closeFailures ", " " close failures"

def line (report : Report) : String :=
  report.summary ++ " in " ++ report.elapsed.text

end Report

end Cohort
