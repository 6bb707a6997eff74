import Cohort.Notice
import Cohort.Scenario.Config
import Cohort.Scenario.Report

/-!
# Remarks

The log of a run: what its callers and the scenarios themselves remark as they go.
-/

set_option autoImplicit false

namespace Cohort

inductive Remark where
  | notice (notice : Notice)
  | dialed (connection : Nat) (address : String)
  /-- A caller came back with the refusal that was planned for it. -/
  | refused (error : DialError)
  /-- A round is over; the count is the one that the scenario is after. -/
  | roundDone (scenario : Scenario) (round count : Nat)
  | reported (report : Report)
deriving DecidableEq

namespace Remark

def level : Remark → Level
  | .notice given => given.level
  | .dialed _ _ => .trace
  | .refused _ | .roundDone _ _ _ => .debug
  | .reported _ => .info

/-- Whether a caller made the remark. All others are made where the scenario waits for
its callers. -/
def byCaller : Remark → Bool
  | .notice (.managerClosed _ _) => false
  | .notice _ | .dialed _ _ => true
  | .refused _ | .roundDone _ _ _ | .reported _ => false

def message : Remark → String
  | .notice given => given.message
  | .dialed _ _ => "dialed"
  | .refused _ => "dial refused as planned"
  | .roundDone scenario _ _ => scenario.name ++ " round done"
  | .reported report => report.summary

/-- What a scenario counts at the end of a round. -/
def countName : Scenario → String
  | .flight => "executions"
  | .cache => "cached"
  | .limit => "peak"
  | .all => "count"

/-- What the remark is about, by name. -/
def fields : Remark → List (String × String)
  | .notice given => given.fields.map (fun field => (field.1, field.2.render))
  | .dialed connection address => [("id", toString connection), ("addr", Data.quote address)]
  | .refused error => [("dial", error.message)]
  | .roundDone scenario round count =>
      [("round", toString round), (countName scenario, toString count)]
  | .reported _ => []

/-- The message with what it is about behind it. -/
def text (remark : Remark) : String :=
  remark.message
    ++ String.join (remark.fields.map (fun field => " " ++ field.1 ++ "=" ++ field.2))

end Remark

end Cohort
