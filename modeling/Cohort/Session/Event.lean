import Cohort.Limit
import Cohort.Manager
import Cohort.Notice
import Cohort.Session.Script

/-!
# Events

What a session reports: the replies to actions, and everything that happens
while scripts run.
-/

set_option autoImplicit false

namespace Cohort

/-- What is called to have a task polled again. -/
structure Waker where
  task : String
  label : String
deriving DecidableEq

/-- What a keyed call came to: an outcome at a flight, a resource at a manager. -/
inductive Settlement where
  | outcome (outcome : Outcome)
  | resource (result : Except (ManagerError String) Nat)

/-- What closing a manager came to, in an order that does not depend on the one in
which the resources were closed. -/
structure CloseReport where
  /-- The resources closed, ascending, each as often as it was closed. -/
  closed : List Nat
  /-- The messages of the failures, sorted. -/
  result : Except Fault (List String)

/-- The text of all failures, split into lines and sorted. -/
def CloseReport.lines (report : CloseReport) : List String :=
  match report.result with
  | .error _ => []
  | .ok failures =>
      ((String.intercalate "\n" failures).splitOn "\n").mergeSort
        (fun one other => decide (one ≤ other))

/-- The answer to an action. -/
inductive Reply where
  | nothing
  | flag (value : Bool)
  | count (value : Nat)
  | wouldBlock
  | returned (result : Except ReturnError Unit)
  /-- The resource injected and the one that it replaced. -/
  | injected (result : Except (ManagerError String) (Nat × Option Nat))
  | closed (report : CloseReport)
  | unknown

/-- What polling a task came to. -/
inductive Polled where
  | pending
  | ready (outcome : Outcome)
  | faulted (fault : Fault)

inductive Event where
  | started (label : String)
  | ended (label : String) (outcome : Outcome)
  /-- A script that had started was dropped or unwound. -/
  | cancelled (label : String)
  | woken (label : String)
  | borrowed (label : String) (guarded : Bool)
  /-- A keyed call returned. Whether the caller led it is told for marked calls. -/
  | called (label : String) (settlement : Settlement) (led : Option Bool)
  /-- Scripts that ran side by side have ended, those without an outcome dropped. -/
  | gathered (label : String) (ending : Ending) (outcomes : List (Option Outcome))
  | triedGuard (label : String) (taken : Bool)
  | droppedGuard (label : String) (held : Bool)
  | acted (label : String) (action : Action) (reply : Reply)
  | polled (task : String) (polled : Polled)
  | noticed (notice : Notice)

def Event.isNotice : Event → Bool
  | .noticed _ => true
  | _ => false

end Cohort
