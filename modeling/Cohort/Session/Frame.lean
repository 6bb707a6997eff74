import Cohort.Session.Bench

/-!
# Frames

A frame is a script suspended at a wait: what it waits for, the guards it holds
and the steps still to run. A script that leads a call waits for its own work,
and one whose branches run side by side for its branches, so frames nest.
-/

set_option autoImplicit false

namespace Cohort

mutual

inductive Frame where
  | mk (label : String) (guards : List Guard) (wait : Wait) (rest : List Step)

/-- What a suspended script waits for. -/
inductive Wait where
  /-- Itself: it wakes itself `more` more times. -/
  | pause (more : Nat)
  | gate (gate place : Nat)
  /-- A token, taken on a guard if a name is given. -/
  | borrow (limit : Nat) (ticket : UInt64) (guard : Option String)
  /-- The call that it joined. Its own work is kept in case it has to start over. -/
  | follow (home : Home) (key : String) (call : Nat) (ticket : UInt64) (work : List Step)
  /-- The work of the call that it leads. -/
  | lead (home : Home) (key : String) (call : Nat) (work : Frame)
  | together (ending : Ending) (branches : List Branch)

inductive Branch where
  | running (frame : Frame)
  | ended (outcome : Outcome)

end

/-- The label of the work of a keyed call. -/
def Home.workLabel (home : Home) (label : String) : String :=
  match home with
  | .flight _ _ => label ++ "/w"
  | .manager _ => label ++ "/c"

/-- The report that a keyed call returned. -/
def Home.called (home : Home) (label : String) (settlement : Settlement) (led : Bool) : Event :=
  match home with
  | .flight _ true => .called label settlement (some led)
  | .flight _ false | .manager _ => .called label settlement none

def Branch.outcome? : Branch → Option Outcome
  | .running _ => none
  | .ended outcome => some outcome

/-! ## Dropping

A suspended script is dropped from the inside out: first what it waits for, then
its guards, the one taken last first, then the script itself. -/

/-- Ends a script that had started without letting it run to its end. -/
def Bench.cancel (bench : Bench) (label : String) (guards : List Guard) : Bench :=
  (bench.releaseAll guards).emit (.cancelled label)

mutual

def Frame.drop : Frame → Bench → Bench
  | .mk label guards wait _, bench => (wait.drop bench).cancel label guards

def Wait.drop : Wait → Bench → Bench
  | .pause _, bench => bench
  | .gate _ _, bench => bench
  | .borrow limit ticket _, bench => bench.cancelBorrow limit ticket
  | .follow home _ call ticket _, bench => bench.unfollow home call ticket
  | .lead home key call work, bench => (work.drop bench).abandon home key call
  | .together _ branches, bench => dropBranches branches bench

def Branch.drop : Branch → Bench → Bench
  | .running frame, bench => frame.drop bench
  | .ended _, bench => bench

def dropBranches : List Branch → Bench → Bench
  | [], bench => bench
  | branch :: rest, bench => dropBranches rest (branch.drop bench)

end

end Cohort
