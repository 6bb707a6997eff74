import Cohort.Data
import Cohort.Fault

/-!
# Scripts

A script is a list of steps that one caller runs in order. Some steps wait; the
others act on the objects of the session at once. The objects are named, and a
name means whatever was last put under it.
-/

set_option autoImplicit false

namespace Cohort

/-- How a script ended. -/
inductive Outcome where
  | ok (value : Data)
  | err (value : Data)

instance : Inhabited Outcome := ⟨.ok .null⟩

/-- What closing a resource does. -/
inductive CloseBehavior where
  | succeeds
  | fails (message : String)
  | faults (message : String)
  /-- Closes well the first time only. -/
  | once
deriving DecidableEq

/-- A behavior as scripts write it. Anything that is not written so closes well. -/
def CloseBehavior.ofData : Data → CloseBehavior
  | .text "once" => .once
  | data =>
      match data.field? "err", data.field? "panic" with
      | some (.text message), _ => .fails message
      | _, some (.text message) => .faults message
      | _, _ => .succeeds

/-- Where an injected resource comes from. -/
inductive ResourceSource where
  | existing (resource : Nat)
  | fresh (behavior : CloseBehavior)
deriving DecidableEq

/-- What can be done at once, in a script as well as outside of any. -/
inductive Action where
  | newLimit (limit : String) (capacity : Nat)
  | cloneLimit (limit other : String)
  | tryBorrow (limit : String)
  | capacity (limit : String)
  | borrowBlocking (limit : String)
  | giveBack (limit : String)
  | newFlight (flight : String)
  | inFlight (flight : String)
  | waiters (flight key : String)
  | newManager (manager : String)
  | inject (manager key : String) (source : ResourceSource)
  | close (manager : String)
  | size (manager : String)
  | isEmpty (manager : String)
  | isClosed (manager : String)
  | contains (manager key : String)
  | closes (resource : Nat)
  | unlock (gate : String)
  | unknown (name : String)
deriving DecidableEq

/-- Where a keyed call is made. The result of a marked call tells whether the
caller led it; a call at a manager creates the resource for its key. -/
inductive Site where
  | flight (name : String) (marked : Bool)
  | manager (name : String)
deriving DecidableEq

/-- How scripts that run side by side end: when all have ended, or when one has. -/
inductive Ending where
  | all
  | first
deriving DecidableEq

inductive Step where
  /-- Ends the script. -/
  | finish (outcome : Outcome)
  | fault (text : String)
  /-- Waits `times` times, waking itself each time. -/
  | pause (times : Nat)
  | pass (gate : String)
  /-- Borrows a token, on a guard that the script holds if one is named. -/
  | borrow (limit : String) (guard : Option String)
  | call (site : Site) (key : String) (work : List Step)
  | together (ending : Ending) (scripts : List (List Step))
  | tryGuard (limit guard : String)
  | dropGuard (guard : String)
  | act (action : Action)

instance : Inhabited Step := ⟨.finish default⟩

end Cohort
