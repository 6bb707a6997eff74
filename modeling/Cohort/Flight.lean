import Cohort.Table
import Cohort.WaitLine

/-!
# Flights

Concurrent calls that name the same key share one execution. The first caller
leads and runs its work; callers that come while it runs follow it and receive
its result. A leader that goes away without a result abandons its call, and its
followers start over.

A flight keeps every call ever started, so that a follower can still read the
result of a call that has left the registry.
-/

set_option autoImplicit false

namespace Cohort

/-- How a call ended for those that follow it. -/
inductive Verdict (ρ : Type) where
  | done (result : ρ)
  | abandoned
deriving DecidableEq

/-- One execution for a key. The verdict is absent while its leader runs. -/
structure Call (ω ρ : Type) where
  verdict : Option (Verdict ρ) := none
  line : WaitLine ω := {}

/-- What polling a follower comes to. -/
inductive Following (ρ : Type) where
  | settled (verdict : Verdict ρ)
  | parked (ticket : UInt64)

namespace Call

variable {ω ρ : Type}

instance : Inhabited (Call ω ρ) := ⟨{}⟩

/-- Polls a follower that holds `ticket` from an earlier poll, if any. -/
def poll (call : Call ω ρ) (ticket : Option UInt64) (waker : ω) : Following ρ × Call ω ρ :=
  match call.verdict with
  | some verdict => (.settled verdict, call)
  | none =>
      let (ticket, line) := call.line.park ticket waker
      (.parked ticket, { call with line })

/-- Drops a follower parked under `ticket`. -/
def leave (call : Call ω ρ) (ticket : UInt64) : Call ω ρ :=
  { call with line := call.line.leave ticket }

/-- Records how the call ended and hands over the wakers of its followers, in
the order in which they parked. -/
def settle (call : Call ω ρ) (verdict : Verdict ρ) : List ω × Call ω ρ :=
  let (woken, line) := call.line.drain
  (woken, { verdict := some verdict, line })

end Call

/-- Every call started so far, by number, and which of them is in flight for a key. -/
structure Flight (κ ω ρ : Type) where
  calls : Array (Call ω ρ) := #[]
  registry : Table κ Nat := {}

/-- What a caller finds on its first poll, or when it starts over. -/
inductive Entry (ρ : Type) where
  /-- Nothing was in flight: the caller runs its work as call `call`. -/
  | leads (call : Nat)
  | joins (call : Nat) (ticket : UInt64)
  /-- The registered call had its verdict already. No registered call ever has one;
  this is a fact about runs of a flight, not about its type. -/
  | late (verdict : Verdict ρ)

namespace Flight

variable {κ ω ρ : Type}

instance : Inhabited (Flight κ ω ρ) := ⟨{}⟩

def call (flight : Flight κ ω ρ) (number : Nat) : Call ω ρ :=
  flight.calls.getD number {}

def setCall (flight : Flight κ ω ρ) (number : Nat) (call : Call ω ρ) : Flight κ ω ρ :=
  { flight with calls := flight.calls.setIfInBounds number call }

/-- How many keys have a call in flight. -/
def inFlight (flight : Flight κ ω ρ) : Nat :=
  flight.registry.size

/-- Polls a follower of call `number` that holds `ticket`. -/
def poll (flight : Flight κ ω ρ) (number : Nat) (ticket : UInt64) (waker : ω) :
    Following ρ × Flight κ ω ρ :=
  let (following, call) := (flight.call number).poll (some ticket) waker
  (following, flight.setCall number call)

/-- Drops a follower of call `number`. -/
def leave (flight : Flight κ ω ρ) (number : Nat) (ticket : UInt64) : Flight κ ω ρ :=
  flight.setCall number ((flight.call number).leave ticket)

variable [DecidableEq κ]

/-- How many callers are parked on the call in flight for `key`. -/
def waiters (flight : Flight κ ω ρ) (key : κ) : Nat :=
  match flight.registry.find? key with
  | some number => (flight.call number).line.waiters.length
  | none => 0

/-- Joins the call in flight for `key`, or registers a new one to lead. -/
def enter (flight : Flight κ ω ρ) (key : κ) (waker : ω) : Entry ρ × Flight κ ω ρ :=
  match flight.registry.find? key with
  | some number =>
      match (flight.call number).poll none waker with
      | (.settled verdict, _) => (.late verdict, flight)
      | (.parked ticket, call) => (.joins number ticket, flight.setCall number call)
  | none =>
      let number := flight.calls.size
      (.leads number,
        { calls := flight.calls.push {}, registry := flight.registry.insert key number })

/-- Frees `key`, then settles call `number`. The key is freed whatever call it is
registered for: that it is this one is up to the leader. -/
def settle (flight : Flight κ ω ρ) (key : κ) (number : Nat) (verdict : Verdict ρ) :
    List ω × Flight κ ω ρ :=
  let (woken, call) := (flight.call number).settle verdict
  (woken, { flight with registry := flight.registry.erase key }.setCall number call)

/-- The leader's work came to `result`. -/
def finish (flight : Flight κ ω ρ) (key : κ) (number : Nat) (result : ρ) :
    List ω × Flight κ ω ρ :=
  flight.settle key number (.done result)

/-- The leader went away without a result. -/
def abandon (flight : Flight κ ω ρ) (key : κ) (number : Nat) : List ω × Flight κ ω ρ :=
  flight.settle key number .abandoned

end Flight

end Cohort
