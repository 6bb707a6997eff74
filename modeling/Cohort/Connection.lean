import Cohort.Failure

/-!
# Connections

Simulated connections: they are dialed, they are open until they are closed, and
some of them fail to close. A switchboard shares them by address.
-/

set_option autoImplicit false

namespace Cohort

/-- How dials turn out, and the connections that they make. -/
structure DialPlan where
  refuse : Bool := false
  /-- A connection fails to close if its number is divisible by this; none if zero. -/
  failCloseEvery : Nat := 0
deriving DecidableEq

structure Connection where
  number : Nat
  address : String
  isOpen : Bool := true
  failsToClose : Bool := false
deriving DecidableEq

instance : Inhabited Connection := ⟨{ number := 0, address := "" }⟩

/-- Whether the connection of a number fails to close. -/
def DialPlan.failsToClose (plan : DialPlan) (number : Nat) : Bool :=
  decide (0 < plan.failCloseEvery ∧ number % plan.failCloseEvery = 0)

namespace Connection

def dial (address : String) (number : Nat) (plan : DialPlan) : Except DialError Connection :=
  if plan.refuse then .error { address, reason := "connection refused" }
  else .ok { number, address, failsToClose := plan.failsToClose number }

/-- Closes a connection. One that fails to close is closed all the same. -/
def close (connection : Connection) : Except LoadError Unit × Connection :=
  if connection.isOpen then
    (if connection.failsToClose then
        .error (.closeFailed connection.number connection.address)
      else .ok (),
      { connection with isOpen := false })
  else (.error (.alreadyClosed connection.number connection.address), connection)

end Connection

/-- Every connection made so far, by position, and those that a manager shares. -/
structure Switchboard (ω : Type) where
  connections : Array Connection := #[]
  manager : Manager String ω Nat DialError := {}

namespace Switchboard

variable {ω : Type}

instance : Inhabited (Switchboard ω) := ⟨{}⟩

def connection (board : Switchboard ω) (position : Nat) : Connection :=
  board.connections.getD position default

/-- Keeps a new connection and gives its position. -/
def add (board : Switchboard ω) (connection : Connection) : Nat × Switchboard ω :=
  (board.connections.size, { board with connections := board.connections.push connection })

/-- Dials a connection and keeps it. -/
def dial (board : Switchboard ω) (address : String) (number : Nat) (plan : DialPlan) :
    Except DialError Nat × Switchboard ω :=
  match Connection.dial address number plan with
  | .error error => (.error error, board)
  | .ok connection =>
      let (position, board) := board.add connection
      (.ok position, board)

def hangUp (position : Nat) (board : Switchboard ω) : Except LoadError Unit × Switchboard ω :=
  let (result, closed) := (board.connection position).close
  (result, { board with connections := board.connections.setIfInBounds position closed })

/-- Finishes the creation under way as call `call` for `key`. -/
def connect (board : Switchboard ω) (key : String) (call : Nat) (dialed : Except DialError Nat) :
    Except (ManagerError DialError) Nat × List ω × Switchboard ω :=
  let (result, manager) := board.manager.install key dialed
  let (woken, manager) := manager.finish key call result
  (result, woken, { board with manager })

/-- Closes the manager and every connection that it shares. -/
def shut (board : Switchboard ω) : List LoadError × Switchboard ω :=
  let (held, manager) := board.manager.shut
  let board := { board with manager }
  match held with
  | none => ([], board)
  | some positions =>
      let (teardown, board) :=
        Teardown.run
          (fun position board =>
            match board.hangUp position with
            | (.ok (), board) => (.closed, board)
            | (.error error, board) => (.failed error, board))
          positions board
      match teardown.result with
      | .ok failures => (failures, board)
      | .error _ => ([], board)

end Switchboard

end Cohort
