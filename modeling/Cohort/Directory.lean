import Cohort.Connection

/-!
# Directories

Connections by name, and a switchboard that shares them, for use by one caller at a
time.
-/

set_option autoImplicit false

namespace Cohort

structure Directory where
  board : Switchboard Unit := {}
  /-- What each name means: the position of a connection. -/
  names : Table String Nat := {}

namespace Directory

/-- The connection of a name. -/
def find? (directory : Directory) (name : String) : Option Connection :=
  (directory.names.find? name).map directory.board.connection

/-- Names the connection that was obtained. An earlier one of that name stays if none was. -/
def assign {ε : Type} (directory : Directory) (name : String) :
    Except ε Nat × Switchboard Unit → Except ε Connection × Directory
  | (.error error, board) => (.error error, { directory with board })
  | (.ok position, board) =>
      (.ok (board.connection position), { board, names := directory.names.insert name position })

def dial (directory : Directory) (name address : String) (number : Nat) (plan : DialPlan) :
    Except DialError Connection × Directory :=
  directory.assign name (directory.board.dial address number plan)

/-- Asks the switchboard for the connection of a key, to be dialed if it is missing.
There is no answer if a call for the key is in flight, which it never is between
requests of one caller. -/
def request (directory : Directory) (name key address : String) (number : Nat)
    (plan : DialPlan) : Option (Except (ManagerError DialError) Connection) × Directory :=
  let (request, manager) := directory.board.manager.request key ()
  let board := { directory.board with manager }
  match request with
  | .answered result _ =>
      let (result, directory) := directory.assign name (result, board)
      (some result, directory)
  | .late (.done result) =>
      let (result, directory) := directory.assign name (result, board)
      (some result, directory)
  | .creates call =>
      let (dialed, board) := board.dial address number plan
      let (result, _, board) := board.connect key call dialed
      let (result, directory) := directory.assign name (result, board)
      (some result, directory)
  | .joins _ _ | .late .abandoned => (none, { directory with board })

/-- Shares the connection of a name under a key. Gives the one that it replaces. -/
def inject (directory : Directory) (name key : String) :
    Option (Except (ManagerError DialError) (Option Connection)) × Directory :=
  match directory.names.find? name with
  | none => (none, directory)
  | some position =>
      match directory.board.manager.inject key position with
      | .error error => (some (.error error), directory)
      | .ok (replaced, manager) =>
          (some (.ok (replaced.map directory.board.connection)),
            { directory with board := { directory.board with manager } })

/-- Closes the connection of a name. -/
def close (directory : Directory) (name : String) :
    Option (Except LoadError Unit) × Directory :=
  match directory.names.find? name with
  | none => (none, directory)
  | some position =>
      let (result, board) := directory.board.hangUp position
      (some result, { directory with board })

/-- Closes the switchboard and all that it shares. Gives the messages of the failures,
sorted, so that they do not tell the order in which the connections were closed. -/
def closeAll (directory : Directory) : List String × Directory :=
  let (failures, board) := directory.board.shut
  ((failures.map LoadError.message).mergeSort (fun one other => decide (one ≤ other)),
    { directory with board })

end Directory

end Cohort
