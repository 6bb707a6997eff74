import Cohort.Fault
import Cohort.Flight

/-!
# Managers

A manager keeps one shared resource per key. A missing resource is created by
whoever asks first, through a flight on the same key, so that callers asking at
the same time share one creation. Closing a manager empties it for good.

Resources are handles: two answers are the same resource when the handles are
equal. What closing a resource does is up to its owner.
-/

set_option autoImplicit false

namespace Cohort

/-- Why a manager has no resource to give. -/
inductive ManagerError (ε : Type) where
  | create (cause : ε)
  | closed
deriving DecidableEq

namespace ManagerError

variable {ε : Type}

/-- The wording, given that of the causes. -/
def message (text : ε → String) : ManagerError ε → String
  | .create cause => "resource creation failed: " ++ text cause
  | .closed => "resource manager is closed"

/-- The error of the creation, if that is what failed. -/
def cause? : ManagerError ε → Option ε
  | .create cause => some cause
  | .closed => none

end ManagerError

/-- What closing one resource comes to. -/
inductive Closing (ε : Type) where
  | closed
  | failed (error : ε)
  | faulted (fault : Fault)

/-- What closing many resources came to. -/
structure Teardown (ρ ε : Type) where
  /-- The resources closed, in order, the one that faulted included. -/
  visited : List ρ
  /-- The failures, in order, unless a fault cut the teardown short. -/
  result : Except Fault (List ε)

/-- Closes the resources one after the other. A failure does not keep the others
from being closed, a fault does. -/
def Teardown.run {ρ ε σ : Type} (close : ρ → σ → Closing ε × σ) :
    List ρ → σ → Teardown ρ ε × σ
  | [], state => (⟨[], .ok []⟩, state)
  | resource :: rest, state =>
      match close resource state with
      | (.faulted fault, state) => (⟨[resource], .error fault⟩, state)
      | (.closed, state) =>
          let (teardown, state) := Teardown.run close rest state
          ({ teardown with visited := resource :: teardown.visited }, state)
      | (.failed error, state) =>
          let (teardown, state) := Teardown.run close rest state
          (⟨resource :: teardown.visited, teardown.result.map (error :: ·)⟩, state)

/-- Resources by key, absent once the manager is closed, and the creations under way. -/
structure Manager (κ ω ρ ε : Type) where
  table : Option (Table κ ρ) := some {}
  flight : Flight κ ω (Except (ManagerError ε) ρ) := {}

/-- What a caller finds when it asks for a key. -/
inductive Request (ω ρ ε : Type) where
  /-- The answer is known without a creation; it settled a call of its own. -/
  | answered (result : Except (ManagerError ε) ρ) (woken : List ω)
  /-- The key is missing: the caller creates the resource as call `call`. -/
  | creates (call : Nat)
  | joins (call : Nat) (ticket : UInt64)
  /-- As for a flight, no run gets here. -/
  | late (verdict : Verdict (Except (ManagerError ε) ρ))

namespace Manager

variable {κ ω ρ ε : Type}

instance : Inhabited (Manager κ ω ρ ε) := ⟨{}⟩

def isClosed (manager : Manager κ ω ρ ε) : Bool :=
  manager.table.isNone

/-- How many keys hold a resource. -/
def size (manager : Manager κ ω ρ ε) : Nat :=
  match manager.table with
  | some table => table.size
  | none => 0

def isEmpty (manager : Manager κ ω ρ ε) : Bool :=
  manager.size == 0

/-- The keys that hold a resource. -/
def keys (manager : Manager κ ω ρ ε) : List κ :=
  match manager.table with
  | some table => table.keys
  | none => []

/-- Takes every resource out and closes the manager for good. Nothing is taken
out of a manager that is closed already. -/
def shut (manager : Manager κ ω ρ ε) : Option (List ρ) × Manager κ ω ρ ε :=
  (manager.table.map Table.values, { manager with table := none })

/-- Polls a caller that joined call `number`. -/
def poll (manager : Manager κ ω ρ ε) (number : Nat) (ticket : UInt64) (waker : ω) :
    Following (Except (ManagerError ε) ρ) × Manager κ ω ρ ε :=
  let (following, flight) := manager.flight.poll number ticket waker
  (following, { manager with flight })

/-- Drops a caller that joined call `number`. -/
def leave (manager : Manager κ ω ρ ε) (number : Nat) (ticket : UInt64) : Manager κ ω ρ ε :=
  { manager with flight := manager.flight.leave number ticket }

variable [DecidableEq κ]

def contains (manager : Manager κ ω ρ ε) (key : κ) : Bool :=
  match manager.table with
  | some table => table.contains key
  | none => false

/-- The resource under `key`, if any. -/
def lookup (manager : Manager κ ω ρ ε) (key : κ) : Except (ManagerError ε) (Option ρ) :=
  match manager.table with
  | some table => .ok (table.find? key)
  | none => .error .closed

/-- Puts a resource under `key` and hands back, unclosed, the one it replaces. -/
def inject (manager : Manager κ ω ρ ε) (key : κ) (resource : ρ) :
    Except (ManagerError ε) (Option ρ × Manager κ ω ρ ε) :=
  match manager.table with
  | some table =>
      .ok (table.find? key, { manager with table := some (table.insert key resource) })
  | none => .error .closed

/-- Settles call `number` for `key` with `result`. -/
def finish (manager : Manager κ ω ρ ε) (key : κ) (number : Nat)
    (result : Except (ManagerError ε) ρ) : List ω × Manager κ ω ρ ε :=
  let (woken, flight) := manager.flight.finish key number result
  (woken, { manager with flight })

/-- Asks for the resource under `key`. The look-up runs inside the flight: a
caller that joins a creation under way does not look the key up itself. -/
def request (manager : Manager κ ω ρ ε) (key : κ) (waker : ω) :
    Request ω ρ ε × Manager κ ω ρ ε :=
  match manager.flight.enter key waker with
  | (.joins number ticket, flight) => (.joins number ticket, { manager with flight })
  | (.late verdict, flight) => (.late verdict, { manager with flight })
  | (.leads number, flight) =>
      let manager := { manager with flight }
      match manager.lookup key with
      | .error error =>
          let (woken, manager) := manager.finish key number (.error error)
          (.answered (.error error) woken, manager)
      | .ok (some resource) =>
          let (woken, manager) := manager.finish key number (.ok resource)
          (.answered (.ok resource) woken, manager)
      | .ok none => (.creates number, manager)

/-- What a creation comes to once its resource is to be installed. If the manager
was closed meanwhile the resource is neither installed nor closed. -/
def install (manager : Manager κ ω ρ ε) (key : κ) (created : Except ε ρ) :
    Except (ManagerError ε) ρ × Manager κ ω ρ ε :=
  match created with
  | .error cause => (.error (.create cause), manager)
  | .ok resource =>
      match manager.inject key resource with
      | .error error => (.error error, manager)
      | .ok (_, manager) => (.ok resource, manager)

/-- The creator went away before its creation was finished. -/
def abandon (manager : Manager κ ω ρ ε) (key : κ) (number : Nat) :
    List ω × Manager κ ω ρ ε :=
  let (woken, flight) := manager.flight.abandon key number
  (woken, { manager with flight })

end Manager

end Cohort
