import Cohort.Gate
import Cohort.Session.Event

/-!
# The bench

The objects of a session and what has happened to them. A script refers to an
object by its number once it has found it by name, so it keeps the object when
the name is given to another one.
-/

set_option autoImplicit false

namespace Cohort

/-- Objects by number, in the order in which they were made, and what each name means. -/
structure Shelf (α : Type) where
  items : Array α := #[]
  names : Table String Nat := {}

namespace Shelf

variable {α : Type}

def number? (shelf : Shelf α) (name : String) : Option Nat :=
  shelf.names.find? name

def get [Inhabited α] (shelf : Shelf α) (number : Nat) : α :=
  shelf.items.getD number default

def set (shelf : Shelf α) (number : Nat) (item : α) : Shelf α :=
  { shelf with items := shelf.items.setIfInBounds number item }

/-- Adds an object and gives it the name, which no longer means any other. -/
def put (shelf : Shelf α) (name : String) (item : α) : Nat × Shelf α :=
  let number := shelf.items.size
  (number, { items := shelf.items.push item, names := shelf.names.insert name number })

/-- Gives an object one more name. -/
def rename (shelf : Shelf α) (name : String) (number : Nat) : Shelf α :=
  { shelf with names := shelf.names.insert name number }

/-- The object of a name, made on first mention. -/
def obtain [Inhabited α] (shelf : Shelf α) (name : String) : Nat × Shelf α :=
  match shelf.number? name with
  | some number => (number, shelf)
  | none => shelf.put name default

/-- The named objects. -/
def named [Inhabited α] (shelf : Shelf α) : List (String × α) :=
  shelf.names.entries.map (fun entry => (entry.1, shelf.get entry.2))

end Shelf

instance : Inhabited (Limit Waker) := ⟨{ capacity := 0, available := 0 }⟩

/-- A resource of the session, which counts how often it was closed. -/
structure Resource where
  behavior : CloseBehavior
  closes : Nat := 0
deriving DecidableEq

instance : Inhabited Resource := ⟨{ behavior := .succeeds }⟩

/-- A token held under a name. -/
structure Guard where
  name : String
  limit : Nat
deriving DecidableEq

/-- The flight or manager at which a keyed call was made. -/
inductive Home where
  | flight (number : Nat) (marked : Bool)
  | manager (number : Nat)
deriving DecidableEq

structure Bench where
  limits : Shelf (Limit Waker) := {}
  flights : Shelf (Flight String Waker Outcome) := {}
  managers : Shelf (Manager String Waker Nat String) := {}
  gates : Shelf (Gate Waker) := {}
  /-- Resource `n` stands at position `n - 1`. -/
  resources : Array Resource := #[]
  /-- The tasks to be polled, each at most once, the next one first. -/
  ready : List String := []
  /-- What happened, the latest first. -/
  events : List Event := []

namespace Bench

def emit (bench : Bench) (event : Event) : Bench :=
  { bench with events := event :: bench.events }

def note (bench : Bench) (notice : Notice) : Bench :=
  bench.emit (.noticed notice)

/-- Queues a task unless it is queued already. -/
def enqueue (bench : Bench) (task : String) : Bench :=
  if task ∈ bench.ready then bench else { bench with ready := bench.ready ++ [task] }

def wake (bench : Bench) (waker : Waker) : Bench :=
  (bench.emit (.woken waker.label)).enqueue waker.task

def wakeAll (bench : Bench) (wakers : List Waker) : Bench :=
  wakers.foldl wake bench

/-! ## Limits -/

def setLimit (bench : Bench) (number : Nat) (limit : Limit Waker) : Bench :=
  { bench with limits := bench.limits.set number limit }

def tryBorrow (bench : Bench) (limit : Nat) : Bool × Bench :=
  match (bench.limits.get limit).take? with
  | none => (false, bench)
  | some changed => (true, bench.setLimit limit changed)

def giveBack (bench : Bench) (limit : Nat) : Except ReturnError Unit × Bench :=
  match (bench.limits.get limit).putBack with
  | .error error => (.error error, bench)
  | .ok (woken, changed) => (.ok (), (bench.setLimit limit changed).wakeAll woken.toList)

def pollBorrow (bench : Bench) (limit : Nat) (ticket : Option UInt64) (waker : Waker) :
    Claim × Bench :=
  let (claim, changed) := (bench.limits.get limit).poll ticket waker
  (claim, bench.setLimit limit changed)

def cancelBorrow (bench : Bench) (limit : Nat) (ticket : UInt64) : Bench :=
  let (woken, changed) := (bench.limits.get limit).cancel ticket
  (bench.setLimit limit changed).wakeAll woken.toList

/-- Gives a guard's token back. That the pool is full already goes unnoticed. -/
def release (bench : Bench) (guard : Guard) : Bench :=
  (bench.giveBack guard.limit).2

/-- Releases guards, the one taken last first. -/
def releaseAll (bench : Bench) (guards : List Guard) : Bench :=
  guards.foldr (fun guard bench => bench.release guard) bench

/-! ## Gates -/

def pollGate (bench : Bench) (gate : Nat) (place : Option Nat) (waker : Waker) :
    Passage × Bench :=
  let (passage, changed) := (bench.gates.get gate).poll place waker
  (passage, { bench with gates := bench.gates.set gate changed })

def unlock (bench : Bench) (gate : Nat) : Bench :=
  let (woken, changed) := (bench.gates.get gate).unlock
  { bench with gates := bench.gates.set gate changed }.wakeAll woken

/-! ## Resources -/

def addResource (bench : Bench) (behavior : CloseBehavior) : Nat × Bench :=
  (bench.resources.size + 1, { bench with resources := bench.resources.push { behavior := behavior } })

/-- Resource `number`; numbers start at one. -/
def resource? (bench : Bench) (number : Nat) : Option Resource :=
  match number with
  | 0 => none
  | position + 1 => bench.resources[position]?

def closeResource (number : Nat) (bench : Bench) : Closing String × Bench :=
  match bench.resource? number with
  | none => (.closed, bench)
  | some resource =>
      let closes := resource.closes + 1
      let bench :=
        { bench with
          resources := bench.resources.setIfInBounds (number - 1) { resource with closes } }
      match resource.behavior with
      | .succeeds => (.closed, bench)
      | .fails message => (.failed message, bench)
      | .faults message => (.faulted (.raised message), bench)
      | .once =>
          if closes = 1 then (.closed, bench)
          else (.failed ("resource " ++ toString number ++ " closed again"), bench)

/-! ## Managers -/

def setManager (bench : Bench) (number : Nat) (manager : Manager String Waker Nat String) :
    Bench :=
  { bench with managers := bench.managers.set number manager }

def inject (bench : Bench) (manager : Nat) (key : String) (resource : Nat) :
    Except (ManagerError String) (Option Nat) × Bench :=
  match (bench.managers.get manager).inject key resource with
  | .error error => (.error error, bench)
  | .ok (replaced, changed) =>
      (.ok replaced, (bench.note (.injectingResource key)).setManager manager changed)

/-- Closes a manager and all it holds. A manager that is closed already is left alone. -/
def closeManager (bench : Bench) (manager : Nat) : CloseReport × Bench :=
  let (held, changed) := (bench.managers.get manager).shut
  match held with
  | none => (⟨[], .ok []⟩, bench)
  | some resources =>
      let (teardown, bench) := Teardown.run closeResource resources (bench.setManager manager changed)
      let closed := teardown.visited.mergeSort (fun one other => decide (one ≤ other))
      match teardown.result with
      | .error fault => (⟨closed, .error fault⟩, bench)
      | .ok failures =>
          (⟨closed, .ok (failures.mergeSort (fun one other => decide (one ≤ other)))⟩,
            bench.note (.managerClosed resources.length failures.length))

/-! ## Keyed calls -/

def setFlight (bench : Bench) (number : Nat) (flight : Flight String Waker Outcome) : Bench :=
  { bench with flights := bench.flights.set number flight }

/-- The flight or manager of a site, made on first mention. -/
def homeOf (bench : Bench) : Site → Home × Bench
  | .flight name marked =>
      let (number, flights) := bench.flights.obtain name
      (.flight number marked, { bench with flights })
  | .manager name =>
      let (number, managers) := bench.managers.obtain name
      (.manager number, { bench with managers })

/-- What a caller finds when it makes a keyed call. -/
inductive Entrance where
  /-- The caller leads call `call` and runs its work. -/
  | leads (call : Nat)
  | joins (call : Nat) (ticket : UInt64)
  | settled (settlement : Settlement) (led : Bool)
  /-- The call in flight was abandoned: starting over would find it again. -/
  | endless

def enter (bench : Bench) (home : Home) (key : String) (waker : Waker) : Entrance × Bench :=
  match home with
  | .flight number _ =>
      let (entry, changed) := (bench.flights.get number).enter key waker
      let bench := bench.setFlight number changed
      match entry with
      | .leads call => (.leads call, bench.note .startingCall)
      | .joins call ticket => (.joins call ticket, bench.note .joiningCall)
      | .late (.done outcome) => (.settled (.outcome outcome) false, bench.note .joiningCall)
      | .late .abandoned => (.endless, bench)
  | .manager number =>
      let (request, changed) := (bench.managers.get number).request key waker
      let bench := bench.setManager number changed
      match request with
      | .answered result woken =>
          (.settled (.resource result) true, (bench.note .startingCall).wakeAll woken)
      | .creates call => (.leads call, bench.note .startingCall)
      | .joins call ticket => (.joins call ticket, bench.note .joiningCall)
      | .late (.done result) => (.settled (.resource result) false, bench.note .joiningCall)
      | .late .abandoned => (.endless, bench)

/-- Polls a caller that joined call `call`. -/
def follow (bench : Bench) (home : Home) (call : Nat) (ticket : UInt64) (waker : Waker) :
    Following Settlement × Bench :=
  match home with
  | .flight number _ =>
      let (following, changed) := (bench.flights.get number).poll call ticket waker
      let bench := bench.setFlight number changed
      match following with
      | .parked ticket => (.parked ticket, bench)
      | .settled .abandoned => (.settled .abandoned, bench)
      | .settled (.done outcome) => (.settled (.done (.outcome outcome)), bench)
  | .manager number =>
      let (following, changed) := (bench.managers.get number).poll call ticket waker
      let bench := bench.setManager number changed
      match following with
      | .parked ticket => (.parked ticket, bench)
      | .settled .abandoned => (.settled .abandoned, bench)
      | .settled (.done result) => (.settled (.done (.resource result)), bench)

/-- Drops a caller that joined call `call`. -/
def unfollow (bench : Bench) (home : Home) (call : Nat) (ticket : UInt64) : Bench :=
  match home with
  | .flight number _ =>
      bench.setFlight number ((bench.flights.get number).leave call ticket)
  | .manager number =>
      bench.setManager number ((bench.managers.get number).leave call ticket)

/-- Finishes call `call` with the outcome of its work. At a manager the work was a
creation, whose value says how the new resource closes. -/
def finish (bench : Bench) (home : Home) (key : String) (call : Nat) (outcome : Outcome) :
    Settlement × Bench :=
  match home with
  | .flight number _ =>
      let (woken, changed) := (bench.flights.get number).finish key call outcome
      (.outcome outcome, (bench.setFlight number changed).wakeAll woken)
  | .manager number =>
      let (created, bench) : Except String Nat × Bench :=
        match outcome with
        | .err cause => (.error cause.plain, bench)
        | .ok behavior =>
            let (resource, bench) := bench.addResource (.ofData behavior)
            (.ok resource, bench)
      let (result, changed) := (bench.managers.get number).install key created
      let bench :=
        match result with
        | .ok _ => bench.note (.createdResource key)
        | .error _ => bench
      let (woken, changed) := changed.finish key call result
      (.resource result, (bench.setManager number changed).wakeAll woken)

/-- The leader of call `call` went away without a result. -/
def abandon (bench : Bench) (home : Home) (key : String) (call : Nat) : Bench :=
  let bench := bench.note .abandoningCall
  match home with
  | .flight number _ =>
      let (woken, changed) := (bench.flights.get number).abandon key call
      (bench.setFlight number changed).wakeAll woken
  | .manager number =>
      let (woken, changed) := (bench.managers.get number).abandon key call
      (bench.setManager number changed).wakeAll woken

end Bench

end Cohort
