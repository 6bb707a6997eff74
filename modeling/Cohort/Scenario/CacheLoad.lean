import Cohort.Connection
import Cohort.Scenario.Round

/-!
# The cache scenario

Callers ask for connections at the same instant. Each address is dialed once, all
its callers get the same connection or the same refusal, and in the end every
connection is closed.
-/

set_option autoImplicit false

namespace Cohort

/-- Where a caller of the cache scenario stands. -/
inductive CacheCaller where
  | idle
  | dialing (call attempt : Nat)
  | following (call : Nat) (ticket : UInt64)
  | done (result : Except (ManagerError DialError) Nat)

structure CacheLoad where
  board : Switchboard Nat := {}
  /-- Dials started; each has its position as its number. -/
  attempts : Nat := 0
  /-- Dials that made a connection. -/
  connected : Nat := 0
  callers : Array CacheCaller := #[]
  /-- What the callers of a round remarked, the latest first. -/
  log : List Remark := []

namespace CacheLoad

def setCaller (load : CacheLoad) (caller : Nat) (phase : CacheCaller) : CacheLoad :=
  { load with callers := load.callers.setIfInBounds caller phase }

def note (load : CacheLoad) (notice : Notice) : CacheLoad :=
  { load with log := .notice notice :: load.log }

/-- What the end of a dial is worth remarking, the latest first. -/
def remarks (address : String) (attempt : Nat) (dialed : Except DialError Nat)
    (result : Except (ManagerError DialError) Nat) : List Remark :=
  match dialed, result with
  | .error _, _ => []
  | .ok _, .error _ => [.dialed attempt address]
  | .ok _, .ok _ => [.notice (.createdResource address), .dialed attempt address]

/-- Ends the dial of a caller. -/
def complete (plan : DialPlan) (address : String) (caller call attempt : Nat)
    (load : CacheLoad) : Turn × List Nat × CacheLoad :=
  let (dialed, board) := load.board.dial address attempt plan
  let connected :=
    match dialed with
    | .ok _ => load.connected + 1
    | .error _ => load.connected
  let (result, woken, board) := board.connect address call dialed
  let log := remarks address attempt dialed result ++ load.log
  (.done, woken, { load with board, connected, log }.setCaller caller (.done result))

/-- Asks for the connection, for the first time or anew. A dial that takes no time
does not wait. -/
def request (latency : Nat) (plan : DialPlan) (address : String) (caller : Nat)
    (load : CacheLoad) : Turn × List Nat × CacheLoad :=
  let (request, manager) := load.board.manager.request address caller
  let load := { load with board := { load.board with manager } }
  match request with
  | .answered result woken =>
      (.done, woken, (load.note .startingCall).setCaller caller (.done result))
  | .joins call ticket =>
      (.parked, [], (load.note .joiningCall).setCaller caller (.following call ticket))
  | .late (.done result) =>
      (.done, [], (load.note .joiningCall).setCaller caller (.done result))
  | .late .abandoned => (.parked, [], load)
  | .creates call =>
      let attempt := load.attempts + 1
      let load := { load with attempts := attempt }.note .startingCall
      if latency = 0 then load.complete plan address caller call attempt
      else (.asleep latency, [], load.setCaller caller (.dialing call attempt))

def behavior (latency : Nat) (plan : DialPlan) (address : Nat → String) : Behavior CacheLoad :=
  fun caller load =>
    match load.callers.getD caller .idle with
    | .idle => load.request latency plan (address caller) caller
    | .dialing call attempt => load.complete plan (address caller) caller call attempt
    | .following call ticket =>
        let (following, manager) := load.board.manager.poll call ticket caller
        let load := { load with board := { load.board with manager } }
        match following with
        | .parked ticket => (.parked, [], load.setCaller caller (.following call ticket))
        | .settled (.done result) => (.done, [], load.setCaller caller (.done result))
        | .settled .abandoned =>
            (load.note .startingOver).request latency plan (address caller) caller
    | .done _ => (.done, [], load)

structure Tally where
  report : Report
  /-- The connection that each address was first seen with. -/
  first : Table String Nat := {}
  /-- What was remarked on the callers of a round, the latest first. -/
  log : List Remark := []

/-- A refused dial has to reach every caller as the refusal of its own address. -/
def checkRefusal (address : String) (error : ManagerError DialError) :
    Except Halt DialError :=
  match error.cause? with
  | some cause =>
      if cause.address = address then .ok cause else unexpected
  | none => unexpected
where
  unexpected : Except Halt DialError :=
    violated .cache
      (address ++ " failed with an unexpected error: " ++ error.message DialError.message)

/-- Counts what one caller came back with. -/
def Tally.count (tally : Tally) (plan : DialPlan) (board : Switchboard Nat) (address : String) :
    CacheCaller → Except Halt Tally
  | .done (.ok position) =>
      if plan.refuse then
        violated .cache (address ++ " connected although every dial is refused")
      else
        let first := (tally.first.find? address).getD position
        if first ≠ position then
          violated .cache
            (address ++ " handed out connections " ++ toString (board.connection first).number
              ++ " and " ++ toString (board.connection position).number)
        else
          .ok
            { tally with
              report := { tally.report with calls := tally.report.calls + 1 }
              first := tally.first.insert address first }
  | .done (.error error) =>
      if plan.refuse then do
        let refusal ← checkRefusal address error
        let report :=
          { tally.report with
            calls := tally.report.calls + 1
            dialFailures := tally.report.dialFailures + 1 }
        return { tally with report, log := .refused refusal :: tally.log }
      else
        violated .cache
          (address ++ " failed unexpectedly: " ++ error.message DialError.message)
  | _ => .error .stuck

def round (config : Config) (timetable : Timetable) (index : Nat)
    (played : CacheLoad × Tally) (now : Nat) :
    Except Halt ((CacheLoad × Tally) × Nat × List Remark) := do
  let plan : DialPlan :=
    { refuse := config.flakyDials && index == 0, failCloseEvery := config.failCloseEvery }
  let callers ← rollCallPerKey config
  let address := fun caller => "10.0.0." ++ toString (caller % config.keys) ++ ":5432"
  let load := { played.1 with callers := Array.replicate callers.length .idle, log := [] }
  let rota :=
    Rota.play (behavior config.work plan address) (timetable index) now callers load
  let tally ← callers.foldlM
    (fun (tally : Tally) caller =>
      tally.count plan rota.state.board (address caller) (rota.state.callers.getD caller .idle))
    { played.2 with log := [] }
  if plan.refuse && !rota.state.board.manager.isEmpty then
    violated .cache "a refused dial left an entry behind"
  let log := .roundDone .cache index rota.state.board.manager.size :: tally.log ++ rota.state.log
  return ((rota.state, tally), rota.now, log)

/-- Tears the connections down and checks that none is left out. Gives the number of
connections that failed to close. -/
def teardown (config : Config) (load : CacheLoad) (tally : Tally) : Except Halt Nat :=
  let positions := tally.first.values
  if load.connected ≠ positions.length then
    violated .cache
      (toString load.connected ++ " connections dialed for " ++ toString positions.length
        ++ " keys")
  else
    let plan : DialPlan := { failCloseEvery := config.failCloseEvery }
    let expected :=
      (positions.filter
        (fun position => plan.failsToClose (load.board.connection position).number)).length
    let (failures, board) := load.board.shut
    if failures.length ≠ expected then
      violated .cache
        ("expected " ++ toString expected ++ " close failures, got " ++ toString failures.length)
    else
      match (positions.map board.connection).find? Connection.isOpen with
      | some connection =>
          violated .cache
            ("connection " ++ toString connection.number ++ " to " ++ connection.address
              ++ " was not closed")
      | none => .ok failures.length

end CacheLoad

/-- Runs the cache scenario. -/
def runCache (config : Config) (timetable : Timetable) (course : Course) :
    Except Halt Report × Course :=
  let start := ({}, { report := { scenario := Scenario.cache.name } })
  let (played, finished) :=
    playRounds (CacheLoad.round config timetable) config.rounds 0 start course
  let result := do
    let (load, tally) ← played
    let closeFailures ← load.teardown config tally
    let report :=
      { tally.report with
        executions := load.attempts
        shared := tally.report.calls - load.attempts
        closeFailures
        elapsed := .ofMilliseconds (finished.now - course.now) }
    return (load.board.manager.size, report)
  match result with
  | .error halt => (.error halt, finished)
  | .ok (closed, report) =>
      (.ok report, finished.note (.notice (.managerClosed closed report.closeFailures)))

end Cohort
