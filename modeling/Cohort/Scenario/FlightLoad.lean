import Cohort.Flight
import Cohort.Scenario.Round

/-!
# The flight scenario

Callers make keyed calls at the same instant. Every result has to come from an
execution that one caller of the key ran, and no execution from two.
-/

set_option autoImplicit false

namespace Cohort

/-- Where a caller of the flight scenario stands. -/
inductive FlightCaller where
  | idle
  | working (call execution : Nat)
  | following (call : Nat) (ticket : UInt64)
  | done (result : Except String Nat) (fresh : Bool)

structure FlightLoad where
  flight : Flight String Nat (Except String Nat) := {}
  /-- Executions started; each has its position as its number. -/
  executions : Nat := 0
  callers : Array FlightCaller := #[]
  /-- What the callers of a round remarked, the latest first. -/
  log : List Remark := []

namespace FlightLoad

def setCaller (load : FlightLoad) (caller : Nat) (phase : FlightCaller) : FlightLoad :=
  { load with callers := load.callers.setIfInBounds caller phase }

def note (load : FlightLoad) (notice : Notice) : FlightLoad :=
  { load with log := .notice notice :: load.log }

/-- Ends the execution of a leader. -/
def complete (key : String) (caller call execution : Nat) (load : FlightLoad) :
    Turn × List Nat × FlightLoad :=
  let (woken, flight) := load.flight.finish key call (.ok execution)
  (.done, woken, { load with flight }.setCaller caller (.done (.ok execution) true))

/-- Makes the call, for the first time or anew. Work that takes no time does not wait. -/
def call (work : Nat) (key : String) (caller : Nat) (load : FlightLoad) :
    Turn × List Nat × FlightLoad :=
  match load.flight.enter key caller with
  | (.joins call ticket, flight) =>
      let load := { load with flight }.note .joiningCall
      (.parked, [], load.setCaller caller (.following call ticket))
  | (.late (.done result), flight) =>
      let load := { load with flight }.note .joiningCall
      (.done, [], load.setCaller caller (.done result false))
  | (.late .abandoned, flight) => (.parked, [], { load with flight })
  | (.leads call, flight) =>
      let execution := load.executions + 1
      let load := { load with flight, executions := execution }.note .startingCall
      if work = 0 then load.complete key caller call execution
      else (.asleep work, [], load.setCaller caller (.working call execution))

def behavior (work : Nat) (key : Nat → String) : Behavior FlightLoad := fun caller load =>
  match load.callers.getD caller .idle with
  | .idle => load.call work (key caller) caller
  | .working call execution => load.complete (key caller) caller call execution
  | .following number ticket =>
      match load.flight.poll number ticket caller with
      | (.parked ticket, flight) =>
          (.parked, [], { load with flight }.setCaller caller (.following number ticket))
      | (.settled (.done result), flight) =>
          (.done, [], { load with flight }.setCaller caller (.done result false))
      | (.settled .abandoned, flight) =>
          ({ load with flight }.note .startingOver).call work (key caller) caller
  | .done _ _ => (.done, [], load)

/-- The executions of a round by key: those reported fresh, and all. -/
structure Tally where
  report : Report
  fresh : List (String × Nat) := []
  seen : List (String × Nat) := []

/-- Counts what one caller came back with. -/
def Tally.count (tally : Tally) (key : String) : FlightCaller → Except Halt Tally
  | .done (.error error) _ => violated .flight error
  | .done (.ok execution) true =>
      if (key, execution) ∈ tally.fresh then
        violated .flight
          ("execution " ++ toString execution ++ " for " ++ key ++ " reported fresh twice")
      else
        .ok
          { report :=
              { tally.report with
                calls := tally.report.calls + 1
                executions := tally.report.executions + 1 }
            fresh := tally.fresh ++ [(key, execution)]
            seen := tally.seen ++ [(key, execution)] }
  | .done (.ok execution) false =>
      .ok
        { tally with
          report :=
            { tally.report with
              calls := tally.report.calls + 1
              shared := tally.report.shared + 1 }
          seen := tally.seen ++ [(key, execution)] }
  | _ => .error .stuck

/-- Checks that every execution seen was run by a caller of its key. -/
def Tally.check (tally : Tally) : Except Halt Report :=
  match tally.seen.find? (fun seen => decide (seen ∉ tally.fresh)) with
  | some (key, execution) =>
      violated .flight
        (key ++ " returned execution " ++ toString execution ++ " that no caller ran")
  | none => .ok tally.report

def round (config : Config) (timetable : Timetable) (index : Nat)
    (played : FlightLoad × Report) (now : Nat) :
    Except Halt ((FlightLoad × Report) × Nat × List Remark) := do
  let callers ← rollCallPerKey config
  let key := fun caller => "key-" ++ toString (caller % config.keys)
  let load := { played.1 with callers := Array.replicate callers.length .idle, log := [] }
  let rota := Rota.play (behavior config.work key) (timetable index) now callers load
  let tally ← callers.foldlM
    (fun (tally : Tally) caller => tally.count (key caller) (rota.state.callers.getD caller .idle))
    { report := played.2 }
  let report ← tally.check
  let log := .roundDone .flight index report.executions :: rota.state.log
  return ((rota.state, report), rota.now, log)

/-- Checks that nothing is left over once all rounds are played. -/
def check (load : FlightLoad) (report : Report) : Except Halt Unit :=
  if load.executions ≠ report.executions then
    violated .flight
      (toString load.executions ++ " executions ran but " ++ toString report.executions
        ++ " callers saw a fresh result")
  else if load.flight.inFlight ≠ 0 then
    violated .flight "calls left in flight after all callers returned"
  else .ok ()

end FlightLoad

/-- Runs the flight scenario. -/
def runFlight (config : Config) (timetable : Timetable) (course : Course) :
    Except Halt Report × Course :=
  let start := ({}, { scenario := Scenario.flight.name })
  let (played, finished) :=
    playRounds (FlightLoad.round config timetable) config.rounds 0 start course
  let result := do
    let (load, report) ← played
    load.check report
    return { report with elapsed := .ofMilliseconds (finished.now - course.now) }
  (result, finished)

end Cohort
