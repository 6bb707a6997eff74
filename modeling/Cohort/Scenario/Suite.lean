import Cohort.Scenario.CacheLoad
import Cohort.Scenario.FlightLoad
import Cohort.Scenario.LimitLoad

/-!
# Suites

Runs the scenarios of a selection one after the other.
-/

set_option autoImplicit false

namespace Cohort

/-- Runs one scenario; a selection of several is none. -/
def Scenario.run? (config : Config) (timetable : Timetable) (course : Course) :
    Scenario → Option (Except Halt Report × Course)
  | .flight => some (runFlight config timetable course)
  | .cache => some (runCache config timetable course)
  | .limit => some (runLimit config timetable course)
  | .all => none

/-- Runs scenarios in order up to the first that halts. `timetables` gives the
schedules of each. -/
def runEach (config : Config) (timetables : Scenario → Timetable) :
    List Scenario → Course → Except Halt (List Report) × Course
  | [], course => (.ok [], course)
  | scenario :: rest, course =>
      let course := { course with progress := course.progress.setScenario scenario.name }
      match scenario.run? config (timetables scenario) course with
      | none => runEach config timetables rest course
      | some (.error halt, course) => (.error halt, course)
      | some (.ok report, course) =>
          let (reports, course) := runEach config timetables rest (course.note (.reported report))
          (reports.map (report :: ·), course)

/-- Checks the load, then runs the scenarios of the selection. -/
def runScenarios (selection : Scenario) (config : Config) (timetables : Scenario → Timetable)
    (course : Course) : Except Halt (List Report) × Course :=
  match config.validate with
  | .error error => (.error (.error error), course)
  | .ok () => runEach config timetables selection.expand course

/-- Callers are polled in the order in which they became ready. -/
def inOrder : Timetable := fun _ _ => 0

end Cohort
