import Cohort.CommandLine.Grammar
import Cohort.CommandLine.Help
import Cohort.Scenario.Suite

/-!
# The command

What the program prints for a command line, and its exit code.
-/

set_option autoImplicit false

namespace Cohort

/-- A line of output, with the time that a run took behind it if it reports one. -/
structure Line where
  text : String
  elapsed : Option Duration := none

def Line.render (line : Line) : String :=
  match line.elapsed with
  | none => line.text
  | some elapsed => line.text ++ " in " ++ elapsed.text

structure Output where
  code : Nat
  out : List Line := []
  err : List String := []

namespace Command

/-- An error that stopped the program, under what it was doing. -/
def failed (context detail : String) : Output :=
  { code := 1, err := ["Error: " ++ context, "", "Caused by:", "    " ++ detail] }

def scenarioTitle : Scenario → String
  | .flight => "Flight"
  | .cache => "Cache"
  | .limit => "Limit"
  | .all => "All"

/-- What is told before the scenarios run. -/
def preamble (arguments : Arguments) (threads : Nat) : List String :=
  [ "Starting syncx v" ++ Help.versionNumber,
    "Scenario: " ++ scenarioTitle arguments.scenario,
    "Callers per key: " ++ toString arguments.callers,
    "Keys: " ++ toString arguments.keys,
    "Limit capacity: " ++ toString arguments.capacity,
    "Work: " ++ toString arguments.workMs ++ " ms",
    "Rounds: " ++ toString arguments.rounds,
    "Worker threads: " ++ toString threads ]

def haltMessage : Halt → String
  | .fault fault => fault.message
  | .error error => error.message
  | .stuck => "a caller never returned"

/-- The load of a run. Time goes by while callers are polled, so that even work of no
time is not over at once. -/
def load (arguments : Arguments) : Config :=
  { arguments.config with work := max 1 arguments.workMs }

/-- The order of a run of `callers` callers: the last one to arrive need not be woken to
go on, and of those who wake up together the last one goes first. -/
def lastFirst (callers : Nat) : Timetable := fun _ step =>
  if step % callers = 0 then callers - 1 else 0

/-- The order in which the callers of each scenario are polled. -/
def timetables (config : Config) : Scenario → Timetable
  | .limit => lastFirst config.callers
  | _ => lastFirst (config.callers * config.keys)

/-- Progress is counted against a total only where it is shown. -/
def progress (arguments : Arguments) : Except Fault Progress :=
  if arguments.progress && !arguments.quiet then
    arguments.totalRounds.map (fun total => .ofTotal total.toUInt64)
  else .ok .hidden

/-- A line for the log, and what is needed to tell whether and how it is shown. -/
structure Entry where
  level : Level
  byCaller : Bool
  line : Line

/-- What a remark says in the log. -/
def entry (remark : Remark) : Entry :=
  let elapsed :=
    match remark with
    | .reported report => some report.elapsed
    | _ => none
  { level := remark.level, byCaller := remark.byCaller, line := { text := remark.text, elapsed } }

/-- The thread that the program starts on waits for the callers, which run on the next. -/
def thread (entry : Entry) : String :=
  if entry.byCaller then "ThreadId(02)" else "ThreadId(01)"

/-- The lines of a log that are shown. The closest look also shows the threads. -/
def logLines (verbose : Nat) (entries : List Entry) : List Line :=
  (entries.filter (fun entry => decide (entry.level.verbosity ≤ verbose))).map fun entry =>
    let lead := if verbose ≤ 2 then entry.level.name else entry.level.name ++ " " ++ thread entry
    { entry.line with text := lead ++ " " ++ entry.line.text }

/-- Runs the scenarios that the arguments ask for. The log, if there is one, stands
before the reports. -/
def play (arguments : Arguments) (processors : Nat) : Output :=
  let threads := if arguments.workerThreads = 0 then processors else arguments.workerThreads
  let opening : List Entry :=
    (preamble arguments threads).map fun text =>
      { level := .info, byCaller := false, line := { text } }
  let log (course : Course) : List Line :=
    logLines arguments.verbose (opening ++ course.log.reverse.map entry)
  match progress arguments with
  | .error fault => { code := 101, out := log {}, err := [fault.message] }
  | .ok progress =>
      let course : Course := { progress := progress }
      let config := load arguments
      match runScenarios arguments.scenario config (timetables config) course with
      | (.error (.fault fault), course) =>
          { code := 101, out := log course, err := [fault.message] }
      | (.error halt, course) =>
          { failed "Stress run failed" (haltMessage halt) with out := log course }
      | (.ok reports, course) =>
          let lines : List Line :=
            reports.map (fun report => { text := report.summary, elapsed := some report.elapsed })
          { code := 0, out := if arguments.quiet then [] else log course ++ lines }

/-- Runs a command line. -/
def run (line : List String) (processors : Nat) : Output :=
  let page (lines : List String) : Output := { code := 0, out := lines.map (fun text => { text := text }) }
  match Arguments.read line with
  | .error (.help true) => page Help.fullLines
  | .error (.help false) => page Help.shortLines
  | .error .version => page Help.versionLines
  | .error error => { code := 2, err := [error.headline .stream] }
  | .ok arguments =>
      match arguments.validate with
      | .error unreasonable => failed "Invalid arguments" unreasonable.message
      | .ok () => play arguments processors

end Command

end Cohort
