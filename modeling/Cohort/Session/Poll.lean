import Cohort.Session.Action
import Cohort.Session.Frame

/-!
# Polling scripts

Polling runs a script up to its next wait. A script that starts is run by
recursion on its steps, one that was suspended by recursion on its frame; steps
that a frame has kept are run as those of a script that starts. Polling is
therefore total, and needs no bound on how long scripts run.
-/

set_option autoImplicit false

namespace Cohort

/-- What polling a script comes to. -/
inductive Poll where
  | pending (frame : Frame)
  | ready (outcome : Outcome)
  | faulted (fault : Fault)

/-- What running one step of a script, or polling the wait that it began, comes to. -/
inductive Stage where
  | waiting (wait : Wait)
  /-- The next step follows; the script now holds `guards`. -/
  | passed (guards : List Guard)
  | finished (outcome : Outcome)
  | faulted (fault : Fault)

/-- What polling branches in order comes to. -/
inductive Gathering where
  /-- Every branch was polled; each is suspended or has ended. -/
  | standing (branches : List Branch)
  /-- A branch cut the polling short by its outcome or its fault. -/
  | stopped (before : List Branch) (cause : Except Fault Outcome) (after : List Branch)

def Gathering.add (branch : Branch) : Gathering → Gathering
  | .standing branches => .standing (branch :: branches)
  | .stopped before cause after => .stopped (branch :: before) cause after

namespace Bench

/-- Ends a script: its guards are released after its end was reported. -/
def conclude (bench : Bench) (label : String) (guards : List Guard) (outcome : Outcome) :
    Poll × Bench :=
  (.ready outcome, (bench.emit (.ended label outcome)).releaseAll guards)

/-- Carries a fault out of a script. -/
def unwind (bench : Bench) (label : String) (guards : List Guard) (fault : Fault) :
    Poll × Bench :=
  (.faulted fault, bench.cancel label guards)

/-- A borrow was polled. -/
def afterBorrow (label : String) (guards : List Guard) (limit : Nat) (guard : Option String) :
    Claim × Bench → Stage × Bench
  | (.parked ticket, bench) => (.waiting (.borrow limit ticket guard), bench)
  | (.taken, bench) =>
      match guard with
      | none => (.passed guards, bench.emit (.borrowed label false))
      | some name => (.passed (guards ++ [⟨name, limit⟩]), bench.emit (.borrowed label true))

/-- A gate was polled. -/
def afterGate (guards : List Guard) (gate : Nat) : Passage × Bench → Stage × Bench
  | (.parked place, bench) => (.waiting (.gate gate place), bench)
  | (.passed, bench) => (.passed guards, bench)

/-- The work of a call that the script leads was polled. A fault leaves the work
before the call is abandoned. -/
def afterWork (label : String) (guards : List Guard) (home : Home) (key : String) (call : Nat) :
    Poll × Bench → Stage × Bench
  | (.pending frame, bench) => (.waiting (.lead home key call frame), bench)
  | (.ready outcome, bench) =>
      let (settlement, bench) := bench.finish home key call outcome
      (.passed guards, bench.emit (home.called label settlement true))
  | (.faulted fault, bench) => (.faulted fault, bench.abandon home key call)

/-- Makes a keyed call, for the first time or anew. `run` runs its work. -/
def makeCall (bench : Bench) (waker : Waker) (label : String) (guards : List Guard)
    (home : Home) (key : String) (work : List Step) (run : Bench → Poll × Bench) :
    Stage × Bench :=
  match bench.enter home key waker with
  | (.joins call ticket, bench) => (.waiting (.follow home key call ticket work), bench)
  | (.settled settlement led, bench) =>
      (.passed guards, bench.emit (home.called label settlement led))
  | (.endless, bench) => (.faulted .endlessRestart, bench)
  | (.leads call, bench) => afterWork label guards home key call (run bench)

/-- Branches were polled. A race is over with the first outcome: the branches left
are dropped before it is reported. -/
def afterBranches (label : String) (guards : List Guard) (ending : Ending) (count : Nat) :
    Gathering × Bench → Stage × Bench
  | (.standing branches, bench) =>
      if branches.all (fun branch => branch.outcome?.isSome) then
        (.passed guards, bench.emit (.gathered label ending (branches.map Branch.outcome?)))
      else (.waiting (.together ending branches), bench)
  | (.stopped before (.ok outcome) after, bench) =>
      let outcomes := (List.replicate count none).set before.length (some outcome)
      (.passed guards,
        (dropBranches (before ++ after) bench).emit (.gathered label ending outcomes))
  | (.stopped before (.error fault) after, bench) =>
      (.faulted fault, dropBranches (before ++ after) bench)

end Bench

/-- A branch was polled. `next` polls those behind it, unless this one ends it all. -/
def afterBranch (ending : Ending) (after : List Branch) (next : Bench → Gathering × Bench) :
    Poll × Bench → Gathering × Bench
  | (.faulted fault, bench) => (.stopped [] (.error fault) after, bench)
  | (.pending frame, bench) =>
      let (gathering, bench) := next bench
      (gathering.add (.running frame), bench)
  | (.ready outcome, bench) =>
      match ending with
      | .first => (.stopped [] (.ok outcome) after, bench)
      | .all =>
          let (gathering, bench) := next bench
          (gathering.add (.ended outcome), bench)

/-! ## Scripts that start -/

mutual

/-- Runs the steps of a script that holds `guards`. -/
def runSteps (waker : Waker) (label : String) (guards : List Guard) :
    List Step → Bench → Poll × Bench
  | [], bench => bench.conclude label guards (.ok .null)
  | step :: rest, bench =>
      match runStep waker label guards step bench with
      | (.waiting wait, bench) => (.pending (.mk label guards wait rest), bench)
      | (.passed guards, bench) => runSteps waker label guards rest bench
      | (.finished outcome, bench) => bench.conclude label guards outcome
      | (.faulted fault, bench) => bench.unwind label guards fault

def runStep (waker : Waker) (label : String) (guards : List Guard) :
    Step → Bench → Stage × Bench
  | .finish outcome, bench => (.finished outcome, bench)
  | .fault text, bench => (.faulted (.raised text), bench)
  | .pause 0, bench => (.passed guards, bench)
  | .pause (more + 1), bench => (.waiting (.pause more), bench.wake waker)
  | .pass name, bench =>
      let (gate, gates) := bench.gates.obtain name
      Bench.afterGate guards gate ({ bench with gates }.pollGate gate none waker)
  | .borrow name guard, bench =>
      match bench.limits.number? name with
      | none => (.faulted (.unknownLimit name), bench)
      | some limit =>
          Bench.afterBorrow label guards limit guard (bench.pollBorrow limit none waker)
  | .call site key work, bench =>
      let (home, bench) := bench.homeOf site
      let inner := home.workLabel label
      bench.makeCall waker label guards home key work fun bench =>
        runSteps waker inner [] work (bench.emit (.started inner))
  | .together ending scripts, bench =>
      Bench.afterBranches label guards ending scripts.length
        (runScripts waker label ending 0 scripts bench)
  | .tryGuard limit guard, bench =>
      match bench.tryGuard limit guard with
      | (.error fault, bench) => (.faulted fault, bench)
      | (.ok none, bench) => (.passed guards, bench.emit (.triedGuard label false))
      | (.ok (some guard), bench) =>
          (.passed (guards ++ [guard]), bench.emit (.triedGuard label true))
  | .dropGuard guard, bench =>
      let (held, guards, bench) := bench.dropGuard guard guards
      (.passed guards, bench.emit (.droppedGuard label held))
  | .act action, bench =>
      match bench.perform action with
      | (.error fault, bench) => (.faulted fault, bench)
      | (.ok reply, bench) => (.passed guards, bench.emit (.acted label action reply))

/-- Starts branches in order, the first of them numbered `index`. -/
def runScripts (waker : Waker) (label : String) (ending : Ending) (index : Nat) :
    List (List Step) → Bench → Gathering × Bench
  | [], bench => (.standing [], bench)
  | script :: rest, bench =>
      let branch := label ++ "#" ++ toString index
      afterBranch ending [] (runScripts waker label ending (index + 1) rest)
        (runSteps waker branch [] script (bench.emit (.started branch)))

end

/-- Starts a script. -/
def startScript (waker : Waker) (label : String) (script : List Step) (bench : Bench) :
    Poll × Bench :=
  runSteps waker label [] script (bench.emit (.started label))

/-! ## Suspended scripts -/

mutual

/-- Polls a suspended script. -/
def Frame.poll (waker : Waker) : Frame → Bench → Poll × Bench
  | .mk label guards wait rest, bench =>
      match wait.poll waker label guards bench with
      | (.waiting wait, bench) => (.pending (.mk label guards wait rest), bench)
      | (.passed guards, bench) => runSteps waker label guards rest bench
      | (.finished outcome, bench) => bench.conclude label guards outcome
      | (.faulted fault, bench) => bench.unwind label guards fault

def Wait.poll (waker : Waker) (label : String) (guards : List Guard) :
    Wait → Bench → Stage × Bench
  | .pause 0, bench => (.passed guards, bench)
  | .pause (more + 1), bench => (.waiting (.pause more), bench.wake waker)
  | .gate gate place, bench =>
      Bench.afterGate guards gate (bench.pollGate gate (some place) waker)
  | .borrow limit ticket guard, bench =>
      Bench.afterBorrow label guards limit guard (bench.pollBorrow limit (some ticket) waker)
  | .follow home key call ticket work, bench =>
      match bench.follow home call ticket waker with
      | (.parked ticket, bench) => (.waiting (.follow home key call ticket work), bench)
      | (.settled (.done settlement), bench) =>
          (.passed guards, bench.emit (home.called label settlement false))
      | (.settled .abandoned, bench) =>
          (bench.note .startingOver).makeCall waker label guards home key work
            (startScript waker (home.workLabel label) work)
  | .lead home key call work, bench =>
      Bench.afterWork label guards home key call (work.poll waker bench)
  | .together ending branches, bench =>
      Bench.afterBranches label guards ending branches.length
        (pollBranches waker ending branches bench)

/-- Polls the branches that have not ended, in order. -/
def pollBranches (waker : Waker) (ending : Ending) : List Branch → Bench → Gathering × Bench
  | [], bench => (.standing [], bench)
  | .ended outcome :: rest, bench =>
      let (gathering, bench) := pollBranches waker ending rest bench
      (gathering.add (.ended outcome), bench)
  | .running frame :: rest, bench =>
      afterBranch ending rest (pollBranches waker ending rest) (frame.poll waker bench)

end

end Cohort
