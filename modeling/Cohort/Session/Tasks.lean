import Cohort.Session.Poll

/-!
# Sessions

A session runs scripts as tasks on one thread. Tasks are polled by hand, or one
after the other until none is ready.
-/

set_option autoImplicit false

namespace Cohort

inductive Task where
  | fresh (script : List Step)
  | suspended (frame : Frame)

structure Session where
  /-- Whether notices are handed over with the other events. -/
  log : Bool := false
  bench : Bench := {}
  tasks : Table String Task := {}
  /-- The guards of the session itself; no two have the same name. -/
  guards : List Guard := []

/-- What can be asked of a session. -/
inductive Instruction where
  | spawn (task : String) (script : List Step)
  /-- Polls a task with a waker that reports under `label`. -/
  | poll (task label : String)
  | drop (task : String)
  | run
  | tryGuard (limit guard : String)
  | dropGuard (guard : String)
  | act (action : Action)

/-- The answer to an instruction. -/
inductive Response where
  | spawned
  | taskExists
  | polled (polled : Polled)
  | noTask
  | dropped (existed : Bool)
  | ran (polls : Nat)
  /-- The session was still busy when the budget of its run was spent. -/
  | exhausted
  | flag (value : Bool)
  | replied (reply : Reply)
  | faulted (fault : Fault)

def Poll.polled : Poll → Polled
  | .pending _ => .pending
  | .ready outcome => .ready outcome
  | .faulted fault => .faulted fault

/-! ## Budget

Every poll of a run either uses up part of a script or leaves the ready queue
shorter, so the weight of the scripts and the number of names that can be queued
bound the number of polls. -/

mutual

def Step.weight : Step → Nat
  | .pause times => times + 1
  | .call _ _ work => scriptWeight work + 3
  | .together _ scripts => scriptsWeight scripts + 2
  | _ => 2

def scriptWeight : List Step → Nat
  | [] => 1
  | step :: rest => step.weight + scriptWeight rest

def scriptsWeight : List (List Step) → Nat
  | [] => 0
  | script :: rest => scriptWeight script + 1 + scriptsWeight rest

end

mutual

def Frame.weight : Frame → Nat
  | .mk _ _ wait rest => wait.weight + scriptWeight rest

def Wait.weight : Wait → Nat
  | .pause more => more + 1
  | .gate _ _ => 1
  | .borrow _ _ _ => 1
  | .follow _ _ _ _ work => scriptWeight work + 2
  | .lead _ _ _ work => work.weight + 1
  | .together _ branches => branchesWeight branches + 1

def Branch.weight : Branch → Nat
  | .running frame => frame.weight
  | .ended _ => 0

def branchesWeight : List Branch → Nat
  | [] => 0
  | branch :: rest => branch.weight + branchesWeight rest

end

def Task.weight : Task → Nat
  | .fresh script => scriptWeight script + 1
  | .suspended frame => frame.weight

/-- Every waker that the bench holds. -/
def Bench.wakers (bench : Bench) : List Waker :=
  bench.limits.items.toList.flatMap (fun limit => limit.line.waiters.map Waiter.waker) ++
    bench.flights.items.toList.flatMap (fun flight =>
      flight.calls.toList.flatMap (fun call => call.line.waiters.map Waiter.waker)) ++
    bench.managers.items.toList.flatMap (fun manager =>
      manager.flight.calls.toList.flatMap (fun call => call.line.waiters.map Waiter.waker)) ++
    bench.gates.items.toList.flatMap Gate.places

namespace Session

def weight (session : Session) : Nat :=
  session.tasks.values.foldl (fun weight task => weight + task.weight) 0

/-- How many names there are that may come to stand in the ready queue. -/
def names (session : Session) : Nat :=
  session.tasks.size + session.bench.ready.length + session.bench.wakers.length

/-- More polls than a run can make. -/
def budget (session : Session) : Nat :=
  (session.weight + 1) * (session.names + 1)

/-- Polls a task, which leaves the ready queue first. -/
def pollTask (session : Session) (name label : String) : Option Polled × Session :=
  match session.tasks.find? name with
  | none => (none, session)
  | some task =>
      let bench := { session.bench with ready := session.bench.ready.erase name }
      let tasks := session.tasks.erase name
      let waker : Waker := ⟨name, label⟩
      let (poll, bench) :=
        match task with
        | .fresh script => startScript waker name script bench
        | .suspended frame => frame.poll waker bench
      let tasks :=
        match poll with
        | .pending frame => tasks.insert name (.suspended frame)
        | .ready _ | .faulted _ => tasks
      (some poll.polled, { session with bench, tasks })

/-- Polls ready tasks in turn, and skips names without a task. Counts the polls;
nothing is counted if the budget is spent before the queue is empty. -/
def runFor : Nat → Session → Option Nat × Session
  | budget, session =>
      match session.bench.ready, budget with
      | [], _ => (some 0, session)
      | _ :: _, 0 => (none, session)
      | name :: ready, budget + 1 =>
          match session.pollTask name name with
          | (none, session) => runFor budget { session with bench := { session.bench with ready } }
          | (some polled, session) =>
              let session := { session with bench := session.bench.emit (.polled name polled) }
              let (polls, session) := runFor budget session
              (polls.map (· + 1), session)

/-- Drops a task. Its name stays in the ready queue. -/
def dropTask (session : Session) (name : String) : Bool × Session :=
  match session.tasks.find? name with
  | none => (false, session)
  | some task =>
      let bench :=
        match task with
        | .fresh _ => session.bench
        | .suspended frame => frame.drop session.bench
      (true, { session with bench, tasks := session.tasks.erase name })

/-- Takes a guard for the session. One of the same name is released afterwards. -/
def tryGuard (session : Session) (limit guard : String) : Except Fault Bool × Session :=
  match session.bench.tryGuard limit guard with
  | (.error fault, bench) => (.error fault, { session with bench })
  | (.ok none, bench) => (.ok false, { session with bench })
  | (.ok (some taken), bench) =>
      let (_, guards, bench) := bench.dropGuard guard session.guards
      (.ok true, { session with bench, guards := guards ++ [taken] })

def respond (session : Session) : Instruction → Response × Session
  | .spawn name script =>
      if session.tasks.contains name then (.taskExists, session)
      else
        (.spawned,
          { session with
            bench := session.bench.enqueue name
            tasks := session.tasks.insert name (.fresh script) })
  | .poll name label =>
      match session.pollTask name label with
      | (none, session) => (.noTask, session)
      | (some polled, session) => (.polled polled, session)
  | .drop name =>
      let (existed, session) := session.dropTask name
      (.dropped existed, session)
  | .run =>
      match session.runFor session.budget with
      | (none, session) => (.exhausted, session)
      | (some polls, session) => (.ran polls, session)
  | .tryGuard limit guard =>
      match session.tryGuard limit guard with
      | (.error fault, session) => (.faulted fault, session)
      | (.ok taken, session) => (.flag taken, session)
  | .dropGuard guard =>
      let (held, guards, bench) := session.bench.dropGuard guard session.guards
      (.flag held, { session with bench, guards })
  | .act action =>
      match session.bench.perform action with
      | (.error fault, bench) => (.faulted fault, { session with bench })
      | (.ok reply, bench) => (.replied reply, { session with bench })

/-- Carries out an instruction and hands over what happened, in order. -/
def execute (session : Session) (instruction : Instruction) : Response × List Event × Session :=
  let (response, session) := session.respond instruction
  let events := session.bench.events.reverse.filter (fun event => session.log || !event.isNotice)
  (response, events, { session with bench := { session.bench with events := [] } })

end Session

/-! ## Views -/

/-- What the named objects of a session look like from outside. -/
structure Snapshot where
  /-- Tokens available and in use. -/
  limits : List (String × Nat × Nat)
  /-- Keys in flight, and the callers parked on each, if any. -/
  flights : List (String × Nat × List (String × Nat))
  /-- Resources held, whether the manager is closed, and the keys in order. -/
  managers : List (String × Nat × Bool × List String)

def Flight.parked (flight : Flight String Waker Outcome) : List (String × Nat) :=
  (flight.registry.keys.map (fun key => (key, flight.waiters key))).filter
    (fun entry => decide (0 < entry.2))

def Bench.snapshot (bench : Bench) : Snapshot where
  limits := bench.limits.named.map fun (name, limit) => (name, limit.available, limit.inUse)
  flights := bench.flights.named.map fun (name, flight) => (name, flight.inFlight, flight.parked)
  managers := bench.managers.named.map fun (name, manager) =>
    (name, manager.size, manager.isClosed,
      manager.keys.mergeSort (fun one other => decide (one ≤ other)))

end Cohort
