import Cohort.Limit
import Cohort.Scenario.Round

/-!
# The limit scenario

Callers compete for tokens. Never may more of them hold one than there are, and in
the end every token has to be back.
-/

set_option autoImplicit false

namespace Cohort

namespace Limit

variable {ω : Type}

/-- Takes `count` tokens, or as many of them as there are. -/
def takeTimes : Nat → Limit ω → Bool × Limit ω
  | 0, limit => (true, limit)
  | count + 1, limit =>
      match limit.take? with
      | none => (false, limit)
      | some limit => takeTimes count limit

/-- Puts `count` tokens back, unless one is refused. -/
def putBackTimes : Nat → Limit ω → Except ReturnError Unit × Limit ω
  | 0, limit => (.ok (), limit)
  | count + 1, limit =>
      match limit.putBack with
      | .error error => (.error error, limit)
      | .ok (_, limit) => putBackTimes count limit

/-- Checks an idle limit: it refuses a token too many, and gives out exactly as many
as its capacity. It is left as it was if it passes. -/
def audit (limit : Limit ω) : Except Halt Unit × Limit ω :=
  match limit.putBack with
  | .ok (_, limit) => (violated .limit "over-release on an idle limit was accepted", limit)
  | .error .poolFull =>
      match limit.takeTimes limit.capacity with
      | (false, limit) => (violated .limit "try_borrow failed below capacity", limit)
      | (true, limit) =>
          match limit.take? with
          | some limit => (violated .limit "try_borrow succeeded on an exhausted limit", limit)
          | none =>
              match limit.putBackTimes limit.capacity with
              | (.error error, limit) => (violated .limit error.message, limit)
              | (.ok (), limit) => (.ok (), limit)

end Limit

/-- Where a caller of the limit scenario stands. -/
inductive LimitCaller where
  | idle
  | waiting (ticket : UInt64)
  | holding
  | done (result : Except ReturnError Unit)

structure LimitLoad where
  limit : Limit Nat
  /-- The callers that hold a token. -/
  holders : Nat := 0
  /-- The most there were at once. -/
  peak : Nat := 0
  callers : Array LimitCaller := #[]

namespace LimitLoad

def setCaller (load : LimitLoad) (caller : Nat) (phase : LimitCaller) : LimitLoad :=
  { load with callers := load.callers.setIfInBounds caller phase }

/-- Ends the work of a holder, which puts its token back. -/
def complete (caller : Nat) (load : LimitLoad) : Turn × List Nat × LimitLoad :=
  let load := { load with holders := load.holders - 1 }
  match load.limit.putBack with
  | .error error => (.done, [], load.setCaller caller (.done (.error error)))
  | .ok (woken, limit) =>
      (.done, woken.toList, { load with limit }.setCaller caller (.done (.ok ())))

/-- Polls the borrow of a caller. Work that takes no time does not wait. -/
def borrow (work : Nat) (caller : Nat) (ticket : Option UInt64) (load : LimitLoad) :
    Turn × List Nat × LimitLoad :=
  match load.limit.poll ticket caller with
  | (.parked ticket, limit) =>
      (.parked, [], { load with limit }.setCaller caller (.waiting ticket))
  | (.taken, limit) =>
      let holders := load.holders + 1
      let load := { load with limit, holders, peak := max load.peak holders }
      if work = 0 then load.complete caller
      else (.asleep work, [], load.setCaller caller .holding)

def behavior (work : Nat) : Behavior LimitLoad := fun caller load =>
  match load.callers.getD caller .idle with
  | .idle => load.borrow work caller none
  | .waiting ticket => load.borrow work caller (some ticket)
  | .holding => load.complete caller
  | .done _ => (.done, [], load)

/-- Counts what one caller came back with. -/
def count (report : Report) : LimitCaller → Except Halt Report
  | .done (.ok ()) =>
      .ok { report with calls := report.calls + 1, executions := report.executions + 1 }
  | .done (.error error) => violated .limit error.message
  | _ => .error .stuck

def round (config : Config) (timetable : Timetable) (index : Nat)
    (played : LimitLoad × Report) (now : Nat) :
    Except Halt ((LimitLoad × Report) × Nat × List Remark) := do
  let callers ← rollCall config.callers
  let load := { played.1 with callers := Array.replicate callers.length .idle }
  let rota := Rota.play (behavior config.work) (timetable index) now callers load
  let report ← callers.foldlM
    (fun report caller => count report (rota.state.callers.getD caller .idle)) played.2
  return ((rota.state, report), rota.now, [.roundDone .limit index rota.state.peak])

/-- Checks the limit once all rounds are played. -/
def check (config : Config) (load : LimitLoad) : Except Halt Unit :=
  if config.capacity < load.peak then
    violated .limit
      (toString load.peak ++ " holders at once with capacity " ++ toString config.capacity)
  else if load.limit.available ≠ config.capacity then
    violated .limit
      (toString load.limit.inUse ++ " of " ++ toString config.capacity ++ " tokens leaked")
  else load.limit.audit.1

end LimitLoad

/-- Runs the limit scenario. -/
def runLimit (config : Config) (timetable : Timetable) (course : Course) :
    Except Halt Report × Course :=
  match Limit.ofCapacity? config.capacity with
  | none => (.error (.fault .emptyLimit), course)
  | some limit =>
      let start := ({ limit := limit }, { scenario := Scenario.limit.name })
      let (played, finished) :=
        playRounds (LimitLoad.round config timetable) config.rounds 0 start course
      let result := do
        let (load, report) ← played
        load.check config
        let elapsed := .ofMilliseconds (finished.now - course.now)
        return { report with peak := load.peak, elapsed }
      (result, finished)

end Cohort
