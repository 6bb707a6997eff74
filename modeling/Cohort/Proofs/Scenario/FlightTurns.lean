import Cohort.Proofs.Flight.Followers
import Cohort.Proofs.Scenario.Lineup
import Cohort.Scenario.FlightLoad

/-!
# Turns of the flight scenario

What one poll of a caller comes to: it starts an execution for its key, joins the one that runs,
ends its own, or shares what the one that it has joined has come to.
-/

set_option autoImplicit false

namespace Cohort

namespace FlightLoad

variable {load : FlightLoad} {work caller call : Nat} {key : Nat → String}

/-- Where a caller stands. -/
def phase (load : FlightLoad) (caller : Nat) : FlightCaller :=
  load.callers.getD caller .idle

theorem phase_setCaller (inside : caller < load.callers.size) (phase : FlightCaller) :
    (load.setCaller caller phase).phase = Function.update load.phase caller phase :=
  getD_setIfInBounds_eq_update inside .idle phase

theorem lt_size_of_phase (stands : load.phase caller ≠ .idle) : caller < load.callers.size :=
  lt_size_of_getD_ne stands

/-! ## Behaviour -/

/-- A caller has started an execution. -/
def started (load : FlightLoad) (key : String) (caller : Nat) : FlightLoad :=
  { load with
    flight := load.flight.lead key
    executions := load.executions + 1
    log := .notice .startingCall :: load.log }.setCaller caller
      (.working load.flight.calls.size (load.executions + 1))

/-- A caller has joined the execution that runs as `call`. -/
def joined (load : FlightLoad) (caller call : Nat) : FlightLoad :=
  { load with
    flight := load.flight.parkAt call none caller
    log := .notice .joiningCall :: load.log }.setCaller caller
      (.following call ((load.flight.call call).line.park none caller).1)

/-- A caller has ended its execution. -/
def finished (load : FlightLoad) (key : String) (caller call execution : Nat) : FlightLoad :=
  { load with flight := (load.flight.settle key call (.done (.ok execution))).2 }.setCaller caller
    (.done (.ok execution) true)

theorem behavior_of_free (idle : load.phase caller = .idle) (takes_time : 0 < work)
    (free : load.flight.registry.find? (key caller) = none) :
    behavior work key caller load = (.asleep work, [], load.started (key caller) caller) := by
  rw [phase] at idle
  simp only [behavior, idle, FlightLoad.call, Flight.enter_of_free free,
    if_neg (Nat.pos_iff_ne_zero.mp takes_time)]
  rfl

/-- Work that takes no time ends with the poll in which it starts. -/
theorem behavior_of_free_at_once (idle : load.phase caller = .idle)
    (free : load.flight.registry.find? (key caller) = none) :
    behavior 0 key caller load =
      (.done, [], (load.started (key caller) caller).finished (key caller) caller
        load.flight.calls.size (load.executions + 1)) := by
  have nobody : (load.flight.lead (key caller)).settle (key caller) load.flight.calls.size
      (.done (.ok (load.executions + 1))) =
        ([], ((load.flight.lead (key caller)).settle (key caller) load.flight.calls.size
          (.done (.ok (load.executions + 1)))).2) :=
    Prod.ext (Flight.wakers_settle_lead ..) rfl
  rw [phase] at idle
  simp only [behavior, idle, FlightLoad.call, Flight.enter_of_free free, if_true, complete,
    Flight.finish, note]
  rw [nobody]
  simp only [finished, started, setCaller, Array.setIfInBounds_setIfInBounds]

theorem behavior_of_running (idle : load.phase caller = .idle)
    (registered : load.flight.registry.find? (key caller) = some call)
    (unsettled : (load.flight.call call).verdict = none) :
    behavior work key caller load = (.parked, [], load.joined caller call) := by
  rw [phase] at idle
  simp only [behavior, idle, FlightLoad.call, Flight.enter_of_running registered unsettled]
  rfl

theorem behavior_of_working {execution : Nat}
    (working : load.phase caller = .working call execution) :
    behavior work key caller load =
      (.done, load.flight.wakersAt call, load.finished (key caller) caller call execution) := by
  rw [phase] at working
  simp only [behavior, working]
  rfl

theorem behavior_of_settled {ticket : UInt64} {result : Except String Nat}
    (following : load.phase caller = .following call ticket)
    (settled : (load.flight.call call).verdict = some (.done result)) :
    behavior work key caller load =
      (.done, [], load.setCaller caller (.done result false)) := by
  rw [phase] at following
  simp only [behavior, following, Flight.poll_of_settled settled]

end FlightLoad

end Cohort
