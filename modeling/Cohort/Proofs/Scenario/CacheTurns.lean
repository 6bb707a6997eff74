import Cohort.Proofs.Flight.Followers
import Cohort.Proofs.Manager.FlightMoves
import Cohort.Proofs.Scenario.Lineup
import Cohort.Scenario.CacheLoad

/-!
# Turns of the cache scenario

What one poll of a caller comes to: it asks for its connection and dials, joins a dial or is
answered at once, it ends its dial, or it shares what a dial has come to.
-/

set_option autoImplicit false

namespace Cohort

namespace CacheLoad

variable {load : CacheLoad} {latency caller call attempt : Nat} {plan : DialPlan}
  {address : String}

/-- Where a caller stands. -/
def phase (load : CacheLoad) (caller : Nat) : CacheCaller :=
  load.callers.getD caller .idle

def flight (load : CacheLoad) : Flight String Nat (Except (ManagerError DialError) Nat) :=
  load.board.manager.flight

/-- The connection under an address, as far as one is held. -/
def held (load : CacheLoad) (address : String) :
    Except (ManagerError DialError) (Option Nat) :=
  load.board.manager.lookup address

/-- The load with another flight, seen by a caller that has come to stand elsewhere. -/
def onward (load : CacheLoad) (caller : Nat) (phase : CacheCaller)
    (flight : Flight String Nat (Except (ManagerError DialError) Nat)) (log : List Remark) :
    CacheLoad :=
  { load with
    board := { load.board with manager := { load.board.manager with flight } }
    callers := load.callers.setIfInBounds caller phase
    log }

theorem lt_size_of_phase (stands : load.phase caller ≠ .idle) : caller < load.callers.size :=
  lt_size_of_getD_ne stands

/-! ## Asking -/

theorem request_of_missing (free : load.flight.registry.find? address = none)
    (missing : load.held address = .ok none) (takes_time : 0 < latency) :
    ∃ log, load.request latency plan address caller =
      (.asleep latency, [],
        { load.onward caller (.dialing load.flight.calls.size (load.attempts + 1))
            (load.flight.lead address) log with
          attempts := load.attempts + 1 }) := by
  have requested := Manager.request_of_missing free missing caller
  refine ⟨.notice .startingCall :: load.log, ?_⟩
  simp only [request, requested, if_neg (Nat.pos_iff_ne_zero.mp takes_time)]
  rfl

theorem request_of_running (registered : load.flight.registry.find? address = some call)
    (unsettled : (load.flight.call call).verdict = none) :
    ∃ ticket log, load.request latency plan address caller =
      (.parked, [], load.onward caller (.following call ticket)
        (load.flight.parkAt call none caller) log) := by
  have requested := Manager.request_of_running registered unsettled caller
  refine ⟨((load.flight.call call).line.park none caller).1, .notice .joiningCall :: load.log, ?_⟩
  simp only [request, requested]
  rfl

theorem request_of_held {position : Nat} (free : load.flight.registry.find? address = none)
    (connected : load.held address = .ok (some position)) :
    ∃ log, load.request latency plan address caller =
      (.done, [], load.onward caller (.done (.ok position))
        ((load.flight.lead address).settle address load.flight.calls.size
          (.done (.ok position))).2 log) := by
  have answers : load.board.manager.Answers address (.ok position) := connected
  have requested := Manager.request_of_answers free answers caller
  refine ⟨.notice .startingCall :: load.log, ?_⟩
  rw [Flight.wakers_settle_lead] at requested
  simp only [request, requested]
  rfl

/-! ## Dialing -/

theorem complete_of_refused (refused : plan.refuse = true) :
    ∃ log, load.complete plan address caller call attempt =
      (.done, load.flight.wakersAt call,
        load.onward caller (.done (.error (.create ⟨address, "connection refused"⟩)))
          (load.flight.settle address call
            (.done (.error (.create ⟨address, "connection refused"⟩)))).2 log) := by
  refine ⟨load.log, ?_⟩
  simp only [complete, Switchboard.dial, Connection.dial, refused, if_true]
  rfl

def connectionOf (plan : DialPlan) (address : String) (attempt : Nat) : Connection :=
  { number := attempt, address, failsToClose := plan.failsToClose attempt }

/-- A dial that succeeds adds its connection, which is shared from then on. -/
theorem complete_of_dialed {table : Table String Nat} (accepted : plan.refuse = false)
    (opened : load.board.manager.table = some table) :
    ∃ log, load.complete plan address caller call attempt =
      (.done, load.flight.wakersAt call,
        { load.onward caller (.done (.ok load.board.connections.size))
            (load.flight.settle address call (.done (.ok load.board.connections.size))).2 log with
          board :=
            { connections := load.board.connections.push (connectionOf plan address attempt)
              manager :=
                { table := some (table.insert address load.board.connections.size)
                  flight := (load.flight.settle address call
                    (.done (.ok load.board.connections.size))).2 } }
          connected := load.connected + 1 }) := by
  have installed := Manager.install_of_open opened address load.board.connections.size
  refine ⟨remarks address attempt (.ok load.board.connections.size)
    (.ok load.board.connections.size) ++ load.log, ?_⟩
  simp only [complete, Switchboard.dial, Connection.dial, accepted, Bool.false_eq_true, if_false,
    Switchboard.add, Switchboard.connect, installed]
  rfl

/-! ## Behaviour -/

variable {addresses : Nat → String}

theorem behavior_of_idle (idle : load.phase caller = .idle) :
    behavior latency plan addresses caller load =
      load.request latency plan (addresses caller) caller := by
  rw [phase] at idle
  simp only [behavior, idle]

theorem behavior_of_dialing (dialing : load.phase caller = .dialing call attempt) :
    behavior latency plan addresses caller load =
      load.complete plan (addresses caller) caller call attempt := by
  rw [phase] at dialing
  simp only [behavior, dialing]

theorem behavior_of_settled {ticket : UInt64} {result : Except (ManagerError DialError) Nat}
    (following : load.phase caller = .following call ticket)
    (settled : (load.flight.call call).verdict = some (.done result)) :
    behavior latency plan addresses caller load =
      (.done, [], load.onward caller (.done result) load.flight load.log) := by
  rw [phase] at following
  have polled := Flight.poll_of_settled settled ticket caller
  rw [flight] at polled
  simp only [behavior, following, Manager.poll, polled]
  rfl

end CacheLoad

end Cohort
