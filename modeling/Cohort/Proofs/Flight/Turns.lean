import Cohort.Proofs.Flight.History

/-!
# Moves, line by line

What a move does to a flight, down to the lines of those who wait, and which wakers it
calls. A move has one outcome, so that two runs can be compared move by move.
-/

set_option autoImplicit false

namespace Cohort.Flight

variable {κ ω ρ : Type}

/-- A caller has parked on call `number`. -/
def parkAt (flight : Flight κ ω ρ) (number : Nat) (held : Option UInt64) (waker : ω) :
    Flight κ ω ρ :=
  flight.setCall number
    { flight.call number with line := ((flight.call number).line.park held waker).2 }

/-- The wakers of those who stand in the line of call `number`, the front one first. -/
def wakersAt (flight : Flight κ ω ρ) (number : Nat) : List ω :=
  (flight.call number).line.waiters.map Waiter.waker

variable {flight : Flight κ ω ρ} {number : Nat}

theorem poll_eq_parkAt (unsettled : (flight.call number).verdict = none) (ticket : UInt64)
    (waker : ω) :
    flight.poll number ticket waker =
      (.parked ticket, flight.parkAt number (some ticket) waker) :=
  poll_of_running unsettled ticket waker

theorem alike_parkAt (flight : Flight κ ω ρ) (number : Nat) (held : Option UInt64) (waker : ω) :
    flight.Alike (flight.parkAt number held waker) :=
  alike_setCall rfl

theorem line_parkAt (flight : Flight κ ω ρ) (number one : Nat) (held : Option UInt64)
    (waker : ω) :
    ((flight.parkAt number held waker).call one).line =
      if one = number ∧ number < flight.calls.size then
        ((flight.call number).line.park held waker).2
      else (flight.call one).line := by
  rw [parkAt, call_setCall]
  split <;> rfl

theorem line_leave (flight : Flight κ ω ρ) (number one : Nat) (ticket : UInt64) :
    ((flight.leave number ticket).call one).line =
      if one = number ∧ number < flight.calls.size then (flight.call number).line.leave ticket
      else (flight.call one).line := by
  rw [leave, call_setCall]
  split <;> rfl

theorem call_parkAt_of_ne {one : Nat} (different : one ≠ number) (held : Option UInt64)
    (waker : ω) : (flight.parkAt number held waker).call one = flight.call one := by
  rw [parkAt, call_setCall, if_neg fun both => different both.1]

theorem call_leave_of_ne {one : Nat} (different : one ≠ number) (ticket : UInt64) :
    (flight.leave number ticket).call one = flight.call one := by
  rw [leave, call_setCall, if_neg fun both => different both.1]

theorem wakersAt_parkAt_of_ne {one : Nat} (different : one ≠ number) (held : Option UInt64)
    (waker : ω) : (flight.parkAt number held waker).wakersAt one = flight.wakersAt one := by
  rw [wakersAt, call_parkAt_of_ne different, wakersAt]

theorem wakersAt_leave_of_ne {one : Nat} (different : one ≠ number) (ticket : UInt64) :
    (flight.leave number ticket).wakersAt one = flight.wakersAt one := by
  rw [wakersAt, call_leave_of_ne different, wakersAt]

theorem mem_wakersAt_parkAt {one : Nat} {held : Option UInt64} {waker waker' : ω}
    (member : waker' ∈ (flight.parkAt number held waker).wakersAt one) :
    waker' ∈ flight.wakersAt one ∨ one = number ∧ waker' = waker := by
  rw [wakersAt, line_parkAt] at member
  split at member
  · next same =>
      rw [same.1]
      exact (WaitLine.mem_wakers_park member).imp_right fun last => ⟨rfl, last⟩
  · exact Or.inl member

theorem mem_wakersAt_leave {one : Nat} {ticket : UInt64} {waker : ω}
    (member : waker ∈ (flight.leave number ticket).wakersAt one) : waker ∈ flight.wakersAt one := by
  rw [wakersAt, line_leave] at member
  split at member
  · next same =>
      rw [same.1]
      exact (List.filter_sublist.map _).mem member
  · exact member

section Keyed

variable [DecidableEq κ] {key : κ}

theorem enter_of_running (registered : flight.registry.find? key = some number)
    (unsettled : (flight.call number).verdict = none) (waker : ω) :
    flight.enter key waker =
      (.joins number ((flight.call number).line.park none waker).1,
        flight.parkAt number none waker) := by
  simp [enter, registered, Call.poll, unsettled, parkAt]

theorem waiters_of_registered (registered : flight.registry.find? key = some number) :
    flight.waiters key = (flight.wakersAt number).length := by
  simp [waiters, registered, wakersAt]

theorem waiters_of_free (free : flight.registry.find? key = none) : flight.waiters key = 0 := by
  simp [waiters, free]

theorem line_settle (flight : Flight κ ω ρ) (key : κ) (number one : Nat) (verdict : Verdict ρ) :
    ((flight.settle key number verdict).2.call one).line =
      if one = number ∧ number < flight.calls.size then
        { (flight.call number).line with waiters := [] }
      else (flight.call one).line := by
  have settled := call_setCall { flight with registry := flight.registry.erase key } number one
    ((flight.call number).settle verdict).2
  simp only [settle]
  rw [settled]
  split <;> rfl

theorem call_settle_of_ne {one : Nat} (different : one ≠ number) (verdict : Verdict ρ) :
    (flight.settle key number verdict).2.call one = flight.call one := by
  have settled := call_setCall { flight with registry := flight.registry.erase key } number one
    ((flight.call number).settle verdict).2
  rw [if_neg fun both => different both.1] at settled
  exact settled

end Keyed

def Move.caller? : Move κ ω ρ → Option Nat
  | .call _ => none
  | .poll caller _ | .finish caller _ | .leave caller => some caller

/-- The move is up to a caller in this phase. -/
def Phase.Heeds : Phase ρ → Move κ ω ρ → Prop
  | .idle, .poll _ _ | .idle, .leave _ | .follows _ _, .poll _ _ | .follows _ _, .leave _
  | .leads _, .finish _ _ | .leads _, .leave _ => True
  | _, _ => False

namespace Traffic

variable [DecidableEq κ]

/-- All that one move can do, and the wakers that it calls, while no registered call is
settled. -/
inductive Turn (traffic : Traffic κ ω ρ) : Move κ ω ρ → List ω → Traffic κ ω ρ → Prop where
  | stay {move : Move κ ω ρ} {number} :
      move.caller? = some number →
      (∀ caller, traffic.callers[number]? = some caller → ¬ caller.phase.Heeds move) →
      Turn traffic move [] traffic
  | call {key} :
      Turn traffic (.call key) [] { traffic with callers := traffic.callers ++ [{ key }] }
  | lead {number key phase waker} :
      traffic.callers[number]? = some ⟨key, phase⟩ → phase.Seeks traffic.flight →
      traffic.flight.registry.find? key = none →
      Turn traffic (.poll number waker) []
        (traffic.advance number key (.leads traffic.flight.calls.size)
          (traffic.flight.lead key) [.started number key traffic.flight.calls.size])
  | join {number key phase waker call} :
      traffic.callers[number]? = some ⟨key, phase⟩ → phase.Seeks traffic.flight →
      traffic.flight.registry.find? key = some call →
      Turn traffic (.poll number waker) []
        (traffic.advance number key
          (.follows call ((traffic.flight.call call).line.park none waker).1)
          (traffic.flight.parkAt call none waker) [.joined number key call])
  | wait {number key call ticket waker} :
      traffic.callers[number]? = some ⟨key, .follows call ticket⟩ →
      (traffic.flight.call call).verdict = none →
      Turn traffic (.poll number waker) []
        (traffic.advance number key (.follows call ticket)
          (traffic.flight.parkAt call (some ticket) waker) [])
  | share {number key call ticket waker result} :
      traffic.callers[number]? = some ⟨key, .follows call ticket⟩ →
      (traffic.flight.call call).verdict = some (.done result) →
      Turn traffic (.poll number waker) []
        (traffic.advance number key (.returned result false) traffic.flight
          [.returned number result false])
  | finish {number key call result} :
      traffic.callers[number]? = some ⟨key, .leads call⟩ →
      Turn traffic (.finish number result) (traffic.flight.wakersAt call)
        (traffic.advance number key (.returned result true)
          (traffic.flight.settle key call (.done result)).2
          [.finished number key call result, .returned number result true])
  | abandon {number key call} :
      traffic.callers[number]? = some ⟨key, .leads call⟩ →
      Turn traffic (.leave number) (traffic.flight.wakersAt call)
        (traffic.advance number key .gone
          (traffic.flight.settle key call .abandoned).2 [.abandoned number key call])
  | forgo {number key} :
      traffic.callers[number]? = some ⟨key, .idle⟩ →
      Turn traffic (.leave number) [] (traffic.advance number key .gone traffic.flight [])
  | depart {number key call ticket} :
      traffic.callers[number]? = some ⟨key, .follows call ticket⟩ →
      Turn traffic (.leave number) []
        (traffic.advance number key .gone (traffic.flight.leave call ticket) [])

variable {traffic next : Traffic κ ω ρ} {move : Move κ ω ρ} {woken : List ω}

/-- A move that a caller does not heed changes nothing and wakes nobody. -/
theorem step_of_not_heeds {number : Nat} (one : move.caller? = some number)
    (deaf : ∀ caller, traffic.callers[number]? = some caller → ¬ caller.phase.Heeds move) :
    traffic.step move = ([], traffic) := by
  cases found : traffic.callers[number]? with
  | none =>
      cases move with
      | call _ => cases one
      | poll _ _ | finish _ _ | leave _ =>
          cases one
          simp only [step, found]
  | some caller =>
      have deaf := deaf caller found
      obtain ⟨key, phase⟩ := caller
      cases move with
      | call _ => cases one
      | poll _ waker =>
          cases one
          cases phase with
          | idle | follows _ _ => exact absurd trivial deaf
          | leads _ | returned _ _ | gone => simp only [step, found]
      | finish _ result =>
          cases one
          cases phase with
          | leads _ => exact absurd trivial deaf
          | idle | follows _ _ | returned _ _ | gone => simp only [step, found]
      | leave _ =>
          cases one
          cases phase with
          | idle | leads _ | follows _ _ => exact absurd trivial deaf
          | returned _ _ | gone => simp only [step, found]

theorem step_poll_of_seeks {number : Nat} {key : κ} {phase : Phase ρ}
    (found : traffic.callers[number]? = some ⟨key, phase⟩) (seeks : phase.Seeks traffic.flight)
    (waker : ω) : traffic.step (.poll number waker) = ([], traffic.enter number key waker) := by
  cases phase with
  | idle => simp only [step, found]
  | follows call ticket => simp only [step, found, poll_of_settled seeks]
  | leads _ | returned _ _ | gone => exact absurd seeks id

theorem step_finish_of_leads {number call : Nat} {key : κ}
    (found : traffic.callers[number]? = some ⟨key, .leads call⟩) (result : ρ) :
    traffic.step (.finish number result) =
      (traffic.flight.wakersAt call,
        traffic.advance number key (.returned result true)
          (traffic.flight.settle key call (.done result)).2
          [.finished number key call result, .returned number result true]) := by
  simp only [step, found]
  rfl

theorem Unsettled.step_eq (unsettled : traffic.Unsettled) (turn : traffic.Turn move woken next) :
    traffic.step move = (woken, next) := by
  cases turn with
  | stay one deaf => exact step_of_not_heeds one deaf
  | call => rfl
  | lead found seeks free =>
      rw [step_poll_of_seeks found seeks, enter, enter_of_free free]
  | join found seeks registered =>
      rw [step_poll_of_seeks found seeks, enter,
        enter_of_running registered (unsettled _ _ registered)]
  | wait found running => simp only [step, found, poll_eq_parkAt running]
  | share found done => simp only [step, found, poll_of_settled done]
  | finish found => exact step_finish_of_leads found _
  | abandon found =>
      simp only [step, found]
      rfl
  | forgo found | depart found => simp only [step, found]

private theorem exists_turn (traffic : Traffic κ ω ρ) (move : Move κ ω ρ) :
    ∃ woken next, traffic.Turn move woken next := by
  cases move with
  | call key => exact ⟨_, _, .call⟩
  | poll number waker =>
      cases found : traffic.callers[number]? with
      | none => exact ⟨_, _, .stay rfl (by simp [found])⟩
      | some caller =>
          obtain ⟨key, phase⟩ := caller
          have looks (seeks : phase.Seeks traffic.flight) :
              ∃ woken next, traffic.Turn (.poll number waker) woken next := by
            cases registered : traffic.flight.registry.find? key with
            | none => exact ⟨_, _, .lead found seeks registered⟩
            | some call => exact ⟨_, _, .join found seeks registered⟩
          cases phase with
          | idle => exact looks trivial
          | follows call ticket =>
              cases verdict : (traffic.flight.call call).verdict with
              | none => exact ⟨_, _, .wait found verdict⟩
              | some verdict' =>
                  cases verdict' with
                  | done result => exact ⟨_, _, .share found verdict⟩
                  | abandoned => exact looks verdict
          | leads _ | returned _ _ | gone => exact ⟨_, _, .stay rfl (by simp [found, Phase.Heeds])⟩
  | finish number result =>
      cases found : traffic.callers[number]? with
      | none => exact ⟨_, _, .stay rfl (by simp [found])⟩
      | some caller =>
          obtain ⟨key, phase⟩ := caller
          cases phase with
          | leads call => exact ⟨_, _, .finish found⟩
          | idle | follows _ _ | returned _ _ | gone =>
              exact ⟨_, _, .stay rfl (by simp [found, Phase.Heeds])⟩
  | leave number =>
      cases found : traffic.callers[number]? with
      | none => exact ⟨_, _, .stay rfl (by simp [found])⟩
      | some caller =>
          obtain ⟨key, phase⟩ := caller
          cases phase with
          | idle => exact ⟨_, _, .forgo found⟩
          | leads call => exact ⟨_, _, .abandon found⟩
          | follows call ticket => exact ⟨_, _, .depart found⟩
          | returned _ _ | gone => exact ⟨_, _, .stay rfl (by simp [found, Phase.Heeds])⟩

theorem Unsettled.turn (unsettled : traffic.Unsettled) (move : Move κ ω ρ) :
    traffic.Turn move (traffic.step move).1 (traffic.step move).2 := by
  obtain ⟨woken, next, turn⟩ := traffic.exists_turn move
  rw [unsettled.step_eq turn]
  exact turn

/-- What every move keeps, whatever else it does, holds on from some moment of a run. -/
theorem stays_run {before after : List (Move κ ω ρ)} (property : Traffic κ ω ρ → Prop)
    (stays : ∀ {traffic next : Traffic κ ω ρ} {move : Move κ ω ρ} {woken : List ω},
      move ∈ after → traffic.Manned → traffic.Turn move woken next → property traffic →
        property next)
    (holds : property (run before)) : property (run (before ++ after)) := by
  induction after using List.reverseRecOn with
  | nil => rwa [List.append_nil]
  | append_singleton after move ih =>
      have manned := manned_run (before ++ after)
      have held := ih fun member => stays (List.mem_append_left _ member)
      rw [← List.append_assoc, run_append_singleton]
      exact stays (List.mem_append_right _ (List.mem_singleton_self _)) manned
        (manned.unsettled.turn move) held

theorem Turn.getElem?_callers_of_ne (turn : traffic.Turn move woken next) {number : Nat}
    (other : move.caller? ≠ some number) {caller : Caller κ ρ}
    (found : traffic.callers[number]? = some caller) : next.callers[number]? = some caller := by
  cases turn with
  | stay _ _ => exact found
  | call => exact (List.getElem?_append_left (List.getElem?_eq_some_iff.mp found).1).trans found
  | lead _ _ _ | join _ _ _ | wait _ _ | share _ _ | finish _ | abandon _ | forgo _ | depart _ =>
      exact (List.getElem?_set_ne fun same => other (congrArg some same)).trans found

theorem Turn.key_stays (turn : traffic.Turn move woken next) {number : Nat} {key : κ}
    {phase : Phase ρ} (found : traffic.callers[number]? = some ⟨key, phase⟩) :
    ∃ phase', next.callers[number]? = some ⟨key, phase'⟩ := by
  by_cases own : move.caller? = some number
  · cases turn with
    | stay _ _ => exact ⟨phase, found⟩
    | call => cases own
    | lead found' _ _ | join found' _ _ | wait found' _ | share found' _ | finish found'
    | abandon found' | forgo found' | depart found' =>
        cases own
        cases found.symm.trans found'
        exact ⟨_, getElem?_advance_self found ..⟩
  · exact ⟨phase, turn.getElem?_callers_of_ne own found⟩

theorem Turn.keeps (turn : traffic.Turn move woken next) (manned : traffic.Manned) :
    traffic.flight.Keeps next.flight := by
  cases turn with
  | stay _ _ | call | share _ _ | forgo _ => exact fun _ _ settled => settled
  | lead _ _ _ => exact keeps_lead _ _
  | join _ _ _ | wait _ _ => exact keeps_alike (alike_parkAt ..)
  | finish found | abandon found =>
      exact keeps_settle (manned.verdict_eq_none (mem_leaders found)) _ _
  | depart _ => exact keeps_alike (alike_leave ..)

/-- What has happened stays the beginning of what happens. -/
theorem Turn.history_prefix (turn : traffic.Turn move woken next) :
    traffic.history <+: next.history := by
  cases turn with
  | stay _ _ | call => exact List.prefix_refl _
  | lead _ _ _ | join _ _ _ | wait _ _ | share _ _ | finish _ | abandon _ | forgo _ | depart _ =>
      exact List.prefix_append _ _

theorem history_prefix_run (before after : List (Move κ ω ρ)) :
    (run before).history <+: (run (before ++ after)).history :=
  stays_run (fun traffic => (run before).history <+: traffic.history)
    (fun _ _ turn grown => grown.trans turn.history_prefix) (List.prefix_refl _)

end Traffic

end Cohort.Flight
