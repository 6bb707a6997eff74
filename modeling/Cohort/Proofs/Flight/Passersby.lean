import Cohort.Proofs.Flight.Followers

/-!
# Passers-by

A caller that joins a call and goes away again leaves the call as it was, but for one ticket
that was drawn. However many come and go, the tickets are all that they leave behind.
-/

set_option autoImplicit false

namespace Cohort

private theorem WaitLine.leave_park_none {ω : Type} {line : WaitLine ω}
    (absent : line.holds line.next = false) (waker : ω) :
    (line.park none waker).2.leave line.next = { line with drawn := line.drawn + 1 } := by
  have stay : line.waiters.filter (fun waiter => decide (waiter.ticket ≠ line.next)) =
      line.waiters := by
    refine List.filter_eq_self.mpr fun waiter member => decide_eq_true fun same => ?_
    exact holds_eq_false_iff.mp absent (same ▸ List.mem_map_of_mem member)
  rw [park_none absent, leave, List.filter_append, stay]
  simp

namespace Flight.Traffic

variable {κ ω ρ : Type} [DecidableEq κ] {moves : List (Move κ ω ρ)} {number call count : Nat}
  {key : κ} {ticket : UInt64}

/-- Somebody calls and joins the call that is in flight. -/
theorem run_join (newcomer : (run moves).callers.length = number)
    (registered : (run moves).flight.registry.find? key = some call) (waker : ω) :
    run (moves ++ [.call key, .poll number waker]) =
        { flight := (run moves).flight.parkAt call none waker
          callers := (run moves).callers ++
            [⟨key, .follows call ((run moves).flight.call call).line.next⟩]
          history := (run moves).history ++ [.joined number key call] } ∧
      called (moves ++ [.call key, .poll number waker]) = called moves := by
  have arrived : run (moves ++ [.call key]) =
      { run moves with callers := (run moves).callers ++ [{ key }] } :=
    run_append_singleton moves (.call key)
  have found : (run (moves ++ [.call key])).callers[number]? = some ⟨key, .idle⟩ := by
    rw [arrived, ← newcomer]
    exact List.getElem?_concat_length
  have registered' : (run (moves ++ [.call key])).flight.registry.find? key = some call := by
    rw [arrived]
    exact registered
  have turn : (run (moves ++ [.call key])).Turn (.poll number waker) [] _ :=
    .join found trivial registered'
  have joins := (manned_run (moves ++ [.call key])).unsettled.step_eq turn
  rw [List.append_cons, run_append_singleton, called_append_singleton, called_append_singleton,
    joins, arrived]
  refine ⟨?_, by simp [step]⟩
  simp [advance, ← newcomer, WaitLine.park_eq, WaitLine.draw]

theorem run_depart (found : (run moves).callers[number]? = some ⟨key, .follows call ticket⟩) :
    run (moves ++ [.leave number]) =
        (run moves).advance number key .gone ((run moves).flight.leave call ticket) [] ∧
      called (moves ++ [.leave number]) = called moves := by
  have departs := (manned_run moves).unsettled.step_eq (.depart found)
  rw [run_append_singleton, called_append_singleton, departs]
  exact ⟨rfl, List.append_nil _⟩

theorem called_finish (leads : (run moves).callers[number]? = some ⟨key, .leads call⟩)
    (result : ρ) : called (moves ++ [.finish number result]) =
      called moves ++ (run moves).flight.wakersAt call := by
  rw [called_append_singleton, step_finish_of_leads leads]

/-- So many callers come one after the other, join a call and go away, the first of them as
caller `first`. -/
def passersby (key : κ) (waker : Nat → ω) (first : Nat) : Nat → List (Move κ ω ρ)
  | 0 => []
  | count + 1 =>
      passersby key waker first count ++
        [.call key, .poll (first + count) (waker (first + count)), .leave (first + count)]

/-- What is left behind by `count` callers that have passed by call `call`. -/
structure Passed (key : κ) (call count : Nat) (before after : Traffic κ ω ρ) : Prop where
  callers : after.callers = before.callers ++ List.replicate count ⟨key, .gone⟩
  registry : after.flight.registry = before.flight.registry
  line : (after.flight.call call).line =
    { (before.flight.call call).line with drawn := (before.flight.call call).line.drawn + count }
  started : ∀ one key call, .started one key call ∈ after.history →
    .started one key call ∈ before.history

private theorem Passed.succ {before : Traffic κ ω ρ}
    (passed : Passed key call count before (run moves))
    (registered : before.flight.registry.find? key = some call)
    (newcomer : (run moves).callers.length = number)
    (absent : ((run moves).flight.call call).line.holds ((run moves).flight.call call).line.next =
      false) (waker : ω) :
    Passed key call (count + 1) before
        (run (moves ++ [.call key, .poll number waker, .leave number])) ∧
      called (moves ++ [.call key, .poll number waker, .leave number]) = called moves := by
  have registered' : (run moves).flight.registry.find? key = some call := by
    rw [passed.registry, registered]
  have manned := manned_run moves
  have inside := manned.lt_size (manned.find?_iff.mp registered')
  obtain ⟨joined, silent⟩ := run_join newcomer registered' waker
  have found : (run (moves ++ [.call key, .poll number waker])).callers[number]? =
      some ⟨key, .follows call ((run moves).flight.call call).line.next⟩ := by
    rw [joined, ← newcomer]
    exact List.getElem?_concat_length
  obtain ⟨departed, silent'⟩ := run_depart found
  rw [List.append_assoc, List.cons_append, List.singleton_append] at departed silent'
  refine ⟨?_, silent'.trans silent⟩
  rw [departed, joined]
  constructor
  case callers =>
    simp [advance, passed.callers, ← newcomer, List.replicate_succ']
  case registry =>
    exact (alike_leave ..).registry.trans ((alike_parkAt ..).registry.trans passed.registry)
  case line =>
    have inside' : call < ((run moves).flight.parkAt call none waker).calls.size := by
      rw [(alike_parkAt ..).size]
      exact inside
    simp only [advance]
    rw [line_leave, if_pos ⟨rfl, inside'⟩, line_parkAt, if_pos ⟨rfl, inside⟩,
      WaitLine.leave_park_none absent, passed.line]
    rfl
  case started =>
    intro one key' call' member
    apply passed.started
    simpa [advance] using member

/-- Callers may pass by as long as the tickets that they draw are in nobody's hands. -/
theorem passed_run (registered : (run moves).flight.registry.find? key = some call)
    (first : (run moves).callers.length = number) (waker : Nat → ω)
    (absent : ∀ drawn < count, .ofNat (((run moves).flight.call call).line.drawn + drawn) ∉
      ((run moves).flight.call call).line.tickets) :
    Passed key call count (run moves) (run (moves ++ passersby key waker number count)) ∧
      called (moves ++ passersby key waker number count) = called moves := by
  induction count with
  | zero =>
      rw [passersby, List.append_nil]
      refine ⟨?_, rfl⟩
      exact ⟨(List.append_nil _).symm, rfl, rfl, fun _ _ _ member => member⟩
  | succ count ih =>
      obtain ⟨passed, silent⟩ := ih fun drawn before => absent drawn (Nat.lt_succ_of_lt before)
      have newcomer : (run (moves ++ passersby key waker number count)).callers.length =
          number + count := by
        rw [passed.callers, List.length_append, List.length_replicate, first]
      have unheld : ((run (moves ++ passersby key waker number count)).flight.call call).line.holds
          ((run (moves ++ passersby key waker number count)).flight.call call).line.next =
            false := by
        rw [passed.line]
        exact WaitLine.holds_eq_false_iff.mpr (absent count (Nat.lt_succ_self count))
      obtain ⟨passed', silent'⟩ :=
        passed.succ registered newcomer unheld (waker (number + count))
      rw [passersby, ← List.append_assoc]
      exact ⟨passed', silent'.trans silent⟩

/-- Whoever joins after them finds the line as they have found it, and the ticket that comes
next after theirs. -/
theorem joined_run (registered : (run moves).flight.registry.find? key = some call)
    (first : (run moves).callers.length = number) (waker : Nat → ω)
    (absent : ∀ drawn < count, .ofNat (((run moves).flight.call call).line.drawn + drawn) ∉
      ((run moves).flight.call call).line.tickets) (last : ω) {crowd : List (Move κ ω ρ)}
    (crowded : crowd = moves ++ passersby key waker number count ++
      [.call key, .poll (number + count) last]) :
    (∀ (one : Nat) (caller : Caller κ ρ), (run moves).callers[one]? = some caller →
        (run crowd).callers[one]? = some caller) ∧
      ((run crowd).flight.call call).line =
        (WaitLine.park ⟨((run moves).flight.call call).line.drawn + count,
          ((run moves).flight.call call).line.waiters⟩ none last).2 ∧
      (∀ one key call, .started one key call ∈ (run crowd).history →
        .started one key call ∈ (run moves).history) ∧
      called crowd = called moves := by
  obtain ⟨passed, silent⟩ := passed_run registered first waker absent
  have newcomer : (run (moves ++ passersby key waker number count)).callers.length =
      number + count := by
    rw [passed.callers, List.length_append, List.length_replicate, first]
  have registered' := passed.registry ▸ registered
  have manned := manned_run (moves ++ passersby key waker number count)
  have inside := manned.lt_size (manned.find?_iff.mp registered')
  obtain ⟨joined, silent'⟩ := run_join newcomer registered' last
  subst crowded
  refine ⟨?_, ?_, ?_, silent'.trans silent⟩
  · intro one caller found
    have before := (List.getElem?_eq_some_iff.mp found).1
    rw [joined, passed.callers, List.append_assoc, List.getElem?_append_left before, found]
  · rw [joined]
    simp only
    rw [line_parkAt, if_pos ⟨rfl, inside⟩, passed.line]
  · intro one key' call' member
    apply passed.started
    rw [joined] at member
    simpa using member

end Flight.Traffic

end Cohort
