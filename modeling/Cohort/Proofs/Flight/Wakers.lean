import Cohort.Proofs.Flight.Turns

/-!
# Whose waker is called

A flight never looks into a waker: wakers that are replaced by others, all alike, change
nothing else. So a run is the same when each waker carries the number of the caller that
was polled with it, and then the wakers called tell who is woken.
-/

set_option autoImplicit false

namespace Cohort

variable {κ ω ω' ρ : Type}

/-! ## Other wakers -/

def Waiter.map (translate : ω → ω') (waiter : Waiter ω) : Waiter ω' :=
  ⟨waiter.ticket, translate waiter.waker⟩

namespace WaitLine

def map (translate : ω → ω') (line : WaitLine ω) : WaitLine ω' where
  drawn := line.drawn
  waiters := line.waiters.map (Waiter.map translate)

variable (translate : ω → ω') (line : WaitLine ω)

@[simp]
theorem holds_map (ticket : UInt64) : (line.map translate).holds ticket = line.holds ticket := by
  simp [holds, map, Waiter.map, List.any_map, Function.comp_def]

private theorem rewake_map (ticket : UInt64) (waker : ω) (waiters : List (Waiter ω)) :
    rewake ticket (translate waker) (waiters.map (Waiter.map translate)) =
      (rewake ticket waker waiters).map (Waiter.map translate) := by
  induction waiters with
  | nil => rfl
  | cons front behind ih =>
      simp only [List.map_cons, rewake, Waiter.map]
      split
      · rfl
      · rw [List.map_cons, ← ih]
        rfl

private theorem draw_map (held : Option UInt64) :
    (line.map translate).draw held = ((line.draw held).1, (line.draw held).2.map translate) := by
  cases held <;> rfl

private theorem park_map (held : Option UInt64) (waker : ω) :
    (line.map translate).park held (translate waker) =
      ((line.park held waker).1, (line.park held waker).2.map translate) := by
  simp only [park, draw_map, holds_map]
  split
  · simp only [map, rewake_map]
  · simp [map, Waiter.map]

private theorem leave_map (ticket : UInt64) :
    (line.map translate).leave ticket = (line.leave ticket).map translate := by
  simp only [leave, map, List.filter_map]
  rfl

private theorem drain_map :
    (line.map translate).drain = (line.drain.1.map translate, line.drain.2.map translate) := by
  simp [drain, map, Waiter.map, Function.comp_def]

end WaitLine

namespace Call

def map (translate : ω → ω') (call : Call ω ρ) : Call ω' ρ where
  verdict := call.verdict
  line := call.line.map translate

variable (translate : ω → ω') (call : Call ω ρ)

private theorem poll_map (held : Option UInt64) (waker : ω) :
    (call.map translate).poll held (translate waker) =
      ((call.poll held waker).1, (call.poll held waker).2.map translate) := by
  unfold poll
  cases reached : call.verdict with
  | none => simp [map, reached, WaitLine.park_map]
  | some verdict => simp [map, reached]

private theorem leave_map (ticket : UInt64) :
    (call.map translate).leave ticket = (call.leave ticket).map translate := by
  simp only [leave, map, WaitLine.leave_map]

private theorem settle_map (verdict : Verdict ρ) :
    (call.map translate).settle verdict =
      ((call.settle verdict).1.map translate, (call.settle verdict).2.map translate) := by
  simp only [settle, map, WaitLine.drain_map]

end Call

namespace Flight

def map (translate : ω → ω') (flight : Flight κ ω ρ) : Flight κ ω' ρ where
  calls := flight.calls.map (Call.map translate)
  registry := flight.registry

variable (translate : ω → ω') (flight : Flight κ ω ρ)

@[simp]
theorem call_map (number : Nat) :
    (flight.map translate).call number = (flight.call number).map translate := by
  simp only [call, map, Array.getD_eq_getD_getElem?, Array.getElem?_map]
  cases flight.calls[number]? <;> rfl

private theorem setCall_map (number : Nat) (call : Call ω ρ) :
    (flight.map translate).setCall number (call.map translate) =
      (flight.setCall number call).map translate := by
  simp [setCall, map, Array.map_setIfInBounds]

private theorem poll_map (number : Nat) (ticket : UInt64) (waker : ω) :
    (flight.map translate).poll number ticket (translate waker) =
      ((flight.poll number ticket waker).1, (flight.poll number ticket waker).2.map translate) := by
  simp only [poll, call_map, Call.poll_map, setCall_map]

private theorem leave_map (number : Nat) (ticket : UInt64) :
    (flight.map translate).leave number ticket = (flight.leave number ticket).map translate := by
  simp only [leave, call_map, Call.leave_map, setCall_map]

section Keyed

variable [DecidableEq κ] (key : κ)

@[simp]
theorem waiters_map : (flight.map translate).waiters key = flight.waiters key := by
  have same : (flight.map translate).registry = flight.registry := rfl
  unfold waiters
  rw [same]
  cases flight.registry.find? key with
  | none => rfl
  | some number => simp [Call.map, WaitLine.map]

private theorem enter_map (waker : ω) :
    (flight.map translate).enter key (translate waker) =
      ((flight.enter key waker).1, (flight.enter key waker).2.map translate) := by
  have same : (flight.map translate).registry = flight.registry := rfl
  unfold enter
  rw [same]
  cases flight.registry.find? key with
  | none => simp [map, Call.map, WaitLine.map]
  | some number =>
      simp only [call_map, Call.poll_map]
      cases (flight.call number).poll none waker with
      | mk following call =>
          cases following with
          | settled verdict => rfl
          | parked ticket => simp only [setCall_map]

private theorem settle_map (number : Nat) (verdict : Verdict ρ) :
    (flight.map translate).settle key number verdict =
      ((flight.settle key number verdict).1.map translate,
        (flight.settle key number verdict).2.map translate) := by
  simp only [settle, call_map, Call.settle_map]
  let freed := { flight with registry := flight.registry.erase key }
  exact Prod.ext rfl (setCall_map translate freed ..)

end Keyed

def Move.map (translate : ω → ω') : Move κ ω ρ → Move κ ω' ρ
  | .call key => .call key
  | .poll caller waker => .poll caller (translate waker)
  | .finish caller result => .finish caller result
  | .leave caller => .leave caller

namespace Traffic

def map (translate : ω → ω') (traffic : Traffic κ ω ρ) : Traffic κ ω' ρ where
  flight := traffic.flight.map translate
  callers := traffic.callers
  history := traffic.history

variable [DecidableEq κ] (translate : ω → ω') (traffic : Traffic κ ω ρ)

private theorem enter_map (number : Nat) (key : κ) (waker : ω) :
    (traffic.map translate).enter number key (translate waker) =
      (traffic.enter number key waker).map translate := by
  have entered : (traffic.map translate).flight.enter key (translate waker) = _ :=
    Flight.enter_map translate traffic.flight key waker
  unfold enter
  rw [entered]
  cases traffic.flight.enter key waker with
  | mk entry flight =>
      cases entry with
      | leads call | joins call ticket => rfl
      | late verdict => cases verdict <;> rfl

private theorem step_map (move : Move κ ω ρ) :
    (traffic.map translate).step (move.map translate) =
      ((traffic.step move).1.map translate, (traffic.step move).2.map translate) := by
  cases move with
  | call key => rfl
  | poll number waker =>
      cases found : traffic.callers[number]? with
      | none => simp only [step, Move.map, map, found]; rfl
      | some caller =>
          obtain ⟨key, phase⟩ := caller
          cases phase with
          | idle =>
              have entered := enter_map translate traffic number key waker
              simp only [step, Move.map, map, found] at entered ⊢
              rw [entered]
              rfl
          | follows call ticket =>
              have entered (flight : Flight κ ω ρ) :=
                enter_map translate { traffic with flight } number key waker
              simp only [step, Move.map, map, found, poll_map] at entered ⊢
              cases traffic.flight.poll call ticket waker with
              | mk following flight =>
                  cases following with
                  | parked ticket => rfl
                  | settled verdict =>
                      cases verdict with
                      | done result => rfl
                      | abandoned => exact Prod.ext rfl (entered flight)
          | leads _ | returned _ _ | gone => simp only [step, Move.map, map, found]; rfl
  | finish number result =>
      cases found : traffic.callers[number]? with
      | none => simp only [step, Move.map, map, found]; rfl
      | some caller =>
          obtain ⟨key, phase⟩ := caller
          cases phase with
          | leads call => simp only [step, Move.map, map, found, finish, settle_map]; rfl
          | idle | follows _ _ | returned _ _ | gone => simp only [step, Move.map, map, found]; rfl
  | leave number =>
      cases found : traffic.callers[number]? with
      | none => simp only [step, Move.map, map, found]; rfl
      | some caller =>
          obtain ⟨key, phase⟩ := caller
          cases phase with
          | leads call => simp only [step, Move.map, map, found, abandon, settle_map]; rfl
          | follows call ticket => simp only [step, Move.map, map, found, Flight.leave_map]; rfl
          | idle | returned _ _ | gone => simp only [step, Move.map, map, found]; rfl

private theorem run_map (moves : List (Move κ ω ρ)) :
    run (moves.map (Move.map translate)) = (run moves).map translate := by
  induction moves using List.reverseRecOn with
  | nil => simp [run, map, Flight.map]
  | append_singleton moves move ih =>
      rw [List.map_append, List.map_singleton, run_append_singleton, run_append_singleton, ih,
        step_map]

/-! ## The wakers that a run calls -/

def calledFrom (traffic : Traffic κ ω ρ) : List (Move κ ω ρ) → List ω
  | [] => []
  | move :: moves => (traffic.step move).1 ++ calledFrom (traffic.step move).2 moves

/-- The wakers that a run calls, in the order in which it calls them. -/
def called (moves : List (Move κ ω ρ)) : List ω :=
  calledFrom {} moves

private theorem calledFrom_append (moves later : List (Move κ ω ρ)) :
    traffic.calledFrom (moves ++ later) =
      traffic.calledFrom moves ++
        (moves.foldl (fun traffic move => (traffic.step move).2) traffic).calledFrom later := by
  induction moves generalizing traffic with
  | nil => rfl
  | cons first moves ih => simp [calledFrom, ih]

theorem called_append (moves later : List (Move κ ω ρ)) :
    called (moves ++ later) = called moves ++ (run moves).calledFrom later :=
  calledFrom_append {} moves later

theorem called_append_singleton (moves : List (Move κ ω ρ)) (move : Move κ ω ρ) :
    called (moves ++ [move]) = called moves ++ ((run moves).step move).1 := by
  rw [called_append, calledFrom, calledFrom, List.append_nil]

private theorem called_map (moves : List (Move κ ω ρ)) :
    called (moves.map (Move.map translate)) = (called moves).map translate := by
  induction moves using List.reverseRecOn with
  | nil => rfl
  | append_singleton moves move ih =>
      rw [List.map_append, List.map_singleton, called_append_singleton, called_append_singleton,
        ih, run_map, step_map, List.map_append]

end Traffic

/-! ## Who is woken -/

/-- The waker carries the number of the caller that is polled with it. -/
def Move.signed : Move κ ω ρ → Move κ (Nat × ω) ρ
  | .call key => .call key
  | .poll caller waker => .poll caller (caller, waker)
  | .finish caller result => .finish caller result
  | .leave caller => .leave caller

private theorem Move.map_signed (moves : List (Move κ ω ρ)) :
    (moves.map Move.signed).map (Move.map Prod.snd) = moves := by
  rw [List.map_map]
  refine (List.map_congr_left fun move _ => ?_).trans (List.map_id moves)
  cases move <;> rfl

/-- A caller is polled with wakers that carry its number. -/
def Move.Signs : Move κ (Nat × ω) ρ → Prop
  | .poll caller waker => waker.1 = caller
  | .call _ | .finish _ _ | .leave _ => True

theorem signs_signed (move : Move κ ω ρ) : move.signed.Signs := by
  cases move with
  | poll _ _ => rfl
  | call _ | finish _ _ | leave _ => trivial

theorem caller?_signed (move : Move κ ω ρ) : move.signed.caller? = move.caller? := by
  cases move <;> rfl

namespace Traffic

variable [DecidableEq κ] (moves : List (Move κ ω ρ))

/-- Who is woken in a run, and with which waker. -/
def wakeUps : List (Nat × ω) :=
  called (moves.map Move.signed)

/-- The wakers called are those of the wake-ups. -/
theorem map_snd_wakeUps : (wakeUps moves).map Prod.snd = called moves := by
  rw [wakeUps, ← called_map, Move.map_signed]

theorem wakeUps_append_singleton (move : Move κ ω ρ) :
    wakeUps (moves ++ [move]) =
      wakeUps moves ++ ((run (moves.map Move.signed)).step move.signed).1 := by
  rw [wakeUps, List.map_append, List.map_singleton, called_append_singleton, wakeUps]

private theorem map_run_signed : (run (moves.map Move.signed)).map Prod.snd = run moves := by
  rw [← run_map, Move.map_signed]

theorem callers_signed : (run (moves.map Move.signed)).callers = (run moves).callers := by
  rw [← map_run_signed moves]
  rfl

theorem history_signed : (run (moves.map Move.signed)).history = (run moves).history := by
  rw [← map_run_signed moves]
  rfl

theorem registry_signed :
    (run (moves.map Move.signed)).flight.registry = (run moves).flight.registry := by
  rw [← map_run_signed moves]
  rfl

theorem waiters_signed (key : κ) :
    (run (moves.map Move.signed)).flight.waiters key = (run moves).flight.waiters key := by
  rw [← map_run_signed moves]
  exact (waiters_map Prod.snd _ key).symm

end Traffic

end Flight

end Cohort
