/-!
# Rotas

Callers that run side by side on a virtual clock. The clock stands still while a
caller is ready to be polled, and then moves to the next time at which one wakes up.
Which of the ready callers is polled next is left to a schedule.
-/

set_option autoImplicit false

namespace Cohort

/-- What polling a caller comes to. -/
inductive Turn where
  | done
  /-- It waits to be woken by another caller. -/
  | parked
  /-- It is ready again after so many milliseconds. -/
  | asleep (milliseconds : Nat)
deriving DecidableEq

/-- No caller sleeps for longer than thirty years of 365 days, given in milliseconds. -/
def longestSleep : Nat := 946080000000

structure Rota (σ : Type) where
  /-- The time in milliseconds. -/
  now : Nat
  /-- What the callers share. -/
  state : σ
  /-- The callers to be polled, each at most once. -/
  ready : List Nat
  /-- The callers that sleep, each with the time at which it wakes up. -/
  asleep : List (Nat × Nat) := []

/-- How a caller behaves when polled: what that comes to, and whom it wakes. -/
abbrev Behavior (σ : Type) := Nat → σ → Turn × List Nat × σ

/-- Picks one of the ready callers at each step, by a number taken modulo how many
there are. Every order in which callers can be polled is that of a schedule. -/
abbrev Schedule := Nat → Nat

namespace Rota

variable {σ : Type}

def enqueue (rota : Rota σ) (caller : Nat) : Rota σ :=
  if caller ∈ rota.ready then rota else { rota with ready := rota.ready ++ [caller] }

/-- Polls a caller. -/
def poll (behavior : Behavior σ) (caller : Nat) (rota : Rota σ) : Rota σ :=
  let (turn, woken, state) := behavior caller rota.state
  let rota := { rota with state, ready := rota.ready.erase caller }
  let rota := woken.foldl enqueue rota
  match turn with
  | .done | .parked => rota
  | .asleep milliseconds =>
      { rota with asleep := rota.asleep ++ [(rota.now + min milliseconds longestSleep, caller)] }

/-- Moves the clock to the first time at which a caller wakes up. -/
def tick (rota : Rota σ) : Rota σ :=
  match (rota.asleep.map Prod.fst).min? with
  | none => rota
  | some due =>
      let (awake, asleep) := rota.asleep.partition (fun sleeper => decide (sleeper.1 ≤ due))
      { rota with now := due, ready := rota.ready ++ awake.map Prod.snd, asleep }

/-- Polls and ticks until every caller is done or waits in vain, or the budget of
polls and ticks is spent. -/
def run (behavior : Behavior σ) (schedule : Schedule) : Nat → Nat → Rota σ → Rota σ
  | 0, _, rota => rota
  | budget + 1, step, rota =>
      match rota.ready with
      | [] => if rota.asleep.isEmpty then rota else run behavior schedule budget step rota.tick
      | first :: rest =>
          let caller := ((first :: rest)[schedule step % (rest.length + 1)]?).getD first
          run behavior schedule budget (step + 1) (rota.poll behavior caller)

end Rota

end Cohort
