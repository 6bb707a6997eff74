import Mathlib.Data.List.Basic
import Cohort.Limit

/-!
# A limit in use

All that can be done with a limit and its clones on one thread, in any order, by any
number of borrows. Clones share the pool, so it does not matter which one is used.
The record beside the limit is bookkeeping only: what a borrow knows of itself is its
ticket, and whether it was woken is known to nobody but the record.
-/

set_option autoImplicit false

namespace Cohort.Limit

variable {ω : Type}

inductive Phase (ω : Type) where
  /-- It was not polled yet. -/
  | idle
  /-- Its latest poll left it waiting and nobody has woken it since. It stands in the
  line, which it entered as number `entry` of all entries so far. -/
  | parked (ticket : UInt64) (waker : ω) (entry : Nat)
  /-- It was taken out of the line and woken, and neither polled nor dropped since. -/
  | woken (ticket : UInt64)
  | taken
  | dropped
deriving DecidableEq

namespace Phase

def ticket? : Phase ω → Option UInt64
  | .parked ticket _ _ | .woken ticket => some ticket
  | .idle | .taken | .dropped => none

def isParked : Phase ω → Bool
  | .parked _ _ _ => true
  | _ => false

def isWoken : Phase ω → Bool
  | .woken _ => true
  | _ => false

/-- It is complete or was dropped, so it is never polled again. -/
def isOver : Phase ω → Bool
  | .taken | .dropped => true
  | _ => false

theorem isOver_of_ticket? {phase : Phase ω} {ticket : UInt64}
    (held : phase.ticket? = some ticket) : phase.isOver = false := by
  cases phase with
  | parked _ _ _ | woken _ => rfl
  | idle | taken | dropped => cases held

/-- The entry under which a borrow is parked next, after `entries` entries. -/
def nextEntry (entries : Nat) : Phase ω → Nat
  | .parked _ _ entry => entry
  | _ => entries

def wake (front : UInt64) : Phase ω → Phase ω
  | .parked ticket waker entry =>
      if ticket = front then .woken ticket else .parked ticket waker entry
  | other => other

end Phase

/-- A borrow, whose token is given back by a guard if it is guarded. -/
structure Borrow (ω : Type) where
  guarded : Bool
  phase : Phase ω := .idle
deriving DecidableEq

inductive Use (ω : Type) where
  /-- Begins a borrow. Nothing happens until it is polled. -/
  | borrow (guarded : Bool)
  | poll (number : Nat) (waker : ω)
  | drop (number : Nat)
  | tryBorrow (guarded : Bool)
  | giveBack
  /-- Drops a guard. That the pool is full already goes unnoticed. -/
  | release

structure Usage (ω : Type) where
  limit : Limit ω
  /-- The borrows, in the order in which they were begun. -/
  borrows : List (Borrow ω) := []
  guards : Nat := 0
  /-- How many tickets were handed out. -/
  drawn : Nat := 0
  /-- How often anybody has entered the line. -/
  entries : Nat := 0
deriving DecidableEq

namespace Usage

def phases (usage : Usage ω) : List (Phase ω) :=
  usage.borrows.map Borrow.phase

/-- How many borrows were woken and neither polled nor dropped since. -/
def wokenCount (usage : Usage ω) : Nat :=
  usage.phases.countP Phase.isWoken

def guardIf (usage : Usage ω) (guarded : Bool) : Usage ω :=
  if guarded then { usage with guards := usage.guards + 1 } else usage

def setPhase (usage : Usage ω) (number : Nat) (borrow : Borrow ω) (phase : Phase ω) : Usage ω :=
  { usage with borrows := usage.borrows.set number { borrow with phase } }

/-- The limit has changed and may have handed over a waker: the one of whoever stood in
front of the line. -/
def handOver (usage : Usage ω) : Option ω × Limit ω → Option ω × Usage ω
  | (none, limit) => (none, { usage with limit })
  | (some waker, limit) =>
      let borrows :=
        match usage.limit.line.waiters with
        | [] => usage.borrows
        | front :: _ =>
            usage.borrows.map (fun borrow => { borrow with phase := borrow.phase.wake front.ticket })
      (some waker, { usage with limit, borrows })

def poll (usage : Usage ω) (number : Nat) (borrow : Borrow ω) (waker : ω) : Usage ω :=
  match usage.limit.poll borrow.phase.ticket? waker with
  | (.taken, limit) =>
      ({ usage with limit }.setPhase number borrow .taken).guardIf borrow.guarded
  | (.parked ticket, limit) =>
      { usage with
        limit
        drawn := if borrow.phase.ticket?.isSome then usage.drawn else usage.drawn + 1
        entries := if borrow.phase.isParked then usage.entries else usage.entries + 1
      }.setPhase number borrow (.parked ticket waker (borrow.phase.nextEntry usage.entries))

def drop (usage : Usage ω) (number : Nat) (borrow : Borrow ω) : Option ω × Usage ω :=
  let dropped := usage.setPhase number borrow .dropped
  match borrow.phase.ticket? with
  | none => (none, dropped)
  | some ticket => dropped.handOver (usage.limit.cancel ticket)

def putBack (usage : Usage ω) : Option ω × Usage ω :=
  match usage.limit.putBack with
  | .error _ => (none, usage)
  | .ok change => usage.handOver change

/-- Carries out one use and hands over the waker to be called, if any. A borrow that does
not exist or is over is left alone, and so is a guard if there is none. -/
def step (usage : Usage ω) : Use ω → Option ω × Usage ω
  | .borrow guarded => (none, { usage with borrows := usage.borrows ++ [{ guarded }] })
  | .poll number waker =>
      match usage.borrows[number]? with
      | none => (none, usage)
      | some borrow =>
          if borrow.phase.isOver then (none, usage) else (none, usage.poll number borrow waker)
  | .drop number =>
      match usage.borrows[number]? with
      | none => (none, usage)
      | some borrow => if borrow.phase.isOver then (none, usage) else usage.drop number borrow
  | .tryBorrow guarded =>
      match usage.limit.take? with
      | none => (none, usage)
      | some limit => (none, { usage with limit }.guardIf guarded)
  | .giveBack => usage.putBack
  | .release =>
      match usage.guards with
      | 0 => (none, usage)
      | guards + 1 => { usage with guards }.putBack

def run (limit : Limit ω) (uses : List (Use ω)) : Usage ω :=
  uses.foldl (fun usage use => (usage.step use).2) { limit }

/-! ## The parts of the record -/

@[simp]
theorem drawn_setPhase (usage : Usage ω) (number : Nat) (borrow : Borrow ω) (phase : Phase ω) :
    (usage.setPhase number borrow phase).drawn = usage.drawn := rfl

@[simp]
theorem phases_setPhase (usage : Usage ω) (number : Nat) (borrow : Borrow ω) (phase : Phase ω) :
    (usage.setPhase number borrow phase).phases = usage.phases.set number phase := by
  simp [setPhase, phases, List.map_set]

@[simp]
theorem limit_guardIf (usage : Usage ω) (guarded : Bool) :
    (usage.guardIf guarded).limit = usage.limit := by
  cases guarded <;> rfl

@[simp]
theorem drawn_guardIf (usage : Usage ω) (guarded : Bool) :
    (usage.guardIf guarded).drawn = usage.drawn := by
  cases guarded <;> rfl

@[simp]
theorem phases_guardIf (usage : Usage ω) (guarded : Bool) :
    (usage.guardIf guarded).phases = usage.phases := by
  cases guarded <;> rfl

@[simp]
theorem limit_handOver (usage : Usage ω) (change : Option ω × Limit ω) :
    (usage.handOver change).2.limit = change.2 := by
  obtain ⟨woken, limit⟩ := change
  cases woken <;> rfl

@[simp]
theorem drawn_handOver (usage : Usage ω) (change : Option ω × Limit ω) :
    (usage.handOver change).2.drawn = usage.drawn := by
  obtain ⟨woken, limit⟩ := change
  cases woken <;> rfl

@[simp]
theorem drawn_putBack (usage : Usage ω) : usage.putBack.2.drawn = usage.drawn := by
  unfold putBack
  split
  · rfl
  · exact drawn_handOver usage _

theorem run_append_singleton (limit : Limit ω) (uses : List (Use ω)) (use : Use ω) :
    run limit (uses ++ [use]) = ((run limit uses).step use).2 := by
  simp [run]

end Usage

end Cohort.Limit
