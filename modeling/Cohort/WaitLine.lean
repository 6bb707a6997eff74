/-!
# Waiting lines

A line of parked waiters. Each waiter holds a ticket, by which it can be found
again, and the waker to call for it. Tickets are 64-bit numbers given out in turn and
wrap around, so distinctness of tickets holds only while fewer than 2^64 were drawn.
-/

set_option autoImplicit false

namespace Cohort

/-- A place in a waiting line. -/
structure Waiter (ω : Type) where
  ticket : UInt64
  waker : ω
deriving DecidableEq

/-- Parked waiters, the one that has waited longest in front. -/
structure WaitLine (ω : Type) where
  /-- How many tickets were drawn so far. Nothing but the next ticket depends on it. -/
  drawn : Nat := 0
  waiters : List (Waiter ω) := []
deriving DecidableEq

namespace WaitLine

variable {ω : Type}

instance : Inhabited (WaitLine ω) := ⟨{}⟩

def empty : WaitLine ω := {}

/-- The ticket that the next newcomer gets: a counter that wraps around after 2^64 draws. -/
def next (line : WaitLine ω) : UInt64 :=
  .ofNat line.drawn

def tickets (line : WaitLine ω) : List UInt64 :=
  line.waiters.map Waiter.ticket

/-- Whether the holder of `ticket` still stands in the line. -/
def holds (line : WaitLine ω) (ticket : UInt64) : Bool :=
  line.waiters.any (fun waiter => waiter.ticket == ticket)

/-- The ticket for a caller, who may hold one already. Only a newcomer draws one. -/
def draw (line : WaitLine ω) : Option UInt64 → UInt64 × WaitLine ω
  | some ticket => (ticket, line)
  | none => (line.next, { line with drawn := line.drawn + 1 })

/-- Replaces the waker of the first waiter with `ticket`. -/
def rewake (ticket : UInt64) (waker : ω) : List (Waiter ω) → List (Waiter ω)
  | [] => []
  | waiter :: rest =>
      if waiter.ticket = ticket then { waiter with waker := waker } :: rest
      else waiter :: rewake ticket waker rest

/-- Parks a caller. One that still stands in the line keeps its place and only
renews its waker; any other goes to the end, under its own ticket if it has one. -/
def park (line : WaitLine ω) (held : Option UInt64) (waker : ω) : UInt64 × WaitLine ω :=
  let (ticket, line) := line.draw held
  if line.holds ticket then
    (ticket, { line with waiters := rewake ticket waker line.waiters })
  else
    (ticket, { line with waiters := line.waiters ++ [⟨ticket, waker⟩] })

/-- Takes the holder of `ticket` out of the line, if it still stands there. -/
def leave (line : WaitLine ω) (ticket : UInt64) : WaitLine ω :=
  { line with waiters := line.waiters.filter (fun waiter => decide (waiter.ticket ≠ ticket)) }

/-- Takes out the front waiter and hands over its waker. -/
def shift (line : WaitLine ω) : Option ω × WaitLine ω :=
  match line.waiters with
  | [] => (none, line)
  | waiter :: rest => (some waiter.waker, { line with waiters := rest })

/-- Empties the line and hands over every waker, front first. -/
def drain (line : WaitLine ω) : List ω × WaitLine ω :=
  (line.waiters.map Waiter.waker, { line with waiters := [] })

/-! ## The waiters of each operation -/

theorem holds_iff {line : WaitLine ω} {ticket : UInt64} :
    line.holds ticket = true ↔ ticket ∈ line.tickets := by
  simp [holds, tickets]

@[simp]
theorem map_ticket_rewake (ticket : UInt64) (waker : ω) (waiters : List (Waiter ω)) :
    (rewake ticket waker waiters).map Waiter.ticket = waiters.map Waiter.ticket := by
  induction waiters with
  | nil => rfl
  | cons waiter rest ih =>
      simp only [rewake]
      split
      · rfl
      · simp [ih]

/-- Polling again keeps the place of a waiter, and everybody else's. -/
theorem tickets_park_of_holds {line : WaitLine ω} {ticket : UInt64}
    (standing : line.holds ticket = true) (waker : ω) :
    (line.park (some ticket) waker).2.tickets = line.tickets := by
  simp [park, draw, standing, tickets]

/-- Whoever does not stand in the line is parked behind all who do. -/
theorem tickets_park_of_not_holds {line : WaitLine ω} {ticket : UInt64}
    (absent : line.holds ticket = false) (waker : ω) :
    (line.park (some ticket) waker).2.tickets = line.tickets ++ [ticket] := by
  simp [park, draw, absent, tickets]

@[simp]
theorem tickets_leave (line : WaitLine ω) (ticket : UInt64) :
    (line.leave ticket).tickets = line.tickets.filter (fun other => decide (other ≠ ticket)) := by
  simp [leave, tickets, List.filter_map, Function.comp_def]

@[simp]
theorem tickets_shift (line : WaitLine ω) : line.shift.2.tickets = line.tickets.tail := by
  cases waiters : line.waiters <;> simp [shift, tickets, waiters]

@[simp]
theorem tickets_drain (line : WaitLine ω) : line.drain.2.tickets = [] := rfl

end WaitLine

end Cohort
