import Cohort.WaitLine

/-!
# Limits

A counting limit hands out up to `capacity` interchangeable tokens. It does not
know who holds a token. A returned token is not reserved for the borrower that
is woken for it: whoever polls next may take it.
-/

set_option autoImplicit false

namespace Cohort

/-- A token was given back while none was out. -/
inductive ReturnError where
  | poolFull
deriving DecidableEq

def ReturnError.message : ReturnError → String
  | .poolFull =>
      "discarding limited token, resource pool is full, someone returned multiple times"

/-- A pool of tokens and the borrowers parked for one. -/
structure Limit (ω : Type) where
  capacity : Nat
  available : Nat
  line : WaitLine ω := {}
deriving DecidableEq

/-- What polling a borrow comes to. -/
inductive Claim where
  | taken
  | parked (ticket : UInt64)
deriving DecidableEq

namespace Limit

variable {ω : Type}

/-- A full pool. No limit has capacity zero: nothing could ever be borrowed. -/
def ofCapacity? (capacity : Nat) : Option (Limit ω) :=
  if capacity = 0 then none else some { capacity, available := capacity }

def inUse (limit : Limit ω) : Nat :=
  limit.capacity - limit.available

/-- Takes a token if there is one. Parked borrowers have no precedence. -/
def take? (limit : Limit ω) : Option (Limit ω) :=
  match limit.available with
  | 0 => none
  | available + 1 => some { limit with available }

/-- Wakes the borrower in front, which leaves the line. -/
def wakeNext (limit : Limit ω) : Option ω × Limit ω :=
  let (woken, line) := limit.line.shift
  (woken, { limit with line })

/-- Puts a token back and wakes the borrower in front. A full pool refuses. -/
def putBack (limit : Limit ω) : Except ReturnError (Option ω × Limit ω) :=
  if limit.capacity ≤ limit.available then .error .poolFull
  else .ok { limit with available := limit.available + 1 }.wakeNext

/-- Polls a borrow that holds `ticket` from an earlier poll, if any. It completes
exactly when a token is available, wherever it stands in the line. -/
def poll (limit : Limit ω) (ticket : Option UInt64) (waker : ω) : Claim × Limit ω :=
  match limit.take? with
  | some limit =>
      match ticket with
      | none => (.taken, limit)
      | some ticket => (.taken, { limit with line := limit.line.leave ticket })
  | none =>
      let (ticket, line) := limit.line.park ticket waker
      (.parked ticket, { limit with line })

/-- Drops a borrow parked under `ticket`. If it has been woken meanwhile it never
took the token it was woken for, so the wake-up goes to the next in line. -/
def cancel (limit : Limit ω) (ticket : UInt64) : Option ω × Limit ω :=
  if limit.line.holds ticket then
    (none, { limit with line := limit.line.leave ticket })
  else limit.wakeNext

end Limit

end Cohort
