/-!
# Gates

A gate is opened once and stays open. Until then it holds a place for everyone
who waits at it; a place outlives whoever took it.
-/

set_option autoImplicit false

namespace Cohort

structure Gate (ω : Type) where
  isOpen : Bool := false
  /-- The wakers of those who wait, in the order in which they came. -/
  places : List ω := []

/-- What polling someone at a gate comes to. -/
inductive Passage where
  | passed
  | parked (place : Nat)
deriving DecidableEq

namespace Gate

variable {ω : Type}

instance : Inhabited (Gate ω) := ⟨{}⟩

/-- Polls someone who holds `place` from an earlier poll, if any. -/
def poll (gate : Gate ω) (place : Option Nat) (waker : ω) : Passage × Gate ω :=
  if gate.isOpen then (.passed, gate)
  else
    match place with
    | some place => (.parked place, { gate with places := gate.places.set place waker })
    | none => (.parked gate.places.length, { gate with places := gate.places ++ [waker] })

/-- Opens the gate and hands over the wakers of all places, which are given up. -/
def unlock (gate : Gate ω) : List ω × Gate ω :=
  (gate.places, { isOpen := true, places := [] })

end Gate

end Cohort
