/-!
# Progress

A counter of finished rounds. A hidden one knows no total.
-/

set_option autoImplicit false

namespace Cohort

structure Progress where
  total : Option UInt64 := none
  /-- Rounds counted so far, modulo 2^64. -/
  position : UInt64 := 0
  /-- The scenario under way. -/
  scenario : String := ""

namespace Progress

def hidden : Progress := {}

def ofTotal (total : UInt64) : Progress := { total := some total }

def setScenario (progress : Progress) (scenario : String) : Progress :=
  { progress with scenario }

def roundDone (progress : Progress) : Progress :=
  { progress with position := progress.position + 1 }

/-- Moves to the total, if there is one. -/
def finish (progress : Progress) : Progress :=
  { progress with position := progress.total.getD progress.position, scenario := "done" }

end Progress

end Cohort
