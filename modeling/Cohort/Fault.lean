/-!
# Faults

A fault ends a caller on the spot and unwinds whatever it holds. Unlike an error
it is never handed to anyone as a result.
-/

set_option autoImplicit false

namespace Cohort

inductive Fault where
  /-- A script asked for it. -/
  | raised (text : String)
  /-- A limit of capacity zero was asked for. -/
  | emptyLimit
  /-- A script or a command names a limit that was never made. -/
  | unknownLimit (name : String)
  /-- A product does not fit in 64 bits. -/
  | productOverflow
  /-- A span of time has more seconds than 64 bits can count. -/
  | durationOverflow
  /-- A list of callers would not fit in memory at all. -/
  | callersOverflow
  /-- A caller would start over without end: a call in flight had been abandoned. -/
  | endlessRestart
deriving DecidableEq

def Fault.message : Fault → String
  | .raised text => text
  | .emptyLimit => "Limit must have a capacity of at least one token"
  | .unknownLimit name => "driver: no limit " ++ name
  | .productOverflow => "attempt to multiply with overflow"
  | .durationOverflow => "overflow in Duration::new"
  | .callersOverflow => "capacity overflow"
  | .endlessRestart => "an abandoned call is still in flight"

end Cohort
