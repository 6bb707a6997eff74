import Cohort.Data

/-!
# Notices

What flights and managers remark on their own working. Nobody has to listen.
-/

set_option autoImplicit false

namespace Cohort

/-- How closely one has to look to care for a remark. -/
inductive Level where
  | trace
  | debug
  | info
deriving DecidableEq

namespace Level

def name : Level → String
  | .trace => "TRACE"
  | .debug => "DEBUG"
  | .info => "INFO"

/-- How often more output has to be asked for before remarks of the level are shown. -/
def verbosity : Level → Nat
  | .info => 1
  | .debug => 2
  | .trace => 3

end Level

/-- A remark of a flight or a manager on its own working. -/
inductive Notice where
  | joiningCall
  | startingCall
  | startingOver
  | abandoningCall
  | createdResource (key : String)
  | injectingResource (key : String)
  | managerClosed (closed failed : Nat)
deriving DecidableEq

namespace Notice

def level : Notice → Level
  | .joiningCall | .startingCall => .trace
  | _ => .debug

def message : Notice → String
  | .joiningCall => "joining in-flight call"
  | .startingCall => "starting call"
  | .startingOver => "in-flight call was abandoned, starting over"
  | .abandoningCall => "leader dropped before finishing, abandoning call"
  | .createdResource _ => "created resource"
  | .injectingResource _ => "injecting resource"
  | .managerClosed _ _ => "resource manager closed"

/-- What the remark is about, by name. -/
def fields : Notice → List (String × Data)
  | .createdResource key | .injectingResource key => [("key", .text key)]
  | .managerClosed closed failed => [("closed", .int closed), ("failed", .int failed)]
  | _ => []

end Notice

end Cohort
