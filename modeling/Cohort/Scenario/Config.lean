import Cohort.Failure

/-!
# Load

Which scenarios there are, and the shape of the load that they put on a primitive.
-/

set_option autoImplicit false

namespace Cohort

/-- Which primitive to put under load. -/
inductive Scenario where
  | flight
  | cache
  | limit
  | all
deriving DecidableEq

namespace Scenario

def name : Scenario → String
  | .flight => "flight"
  | .cache => "cache"
  | .limit => "limit"
  | .all => "all"

/-- The scenarios that a selection stands for, in the order in which they run. -/
def expand : Scenario → List Scenario
  | .flight => [.flight]
  | .cache => [.cache]
  | .limit => [.limit]
  | .all => [.flight, .cache, .limit]

/-- The selection of a name. -/
def ofName? (name : String) : Option Scenario :=
  [flight, cache, limit, all].find? (fun scenario => scenario.name == name)

end Scenario

structure Config where
  /-- Callers at once for each key; in all for the limit scenario. -/
  callers : Nat := 64
  keys : Nat := 4
  /-- The tokens of the limit scenario. -/
  capacity : Nat := 8
  /-- How long a unit of work takes, in milliseconds. -/
  work : Nat := 10
  rounds : Nat := 3
  /-- A connection fails to close if its number is divisible by this; none if zero. -/
  failCloseEvery : Nat := 0
  /-- Whether every dial of the first cache round is refused. -/
  flakyDials : Bool := false
deriving DecidableEq

namespace Config

/-- The counts that must not be zero, in the order in which they are checked. -/
def counts (config : Config) : List (String × Nat) :=
  [("callers", config.callers), ("keys", config.keys),
    ("capacity", config.capacity), ("rounds", config.rounds)]

def validate (config : Config) : Except LoadError Unit :=
  match config.counts.find? (fun count => count.2 == 0) with
  | some (name, _) => .error (.invalidConfig (name ++ " must be at least 1"))
  | none => .ok ()

end Config

/-- A product of two counts, which has to fit in 64 bits. -/
def checkedProduct (left right : Nat) : Except Fault Nat :=
  if left * right < UInt64.size then .ok (left * right) else .error .productOverflow

end Cohort
