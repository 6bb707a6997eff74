import Cohort.Limit
import Cohort.Manager

/-!
# Failures

Every error of the library as a value of one type, and batches of them. A batch is
a failure too, so batches nest.
-/

set_option autoImplicit false

namespace Cohort

/-- A connection could not be made. -/
structure DialError where
  address : String
  reason : String
deriving DecidableEq

def DialError.message (error : DialError) : String :=
  "dial " ++ error.address ++ " failed: " ++ error.reason

/-- What goes wrong while primitives are put under load. -/
inductive LoadError where
  | violated (scenario detail : String)
  | closeFailed (connection : Nat) (address : String)
  | alreadyClosed (connection : Nat) (address : String)
  | invalidConfig (detail : String)
deriving DecidableEq

def LoadError.message : LoadError → String
  | .violated scenario detail => scenario ++ " scenario violated a property: " ++ detail
  | .closeFailed connection address =>
      "connection " ++ toString connection ++ " to " ++ address ++ " failed to close"
  | .alreadyClosed connection address =>
      "connection " ++ toString connection ++ " to " ++ address ++ " is already closed"
  | .invalidConfig detail => "Invalid configuration: " ++ detail

inductive Failure where
  | text (message : String)
  | io (message : String)
  | dial (error : DialError)
  | limit (error : ReturnError)
  | manager (error : ManagerError DialError)
  | load (error : LoadError)
  | batch (failures : List Failure)

instance : Inhabited Failure := ⟨.batch []⟩

namespace Failure

mutual

/-- A batch reads as the messages of its failures, one after the other on lines of
their own. A batch of none therefore reads as one empty line among others. -/
def message : Failure → String
  | .text message => message
  | .io message => message
  | .dial error => error.message
  | .limit error => error.message
  | .manager error => error.message DialError.message
  | .load error => error.message
  | .batch failures => String.intercalate "\n" (messages failures)

def messages : List Failure → List String
  | [] => []
  | failure :: rest => failure.message :: messages rest

end

/-- The failure that caused this one, if it carries one. -/
def source? : Failure → Option Failure
  | .manager (.create cause) => some (.dial cause)
  | _ => none

end Failure

/-- Independent failures collected into one. -/
structure Batch where
  failures : List Failure := []

namespace Batch

def isEmpty (batch : Batch) : Bool :=
  batch.failures.isEmpty

def size (batch : Batch) : Nat :=
  batch.failures.length

def add (batch : Batch) (failure : Failure) : Batch :=
  ⟨batch.failures ++ [failure]⟩

def extend (batch : Batch) (failures : List Failure) : Batch :=
  ⟨batch.failures ++ failures⟩

def message (batch : Batch) : String :=
  (Failure.batch batch.failures).message

/-- An empty batch is no error. -/
def toExcept (batch : Batch) : Except Batch Unit :=
  if batch.isEmpty then .ok () else .error batch

end Batch

end Cohort
