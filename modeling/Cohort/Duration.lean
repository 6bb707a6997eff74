import Cohort.Fault

/-!
# Durations

Spans of time with a resolution of one nanosecond, and their text: the exact value
in the largest unit of which there is at least one.
-/

set_option autoImplicit false

namespace Cohort

structure Duration where
  nanoseconds : Nat := 0
deriving DecidableEq

namespace Duration

/-- The sum of seconds and nanoseconds, which may be more than a second. Whole seconds
have to fit in 64 bits. -/
def ofParts (seconds nanoseconds : Nat) : Except Fault Duration :=
  if seconds + nanoseconds / 1000000000 < UInt64.size then
    .ok ⟨seconds * 1000000000 + nanoseconds⟩
  else .error .durationOverflow

def ofMilliseconds (milliseconds : Nat) : Duration :=
  ⟨milliseconds * 1000000⟩

/-- The digits behind the point of `part` units in the last of `width` places,
without the zeros at the end. -/
def fraction (width part : Nat) : List Char :=
  let digits := Nat.toDigits 10 part
  let padded := List.replicate (width - digits.length) '0' ++ digits
  (padded.reverse.dropWhile (· == '0')).reverse

/-- `count` in units of `10 ^ width`, with a point only if it is needed. -/
def decimal (width count : Nat) : String :=
  let unit := Nat.pow 10 width
  let whole := toString (count / unit)
  match fraction width (count % unit) with
  | [] => whole
  | digits => whole ++ "." ++ String.ofList digits

def text (duration : Duration) : String :=
  let count := duration.nanoseconds
  if 1000000000 ≤ count then decimal 9 count ++ "s"
  else if 1000000 ≤ count then decimal 6 count ++ "ms"
  else if 1000 ≤ count then decimal 3 count ++ "µs"
  else toString count ++ "ns"

end Duration

end Cohort
