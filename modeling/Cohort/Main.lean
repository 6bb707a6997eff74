import Cohort.CommandLine.Command

/-!
# The program

Scenarios run on a virtual clock, on one thread.
-/

set_option autoImplicit false

def main (arguments : List String) : IO UInt32 := do
  let output := Cohort.Command.run arguments 1
  for line in output.out do
    IO.println line.render
  for line in output.err do
    IO.eprintln line
  return output.code.toUInt32
