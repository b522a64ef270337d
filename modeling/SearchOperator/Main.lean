import SearchOperator.CommandLine.Operator

/-!
# The operator as a program
-/

open SearchOperator.CommandLine

/-- Run the operator on the words it was called with. -/
def main (words : List String) : IO UInt32 := do
  let given ← variablesRead.filterMapM fun name => do
    return (← IO.getEnv name).map fun value => (name, value)
  let outcome := run given words
  (← IO.getStdout).putStr outcome.output
  (← IO.getStderr).putStr outcome.errors
  return UInt32.ofNat outcome.exitCode
