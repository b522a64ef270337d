/-!
# Durations

A span of time in nanoseconds, and its text: the largest unit that leaves a whole part, with as
many decimals as the span needs.
-/

namespace SearchOperator

structure Duration where
  nanoseconds : Nat
deriving DecidableEq, Repr

namespace Duration

def ofSeconds (n : Nat) : Duration := ⟨n * 1000000000⟩

def ofMilliseconds (n : Nat) : Duration := ⟨n * 1000000⟩

/-- The decimals of `rest` out of `scale`, a power of ten, without zeros at the end. -/
def decimals (scale rest : Nat) : List Char :=
  let digits := (Nat.toDigits 10 (scale + rest)).drop 1
  (digits.reverse.dropWhile (· == '0')).reverse

/-- A count of units of `scale` nanoseconds each. -/
def inUnit (d : Duration) (scale : Nat) (unit : String) : String :=
  match decimals scale (d.nanoseconds % scale) with
  | [] => toString (d.nanoseconds / scale) ++ unit
  | digits => toString (d.nanoseconds / scale) ++ "." ++ String.ofList digits ++ unit

/-- The text of a span in seconds, milliseconds, microseconds or nanoseconds. -/
def text (d : Duration) : String :=
  if 1000000000 ≤ d.nanoseconds then d.inUnit 1000000000 "s"
  else if 1000000 ≤ d.nanoseconds then d.inUnit 1000000 "ms"
  else if 1000 ≤ d.nanoseconds then d.inUnit 1000 "µs"
  else d.inUnit 1 "ns"

end Duration

end SearchOperator
