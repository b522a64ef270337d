import SearchOperator.Decimal.Binary64

/-!
# Shortest decimals

The text of a binary64 number is the decimal with the fewest digits that reads back as the
number, and the nearest of those to it. Numbers from 10^-5 to below 10^16 are written in positions
and always with a fraction, all others with a signed exponent.
-/

namespace SearchOperator.Binary64

/-- Digits and the power of ten of the first of them: `0.d₁d₂… · 10^point`. -/
structure Digits where
  digits : List Char
  point : Int
deriving DecidableEq, Repr

/-- Where a magnitude lies and what reads back as it: four times the number and the bounds of the
numbers that round to it, over one denominator. -/
structure Interval where
  low : Nat
  value : Nat
  high : Nat
  denominator : Nat
  closed : Bool
deriving Repr

/-- The numbers that round to a magnitude. Below a power of two the neighbours are closer. -/
def interval (x : Binary64) : Interval :=
  let unit := Nat.pow 2 x.shift
  let value := 4 * x.significand * unit
  let gap := if x.significand == 0x10000000000000 && 0 < x.shift then unit else 2 * unit
  ⟨value - gap, value, value + 2 * unit, 4 * Nat.pow 2 1074, x.significand % 2 == 0⟩

/-- Whether a multiple of a power of ten lies in the interval. -/
def Interval.contains (i : Interval) (multiple gridNum gridDen : Nat) : Bool :=
  let scaled := multiple * gridNum * i.denominator
  let low := i.low * gridDen
  let high := i.high * gridDen
  (low < scaled && scaled < high) || (i.closed && (scaled == low || scaled == high))

/-- The power of ten just above a positive quotient: the quotient is at least a tenth of it. -/
def decimalPoint (num den : Nat) : Int :=
  if den ≤ num then (Nat.toDigits 10 (num / den)).length
  else 1 - ((Nat.toDigits 10 ((den - 1) / num)).length : Int)

/-- The nearest of the neighbours of a value on a decimal grid that reads back, if any does. A tie
goes to the even one. -/
def Interval.neighbour? (i : Interval) (gridNum gridDen : Nat) : Option Nat :=
  let num := i.value * gridDen
  let den := i.denominator * gridNum
  let below := num / den
  let twice := 2 * (num % den)
  let belowFits := 0 < below && i.contains below gridNum gridDen
  let aboveFits := i.contains (below + 1) gridNum gridDen
  if belowFits && (!aboveFits || twice < den || (twice == den && below % 2 == 0)) then some below
  else if aboveFits then some (below + 1)
  else none

/-- Search the grids from coarse to fine; seventeen digits always suffice. -/
def Interval.search (i : Interval) (point : Int) : Nat → Nat → Nat × Int
  | 0, count => (i.value / i.denominator, point - count)
  | tries + 1, count =>
    let exponent := point - count
    let gridNum := Nat.pow 10 exponent.toNat
    let gridDen := Nat.pow 10 (-exponent).toNat
    match i.neighbour? gridNum gridDen with
    | some multiple => (multiple, exponent)
    | none => Interval.search i point tries (count + 1)

def shortest (x : Binary64) : Digits :=
  let i := x.interval
  let (multiple, exponent) := i.search (decimalPoint i.value i.denominator) 18 1
  let digits := Nat.toDigits 10 multiple
  let kept := (digits.reverse.dropWhile (· == '0')).reverse
  ⟨kept, exponent + digits.length⟩

/-- Digits as positional text or with an exponent. -/
def Digits.text (d : Digits) : String :=
  let count : Int := d.digits.length
  let digits := String.ofList d.digits
  if 0 < d.point && d.point ≤ 16 then
    if count ≤ d.point then
      digits ++ String.ofList (List.replicate (d.point - count).toNat '0') ++ ".0"
    else
      String.ofList (d.digits.take d.point.toNat) ++ "." ++
        String.ofList (d.digits.drop d.point.toNat)
  else if -5 < d.point && d.point ≤ 0 then
    "0." ++ String.ofList (List.replicate (-d.point).toNat '0') ++ digits
  else
    let exponent := d.point - 1
    let sign := if exponent < 0 then "e-" else "e+"
    let fraction := match d.digits with
      | first :: second :: rest => String.ofList (first :: '.' :: second :: rest)
      | _ => digits
    fraction ++ sign ++ toString exponent.natAbs

def text (x : Binary64) : String :=
  let sign := if x.negative then "-" else ""
  if x.isZero then sign ++ "0.0" else sign ++ x.shortest.text

end SearchOperator.Binary64
