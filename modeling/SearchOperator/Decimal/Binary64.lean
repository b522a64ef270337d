/-!
# Finite binary floating-point numbers

A number of the format binary64 that is neither infinite nor undefined, kept as its sign and the
63 bits below the sign. These bits order the magnitudes, and the arithmetic here is exact
arithmetic on naturals followed by one rounding to nearest, ties to even.
-/

namespace SearchOperator

/-- A finite binary64 number. -/
structure Binary64 where
  negative : Bool
  magnitude : Nat
  finite : magnitude < 2047 * 0x10000000000000
deriving DecidableEq, Repr

namespace Binary64

def zero : Binary64 := ⟨false, 0, by decide⟩

/-- The whole number whose multiple of a power of two the magnitude is. -/
def significand (x : Binary64) : Nat :=
  if x.magnitude < 0x10000000000000 then x.magnitude else 0x10000000000000 + x.magnitude % 0x10000000000000

/-- The power of two beside the significand, raised by 1074 so that it is a natural number. -/
def shift (x : Binary64) : Nat :=
  if x.magnitude < 0x10000000000000 then 0 else x.magnitude / 0x10000000000000 - 1

def isZero (x : Binary64) : Bool := x.magnitude == 0

/-- Equality of values: the two zeros are equal. -/
def same (x y : Binary64) : Bool :=
  x.magnitude == y.magnitude && (x.negative == y.negative || x.magnitude == 0)

def neg (x : Binary64) : Binary64 := { x with negative := !x.negative }

/-- A quotient rounded to the nearest whole number, ties to even. -/
def roundQuotient (num den : Nat) : Nat :=
  let q := num / den
  let r := num % den
  if den < 2 * r || (2 * r == den && q % 2 == 1) then q + 1 else q

/-- The bits of the magnitude nearest to a positive quotient, without a bound above. The power of
two is chosen so that 53 bits stand before the point, or as many as the format still has. -/
def nearestMagnitude (num den : Nat) : Nat :=
  let scaled := num * Nat.pow 2 1074
  let size := Nat.log2 (scaled / den)
  let shift := size - 52
  roundQuotient scaled (den * Nat.pow 2 shift) + shift * 0x10000000000000

/-- The number nearest to a quotient of naturals, none if that is beyond the format. -/
def ofQuotient? (num den : Nat) : Option Binary64 :=
  let bits := nearestMagnitude num den
  if h : bits < 2047 * 0x10000000000000 then some ⟨false, bits, h⟩ else none

def ofNat? (n : Nat) : Option Binary64 := ofQuotient? n 1

/-- The magnitude as a quotient of naturals. -/
def quotient (x : Binary64) : Nat × Nat :=
  (x.significand * Nat.pow 2 x.shift, Nat.pow 2 1074)

/-- The product of the magnitudes, none beyond the format. -/
def mul? (x y : Binary64) : Option Binary64 :=
  ofQuotient? (x.quotient.1 * y.quotient.1) (x.quotient.2 * y.quotient.2)

/-- The quotient of the magnitudes, none beyond the format. -/
def div? (x y : Binary64) : Option Binary64 :=
  ofQuotient? (x.quotient.1 * y.quotient.2) (x.quotient.2 * y.quotient.1)

def powerOfTen? (n : Nat) : Option Binary64 := ofNat? (Nat.pow 10 n)

/-- Divide by 10^308 at most `steps` times, stopping at zero, and then by 10^`rest`. -/
def divideByPowers (rest : Nat) : Nat → Binary64 → Option Binary64
  | 0, x => do x.div? (← powerOfTen? rest)
  | steps + 1, x =>
    if x.isZero then some x
    else do divideByPowers rest steps (← x.div? (← powerOfTen? 308))

/-- Scale a whole number by a power of ten in steps of at most 10^308, rounding at each step; none
beyond the format. Powers above 10^308 leave zero as it is and take all else out of range. -/
def ofDecimal? (significand : Nat) (exponent : Int) : Option Binary64 := do
  let x ← ofNat? significand
  match exponent with
  | .ofNat e =>
    if e ≤ 308 then x.mul? (← powerOfTen? e)
    else if x.isZero then some x
    else none
  | .negSucc e =>
    let steps := e / 308
    divideByPowers (e + 1 - 308 * steps) steps x

end Binary64

end SearchOperator
