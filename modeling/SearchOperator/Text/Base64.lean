import SearchOperator.Bytes

/-!
# Base64

Bytes are written three at a time as four letters of an alphabet of 64. One or two bytes at the end
are filled up with equals signs, and the bits that no byte needs are zero.
-/

namespace SearchOperator.Text.Base64

def value? (b : UInt8) : Option Nat :=
  let n := b.toNat
  if 65 ≤ n && n ≤ 90 then some (n - 65)
  else if 97 ≤ n && n ≤ 122 then some (n - 71)
  else if 48 ≤ n && n ≤ 57 then some (n + 4)
  else if n = 43 then some 62
  else if n = 47 then some 63
  else none

/-- The sign that fills up the last letters. -/
def fill : UInt8 := 0x3D

/-- The bytes of the last letters: one to three. -/
def decodeLast? (a b c d : UInt8) : Option Bytes := do
  let x ← value? a
  let y ← value? b
  let first := UInt8.ofNat (4 * x + y / 16)
  if c = fill then
    if d = fill && y % 16 == 0 then return [first] else none
  else
    let z ← value? c
    let second := UInt8.ofNat (16 * (y % 16) + z / 4)
    if d = fill then
      if z % 4 = 0 then return [first, second] else none
    else
      let w ← value? d
      return [first, second, UInt8.ofNat (64 * (z % 4) + w)]

def decode? : Bytes → Option Bytes
  | [] => some []
  | [a, b, c, d] => decodeLast? a b c d
  | a :: b :: c :: d :: rest => do
    let x ← value? a
    let y ← value? b
    let z ← value? c
    let w ← value? d
    let after ← decode? rest
    return UInt8.ofNat (4 * x + y / 16) :: UInt8.ofNat (16 * (y % 16) + z / 4) ::
      UInt8.ofNat (64 * (z % 4) + w) :: after
  | _ => none

end SearchOperator.Text.Base64
