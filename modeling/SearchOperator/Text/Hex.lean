/-!
# Hexadecimal text

Digits in base sixteen, read and written, and numbers given as blank-separated hexadecimal words.
-/

namespace SearchOperator.Text

/-- The digit of a number below sixteen, in lower case. -/
def hexDigit (n : Nat) : Char :=
  if n < 10 then Char.ofNat (48 + n) else Char.ofNat (87 + n)

/-- The digit of a number below sixteen, in upper case. -/
def hexDigitUpper (n : Nat) : Char :=
  if n < 10 then Char.ofNat (48 + n) else Char.ofNat (55 + n)

/-- The value of a hexadecimal digit of either case. -/
def hexValue? (c : Char) : Option Nat :=
  if '0' ≤ c && c ≤ '9' then some (c.toNat - 48)
  else if 'a' ≤ c && c ≤ 'f' then some (c.toNat - 87)
  else if 'A' ≤ c && c ≤ 'F' then some (c.toNat - 55)
  else none

/-- A number in hexadecimal without leading zeros. -/
def hexText (n : Nat) : String :=
  String.ofList (Nat.toDigits 16 n)

/-- The number that hexadecimal digits write; other characters are passed over. -/
def hexNat (cs : List Char) : Nat :=
  cs.foldl (fun n c => match hexValue? c with | some d => 16 * n + d | none => n) 0

/-- The blank-separated hexadecimal numbers of a table's lines. -/
def hexWords (lines : List String) : List Nat :=
  lines.flatMap fun line => (line.splitOn " ").map fun word => hexNat word.toList

end SearchOperator.Text
