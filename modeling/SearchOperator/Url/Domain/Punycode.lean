/-!
# Punycode

Labels beyond ASCII in letters, digits and hyphens: the ASCII characters of a label, a hyphen, and
then the others as differences in a mixed radix that adapts to the sizes seen. Reading fails on
foreign characters, on an unfinished difference and on what is no code point.
-/

namespace SearchOperator.Url.Domain.Punycode

/-- The character of a digit below 36: letters first. -/
def digitChar (d : Nat) : Char :=
  if d < 26 then Char.ofNat (97 + d) else Char.ofNat (22 + d)

def digitValue? (c : Char) : Option Nat :=
  let n := c.toNat
  if 97 ≤ n && n ≤ 122 then some (n - 97)
  else if 65 ≤ n && n ≤ 90 then some (n - 65)
  else if 48 ≤ n && n ≤ 57 then some (n - 22)
  else none

/-- The threshold of the digit at position `k`, a multiple of 36. -/
def threshold (k bias : Nat) : Nat :=
  if k ≤ bias then 1 else if bias + 26 ≤ k then 26 else k - bias

theorem threshold_pos (k bias : Nat) : 1 ≤ threshold k bias := by
  unfold threshold
  split
  · exact Nat.le_refl 1
  · split <;> omega

/-- Divide by 35 until at most 455 is left, counting 36 a step. -/
def shrink (delta k : Nat) : Nat × Nat :=
  if 455 < delta then shrink (delta / 35) (k + 36) else (delta, k)
termination_by delta
decreasing_by exact Nat.div_lt_self (by omega) (by omega)

/-- The bias after a difference, at which `points` characters are there. -/
def adapt (delta points : Nat) (first : Bool) : Nat :=
  let start := if first then delta / 700 else delta / 2
  let (rest, k) := shrink (start + start / points) 0
  k + 36 * rest / (rest + 38)

def differenceDigits (bias k q : Nat) : List Char :=
  let t := threshold k bias
  if q < t then [digitChar q]
  else digitChar (t + (q - t) % (36 - t)) :: differenceDigits bias (k + 36) ((q - t) / (36 - t))
termination_by q
decreasing_by
  have := threshold_pos k bias
  exact Nat.lt_of_le_of_lt (Nat.div_le_self _ _) (by omega)

structure Encoding where
  output : List Char
  delta : Nat
  bias : Nat
  handled : Nat

/-- Pass one character of the label while code point `m` is due. -/
def Encoding.pass (basic m : Nat) (s : Encoding) (c : Char) : Encoding :=
  if c.toNat < m then { s with delta := s.delta + 1 }
  else if c.toNat = m then
    ⟨s.output ++ differenceDigits s.bias 36 s.delta, 0,
      adapt s.delta (s.handled + 1) (s.handled == basic), s.handled + 1⟩
  else s

/-- Handle the code points beyond ASCII in ascending order, from `n` on. -/
def encodePoints (label : List Char) (basic : Nat) : Nat → List Nat → Encoding → Encoding
  | _, [], s => s
  | n, m :: ms, s =>
    let due := { s with delta := s.delta + (m - n) * (s.handled + 1) }
    let passed := label.foldl (Encoding.pass basic m) due
    encodePoints label basic (m + 1) ms { passed with delta := passed.delta + 1 }

def encode (label : List Char) : List Char :=
  let basic := label.filter (·.toNat < 128)
  let others := (label.filterMap fun c => if 128 ≤ c.toNat then some c.toNat else none).mergeSort
  let start := if basic.isEmpty then [] else basic ++ ['-']
  (encodePoints label basic.length 128 others.eraseDups ⟨start, 0, 72, basic.length⟩).output

/-- The value of a difference from its digits, and the digits after it. -/
def difference? (bias : Nat) : Nat → Nat → Nat → List Char → Option (Nat × List Char)
  | _, _, _, [] => none
  | k, weight, value, c :: cs => do
    let digit ← digitValue? c
    let t := threshold k bias
    let value := value + digit * weight
    if 0x100000000 ≤ value then none
    else if digit < t then some (value, cs)
    else difference? bias (k + 36) (weight * (36 - t)) value cs

theorem difference?_shorter {bias k weight value n : Nat} {cs rest : List Char}
    (h : difference? bias k weight value cs = some (n, rest)) : rest.length < cs.length := by
  induction cs generalizing k weight value with
  | nil => simp [difference?] at h
  | cons c cs ih =>
    simp only [difference?, Option.bind_eq_bind, Option.bind_eq_some_iff] at h
    obtain ⟨digit, _, h⟩ := h
    split at h
    · simp at h
    · split at h
      · simp only [Option.some.injEq, Prod.mk.injEq] at h
        obtain ⟨_, rfl⟩ := h
        exact Nat.lt_succ_self _
      · exact Nat.lt_succ_of_lt (ih h)

/-- Insert the characters that the differences describe. -/
def insertPoints (output : List Char) (i n bias : Nat) (cs : List Char) : Option (List Char) :=
  match _h : cs with
  | [] => some output
  | _ :: _ =>
    match hd : difference? bias 36 1 0 cs with
    | none => none
    | some (delta, rest) =>
      let count := output.length + 1
      let n := n + (i + delta) / count
      let i := (i + delta) % count
      if n < 0xD800 || (0xDFFF < n && n < 0x110000) then
        insertPoints (output.take i ++ Char.ofNat n :: output.drop i) (i + 1) n
          (adapt delta count (output.all (·.toNat < 128))) rest
      else none
termination_by cs.length
decreasing_by
  have := difference?_shorter hd
  simp_all

/-- The label that an ASCII form stands for. A hyphen at the start delimits nothing. -/
def decode? (cs : List Char) : Option (List Char) :=
  let tail := (cs.reverse.takeWhile (· != '-')).reverse
  let (basic, digits) :=
    if cs.length ≤ tail.length + 1 then ([], cs)
    else (cs.take (cs.length - tail.length - 1), tail)
  if basic.all (·.toNat < 128) then insertPoints basic 0 128 72 digits else none

end SearchOperator.Url.Domain.Punycode
