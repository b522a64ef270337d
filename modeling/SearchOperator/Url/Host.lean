import SearchOperator.Text.Blank
import SearchOperator.Url.Domain.Ascii
import SearchOperator.Url.Percent

/-!
# Hosts

A host is a domain name or a numeric address of four or sixteen bytes. A domain name whose last
label is a number is a numeric address, in decimal, octal or hexadecimal parts, or it is no host.
-/

namespace SearchOperator.Url

inductive Fault where
  | emptyHost
  | invalidDomain
  | invalidPort
  | invalidIpv4
  | invalidIpv6
  | invalidHostCharacter
  | relativeWithoutBase
  | relativeToOpaqueBase
deriving DecidableEq, Repr

def Fault.text : Fault → String
  | .emptyHost => "empty host"
  | .invalidDomain => "invalid international domain name"
  | .invalidPort => "invalid port number"
  | .invalidIpv4 => "invalid IPv4 address"
  | .invalidIpv6 => "invalid IPv6 address"
  | .invalidHostCharacter => "invalid domain character"
  | .relativeWithoutBase => "relative URL without a base"
  | .relativeToOpaqueBase => "relative URL with a cannot-be-a-base base"

inductive Host where
  | domain (name : List Char)
  | ipv4 (address : Nat)
  | ipv6 (pieces : List Nat)
deriving DecidableEq, Repr

namespace Host

/-! ## Four bytes -/

/-- The value of digits in a base; none if one is no digit of it. -/
def valueIn? (base : Nat) (cs : List Char) : Option Nat :=
  cs.foldlM
    (fun n c => do
      let d ← Text.hexValue? c
      if d < base then some (base * n + d) else none)
    0

/-- The number that a part of a numeric address writes; none if it is no number. -/
def partValue? (part : List Char) : Option Nat :=
  match part with
  | [] => none
  | '0' :: 'x' :: digits => valueIn? 16 digits
  | '0' :: 'X' :: digits => valueIn? 16 digits
  | '0' :: d :: digits => valueIn? 8 (d :: digits)
  | digits => valueIn? 10 digits

/-- The dot-separated parts without an empty one at the end. -/
def addressParts (name : List Char) : List (List Char) :=
  let parts := Text.splitOn '.' name
  if parts.getLast? == some [] then parts.dropLast else parts

/-- Whether a domain name has to be a numeric address. -/
def endsInNumber (name : List Char) : Bool :=
  match (addressParts name).getLast? with
  | none => false
  | some last => (!last.isEmpty && last.all Text.isDigit) || (partValue? last).isSome

/-- The address that parts write: each but the last is one byte, the last fills what is left. -/
def ofParts? (parts : List Nat) : Option Nat :=
  match parts.reverse with
  | [] => none
  | last :: before =>
    let count := before.length
    let room := Nat.pow 256 (4 - count)
    if 3 < count || before.any (255 < ·) || room ≤ last then none
    else some (room * before.foldr (fun byte n => 256 * n + byte) 0 + last)

def ipv4? (name : List Char) : Option Nat := do
  ofParts? (← (addressParts name).mapM partValue?)

def ipv4Text (n : Nat) : String :=
  toString (n / 16777216 % 256) ++ "." ++ toString (n / 65536 % 256) ++ "." ++
    toString (n / 256 % 256) ++ "." ++ toString (n % 256)

/-! ## Sixteen bytes -/

/-- An address being read: the pieces so far, and before which of them zeros were left out. -/
structure Pieces where
  pieces : List Nat
  gap : Option Nat

/-- The value of one to three decimal digits below 256 without a leading zero. -/
def byteValue? (cs : List Char) : Option Nat :=
  match cs with
  | [] => none
  | '0' :: _ :: _ => none
  | cs => do
    if 3 < cs.length then none
    let n ← valueIn? 10 cs
    if n < 256 then some n else none

/-- The last two pieces, written as an address of four bytes. -/
def embedded? (cs : List Char) : Option (List Nat) := do
  match ← (Text.splitOn '.' cs).mapM byteValue? with
  | [a, b, c, d] => some [256 * a + b, 256 * c + d]
  | _ => none

/-- Read pieces up to the end; each step takes a character at least, which `fuel` counts. -/
def readPieces : Nat → Pieces → List Char → Option Pieces
  | 0, _, _ => none
  | _, s, [] => some s
  | fuel + 1, s, cs =>
    let count := s.pieces.length
    if 8 ≤ count + (if s.gap.isSome then 1 else 0) then none
    else
      match cs with
      | ':' :: rest =>
        if s.gap.isSome then none else readPieces fuel { s with gap := some count } rest
      | cs => do
        let digits := (cs.take 4).takeWhile fun c => (Text.hexValue? c).isSome
        let rest := cs.drop digits.length
        let value ← valueIn? 16 digits
        match rest with
        | [] => readPieces fuel { s with pieces := s.pieces ++ [value] } []
        | ':' :: [] => none
        | ':' :: rest => readPieces fuel { s with pieces := s.pieces ++ [value] } rest
        | '.' :: _ =>
          if digits.isEmpty || 6 < count + (if s.gap.isSome then 1 else 0) then none
          else do return { s with pieces := s.pieces ++ (← embedded? cs) }
        | _ => none

/-- Fill the place where zeros were left out. -/
def Pieces.filled? (s : Pieces) : Option (List Nat) :=
  match s.gap with
  | none => if s.pieces.length = 8 then some s.pieces else none
  | some at_ =>
    if s.pieces.length < 8 then
      some (s.pieces.take at_ ++ List.replicate (8 - s.pieces.length) 0 ++ s.pieces.drop at_)
    else none

def ipv6? (cs : List Char) : Option (List Nat) := do
  let start ← match cs with
    | ':' :: ':' :: rest => readPieces (cs.length + 1) ⟨[], some 0⟩ rest
    | ':' :: _ => none
    | [] => none
    | [_] => none
    | cs => readPieces (cs.length + 1) ⟨[], none⟩ cs
  start.filled?

/-- The lengths of the runs of zeros that start at each piece. -/
def zeroRuns : List Nat → List Nat
  | [] => []
  | n :: ns =>
    let rest := zeroRuns ns
    (if n = 0 then rest.headD 0 + 1 else 0) :: rest

/-- Pieces in hexadecimal between colons. -/
def piecesText (pieces : List Nat) : String :=
  String.intercalate ":" (pieces.map Text.hexText)

/-- An address of sixteen bytes as text; the first of the longest runs of zeros, if it has two at
least, is left out. -/
def ipv6Text (pieces : List Nat) : String :=
  let runs := zeroRuns pieces
  let longest := runs.foldl max 0
  if longest < 2 then piecesText pieces
  else
    let start := runs.idxOf longest
    piecesText (pieces.take start) ++ "::" ++ piecesText (pieces.drop (start + longest))

/-! ## Reading and writing hosts -/

def bracketed? (cs : List Char) : Except Fault Host :=
  match cs.getLast?, ipv6? (cs.drop 1).dropLast with
  | some ']', some pieces => .ok (.ipv6 pieces)
  | _, _ => .error .invalidIpv6

/-- Read the host of a web or file address. -/
def ofText (cs : List Char) : Except Fault Host :=
  if cs.head? == some '[' then bracketed? cs
  else
    match Domain.asciiOfBytes? (percentDecode (String.ofList cs).toUTF8.data.toList) with
    | none => .error .invalidDomain
    | some [] => .error .emptyHost
    | some name =>
      if endsInNumber name then
        match ipv4? name with
        | some address => .ok (.ipv4 address)
        | none => .error .invalidIpv4
      else .ok (.domain name)

/-- What no host of any other address holds. -/
def isForbidden (c : Char) : Bool := "\x00\t\n\r #/:<>?@[\\]^|".toList.contains c

/-- Read the host of any other address. -/
def ofOpaqueText (cs : List Char) : Except Fault Host :=
  if cs.head? == some '[' then bracketed? cs
  else if cs.any isForbidden then .error .invalidHostCharacter
  else .ok (.domain (percentEncode isControl cs))

def text : Host → String
  | .domain name => String.ofList name
  | .ipv4 address => ipv4Text address
  | .ipv6 pieces => "[" ++ ipv6Text pieces ++ "]"

end Host

end SearchOperator.Url
