import SearchOperator.Bytes

/-!
# Tagged items

A certificate is made of items: a tag, a length, and as many bytes as the length says, which may
hold items again. A length is written in as few bytes as it needs, and no item is longer than two
bytes of length can say.
-/

namespace SearchOperator.Certificate.Der

/-- A computation that takes items from the front of bytes. -/
abbrev Reader (α : Type) := StateT Bytes Option α

def byte : Reader UInt8 := fun
  | [] => none
  | b :: rest => some (b, rest)

def take (n : Nat) : Reader Bytes := fun rest =>
  if n ≤ rest.length then some (rest.take n, rest.drop n) else none

/-- The number that bytes write, the highest first. -/
def number (bytes : Bytes) : Nat := bytes.foldl (fun n b => 256 * n + b.toNat) 0

def length : Reader Nat := do
  let b ← byte
  if b < 0x80 then return b.toNat
  else
    let count := b.toNat - 0x80
    if count < 1 || 2 < count then failure
    let n := number (← take count)
    if n < (if count = 1 then 0x80 else 0x100) || 0xFFFF ≤ n then failure
    return n

def item (tag : UInt8) : Reader Bytes := do
  if (← byte) = tag then take (← length) else failure

def all {α : Type} (r : Reader α) (bytes : Bytes) : Option α :=
  match r bytes with
  | some (a, []) => some a
  | _ => none

/-- Take an item with a tag and read all of its content. -/
def inside {α : Type} (tag : UInt8) (r : Reader α) : Reader α := do
  let content ← item tag
  StateT.lift (all r content)

def atEnd : Reader Bool := fun rest => some (rest.isEmpty, rest)

def isNext (tag : UInt8) : Reader Bool := fun rest => some (rest.head? == some tag, rest)

def booleanTag : UInt8 := 0x01

def integerTag : UInt8 := 0x02

def bitStringTag : UInt8 := 0x03

def octetStringTag : UInt8 := 0x04

def objectTag : UInt8 := 0x06

def sequenceTag : UInt8 := 0x30

/-- The tag of the part of a record with a number. -/
def partTag (n : Nat) : UInt8 := UInt8.ofNat (0xA0 + n)

end SearchOperator.Certificate.Der
