import SearchOperator.Bytes

/-!
# Well-formed UTF-8

Bytes are text if they are a sequence of well-formed characters. Otherwise the first place where
they stop being one is told, and how many bytes there begin a character that is not completed: none
if the bytes end before it could be.
-/

namespace SearchOperator.Text.Utf8

/-- Where bytes stop being text, and how many bytes are wrong there unless the bytes just end. -/
structure Fault where
  index : Nat
  length : Option Nat
deriving DecidableEq, Repr

def Fault.text (f : Fault) : String :=
  match f.length with
  | some n => "invalid utf-8 sequence of " ++ toString n ++ " bytes from index " ++ toString f.index
  | none => "incomplete utf-8 byte sequence from index " ++ toString f.index

/-- Whether a byte continues a character. -/
def continues (b : UInt8) : Bool := 0x80 ≤ b && b ≤ 0xBF

/-- How many bytes follow the first byte of a character, and the bounds of the next one. -/
def expects? (b : UInt8) : Option (Nat × UInt8 × UInt8) :=
  if b < 0x80 then some (0, 0, 0)
  else if b < 0xC2 then none
  else if b < 0xE0 then some (1, 0x80, 0xBF)
  else if b = 0xE0 then some (2, 0xA0, 0xBF)
  else if b = 0xED then some (2, 0x80, 0x9F)
  else if b < 0xF0 then some (2, 0x80, 0xBF)
  else if b = 0xF0 then some (3, 0x90, 0xBF)
  else if b < 0xF4 then some (3, 0x80, 0xBF)
  else if b = 0xF4 then some (3, 0x80, 0x8F)
  else none

/-- How many of the bytes that must follow are missing or wrong: nothing if all `count` continue
the character, otherwise how many bytes of the character there are, if another follows them. -/
def checkRest : Nat → Nat → Bytes → Option (Option Nat)
  | 0, _, _ => none
  | _ + 1, _, [] => some none
  | count + 1, seen, b :: rest =>
    if continues b then checkRest count (seen + 1) rest else some (some seen)

def characterFault? (b : UInt8) (rest : Bytes) : Option (Option Nat) :=
  match expects? b with
  | none => some (some 1)
  | some (0, _, _) => none
  | some (count + 1, low, high) =>
    match rest with
    | [] => some none
    | c :: rest => if low ≤ c && c ≤ high then checkRest count 2 rest else some (some 1)

/-- The first fault of bytes, the first `inside` of which belong to a character before. -/
def fault? : Nat → Nat → Bytes → Option Fault
  | _, _, [] => none
  | index, inside + 1, _ :: rest => fault? (index + 1) inside rest
  | index, 0, b :: rest =>
    match characterFault? b rest with
    | some length => some ⟨index, length⟩
    | none => fault? (index + 1) (((expects? b).map (·.1)).getD 0) rest

def decode (bytes : Bytes) : Except Fault String :=
  match fault? 0 0 bytes with
  | some fault => .error fault
  | none => .ok ((String.fromUTF8? ⟨bytes.toArray⟩).getD "")

end SearchOperator.Text.Utf8
