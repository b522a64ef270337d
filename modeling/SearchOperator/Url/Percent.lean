import SearchOperator.Bytes
import SearchOperator.Text.Hex

/-!
# Percent encoding

A byte that may not stand in a part of an address is written as a percent sign and two hexadecimal
digits. Which bytes these are depends on the part.
-/

namespace SearchOperator.Url

/-- The controls, and all beyond ASCII, which no part holds as they are. -/
def isControl (c : Char) : Bool := c.toNat < 0x20 || 0x7E < c.toNat

/-- What a fragment holds only encoded. -/
def fragmentEncodes (c : Char) : Bool := isControl c || " \"<>\x60".toList.contains c

def pathEncodes (c : Char) : Bool := fragmentEncodes c || "#?\x7b\x7d".toList.contains c

def userEncodes (c : Char) : Bool := pathEncodes c || "/:;=@[\\]^|".toList.contains c

def queryEncodes (c : Char) : Bool := isControl c || " \"#<>".toList.contains c

def webQueryEncodes (c : Char) : Bool := queryEncodes c || c == '\''

def percentByte (b : UInt8) : List Char :=
  ['%', Text.hexDigitUpper (b.toNat / 16), Text.hexDigitUpper (b.toNat % 16)]

/-- Encode the characters of a text that a part holds only encoded. -/
def percentEncode (encodes : Char → Bool) (cs : List Char) : List Char :=
  cs.flatMap fun c => if encodes c then (String.utf8EncodeChar c).flatMap percentByte else [c]

/-- The bytes that encoded text stands for; a percent sign without two digits is itself. -/
def percentDecode : Bytes → Bytes
  | 0x25 :: a :: b :: rest =>
    match Text.hexValue? (Char.ofNat a.toNat), Text.hexValue? (Char.ofNat b.toNat) with
    | some x, some y => UInt8.ofNat (16 * x + y) :: percentDecode rest
    | _, _ => 0x25 :: percentDecode (a :: b :: rest)
  | b :: rest => b :: percentDecode rest
  | [] => []

end SearchOperator.Url
