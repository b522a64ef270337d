import SearchOperator.Bytes

/-!
# Faults of JSON text

What can be wrong with a JSON text, and where. A place is given by how many bytes are left when
the fault is met; its line and column count bytes.
-/

namespace SearchOperator

namespace Json

inductive FaultKind where
  | endInValue
  | endInList
  | endInObject
  | endInString
  | expectedValue
  | expectedIdent
  | expectedColon
  | expectedListEnd
  | expectedObjectEnd
  | trailingComma
  | trailingCharacters
  | keyNotString
  | controlCharacter
  | invalidEscape
  | loneSurrogate
  | unendedEscape
  | invalidCodePoint
  | invalidNumber
  | numberOutOfRange
  | tooDeep
  /-- The text is well formed so far, but it is not what the reader is after. -/
  | mismatch (message : String)
deriving DecidableEq, Repr

def FaultKind.text : FaultKind → String
  | .endInValue => "EOF while parsing a value"
  | .endInList => "EOF while parsing a list"
  | .endInObject => "EOF while parsing an object"
  | .endInString => "EOF while parsing a string"
  | .expectedValue => "expected value"
  | .expectedIdent => "expected ident"
  | .expectedColon => "expected \x60:\x60"
  | .expectedListEnd => "expected \x60,\x60 or \x60]\x60"
  | .expectedObjectEnd => "expected \x60,\x60 or \x60\x7d\x60"
  | .trailingComma => "trailing comma"
  | .trailingCharacters => "trailing characters"
  | .keyNotString => "key must be a string"
  | .controlCharacter => "control character (\\u0000-\\u001F) found while parsing a string"
  | .invalidEscape => "invalid escape"
  | .loneSurrogate => "lone leading surrogate in hex escape"
  | .unendedEscape => "unexpected end of hex escape"
  | .invalidCodePoint => "invalid unicode code point"
  | .invalidNumber => "invalid number"
  | .numberOutOfRange => "number out of range"
  | .tooDeep => "recursion limit exceeded"
  | .mismatch message => message

/-- A fault with its place, which a mismatch has only once an enclosing reader gave it one. -/
inductive Fault where
  | placed (kind : FaultKind) (left : Nat)
  | pending (message : String)
deriving DecidableEq, Repr

/-- The line and the column after the first `count` bytes of an input. -/
def position (input : Bytes) (count : Nat) : Nat × Nat :=
  let before := input.take count
  (1 + before.count 0x0A, (before.reverse.takeWhile (· != 0x0A)).length)

def Fault.text (input : Bytes) : Fault → String
  | .pending message => message
  | .placed kind left =>
    let (line, column) := position input (input.length - left)
    kind.text ++ " at line " ++ toString line ++ " column " ++ toString column

end Json

end SearchOperator
