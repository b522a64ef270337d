import SearchOperator.Json.Fault
import SearchOperator.Json.Value

/-!
# Reading JSON text

A reader takes bytes from the front of what is left of an input. This module reads blanks, words,
strings and numbers. Integers too long for a word become floats, and a float is the significand of
its digits, as far as a word holds them, scaled by a power of ten.
-/

namespace SearchOperator.Json

/-- A computation that takes bytes from an input. -/
abbrev Reader (α : Type) := ExceptT Fault (StateM Bytes) α

namespace Reader

/-- Fail at the current place. -/
def fail {α : Type} (kind : FaultKind) : Reader α := fun rest =>
  (.error (.placed kind rest.length), rest)

/-- Fail at the byte that comes next, if there is one. -/
def failNext {α : Type} (kind : FaultKind) : Reader α := fun rest =>
  (.error (.placed kind (rest.length - 1)), rest)

def peek? : Reader (Option UInt8) := fun rest => (.ok rest.head?, rest)

def skip : Reader Unit := fun rest => (.ok (), rest.drop 1)

/-- The blanks between tokens. -/
def isBlank (b : UInt8) : Bool := b == 0x20 || b == 0x0A || b == 0x09 || b == 0x0D

def skipBlanks : Reader Unit := fun rest => (.ok (), rest.dropWhile isBlank)

/-- Pass over blanks and look at the byte after them. -/
def peekToken? : Reader (Option UInt8) := do
  skipBlanks
  peek?

def isDigit (b : UInt8) : Bool := 0x30 ≤ b && b ≤ 0x39

def digitValue (b : UInt8) : Nat := b.toNat - 48

def word : Bytes → Reader Unit
  | [] => pure ()
  | w :: ws => fun rest =>
    match rest with
    | [] => (.error (.placed .endInValue 0), [])
    | b :: after =>
      if b = w then word ws after else (.error (.placed .expectedIdent after.length), after)

/-- The rest of `null` after its first letter. -/
def restOfNull : Bytes := [0x75, 0x6C, 0x6C]

def restOfTrue : Bytes := [0x72, 0x75, 0x65]

def restOfFalse : Bytes := [0x61, 0x6C, 0x73, 0x65]

/-! ## Strings -/

def hexValue? (b : UInt8) : Option Nat :=
  if 0x30 ≤ b && b ≤ 0x39 then some (b.toNat - 48)
  else if 0x61 ≤ b && b ≤ 0x66 then some (b.toNat - 87)
  else if 0x41 ≤ b && b ≤ 0x46 then some (b.toNat - 55)
  else none

def hexValue4? (a b c d : UInt8) : Option Nat := do
  return 4096 * (← hexValue? a) + 256 * (← hexValue? b) + 16 * (← hexValue? c) + (← hexValue? d)

/-- The byte that an escape of one letter stands for. -/
def shortEscape? (b : UInt8) : Option UInt8 :=
  if b = 0x22 || b = 0x5C || b = 0x2F then some b
  else if b = 0x62 then some 0x08
  else if b = 0x66 then some 0x0C
  else if b = 0x6E then some 0x0A
  else if b = 0x72 then some 0x0D
  else if b = 0x74 then some 0x09
  else none

def codePointBytes (n : Nat) : Bytes := String.utf8EncodeChar (Char.ofNat n)

/-- Whether a code unit opens a pair of surrogates. -/
def isLeading (n : Nat) : Bool := 0xD800 ≤ n && n ≤ 0xDBFF

/-- Whether a code unit closes a pair of surrogates. -/
def isTrailing (n : Nat) : Bool := 0xDC00 ≤ n && n ≤ 0xDFFF

/-- The bytes that a string stands for, up to its closing quote, and what follows it. -/
def stringBytes : Bytes → Except Fault (Bytes × Bytes)
  | [] => .error (.placed .endInString 0)
  | b :: rest =>
    if b = 0x22 then .ok ([], rest)
    else if b = 0x5C then
      match rest with
      | [] => .error (.placed .endInString 0)
      | e :: rest =>
        match shortEscape? e with
        | some c => (stringBytes rest).map fun (bytes, after) => (c :: bytes, after)
        | none =>
          if e = 0x75 then
            match rest with
            | a :: b :: c :: d :: rest =>
              match hexValue4? a b c d with
              | none => .error (.placed .invalidEscape rest.length)
              | some n =>
                if isTrailing n then .error (.placed .loneSurrogate rest.length)
                else if isLeading n then
                  match rest with
                  | [] => .error (.placed .endInString 0)
                  | slash :: rest =>
                    if slash = 0x5C then
                      match rest with
                      | [] => .error (.placed .endInString 0)
                      | letter :: rest =>
                        if letter = 0x75 then
                          match rest with
                          | a :: b :: c :: d :: rest =>
                            match hexValue4? a b c d with
                            | none => .error (.placed .invalidEscape rest.length)
                            | some m =>
                              if isTrailing m then
                                let n := 0x10000 + 1024 * (n - 0xD800) + (m - 0xDC00)
                                (stringBytes rest).map fun (bytes, after) =>
                                  (codePointBytes n ++ bytes, after)
                              else .error (.placed .loneSurrogate rest.length)
                          | _ => .error (.placed .endInString 0)
                        else .error (.placed .unendedEscape rest.length)
                    else .error (.placed .unendedEscape rest.length)
                else
                  (stringBytes rest).map fun (bytes, after) => (codePointBytes n ++ bytes, after)
            | _ => .error (.placed .endInString 0)
          else .error (.placed .invalidEscape rest.length)
    else if b < 0x20 then .error (.placed .controlCharacter rest.length)
    else (stringBytes rest).map fun (bytes, after) => (b :: bytes, after)

/-- The text of bytes, if they are well-formed UTF-8. -/
def textOfBytes? (bytes : Bytes) : Option String := String.fromUTF8? ⟨bytes.toArray⟩

def restOfString : Reader String := fun rest =>
  match stringBytes rest with
  | .error fault => (.error fault, [])
  | .ok (bytes, after) =>
    match textOfBytes? bytes with
    | some s => (.ok s, after)
    | none => (.error (.placed .invalidCodePoint after.length), after)

/-! ## Numbers -/

/-- Take digits as long as the number they continue stays below 2^64. -/
def takeDigits (n : Nat) : Bytes → Nat × Bytes
  | [] => (n, [])
  | b :: rest =>
    if isDigit b && 10 * n + digitValue b < 0x10000000000000000 then takeDigits (10 * n + digitValue b) rest
    else (n, b :: rest)

/-- Take digits as long as the exponent they continue stays below 2^31. -/
def takeExponent (n : Nat) : Bytes → Nat × Bytes
  | [] => (n, [])
  | b :: rest =>
    if isDigit b && 10 * n + digitValue b < 0x80000000 then takeExponent (10 * n + digitValue b) rest
    else (n, b :: rest)

/-- The float of a significand and a power of ten. -/
def scaled (negative : Bool) (significand : Nat) (exponent : Int) : Reader Number :=
  (Binary64.ofDecimal? significand exponent).elim (fail .numberOutOfRange) fun x =>
    pure (.float (if negative then x.neg else x))

/-- An exponent within the bounds of a signed word of 32 bits. -/
def clampExponent (e : Int) : Int := max (-0x80000000) (min 0x7FFFFFFF e)

/-- A number from its exponent on, the letter e being next. -/
def withExponent (negative : Bool) (significand : Nat) (exponent : Int) : Reader Number := do
  skip
  let mut up := true
  match ← peek? with
  | some b =>
    if b = 0x2B then skip
    else if b = 0x2D then
      skip
      up := false
  | none => pure ()
  match ← peek? with
  | none => fail .endInValue
  | some b =>
    skip
    if !isDigit b then fail .invalidNumber
    let (e, rest) := takeExponent (digitValue b) (← get)
    match rest with
    | d :: after =>
      if isDigit d then
        set after
        if significand ≠ 0 && up then fail .numberOutOfRange
        set (after.dropWhile isDigit)
        return .float (if negative then Binary64.zero.neg else Binary64.zero)
    | [] => pure ()
    set rest
    scaled negative significand (clampExponent (if up then exponent + e else exponent - e))

def isExponentMark (b : UInt8) : Bool := b == 0x65 || b == 0x45

/-- A number after its last significant digit: an exponent may follow. -/
def withOptionalExponent (negative : Bool) (significand : Nat) (exponent : Int) :
    Reader Number := do
  match ← peek? with
  | some b =>
    if isExponentMark b then withExponent negative significand exponent
    else scaled negative significand exponent
  | none => scaled negative significand exponent

/-- A number from its fraction on, the point being next. Digits that no word holds are dropped. -/
def withFraction (negative : Bool) (significand : Nat) (exponent : Int) : Reader Number := do
  skip
  let before ← get
  let (n, rest) := takeDigits significand before
  let taken : Int := (before.length - rest.length : Nat)
  set rest
  match rest with
  | d :: _ =>
    if isDigit d then set (rest.dropWhile isDigit)
    else if taken = 0 then failNext .invalidNumber
  | [] => if taken = 0 then failNext .endInValue
  withOptionalExponent negative n (exponent - taken)

/-- An integer as a number. Minus zero and what is below a signed word become floats. -/
def wholeNumber (negative : Bool) (significand : Nat) : Reader Number :=
  let n : Int := if negative then -significand else significand
  if negative && (significand == 0 || 0x8000000000000000 < significand) then scaled negative significand 0
  else
    match WordInt.ofInt? n with
    | some w => pure (.integer w)
    | none => scaled negative significand 0

/-- A number after the digits of its whole part, of which `dropped` did not fit a word. -/
def afterWhole (negative : Bool) (significand dropped : Nat) : Reader Number := do
  match ← peek? with
  | some b =>
    if b = 0x2E then withFraction negative significand dropped
    else if isExponentMark b then withExponent negative significand dropped
    else if dropped = 0 then wholeNumber negative significand
    else scaled negative significand dropped
  | none =>
    if dropped = 0 then wholeNumber negative significand else scaled negative significand dropped

def numberAfterSign (negative : Bool) : Reader Number := do
  match ← peek? with
  | none => fail .endInValue
  | some b =>
    skip
    if b = 0x30 then
      match ← peek? with
      | some d => if isDigit d then failNext .invalidNumber
      | none => pure ()
      afterWhole negative 0 0
    else if isDigit b then
      let (n, rest) := takeDigits (digitValue b) (← get)
      let after := rest.dropWhile isDigit
      set after
      afterWhole negative n (rest.length - after.length)
    else fail .invalidNumber

/-! ## Lists of parts -/

/-- Whether another item of an array follows; a comma before it is taken. -/
def hasItem (first : Bool) : Reader Bool := do
  match ← peekToken? with
  | none => failNext .endInList
  | some b =>
    if b = 0x5D then return false
    else if first then return true
    else if b = 0x2C then
      skip
      match ← peekToken? with
      | none => failNext .endInValue
      | some b => if b = 0x5D then failNext .trailingComma else return true
    else failNext .expectedListEnd

/-- Whether another member of an object follows; a comma before it is taken. -/
def hasMember (first : Bool) : Reader Bool := do
  match ← peekToken? with
  | none => failNext .endInObject
  | some b =>
    if b = 0x7D then return false
    else if first then if b = 0x22 then return true else failNext .keyNotString
    else if b = 0x2C then
      skip
      match ← peekToken? with
      | none => failNext .endInValue
      | some b =>
        if b = 0x22 then return true
        else if b = 0x7D then failNext .trailingComma
        else failNext .keyNotString
    else failNext .expectedObjectEnd

def colon : Reader Unit := do
  match ← peekToken? with
  | none => failNext .endInObject
  | some b => if b = 0x3A then skip else failNext .expectedColon

def endArray : Reader Unit := do
  match ← peekToken? with
  | none => failNext .endInList
  | some b =>
    if b = 0x5D then skip
    else if b = 0x2C then
      skip
      match ← peekToken? with
      | some b => if b = 0x5D then failNext .trailingComma else failNext .trailingCharacters
      | none => failNext .trailingCharacters
    else failNext .trailingCharacters

def endObject : Reader Unit := do
  match ← peekToken? with
  | none => failNext .endInObject
  | some b =>
    if b = 0x7D then skip
    else if b = 0x2C then failNext .trailingComma
    else failNext .trailingCharacters

/-- Read items until the closing bracket. Each takes a byte at least, which `fuel` counts. -/
def items {α : Type} (item : Reader α) : Nat → Bool → Reader (List α)
  | 0, _ => fail .endInList
  | fuel + 1, first => do
    if ← hasItem first then
      let a ← item
      let as ← items item fuel false
      return a :: as
    else return []

/-- Read members until the closing brace, each with what was read so far. -/
def members {σ : Type} (member : String → σ → Reader σ) : Nat → Bool → σ → Reader σ
  | 0, _, _ => fail .endInObject
  | fuel + 1, first, s => do
    if ← hasMember first then
      skip
      let key ← restOfString
      let s ← member key s
      members member fuel false s
    else return s

/-- How many parts can be left at most. -/
def fuel : Reader Nat := do return (← get).length + 1

/-- Read between brackets. A mismatch inside is reported once the closing bracket was looked for,
and other faults inside come before those of the closing. -/
def bracketed {α : Type} (close : Reader Unit) (body : Reader α) : Reader α := fun rest =>
  match body rest with
  | (.ok a, after) =>
    match close after with
    | (.ok (), after) => (.ok a, after)
    | (.error fault, after) => (.error fault, after)
  | (.error fault, after) => (.error fault, (close after).2)

/-- Give a pending mismatch the place at which the reader stands. -/
def place {α : Type} (r : Reader α) : Reader α := fun rest =>
  match r rest with
  | (.error (.pending message), after) =>
    (.error (.placed (.mismatch message) after.length), after)
  | result => result

/-- Read a whole input; blanks may follow. -/
def run {α : Type} (r : Reader α) (input : Bytes) : Except Fault α :=
  let whole : Reader α := do
    let a ← r
    match ← peekToken? with
    | some _ => failNext .trailingCharacters
    | none => return a
  (whole input).1

end Reader

end SearchOperator.Json
