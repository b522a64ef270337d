import SearchOperator.Json.Reader

/-!
# Passing over documents

A member that nobody asks for is passed over: brackets may nest to any depth, numbers may have any
size, and strings are only searched for their end.
-/

namespace SearchOperator.Json.Reader

def skipStringBytes : Bytes → Except Fault Bytes
  | [] => .error (.placed .endInString 0)
  | b :: rest =>
    if b = 0x22 then .ok rest
    else if b = 0x5C then
      match rest with
      | [] => .error (.placed .endInString 0)
      | e :: rest =>
        if (shortEscape? e).isSome then skipStringBytes rest
        else if e = 0x75 then
          match rest with
          | a :: b :: c :: d :: rest =>
            if (hexValue4? a b c d).isSome then skipStringBytes rest
            else .error (.placed .invalidEscape rest.length)
          | _ => .error (.placed .endInString 0)
        else .error (.placed .invalidEscape rest.length)
    else if b < 0x20 then .error (.placed .controlCharacter (rest.length + 1))
    else skipStringBytes rest

def skipString : Reader Unit := fun rest =>
  match skipStringBytes rest with
  | .error fault => (.error fault, [])
  | .ok after => (.ok (), after)

def skipDigits : Reader Unit := modify (·.dropWhile isDigit)

def skipExponent : Reader Unit := do
  skip
  match ← peek? with
  | some b => if b = 0x2B || b = 0x2D then skip
  | none => pure ()
  match ← peek? with
  | none => fail .invalidNumber
  | some b =>
    skip
    if isDigit b then skipDigits else fail .invalidNumber

def skipOptionalExponent : Reader Unit := do
  match ← peek? with
  | some b => if isExponentMark b then skipExponent
  | none => pure ()

def skipNumber : Reader Unit := do
  match ← peek? with
  | none => fail .invalidNumber
  | some b =>
    skip
    if b = 0x30 then
      match ← peek? with
      | some d => if isDigit d then failNext .invalidNumber
      | none => pure ()
    else if isDigit b then skipDigits
    else fail .invalidNumber
    match ← peek? with
    | some b =>
      if b = 0x2E then
        skip
        match ← peek? with
        | some d => if isDigit d then skipDigits else failNext .invalidNumber
        | none => failNext .invalidNumber
        skipOptionalExponent
      else if isExponentMark b then skipExponent
    | none => pure ()

/-- Pass over one token that is no bracket; false if an opening bracket is next. -/
def skipScalar : Reader Bool := do
  match ← peekToken? with
  | none => failNext .endInValue
  | some b =>
    if b = 0x5B || b = 0x7B then return false
    if b = 0x6E then
      skip
      word restOfNull
    else if b = 0x74 then
      skip
      word restOfTrue
    else if b = 0x66 then
      skip
      word restOfFalse
    else if b = 0x2D then
      skip
      skipNumber
    else if isDigit b then skipNumber
    else if b = 0x22 then
      skip
      skipString
    else failNext .expectedValue
    return true

def skipKey : Reader Unit := do
  match ← peekToken? with
  | none => failNext .endInObject
  | some b => if b = 0x22 then skip else failNext .keyNotString
  skipString
  colon

/-- Close brackets, innermost first, until a comma or a first part follows. The result is the open
brackets, `true` for a brace, or none once the last is closed. -/
def closeBrackets : Nat → Bool → List Bool → Reader (List Bool)
  | 0, _, _ => fail .endInValue
  | _, _, [] => return []
  | fuel + 1, afterPart, brace :: outer => do
    match ← peekToken? with
    | none => failNext (if brace then .endInObject else .endInList)
    | some b =>
      if b = 0x2C && afterPart then
        skip
        return brace :: outer
      else if b = (if brace then 0x7D else 0x5D) then
        skip
        closeBrackets fuel true outer
      else if afterPart then failNext (if brace then .expectedObjectEnd else .expectedListEnd)
      else return brace :: outer

/-- Pass over a document inside the given open brackets, and close all of them. -/
def skipNested : Nat → List Bool → Reader Unit
  | 0, _ => fail .endInValue
  | steps + 1, enclosing => do
    let isScalar ← skipScalar
    let afterScalar ← if isScalar then pure enclosing else do
      let brace := (← peek?) == some 0x7B
      skip
      pure (brace :: enclosing)
    let remaining ← closeBrackets (← fuel) isScalar afterScalar
    match remaining with
    | [] => return ()
    | brace :: _ =>
      if brace then skipKey
      skipNested steps remaining

def skipDocument : Reader Unit := do skipNested (← fuel) []

end SearchOperator.Json.Reader
