import SearchOperator.Json.Reader

/-!
# Reading documents

A whole document is read with at most 127 brackets open at a time. Of several members with one key
the last counts.
-/

namespace SearchOperator.Json

/-- How many brackets may be open at a time. -/
def depthLimit : Nat := 127

namespace Reader

/-- Read a document in which `depth` more brackets may be opened. -/
def document (depth : Nat) : Reader Json := do
  match ← peekToken? with
  | none => failNext .endInValue
  | some b =>
    if b = 0x6E then
      skip
      word restOfNull
      return .null
    else if b = 0x74 then
      skip
      word restOfTrue
      return .bool true
    else if b = 0x66 then
      skip
      word restOfFalse
      return .bool false
    else if b = 0x2D then
      skip
      return .number (← numberAfterSign true)
    else if isDigit b then return .number (← numberAfterSign false)
    else if b = 0x22 then
      skip
      return .string (← restOfString)
    else if b = 0x5B then
      match depth with
      | 0 => failNext .tooDeep
      | depth + 1 =>
        skip
        bracketed endArray do
          return .array (← items (document depth) (← fuel) true)
    else if b = 0x7B then
      match depth with
      | 0 => failNext .tooDeep
      | depth + 1 =>
        skip
        bracketed endObject do
          let member (key : String) (ms : List (String × Json)) : Reader (List (String × Json)) := do
            colon
            return Entries.insert key (← document depth) ms
          return .object (← members member (← fuel) true [])
    else failNext .expectedValue

end Reader

def read (input : Bytes) : Except Fault Json := (Reader.document depthLimit).run input

def bytesOf (s : String) : Bytes := s.toUTF8.data.toList

def ofText (s : String) : Except Fault Json := read (bytesOf s)

end SearchOperator.Json
