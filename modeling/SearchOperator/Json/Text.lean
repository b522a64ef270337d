import SearchOperator.Json.Value
import SearchOperator.Text.Hex

/-!
# JSON text

The compact text of a document: no blanks, members in the order of their keys, and in strings an
escape for the quote, the backslash and the controls below the space, nothing else.
-/

namespace SearchOperator.Json

def escapeChar (c : Char) : List Char :=
  match c with
  | '"' => ['\\', '"']
  | '\\' => ['\\', '\\']
  | '\x08' => ['\\', 'b']
  | '\t' => ['\\', 't']
  | '\n' => ['\\', 'n']
  | '\x0c' => ['\\', 'f']
  | '\r' => ['\\', 'r']
  | c =>
    if c.toNat < 0x20 then
      ['\\', 'u', '0', '0', Text.hexDigit (c.toNat / 16), Text.hexDigit (c.toNat % 16)]
    else [c]

def stringChars (s : String) : List Char :=
  '"' :: s.toList.flatMap escapeChar ++ ['"']

def numberChars : Number → List Char
  | .integer n => (toString n.val).toList
  | .float x => x.text.toList

mutual

def chars : Json → List Char
  | .null => ['n', 'u', 'l', 'l']
  | .bool true => ['t', 'r', 'u', 'e']
  | .bool false => ['f', 'a', 'l', 's', 'e']
  | .number n => numberChars n
  | .string s => stringChars s
  | .array [] => ['[', ']']
  | .array (a :: as) => '[' :: (chars a ++ itemsChars as)
  | .object [] => ['\x7b', '\x7d']
  | .object (m :: ms) => '\x7b' :: (memberChars m ++ membersChars ms)
termination_by structural x => x

/-- The further items of an array, each after a comma, and the closing bracket. -/
def itemsChars : List Json → List Char
  | [] => [']']
  | a :: as => ',' :: (chars a ++ itemsChars as)
termination_by structural x => x

/-- The further members of an object, each after a comma, and the closing brace. -/
def membersChars : List (String × Json) → List Char
  | [] => ['\x7d']
  | m :: ms => ',' :: (memberChars m ++ membersChars ms)
termination_by structural x => x

def memberChars : String × Json → List Char
  | (k, v) => stringChars k ++ ':' :: chars v
termination_by structural x => x

end

def text (j : Json) : String := String.ofList (chars j)

/-- The compact text of an object whose members are given in order. -/
def orderedText (members : List (String × String)) : String :=
  let parts := members.map fun (k, v) => String.ofList (stringChars k) ++ ":" ++ v
  "\x7b" ++ String.intercalate "," parts ++ "\x7d"

end SearchOperator.Json
