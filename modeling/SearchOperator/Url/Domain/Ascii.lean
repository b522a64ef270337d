import SearchOperator.Json.Reader
import SearchOperator.Text.Split
import SearchOperator.Url.Domain.Classes
import SearchOperator.Url.Domain.Normalization
import SearchOperator.Url.Domain.Punycode

/-!
# Domain names in ASCII

A domain name is mapped, composed and cut into labels at its dots. Labels that already are in
ASCII form are read back and must be what mapping and composing would leave. Every label obeys the
rules for marks, joiners and directions, and none holds a character that a host may not hold.
-/

namespace SearchOperator.Url.Domain

/-- Whether a character may not stand in a domain name: controls, the blank, and what delimits the
parts of an address. -/
def isForbidden (c : Char) : Bool :=
  c.toNat ≤ 0x20 || c == '\x7F' || "%#/:<>?@[\\]^|".toList.contains c

/-- Whether joiners stand where they may: after a mark that asks for it, and the one without a
width also between letters that it keeps from joining. -/
def joinersFit : List Char → List Char → Bool
  | _, [] => true
  | before, c :: after =>
    let afterVirama := match before with
      | [] => false
      | d :: _ => markClass d == 9
    let fits :=
      if c == '\u200C' then
        afterVirama ||
          ((before.dropWhile joinTransparent.contains).head?.any
              (fun d => joinsLeft.contains d || joinsBoth.contains d) &&
            (after.dropWhile joinTransparent.contains).head?.any
              (fun d => joinsRight.contains d || joinsBoth.contains d))
      else if c == '\u200D' then afterVirama
      else true
    fits && joinersFit (c :: before) after

/-- Whether a character makes a domain name one with letters from right to left. -/
def isBidi (c : Char) : Bool := rightToLeft.contains c || arabicNumber.contains c

/-- Whether a character is a letter written from left to right, which all are that no other
direction claims. -/
def leftToRight (c : Char) : Bool :=
  !(rightToLeft.contains c || arabicNumber.contains c || europeanNumber.contains c ||
    nonspacing.contains c || neutral.contains c)

def directionsFit (label : List Char) : Bool :=
  let core := (label.reverse.dropWhile nonspacing.contains).reverse
  match label, core.getLast? with
  | first :: _, some last =>
    if rightToLeft.contains first then
      !label.any leftToRight &&
        (rightToLeft.contains last || europeanNumber.contains last || arabicNumber.contains last) &&
        !(label.any europeanNumber.contains && label.any arabicNumber.contains)
    else
      leftToRight first && !label.any isBidi &&
        (leftToRight last || europeanNumber.contains last)
  | [], _ => true
  | _, none => false

def isLabel (label : List Char) : Bool :=
  !label.head?.any mark.contains && joinersFit [] label && !label.any isForbidden

def asciiMark : List Char := ['x', 'n', '-', '-']

/-- The label that a mapped label stands for; none if it breaks a rule. -/
def label? (label : List Char) : Option (List Char) :=
  match Text.dropPrefix? asciiMark label with
  | none => if isLabel label then some label else none
  | some encoded => do
    let decoded ← Punycode.decode? encoded
    if decoded.all (·.toNat < 0x80) || !decoded.all isMapped || composed decoded != decoded ||
        !isLabel decoded then none
    else some decoded

def labelAscii (label : List Char) : List Char :=
  if label.all (·.toNat < 0x80) then label else asciiMark ++ Punycode.encode label

def labels? (name : List Char) : Option (List (List Char)) := do
  let mapped ← name.mapM mapChar?
  let labels ← (Text.splitOn '.' (composed mapped.flatten)).mapM label?
  if labels.any (·.any isBidi) && !labels.all directionsFit then none else some labels

/-- A domain name in ASCII, none if it breaks a rule. -/
def ascii? (name : List Char) : Option (List Char) := do
  let labels ← labels? name
  return ['.'].intercalate (labels.map labelAscii)

/-- A domain name given in bytes in ASCII, none if it breaks a rule or is not UTF-8. -/
def asciiOfBytes? (bytes : Bytes) : Option (List Char) := do
  let name ← Json.Reader.textOfBytes? bytes
  ascii? name.toList

end SearchOperator.Url.Domain
