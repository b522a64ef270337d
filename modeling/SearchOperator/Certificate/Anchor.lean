import SearchOperator.Certificate.Der
import SearchOperator.Certificate.Pem

/-!
# Trust anchors

A certificate authority is trusted if its certificate has the form of one: a signed body, with the
algorithm of the signature named alike inside and outside of the body. A body of the third version
may have extensions, each at most once, and those it calls critical must be known. A body without a
version is of the first.
-/

namespace SearchOperator.Certificate

open Der

/-- The parts of a certificate: its body, and the algorithm of its signature. -/
structure Signed where
  body : Bytes
  algorithm : Bytes
deriving DecidableEq, Repr

def wholeBits : Reader Bytes := do
  match ← item bitStringTag with
  | 0 :: bits => return bits
  | _ => failure

def signed? (der : Bytes) : Option Signed :=
  all (inside sequenceTag do
    let body ← item sequenceTag
    let algorithm ← item sequenceTag
    let _ ← wholeBits
    return ⟨body, algorithm⟩) der

/-- The kinds of extensions that are known, by their last number, and whether their value is a
sequence. -/
def knownExtensions : List (UInt8 × Bool) :=
  [(15, false), (17, true), (19, true), (30, true), (31, true), (37, true)]

/-- What the names of the known kinds of extensions begin with. -/
def extensionArc : Bytes := [0x55, 0x1D]

/-- Whether an extension is critical; it is not unless it says so. -/
def critical : Reader Bool := do
  if ← isNext booleanTag then
    match ← item booleanTag with
    | [0xFF] => return true
    | [0x00] => return false
    | _ => failure
  else return false

def extension (seen : List UInt8) : Reader (List UInt8) :=
  inside sequenceTag do
    let kind ← item objectTag
    let isCritical ← critical
    let value ← item octetStringTag
    let known := match kind with
      | [a, b, last] => if [a, b] = extensionArc then some last else none
      | _ => none
    match known.bind fun last => knownExtensions.lookup last |>.map fun s => (last, s) with
    | some (last, isSequence) =>
      if seen.contains last then failure
      if isSequence && (all (item sequenceTag) value).isNone then failure
      return last :: seen
    | none => if isCritical then failure else return seen

/-- Read extensions to the end. Each takes a byte at least, which `fuel` counts. -/
def extensions : Nat → List UInt8 → Reader Unit
  | 0, _ => failure
  | fuel + 1, seen => do
    if ← atEnd then return ()
    else extensions fuel (← extension seen)

/-- Read what a body of any version holds: serial number, algorithm, issuer, validity, subject and
key. -/
def names : Reader Bytes := do
  let _ ← item integerTag
  let algorithm ← item sequenceTag
  let _ ← item sequenceTag
  let _ ← item sequenceTag
  let _ ← item sequenceTag
  let _ ← item sequenceTag
  return algorithm

def thirdVersion : Reader Unit := do
  let version ← inside (partTag 0) (item integerTag)
  if version = [2] then return () else failure

def afterVersion (s : Signed) : Reader Unit := do
  let algorithm ← names
  if algorithm ≠ s.algorithm then failure
  if ← atEnd then return ()
  else inside (partTag 3) (inside sequenceTag do extensions ((← get).length + 1) [])

/-- Whether bytes are the certificate of an authority that can be trusted. -/
def isAnchor (der : Bytes) : Bool :=
  match signed? der with
  | none => false
  | some s =>
    match thirdVersion s.body with
    | some ((), rest) => (all (afterVersion s) rest).isSome
    | none => (all names s.body).isSome

def areAnchors (text : Bytes) : Bool :=
  (Pem.certificates? text).any fun contents => contents.all isAnchor

end SearchOperator.Certificate
