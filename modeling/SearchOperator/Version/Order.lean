import SearchOperator.Version.Basic

/-!
# The order of versions

Versions compare by their triples, then by their pre-release texts: a release stands above every
pre-release of its triple, and pre-release texts compare identifier by identifier. An upgrade is a
step up that stays within the major version or enters the next one.
-/

namespace SearchOperator.Version

/-- The number that a pre-release identifier writes: decimal digits of a number below 2^64, after
at most one plus sign. -/
def identifierNumber? (identifier : List Char) : Option Nat :=
  let digits := match identifier with
    | '+' :: rest => rest
    | cs => cs
  if digits.isEmpty || !digits.all Text.isDigit then none
  else if digitsValue digits < 0x10000000000000000 then some (digitsValue digits)
  else none

/-- Compare two identifiers: numbers by value and then by text, any number below any text, and
texts by their characters. -/
def compareIdentifiers (a b : List Char) : Ordering :=
  match identifierNumber? a, identifierNumber? b with
  | some m, some n => (compare m n).then (compare a b)
  | some _, none => .lt
  | none, some _ => .gt
  | none, none => compare a b

/-- Compare lists of identifiers from the left; what ends first is below. -/
def compareIdentifierLists : List (List Char) → List (List Char) → Ordering
  | [], [] => .eq
  | [], _ :: _ => .lt
  | _ :: _, [] => .gt
  | a :: as, b :: bs => (compareIdentifiers a b).then (compareIdentifierLists as bs)

/-- Compare pre-release texts; the empty text of a release is above all others. -/
def comparePreRelease (a b : String) : Ordering :=
  match a == "", b == "" with
  | true, true => .eq
  | true, false => .gt
  | false, true => .lt
  | false, false =>
    compareIdentifierLists (Text.splitOn '.' a.toList) (Text.splitOn '.' b.toList)

/-- Compare versions by triple, then by pre-release text. -/
protected def compare (v w : Version) : Ordering :=
  (compare v.major w.major).then <| (compare v.minor w.minor).then <|
    (compare v.patch w.patch).then <| comparePreRelease v.pre w.pre

instance : Ord Version := ⟨Version.compare⟩

instance : LT Version := ltOfOrd
instance : LE Version := leOfOrd

instance (v w : Version) : Decidable (v < w) := inferInstanceAs (Decidable (compare v w = .lt))

instance (v w : Version) : Decidable (v ≤ w) :=
  inferInstanceAs (Decidable ((compare v w).isLE = true))

/-- The lower of two versions, the first of equals. -/
def lower (v w : Version) : Version :=
  if v ≤ w then v else w

/-- The lowest of some version texts, none if there are none. The first text that is no version
ends the search: a minimum over part of a fleet is not reported. -/
def lowest? (texts : List String) : Except Error (Option Version) :=
  texts.foldlM
    (fun lowest raw => do
      let v ← parse raw
      return some (match lowest with
        | some current => lower current v
        | none => v))
    none

def isUpgrade (source target : Version) : Bool :=
  (target.major == source.major || target.major == source.major + 1) && source < target

/-- Whether the step between the versions of two texts is an upgrade. The text of the source is read
first. -/
def isUpgradeText (source target : String) : Except Error Bool := do
  let v ← parse source
  let w ← parse target
  return v.isUpgrade w

end SearchOperator.Version
