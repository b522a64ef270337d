import SearchOperator.Decimal.Shortest
import SearchOperator.Dictionary

/-!
# JSON documents

A document is null, a boolean, a number, a string, an array or an object. Numbers are integers of
a 64-bit word, signed or unsigned, or finite binary64 numbers; the two kinds stay apart. The
members of an object are kept in the order of their keys.
-/

namespace SearchOperator

/-- An integer that a signed or an unsigned word of 64 bits holds. -/
structure WordInt where
  val : Int
  low : -0x8000000000000000 ≤ val
  high : val < 0x10000000000000000
deriving DecidableEq, Repr

inductive Number where
  | integer (n : WordInt)
  | float (x : Binary64)
deriving DecidableEq, Repr

namespace WordInt

def ofInt? (n : Int) : Option WordInt :=
  if h : -0x8000000000000000 ≤ n ∧ n < 0x10000000000000000 then some ⟨n, h.1, h.2⟩ else none

def ofInt64 (n : Int64) : WordInt :=
  ⟨n.toInt, by simpa using n.le_toInt, by have := n.toInt_lt; omega⟩

end WordInt

/-- Equality of numbers of one kind. An integer and a float are never equal here. -/
def Number.same : Number → Number → Bool
  | .integer m, .integer n => m == n
  | .float x, .float y => x.same y
  | _, _ => false

/-- The binary64 number nearest to a number. -/
def Number.toBinary64? : Number → Option Binary64
  | .integer n => (Binary64.ofNat? n.val.natAbs).map fun x => if n.val < 0 then x.neg else x
  | .float x => some x

inductive Json where
  | null
  | bool (b : Bool)
  | number (n : Number)
  | string (s : String)
  | array (items : List Json)
  | object (members : List (String × Json))
deriving Repr

namespace Json

instance : Inhabited Json := ⟨.null⟩

mutual

/-- Equality of documents: numbers by kind and value, arrays and objects part by part. -/
def same : Json → Json → Bool
  | .null, .null => true
  | .bool a, .bool b => a == b
  | .number m, .number n => m.same n
  | .string s, .string t => s == t
  | .array as, .array bs => sameItems as bs
  | .object as, .object bs => sameMembers as bs
  | _, _ => false
termination_by structural x => x

def sameItems : List Json → List Json → Bool
  | [], [] => true
  | a :: as, b :: bs => same a b && sameItems as bs
  | _, _ => false
termination_by structural x => x

def sameMembers : List (String × Json) → List (String × Json) → Bool
  | [], [] => true
  | a :: as, b :: bs => sameMember a b && sameMembers as bs
  | _, _ => false
termination_by structural x => x

def sameMember : String × Json → String × Json → Bool
  | (k, a), (l, b) => k == l && same a b
termination_by structural x => x

end

instance : BEq Json := ⟨same⟩

/-- The integer of a machine word as a document, or null beyond the word. -/
def ofInt (n : Int) : Json :=
  match WordInt.ofInt? n with
  | some w => .number (.integer w)
  | none => .null

def ofNat (n : Nat) : Json := ofInt n

/-- A document that may be absent, which null stands for. -/
def ofOption {α : Type} (f : α → Json) : Option α → Json
  | some a => f a
  | none => .null

/-- An object from members in any order; of several with one key the last counts. -/
def ofMembers (members : List (String × Json)) : Json :=
  .object (Entries.ofList members)

def ofTexts (d : Dictionary String) : Json :=
  .object (d.entries.map fun (k, v) => (k, .string v))

def get? (key : String) : Json → Option Json
  | .object members => Entries.get? key members
  | _ => none

def bool? : Json → Option Bool
  | .bool b => some b
  | _ => none

def string? : Json → Option String
  | .string s => some s
  | _ => none

def int? : Json → Option Int
  | .number (.integer n) => some n.val
  | _ => none

def items? : Json → Option (List Json)
  | .array items => some items
  | _ => none

def members? : Json → Option (List (String × Json))
  | .object members => some members
  | _ => none

end Json

end SearchOperator
