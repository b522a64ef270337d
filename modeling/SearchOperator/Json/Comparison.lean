import SearchOperator.Json.Value

/-!
# Comparison of documents

Whether an observed document holds at least what a desired one declares. Key order never matters.
Arrays compare item by item, and further observed items are an excess like further members.
Numbers compare by value: integers exactly, and as binary64 numbers where one of the two is a
float.
-/

namespace SearchOperator

/-- How an observed document relates to a desired one. -/
inductive Match where
  /-- The documents are structurally identical. -/
  | full
  /-- The observed document holds everything desired and more. -/
  | superset
  /-- Something desired is missing or different. -/
  | none
deriving DecidableEq, Repr

def Match.isSatisfied : Match → Bool
  | .none => false
  | _ => true

def Number.equal : Number → Number → Bool
  | .integer m, .integer n => m == n
  | m, n =>
    match m.toBinary64?, n.toBinary64? with
    | some x, some y => x.same y
    | _, _ => false

namespace Json

mutual

/-- Structural equality, numbers by value and members by key. -/
def equal : Json → Json → Bool
  | .null, .null => true
  | .bool a, .bool b => a == b
  | .number m, .number n => m.equal n
  | .string s, .string t => s == t
  | .array as, .array bs => equalItems as bs
  | .object as, .object bs => as.length == bs.length && equalMembers bs as
  | _, _ => false
termination_by structural x => x

def equalItems : List Json → List Json → Bool
  | [], [] => true
  | a :: as, b :: bs => equal a b && equalItems as bs
  | _, _ => false
termination_by structural x => x

def equalMembers (others : List (String × Json)) : List (String × Json) → Bool
  | [] => true
  | m :: ms => equalMember others m && equalMembers others ms
termination_by structural x => x

def equalMember (others : List (String × Json)) : String × Json → Bool
  | (k, v) =>
    match Entries.get? k others with
    | some w => equal v w
    | none => false
termination_by structural x => x

end

mutual

/-- Whether everything in the desired document, the second one, is in the observed one. -/
def contains : Json → Json → Bool
  | .object os, .object ds => containsMembers os ds
  | .array os, .array ds => containsItems os ds
  | o, d => equal o d
termination_by structural _ d => d

/-- Whether the first items of an array contain the desired ones. -/
def containsItems : List Json → List Json → Bool
  | _, [] => true
  | [], _ :: _ => false
  | o :: os, d :: ds => contains o d && containsItems os ds
termination_by structural _ ds => ds

def containsMembers (os : List (String × Json)) : List (String × Json) → Bool
  | [] => true
  | d :: ds => containsMember os d && containsMembers os ds
termination_by structural ds => ds

def containsMember (os : List (String × Json)) : String × Json → Bool
  | (k, d) =>
    match Entries.get? k os with
    | some o => contains o d
    | none => false
termination_by structural d => d

end

def compare (observed desired : Json) : Match :=
  if !contains observed desired then .none
  else if equal observed desired then .full
  else .superset

end Json

end SearchOperator
