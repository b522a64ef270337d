import SearchOperator.Json.Value

/-!
# Merge patches

A merge patch is a document that says how another one is to change. An object changes the members
it names and keeps all others: null takes a member away, and any other value is merged into the
member. What is no object replaces the document.
-/

namespace SearchOperator

def Entries.erase {α : Type} (key : String) (entries : List (String × α)) : List (String × α) :=
  entries.filter fun e => e.1 ≠ key

namespace Json

mutual

def mergePatch (target : Json) : Json → Json
  | .object members => .object (mergeMembers (target.members?.getD []) members)
  | .null => .null
  | .bool b => .bool b
  | .number n => .number n
  | .string s => .string s
  | .array items => .array items
termination_by structural patch => patch

/-- Apply the members of a merge patch to those of an object, one after the other. -/
def mergeMembers (target : List (String × Json)) : List (String × Json) → List (String × Json)
  | [] => target
  | m :: rest => mergeMembers (mergeMember target m) rest
termination_by structural members => members

def mergeMember (target : List (String × Json)) : String × Json → List (String × Json)
  | (key, .null) => Entries.erase key target
  | (key, value) =>
    Entries.insert key (mergePatch ((Entries.get? key target).getD .null) value) target
termination_by structural m => m

end

end Json

end SearchOperator
