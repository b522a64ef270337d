import SearchOperator.Json.Document
import SearchOperator.Json.Skipping
import SearchOperator.Text.Quoted

/-!
# Typed reading

Readers for documents of a known shape. A document of another kind is a mismatch, which names what
was found and what was expected. A record is an object with known members, or the array of their
values in the order of declaration; members it does not know are passed over.
-/

namespace SearchOperator.Json

/-- A reader that knows how many more brackets may be opened. -/
abbrev Typed (α : Type) := Nat → Reader α

namespace Reader

/-- Report a mismatch whose place an enclosing reader gives. -/
def mismatch {α : Type} (message : String) : Reader α := fun rest =>
  (.error (.pending message), rest)

def numberName : Number → String
  | .integer n => "integer \x60" ++ toString n.val ++ "\x60"
  | .float x => "floating point \x60" ++ x.text ++ "\x60"

def invalidType {α : Type} (found expected : String) : Reader α :=
  mismatch ("invalid type: " ++ found ++ ", expected " ++ expected)

/-- Read the scalar that comes next, or look at the bracket, and report it as a mismatch. -/
def unexpected {α : Type} (expected : String) : Reader α := do
  match ← peek? with
  | none => failNext .expectedValue
  | some b =>
    if b = 0x6E then
      skip
      word restOfNull
      invalidType "null" expected
    else if b = 0x74 then
      skip
      word restOfTrue
      invalidType "boolean \x60true\x60" expected
    else if b = 0x66 then
      skip
      word restOfFalse
      invalidType "boolean \x60false\x60" expected
    else if b = 0x2D then
      skip
      invalidType (numberName (← numberAfterSign true)) expected
    else if isDigit b then invalidType (numberName (← numberAfterSign false)) expected
    else if b = 0x22 then
      skip
      invalidType ("string " ++ Text.quoted (← restOfString)) expected
    else if b = 0x5B then invalidType "sequence" expected
    else if b = 0x7B then invalidType "map" expected
    else failNext .expectedValue

def token : Reader UInt8 := do
  match ← peekToken? with
  | none => failNext .endInValue
  | some b => return b

/-- Read a string, called `expected` in a mismatch. -/
def stringAs (expected : String) : Reader String := place do
  if (← token) = 0x22 then
    skip
    restOfString
  else unexpected expected

def string : Reader String := stringAs "a string"

/-- Read an integer between two bounds, called `expected` in a mismatch. -/
def integer (expected : String) (low high : Int) : Reader Int := place do
  let b ← token
  let n ←
    if b = 0x2D then do
      skip
      numberAfterSign true
    else if isDigit b then numberAfterSign false
    else unexpected expected
  match n with
  | .integer n =>
    if low ≤ n.val && n.val ≤ high then return n.val
    else mismatch ("invalid value: " ++ numberName (.integer n) ++ ", expected " ++ expected)
  | .float x => invalidType (numberName (.float x)) expected

def boolean : Reader Bool := place do
  let b ← token
  if b = 0x74 then
    skip
    word restOfTrue
    return true
  else if b = 0x66 then
    skip
    word restOfFalse
    return false
  else unexpected "a boolean"

/-- Read null as nothing and all else by a reader. -/
def optional {α : Type} (r : Reader α) : Reader (Option α) := do
  match ← peekToken? with
  | some b =>
    if b = 0x6E then
      skip
      word restOfNull
      return none
    else return some (← r)
  | none => return some (← r)

def listOf {α : Type} (item : Typed α) : Typed (List α) := fun depth => place do
  if (← token) = 0x5B then
    match depth with
    | 0 => failNext .tooDeep
    | depth + 1 =>
      skip
      bracketed endArray do items (item depth) (← fuel) true
  else unexpected "a sequence"

/-- Read an object of values by key; of several with one key the last counts. -/
def dictionaryOf {α : Type} (value : Typed α) : Typed (Dictionary α) := fun depth => place do
  if (← token) = 0x7B then
    match depth with
    | 0 => failNext .tooDeep
    | depth + 1 =>
      skip
      bracketed endObject do
        let member (key : String) (d : Dictionary α) : Reader (Dictionary α) := do
          colon
          return d.insert key (← value depth)
        members member (← fuel) true ∅
  else unexpected "a map"

/-- Read one of several names, as a string or as the only key of an object whose value is null. -/
def variant {α : Type} (names : List (String × α)) : Typed α := fun depth => do
  let find (name : String) : Reader α :=
    match names.lookup name with
    | some a => pure a
    | none =>
      let known := names.map fun (n, _) => "\x60" ++ n ++ "\x60"
      mismatch ("unknown variant \x60" ++ name ++ "\x60, expected one of " ++
        String.intercalate ", " known)
  let b ← token
  if b = 0x22 then
    place do
      skip
      find (← restOfString)
  else if b = 0x7B then
    if depth = 0 then failNext .tooDeep
    skip
    let a ← place do
      if (← token) = 0x22 then
        skip
        find (← restOfString)
      else unexpected "variant identifier"
    colon
    place do
      if (← token) = 0x6E then
        skip
        word restOfNull
      else unexpected "unit"
    match ← peekToken? with
    | none => fail .endInObject
    | some b =>
      if b = 0x7D then skip else fail .expectedValue
    return a
  else failNext .expectedValue

end Reader

/-- A member of a record that is read into a draft. -/
structure Field (δ : Type) where
  key : String
  required : Bool
  isSet : δ → Bool
  read : Typed (δ → δ)

/-- How a record is read: its members in the order of declaration, whether a repeated member is an
error or the last one counts, and whether the array of their values is read as well. -/
structure Record (δ : Type) where
  name : String
  fields : List (Field δ)
  unique : Bool
  hasListForm : Bool := unique
  blank : δ

namespace Record

variable {δ : Type}

def member (r : Record δ) (depth : Nat) (key : String) (draft : δ) : Reader δ := do
  match r.fields.find? (·.key == key) with
  | some field =>
    if r.unique && field.isSet draft then
      Reader.mismatch ("duplicate field \x60" ++ key ++ "\x60")
    Reader.colon
    return (← field.read depth) draft
  | none =>
    Reader.colon
    Reader.skipDocument
    return draft

/-- Report the first required member that the draft lacks. -/
def checkMissing (r : Record δ) (draft : δ) : Reader δ :=
  match r.fields.find? fun field => field.required && !field.isSet draft with
  | some field => Reader.mismatch ("missing field \x60" ++ field.key ++ "\x60")
  | none => pure draft

def elements (r : Record δ) (depth : Nat) :
    List (Field δ) → Nat → Bool → δ → Reader δ
  | [], _, _, draft => pure draft
  | field :: rest, index, first, draft => do
    if ← Reader.hasItem first then
      elements r depth rest (index + 1) false ((← field.read depth) draft)
    else if field.required then
      let count := r.fields.length
      let plural := if count = 1 then "element" else "elements"
      Reader.mismatch ("invalid length " ++ toString index ++ ", expected struct " ++ r.name ++
        " with " ++ toString count ++ " " ++ plural)
    else elements r depth rest (index + 1) first draft

def read (r : Record δ) : Typed δ := fun depth => Reader.place do
  let b ← Reader.token
  if b = 0x7B then
    match depth with
    | 0 => Reader.failNext .tooDeep
    | depth + 1 =>
      Reader.skip
      Reader.bracketed Reader.endObject do
        let draft ← Reader.members (r.member depth) (← Reader.fuel) true r.blank
        r.checkMissing draft
  else if b = 0x5B && r.hasListForm then
    match depth with
    | 0 => Reader.failNext .tooDeep
    | depth + 1 =>
      Reader.skip
      Reader.bracketed Reader.endArray do
        r.elements depth r.fields 0 true r.blank
  else Reader.unexpected ("struct " ++ r.name)

end Record

namespace Field

variable {δ : Type}

/-- A member that may be missing or null and must have a shape, but whose value is not kept. -/
def checked {α : Type} (key : String) (r : Typed α) : Field δ :=
  ⟨key, false, fun _ => false, fun depth => do
    let _ ← Reader.optional (r depth)
    return id⟩

/-- A member that may be missing or null and is kept. -/
def kept {α : Type} (key : String) (r : Typed α) (set : Option α → δ → δ) : Field δ :=
  ⟨key, false, fun _ => false, fun depth => do
    let value ← Reader.optional (r depth)
    return set value⟩

/-- A member that may be missing but must be a given text if it is there. -/
def fixed (key expected : String) : Field δ :=
  ⟨key, false, fun _ => false, fun _ => do
    Reader.place do
      let s ← Reader.string
      if s ≠ expected then
        Reader.mismatch ("invalid value: string " ++ Text.quoted s ++ ", expected " ++ expected)
    return id⟩

end Field

def Record.shape (name : String) (fields : List (Field Unit)) : Record Unit where
  name := name
  fields := fields
  unique := false
  blank := ()

def Reader.anyObject : Typed Unit := fun depth => do
  let _ ← Reader.dictionaryOf (fun _ => Reader.skipDocument) depth

/-- Read a whole input of a known shape; a fault is given as text. -/
def readTyped {α : Type} (r : Typed α) (input : Bytes) : Except String α :=
  match (r depthLimit).run input with
  | .ok a => .ok a
  | .error fault => .error (fault.text input)

end SearchOperator.Json
