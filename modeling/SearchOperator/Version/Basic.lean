import SearchOperator.Error
import SearchOperator.Text.Blank
import SearchOperator.Text.Split

/-!
# Versions

A version is `major.minor.patch`, optionally followed by a hyphen and a pre-release text, and
then by a plus sign and build metadata, which are dropped. Reading a version names the first fault
it meets; writing one gives a text that reads back.
-/

namespace SearchOperator

/-- A version; the pre-release text of a release is empty. -/
structure Version where
  major : Nat
  minor : Nat
  patch : Nat
  pre : String
deriving DecidableEq, Repr

namespace Version

inductive Fault where
  | emptyBuild
  | emptyPreRelease
  | missing (component : String)
  | notANumber (component part : String)
  | tooLarge (component part : String)
  | extraComponent
deriving DecidableEq, Repr

def Fault.message : Fault → String
  | .emptyBuild => "empty build metadata"
  | .emptyPreRelease => "empty pre-release"
  | .missing component => "missing " ++ component
  | .notANumber component part => component ++ " '" ++ part ++ "' is not a number"
  | .tooLarge component part =>
    component ++ " '" ++ part ++ "': number too large to fit in target type"
  | .extraComponent => "expected exactly three numeric components"

def digitsValue (cs : List Char) : Nat :=
  cs.foldl (fun n c => 10 * n + (c.toNat - 48)) 0

/-- Read a component: decimal digits of a number below 2^64. -/
def readComponent (component : String) : Option (List Char) → Except Fault Nat
  | none => .error (.missing component)
  | some part =>
    if part.isEmpty || !part.all Text.isDigit then
      .error (.notANumber component (String.ofList part))
    else if digitsValue part < 0x10000000000000000 then .ok (digitsValue part)
    else .error (.tooLarge component (String.ofList part))

def withoutBuild (cs : List Char) : Except Fault (List Char) :=
  match Text.splitOnce '+' cs with
  | some (_, []) => .error .emptyBuild
  | some (before, _) => .ok before
  | none => .ok cs

def splitPreRelease (cs : List Char) : Except Fault (List Char × List Char) :=
  match Text.splitOnce '-' cs with
  | some (_, []) => .error .emptyPreRelease
  | some (core, pre) => .ok (core, pre)
  | none => .ok (cs, [])

/-- Read a version, naming the first fault. -/
def read (cs : List Char) : Except Fault Version := do
  let (core, pre) ← splitPreRelease (← withoutBuild cs)
  let parts := Text.splitOn '.' core
  let major ← readComponent "major" parts[0]?
  let minor ← readComponent "minor" parts[1]?
  let patch ← readComponent "patch" parts[2]?
  if 3 < parts.length then throw .extraComponent
  return ⟨major, minor, patch, String.ofList pre⟩

/-- Read a version; an error carries the whole text. -/
def parse (raw : String) : Except Error Version :=
  match read raw.toList with
  | .ok v => .ok v
  | .error fault => .error (.malformedVersion raw fault.message)

def isPreRelease (v : Version) : Bool := v.pre != ""

def text (v : Version) : String :=
  let triple := toString v.major ++ "." ++ toString v.minor ++ "." ++ toString v.patch
  if v.isPreRelease then triple ++ "-" ++ v.pre else triple

def release (major minor patch : Nat) : Version := ⟨major, minor, patch, ""⟩

end Version

end SearchOperator
