import SearchOperator.Text.Blank

/-!
# Points in time

A point in time is written as a date, a time of day and an offset from universal time, and is read
as milliseconds since the start of 1970. What is finer than a millisecond is dropped.
-/

namespace SearchOperator.Instant

def isLeap (year : Nat) : Bool := year % 4 == 0 && (year % 100 != 0 || year % 400 == 0)

def daysInMonth (year month : Nat) : Nat :=
  if month = 2 then if isLeap year then 29 else 28
  else if month = 4 ∨ month = 6 ∨ month = 9 ∨ month = 11 then 30
  else 31

/-- How many days of the calendar lie before a year. -/
def daysBeforeYear (year : Nat) : Int :=
  let past : Int := (year : Int) - 1
  365 * past + past / 4 - past / 100 + past / 400

/-- How many days lie between the start of 1970 and a date. -/
def dayNumber (year month day : Nat) : Int :=
  let months := (List.range (month - 1)).foldl (fun n m => n + daysInMonth year (m + 1)) 0
  daysBeforeYear year - daysBeforeYear 1970 + months + day - 1

/-- Take a number of a fixed count of digits. -/
def digits (count : Nat) (cs : List Char) : Option (Nat × List Char) :=
  let ds := cs.take count
  if ds.length = count && ds.all Text.isDigit then
    some (ds.foldl (fun n c => 10 * n + (c.toNat - 48)) 0, cs.drop count)
  else none

def oneOf (allowed : List Char) : List Char → Option (List Char)
  | [] => none
  | c :: rest => if allowed.contains c then some rest else none

/-- Take a date, as its number of days. -/
def date (cs : List Char) : Option (Int × List Char) := do
  let (year, cs) ← digits 4 cs
  let cs ← oneOf ['-'] cs
  let (month, cs) ← digits 2 cs
  let cs ← oneOf ['-'] cs
  let (day, cs) ← digits 2 cs
  if month < 1 || 12 < month || day < 1 || daysInMonth year month < day then none
  else some (dayNumber year month day, cs)

/-- Take a fraction of a second, in milliseconds, if there is one. -/
def fraction : List Char → Option (Nat × List Char)
  | '.' :: cs =>
    let ds := cs.takeWhile Text.isDigit
    if ds.isEmpty then none
    else
      let n := ((ds ++ ['0', '0']).take 3).foldl (fun n c => 10 * n + (c.toNat - 48)) 0
      some (n, cs.drop ds.length)
  | cs => some (0, cs)

/-- Take a time of day, in milliseconds. A second may be added to the last one of a minute. -/
def timeOfDay (cs : List Char) : Option (Nat × List Char) := do
  let (hour, cs) ← digits 2 cs
  let cs ← oneOf [':'] cs
  let (minute, cs) ← digits 2 cs
  let cs ← oneOf [':'] cs
  let (second, cs) ← digits 2 cs
  let (milliseconds, cs) ← fraction cs
  if 23 < hour || 59 < minute || 60 < second then none
  else some (((hour * 60 + minute) * 60 + second) * 1000 + milliseconds, cs)

/-- Read an offset from universal time to the end, in milliseconds. -/
def offset (cs : List Char) : Option Int :=
  match cs with
  | [c] => if c = 'Z' ∨ c = 'z' then some 0 else none
  | sign :: cs => do
    let negative ← if sign = '-' then some true else if sign = '+' then some false else none
    let (hour, cs) ← digits 2 cs
    let cs ← oneOf [':'] cs
    let (minute, cs) ← digits 2 cs
    if 23 < hour || 59 < minute || !cs.isEmpty then none
    else
      let n : Int := ((hour * 60 + minute) * 60000 : Nat)
      some (if negative then -n else n)
  | [] => none

/-- The milliseconds since the start of 1970 that a text names. -/
def ofText? (s : String) : Option Int := do
  let (days, cs) ← date s.toList
  let cs ← oneOf ['T', 't', ' '] cs
  let (milliseconds, cs) ← timeOfDay cs
  let shift ← offset cs
  return days * 86400000 + milliseconds - shift

end SearchOperator.Instant
