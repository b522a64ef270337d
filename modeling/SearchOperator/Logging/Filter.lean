import SearchOperator.Text.Blank
import SearchOperator.Text.Split

/-!
# Log filters

A filter is a list of directives separated by commas. A directive sets the level of all lines, or
of those whose target begins with a text, or of those that have a field. Of several that match, the
one with the longest text counts, a field decides between equal texts, and of equal directives the
last counts. Directives on spans say nothing about lines outside of spans.
-/

namespace SearchOperator

/-- How much a filter lets through: every line at least as grave as the level. -/
inductive LogLevel where
  | off
  | error
  | warn
  | info
  | debug
  | trace
deriving DecidableEq, Repr

namespace LogLevel

def names : List (String × LogLevel) :=
  [("off", .off), ("error", .error), ("warn", .warn), ("info", .info), ("debug", .debug),
    ("trace", .trace)]

/-- How much a level lets through, as a number. -/
def rank : LogLevel → Nat
  | .off => 0
  | .error => 1
  | .warn => 2
  | .info => 3
  | .debug => 4
  | .trace => 5

def number? (cs : List Char) : Option Nat :=
  let digits := if cs.head? = some '+' then cs.tail else cs
  if digits.isEmpty || !digits.all Text.isDigit then none
  else some (digits.foldl (fun n c => 10 * n + (c.toNat - 48)) 0)

/-- The level that a text names, by its name in any case or by its rank. Nothing names the level of
errors. -/
def ofText? (s : String) : Option LogLevel :=
  if s = "" then some .error
  else
    match number? s.toList with
    | some n => (names.find? fun (_, level) => n == level.rank).map (·.2)
    | none => names.lookup (Text.lowerAscii s)

end LogLevel

/-- A directive: the level of the lines whose target begins with a text, and that have a field if
one is named. -/
structure LogDirective where
  target : String
  field : Option String
  level : LogLevel
deriving DecidableEq, Repr

structure LogFilter where
  directives : List LogDirective
deriving DecidableEq, Repr

namespace LogFilter

/-- The filter of the operator's log unless told otherwise. -/
def initial : LogFilter :=
  ⟨[⟨"", none, .info⟩, ⟨"searchop", none, .debug⟩, ⟨"kube", none, .info⟩, ⟨"tower", none, .warn⟩,
    ⟨"hyper", none, .warn⟩]⟩

def isStart (c : Char) : Bool :=
  c.isAlphanum || c == '-' || c == ':' || c == '_' || 0x7F < c.toNat

/-- Read the level after an equals sign. Without one every line is let through. -/
def levelOrAll? (cs : List Char) : Option LogLevel :=
  if cs.isEmpty then some .trace else LogLevel.ofText? (String.ofList cs)

/-- What stands between brackets: the name of a span, and a field of it. -/
structure SpanPattern where
  name : Option (List Char)
  field : Option (List Char)

def spanPattern? (cs : List Char) : Option (SpanPattern × List Char) :=
  let name := cs.takeWhile fun c => c != ']' && c != '\x7b'
  match cs.drop name.length with
  | ']' :: after => some (⟨some name, none⟩, after)
  | '\x7b' :: rest =>
    let field := rest.takeWhile (· != '\x7d')
    match rest.drop field.length with
    | '\x7d' :: ']' :: after =>
      if field.isEmpty then none
      else some (⟨if name.isEmpty then none else some name, some field⟩, after)
    | _ => none
  | _ => none

/-- The directive on lines outside of spans that a pattern makes, if it makes one: it names a field,
but no span and no value. -/
def SpanPattern.directive? (p : SpanPattern) (target : String) (level : LogLevel) :
    Option LogDirective :=
  match p.name, p.field with
  | none, some field =>
    if field.contains '=' then none else some ⟨target, some (String.ofList field), level⟩
  | _, _ => none

/-- Read one directive. One on a span is well formed but sets no level outside of it. The parts of a
directive are found without the blanks around it, but cut out of it with them. -/
def directive? (part : List Char) : Option (List LogDirective) :=
  let s := (Text.trim (String.ofList part)).toList
  let cut (rest : List Char) : List Char := part.drop (s.length - rest.length)
  let target := s.takeWhile fun c => c != '=' && c != '['
  let name := String.ofList (part.take target.length)
  if s.isEmpty || !target.head?.all isStart then none
  else
    match s.drop target.length with
    | [] =>
      match LogLevel.ofText? (String.ofList part) with
      | some level => some [⟨"", none, level⟩]
      | none => some [⟨String.ofList part, none, .trace⟩]
    | c :: rest =>
      if c = '=' then
        if target.isEmpty then none
        else (levelOrAll? (cut rest)).map fun level => [⟨name, none, level⟩]
      else do
        let (pattern, after) ← spanPattern? rest
        let level ← match after with
          | [] => some .trace
          | c :: level => if c = '=' then levelOrAll? (cut level) else none
        return (pattern.directive? name level).toList

/-- Read a filter. A filter without directives lets errors through. -/
def ofText? (s : String) : Option LogFilter := do
  let parts := (Text.splitOn ',' s.toList).filter fun part => !part.isEmpty
  let directives ← parts.mapM directive?
  if parts.isEmpty then return ⟨[⟨"", none, .error⟩]⟩ else return ⟨directives.flatten⟩

/-- The filter that an environment asks for; one that does not read counts as none. -/
def ofEnvironment (setting : Option String) : LogFilter :=
  (setting.bind ofText?).getD initial

/-- Of two directives on one line, the one that counts. -/
def moreSpecific (a b : LogDirective) : LogDirective :=
  if a.target.length ≠ b.target.length then if a.target.length < b.target.length then b else a
  else
    match a.field, b.field with
    | some f, some g => if g < f then a else b
    | some _, none => a
    | none, _ => b

def lets (f : LogFilter) (target : String) (fields : List String) (level : LogLevel) : Bool :=
  let matching := f.directives.filter fun d =>
    d.target.toList.isPrefixOf target.toList && d.field.all fields.contains
  match matching with
  | [] => false
  | d :: ds => level.rank ≤ (ds.foldl moreSpecific d).level.rank

end LogFilter

end SearchOperator
