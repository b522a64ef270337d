import SearchOperator.CommandLine.Fault

/-!
# Reading command lines

The words of a command line are read from the left. A switch that takes a value takes the next word,
unless that looks like a switch, and the value is checked when the next switch or the end comes. A
word that names a subcommand hands all further words over to it. Values that no word gave are taken
from the environment, of the subcommand first.
-/

namespace SearchOperator.CommandLine

/-- Why reading stops before the end: to show a text, or at a fault. -/
inductive Stop where
  | help (text : String)
  | version
  | fault (f : Fault)
deriving DecidableEq, Repr

inductive Source where
  | environment
  | words
deriving DecidableEq, Repr

/-- Something a command was given: a switch by its long name, and its value if it takes one. -/
structure Given where
  long : String
  value : String
  source : Source
deriving DecidableEq, Repr

/-- What was read so far: what the command was given, the last switch that takes a value while that
is not checked, and whether two dashes came. -/
structure Progress where
  given : List Given
  current? : Option (Switch × Setting × Option String)
  afterDashes : Bool

namespace Progress

def start : Progress := ⟨[], none, false⟩

def has (p : Progress) (long : String) : Bool := p.given.any (·.long == long)

def note (p : Progress) (long value : String) (source : Source) : Progress :=
  { p with given := p.given ++ [⟨long, value, source⟩] }

/-- Whether the next word is a value. -/
def awaitsValue (p : Progress) : Bool :=
  match p.current? with
  | some (_, _, none) => true
  | _ => false

end Progress

/-- The switches to name beside one that is unknown: those given, and the current one if it has a
value, right or wrong. A switch that comes again is not named. -/
def Progress.mentioned (p : Progress) : List String :=
  let longs := p.given.map (·.long)
  match p.current? with
  | some (s, _, some _) =>
    if p.has s.long then longs.filter (· != s.long) else longs ++ [s.long]
  | _ => longs

def stopAt {α : Type} (f : Fault) : Except Stop α := .error (.fault f)

def accept (s : Switch) (setting : Setting) (value : String) (source : Source) (p : Progress) :
    Except Stop Progress :=
  match setting.complaint? value with
  | some reason => stopAt (.invalidValue value s.text reason)
  | none => .ok (p.note s.long value source)

/-- Note a switch that may be given once. -/
def acceptOnce (c : Command) (s : Switch) (p : Progress) (note : Except Stop Progress) :
    Except Stop Progress :=
  if p.has s.long then stopAt (.repeated s.text c.usage) else note

def settle (c : Command) (p : Progress) : Except Stop Progress :=
  match p.current? with
  | none => .ok p
  | some (s, _, none) => stopAt (.missingValue s.text)
  | some (s, setting, some value) =>
    let p := { p with current? := none }
    acceptOnce c s p (accept s setting value .words p)

/-- Take a switch that has no value attached. -/
def takeSwitch (c : Command) (environment : Environment) (s : Switch) (p : Progress) :
    Except Stop Progress := do
  let p ← settle c p
  match s.kind with
  | .flag => acceptOnce c s p (.ok (p.note s.long "" .words))
  | .help => throw (.help (c.help environment))
  | .version => throw .version
  | .setting setting => return { p with current? := some (s, setting, none) }

/-- Take a switch by its long name, and the value attached to it if there is one. -/
def takeLong (c : Command) (environment : Environment) (long : String) (value : Option String)
    (p : Progress) : Except Stop Progress :=
  match c.switch? long with
  | none =>
    let similar := (Text.proposals long (c.switches.map (·.long))).getLast?
    let longs := p.mentioned
    let used := match similar with
      | some s => if longs.contains s then longs else longs ++ [s]
      | none => longs
    stopAt (.unexpected ("--" ++ long) similar (c.usageWith used))
  | some s =>
    match value, s.setting? with
    | none, _ => takeSwitch c environment s p
    | some value, some setting => do
      let p ← settle c p
      acceptOnce c s p (accept s setting value .words p)
    | some value, none =>
      stopAt (.unexpectedValue value s.text (c.usageWithFamilies (p.given.map (·.long)) long))

def takeShort (c : Command) (environment : Environment) (short : Char) (p : Progress) :
    Except Stop Progress :=
  match c.shortSwitch? short with
  | some s => takeSwitch c environment s p
  | none => stopAt (.unexpected ("-" ++ String.singleton short) none c.usage)

/-- Refuse a word that is neither a switch nor a value. -/
def refuse (c : Command) (word : String) (p : Progress) : Fault :=
  if p.afterDashes && c.hasSubcommand word then .afterDashes word c.usage
  else if c.subcommands.isEmpty then .unexpected word none c.usage
  else .unknownSubcommand word (Text.proposals word (c.subcommands.map (·.1))) c.usage true

/-- What a word is: two dashes, a switch by its long or short name, or anything else. -/
inductive Word where
  | dashes
  | long (name : String) (value : Option String)
  | short (name : Char)
  | plain
deriving DecidableEq, Repr

def Word.ofText (word : String) : Word :=
  match word.toList with
  | ['-', '-'] => .dashes
  | '-' :: '-' :: rest =>
    let name := rest.takeWhile (· != '=')
    let value := (rest.drop name.length).tail?
    .long (String.ofList name) (value.map String.ofList)
  | '-' :: c :: _ => .short c
  | _ => .plain

/-- Read the words of a command. The result tells which subcommand came, if any, and the words
after it. -/
def scan (c : Command) (environment : Environment) :
    List String → Progress → Except Stop (Progress × Option (String × List String))
  | [], p => .ok (p, none)
  | word :: rest, p =>
    if p.afterDashes then stopAt (refuse c word p)
    else if !p.awaitsValue && c.hasSubcommand word then .ok (p, some (word, rest))
    else
      match Word.ofText word with
      | .dashes => scan c environment rest { p with afterDashes := true }
      | .long name value => do
        let p ← takeLong c environment name value p
        scan c environment rest p
      | .short name => do
        let p ← takeShort c environment name p
        scan c environment rest p
      | .plain =>
        match p.current? with
        | some (s, setting, none) =>
          scan c environment rest { p with current? := some (s, setting, some word) }
        | _ => stopAt (refuse c word p)

/-- Take what was not given from the environment. -/
def fill (environment : Environment) : List Switch → Progress → Except Stop Progress
  | [], p => .ok p
  | s :: rest, p =>
    match s.setting? with
    | some setting =>
      match environment.lookup setting.variableName, p.has s.long with
      | some value, false => do
        let p ← accept s setting value .environment p
        fill environment rest p
      | _, _ => fill environment rest p
    | none => fill environment rest p

def finish (c : Command) (environment : Environment) (p : Progress) :
    Except Stop (List Given) := do
  let p ← settle c p
  let p ← fill environment c.switches p
  return p.given

/-- The value of a switch, given to a command or to its subcommand. The words of the subcommand
count before those of the command, and words before the environment. -/
def value? (outer inner : List Given) (long : String) : Option String :=
  let inWords (given : List Given) : Option Given :=
    given.find? fun g => g.long == long && g.source == .words
  let anywhere (given : List Given) : Option Given := given.find? (·.long == long)
  (inWords inner <|> inWords outer <|> anywhere inner <|> anywhere outer).map (·.value)

end SearchOperator.CommandLine
