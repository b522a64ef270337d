import SearchOperator.Text.Similarity

/-!
# Commands

A command has switches and may have subcommands. A switch is on or off, asks for help or for the
version, or takes a value, which an environment variable may give as well. A value is checked where
it is read. The help of a command tells all this.
-/

namespace SearchOperator.CommandLine

/-- A switch with a value: what stands for the value in help, the environment variable that gives
it, the value it has otherwise, and what is wrong with a value. -/
structure Setting where
  placeholder : String
  variableName : String
  initial : Option String
  complaint? : String → Option String

inductive SwitchKind where
  | flag
  | help
  | version
  | setting (s : Setting)

structure Switch where
  long : String
  short : Option Char
  about : String
  kind : SwitchKind

/-- A command: the words that call it, its switches, the long names of switches that form a family,
its subcommands with what they are about, and its arguments, as they stand in help, with what they
are about. -/
structure Command where
  path : String
  about : String
  switches : List Switch
  families : List (List String)
  subcommands : List (String × String)
  arguments : Option (String × String)

abbrev Environment := List (String × String)

namespace Switch

def setting? (s : Switch) : Option Setting :=
  match s.kind with
  | .setting setting => some setting
  | _ => none

def text (s : Switch) : String :=
  match s.setting? with
  | some setting => "--" ++ s.long ++ " <" ++ setting.placeholder ++ ">"
  | none => "--" ++ s.long

/-- Whether the switch is named in the help of a command only for itself. -/
def isStandard (s : Switch) : Bool :=
  match s.kind with
  | .help => true
  | .version => true
  | _ => false

/-- What a switch is about, its environment variable and its value otherwise. -/
def details (s : Switch) (environment : Environment) : String :=
  match s.setting? with
  | none => s.about
  | some setting =>
    let given := " [env: " ++ setting.variableName ++ "=" ++
      (environment.lookup setting.variableName).getD "" ++ "]"
    let initial := match setting.initial with
      | some value => " [default: " ++ value ++ "]"
      | none => ""
    s.about ++ given ++ initial

/-- The switch in help: how it is written, and below what it is about. -/
def help (s : Switch) (environment : Environment) : String :=
  let short := match s.short with
    | some c => "  -" ++ String.singleton c ++ ", "
    | none => "      "
  short ++ s.text ++ "\n          " ++ s.details environment ++ "\n"

end Switch

namespace Command

def switch? (c : Command) (long : String) : Option Switch := c.switches.find? (·.long == long)

def shortSwitch? (c : Command) (short : Char) : Option Switch :=
  c.switches.find? (·.short == some short)

def hasSubcommand (c : Command) (name : String) : Bool := (c.subcommands.lookup name).isSome

def usage (c : Command) : String :=
  let switches := if c.switches.any (!·.isStandard) then " [OPTIONS]" else ""
  let arguments := match c.arguments with
    | some (name, _) => " " ++ name
    | none => ""
  let subcommands := if c.subcommands.isEmpty then "" else " [COMMAND]"
  "Usage: " ++ c.path ++ switches ++ arguments ++ subcommands

def switchTexts (c : Command) (longs : List String) : List String :=
  (longs.filterMap c.switch?).map (·.text)

/-- How the command is used with some switches, or in general if there are none. -/
def usageWith (c : Command) (used : List String) : String :=
  match c.switchTexts used with
  | [] => c.usage
  | texts => "Usage: " ++ c.path ++ String.join (texts.map (" " ++ ·))

/-- How the command is used with switches that were given and one more. The family of a switch that
was given stands for its members, after all that has no such family. -/
def usageWithFamilies (c : Command) (given : List String) (long : String) : String :=
  let families := c.families.filter fun family => family.any given.contains
  let single := (given ++ [long]).eraseDups.filter fun name => !families.any (·.contains name)
  let choices := families.map fun family =>
    "<" ++ String.intercalate "|" (c.switchTexts family) ++ ">"
  "Usage: " ++ c.path ++ String.join ((c.switchTexts single ++ choices).map (" " ++ ·))

/-- A line of a table in help, with the first column filled up to a width. -/
def row (width : Nat) (name about : String) : String :=
  "  " ++ name ++ String.ofList (List.replicate (width - name.length) ' ') ++ "  " ++ about ++ "\n"

/-- A part of help under a heading, if there is anything in it. -/
def helpPart (heading : String) (lines : List String) : String :=
  if lines.isEmpty then "" else "\n" ++ heading ++ ":\n" ++ String.join lines

def help (c : Command) (environment : Environment) : String :=
  let width := (c.subcommands.map (·.1.length)).foldl max 0
  c.about ++ "\n\n" ++ c.usage ++ "\n" ++
    helpPart "Commands" (c.subcommands.map fun (name, about) => row width name about) ++
    helpPart "Arguments" (c.arguments.toList.map fun (name, about) => row 0 name about) ++
    helpPart "Options" (c.switches.map (·.help environment))

end Command

end SearchOperator.CommandLine
