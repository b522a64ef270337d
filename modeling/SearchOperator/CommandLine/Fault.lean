import SearchOperator.CommandLine.Command

/-!
# Faults of command lines

What can be wrong with a command line, and how it is told: what is wrong, what may have been meant,
how the command is used, and where to read more.
-/

namespace SearchOperator.CommandLine

inductive Fault where
  /-- No switch has the name; one of a similar name may be meant. -/
  | unexpected (argument : String) (similar : Option String) (usage : String)
  /-- A subcommand stands after two dashes. -/
  | afterDashes (argument : String) (usage : String)
  /-- A value of a switch breaks a rule. -/
  | invalidValue (value switch reason : String)
  /-- A switch lacks its value. -/
  | missingValue (switch : String)
  /-- A switch without a value got one. -/
  | unexpectedValue (value switch usage : String)
  /-- A switch is given twice. -/
  | repeated (switch usage : String)
  /-- No subcommand has the name; some of similar names may be meant. -/
  | unknownSubcommand (name : String) (similar : List String) (usage : String) (hasHelp : Bool)
deriving DecidableEq, Repr

namespace Fault

def headline : Fault → String
  | .unexpected argument _ _ => "unexpected argument '" ++ argument ++ "' found"
  | .afterDashes argument _ => "unexpected argument '" ++ argument ++ "' found"
  | .invalidValue value switch reason =>
    "invalid value '" ++ value ++ "' for '" ++ switch ++ "': " ++ reason
  | .missingValue switch => "a value is required for '" ++ switch ++ "' but none was supplied"
  | .unexpectedValue value switch _ =>
    "unexpected value '" ++ value ++ "' for '" ++ switch ++ "' found; no more were expected"
  | .repeated switch _ => "the argument '" ++ switch ++ "' cannot be used multiple times"
  | .unknownSubcommand name _ _ _ => "unrecognized subcommand '" ++ name ++ "'"

/-- What may have been meant. -/
def tip : Fault → Option String
  | .unexpected _ (some similar) _ => some ("a similar argument exists: '--" ++ similar ++ "'")
  | .afterDashes argument _ =>
    some ("subcommand '" ++ argument ++ "' exists; to use it, remove the '--' before it")
  | .unknownSubcommand _ [one] _ _ => some ("a similar subcommand exists: '" ++ one ++ "'")
  | .unknownSubcommand _ (one :: more) _ _ =>
    let names := (one :: more).map fun name => "'" ++ name ++ "'"
    some ("some similar subcommands exist: " ++ String.intercalate ", " names)
  | _ => none

def usage : Fault → Option String
  | .unexpected _ _ usage => some usage
  | .afterDashes _ usage => some usage
  | .unexpectedValue _ _ usage => some usage
  | .repeated _ usage => some usage
  | .unknownSubcommand _ _ usage _ => some usage
  | .invalidValue .. => none
  | .missingValue _ => none

def hasHelp : Fault → Bool
  | .unknownSubcommand _ _ _ hasHelp => hasHelp
  | _ => true

def text (f : Fault) : String :=
  let tip := match f.tip with
    | some tip => "\n\n  tip: " ++ tip
    | none => ""
  let usage := match f.usage with
    | some usage => "\n\n" ++ usage
    | none => ""
  let more := if f.hasHelp then "\n\nFor more information, try '--help'.\n" else "\n"
  "error: " ++ f.headline ++ tip ++ usage ++ more

end Fault

end SearchOperator.CommandLine
