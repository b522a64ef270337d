import SearchOperator.Text.Blank

/-!
# Log formats

A log is written in one of two formats, chosen by name. A process starts its log once.
-/

namespace SearchOperator

inductive LogFormat where
  /-- One JSON object a line. -/
  | json
  /-- Lines for people to read. -/
  | plain
deriving DecidableEq, Repr

inductive LogFault where
  /-- No format has the name. -/
  | unknownFormat (name : String)
  /-- The process has a log already. -/
  | alreadyStarted
deriving DecidableEq, Repr

def LogFault.message : LogFault → String
  | .unknownFormat name => "unknown log format '" ++ name ++ "', expected 'json' or 'text'"
  | .alreadyStarted =>
    "failed to initialize tracing subscriber: a global default trace dispatcher has already been set"

namespace LogFormat

def text : LogFormat → String
  | .json => "json"
  | .plain => "text"

/-- The format with a name, blanks around it and the case of ASCII letters aside. -/
def ofText (s : String) : Except LogFault LogFormat :=
  let name := Text.lowerAscii (Text.trim s)
  if name = "json" then .ok .json
  else if name = "text" ∨ name = "pretty" then .ok .plain
  else .error (.unknownFormat name)

end LogFormat

structure LogSettings where
  service : String
  format : LogFormat
deriving DecidableEq, Repr

def LogSettings.initial : LogSettings := ⟨"searchop", .json⟩

instance : Inhabited LogSettings := ⟨LogSettings.initial⟩

end SearchOperator
