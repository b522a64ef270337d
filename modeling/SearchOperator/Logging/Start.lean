import SearchOperator.Json.Text
import SearchOperator.Logging.Filter
import SearchOperator.Logging.Format
import SearchOperator.Kubernetes.Metadata

/-!
# The first line of a log

A log that is started tells its service, its version and its format. As JSON the line is one
object; for people it is set off by colours. The time of a line is put in front of it by whoever
writes it down.
-/

namespace SearchOperator

def startTarget : String := "searchop_common::telemetry"

def startMessage : String := "Telemetry initialized"

namespace LogSettings

def fields (s : LogSettings) : List (String × String) :=
  [("message", startMessage), ("service", s.service), ("version", operatorVersion),
    ("format", s.format.text)]

def jsonLine (s : LogSettings) : String :=
  let fields := Json.orderedText (s.fields.map fun (key, value) => (key, (Json.string value).text))
  Json.orderedText [("level", (Json.string "INFO").text), ("fields", fields),
    ("target", (Json.string startTarget).text)]

/-- A text in a style of terminals, which ends with it. -/
def styled (code s : String) : String := "\x1b[" ++ code ++ "m" ++ s ++ "\x1b[0m"

/-- A field of a line for people: its name slanted, an equals sign dimmed, and the value. -/
def field (name value : String) : String := styled "3" name ++ styled "2" "=" ++ value

def textLine (s : LogSettings) : String :=
  styled "32" " INFO" ++ " " ++ styled "2" startTarget ++ styled "2" ":" ++ " " ++ startMessage ++
    " " ++ field "service" s.service ++ " " ++ field "version" ("\"" ++ operatorVersion ++ "\"") ++
    " " ++ field "format" s.format.text

def firstLine (s : LogSettings) : String :=
  match s.format with
  | .json => s.jsonLine
  | .plain => s.textLine

/-- Start a log in a process that has one already or not, and give the lines it begins with. -/
def start (s : LogSettings) (started : Bool) (filter : LogFilter) : Except LogFault (List String) :=
  if started then .error .alreadyStarted
  else if filter.lets startTarget (s.fields.map (·.1)) .info then .ok [s.firstLine]
  else .ok []

end LogSettings

end SearchOperator
