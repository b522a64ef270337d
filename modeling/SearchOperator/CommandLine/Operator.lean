import SearchOperator.CommandLine.Reading
import SearchOperator.Logging.Start
import SearchOperator.Manifest

/-!
# The operator's command line

The operator prints the manifests of its kinds, or starts its log and runs its controllers, which is
what it does unless told otherwise. Without a cluster to connect to it ends there.
-/

namespace SearchOperator.CommandLine

def operatorName : String := "searchop"

def operatorAbout : String :=
  "searchop operator binary hosting the SearchCluster and SearchConfig controllers"

def controllerAbout : String :=
  "Run the SearchCluster and SearchConfig controllers (default mode)"

def helpAbout : String := "Print this message or the help of the given subcommand(s)"

/-! ## Settings -/

/-- What is wrong with digits, given the number before them: one that is none, or a number beyond
a word of 64 bits, whichever comes first. -/
def digitsComplaint? : Nat → List Char → Option String
  | _, [] => none
  | n, c :: rest =>
    if !Text.isDigit c then some "invalid digit found in string"
    else
      let n := 10 * n + (c.toNat - 48)
      if 0x10000000000000000 ≤ n then some "number too large to fit in target type" else digitsComplaint? n rest

/-- What is wrong with a number of seconds. A plus sign may come before the digits. -/
def secondsComplaint? (s : String) : Option String :=
  match s.toList with
  | [] => some "cannot parse integer from empty string"
  | ['+'] => some "invalid digit found in string"
  | '+' :: digits => digitsComplaint? 0 digits
  | digits => digitsComplaint? 0 digits

def formatComplaint? (s : String) : Option String :=
  match LogFormat.ofText s with
  | .ok _ => none
  | .error fault => some fault.message

def manifestSwitch : Switch := ⟨"crd", none, "Generate CRD manifests and exit", .flag⟩

def spaceSwitch : Switch :=
  ⟨"namespace", none, "Only watch resources in this namespace (default: all namespaces)",
    .setting ⟨"NAMESPACE", "SEARCHOP_NAMESPACE", none, fun _ => none⟩⟩

def timeoutSwitch : Switch :=
  ⟨"request-timeout-secs", none, "Deadline in seconds for each request to a managed cluster",
    .setting ⟨"REQUEST_TIMEOUT_SECS", "SEARCHOP_REQUEST_TIMEOUT_SECS",
      some (toString defaultRequestTimeoutSeconds), secondsComplaint?⟩⟩

def formatSwitch : Switch :=
  ⟨"log-format", none, "Log line format: json or text",
    .setting ⟨"LOG_FORMAT", "SEARCHOP_LOG_FORMAT", some LogSettings.initial.format.text,
      formatComplaint?⟩⟩

def helpSwitch : Switch := ⟨"help", some 'h', "Print help", .help⟩

def versionSwitch : Switch := ⟨"version", some 'V', "Print version", .version⟩

/-! ## Commands -/

def operator : Command where
  path := operatorName
  about := operatorAbout
  switches := [manifestSwitch, spaceSwitch, timeoutSwitch, formatSwitch, helpSwitch, versionSwitch]
  families := [[spaceSwitch, timeoutSwitch, formatSwitch].map (·.long)]
  subcommands := [("controller", controllerAbout), ("help", helpAbout)]
  arguments := none

def controller : Command where
  path := operatorName ++ " controller"
  about := controllerAbout
  switches := [spaceSwitch, timeoutSwitch, formatSwitch, helpSwitch]
  families := []
  subcommands := []
  arguments := none

def helpCommand : Command where
  path := operatorName ++ " help"
  about := helpAbout
  switches := []
  families := []
  subcommands := []
  arguments := some ("[COMMAND]...", "Print help for the subcommand(s)")

def helpOn (environment : Environment) : List String → Stop
  | [] => .help (operator.help environment)
  | name :: rest =>
    let on (c : Command) (hasHelp : Bool) : Stop :=
      match rest with
      | [] => .help (c.help environment)
      | word :: _ => .fault (.unknownSubcommand word [] c.usage hasHelp)
    if name = "controller" then on controller true
    else if name = "help" then on helpCommand false
    else .fault (.unknownSubcommand name [] operator.usage true)

/-- What a command line asks for. -/
structure Invocation where
  manifests : Bool
  format : LogFormat
deriving DecidableEq, Repr

def invocation (outer inner : List Given) : Invocation :=
  let format := match (value? outer inner formatSwitch.long).map LogFormat.ofText with
    | some (.ok format) => format
    | _ => LogSettings.initial.format
  ⟨outer.any (·.long == manifestSwitch.long), format⟩

def read (environment : Environment) (words : List String) : Except Stop Invocation := do
  let (p, sub) ← scan operator environment words Progress.start
  match sub with
  | none => return invocation (← finish operator environment p) []
  | some (name, rest) =>
    if name = "help" then throw (helpOn environment rest)
    else
      let (q, _) ← scan controller environment rest Progress.start
      let inner ← finish controller environment q
      let outer ← finish operator environment p
      return invocation outer inner

/-! ## Running -/

/-- How a run of the operator ends: its exit code and what it wrote. -/
structure Outcome where
  exitCode : Nat
  output : String
  errors : String
deriving DecidableEq, Repr

/-- The variable that filters the log. -/
def filterVariable : String := "RUST_LOG"

def variablesRead : List String :=
  filterVariable :: operator.switches.filterMap fun s => s.setting?.map (·.variableName)

/-- Run the controllers, without a cluster. -/
def runControllers (environment : Environment) (format : LogFormat) : Outcome :=
  let settings : LogSettings := { LogSettings.initial with format }
  let filter := LogFilter.ofEnvironment (environment.lookup filterVariable)
  match settings.start false filter with
  | .ok lines =>
    ⟨1, String.join (lines.map (· ++ "\n")), "Error: Failed to create Kubernetes client"⟩
  | .error fault => ⟨1, "", "Error: " ++ fault.message⟩

def run (environment : Environment) (words : List String) : Outcome :=
  match read environment words with
  | .ok i => if i.manifests then ⟨0, Manifest.text, ""⟩ else runControllers environment i.format
  | .error (.help text) => ⟨0, text, ""⟩
  | .error .version => ⟨0, operatorName ++ " " ++ operatorVersion ++ "\n", ""⟩
  | .error (.fault f) => ⟨2, "", f.text⟩

end SearchOperator.CommandLine
