import Arbitration.CommandLine.Invocation
import Arbitration.Json.Canonical
import Arbitration.Scenario.Document
import Arbitration.Simulation.Report

/-!
# Running the program

A run of the program is a function of its command line and of the files that it can read. It
ends with an exit code: zero if all is well, one if something is not as it should be, two if the
command line makes no sense. A failure is reported on one line, with all its causes.
-/

namespace Arbitration

namespace CommandLine

/-! ### Files -/

/-- The text of the file at a path, or the system's reason why there is none. -/
abbrev Files := String → Except String String

/-- A path without leading steps to the directory that it starts from. -/
def relativePath : List Char → List Char
  | '.' :: '/' :: rest => relativePath rest
  | cs => cs

/-- The files of a directory that is the current one. -/
def Files.ofTable (files : Table String String) : Files := fun path =>
  let cs := relativePath path.toList
  if cs = [] ∨ cs = ['.'] then .error "Is a directory (os error 21)"
  else
    match files.get? (String.ofList cs) with
    | some text => .ok text
    | none => .error "No such file or directory (os error 2)"

/-- Why a configuration cannot be used. -/
inductive ConfigError where
  | file (path : String) (reason : String)
  | document (e : Config.DocumentError)
  deriving DecidableEq, Repr

/-- The messages of a failure and of its cause, outermost first. -/
def ConfigError.causes : ConfigError → List String
  | file path reason => ["failed to read config " ++ path ++ ": " ++ reason, reason]
  | document e => [e.message]

/-- The configuration in a file. -/
def loadConfig (files : Files) (path : String) : Except ConfigError Config := do
  let text ← (files path).mapError (.file path)
  (Config.ofYaml text).mapError .document

/-! ### Results -/

/-- What a run of the program leaves behind. -/
structure Result where
  exit : UInt32
  /-- What it prints. -/
  output : String := ""
  /-- The line that it complains with. -/
  complaint : Option String := none
  deriving DecidableEq, Repr

/-- The messages of a failure on one line. -/
def joinCauses (causes : List String) : String := String.intercalate ": " causes

/-- The result of a run that fails. -/
def Result.failure (causes : List String) : Result :=
  { exit := 1, complaint := some ("error: " ++ joinCauses causes) }

/-- Some text on lines of its own. -/
def unlines (lines : List String) : String := String.join (lines.map (· ++ "\n"))

/-- The result of a run, failed or not. -/
def Result.ofExcept : Except (List String) Result → Result
  | .ok r => r
  | .error causes => .failure causes

/-! ### Commands -/

/-- The lines that are printed about a scenario that has run. -/
def reportLines (r : Report) (summaryOnly : Bool) : List String :=
  let events := if summaryOnly then [] else r.events.map fun e => (toJson e).text
  let failures := r.failures.map fun f => "FAIL: " ++ f.message
  let verdict := if r.passed then "OK" else "FAILED"
  events ++ failures ++
    [verdict ++ ": scenario " ++ r.name ++ " ran " ++ toString r.steps ++ " steps, " ++
      toString r.events.length ++ " events, " ++ r.burned.text ++ " burned"]

/-- The scenario in a file. -/
def loadScenario (files : Files) (path : String) : Except (List String) Scenario := do
  let text ← (files path).mapError fun reason => ["failed to read scenario " ++ path, reason]
  (Scenario.ofYaml text).mapError fun e => ("in " ++ path) :: e.causes

/-- Runs the scenario in a file. The scenario is read before the configuration. -/
def runSimulate (files : Files) (config : Option String) (path : String) (summaryOnly : Bool) :
    Except (List String) Result := do
  let scenario ← loadScenario files path
  let override ← config.mapM fun file =>
    (loadConfig files file).mapError fun e => ("failed to load engine config " ++ file) :: e.causes
  let report ← (scenario.simulate override).mapError SetupError.causes
  return {
    exit := if report.passed then 0 else 1
    output := unlines (reportLines report summaryOnly) }

/-- A configuration, with its path in front of what is wrong with it. -/
def checkConfig (files : Files) (path : String) : Except (List String) Config :=
  (loadConfig files path).mapError fun e => path :: e.causes

/-- Answers a question, under the default configuration unless a file is named. -/
def runPolicy (files : Files) (config : Option String) (inquiry : Inquiry) :
    Except (List String) Result := do
  let config := (← config.mapM (checkConfig files)).getD .default
  let finding ← (inquiry.answer config).mapError fun e => [e.message]
  return { exit := 0, output := finding.toJson.normal.indented ++ "\n" }

/-- Says whether a configuration can be used. -/
def runCheck (files : Files) (path : String) : Result :=
  match checkConfig files path with
  | .ok _ => { exit := 0, output := "OK: " ++ path ++ " is a valid engine configuration\n" }
  | .error causes => { exit := 1, output := "INVALID: " ++ joinCauses causes ++ "\n" }

/-- Does what is asked for. -/
def Invocation.run (files : Files) (i : Invocation) : Result :=
  match i.command with
  | .simulate path summaryOnly => .ofExcept (runSimulate files i.config path summaryOnly)
  | .policy inquiry => .ofExcept (runPolicy files i.config inquiry)
  | .checkConfig path => runCheck files path
  | .showDefaults => { exit := 0, output := Config.default.yaml }

/-- The paths of the files that may be read. -/
def Invocation.paths (i : Invocation) : List String :=
  match i.command with
  | .simulate path _ => path :: i.config.toList
  | .policy _ => i.config.toList
  | .checkConfig path => [path]
  | .showDefaults => []

/-- Runs the program. -/
def run (files : Files) (words : List String) : Result :=
  match Invocation.ofWords? words with
  | some i => i.run files
  | none => { exit := 2, complaint := some "error: unexpected or missing arguments" }

end CommandLine

end Arbitration
