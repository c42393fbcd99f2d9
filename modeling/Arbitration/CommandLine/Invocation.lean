import Arbitration.CommandLine.Options
import Arbitration.Inquiry

/-!
# What the program can be asked to do

The program runs scenarios, answers questions about the arithmetic, and checks configurations or
shows the default one. The options that all commands share may stand before or after the
command; the last level that names a configuration counts.
-/

namespace Arbitration

namespace CommandLine

/-- What the program does. -/
inductive Command where
  /-- Runs the scenario in a file. The events are not shown if only the summary is wanted. -/
  | simulate (scenario : String) (summaryOnly : Bool)
  | policy (inquiry : Inquiry)
  | checkConfig (file : String)
  | showDefaults
  deriving DecidableEq, Repr

/-- A command and the file with the configuration for it. -/
structure Invocation where
  config : Option String
  command : Command
  deriving DecidableEq, Repr

/-! ### Values -/

/-- The number of some digits. -/
def digits? (cs : List Char) : Option Nat :=
  if cs.isEmpty || !cs.all Char.isDigit then none
  else some (cs.foldl (fun n c => 10 * n + (c.toNat - 48)) 0)

/-- A number of 64 bits, which may have a plus sign. -/
def readUInt64 (s : String) : Option UInt64 := do
  let n ← match s.toList with
    | '+' :: cs => digits? cs
    | cs => digits? cs
  if n < UInt64.size then return UInt64.ofNat n else none

/-- A number of 32 bits, which may have a plus sign; zero may have a minus sign. -/
def readUInt32 (s : String) : Option UInt32 := do
  let n ← match s.toList with
    | '+' :: cs => digits? cs
    | '-' :: cs => (digits? cs).filter (· = 0)
    | cs => digits? cs
  if n < UInt32.size then return UInt32.ofNat n else none

/-- An amount. -/
def readAmount (s : String) : Option Amount := (readUInt64 s).map Amount.mk

/-- The path of a file, which is never empty. -/
def readPath (s : String) : Option String := if s.isEmpty then none else some s

/-- The value of an option that need not be given. -/
def Given.optional {α : Type} (g : Given) (name : String) (read : String → Option α) :
    Option (Option α) :=
  match g.value? name with
  | none => some none
  | some s => (read s).map some

/-- The value of an option that has to be given. -/
def Given.required {α : Type} (g : Given) (name : String) (read : String → Option α) : Option α :=
  (g.value? name).bind read

/-- The only operand, the path of a file. -/
def Given.path (g : Given) : Option String :=
  match g.operands with
  | [s] => readPath s
  | _ => none

/-! ### Levels -/

/-- A level with the options that all commands share. -/
def level (options : List (String × Arity)) (operands : Nat) (commands : List String) : Level where
  options := [("verbose", .count), ("log-json", .flag), ("config", .value)] ++ options
  letters := [('v', "verbose")]
  operands := operands
  commands := commands

/-- The path of the configuration on a level, or else the one that was given before. -/
def Given.configOr (g : Given) (earlier : Option String) : Option (Option String) := do
  return (← g.optional "config" readPath).or earlier

/-- The question that a subcommand asks. -/
def readInquiry (name : String) (config : Option String) (words : List String) :
    Option Invocation :=
  match name with
  | "timeout-split" => do
    let g ← (level [("stake", .value), ("counterparty-stake", .value)] 0 []).read words
    let inquiry : Inquiry := .timeoutSplit
      (← g.required "stake" readAmount) (← g.optional "counterparty-stake" readAmount)
    return ⟨← g.configOr config, .policy inquiry⟩
  | "counter-fee" => do
    let g ← (level [("round", .value)] 0 []).read words
    return ⟨← g.configOr config, .policy (.counterFee (← g.required "round" readUInt32))⟩
  | "escalate" => do
    let g ← (level [("stake", .value), ("recent", .flag)] 0 []).read words
    let inquiry : Inquiry := .escalate (← g.required "stake" readAmount) (g.has "recent")
    return ⟨← g.configOr config, .policy inquiry⟩
  | "subsidy" => do
    let g ← (level [("stake", .value), ("score", .value)] 0 []).read words
    let inquiry : Inquiry := .subsidy
      (← g.required "stake" readAmount) ((← g.optional "score" readUInt32).getD 0)
    return ⟨← g.configOr config, .policy inquiry⟩
  | _ => none

/-- What is to be done with a configuration. -/
def readConfigCommand (name : String) (config : Option String) (words : List String) :
    Option Invocation :=
  match name with
  | "check" => do
    let g ← (level [] 1 []).read words
    return ⟨← g.configOr config, .checkConfig (← g.path)⟩
  | "defaults" => do
    let g ← (level [] 0 []).read words
    return ⟨← g.configOr config, .showDefaults⟩
  | _ => none

/-- What a command is to do. -/
def readCommand (name : String) (config : Option String) (words : List String) :
    Option Invocation :=
  match name with
  | "simulate" => do
    let g ← (level [("summary-only", .flag)] 1 []).read words
    return ⟨← g.configOr config, .simulate (← g.path) (g.has "summary-only")⟩
  | "policy" => do
    let g ← (level [] 0 ["timeout-split", "counter-fee", "escalate", "subsidy"]).read words
    let (name, rest) ← g.next
    readInquiry name (← g.configOr config) rest
  | "config" => do
    let g ← (level [] 0 ["check", "defaults"]).read words
    let (name, rest) ← g.next
    readConfigCommand name (← g.configOr config) rest
  | _ => none

/-- What the words of a command line ask for, unless something in them is missing, unknown,
repeated or no value of its kind. -/
def Invocation.ofWords? (words : List String) : Option Invocation := do
  let g ← (level [] 0 ["simulate", "policy", "config"]).read words
  let (name, rest) ← g.next
  readCommand name (← g.configOr none) rest

end CommandLine

end Arbitration
