import Arbitration.Record.Config
import Arbitration.Yaml.Shape

/-!
# Configurations as YAML texts

A configuration is written with one line for each parameter, in a fixed order. It is read from
any YAML text that gives some of the parameters, and checked. What is asked for under the name
of a parameter, a number, a truth value or a word, is told by its default.
-/

namespace Arbitration

namespace Config

/-! ### Printing -/

/-- The scalar for the value of a parameter: all of them are plain. -/
def scalarText : Json → String
  | .int n => toString n
  | .bool b => if b then "true" else "false"
  | .str s => s
  | _ => ""

/-- The line for a parameter. -/
def yamlLine (parameter : String × Json) : String :=
  parameter.1 ++ ": " ++ scalarText parameter.2 ++ "\n"

/-- The lines of the text of a configuration. -/
def yamlLines (c : Config) : List String := c.members.map yamlLine

/-- The text of a configuration. -/
def yaml (c : Config) : String := String.join c.yamlLines

/-! ### Reading -/

/-- What is asked for in place of a default. -/
def shapeOf : Json → Yaml.Shape
  | .bool _ => .boolean
  | .str _ => .word
  | _ => .natural

/-- What is asked for in the text of a configuration. -/
def shape : Yaml.Shape := .record (default.members.map fun m => (m.1, shapeOf m.2))

/-- Why a text does not give a configuration that may be used. -/
inductive DocumentError where
  /-- It is no YAML text with parameters. -/
  | unreadable
  | invalid (fault : Fault)
  deriving DecidableEq, Repr

/-- The message of a refusal. -/
def DocumentError.message : DocumentError → String
  | unreadable => "invalid config YAML: not a mapping of known parameters"
  | invalid fault => fault.message

/-- The configuration of a YAML text. Parameters that are not in it have their defaults. -/
def ofYaml (text : String) : Except DocumentError Config :=
  match (Yaml.read? shape text).bind ofJson? with
  | none => .error .unreadable
  | some c =>
    match validate c with
    | .ok () => .ok c
    | .error fault => .error (.invalid fault)

end Config

end Arbitration
