import Arbitration.Table

/-!
# Options on a command line

A command line is read level by level: options and operands of the program, then those of a
command, then those of its subcommand. Which options there are, and whether there can be
operands, is said for each level; a word that is none of this is refused. After a double dash
every word is an operand.
-/

namespace Arbitration

namespace CommandLine

/-- How an option is given. -/
inductive Arity where
  /-- Once, with a value after it or behind an equals sign. -/
  | value
  /-- Once, alone. -/
  | flag
  /-- Any number of times, alone. -/
  | count
  deriving DecidableEq, Repr

/-- What may stand on a level. -/
structure Level where
  /-- The options by their long names. -/
  options : List (String × Arity) := []
  /-- The options that also have a letter, which all can be given any number of times. -/
  letters : List (Char × String) := []
  /-- The greatest number of operands. -/
  operands : Nat := 0
  commands : List String := []
  deriving DecidableEq, Repr

/-- What was given on a level. -/
structure Given where
  /-- The options and their values; the value of one that is given alone is empty. -/
  options : List (String × String) := []
  operands : List String := []
  /-- The command that ends the level, and the words after it. -/
  next : Option (String × List String) := none
  deriving DecidableEq, Repr

namespace Given

/-- With another option at the front. -/
def addOption (g : Given) (name value : String) : Given :=
  { g with options := (name, value) :: g.options }

/-- With another operand at the front. -/
def addOperand (g : Given) (word : String) : Given := { g with operands := word :: g.operands }

/-- The value of an option. -/
def value? (g : Given) (name : String) : Option String := Table.lookup name g.options

/-- Whether an option is given. -/
def has (g : Given) (name : String) : Bool := (g.value? name).isSome

end Given

/-- Whether a word can be no value: it starts with a dash and goes on. -/
def startsOption (word : String) : Bool :=
  match word.toList with
  | '-' :: _ :: _ => true
  | _ => false

/-- The name in a word, and the value behind an equals sign if there is one. -/
def splitValue (cs : List Char) : String × Option String :=
  let (name, rest) := cs.span (· ≠ '=')
  (String.ofList name, rest.head?.map fun _ => String.ofList rest.tail)

/-- The options that some letters stand for. -/
def Level.lettered (l : Level) (cs : List Char) : Option (List (String × String)) :=
  cs.mapM fun c => (Table.lookup c l.letters).map (·, "")

/-- The words of a level. -/
def Level.words (l : Level) : List String → Option Given
  | [] => some {}
  | word :: rest =>
    if l.commands.contains word then some { next := some (word, rest) }
    else
      match word.toList with
      | ['-', '-'] => some { operands := rest }
      | '-' :: '-' :: cs =>
        let (name, value) := splitValue cs
        match Table.lookup name l.options, value with
        | some .value, some value => (l.words rest).map (·.addOption name value)
        | some .value, none =>
          match rest with
          | value :: rest' =>
            if startsOption value then none else (l.words rest').map (·.addOption name value)
          | [] => none
        | some _, none => (l.words rest).map (·.addOption name "")
        | _, _ => none
      | '-' :: c :: cs => do
        let options ← l.lettered (c :: cs)
        let g ← l.words rest
        return { g with options := options ++ g.options }
      | _ => (l.words rest).map (·.addOperand word)

/-- Whether no option that may be given once is given again. -/
def Level.oncePerOption (l : Level) (g : Given) : Bool :=
  l.options.all fun (name, arity) =>
    arity = .count || (g.options.filter (·.1 = name)).length ≤ 1

/-- What is given on a level, if it is all there may be and the level has a command if it has to. -/
def Level.read (l : Level) (words : List String) : Option Given := do
  let g ← l.words words
  if !l.oncePerOption g || l.operands < g.operands.length then none
  if g.next.isNone && !l.commands.isEmpty then none
  return g

end CommandLine

end Arbitration
