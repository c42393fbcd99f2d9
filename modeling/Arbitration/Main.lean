import Arbitration.CommandLine.Run

/-!
# The program

Reads the files that the command line names, runs the program on them, and prints what it leaves
behind.
-/

open Arbitration Arbitration.CommandLine

/-- The reason why a file cannot be read, in the system's words. -/
def reasonOf : IO.Error → String
  | .noFileOrDirectory .. => "No such file or directory (os error 2)"
  | e => toString e

/-- The text of a file, or the reason why it cannot be read. -/
def readText (path : String) : IO (Except String String) := do
  try
    return .ok (← IO.FS.readFile path)
  catch e =>
    return .error (reasonOf e)

/-- The files at some paths. -/
def readFiles (paths : List String) : IO Files := do
  let texts ← paths.mapM fun path => do return (path, ← readText path)
  return fun path =>
    (Table.lookup path texts).getD (.error "No such file or directory (os error 2)")

/-- Runs the program with some words as its command line. -/
def main (words : List String) : IO UInt32 := do
  let paths := ((Invocation.ofWords? words).map Invocation.paths).getD []
  let result := CommandLine.run (← readFiles paths) words
  IO.print result.output
  if let some line := result.complaint then IO.eprintln line
  return result.exit
