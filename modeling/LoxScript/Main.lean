import LoxScript.CommandLine
import Std.Time.Format

/-! # The program
Reads the files that a command names, runs the command, and writes what the run has written. Lines at a
prompt are read and answered one by one. -/

namespace LoxScript.CommandLine

/-- The number of passes a loop may make: more than any run gets through. -/
def enoughPasses : Nat := Nat.pow 2 62

/-- The time, as notes show it. -/
def timeNow : IO String := do
  return (← Std.Time.PlainDateTime.now).format "uuuu-MM-dd HH:mm:ss,SSS"

/-- The text of the file at a path, if it can be read. -/
def readFile? (path : String) : IO (Option String) := do
  try return some (← IO.FS.readFile path)
  catch _ => return none

/-- The files that a command names, with their texts. -/
def filesOf (words : List String) : IO (List (String × String)) := do
  match readCommand words with
  | .ok (.work a) =>
    let paths := (a.settings.toList ++ a.script.toList).map plainPath
    return (← paths.mapM fun path => return (← readFile? path).map (path, ·)).reduceOption
  | _ => return []

/-- Writes what a console holds to where it belongs. -/
def flush (c : Console) : IO Unit := do
  for (name, text) in c.files do
    let handle ← IO.FS.Handle.mk name .append
    handle.putStr text
  let errors ← IO.getStderr
  errors.putStr c.errors
  let output ← IO.getStdout
  output.putStr c.output
  output.flush

/-- Tells why a run ends without a status, and gives the status of failure. -/
def abandon (a : Abort) : IO UInt32 := do
  (← IO.getStderr).putStr (a.message ++ "\n")
  return 1

/-- Answers lines until there are no more. -/
partial def converse (p : Prompt) : IO UInt32 := do
  flush p.console
  let p := { p with console := p.console.drained }
  let line ← (← IO.getStdin).getLine
  if line.isEmpty then
    flush p.closed
    return 0
  match p.feedAll (inputLines line) with
  | .ok next => converse next
  | .error halt => abandon (.halt halt)

end LoxScript.CommandLine

open LoxScript.CommandLine in
/-- Runs the command line and exits with its status. -/
def main (words : List String) : IO UInt32 := do
  let files ← filesOf words
  match begin enoughPasses (← timeNow) (files.lookup ·) words with
  | .error a => abandon a
  | .ok (.prompting p) => converse p
  | .ok (.ended status c) =>
    flush c
    return status.code.toUInt32
