import LoxScript.Log
import LoxScript.Text.Path

/-! # The console
What a run of the program has written: its output, its errors, and what it has appended to files. Notes go
where the log directs them; a note that is not listed is written as it is. -/

namespace LoxScript

/-- All that has been written. -/
structure Console where
  /-- The text of the output. -/
  output : String := ""
  /-- The text of the errors. -/
  errors : String := ""
  /-- The files opened for notes with what has been appended to them. -/
  files : List (String × String) := []
  /-- Where notes go. -/
  log : Log := {}
  deriving DecidableEq, Repr, Inhabited

namespace Console

/-- Writes text to the output. -/
def write (c : Console) (text : String) : Console := { c with output := c.output ++ text }

/-- Writes a line to the errors. -/
def complain (c : Console) (text : String) : Console := { c with errors := c.errors ++ text ++ "\n" }

/-- Opens a file to append to. -/
def openFile (c : Console) (name : String) : Console :=
  if c.files.any (·.1 == name) then c else { c with files := c.files ++ [(name, "")] }

/-- Appends text to an open file. -/
def append (c : Console) (name text : String) : Console :=
  { c with files := c.files.map fun (n, t) => if n == name then (n, t ++ text) else (n, t) }

/-- Sets the log up, with a file or without one; the empty name is that of no file. -/
def setUpLog (c : Console) (threshold : Int) (file : Option String) : Console :=
  match file.filter (· != "") with
  | none => { c with log := { threshold := some threshold } }
  | some name =>
    { c with log := { threshold := some threshold, file := some (plainPath name) } }.openFile (plainPath name)

/-- Writes a note of a logger, if the log admits it. -/
def note (c : Console) (time logger : String) (level : Int) (text : String) : Console :=
  if !c.log.admits logger level then c
  else if c.log.isListed logger then
    let line := Log.line time logger level text
    let c := { c with errors := c.errors ++ line }
    match c.log.file with
    | none => c
    | some name => c.append name line
  else c.complain text

/-- The console with nothing written yet; the log stays as it is. -/
def drained (c : Console) : Console :=
  { c with output := "", errors := "", files := c.files.map fun (name, _) => (name, "") }

/-- Writes the entries of a journal in order: notes go to the log, and faults to the errors. -/
def replay (c : Console) (time : String) (showSource : Bool) (entries : List JournalEntry) : Console :=
  entries.foldl (fun c entry =>
    match entry with
    | .note component level text => c.note time (Log.loggerOf component) level.number text
    | .report fault => c.complain (fault.diagnostic.text showSource)) c

end Console

end LoxScript
