import LoxScript.Console
import LoxScript.Session
import LoxScript.Settings
import LoxScript.Tree.Outline

/-! # Work on scripts
What the program does with a script: list its tokens, outline its tree, or run it; and how it answers lines
that are given one by one. Each kind of work succeeds if it meets no fault. Faults and notes are written to
the errors in the order in which they arise. -/

namespace LoxScript.CommandLine

/-- How a run of the program ends. -/
inductive Status where
  | success
  /-- Something could not be read or carried out. -/
  | failure
  /-- The command cannot be understood. -/
  | misuse
  deriving DecidableEq, Repr, Inhabited

namespace Status

/-- The number of a status. -/
def code : Status → Nat
  | success => 0
  | failure => 1
  | misuse => 2

/-- Success or failure. -/
def ofSuccess (b : Bool) : Status := if b then success else failure

end Status

/-- A script to work on. -/
structure Script where
  /-- The path of its file. -/
  file : String
  source : String
  deriving DecidableEq, Repr, Inhabited

/-- The conditions of all work. -/
structure Conditions where
  settings : Settings := {}
  /-- The time at which the command was given. -/
  time : String
  /-- The number of passes that each loop may make. -/
  passes : Nat
  deriving Inhabited

/-- The line that shows a token. -/
def tokenLine (t : Token) : String := t.place ++ "\t" ++ t.listing ++ "\t" ++ quoted t.lexeme

/-- Writes a token to the output, or a fault to the errors. -/
def writeScanned (showSource : Bool) (c : Console) : Scanned → Console
  | .ok t => c.write (tokenLine t ++ "\n")
  | .error fault => c.complain ((fault.map Cause.lexical).diagnostic.text showSource)

/-- Lists the tokens of a script. -/
def listTokens (given : Conditions) (script : Script) (c : Console) : Status × Console :=
  let results := scan script.source (some script.file)
  let noted := c.replay given.time given.settings.showSource (results.map .scanned)
  (.ofSuccess (Session.lexicalFaults results).isEmpty,
    results.foldl (writeScanned given.settings.showSource) noted)

/-- Outlines the tree of a script, as far as it can be read. -/
def outlineTree (given : Conditions) (script : Script) (c : Console) : Status × Console :=
  let showSource := given.settings.showSource
  let results := (Scanner.ofSource script.source (some script.file)).untilFault.1
  let c := c.replay given.time showSource (results.map .scanned)
  match tokensOf results with
  | .error fault => (.failure, c.complain ((fault.map Cause.lexical).diagnostic.text showSource))
  | .ok tokens =>
    let (statements, p) := (Parser.ofTokens tokens (some script.source) given.settings.maxErrors).recover
    let c := c.replay given.time showSource (p.faults.map .unreadable)
    let c := if statements.isEmpty then c else c.write (programOutline statements ++ "\n")
    let c := if p.faults.isEmpty then c else c.complain (p.collector.text showSource)
    (.ofSuccess p.faults.isEmpty, c)

/-- The session in which a script runs: its diagnostics are collected. -/
def scriptSession : Session := { reporters := [.collector {}] }

/-- Runs a script. -/
def runScript (given : Conditions) (script : Script) (c : Console) : Except Halt (Status × Console) :=
  match Session.runSource given.passes script.source (some script.file) given.settings.maxErrors scriptSession with
  | .error halt _ => .error halt
  | .ok readable s =>
    let c := (c.replay given.time given.settings.showSource s.journal.toList).write s.world.printed
    let faults := s.collected
    if readable && !faults.hasErrors then .ok (.success, c)
    else
      let summary := script.file ++ ": " ++ toString faults.errorCount ++ " error(s)"
      .ok (.failure, c.note given.time (Log.loggerOf .commandLine) Level.info.number summary)

/-- A prompt: lines are run one by one in one session. -/
structure Prompt where
  given : Conditions
  session : Session := {}
  console : Console
  deriving Inhabited

namespace Prompt

/-- Asks for the next line. -/
def ask (p : Prompt) : Prompt := { p with console := p.console.write p.given.settings.prompt }

/-- Opens a prompt and asks for the first line. -/
def opened (given : Conditions) (c : Console) : Prompt := ({ given, console := c } : Prompt).ask

/-- Runs one line, and asks for the next one. -/
def feed (p : Prompt) (line : String) : Except Halt Prompt :=
  let settings := p.given.settings
  match Session.runSource p.given.passes line none settings.maxErrors p.session with
  | .error halt _ => .error halt
  | .ok _ s =>
    let c := p.console.replay p.given.time settings.showSource s.journal.toList
    .ok ({ p with session := s.drained, console := c.write s.world.printed } : Prompt).ask

/-- Runs lines in turn. -/
def feedAll (p : Prompt) : List String → Except Halt Prompt
  | [] => .ok p
  | line :: rest => do (← p.feed line).feedAll rest

/-- What has been written when there are no more lines. -/
def closed (p : Prompt) : Console := p.console.write "\n"

end Prompt

end LoxScript.CommandLine
