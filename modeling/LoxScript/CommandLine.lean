import LoxScript.CommandLine.Arguments
import LoxScript.CommandLine.Help
import LoxScript.CommandLine.Work

/-! # The command line
One run of the program from the words of its command to its status. The settings are read first, then the log
is set up, and only then the script is looked for. A command without a script opens a prompt. -/

namespace LoxScript.CommandLine

/-- Why a run ends without a status. -/
inductive Abort where
  /-- Reading the settings breaks off at some keys. -/
  | keys (defect : KeyDefect)
  /-- The log file is of the type named, which is no path. -/
  | logFile (type : String)
  /-- The script has halted. -/
  | halt (halt : Halt)
  deriving DecidableEq, Repr, Inhabited

namespace Abort

/-- The wording of an abort. -/
def message : Abort → String
  | keys defect => defect.message
  | logFile type => "expected str, bytes or os.PathLike object, not " ++ type
  | halt (.defect d) => d.message
  | halt .unfinished => "a loop does not end"

end Abort

/-- Where a run stands when it needs nothing but lines to go on. -/
inductive Begun where
  | ended (status : Status) (console : Console)
  | prompting (prompt : Prompt)
  deriving Inhabited

/-- The end of a run whose command is not understood. -/
def misused (e : UsageError) (c : Console) : Begun := .ended .misuse (c.complain (complaint e.message))

/-- The name of the log file that settings give, if they give one. -/
def logFile (s : Settings) : Except Abort (Option String) :=
  if s.logFile.isEmpty then .ok none
  else
    match s.logFile with
    | .text name => .ok (some name)
    | other => .error (.logFile other.typeName)

/-- The text of a file, with newlines of one kind. A file that has just been opened for notes is there too. -/
def read? (files : String → Option String) (c : Console) (path : String) : Option String :=
  match files path with
  | some text => some (String.ofList (Lines.universal text.toList))
  | none => (c.files.lookup path).map fun _ => ""

/-- Works on a script. -/
def work (given : Conditions) (mode : Mode) (script : Script) (c : Console) : Except Halt (Status × Console) :=
  match mode with
  | .tokens => .ok (listTokens given script c)
  | .tree => .ok (outlineTree given script c)
  | .run => runScript given script c

/-- Looks for the script and works on it; without one, opens a prompt. -/
def proceed (given : Conditions) (files : String → Option String) (a : Arguments) (c : Console) :
    Except Abort Begun :=
  match a.script with
  | none => if a.mode == .run then .ok (.prompting (.opened given c)) else .ok (misused .needsScript c)
  | some script =>
    let path := plainPath script
    match read? files c path with
    | none => .ok (.ended .failure (c.complain ("Error: File not found: " ++ path)))
    | some source =>
      let summary := "running " ++ path ++ " (" ++ toString source.length ++ " characters)"
      let c := c.note given.time (Log.loggerOf .commandLine) Level.debug.number summary
      match work given a.mode ⟨path, source⟩ c with
      | .error halt => .error (.halt halt)
      | .ok (status, c) => .ok (.ended status c)

/-- The settings that a command names, or those that hold without any. -/
def settingsOf (files : String → Option String) (a : Arguments) : Except SettingsFault Settings :=
  match a.settings with
  | none => .ok {}
  | some path => Settings.ofFile (plainPath path) (files (plainPath path))

/-- Begins a run: all of it, unless it opens a prompt. -/
def begin (passes : Nat) (time : String) (files : String → Option String) (words : List String) :
    Except Abort Begun :=
  match readCommand words with
  | .error e => .ok (misused e {})
  | .ok .help => .ok (.ended .success (({} : Console).write helpText))
  | .ok .version => .ok (.ended .success (({} : Console).write versionText))
  | .ok (.work a) =>
    match settingsOf files a with
    | .error (.refused r) => .ok (.ended .failure (({} : Console).complain ("Error: " ++ r.message)))
    | .error (.keys d) => .error (.keys d)
    | .ok settings => do
      let level := if a.verbose then Level.debug else settings.logLevel
      let c := ({} : Console).setUpLog level.number (← logFile settings)
      proceed { settings, time, passes } files a c

/-- The lines of an input; what stands behind the last newline is a line unless it is empty. -/
def inputLines (input : String) : List String :=
  let lines := (Lines.split (Lines.universal input.toList)).map String.ofList
  if lines.getLast? == some "" then lines.dropLast else lines

/-- A whole run with all of its input. -/
def run (passes : Nat) (time : String) (files : String → Option String) (input : String)
    (words : List String) : Except Abort (Status × Console) := do
  match ← begin passes time files words with
  | .ended status c => return (status, c)
  | .prompting p =>
    match p.feedAll (inputLines input) with
    | .ok p => return (.success, p.closed)
    | .error halt => throw (.halt halt)

end LoxScript.CommandLine
