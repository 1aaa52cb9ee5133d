import LoxScript.Scanner

/-! # The journal of a run
A run notes what it does and reports the faults it meets. The journal holds both in the order in which they
arose; what is shown of it, and where, is decided elsewhere. -/

namespace LoxScript

/-- The importance of a note. -/
inductive Level where
  | debug | info | warning | error | critical
  deriving DecidableEq, Repr, Inhabited

namespace Level

/-- Every level, the least important first. -/
def all : List Level := [debug, info, warning, error, critical]

/-- The word for a level. -/
def name : Level → String
  | debug => "DEBUG"
  | info => "INFO"
  | warning => "WARNING"
  | error => "ERROR"
  | critical => "CRITICAL"

/-- The number of a level; more important levels have larger ones. -/
def number : Level → Int
  | debug => 10
  | info => 20
  | warning => 30
  | error => 40
  | critical => 50

/-- The level with a name. -/
def ofName? (name : String) : Option Level := all.find? fun l => l.name == name

end Level

/-- A part of the program that makes notes. -/
inductive Component where
  | lexer | parser | interpreter | commandLine
  deriving DecidableEq, Repr, Inhabited

namespace Component

/-- Every component. -/
def all : List Component := [lexer, parser, interpreter, commandLine]

/-- The name of a component's logger below that of the program. -/
def suffix : Component → String
  | lexer => "lexer"
  | parser => "parser"
  | interpreter => "interpreter"
  | commandLine => "cli"

end Component

/-- One entry of the journal. -/
inductive JournalEntry where
  /-- A note by a component. -/
  | note (component : Component) (level : Level) (text : String)
  /-- A fault reported to the user. -/
  | report (fault : Fault Cause)
  deriving DecidableEq, Inhabited

/-- The entries of a run, the oldest first. -/
abbrev Journal := Array JournalEntry

namespace JournalEntry

/-- The note on a result of scanning. -/
def scanned : Scanned → JournalEntry
  | .ok t => .note .lexer .debug ("scanned " ++ t.listing ++ " at " ++ t.place)
  | .error fault => .note .lexer .debug ("lexer error: " ++ fault.cause.message)

/-- The note on a declaration that could not be read. -/
def unreadable (fault : Fault SyntaxCause) : JournalEntry :=
  .note .parser .debug ("parse error " ++ fault.cause.code ++ ": " ++ fault.cause.message)

/-- The note on a statement that could not be carried out. -/
def stopped (fault : Fault RuntimeCause) : JournalEntry :=
  .note .interpreter .debug ("runtime error " ++ fault.cause.code ++ ": " ++ fault.cause.message)

end JournalEntry

end LoxScript
