import LoxScript.Journal
import LoxScript.Text.Quoted
import LoxScript.Text.Uppercase

/-! # Logs
Who may note what. Loggers have names with dots; those of the program's components stand below the logger of
the program. Once the log has been set up, the loggers of the program admit notes from the level it was set
to; before that, and for all other loggers, notes are admitted from the level of warnings. -/

namespace LoxScript

/-- Why a log cannot be set up. -/
inductive LogFault where
  /-- The word, in upper case, names no level. -/
  | unknownLevel (word : String)
  deriving DecidableEq, Repr, Inhabited

/-- The wording of a fault. -/
def LogFault.message : LogFault → String
  | unknownLevel word => "Unknown level: " ++ quoted ("Level " ++ word)

/-- The state of a log. -/
structure Log where
  /-- The level it has been set to, if it has been set up. -/
  threshold : Option Int := none
  /-- The file that notes go to, if there is one. -/
  file : Option String := none
  deriving DecidableEq, Repr, Inhabited

namespace Log

/-- The name of the logger of the program. -/
def program : String := "treelox"

/-- The name of the logger of a component. -/
def loggerOf (c : Component) : String := program ++ "." ++ c.suffix

/-- Whether a logger is the program's or stands below it. -/
def isOwn (logger : String) : Bool := logger == program || logger.startsWith (program ++ ".")

/-- Words for levels besides their names. -/
def otherWords : List (String × Int) := [("FATAL", 50), ("WARN", 30), ("NOTSET", 0)]

/-- The number of the level that a word stands for, in letters of either case. -/
def level (word : String) : Except LogFault Int :=
  let word := uppercase word
  match Level.ofName? word, otherWords.lookup word with
  | some l, _ => .ok l.number
  | none, some n => .ok n
  | none, none => .error (.unknownLevel word)

/-- The name that a level has in notes. -/
def levelName (n : Int) : String :=
  match Level.all.find? (·.number == n) with
  | some l => l.name
  | none => "Level " ++ toString n

/-- The level from which a logger admits notes. A log set to zero decides nothing. -/
def leastLevel (l : Log) (logger : String) : Int :=
  match l.threshold with
  | some n => if isOwn logger && n != 0 then n else Level.warning.number
  | none => Level.warning.number

/-- Whether a logger admits notes of a level. Levels are positive. -/
def admits (l : Log) (logger : String) (level : Int) : Bool := 0 < level && l.leastLevel logger ≤ level

/-- Whether the notes of a logger are written as lines with their origin, and to the file. -/
def isListed (l : Log) (logger : String) : Bool := l.threshold.isSome && isOwn logger

/-- The line of a note. -/
def line (time logger : String) (level : Int) (text : String) : String :=
  time ++ " " ++ levelName level ++ " " ++ logger ++ ": " ++ text ++ "\n"

end Log

end LoxScript
