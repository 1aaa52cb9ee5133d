/-! # Flags
The flags of the command line and how they are written. A flag of two dashes may be cut short as long as it
stays the beginning of one flag only. -/

namespace LoxScript.CommandLine

/-- A flag of the command line. -/
inductive Flag where
  | help | tokens | tree | settings | verbose | version
  deriving DecidableEq, Repr, Inhabited

namespace Flag

/-- Every way to write a flag. -/
def spellings : List (String × Flag) := [
  ("-h", help), ("--help", help), ("--tokens", tokens), ("--ast", tree), ("-c", settings),
  ("--config", settings), ("-v", verbose), ("--verbose", verbose), ("--version", version)]

/-- The flag with a spelling. -/
def ofSpelling? (spelling : String) : Option Flag := spellings.lookup spelling

/-- All the spellings of a flag, as messages give them. -/
def title (f : Flag) : String := "/".intercalate ((spellings.filter (·.2 == f)).map Prod.fst)

/-- Whether a flag goes with a value. -/
def takesValue (f : Flag) : Bool := f == settings

end Flag

/-- Why a command cannot be understood. -/
inductive UsageError where
  /-- A flag cut short could be any of these. -/
  | ambiguous (word : String) (matching : List String)
  /-- A flag lacks its value. -/
  | missingValue (flag : Flag)
  /-- A value stands at a flag that takes none. -/
  | needlessValue (flag : Flag) (value : String)
  /-- A flag cannot stand beside another one given before. -/
  | exclusive (flag other : Flag)
  /-- Words are left over. -/
  | leftOver (words : List String)
  /-- There is no script to show. -/
  | needsScript
  deriving DecidableEq, Repr, Inhabited

end LoxScript.CommandLine
