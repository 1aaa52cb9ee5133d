import LoxScript.Diagnostic

/-! # Collecting diagnostics
A collector keeps diagnostics in the order in which they arose and knows when there have been enough
errors. -/

namespace LoxScript

/-- The diagnostics of a run. -/
structure Collector where
  /-- The number of errors that are enough. -/
  limit : Nat := 20
  /-- The diagnostics so far, the oldest first. -/
  diagnostics : List Diagnostic := []
  deriving DecidableEq, Repr, Inhabited

namespace Collector

/-- The collector with one more diagnostic. -/
def add (c : Collector) (d : Diagnostic) : Collector := { c with diagnostics := c.diagnostics ++ [d] }

/-- The collector without diagnostics. -/
def clear (c : Collector) : Collector := { c with diagnostics := [] }

/-- How many diagnostics have a severity. -/
def count (c : Collector) (s : Severity) : Nat := c.diagnostics.countP (·.severity == s)

/-- The number of errors. -/
def errorCount (c : Collector) : Nat := c.count .error

/-- The number of warnings. -/
def warningCount (c : Collector) : Nat := c.count .warning

/-- Whether there is an error. -/
def hasErrors (c : Collector) : Bool := 0 < c.errorCount

/-- Whether there are enough errors. -/
def shouldStop (c : Collector) : Bool := c.limit ≤ c.errorCount

/-- The line that counts errors and warnings, if there are any. -/
def summary (c : Collector) : List String :=
  if c.hasErrors then
    [toString c.errorCount ++ " error(s), " ++ toString c.warningCount ++ " warning(s)"]
  else if 0 < c.warningCount then [toString c.warningCount ++ " warning(s)"]
  else []

/-- All diagnostics and the summary, with an empty line between any two. -/
def text (c : Collector) (showSource : Bool) : String :=
  "\n\n".intercalate (c.diagnostics.map (·.text showSource) ++ c.summary)

end Collector

end LoxScript
