import LoxScript.Diagnostic.Collector
import LoxScript.Fault

/-! # Reporters
A reporter receives every fault that a session reports while the reporter is registered. There are three
kinds: one keeps the faults themselves, one collects their diagnostics, and one writes them as text. -/

namespace LoxScript

/-- A receiver of faults with what it has received. -/
inductive Reporter where
  /-- Keeps the faults. -/
  | listener (heard : List (Fault Cause))
  /-- Collects the diagnostics. -/
  | collector (diagnostics : Collector)
  /-- Writes the diagnostics, each on lines of its own. -/
  | stream (showSource : Bool) (written : String)
  deriving DecidableEq, Inhabited

namespace Reporter

/-- The reporter after one more fault. -/
def receive (fault : Fault Cause) : Reporter → Reporter
  | listener heard => listener (heard ++ [fault])
  | collector c => collector (c.add fault.diagnostic)
  | stream showSource written =>
    stream showSource (written ++ fault.diagnostic.text showSource ++ "\n")

/-- The faults that a listener has heard. -/
def heard : Reporter → List (Fault Cause)
  | listener faults => faults
  | _ => []

/-- What a collector has collected. -/
def collected : Reporter → Collector
  | collector c => c
  | _ => {}

/-- The text that a stream has been written. -/
def written : Reporter → String
  | stream _ text => text
  | _ => ""

/-- The reporter without what it has heard or been written; what has been collected stays. -/
def drained : Reporter → Reporter
  | listener _ => listener []
  | collector c => collector c
  | stream showSource _ => stream showSource ""

end Reporter

end LoxScript
