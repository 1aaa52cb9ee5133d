import LoxScript.Execution
import LoxScript.Grammar.Program
import LoxScript.Journal
import LoxScript.Reporter

/-! # Sessions
A session keeps variables across the sources run in it. A source runs only if it can be read as a whole:
faults of scanning hide those of reading, and either keep the whole source from running. A statement at fault
ends alone, and the run goes on with the next one. Every fault goes to all registered reporters. -/

namespace LoxScript

/-- The state of a session. -/
structure Session where
  /-- The variables, and the text printed so far. -/
  world : World := {}
  /-- The lines of the source set last, to be quoted by faults. -/
  lines : List String := []
  /-- The registered reporters. -/
  reporters : List Reporter := []
  /-- What has happened so far. -/
  journal : Journal := #[]
  deriving Inhabited

/-- A computation in a session that may end the run. -/
abbrev SessionM := EStateM Halt Session

namespace Session

/-- The session with the lines of `source` to be quoted by later faults. -/
def setSource (s : Session) (source : String) : Session := { s with lines := Lines.ofSource source }

/-- The session with one more entry in its journal. -/
def record (s : Session) (entry : JournalEntry) : Session := { s with journal := s.journal.push entry }

/-- Passes a fault to every reporter, with its line quoted. -/
def report (s : Session) (fault : Fault Cause) : Session :=
  let fault := fault.quote s.lines
  { s.record (.report fault) with reporters := s.reporters.map (·.receive fault) }

/-- Passes faults to every reporter in turn. -/
def reportAll (s : Session) (faults : List (Fault Cause)) : Session := faults.foldl report s

/-- Carries out one statement; a fault is left to the caller. -/
def execute (passes : Nat) (statement : Stmt) (s : Session) : Except Stop Unit × Session :=
  match statement.execute passes s.world with
  | .ok _ world => (.ok (), { s with world := world })
  | .error stop world => (.error stop, { s with world := world })

/-- Evaluates one expression; a fault is left to the caller. -/
def evaluate (expression : Expr) (s : Session) : Except Stop Value × Session :=
  match expression.evaluate s.world.environment with
  | .ok v env => (.ok v, { s with world := { s.world with environment := env } })
  | .error stop env => (.error stop, { s with world := { s.world with environment := env } })

/-- Carries out statements, reporting and passing over those at fault. -/
def interpret (passes : Nat) : List Stmt → SessionM Unit
  | [] => return
  | statement :: rest => do
    let (outcome, s) := (← get).execute passes statement
    set s
    match outcome with
    | .ok _ => interpret passes rest
    | .error (.fault fault) =>
      set ((s.record (.stopped fault)).report (fault.map .runtime))
      interpret passes rest
    | .error (.halt halt) => throw halt

/-- Carries out statements with further reporters that are registered for this time only, and gives
these back with what they have received. However the run ends, the reporters registered afterwards
are those registered before. -/
def interpretWith (passes : Nat) (statements : List Stmt) (extra : List Reporter) :
    SessionM (List Reporter) := fun s =>
  let registered := s.reporters.length
  let restore (t : Session) : Session := { t with reporters := t.reporters.take registered }
  match interpret passes statements { s with reporters := s.reporters ++ extra } with
  | .ok _ t => .ok (t.reporters.drop registered) (restore t)
  | .error halt t => .error halt (restore t)

/-- The faults among the results of scanning. -/
def lexicalFaults (results : List Scanned) : List (Fault LexicalCause) :=
  results.filterMap fun
    | .ok _ => none
    | .error fault => some fault

/-- The tokens among the results of scanning. -/
def scannedTokens (results : List Scanned) : List Token :=
  results.filterMap fun
    | .ok t => some t
    | .error _ => none

/-- Runs one source. The answer tells whether it could be read; if it could not, nothing of it has run. -/
def runSource (passes : Nat) (source : String) (file : Option String) (limit : Nat) :
    SessionM Bool := do
  let results := scan source file
  let s := (← get).setSource source
  let s := results.foldl (fun s r => s.record (.scanned r)) s
  let lexical := lexicalFaults results
  if lexical.isEmpty then
    let (statements, p) := (Parser.ofTokens (scannedTokens results) (some source) limit).recover
    let s := p.faults.foldl (fun s f => s.record (.unreadable f)) s
    if p.faults.isEmpty then
      set s
      interpret passes statements
      return true
    else
      set (s.reportAll (p.faults.map (·.map .grammatical)))
      return false
  else
    set (s.reportAll (lexical.map (·.map .lexical)))
    return false

/-- The diagnostics that the collectors of the session have collected. -/
def collected (s : Session) : Collector :=
  { diagnostics := (s.reporters.map Reporter.collected).flatMap (·.diagnostics) }

/-- The session with nothing printed, noted, heard or written yet; variables
and collected diagnostics stay. -/
def drained (s : Session) : Session :=
  { s with
    world := { s.world with printed := "" }
    journal := #[]
    reporters := s.reporters.map Reporter.drained }

end Session

end LoxScript
