import LoxScript.Proofs.Grammar.Origin
import LoxScript.Proofs.Scanning.Places
import LoxScript.Proofs.Sources

/-! # What is reported of a source

Running a source reports its faults of scanning, or else its faults of reading, or else those of its
statements, each with the line that it is about.

* **`Session.runSource_of_lexicalFaults`**, **`Session.runSource_of_syntaxFaults`** — what comes of a source
  that cannot be read.
* **`Session.reports`** — the faults that are reported of a source, which is what running it comes to for
  whoever listens (`Session.went_runSource`).
* **`Session.Reported`** — where each of them comes from. -/

namespace LoxScript

/-! ## Quoted lines -/

namespace Fault

variable {κ κ' : Type} (fault : Fault κ) (lines : List String)

/-- A line is quoted once. -/
theorem quote_quote : (fault.quote lines).quote lines = fault.quote lines := by
  obtain ⟨cause, span, sourceLine⟩ := fault
  cases sourceLine with
  | some line => rfl
  | none =>
    -- The line is looked up at the same place both times.
    cases line : Lines.get? lines span.start.line <;> simp [quote, line]

/-- It makes no difference for the line which family the cause is seen in. -/
theorem quote_map (f : κ → κ') : (fault.map f).quote lines = (fault.quote lines).map f := by
  obtain ⟨cause, span, sourceLine⟩ := fault
  cases sourceLine <;> rfl

/-- Faults that have their lines quoted are reported as they are. -/
theorem map_quote_map (f : κ → κ') {faults : List (Fault κ)}
    (quoted : ∀ fault ∈ faults, ∃ bare : Fault κ, fault = bare.quote lines) :
    (faults.map (·.map f)).map (·.quote lines) = faults.map (·.map f) := by
  rw [List.map_map]
  refine List.map_congr_left fun fault mem => ?_
  obtain ⟨bare, rfl⟩ := quoted fault mem
  rw [Function.comp_apply, quote_map, quote_quote]

end Fault

/-! ## Sources that cannot be read -/

namespace Session

section

variable {source : String} {file : Option String} {tokens : List Token} {results : List Scanned}

/-- The faults of scanning are the faults among the results. -/
theorem mem_lexicalFaults {fault : Fault LexicalCause} :
    fault ∈ lexicalFaults results ↔ .error fault ∈ results := by
  rw [lexicalFaults, List.mem_filterMap]
  constructor
  · rintro ⟨result, mem, same⟩
    cases result with
    | ok t => cases same
    | error f =>
      cases same
      exact mem
  · exact fun mem => ⟨_, mem, rfl⟩

/-- Results without a fault are tokens. -/
theorem lexicalFaults_eq_nil_iff :
    lexicalFaults results = [] ↔ ∃ tokens : List Token, results = tokens.map .ok := by
  constructor
  · intro none
    induction results with
    | nil => exact ⟨[], rfl⟩
    | cons r rest ih =>
      cases r with
      | error fault => cases none
      | ok t =>
        obtain ⟨tokens, rfl⟩ := ih none
        exact ⟨t :: tokens, rfl⟩
  · rintro ⟨tokens, rfl⟩
    exact lexicalFaults_ok tokens

/-- Faults of scanning come with their lines quoted. -/
theorem quote_of_mem_scan {fault : Fault LexicalCause} (mem : .error fault ∈ scan source file) :
    ∃ bare : Fault LexicalCause, bare.sourceLine = none ∧ fault = bare.quote (Lines.ofSource source) := by
  obtain ⟨s, t, tracks, step⟩ := Scanner.step_of_mem_scan mem
  obtain ⟨first, more, left, -, -, -, yields⟩ := Scanner.step?_cases step
  rcases Scanner.yield?_cases yields.symm with ⟨kind, datum, -, token⟩ | ⟨cause, -, same⟩
  · cases token
  · rw [tracks.lines_eq] at same
    exact ⟨_, rfl, Except.error.inj same⟩

variable (passes limit : Nat) (s : Session)

/-- **A source with faults of scanning** reports these, and nothing of it runs. -/
theorem runSource_of_lexicalFaults (some_fault : lexicalFaults (scan source file) ≠ []) :
    ∃ t, runSource passes source file limit s = .ok false t ∧
      s.Went s.world ((lexicalFaults (scan source file)).map (·.map .lexical)) t := by
  obtain ⟨went, lines⟩ := went_opened s source (scan source file)
  have reported := (s.opened source (scan source file)).went_reportAll
    ((lexicalFaults (scan source file)).map (·.map .lexical))
  have quoted : ∀ fault ∈ lexicalFaults (scan source file),
      ∃ bare : Fault LexicalCause, fault = bare.quote (Lines.ofSource source) := by
    intro fault mem
    obtain ⟨bare, -, same⟩ := quote_of_mem_scan (mem_lexicalFaults.mp mem)
    exact ⟨bare, same⟩
  rw [lines, went.world_eq, Fault.map_quote_map _ _ quoted] at reported
  refine ⟨_, ?_, went.trans reported⟩
  rw [runSource, Outcome.get_bind_run]
  simp only [List.isEmpty_eq_false_iff.mpr some_fault, Bool.false_eq_true, if_false]
  rfl

/-- **Tokens with faults of reading** report these, and nothing of them runs. -/
theorem runSource_of_syntaxFaults (scanned : scan source file = tokens.map .ok)
    (some_fault : (Grammar.readProgram (Grammar.endSpan tokens) (some (Lines.ofSource source)) limit 0
      tokens).faults ≠ []) :
    ∃ t, runSource passes source file limit s = .ok false t ∧
      s.Went s.world ((Grammar.readProgram (Grammar.endSpan tokens) (some (Lines.ofSource source)) limit 0
        tokens).faults.map (·.map .grammatical)) t := by
  obtain ⟨-, reading⟩ := Grammar.recover_ofTokens tokens (some source) limit
  rw [Option.map_some] at reading
  generalize fs_eq : (Grammar.readProgram _ _ _ _ _).faults = fs at some_fault reading ⊢
  obtain ⟨went, lines⟩ := went_opened s source (tokens.map .ok)
  -- The faults are noted in the journal first, which reports nothing, and reported behind that.
  have isNote : ∀ f, ∃ component level text, JournalEntry.unreadable f = .note component level text :=
    fun f => ⟨_, _, _, rfl⟩
  obtain ⟨noted, lines'⟩ := went_noted isNote fs (s.opened source (tokens.map .ok))
  have reported := went_reportAll (fs.foldl (fun s f => s.record (.unreadable f))
    (s.opened source (tokens.map .ok))) (fs.map (·.map .grammatical))
  have quoted : ∀ fault ∈ fs, ∃ bare : Fault SyntaxCause, fault = bare.quote (Lines.ofSource source) := by
    intro fault mem
    rw [← fs_eq] at mem
    obtain ⟨bare, -, -, same⟩ := Grammar.exists_refused_of_mem_faults mem
    exact ⟨bare, same⟩
  rw [lines', lines, noted.world_eq, went.world_eq, Fault.map_quote_map _ _ quoted] at reported
  refine ⟨_, ?_, (went.trans noted).trans reported⟩
  rw [runSource, Outcome.get_bind_run]
  simp only [scanned, lexicalFaults_ok, scannedTokens_ok, List.isEmpty_nil, if_true, reading,
    List.isEmpty_eq_false_iff.mpr some_fault, Bool.false_eq_true, if_false]
  rfl

/-! ## All reports -/

/-- **The faults that are reported of a source** run in the world `w`. -/
def reports (passes : Nat) (source : String) (file : Option String) (limit : Nat) (w : World) :
    List (Fault Cause) :=
  let results := scan source file
  let read := (Parser.ofTokens (scannedTokens results) (some source) limit).recover
  if lexicalFaults results ≠ [] then (lexicalFaults results).map (·.map .lexical)
  else if read.2.faults ≠ [] then read.2.faults.map (·.map .grammatical)
  else (Outcome.state (Stmt.runAll passes read.1 w)).2.map (shown (Lines.ofSource source))

/-- **Running a source reports its faults**, and nothing else. -/
theorem went_runSource (source : String) (file : Option String) :
    ∃ w, s.Went w (reports passes source file limit s.world)
      (Outcome.state (runSource passes source file limit s)) := by
  -- A stage is reached only if the one before it has found no fault.
  by_cases lexical : lexicalFaults (scan source file) = []
  · obtain ⟨tokens, scanned⟩ := lexicalFaults_eq_nil_iff.mp lexical
    obtain ⟨statements, faults⟩ := Grammar.recover_ofTokens tokens (some source) limit
    rw [Option.map_some] at statements faults
    simp only [reports, scanned, lexicalFaults_ok, scannedTokens_ok, statements, faults, ne_eq,
      not_true_eq_false, if_false]
    by_cases none : (Grammar.readProgram (Grammar.endSpan tokens) (some (Lines.ofSource source)) limit 0
        tokens).faults = []
    · rw [if_neg (not_not_intro none)]
      obtain ⟨after, went, run⟩ := runSource_accepted scanned (Grammar.readProgram_derives none) passes limit s
      rw [run]
      cases result : Stmt.runAll passes _ s.world with
      | ok _ left => exact ⟨left.1, went left⟩
      | error halt left => exact ⟨left.1, went left⟩
    · rw [if_pos none]
      obtain ⟨t, run, went⟩ := runSource_of_syntaxFaults passes limit s scanned none
      rw [run]
      exact ⟨_, went⟩
  · obtain ⟨t, run, went⟩ := runSource_of_lexicalFaults passes limit s lexical
    rw [run, reports, if_pos lexical]
    exact ⟨_, went⟩

/-- **Where a reported fault comes from**: from scanning, from reading the tokens, or from running the
program that they are. It is reported with its line quoted in each case. -/
inductive Reported (passes : Nat) (source : String) (file : Option String) (w : World) : Fault Cause → Prop
  /-- A fault of scanning, which comes with its line already. -/
  | scanning {bare : Fault LexicalCause} :
      bare.sourceLine = none → .error (bare.quote (Lines.ofSource source)) ∈ scan source file →
      Reported passes source file w ((bare.map .lexical).quote (Lines.ofSource source))
  /-- A fault of reading at least one token. -/
  | reading {tokens left : List Token} {bare : Fault SyntaxCause} :
      scan source file = tokens.map .ok → tokens ≠ [] →
      Grammar.Refused (Grammar.endSpan tokens) tokens bare left →
      Reported passes source file w ((bare.map .grammatical).quote (Lines.ofSource source))
  /-- A fault of a statement of the program. -/
  | running {tokens : List Token} {program : List Stmt} {bare : Fault RuntimeCause} :
      scan source file = tokens.map .ok → Grammar.Derives.Declarations tokens program →
      bare ∈ (Outcome.state (Stmt.runAll passes program w)).2 →
      Reported passes source file w (shown (Lines.ofSource source) bare)

/-- What a source reports has been reported by one of its stages. -/
theorem reported_of_mem {w : World} {fault : Fault Cause}
    (mem : fault ∈ reports passes source file limit w) : Reported passes source file w fault := by
  -- The stages come one after another, and only the first that has faults reports any.
  by_cases lexical : lexicalFaults (scan source file) = []
  · obtain ⟨tokens, scanned⟩ := lexicalFaults_eq_nil_iff.mp lexical
    obtain ⟨statements, faults⟩ := Grammar.recover_ofTokens tokens (some source) limit
    rw [Option.map_some] at statements faults
    simp only [reports, scanned, lexicalFaults_ok, scannedTokens_ok, statements, faults, ne_eq,
      not_true_eq_false, if_false] at mem
    split at mem
    · obtain ⟨f, among, rfl⟩ := List.mem_map.mp mem
      have some_token : tokens ≠ [] := by
        rintro rfl
        rw [Grammar.readProgram] at among
        cases among
      obtain ⟨bare, left, refused, rfl⟩ := Grammar.exists_refused_of_mem_faults among
      rw [Option.getD_some, ← Fault.quote_map]
      exact .reading scanned some_token refused
    · next none =>
      obtain ⟨bare, among, rfl⟩ := List.mem_map.mp mem
      exact .running scanned (Grammar.readProgram_derives (not_not.mp none)) among
  · rw [reports, if_pos lexical] at mem
    obtain ⟨f, among, rfl⟩ := List.mem_map.mp mem
    obtain ⟨bare, none, rfl⟩ := quote_of_mem_scan (mem_lexicalFaults.mp among)
    rw [← Fault.quote_map]
    exact .scanning none (mem_lexicalFaults.mp among)

end

end Session

end LoxScript
