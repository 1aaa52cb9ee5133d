import LoxScript.CommandLine.Work
import LoxScript.Proofs.Reporters
import LoxScript.Proofs.Verdict

/-! # Work on a script

Listing the tokens of a script, outlining its tree and running it read it in different ways: the first scans
it to the end, the second stops scanning at the first fault, and the third reads it as a whole before
anything of it runs. They agree all the same.

* **`Console.Shows`** — what a console has been shown, the notes in the log aside.
* **`Scanner.untilFault_cases`** — scanning up to the first fault, beside scanning to the end.
* **`shows_listTokens`**, **`Outlined`**, **`shows_runScript`** — what each kind of work shows, and how it
  ends.
* **`work_agrees`** — the three beside each other. -/

namespace LoxScript

/-! ## What a console is shown -/

namespace JournalEntry

/-- The fault that an entry reports. -/
def fault? : JournalEntry → Option (Fault Cause)
  | report fault => some fault
  | note .. => none

/-- Entries that a log set to warnings does not show: reports, and notes below warnings. -/
def IsQuiet : JournalEntry → Prop
  | note _ level _ => level.number < Level.warning.number
  | report _ => True

/-- A note for debugging is quiet. -/
theorem isQuiet_debug (component : Component) (line : String) : (note component .debug line).IsQuiet := by
  show (10 : Int) < 30
  decide

end JournalEntry

/-- **What a console is shown**: faults on the errors in order, and text on the output. At any time there may
be notes below warnings, with which the log does as it pleases. -/
inductive Console.Shows (time : String) (showSource : Bool) :
    Console → List (Fault Cause) → String → Console → Prop
  | nothing (c : Console) : Shows time showSource c [] "" c
  | note {c d : Console} {faults : List (Fault Cause)} {text : String} (component : Component)
      {level : Level} (line : String) :
      level.number < Level.warning.number →
      Shows time showSource (c.note time (Log.loggerOf component) level.number line) faults text d →
      Shows time showSource c faults text d
  | fault {c d : Console} {fault : Fault Cause} {faults : List (Fault Cause)} {text : String} :
      Shows time showSource (c.complain (fault.diagnostic.text showSource)) faults text d →
      Shows time showSource c (fault :: faults) text d
  | text {c d : Console} {faults : List (Fault Cause)} {text : String} (line : String) :
      Shows time showSource (c.write line) faults text d →
      Shows time showSource c faults (line ++ text) d

/-- A log that shows notes from warnings on, like one that has not been set up. -/
def Log.IsQuiet (l : Log) : Prop := ∀ component, Level.warning.number ≤ l.leastLevel (loggerOf component)

/-- Such a log shows no note below warnings. -/
theorem Log.IsQuiet.admits_eq_false {l : Log} (quiet : l.IsQuiet) (component : Component) {level : Int}
    (below : level < Level.warning.number) : l.admits (loggerOf component) level = false := by
  have least := quiet component
  unfold admits
  simp only [Bool.and_eq_false_iff, decide_eq_false_iff_not]
  exact .inr (by omega)

namespace Console

variable {time : String} {showSource : Bool} {c d e : Console} {faults others : List (Fault Cause)}
  {text more : String}

/-- Nothing to replay leaves the console as it is. -/
@[simp] theorem replay_nil (c : Console) (time : String) (showSource : Bool) :
    c.replay time showSource [] = c := rfl

/-- A note leaves the output and the log as they are. -/
theorem note_keeps (c : Console) (time logger : String) (level : Int) (line : String) :
    (c.note time logger level line).output = c.output ∧ (c.note time logger level line).log = c.log := by
  unfold note
  by_cases admitted : c.log.admits logger level
  · by_cases listed : c.log.isListed logger
    · simp only [admitted, listed, Bool.not_true, Bool.false_eq_true, if_false, if_true]
      cases c.log.file <;> exact ⟨rfl, rfl⟩
    · simp only [admitted, listed, Bool.not_true, Bool.false_eq_true, if_false]
      exact ⟨rfl, rfl⟩
  · simp [admitted]

/-- A quiet log does nothing with a note below warnings. -/
theorem note_of_isQuiet (quiet : c.log.IsQuiet) (component : Component) {level : Int} (line : String)
    (below : level < Level.warning.number) : c.note time (Log.loggerOf component) level line = c := by
  unfold note
  rw [quiet.admits_eq_false component below]
  simp

namespace Shows

/-- What is shown one after another is shown in this order. -/
theorem trans (first : Shows time showSource c faults text d)
    (second : Shows time showSource d others more e) :
    Shows time showSource c (faults ++ others) (text ++ more) e := by
  induction first with
  | nothing c => simpa using second
  | note component line below _ ih => exact .note component line below (ih second)
  | fault _ ih => exact .fault (ih second)
  | text line _ ih =>
    rw [String.append_assoc]
    exact .text line (ih second)

/-- Text is written to the output, and nothing else is. -/
theorem output_eq (h : Shows time showSource c faults text d) : d.output = c.output ++ text := by
  induction h with
  | nothing c => simp
  | note component line _ _ ih => rw [ih, (note_keeps ..).1]
  | fault _ ih => exact ih
  | text line _ ih =>
    rw [ih, ← String.append_assoc]
    rfl

/-- **With a quiet log the errors are the diagnostics** of the faults in order, each on lines of its own. -/
theorem errors_eq (h : Shows time showSource c faults text d) (quiet : c.log.IsQuiet) :
    d.errors = c.errors ++ String.join (faults.map fun fault => fault.diagnostic.text showSource ++ "\n") := by
  induction h with
  | nothing c => simp
  | note component line below _ ih =>
    rw [note_of_isQuiet quiet component line below] at ih
    exact ih quiet
  | fault _ ih =>
    rw [ih quiet, List.map_cons, String.join_cons]
    simp only [complain, String.append_assoc]
  | text line _ ih => exact ih quiet

/-- With a quiet log, nothing is written to the errors iff no fault is shown. -/
theorem errors_eq_self_iff (h : Shows time showSource c faults text d) (quiet : c.log.IsQuiet) :
    d.errors = c.errors ↔ faults = [] := by
  rw [h.errors_eq quiet]
  constructor
  · intro same
    have nothing := String.append_eq_left_iff.mp same
    cases faults with
    | nil => rfl
    | cons fault rest =>
      -- The text of a fault ends with a newline.
      simp [String.join_cons] at nothing
  · rintro rfl
    simp

/-- Entries of a journal are shown in order. -/
theorem replay {entries : List JournalEntry} (quiet : ∀ entry ∈ entries, entry.IsQuiet) (c : Console) :
    Shows time showSource c (entries.filterMap JournalEntry.fault?) "" (c.replay time showSource entries) := by
  induction entries generalizing c with
  | nil => exact .nothing c
  | cons entry rest ih =>
    have others := ih fun e mem => quiet e (List.mem_cons_of_mem _ mem)
    cases entry with
    | note component level line =>
      exact .note component line (quiet _ (List.mem_cons_self ..)) (others _)
    | report fault => exact .fault (others _)

/-- Text alone. -/
theorem write (line : String) (c : Console) : Shows time showSource c [] line (c.write line) := by
  simpa using Shows.text line (.nothing (c.write line))

/-- A fault alone. -/
theorem complain (fault : Fault Cause) (c : Console) :
    Shows time showSource c [fault] "" (c.complain (fault.diagnostic.text showSource)) :=
  .fault (.nothing _)

end Shows

end Console

namespace Session

/-! ## Journals -/

/-- A session whose journal holds reports, and notes below warnings. -/
def IsQuiet (s : Session) : Prop := ∀ entry ∈ s.journal.toList, entry.IsQuiet

/-- The faults of a session are those in its journal. -/
theorem faults_eq_filterMap (s : Session) : s.faults = s.journal.toList.filterMap JournalEntry.fault? := rfl

/-- A quiet entry keeps a session quiet. -/
theorem IsQuiet.record {s : Session} (quiet : s.IsQuiet) {entry : JournalEntry} (h : entry.IsQuiet) :
    (s.record entry).IsQuiet := by
  intro e mem
  simp only [Session.record, Array.toList_push, List.mem_append, List.mem_singleton] at mem
  rcases mem with mem | rfl
  · exact quiet e mem
  · exact h

/-- So do quiet entries one after another. -/
theorem IsQuiet.recorded {α : Type} {entry : α → JournalEntry} (h : ∀ a, (entry a).IsQuiet) (items : List α)
    {s : Session} (quiet : s.IsQuiet) : (items.foldl (fun s a => s.record (entry a)) s).IsQuiet := by
  induction items generalizing s with
  | nil => exact quiet
  | cons a rest ih => exact ih (quiet.record (h a))

/-- A fault is reported at a level that a quiet log shows. -/
theorem IsQuiet.report {s : Session} (quiet : s.IsQuiet) (fault : Fault Cause) : (s.report fault).IsQuiet := by
  have h : (JournalEntry.report (fault.quote s.lines)).IsQuiet := trivial
  exact quiet.record h

/-- So are faults one after another. -/
theorem IsQuiet.reportAll {s : Session} (quiet : s.IsQuiet) (faults : List (Fault Cause)) :
    (s.reportAll faults).IsQuiet := by
  unfold Session.reportAll
  induction faults generalizing s with
  | nil => exact quiet
  | cons fault rest ih => exact ih (quiet.report fault)

/-- Running statements keeps a session quiet: their faults are noted below warnings, then reported. -/
theorem IsQuiet.interpret {s : Session} (quiet : s.IsQuiet) (passes : Nat) (ss : List Stmt) :
    (Outcome.state (Session.interpret passes ss s)).IsQuiet := by
  rw [interpret_eq, Outcome.state_mapState, behind]
  -- Running the statements in their world makes no entry; their faults are noted and reported afterwards.
  generalize (Outcome.state (Stmt.runAll passes ss s.world)).2 = faults
  generalize start : ({ s with world := _ } : Session) = t
  have quiet' : t.IsQuiet := by
    rw [← start]
    exact quiet
  clear start
  induction faults generalizing t with
  | nil => exact quiet'
  | cons fault rest ih =>
    exact ih _ ((quiet'.record (JournalEntry.isQuiet_debug ..)).report _)

/-- **The notes made while a source runs are below warnings.** -/
theorem IsQuiet.runSource {s : Session} (quiet : s.IsQuiet) (passes : Nat) (source : String)
    (file : Option String) (limit : Nat) :
    (Outcome.state (Session.runSource passes source file limit s)).IsQuiet := by
  have scanned : ∀ r, (JournalEntry.scanned r).IsQuiet := by
    intro r
    cases r <;> exact JournalEntry.isQuiet_debug ..
  have unreadable : ∀ fault, (JournalEntry.unreadable fault).IsQuiet := fun fault =>
    JournalEntry.isQuiet_debug ..
  have noted := IsQuiet.recorded scanned (scan source file) (s := s.setSource source) quiet
  unfold Session.runSource
  rw [Outcome.get_bind_run]
  dsimp only
  split
  · generalize (Parser.ofTokens (scannedTokens (scan source file)) (some source) limit).recover = read
    have noted' := IsQuiet.recorded unreadable read.2.faults noted
    split
    · -- What is left is what carrying out the statements leaves.
      have left := noted'.interpret passes read.1
      show (Outcome.state ((Session.interpret passes read.1 >>= fun _ => pure true) _)).IsQuiet
      rw [Outcome.bind_run]
      cases run : Session.interpret passes read.1 _ <;> rw [run] at left <;> exact left
    · exact noted'.reportAll _
  · exact noted.reportAll _

end Session

/-! ## Scanning up to the first fault -/

/-- **Scanning up to the first fault** goes as far as scanning to the end does, if there is none, and else
stops at the first one that is met on the way to the end. -/
theorem Scanner.untilFault_cases (s : Scanner) :
    (∃ tokens : List Token, s.untilFault.1 = tokens.map .ok ∧ s.rest.1 = tokens.map .ok) ∨
    ∃ (tokens : List Token) (fault : Fault LexicalCause) (more : List Scanned),
      s.untilFault.1 = tokens.map .ok ++ [.error fault] ∧ s.rest.1 = tokens.map .ok ++ .error fault :: more := by
  -- Every step leaves fewer characters ahead.
  induction hn : s.cursor.ahead.length using Nat.strongRecOn generalizing s with
  | ind n ih =>
    cases h : s.step? with
    | none => exact .inl ⟨[], untilFault_of_end (step?_eq_none.mp h), rest_of_none h⟩
    | some next =>
      obtain ⟨r, t⟩ := next
      have later := ih _ (hn ▸ step?_shorter h) t rfl
      rw [rest_of_step h]
      match r with
      | none =>
        rw [untilFault_of_none h]
        exact later
      | some (.error fault) =>
        rw [untilFault_of_fault h]
        exact .inr ⟨[], fault, t.rest.1, rfl, rfl⟩
      | some (.ok token) =>
        rw [untilFault_of_token h]
        rcases later with ⟨tokens, cut, whole⟩ | ⟨tokens, fault, more, cut, whole⟩
        · exact .inl ⟨token :: tokens, by simp [cut], by simp [whole]⟩
        · exact .inr ⟨token :: tokens, fault, more, by simp [cut], by simp [whole]⟩

/-- The first fault stands for the tokens. -/
theorem tokensOf_fault (tokens : List Token) (fault : Fault LexicalCause) (more : List Scanned) :
    tokensOf (tokens.map .ok ++ .error fault :: more) = .error fault := by
  induction tokens with
  | nil => rfl
  | cons t rest ih => simp [tokensOf, ih, Except.map]

/-- Tokens in front of a fault add none. -/
theorem Session.lexicalFaults_fault (tokens : List Token) (fault : Fault LexicalCause) (more : List Scanned) :
    lexicalFaults (tokens.map .ok ++ .error fault :: more) = fault :: lexicalFaults more := by
  induction tokens with
  | nil => rfl
  | cons t rest ih => exact ih

namespace CommandLine

variable (given : Conditions) (script : Script) (c : Console)

/-- A status is a success if there was success. -/
@[simp] theorem Status.ofSuccess_eq_success {b : Bool} : Status.ofSuccess b = .success ↔ b = true := by
  cases b <;> simp [Status.ofSuccess]

/-- It is a failure otherwise. -/
@[simp] theorem Status.ofSuccess_eq_failure {b : Bool} : Status.ofSuccess b = .failure ↔ b = false := by
  cases b <;> simp [Status.ofSuccess]

/-- The faults of scanning a script, as they are shown. -/
def Script.lexicalFaults (script : Script) : List (Fault Cause) :=
  (Session.lexicalFaults (scan script.source (some script.file))).map (·.map .lexical)

/-- What is written to the output for the tokens of a script. -/
def Script.tokenLines (script : Script) : String :=
  String.join ((Session.scannedTokens (scan script.source (some script.file))).map (tokenLine · ++ "\n"))

/-- What is written to the output for the tree of a program; nothing for that of no statement. -/
def outlineText (program : List Stmt) : String :=
  if program.isEmpty then "" else programOutline program ++ "\n"

section

variable {time : String} {showSource : Bool}

/-- Notes on results of scanning show nothing. -/
theorem shows_scanned (results : List Scanned) (c : Console) :
    Console.Shows time showSource c [] "" (c.replay time showSource (results.map .scanned)) := by
  have quiet : ∀ entry ∈ results.map JournalEntry.scanned, entry.IsQuiet := by
    intro entry mem
    obtain ⟨r, -, rfl⟩ := List.mem_map.mp mem
    cases r <;> exact JournalEntry.isQuiet_debug ..
  have none : (results.map JournalEntry.scanned).filterMap JournalEntry.fault? = [] := by
    rw [List.filterMap_map, List.filterMap_eq_nil_iff]
    intro r _
    cases r <;> rfl
  have shown : Console.Shows time showSource c _ "" _ := .replay quiet c
  rwa [none] at shown

/-- Writing the results of a scan shows their faults as diagnostics and their tokens as lines,
each in its order. -/
theorem shows_foldl_writeScanned (results : List Scanned) (c : Console) :
    Console.Shows time showSource c ((Session.lexicalFaults results).map (·.map .lexical))
      (String.join ((Session.scannedTokens results).map (tokenLine · ++ "\n")))
      (results.foldl (writeScanned showSource) c) := by
  induction results generalizing c with
  | nil => simpa [Session.lexicalFaults, Session.scannedTokens] using Console.Shows.nothing c
  | cons r rest ih =>
    cases r with
    | ok t =>
      show Console.Shows _ _ c _ (String.join (_ :: (Session.scannedTokens rest).map _)) _
      rw [String.join_cons]
      exact .text (tokenLine t ++ "\n") (ih _)
    | error fault => exact .fault (ih _)

end

/-- **What listing the tokens of a script shows**: all tokens, and all faults of scanning. -/
theorem shows_listTokens :
    Console.Shows given.time given.settings.showSource c script.lexicalFaults script.tokenLines
      (listTokens given script c).2 :=
  (shows_scanned _ c).trans (shows_foldl_writeScanned _ _)

/-- Listing the tokens fails iff there is a fault of scanning. -/
theorem listTokens_fails_iff : (listTokens given script c).1 = .failure ↔ script.lexicalFaults ≠ [] := by
  simp [listTokens, Script.lexicalFaults]

/-! ## Outlining the tree -/

/-- **A script with faults of scanning** is not outlined, and the first of them is shown. -/
theorem outlineTree_of_lexicalFaults {first : Fault Cause} {others : List (Fault Cause)}
    (faults : script.lexicalFaults = first :: others) :
    (outlineTree given script c).1 = .failure ∧
      Console.Shows given.time given.settings.showSource c [first] "" (outlineTree given script c).2 := by
  unfold Script.lexicalFaults scan at faults
  rcases (Scanner.ofSource script.source (some script.file)).untilFault_cases with
    ⟨tokens, -, whole⟩ | ⟨tokens, fault, more, cut, whole⟩
  · rw [whole, Session.lexicalFaults_ok] at faults
    cases faults
  · rw [whole, Session.lexicalFaults_fault, List.map_cons] at faults
    obtain ⟨rfl, -⟩ := List.cons.inj faults
    unfold outlineTree
    simp only [cut, tokensOf_fault]
    exact ⟨trivial, (shows_scanned _ c).trans (.complain _ _)⟩

section

variable {script} {tokens : List Token}

/-- A script without faults of scanning is outlined as far as it can be read. -/
theorem outlineTree_of_tokens (scanned : scan script.source (some script.file) = tokens.map .ok) :
    let read := Grammar.readProgram (Grammar.endSpan tokens) (some (Lines.ofSource script.source))
      given.settings.maxErrors 0 tokens
    ((outlineTree given script c).1 = .failure ↔ read.faults ≠ []) ∧
      (read.faults = [] → Console.Shows given.time given.settings.showSource c []
        (outlineText read.statements) (outlineTree given script c).2) := by
  intro read
  have recovered := Grammar.recover_ofTokens tokens (some script.source) given.settings.maxErrors
  have statements : _ = read.statements := recovered.1
  have faults : _ = read.faults := recovered.2
  have tokenized : tokensOf (Scanner.ofSource script.source (some script.file)).untilFault.1 = .ok tokens :=
    tokensOf_untilFault.mpr scanned
  unfold outlineTree
  simp only [tokenized, statements, faults]
  refine ⟨by simp, fun none => ?_⟩
  simp only [none, List.map_nil, List.isEmpty_nil, if_true, Console.replay_nil]
  -- The notes of scanning show nothing, and the outline is written behind them.
  have noted : Console.Shows given.time given.settings.showSource c [] "" _ :=
    shows_scanned (Scanner.ofSource script.source (some script.file)).untilFault.1 c
  unfold outlineText
  by_cases empty : read.statements.isEmpty
  · simpa only [if_pos empty] using noted
  · simpa only [if_neg empty, List.append_nil, String.empty_append] using
      noted.trans (.write (programOutline read.statements ++ "\n") _)

end

section

variable (passes limit : Nat) {source : String} {file : Option String} (s : Session)

/-- A source that cannot be read does not run, and a fault of it is reported. -/
theorem runSource_refused (none : ∀ program, ¬ReadsAs source file program) :
    ∃ t new, Session.runSource passes source file limit s = .ok false t ∧ s.Went s.world new t ∧ new ≠ [] := by
  by_cases lexical : Session.lexicalFaults (scan source file) = []
  · obtain ⟨tokens, scanned⟩ := Session.lexicalFaults_eq_nil_iff.mp lexical
    -- Reading tokens without a fault would make a program of them.
    have some_fault : (Grammar.readProgram (Grammar.endSpan tokens) (some (Lines.ofSource source)) limit 0
        tokens).faults ≠ [] := by
      intro no_fault
      exact none _ ⟨tokens, scanned, Grammar.readProgram_derives no_fault⟩
    obtain ⟨t, run, went⟩ := Session.runSource_of_syntaxFaults passes limit s scanned some_fault
    exact ⟨t, _, run, went, by simpa using some_fault⟩
  · obtain ⟨t, run, went⟩ := Session.runSource_of_lexicalFaults passes limit s lexical
    exact ⟨t, _, run, went, by simpa using lexical⟩

/-- **Running a source is refused** iff it cannot be read as a program, whatever the session. -/
theorem runSource_refused_iff :
    (∃ t, Session.runSource passes source file limit s = .ok false t) ↔
      ∀ program, ¬ReadsAs source file program := by
  constructor
  · rintro ⟨t, refused⟩ program ⟨tokens, scanned, derives⟩
    -- A source that can be read answers so, if its run comes to an end at all.
    obtain ⟨after, -, run⟩ := Session.runSource_accepted scanned derives passes limit s
    rw [run] at refused
    obtain ⟨_, _, -, answer⟩ := Outcome.bind_eq_ok.mp refused
    cases answer
  · intro none
    obtain ⟨t, new, run, -⟩ := runSource_refused passes limit s none
    exact ⟨t, run⟩

end

/-- **Outlining the tree fails** iff the script cannot be read as a program. -/
theorem outlineTree_fails_iff :
    (outlineTree given script c).1 = .failure ↔ ∀ program, ¬ReadsAs script.source (some script.file) program := by
  by_cases lexical : Session.lexicalFaults (scan script.source (some script.file)) = []
  · obtain ⟨tokens, scanned⟩ := Session.lexicalFaults_eq_nil_iff.mp lexical
    rw [(outlineTree_of_tokens given c scanned).1]
    constructor
    · rintro some_fault program ⟨tokens', scanned', derives⟩
      obtain rfl : tokens' = tokens :=
        List.map_injective_iff.mpr (fun _ _ => Except.ok.inj) (scanned'.symm.trans scanned)
      rw [derives.readProgram] at some_fault
      exact some_fault rfl
    · exact fun none no_fault => none _ ⟨tokens, scanned, Grammar.readProgram_derives no_fault⟩
  · have some_fault : script.lexicalFaults ≠ [] := by simpa [Script.lexicalFaults] using lexical
    obtain ⟨first, others, faults⟩ := List.exists_cons_of_ne_nil some_fault
    refine iff_of_true (outlineTree_of_lexicalFaults given script c faults).1 ?_
    rintro program ⟨tokens, scanned, -⟩
    exact lexical (by rw [scanned, Session.lexicalFaults_ok])

/-- A script that can be read as a program has its tree outlined. -/
theorem shows_outlineTree {program : List Stmt}
    (reads : ReadsAs script.source (some script.file) program) :
    Console.Shows given.time given.settings.showSource c [] (outlineText program)
      (outlineTree given script c).2 := by
  obtain ⟨tokens, scanned, derives⟩ := reads
  have shown := (outlineTree_of_tokens given c scanned).2
  rw [derives.readProgram] at shown
  exact shown rfl

/-! ## Running -/

/-- The collector of the session in which a script runs has counted every fault. -/
theorem errorCount_collected {faults : List (Fault Cause)} {w : World} {t : Session}
    (went : scriptSession.Went w faults t) : t.collected.errorCount = faults.length := by
  have received := Reporter.received_receiveAll faults (.collector {})
  rw [Session.collected, went.reporters_eq]
  show Collector.errorCount ⟨20, ([(Reporter.collector {}).receiveAll faults].map Reporter.collected).flatMap
    (·.diagnostics)⟩ = _
  generalize (Reporter.collector {}).receiveAll faults = r at received ⊢
  cases received with
  | @collector _ after limit diagnostics count =>
    show Collector.count ⟨20, [Reporter.collector after].flatMap (·.collected.diagnostics)⟩ .error = _
    simpa [Collector.errorCount, Collector.count, Reporter.collected] using count

/-- **How the run of a script ends**: with success iff it could be read and no fault was reported. -/
theorem runScript_of_runSource {readable : Bool} {faults : List (Fault Cause)} {w : World} {t : Session}
    (run : Session.runSource given.passes script.source (some script.file) given.settings.maxErrors
      scriptSession = .ok readable t) (went : scriptSession.Went w faults t) :
    ∃ status c', runScript given script c = .ok (status, c') ∧
      (status = .success ↔ readable = true ∧ faults = []) ∧ (status = .failure ↔ ¬status = .success) ∧
      Console.Shows given.time given.settings.showSource c faults t.world.printed c' := by
  -- What the journal holds is replayed on the console; notes below the warning level show nothing there.
  have quiet : t.IsQuiet := by
    have left := Session.IsQuiet.runSource (s := scriptSession) (fun _ mem => by cases mem) given.passes
      script.source (some script.file) given.settings.maxErrors
    rwa [run] at left
  have shown : Console.Shows given.time given.settings.showSource c faults t.world.printed
      ((c.replay given.time given.settings.showSource t.journal.toList).write t.world.printed) := by
    have replayed : Console.Shows given.time given.settings.showSource c _ "" _ := .replay quiet c
    rw [← Session.faults_eq_filterMap, went.faults_eq] at replayed
    have started : scriptSession.faults = [] := rfl
    simpa [started] using replayed.trans (.write t.world.printed _)
  have count := errorCount_collected went
  have succeeds : (readable && !t.collected.hasErrors) = true ↔ readable = true ∧ faults = [] := by
    simp [Collector.hasErrors, count, List.length_eq_zero_iff]
  unfold runScript
  rw [run]
  by_cases success : (readable && !t.collected.hasErrors) = true
  · refine ⟨_, _, if_pos success, ?_, ?_, shown⟩
    · simpa using succeeds.mp success
    · simp
  · refine ⟨_, _, if_neg success, ?_, ?_, ?_⟩
    · simpa using mt succeeds.mpr success
    · simp
    · -- The number of errors is noted behind all reports.
      simpa using shown.trans (.note .commandLine _ (by decide) (.nothing _))

section

variable {given script c}

/-- A script whose run has come to an end has run in its session. -/
theorem runSource_of_runScript {status : Status} {c' : Console}
    (ran : runScript given script c = .ok (status, c')) :
    ∃ readable t, Session.runSource given.passes script.source (some script.file) given.settings.maxErrors
      scriptSession = .ok readable t := by
  unfold runScript at ran
  cases run : Session.runSource given.passes script.source (some script.file) given.settings.maxErrors
      scriptSession with
  | ok readable t => exact ⟨readable, t, rfl⟩
  | error halt t =>
    rw [run] at ran
    cases ran

/-- **What running a script shows** are the faults that are reported of it, and it succeeds
iff there are none. -/
theorem shows_runScript {status : Status} {c' : Console} (ran : runScript given script c = .ok (status, c')) :
    let faults := Session.reports given.passes script.source (some script.file) given.settings.maxErrors {}
    (∃ printed, Console.Shows given.time given.settings.showSource c faults printed c') ∧
      (status = .success ↔ faults = []) := by
  intro faults
  obtain ⟨readable, t, run⟩ := runSource_of_runScript ran
  obtain ⟨w, went⟩ := Session.went_runSource given.passes given.settings.maxErrors scriptSession script.source
    (some script.file)
  rw [run, Outcome.state_ok] at went
  obtain ⟨status', d, ran', succeeds, -, shown⟩ := runScript_of_runSource given script c run went
  obtain ⟨rfl, rfl⟩ := Prod.mk.inj (Except.ok.inj (ran.symm.trans ran'))
  refine ⟨⟨_, shown⟩, succeeds.trans (and_iff_right_of_imp fun no_fault => ?_)⟩
  -- A script that cannot be read is not passed over in silence.
  cases readable with
  | true => rfl
  | false =>
    have none := (runSource_refused_iff _ _ _).mp ⟨t, run⟩
    obtain ⟨t', new, run', went', some_fault⟩ :=
      runSource_refused given.passes given.settings.maxErrors scriptSession none
    cases run.symm.trans run'
    have same : faults = new := List.append_cancel_left (went.faults_eq.symm.trans went'.faults_eq)
    exact absurd (same.symm.trans no_fault) some_fault

variable (given script c)

/-- A script that cannot be read fails. -/
theorem runScript_of_not_readsAs (none : ∀ program, ¬ReadsAs script.source (some script.file) program) :
    ∃ c', runScript given script c = .ok (.failure, c') := by
  obtain ⟨t, new, run, went, some_fault⟩ :=
    runSource_refused given.passes given.settings.maxErrors scriptSession none
  obtain ⟨status, c', ran, succeeds, fails, -⟩ := runScript_of_runSource given script c run went
  rw [fails.mpr fun success => some_fault (succeeds.mp success).2] at ran
  exact ⟨c', ran⟩

/-- **A script succeeds** iff it can be read as a program all of whose statements do. -/
theorem runScript_succeeds_iff :
    (∃ c', runScript given script c = .ok (.success, c')) ↔
      ∃ program results w, ReadsAs script.source (some script.file) program ∧
        Stmt.RunsTo given.passes program {} results w ∧ ∀ result ∈ results, result = none := by
  have all_none (results : List (Option (Fault RuntimeCause))) :
      results.reduceOption.map (Session.shown (Lines.ofSource script.source)) = [] ↔
        ∀ result ∈ results, result = none := by
    simp [List.reduceOption, List.filterMap_eq_nil_iff]
  constructor
  · rintro ⟨c', ran⟩
    obtain ⟨readable, t, run⟩ := runSource_of_runScript ran
    -- A script that cannot be read ends with failure, so this one can.
    have readable_as : ∃ program, ReadsAs script.source (some script.file) program := by
      by_contra none
      obtain ⟨d, fails⟩ := runScript_of_not_readsAs given script c (not_exists.mp none)
      cases ran.symm.trans fails
    obtain ⟨program, reads⟩ := readable_as
    obtain ⟨ends, endless⟩ := reads.runSource given.passes scriptSession given.settings.maxErrors
    by_cases runs : ∃ results w, Stmt.RunsTo given.passes program {} results w
    · obtain ⟨results, w, runs⟩ := runs
      obtain ⟨t', run', went⟩ := ends results w runs
      obtain ⟨status, d, ran', succeeds, -⟩ := runScript_of_runSource given script c run' went
      obtain ⟨rfl, -⟩ := Prod.mk.inj (Except.ok.inj (ran.symm.trans ran'))
      exact ⟨program, results, w, reads, runs, (all_none results).mp (succeeds.mp rfl).2⟩
    · -- A run without an end leaves no console.
      obtain ⟨t', run'⟩ := endless fun results w h => runs ⟨results, w, h⟩
      cases run.symm.trans run'
  · rintro ⟨program, results, w, reads, runs, none⟩
    have carried := (reads.runSource given.passes scriptSession given.settings.maxErrors).1
    obtain ⟨t, run, went⟩ := carried results w runs
    obtain ⟨status, c', ran, succeeds, -⟩ := runScript_of_runSource given script c run went
    rw [succeeds.mpr ⟨rfl, (all_none results).mpr none⟩] at ran
    exact ⟨c', ran⟩

end

/-! ## The three beside each other -/

/-- **The three kinds of work agree.** Listing the tokens of a script fails iff scanning it meets a fault;
outlining its tree fails iff running its source in a session is refused; and running the script succeeds iff
it can be read as a program all of whose statements succeed, which is to say that no fault of it is reported
and nothing is written to the errors. So what fails in one way fails in those that go further. If scanning
meets faults, then listing the tokens and running show all of them in order, and outlining shows the first. If
outlining succeeds, what it shows is the program whose statements are carried out when the script is run. -/
theorem work_agrees (given : Conditions) (script : Script) (c : Console) :
    let source := script.source
    let file := some script.file
    let limit := given.settings.maxErrors
    let shows := Console.Shows given.time given.settings.showSource
    let reports := Session.reports given.passes source file limit {}
    ((listTokens given script c).1 = .failure ↔ ∃ fault, .error fault ∈ scan source file) ∧
    (∀ passes s, (outlineTree given script c).1 = .failure ↔
      ∃ t, Session.runSource passes source file limit s = .ok false t) ∧
    ((∃ c', runScript given script c = .ok (.success, c')) ↔ ∃ program results w,
      ReadsAs source file program ∧ Stmt.RunsTo given.passes program {} results w ∧
        ∀ result ∈ results, result = none) ∧
    (∀ status c', runScript given script c = .ok (status, c') →
      (∃ printed, shows c reports printed c') ∧ (status = .success ↔ reports = []) ∧
        (c.log.IsQuiet → (status = .success ↔ c'.errors = c.errors))) ∧
    ((listTokens given script c).1 = .failure → (outlineTree given script c).1 = .failure) ∧
    ((outlineTree given script c).1 = .failure → ∃ c', runScript given script c = .ok (.failure, c')) ∧
    (∀ first others, script.lexicalFaults = first :: others →
      shows c (first :: others) script.tokenLines (listTokens given script c).2 ∧
      shows c [first] "" (outlineTree given script c).2 ∧
      ∃ c', runScript given script c = .ok (.failure, c') ∧ shows c (first :: others) "" c') ∧
    ((outlineTree given script c).1 = .success → ∃ program,
      shows c [] (outlineText program) (outlineTree given script c).2 ∧
      (outlineTree given script c).2.output = c.output ++ outlineText program ∧
      ∀ passes s, Session.runSource passes source file limit s =
        Outcome.bind (Session.interpret passes program (s.opened source (scan source file)))
          fun _ t => .ok true t) := by
  intro source file limit shows reports
  refine ⟨?_, fun passes s => ?_, runScript_succeeds_iff given script c, fun status c' ran => ?_,
    fun fails => ?_, fun fails => ?_, fun first others faults => ?_, fun success => ?_⟩
  · rw [listTokens_fails_iff, Script.lexicalFaults, ne_eq, List.map_eq_nil_iff, List.eq_nil_iff_forall_not_mem]
    simp [source, file, Session.mem_lexicalFaults]
  · rw [outlineTree_fails_iff, runSource_refused_iff]
  · obtain ⟨⟨printed, shown⟩, succeeds⟩ := shows_runScript ran
    exact ⟨⟨printed, shown⟩, succeeds, fun quiet => succeeds.trans (shown.errors_eq_self_iff quiet).symm⟩
  · have some := (listTokens_fails_iff given script c).mp fails
    obtain ⟨first, others, faults⟩ := List.exists_cons_of_ne_nil some
    exact (outlineTree_of_lexicalFaults given script c faults).1
  · exact runScript_of_not_readsAs given script c ((outlineTree_fails_iff given script c).mp fails)
  · refine ⟨faults ▸ shows_listTokens given script c, (outlineTree_of_lexicalFaults given script c faults).2, ?_⟩
    have lexical : Session.lexicalFaults (scan source file) ≠ [] := by
      intro none
      simp [Script.lexicalFaults, source, file, none] at faults
    -- Nothing is printed, since nothing of the script runs.
    obtain ⟨t, run, went⟩ := Session.runSource_of_lexicalFaults given.passes limit scriptSession lexical
    obtain ⟨status, c', ran, succeeds, fails, shown⟩ := runScript_of_runSource given script c run went
    rw [went.world_eq] at shown
    refine ⟨c', ?_, faults ▸ shown⟩
    rw [ran, fails.mpr fun success => absurd (succeeds.mp success).1 Bool.false_ne_true]
  · have readable : ∃ program, ReadsAs source file program := by
      by_contra none
      rw [(outlineTree_fails_iff given script c).mpr (not_exists.mp none)] at success
      cases success
    obtain ⟨program, reads⟩ := readable
    have shown := shows_outlineTree given script c reads
    refine ⟨program, shown, shown.output_eq, fun passes s => ?_⟩
    obtain ⟨tokens, scanned, derives⟩ := reads
    exact Session.runSource_eq_interpret scanned derives passes limit s

end CommandLine

end LoxScript
