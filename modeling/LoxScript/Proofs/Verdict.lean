import LoxScript.Proofs.Documented
import LoxScript.Proofs.Grammar.FaultOrder
import LoxScript.Proofs.Reports
import Mathlib.Data.List.ReduceOption

/-! # The verdict on a source

A source runs as a whole or not at all. What is wrong with it is reported before anything of it is carried
out, and nothing wrong with it goes unreported.

* **`Stmt.RunsTo`** — statements that run to their end, with what each of them comes to.
* **`ReadsAs`** — the program that a source can be read as.
* **`Rejection`** — what is reported of a source that cannot be read.
* **`runSource_all_or_nothing`** — the result. -/

namespace LoxScript

/-! ## Statements that run to their end -/

/-- **Statements run to their end** one after another, each ending or stopping with a fault. The results have
one entry for each statement: its fault, or nothing. -/
inductive Stmt.RunsTo (passes : Nat) : List Stmt → World → List (Option (Fault RuntimeCause)) → World → Prop
  | nil {w : World} : RunsTo passes [] w [] w
  /-- A statement that ends. -/
  | ends {s : Stmt} {rest : List Stmt} {w w₁ w₂ : World} {results : List (Option (Fault RuntimeCause))} :
      s.execute passes w = .ok () w₁ → RunsTo passes rest w₁ results w₂ →
      RunsTo passes (s :: rest) w (none :: results) w₂
  /-- A statement at fault, behind which the run goes on. -/
  | fails {s : Stmt} {rest : List Stmt} {w w₁ w₂ : World} {fault : Fault RuntimeCause}
      {results : List (Option (Fault RuntimeCause))} :
      s.execute passes w = .error (.fault fault) w₁ → RunsTo passes rest w₁ results w₂ →
      RunsTo passes (s :: rest) w (some fault :: results) w₂

section

variable {passes : Nat} {ss : List Stmt} {w left : World} {faults : List (Fault RuntimeCause)}

/-- A run comes to its end iff its statements do, and leaves their faults. -/
theorem Stmt.runAll_eq_ok_iff :
    Stmt.runAll passes ss w = .ok () (left, faults) ↔
      ∃ results, Stmt.RunsTo passes ss w results left ∧ results.reduceOption = faults := by
  constructor
  · intro run
    induction ss generalizing w faults with
    | nil =>
      cases run
      exact ⟨[], .nil, rfl⟩
    | cons s rest ih =>
      rw [Stmt.runAll] at run
      cases outcome : s.execute passes w with
      | ok _ w₁ =>
        rw [outcome] at run
        obtain ⟨results, runs, rfl⟩ := ih run
        exact ⟨none :: results, .ends outcome runs, List.reduceOption_cons_of_none results⟩
      | error stop w₁ =>
        rw [outcome] at run
        cases stop with
        | halt halt => cases run
        | fault fault =>
          -- The fault of the statement stands in front of those of the rest.
          obtain ⟨⟨left', others⟩, run', same⟩ := Outcome.mapState_eq_ok.mp run
          obtain ⟨rfl, rfl⟩ := Prod.mk.inj same
          obtain ⟨results, runs, rfl⟩ := ih run'
          exact ⟨some fault :: results, .fails outcome runs, List.reduceOption_cons_of_some fault results⟩
  · rintro ⟨results, runs, rfl⟩
    induction runs with
    | nil => rfl
    | ends outcome _ ih =>
      rw [Stmt.runAll, outcome, List.reduceOption_cons_of_none]
      exact ih
    | fails outcome _ ih =>
      rw [Stmt.runAll, outcome, List.reduceOption_cons_of_some]
      exact Outcome.mapState_eq_ok.mpr ⟨_, ih, rfl⟩

end

/-! ## The verdict -/

/-- **A source can be read as a program** if scanning it yields tokens only, and these are a
program of the grammar. -/
def ReadsAs (source : String) (file : Option String) (program : List Stmt) : Prop :=
  ∃ tokens, scan source file = tokens.map .ok ∧ Grammar.Derives.Declarations tokens program

/-- The two stages of reading a source decide about it. -/
theorem readsAs_iff {source : String} {file : Option String} {program : List Stmt} :
    ReadsAs source file program ↔
      ∃ tokens, tokenize source file = .ok tokens ∧ parse tokens (some source) = .ok program := by
  constructor
  · rintro ⟨tokens, scanned, derives⟩
    exact ⟨tokens, tokenize_eq_ok_iff.mpr scanned, Grammar.parse_of_derives derives (some source)⟩
  · rintro ⟨tokens, scanned, parsed⟩
    exact ⟨tokens, tokenize_eq_ok_iff.mp scanned, Grammar.derives_of_parse parsed⟩

/-- Faults of scanning are in the order of the source. -/
theorem Session.pairwise_lexicalFaults (source : String) (file : Option String) :
    (lexicalFaults (scan source file)).Pairwise fun f g => f.span.start.offset < g.span.start.offset := by
  have disjoint := List.pairwise_map.mp (Scanner.laid_scan source file).pairwise
  refine List.pairwise_filterMap.mpr (disjoint.imp_of_mem ?_)
  intro r r' mem _ lt f same g same'
  obtain ⟨first, last, order, -, start, stop, -⟩ := Scanner.span_of_mem_scan mem
  -- A result begins in front of its end, and so in front of what is behind it.
  have extent : r.span.start.offset ≤ r.span.stop.offset := by
    rw [start, stop]
    split <;> exact Int.ofNat_le.mpr order
  cases r <;> cases same
  cases r' <;> cases same'
  exact Int.lt_of_le_of_lt extent lt

/-- **What is reported of a source that cannot be read**: all of its faults of scanning, in order; or, if it
has none, faults of reading in order, at least one and at most `limit`. -/
inductive Rejection (source : String) (file : Option String) (limit : Nat) : List (Fault Cause) → Prop
  /-- Faults of scanning hide those of reading. -/
  | scanning {faults : List (Fault LexicalCause)}
      (all : Session.lexicalFaults (scan source file) = faults)
      (some_fault : 1 ≤ faults.length)
      (ordered : faults.Pairwise fun f g => f.span.start.offset < g.span.start.offset) :
      Rejection source file limit (faults.map (·.map .lexical))
  /-- Faults of reading, where scanning has found none. -/
  | reading {faults : List (Fault SyntaxCause)}
      (none : Session.lexicalFaults (scan source file) = [])
      (some_fault : 1 ≤ faults.length)
      (few : faults.length ≤ limit)
      (ordered : faults.Pairwise fun f g => f.span.start.offset ≤ g.span.start.offset) :
      Rejection source file limit (faults.map (·.map .grammatical))

section

variable (passes : Nat) {source : String} {file : Option String} {limit : Nat} (s : Session)

/-- **A source that can be read runs as a whole**: to its end if its statements run to theirs, with one
report for each of them that is at fault; else until a loop needs more passes. -/
theorem ReadsAs.runSource {program : List Stmt} (reads : ReadsAs source file program) (limit : Nat) :
    (∀ results w, Stmt.RunsTo passes program s.world results w →
      ∃ t, Session.runSource passes source file limit s = .ok true t ∧
        s.Went w (results.reduceOption.map (Session.shown (Lines.ofSource source))) t) ∧
    ((∀ results w, ¬Stmt.RunsTo passes program s.world results w) →
      ∃ t, Session.runSource passes source file limit s = .error .unfinished t) := by
  obtain ⟨tokens, scanned, derives⟩ := reads
  obtain ⟨after, went, run⟩ := Session.runSource_accepted scanned derives passes limit s
  constructor
  · intro results w runs
    rw [Stmt.runAll_eq_ok_iff.mpr ⟨results, runs, rfl⟩] at run
    exact ⟨_, run, went (w, results.reduceOption)⟩
  · intro endless
    -- What was read is writable, so a run of it halts for want of passes only.
    have writable := derives.writable (Grammar.allSpelled_of_tokenize (tokenize_eq_ok_iff.mpr scanned))
    obtain ⟨halts, -⟩ := runAll_documented writable passes s.world
    cases result : Stmt.runAll passes program s.world with
    | ok _ left =>
      obtain ⟨results, runs, -⟩ := Stmt.runAll_eq_ok_iff.mp result
      exact absurd runs (endless results left.1)
    | error halt left =>
      obtain rfl := halts halt left result
      rw [result] at run
      exact ⟨_, run⟩

/-- **Of a source that cannot be read nothing runs**, and what is wrong with it is reported. -/
theorem runSource_of_not_readsAs (none : ∀ program, ¬ReadsAs source file program) (some_limit : 1 ≤ limit) :
    ∃ t new, Session.runSource passes source file limit s = .ok false t ∧
      s.Went s.world new t ∧ Rejection source file limit new := by
  by_cases lexical : Session.lexicalFaults (scan source file) = []
  · obtain ⟨tokens, scanned⟩ := Session.lexicalFaults_eq_nil_iff.mp lexical
    -- Reading tokens without a fault would make a program of them.
    have some_fault : (Grammar.readProgram (Grammar.endSpan tokens) (some (Lines.ofSource source)) limit 0
        tokens).faults ≠ [] := by
      intro no_fault
      exact none _ ⟨tokens, scanned, Grammar.readProgram_derives no_fault⟩
    obtain ⟨t, run, went⟩ := Session.runSource_of_syntaxFaults passes limit s scanned some_fault
    have few : 0 + (Grammar.readProgram (Grammar.endSpan tokens) (some (Lines.ofSource source)) limit 0
        tokens).faults.length ≤ limit := Grammar.length_faults_le some_limit
    rw [Nat.zero_add] at few
    exact ⟨t, _, run, went, .reading lexical (List.length_pos_iff.mpr some_fault) few
      (Grammar.pairwise_faults (Grammar.inOrder_of_scan scanned))⟩
  · obtain ⟨t, run, went⟩ := Session.runSource_of_lexicalFaults passes limit s lexical
    exact ⟨t, _, run, went, .scanning rfl (List.length_pos_iff.mpr lexical)
      (Session.pairwise_lexicalFaults source file)⟩

end

/-- **All or nothing.** The answer for a source is that it could be read iff it scans without a fault to the
tokens of a program. The statements of that program are carried out in order, and every reporter receives
one fault for each of them that fails. Of any other source nothing is carried out: the variables and the
text printed stay as they are, and every reporter receives all faults of scanning in order or, if there are
none, some faults of reading in order, but not more than `limit`. -/
theorem runSource_all_or_nothing (passes : Nat) (source : String) (file : Option String) (limit : Nat)
    (s : Session) (some_limit : 1 ≤ limit) :
    (∀ accepted t, Session.runSource passes source file limit s = .ok accepted t →
      (accepted = true ↔ ∃ program, ReadsAs source file program)) ∧
    (∀ program, ReadsAs source file program →
      (∀ results w, Stmt.RunsTo passes program s.world results w →
        ∃ t, Session.runSource passes source file limit s = .ok true t ∧
          s.Went w (results.reduceOption.map (Session.shown (Lines.ofSource source))) t) ∧
      ((∀ results w, ¬Stmt.RunsTo passes program s.world results w) →
        ∃ t, Session.runSource passes source file limit s = .error .unfinished t)) ∧
    ((∀ program, ¬ReadsAs source file program) →
      ∃ t new, Session.runSource passes source file limit s = .ok false t ∧
        s.Went s.world new t ∧ Rejection source file limit new) := by
  refine ⟨fun accepted t run => ?_, fun program reads => reads.runSource passes s limit,
    fun none => runSource_of_not_readsAs passes s none some_limit⟩
  -- The answer of a run that ends: a run without an end gives none, which excludes one of the four cases.
  by_cases readable : ∃ program, ReadsAs source file program
  · obtain ⟨program, reads⟩ := readable
    obtain ⟨ends, endless⟩ := reads.runSource passes s limit
    by_cases runs : ∃ results w, Stmt.RunsTo passes program s.world results w
    · obtain ⟨results, w, runs⟩ := runs
      obtain ⟨t', run', -⟩ := ends results w runs
      cases run.symm.trans run'
      exact iff_of_true rfl ⟨program, reads⟩
    · obtain ⟨t', run'⟩ := endless fun results w h => runs ⟨results, w, h⟩
      cases run.symm.trans run'
  · obtain ⟨t', new, run', -⟩ :=
      runSource_of_not_readsAs passes s (fun program reads => readable ⟨program, reads⟩) some_limit
    cases run.symm.trans run'
    exact iff_of_false Bool.false_ne_true readable

set_option maxRecDepth 10000 in
/-- The source `print "";y` prints nothing, though its first statement is in order. -/
theorem runSource_all_or_nothing_open_end :
    1 ≤ 1 ∧ ∃ t fault, Session.runSource 1 "print \"\";y" none 1 {} = .ok false t ∧
      t.world.printed = "" ∧ t.faults = [fault] := by
  let place (column : Int) : Position := ⟨1, column, column - 1, none⟩
  let tokens : List Token := [⟨.printWord, none, "print", ⟨place 1, place 5⟩⟩,
    ⟨.string, some (.text ""), "\"\"", ⟨place 7, place 8⟩⟩, ⟨.semicolon, none, ";", ⟨place 9, place 9⟩⟩,
    ⟨.identifier, some (.text "y"), "y", ⟨place 10, place 10⟩⟩]
  have scanned : tokenize "print \"\";y" none = .ok tokens := by with_unfolding_all rfl
  have unreadable : ∀ program, ¬ReadsAs "print \"\";y" none program := by
    intro program reads
    obtain ⟨tokens', scanned', parsed⟩ := readsAs_iff.mp reads
    obtain rfl : tokens = tokens' := Except.ok.inj (scanned.symm.trans scanned')
    cbv at parsed
    cases parsed
  have lexical : Session.lexicalFaults (scan "print \"\";y" none) = [] := by
    rw [tokenize_eq_ok_iff.mp scanned]
    exact Session.lexicalFaults_ok tokens
  obtain ⟨-, -, refused⟩ := runSource_all_or_nothing 1 "print \"\";y" none 1 {} (Nat.le_refl 1)
  obtain ⟨t, new, run, went, rejection⟩ := refused unreadable
  -- One fault is enough, and one is reported.
  obtain ⟨fault, rfl⟩ : ∃ fault, new = [fault] := by
    refine List.length_eq_one_iff.mp ?_
    cases rejection with
    | scanning all some_fault =>
      rw [← all, lexical] at some_fault
      cases some_fault
    | reading _ some_fault few =>
      rw [List.length_map]
      exact Nat.le_antisymm few some_fault
  exact ⟨Nat.le_refl 1, t, fault, run, congrArg World.printed went.world_eq, went.faults_eq⟩

end LoxScript
