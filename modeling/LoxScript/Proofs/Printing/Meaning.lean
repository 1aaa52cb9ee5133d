import LoxScript.Proofs.Interpreting
import LoxScript.Proofs.Printing.Rereading
import LoxScript.Proofs.Printing.Written

/-! # The canonical source has the same meaning

The canonical source of an accepted program is accepted, and what it is read as runs like the program from
every state of a session.

* **`Session.Alike`** — what the world and the reporters can tell two sessions apart by, places aside.
* **`interpret_regrouped`** — a regrouped program runs like the program.
* **`interpret_alike`** — programs that are the same up to places run alike.
* **`accepted_programSource`** — the canonical source is read as the regrouped program up to places.
* **`programSource_same_meaning`** — all of it together. -/

namespace LoxScript

/-! ## Runs of a session -/

/-- The codes and messages of the faults that a reporter has kept; a stream keeps none. -/
def Reporter.kept : Reporter → Option (List (String × String))
  | listener faults => some (faults.map fun fault => (fault.cause.code, fault.cause.message))
  | collector c => some (c.diagnostics.map fun d => (d.code, d.message))
  | stream _ _ => none

namespace Session

/-- The codes and messages of the faults reported so far. -/
def reported (s : Session) : List (String × String) :=
  s.journal.toList.filterMap fun
    | .report fault => some (fault.cause.code, fault.cause.message)
    | .note .. => none

/-- What each reporter has kept of the faults, places aside. -/
def kept (s : Session) : List (Option (List (String × String))) := s.reporters.map Reporter.kept

/-- **Sessions that are alike**: the same variables, the same text printed, and faults of the same codes
and messages reported. -/
structure Alike (s t : Session) : Prop where
  world_eq : s.world = t.world
  reported_eq : s.reported = t.reported
  kept_eq : s.kept = t.kept

/-! ## Regrouped programs -/

/-- **A regrouped program runs like the program.** -/
theorem interpret_regrouped {ss : List Stmt} (placed : ∀ s ∈ ss, s.Placed) (passes : Nat) {s : Session}
    (chained : s.world.environment.Chained) :
    interpret passes (Stmt.regroupedAll ss) s = interpret passes ss s := by
  induction ss generalizing s with
  | nil => rw [Stmt.regroupedAll]
  | cons statement rest ih =>
    have first := placed statement (List.mem_cons_self ..)
    have others := fun t mem => placed t (List.mem_cons_of_mem _ mem)
    have left := first.execute_chained passes chained
    rw [Stmt.regroupedAll, interpret_cons, interpret_cons, first.execute_regrouped passes chained]
    -- Whatever the statement comes to, the environment is still a stack.
    cases outcome : statement.execute passes s.world with
    | ok _ w =>
      rw [outcome] at left
      exact ih others left
    | error stop w =>
      rw [outcome] at left
      cases stop with
      | fault fault => exact ih others left
      | halt halt => rfl

/-! ## Programs without places -/

/-- The codes and messages reported are those of the faults reported. -/
theorem reported_eq (s : Session) :
    s.reported = s.faults.map fun fault => (fault.cause.code, fault.cause.message) := by
  rw [reported, faults, List.map_filterMap]
  refine List.filterMap_congr fun entry _ => ?_
  cases entry <;> rfl

/-- Reporting a fault notes its code and message. -/
theorem reported_afterFault (s : Session) (fault : Fault RuntimeCause) :
    (s.afterFault fault).reported = s.reported ++ [(fault.cause.code, fault.cause.message)] := by
  rw [reported_eq, reported_eq, faults_afterFault, List.map_append, List.map_singleton, shown,
    Fault.cause_quote]
  rfl

/-- Listeners and collectors keep the code and message of a fault that they receive. -/
theorem kept_receive (r : Reporter) (fault : Fault Cause) :
    (r.receive fault).kept = r.kept.map (· ++ [(fault.cause.code, fault.cause.message)]) := by
  cases r with
  | listener faults => exact congrArg some List.map_append
  | collector c => exact congrArg some List.map_append
  | stream showSource written => rfl

/-- What is kept of a session after a fault has the code and the message of the fault
behind those before it. -/
theorem kept_afterFault (s : Session) (fault : Fault RuntimeCause) :
    (s.afterFault fault).kept =
      s.kept.map (Option.map (· ++ [(fault.cause.code, fault.cause.message)])) := by
  have received : (s.afterFault fault).reporters =
      s.reporters.map (·.receive ((fault.map Cause.runtime).quote s.lines)) := rfl
  rw [kept, kept, received, List.map_map, List.map_map]
  refine List.map_congr_left fun r _ => ?_
  show (r.receive _).kept = _
  rw [kept_receive, Fault.cause_quote]
  rfl

/-- Sessions stay alike behind faults of one code and message. -/
theorem Alike.afterFault {s t : Session} (h : Alike s t) {fault fault' : Fault RuntimeCause}
    (code : fault.cause.code = fault'.cause.code) (message : fault.cause.message = fault'.cause.message) :
    Alike (s.afterFault fault) (t.afterFault fault') where
  world_eq := h.world_eq
  reported_eq := by rw [reported_afterFault, reported_afterFault, h.reported_eq, code, message]
  kept_eq := by rw [kept_afterFault, kept_afterFault, h.kept_eq, code, message]

/-- **Programs that are the same up to places run alike.** -/
theorem interpret_alike {ss ss' : List Stmt} (same : Stmt.unplacedAll ss = Stmt.unplacedAll ss')
    (passes : Nat) {s t : Session} (h : Alike s t) :
    Outcome.Rel Eq Alike Eq (interpret passes ss s) (interpret passes ss' t) := by
  induction ss generalizing ss' s t with
  | nil =>
    cases ss' with
    | nil => exact .ok rfl h
    | cons statement' rest' =>
      rw [Stmt.unplacedAll, Stmt.unplacedAll] at same
      cases same
  | cons statement rest ih =>
    cases ss' with
    | nil =>
      rw [Stmt.unplacedAll, Stmt.unplacedAll] at same
      cases same
    | cons statement' rest' =>
      rw [Stmt.unplacedAll, Stmt.unplacedAll] at same
      obtain ⟨first, others⟩ := List.cons.inj same
      -- Both statements come to the same up to places.
      have outcomes : Outcome.mapStop Stop.unplaced (statement.execute passes s.world) =
          Outcome.mapStop Stop.unplaced (statement'.execute passes t.world) := by
        rw [← Stmt.execute_unplaced, ← Stmt.execute_unplaced, first, h.world_eq]
      have alike : ∀ w : World, Alike { s with world := w } { t with world := w } := fun w =>
        ⟨rfl, h.reported_eq, h.kept_eq⟩
      rw [interpret_cons, interpret_cons]
      cases hs : statement.execute passes s.world with
      | ok _ w =>
        cases ht : statement'.execute passes t.world with
        | ok _ w' =>
          rw [hs, ht] at outcomes
          cases outcomes
          exact ih others (alike w)
        | error stop' w' =>
          rw [hs, ht] at outcomes
          cases outcomes
      | error stop w =>
        cases ht : statement'.execute passes t.world with
        | ok _ w' =>
          rw [hs, ht] at outcomes
          cases outcomes
        | error stop' w' =>
          rw [hs, ht] at outcomes
          obtain ⟨stops, rfl⟩ := EStateM.Result.error.inj outcomes
          cases stop with
          | fault fault =>
            cases stop' with
            | fault fault' =>
              obtain ⟨code, message⟩ := Stop.gist_eq_of_unplaced_eq stops
              exact ih others ((alike w).afterFault code message)
            | halt halt' => cases stops
          | halt halt =>
            cases stop' with
            | fault fault' => cases stops
            | halt halt' =>
              cases stops
              exact .error rfl (alike w)

end Session

/-! ## Reading the canonical source -/

/-- **The canonical source of writable statements is accepted**, and read as the regrouped
statements up to places. -/
theorem accepted_programSource {ss : List Stmt} (writable : ∀ s ∈ ss, s.Writable)
    (file : Option String) :
    ∃ tokens ss', tokenize (programSource ss) file = .ok tokens ∧
      parse tokens (some (programSource ss)) = .ok ss' ∧
      Stmt.unplacedAll ss' = Stmt.unplacedAll (Stmt.regroupedAll ss) := by
  have lexes := lexes_programSource fun s mem => (writable s mem).toOver
  obtain ⟨tokens, scanned, words⟩ := lexes_iff_tokenize.mp lexes
  obtain ⟨ss', derives, same⟩ :=
    derives_of_words (Stmt.forall_regroupedAll fun s mem => (writable s mem).regrouped) words
  exact ⟨tokens, ss', scanned, Grammar.parse_of_derives derives _, same⟩

/-- **The canonical source of an accepted program has the same meaning.** It is accepted itself, as a
program of as many statements. From every state of a session whose environment has come about by opening
and closing scopes, and so from every state with only the global scope open, both programs run alike: they
end, halt or are left unfinished alike, with the same text printed, the same environment left, and faults
of the same codes and messages reported. -/
theorem programSource_same_meaning {source : String} {file : Option String} {tokens : List Token}
    {program : List Stmt} (scanned : tokenize source file = .ok tokens)
    (parsed : parse tokens (some source) = .ok program) (file' : Option String) :
    ∃ tokens' program', tokenize (programSource program) file' = .ok tokens' ∧
      parse tokens' (some (programSource program)) = .ok program' ∧
      program'.length = program.length ∧
      ∀ (passes : Nat) (s : Session), s.world.environment.Chained →
        Outcome.Rel Eq Session.Alike Eq (Session.interpret passes program' s)
          (Session.interpret passes program s) := by
  obtain ⟨tokens', program', scanned', parsed', same⟩ :=
    accepted_programSource (Grammar.writable_of_parse scanned parsed) file'
  refine ⟨tokens', program', scanned', parsed', ?_, fun passes s chained => ?_⟩
  · have lengths := congrArg List.length same
    rw [Stmt.unplacedAll_eq_map, Stmt.unplacedAll_eq_map, Stmt.regroupedAll_eq_map] at lengths
    simpa only [List.length_map] using lengths
  · rw [← Session.interpret_regrouped (Grammar.placed_of_parse parsed) passes chained]
    exact Session.interpret_alike same passes ⟨rfl, rfl, rfl⟩

/-- The program `-"";`, whose canonical source is `(-"");`, reports that the operator does not accept the
text, and so does the program that its canonical source is read as. -/
theorem programSource_same_meaning_negated_text :
    let place (column : Int) : Position := ⟨1, column, column - 1, none⟩
    let tokens : List Token := [⟨.minus, none, "-", ⟨place 1, place 1⟩⟩,
      ⟨.string, some (.text ""), "\"\"", ⟨place 2, place 3⟩⟩, ⟨.semicolon, none, ";", ⟨place 4, place 4⟩⟩]
    let program : List Stmt := [.expression (.unary ⟨.minus, 1, 1⟩ (.literal (.text "")))]
    tokenize "-\"\";" none = .ok tokens ∧ parse tokens (some "-\"\";") = .ok program ∧
      ∃ tokens' program', tokenize "(-\"\");" none = .ok tokens' ∧
        parse tokens' (some "(-\"\");") = .ok program' ∧
        (Outcome.state (Session.interpret 1 program' {})).reported =
          [("E406", "invalid operator '-' for value \"\"")] := by
  intro place tokens program
  have scanned : tokenize "-\"\";" none = .ok tokens := by with_unfolding_all rfl
  have parsed : parse tokens (some "-\"\";") = .ok program := by cbv
  obtain ⟨tokens', program', scanned', parsed', -, alike⟩ :=
    programSource_same_meaning scanned parsed none
  have printed : programSource program = "(-\"\");" := by cbv
  have reported : (Outcome.state (Session.interpret 1 program {})).reported =
      [("E406", "invalid operator '-' for value \"\"")] := rfl
  rw [printed] at scanned' parsed'
  refine ⟨scanned, parsed, tokens', program', scanned', parsed', ?_⟩
  have states := (alike 1 {} Environment.chained_initial).state
  rw [states.reported_eq, reported]

end LoxScript
