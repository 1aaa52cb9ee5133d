import LoxScript.Proofs.Blame
import LoxScript.Proofs.Grammar.Relocated
import LoxScript.Proofs.Scanning.Joined
import Mathlib.Data.List.Forall2

/-! # Sources one after another

Running two sources in a session is running the two joined by a newline: scanning, reading and running each
go on behind the first source as if it were alone, only further down.

* **`Session.runSource_accepted`** — a source that can be read runs as its program.
* **`Stmt.runAll_moved`** — a program that is moved runs like the program, up to the places of its faults.
* **`lines_of_runAll`** — the faults of a program are about lines of its source.
* **`runSource_joined`** — the result. -/

namespace LoxScript

/-! ## Sources that can be read -/

namespace Session

/-- The session in which the results of scanning a source have been noted. -/
def opened (s : Session) (source : String) (results : List Scanned) : Session :=
  results.foldl (fun s r => s.record (.scanned r)) (s.setSource source)

/-- Notes change neither the variables nor what has been reported. -/
theorem went_opened (s : Session) (source : String) (results : List Scanned) :
    s.Went s.world [] (s.opened source results) ∧
      (s.opened source results).lines = Lines.ofSource source := by
  have isNote : ∀ r, ∃ component level text, JournalEntry.scanned r = .note component level text := by
    intro r
    cases r <;> exact ⟨_, _, _, rfl⟩
  obtain ⟨went, lines⟩ := went_noted isNote results (s.setSource source)
  exact ⟨⟨went.world_eq, went.faults_eq, went.reporters_eq⟩, lines⟩

/-- Tokens alone are no faults. -/
theorem lexicalFaults_ok (tokens : List Token) : lexicalFaults (tokens.map .ok) = [] := by
  induction tokens with
  | nil => rfl
  | cons t rest ih => exact ih

/-- Tokens alone are all of the tokens. -/
theorem scannedTokens_ok (tokens : List Token) : scannedTokens (tokens.map .ok) = tokens := by
  induction tokens with
  | nil => rfl
  | cons t rest ih => exact congrArg (t :: ·) ih

section

variable {source : String} {file : Option String} {tokens : List Token} {program : List Stmt}
  (scanned : scan source file = tokens.map .ok) (derives : Grammar.Derives.Declarations tokens program)
  (passes limit : Nat) (s : Session)

include scanned derives

/-- Running a source that can be read is interpreting its program, once scanning has been noted. -/
theorem runSource_eq_interpret :
    runSource passes source file limit s =
      Outcome.bind (interpret passes program (s.opened source (scan source file))) fun _ t => .ok true t := by
  have reading := Grammar.recover_ofTokens tokens (some source) limit
  rw [derives.readProgram] at reading
  rw [runSource, Outcome.bind_run]
  simp only [scanned, lexicalFaults_ok, scannedTokens_ok, reading.1, reading.2, List.isEmpty_nil, if_true,
    List.foldl_nil]
  exact Outcome.bind_run (interpret passes program) (fun _ => pure true) (s.opened source (tokens.map .ok))

/-- **A source that can be read runs as its program**, and reports the faults of that
with their lines quoted. -/
theorem runSource_accepted :
    ∃ after : World × List (Fault RuntimeCause) → Session,
      (∀ left, s.Went left.1 (left.2.map (shown (Lines.ofSource source))) (after left)) ∧
      runSource passes source file limit s =
        Outcome.bind (Outcome.mapState after (Stmt.runAll passes program s.world)) fun _ t => .ok true t := by
  obtain ⟨went, lines⟩ := went_opened s source (scan source file)
  refine ⟨(s.opened source (scan source file)).behind, fun left => ?_, ?_⟩
  · rw [← lines]
    exact went.trans (went_behind _ left)
  · rw [runSource_eq_interpret scanned derives, ← went.world_eq, ← interpret_eq]

end

end Session

/-! ## Programs that are moved -/

/-- The fault at the new place of its cause. -/
def Fault.moved (r : Relocation) (fault : Fault RuntimeCause) : Fault RuntimeCause :=
  ⟨fault.cause.moved r, (fault.cause.moved r).span, none⟩

/-- **A program that is moved runs like the program**, up to the places of its faults. -/
theorem Stmt.runAll_moved (r : Relocation) (passes : Nat) (ss : List Stmt) (w : World) :
    Stmt.runAll passes (ss.map (Stmt.moved r)) w =
      Outcome.mapState (Prod.map id (List.map (Fault.moved r))) (Stmt.runAll passes ss w) := by
  induction ss generalizing w with
  | nil => rfl
  | cons s rest ih =>
    rw [List.map_cons, Stmt.runAll, Stmt.runAll, Stmt.execute_moved]
    cases s.execute passes w with
    | ok _ w₁ => exact ih w₁
    | error stop w₁ =>
      cases stop with
      | halt halt => rfl
      | fault fault =>
        show Outcome.mapState (Prod.map id (fault.moved r :: ·))
          (Stmt.runAll passes (rest.map (Stmt.moved r)) w₁) = Outcome.mapState _ (Outcome.mapState _ _)
        rw [ih, Outcome.mapState_mapState, Outcome.mapState_mapState]
        rfl

/-- A cause that is written in the tokens of a source is about a line of the source. -/
theorem RuntimeCause.WrittenIn.line_le {source : String} {file : Option String} {tokens : List Token}
    {c : RuntimeCause} (h : c.WrittenIn tokens) (scanned : scan source file = tokens.map .ok) :
    1 ≤ c.span.start.line ∧ c.span.start.line ≤ (Lines.ofSource source).length := by
  have bounds {t : Token} (mem : t ∈ tokens) :=
    lines_of_mem_scan (scanned ▸ List.mem_map_of_mem mem : .ok t ∈ scan source file)
  cases h with
  | alreadyDefined mem | undefined mem | notAssignable mem => exact (bounds mem).1
  | invalidOperands h | invalidUnary h | invalidOperand h =>
    -- An operator is on the line that its token ends on.
    obtain ⟨t, mem, writes⟩ := h
    obtain ⟨symbol, -, rfl⟩ := Option.map_eq_some_iff.mp writes
    exact (bounds mem).2

/-- **The faults of a program are about lines of its source**, and quote none themselves. -/
theorem lines_of_runAll {source : String} {file : Option String} {tokens : List Token}
    {program : List Stmt} (scanned : scan source file = tokens.map .ok)
    (derives : Grammar.Derives.Declarations tokens program) (passes : Nat) (w : World) :
    ∀ fault ∈ (Outcome.state (Stmt.runAll passes program w)).2,
      (1 ≤ fault.span.start.line ∧ fault.span.start.line ≤ (Lines.ofSource source).length) ∧
        fault.sourceLine = none ∧ fault.span = fault.cause.span := by
  intro fault mem
  obtain ⟨written, same⟩ := writtenIn_of_runAll derives passes w fault mem
  have span : fault.span = fault.cause.span := congrArg Fault.span same
  refine ⟨?_, congrArg Fault.sourceLine same, span⟩
  rw [span]
  exact written.line_le scanned

/-! ## Quoted lines -/

namespace Lines

variable {ls ms : List String} {line : Int}

/-- A line of the first part is a line of both. -/
theorem get?_append_left (first : 1 ≤ line) (last : line ≤ ls.length) :
    get? (ls ++ ms) line = get? ls line := by
  rw [get?, get?, if_pos first, if_pos first, List.getElem?_append_left (by omega)]

/-- A line of the second part comes as many lines further down as the first part has. -/
theorem get?_append_right (first : 1 ≤ line) : get? (ls ++ ms) (line + ls.length) = get? ms line := by
  have index : (line + ls.length - 1).toNat = ls.length + (line - 1).toNat := by omega
  rw [get?, get?, if_pos first, if_pos (by omega), index, List.getElem?_append_right (by omega),
    Nat.add_sub_cancel_left]

end Lines

/-- The same fault so many lines further down, with the same line quoted. -/
structure Fault.Below (lines : Nat) (f g : Fault Cause) : Prop where
  code_eq : g.cause.code = f.cause.code
  message_eq : g.cause.message = f.cause.message
  start_eq : g.span.start.line = f.span.start.line + lines ∧ g.span.start.column = f.span.start.column
  stop_eq : g.span.stop.line = f.span.stop.line + lines ∧ g.span.stop.column = f.span.stop.column
  sourceLine_eq : g.sourceLine = f.sourceLine

/-- A cause that is moved below another source is about a place as many lines further down. -/
theorem RuntimeCause.span_below (c : RuntimeCause) (lines size : Nat) :
    let span := (c.moved (.below lines size)).span
    (span.start.line = c.span.start.line + lines ∧ span.start.column = c.span.start.column) ∧
      span.stop.line = c.span.stop.line + lines ∧ span.stop.column = c.span.stop.column := by
  cases c <;> exact ⟨⟨rfl, rfl⟩, rfl, rfl⟩

namespace Session

variable {fault : Fault RuntimeCause}

/-- A fault that quotes no line is quoted when it is shown. -/
theorem shown_of_none (none : fault.sourceLine = none) (lines : List String) :
    shown lines fault =
      ⟨.runtime fault.cause, fault.span, Lines.get? lines fault.span.start.line⟩ := by
  obtain ⟨cause, span, sourceLine⟩ := fault
  cases none
  rfl

/-- A fault of the first of two sources quotes the same line of both. -/
theorem shown_append {ls ms : List String} (none : fault.sourceLine = none)
    (bounds : 1 ≤ fault.span.start.line ∧ fault.span.start.line ≤ ls.length) :
    shown (ls ++ ms) fault = shown ls fault := by
  rw [shown_of_none none, shown_of_none none, Lines.get?_append_left bounds.1 bounds.2]

/-- A fault of the second of two sources quotes the same line further down. -/
theorem shown_below {ls ms : List String} {size : Nat} (none : fault.sourceLine = none)
    (span : fault.span = fault.cause.span) (first : 1 ≤ fault.span.start.line) :
    (shown ms fault).Below ls.length (shown (ls ++ ms) (fault.moved (.below ls.length size))) := by
  obtain ⟨start, stop⟩ := fault.cause.span_below ls.length size
  rw [shown_of_none none, shown_of_none rfl]
  refine ⟨RuntimeCause.code_moved _ _, RuntimeCause.message_moved _ _, ?_, ?_, ?_⟩
  · rw [span]
    exact start
  · rw [span]
    exact stop
  · show Lines.get? (ls ++ ms) (fault.cause.moved (.below ls.length size)).span.start.line = _
    rw [start.1, ← span, Lines.get?_append_right first]

end Session

section

variable {source : String} {file : Option String} {tokens : List Token} {program : List Stmt}
  (scanned : scan source file = tokens.map .ok) (derives : Grammar.Derives.Declarations tokens program)
  (passes : Nat) (w : World) (ls : List String)

include scanned derives

/-- The faults of a program quote the same lines whatever stands below its source. -/
theorem Session.map_shown_append :
    (Outcome.state (Stmt.runAll passes program w)).2.map (Session.shown (Lines.ofSource source ++ ls)) =
      (Outcome.state (Stmt.runAll passes program w)).2.map (Session.shown (Lines.ofSource source)) := by
  refine List.map_congr_left fun fault mem => ?_
  obtain ⟨bounds, none, -⟩ := lines_of_runAll scanned derives passes w fault mem
  exact Session.shown_append none bounds

/-- The faults of a program quote the same lines, further down, if other lines stand above its source. -/
theorem Session.forall₂_shown_below (size : Nat) :
    List.Forall₂ (Fault.Below ls.length)
      ((Outcome.state (Stmt.runAll passes program w)).2.map (Session.shown (Lines.ofSource source)))
      ((Outcome.state (Stmt.runAll passes program w)).2.map fun fault =>
        Session.shown (ls ++ Lines.ofSource source) (fault.moved (.below ls.length size))) := by
  rw [List.forall₂_map_left_iff, List.forall₂_map_right_iff, List.forall₂_same]
  intro fault mem
  obtain ⟨bounds, none, span⟩ := lines_of_runAll scanned derives passes w fault mem
  exact Session.shown_below none span bounds.1

end

/-! ## Two sources -/

/-- **A session equals a file.** If two sources can be read, running one after the other and running the two
joined by a newline come to the same from every state of a session: both end or both are left unfinished,
with the same text printed and the same variables. The same faults are reported to the same reporters in the
same order, those of the second source as many lines further down as the first one has lines. -/
theorem runSource_joined {source₁ source₂ : String} {file : Option String}
    {tokens₁ tokens₂ : List Token} {program₁ program₂ : List Stmt}
    (scanned₁ : tokenize source₁ file = .ok tokens₁) (parsed₁ : parse tokens₁ (some source₁) = .ok program₁)
    (scanned₂ : tokenize source₂ file = .ok tokens₂) (parsed₂ : parse tokens₂ (some source₂) = .ok program₂)
    (passes limit : Nat) (s : Session) :
    ∃ first second second' : List (Fault Cause),
      (Outcome.state (Session.runSource passes source₁ file limit s)).faults = s.faults ++ first ∧
      List.Forall₂ (Fault.Below (Lines.ofSource source₁).length) second second' ∧
      Outcome.Rel Eq (fun t u => ∃ w, s.Went w (first ++ second) t ∧ s.Went w (first ++ second') u) Eq
        ((do
          let _ ← Session.runSource passes source₁ file limit
          Session.runSource passes source₂ file limit) s)
        (Session.runSource passes (source₁ ++ "\n" ++ source₂) file limit s) := by
  -- The whole is scanned and read as the first source and, further down, the second.
  have scan₁ := tokenize_eq_ok_iff.mp scanned₁
  have scan₂ := tokenize_eq_ok_iff.mp scanned₂
  have derives₁ := Grammar.derives_of_parse parsed₁
  have derives₂ := Grammar.derives_of_parse parsed₂
  let below : Relocation := .below (Lines.ofSource source₁).length (source₁.toList.length + 1)
  obtain ⟨after₁, went₁, run₁⟩ := Session.runSource_accepted scan₁ derives₁ passes limit s
  obtain ⟨after, went, run⟩ := Session.runSource_accepted (scan_joined scan₁ scan₂)
    (derives₁.append (derives₂.moved below)) passes limit s
  rw [Lines.ofSource_join] at went
  have quoted := Session.map_shown_append scan₁ derives₁ passes s.world (Lines.ofSource source₂)
  rw [Outcome.bind_run, run₁, run, Stmt.runAll_append]
  cases result₁ : Stmt.runAll passes program₁ s.world with
  | error halt left₁ =>
    -- The first source is left unfinished, and the second does not run in either case.
    have whole := went left₁
    rw [result₁, Outcome.state_error] at quoted
    rw [quoted] at whole
    refine ⟨_, [], [], (went₁ left₁).faults_eq, .nil, .error rfl ⟨left₁.1, ?_, ?_⟩⟩
    · rw [List.append_nil]
      exact went₁ left₁
    · rw [List.append_nil]
      exact whole
  | ok _ left₁ =>
    rw [result₁, Outcome.state_ok] at quoted
    obtain ⟨after₂, went₂, run₂⟩ := Session.runSource_accepted scan₂ derives₂ passes limit (after₁ left₁)
    rw [(went₁ left₁).world_eq] at run₂
    refine ⟨_, _, _, (went₁ left₁).faults_eq, Session.forall₂_shown_below scan₂ derives₂ passes left₁.1
      (Lines.ofSource source₁) (source₁.toList.length + 1), ?_⟩
    -- The faults of the whole are those of the first source, and those of the second where they are moved to.
    have whole : ∀ left₂ : World × List (Fault RuntimeCause),
        s.Went left₂.1 (left₁.2.map (Session.shown (Lines.ofSource source₁)) ++ left₂.2.map fun fault =>
          Session.shown (Lines.ofSource source₁ ++ Lines.ofSource source₂) (fault.moved below))
          (after (left₂.1, left₁.2 ++ left₂.2.map (Fault.moved below))) := by
      intro left₂
      have behind := went (left₂.1, left₁.2 ++ left₂.2.map (Fault.moved below))
      rw [List.map_append, quoted, List.map_map] at behind
      exact behind
    rw [Outcome.bind_ok, Stmt.runAll_moved]
    show Outcome.Rel _ _ _ (Session.runSource passes source₂ file limit (after₁ left₁)) _
    rw [run₂]
    cases Stmt.runAll passes program₂ left₁.1 with
    | ok _ left₂ => exact .ok rfl ⟨left₂.1, (went₁ left₁).trans (went₂ left₂), whole left₂⟩
    | error halt left₂ => exact .error rfl ⟨left₂.1, (went₁ left₁).trans (went₂ left₂), whole left₂⟩

/-- The source `-"";` twice, on two lines: the fault of the first line is found again on the second. -/
theorem runSource_joined_negated_text :
    let place (column : Int) : Position := ⟨1, column, column - 1, none⟩
    let tokens : List Token := [⟨.minus, none, "-", ⟨place 1, place 1⟩⟩,
      ⟨.string, some (.text ""), "\"\"", ⟨place 2, place 3⟩⟩, ⟨.semicolon, none, ";", ⟨place 4, place 4⟩⟩]
    tokenize "-\"\";" none = .ok tokens ∧
      parse tokens (some "-\"\";") = .ok [.expression (.unary ⟨.minus, 1, 1⟩ (.literal (.text "")))] ∧
      ∃ f g, f.Below 1 g ∧
        (Outcome.state (Session.runSource 1 "-\"\";\n-\"\";" none 20 {})).faults = [f, g] := by
  intro place tokens
  have scanned : tokenize "-\"\";" none = .ok tokens := by with_unfolding_all rfl
  have parsed : parse tokens (some "-\"\";") =
      .ok [.expression (.unary ⟨.minus, 1, 1⟩ (.literal (.text "")))] := by cbv
  have lines : (Lines.ofSource "-\"\";").length = 1 := by cbv
  -- From either state the source by itself reports one fault.
  let f : Fault Cause := Session.shown (Lines.ofSource "-\"\";")
    ⟨.invalidOperand ⟨.minus, 1, 1⟩ (.text ""), Span.single ⟨1, 1, 0, none⟩, none⟩
  have runs : ∀ s : Session, ∃ t, Session.runSource 1 "-\"\";" none 20 s = .ok true t ∧
      t.faults = s.faults ++ [f] := by
    intro s
    obtain ⟨after, went, run⟩ := Session.runSource_accepted (tokenize_eq_ok_iff.mp scanned)
      (Grammar.derives_of_parse parsed) 1 20 s
    exact ⟨_, run, (went _).faults_eq⟩
  obtain ⟨s₁, run₁, faults₁⟩ := runs {}
  obtain ⟨s₂, run₂, faults₂⟩ := runs s₁
  obtain ⟨first, second, second', ran, below, same⟩ :=
    runSource_joined scanned parsed scanned parsed 1 20 {}
  obtain ⟨w, both, joined⟩ := same.state
  rw [run₁] at ran
  rw [Outcome.bind_run, run₁] at both
  obtain rfl : first = [f] := ran.symm.trans faults₁
  obtain rfl : second = [f] := by
    have faults : (Outcome.state (Session.runSource 1 "-\"\";" none 20 s₁)).faults = [f] ++ second :=
      both.faults_eq
    rw [run₂] at faults
    exact (List.cons.inj (faults.symm.trans (faults₂.trans (congrArg (· ++ [f]) faults₁)))).2
  rw [lines] at below
  obtain ⟨g, rfl, shifted⟩ : ∃ g, second' = [g] ∧ f.Below 1 g := by
    cases below with
    | cons shifted none =>
      cases none
      exact ⟨_, rfl, shifted⟩
  exact ⟨scanned, parsed, f, g, shifted, joined.faults_eq⟩

end LoxScript
