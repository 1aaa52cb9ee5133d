import LoxScript.Proofs.Grammar.Origin
import LoxScript.Proofs.Printing.Written
import LoxScript.Proofs.Scope.Restored

/-! # Only documented faults

What can go wrong with a program is what its faults are documented for, at each of the three stages.

* **`RuntimeCause.Documented`** — the causes that a running program can be at fault for. The others, and the
  defects that a run can halt with, belong to trees made by hand.
* **`Expr.Writable.evaluate_documented`**, **`Stmt.Writable.execute_documented`** — trees that a program can
  contain stop for documented causes only.
* **`only_documented_faults`** — the three stages together, for every source. -/

namespace LoxScript

/-! ## Scanning -/

/-- The codes of faults of scanning. -/
theorem LexicalCause.code_mem (c : LexicalCause) : c.code ∈ ["E001", "E002", "E003"] := by
  cases c <;> simp [code]

/-- The characters of a source that a span is about, if its ends lie in the source and in order. -/
def Span.cut? (source : String) (s : Span) : Option (List Char) :=
  (Cursor.atStart source.toList).slice s.start.offset (s.stop.offset + 1)

/-- **What scanning yields**: a token that has the characters at its place, and a number if it is a number;
or a fault about characters of the source. -/
theorem scan_documented {source : String} {file : Option String} {result : Scanned}
    (mem : result ∈ scan source file) :
    (∃ t : Token, result = .ok t ∧ t.span.cut? source = some t.lexeme.toList ∧
      (t.kind = .number → ∃ x, t.datum = some (.number x))) ∨
    (∃ fault, result = .error fault ∧ (fault.span.cut? source).isSome = true ∧
      fault.cause.code ∈ ["E001", "E002", "E003"]) := by
  obtain ⟨s, after, tracks, step⟩ := Scanner.step_of_mem_scan mem
  obtain ⟨first, more, -, yields, slice⟩ := tracks.slice step
  rcases Scanner.yield?_cases yields.symm with ⟨kind, datum, shape, rfl⟩ | ⟨cause, -, rfl⟩
  · refine .inl ⟨_, rfl, ?_, ?_⟩
    · rw [String.toList_ofList]
      exact slice
    · rintro rfl
      exact Lexeme.cut_number shape
  · refine .inr ⟨_, rfl, ?_, LexicalCause.code_mem _⟩
    rw [Fault.span_quote, Span.cut?, slice]
    rfl

/-! ## Running -/

/-- **The causes that a running program can be at fault for.** -/
def RuntimeCause.Documented (c : RuntimeCause) : Prop := c.code ∈ ["E401", "E402", "E404", "E406"]

/-- A program stops with a documented fault, or because a loop needs more passes. -/
def Stop.Documented : Stop → Prop
  | fault f => f.cause.Documented
  | halt h => h = .unfinished

/-- A name declared again is a documented cause. -/
theorem Stop.documented_alreadyDefined (name : Token) (n : String) :
    (Stop.scope name (.alreadyDefined n)).Documented := by
  show RuntimeCause.code _ ∈ _
  simp [RuntimeCause.code]

/-- A name that is not defined is one. -/
theorem Stop.documented_undefined (name : Token) (n : String) :
    (Stop.scope name (.undefined n)).Documented := by
  show RuntimeCause.code _ ∈ _
  simp [RuntimeCause.code]

/-- Operands that an operator does not accept are one. -/
theorem Stop.documented_invalidOperands (o : Operator) : (Stop.cause (.invalidOperands o)).Documented := by
  show RuntimeCause.code _ ∈ _
  simp [RuntimeCause.code]

/-- An operand that a minus sign does not accept is one. -/
theorem Stop.documented_invalidOperand (o : Operator) (v : Value) :
    (Stop.cause (.invalidOperand o v)).Documented := by
  show RuntimeCause.code _ ∈ _
  simp [RuntimeCause.code]

/-- A loop that needs more passes is no fault at all. -/
theorem Stop.documented_unfinished : (Stop.halt .unfinished).Documented := rfl

/-! ### Expressions -/

/-- **An operator that joins operands** has a value, or does not accept the operands. In particular no
quotient is ever missing. -/
theorem Operator.join_documented {level : Nat} {kind : Kind} {o : Operator} {left right : Value} {stop : Stop}
    (joins : Grammar.Joins level kind o.symbol) (h : o.join left right = .error stop) :
    stop.Documented := by
  refine join_stops (Stop.documented_invalidOperands o) (fun access => ?_) (fun other => ?_) h
  · rw [access] at joins
    cases joins
  · rcases other with other | other <;> rw [other] at joins <;> cases joins

/-- **An expression that a program can contain** has a value, or stops for a documented cause. -/
theorem Expr.Writable.evaluate_documented {e : Expr} (h : e.Writable) (env : Environment) :
    Outcome.Stops Stop.Documented (e.evaluate env) := by
  induction h generalizing env with
  | @assign name value isName _ ih =>
    have identifier : name.kind = .identifier := isName.kind_eq
    rw [evaluate_assign, if_pos identifier]
    refine (ih env).bind fun v env₁ => ?_
    exact (assign_stops (Stop.documented_undefined name name.lexeme) v env₁).bind fun _ env₂ => .ok v env₂
  | binary _ _ joins _ _ ihl ihr =>
    -- Both operands have values before the operator looks at either.
    rw [evaluate_binary]
    refine (ihl env).bind fun l env₁ => (ihr env₁).bind fun r env₂ => ?_
    exact .settle (fun stop h => Operator.join_documented joins h) env₂
  | grouping _ ih =>
    rw [evaluate_grouping]
    exact ih env
  | literal _ =>
    rw [evaluate_literal]
    exact .ok _ env
  | @unary operator operand symbol _ _ ih =>
    obtain ⟨symbol', line, column⟩ := operator
    rw [evaluate_unary]
    rcases symbol with rfl | rfl
    · exact (ih env).bind fun v env₁ => .ok _ env₁
    · refine (ih env).bind fun v env₁ => ?_
      exact .settle (fun stop h => negate_stops (Stop.documented_invalidOperand _) h) env₁
  | @reference name _ =>
    rw [evaluate_reference]
    exact lookup_stops (Stop.documented_undefined name name.lexeme) env

/-! ### Statements -/

/-- **A statement that a program can contain** stops, if at all, for a documented cause, or because a loop
needs more passes. In particular its scopes can be closed. -/
theorem Stmt.Writable.execute_documented {s : Stmt} (h : s.Writable) (passes : Nat) (w : World) :
    Outcome.Stops Stop.Documented (s.execute passes w) := by
  induction h generalizing w with
  | @block ss _ ih =>
    rw [execute_block]
    have inside : Outcome.Stops Stop.Documented
        (Stmt.executeAll passes ss { w with environment := w.environment.enter }) :=
      executeAll_stops ih _
    -- However the statements ended, the scope they ran in is the current one again and can be closed.
    obtain ⟨env, -, closed⟩ := (Restores.executeAll (w := { w with environment := w.environment.enter })
      fun s (_ : s ∈ ss) => s.execute_extends passes).closeScope
    rw [closed]
    exact inside.mapState _
  | expression he =>
    rw [execute_expression]
    exact (ofEvaluation_stops he.evaluate_documented w).bind fun _ w₁ => .ok () w₁
  | print he =>
    rw [execute_print]
    exact (ofEvaluation_stops he.evaluate_documented w).bind fun _ w₁ => .ok () _
  | @declare name initial _ hi =>
    rw [execute_declare]
    have defines := define_stops (Stop.documented_alreadyDefined name name.lexeme)
    refine Outcome.Stops.bind ?_ fun v w₁ => ofEvaluation_stops (defines v) w₁
    cases initial with
    | none => exact .ok _ _
    | some e => exact ofEvaluation_stops (hi e rfl).evaluate_documented w
  | branch hc _ _ ih =>
    rw [execute_branch]
    refine (test_stops hc.evaluate_documented w).bind fun holds w₁ => ?_
    cases holds with
    | true => exact ih w₁
    | false => exact .ok () w₁
  | choice hc _ _ _ _ _ ih ih' =>
    rw [execute_branch]
    refine (test_stops hc.evaluate_documented w).bind fun holds w₁ => ?_
    cases holds with
    | true => exact ih w₁
    | false => exact ih' w₁
  | loop hc _ _ ih =>
    rw [execute_loop]
    exact whileTrue_stops Stop.documented_unfinished (test_stops hc.evaluate_documented) ih passes w

/-! ### Runs -/

/-- **Statements that a program can contain** run to their end with documented faults, unless a
loop needs more passes. -/
theorem runAll_documented {ss : List Stmt} (writable : ∀ s ∈ ss, s.Writable) (passes : Nat) (w : World) :
    Outcome.Stops (· = .unfinished) (Stmt.runAll passes ss w) ∧
      ∀ fault ∈ (Outcome.state (Stmt.runAll passes ss w)).2, fault.cause.Documented :=
  Stmt.runAll_stops (P := Stop.Documented) (fun s mem => (writable s mem).execute_documented passes) w

/-- **Only documented faults.**

* Scanning a source yields tokens, which have the characters at their places, and faults of scanning. The
  bounds of each of them are in order and within the source, so what is there can be cut out of it.
* If there are none of these, reading the tokens records faults of reading. A token that is no operator would
  be refused where one is read, but none is.
* If there are none of these either, the statements run in every session to their end, or until a loop needs
  more passes, and the faults reported are those of names and operands. No tree is defective, every scope can
  be closed, and no quotient is missing.
* What has no quotient is a divisor of zero, and division gives such operands a value of its own. -/
theorem only_documented_faults (source : String) (file : Option String) :
    (∀ result ∈ scan source file,
      (∃ t : Token, result = .ok t ∧ t.span.cut? source = some t.lexeme.toList ∧
        (t.kind = .number → ∃ x, t.datum = some (.number x))) ∨
      (∃ fault, result = .error fault ∧ (fault.span.cut? source).isSome = true ∧
        fault.cause.code ∈ ["E001", "E002", "E003"])) ∧
    (∀ tokens, scan source file = tokens.map .ok → ∀ (text : Option String) (limit : Nat),
      let reading := (Parser.ofTokens tokens text limit).recover
      (∀ fault ∈ reading.2.faults, fault.cause.code ∈ ["E101", "E103", "E104", "E105", "E106"]) ∧
      (reading.2.faults = [] → ∀ (passes : Nat) (s : Session),
        Outcome.Stops (· = .unfinished) (Session.interpret passes reading.1 s) ∧
        ∃ new, (Outcome.state (Session.interpret passes reading.1 s)).faults = s.faults ++ new ∧
          ∀ fault ∈ new, fault.cause.code ∈ ["E401", "E402", "E404", "E406"])) ∧
    (∀ x y : Binary64, (x.quotient? y = none ↔ y.isZero = true) ∧
      (y.isZero = true → x.divide? y =
        some (if x.isNaN || x.isZero then .nan else .infinity (x.isNegative != y.isNegative)))) := by
  refine ⟨fun result mem => scan_documented mem, fun tokens scanned text limit => ⟨?_, ?_⟩, ?_⟩
  · intro fault mem
    rw [(Grammar.recover_ofTokens tokens text limit).2] at mem
    obtain ⟨bare, left, refused, rfl⟩ := Grammar.exists_refused_of_mem_faults mem
    rw [Fault.cause_quote]
    exact refused.code_mem
  · intro none passes s
    -- Reading without a fault makes a program of the grammar, and its tokens have the words of a source.
    have writable : ∀ s ∈ ((Parser.ofTokens tokens text limit).recover).1, s.Writable := by
      rw [(Grammar.recover_ofTokens tokens text limit).2] at none
      rw [(Grammar.recover_ofTokens tokens text limit).1]
      have derives := Grammar.readProgram_derives none
      exact derives.writable (Grammar.allSpelled_of_tokenize (tokenize_eq_ok_iff.mpr scanned))
    obtain ⟨halts, documented⟩ := runAll_documented writable passes s.world
    refine ⟨?_, _, Session.faults_interpret passes _ s, fun fault mem => ?_⟩
    · rw [Session.interpret_eq]
      exact halts.mapState _
    · obtain ⟨f, among, rfl⟩ := List.mem_map.mp mem
      rw [Session.shown, Fault.cause_quote]
      exact documented f among
  · exact fun x y => ⟨Binary64.quotient?_eq_none_iff, Binary64.divide?_of_isZero⟩

end LoxScript
