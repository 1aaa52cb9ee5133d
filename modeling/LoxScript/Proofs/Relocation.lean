import LoxScript.Proofs.Running

/-! # Trees that are moved

A run consults the places of names and operators for its faults only, so moving a tree to other places of a
source moves the faults of its run, and changes nothing else.

* **`Relocation`** — where places go.
* **`Expr.moved`**, **`Stmt.moved`**, **`Stop.moved`** — trees and reasons to stop at their new places.
* **`Expr.evaluate_moved`**, **`Stmt.execute_moved`** — a tree that is moved runs like the tree, up to the
  places of faults. -/

namespace LoxScript

/-- **Where places go.** Of an operator only line and column are kept, so these must not depend on more
than the line and column of its token. -/
structure Relocation where
  /-- Where a position goes. -/
  position : Position → Position
  /-- Where the line and column of an operator go. -/
  place : Int → Int → Int × Int
  /-- Line and column go where the position goes. -/
  place_eq : ∀ p, place p.line p.column = ((position p).line, (position p).column)

section

variable (r : Relocation)

/-- The span at its new place. -/
def Span.moved (s : Span) : Span := ⟨r.position s.start, r.position s.stop⟩

/-- The token at its new place. -/
def Token.moved (t : Token) : Token := { t with span := t.span.moved r }

/-- The operator at its new place. -/
def Operator.moved (o : Operator) : Operator :=
  ⟨o.symbol, (r.place o.line o.column).1, (r.place o.line o.column).2⟩

/-- An operator goes where its token goes. -/
theorem Operator.moved_of_token (symbol : Symbol) (t : Token) :
    (⟨symbol, t.line, t.column⟩ : Operator).moved r = ⟨symbol, (t.moved r).line, (t.moved r).column⟩ := by
  show (⟨symbol, (r.place t.span.stop.line t.span.stop.column).1,
    (r.place t.span.stop.line t.span.stop.column).2⟩ : Operator) = _
  rw [r.place_eq]
  rfl

/-- The expression at its new place; a misplaced statement stays as it is. -/
def Expr.moved : Expr → Expr
  | .assign name value => .assign (name.moved r) value.moved
  | .binary left operator right => .binary left.moved (operator.moved r) right.moved
  | .grouping inner => .grouping inner.moved
  | .literal value => .literal value
  | .unary operator operand => .unary (operator.moved r) operand.moved
  | .reference name => .reference (name.moved r)
  | .misplaced s => .misplaced s

mutual

/-- The statement at its new place; a misplaced expression stays as it is. -/
def Stmt.moved : Stmt → Stmt
  | .block ss => .block (Stmt.movedAll ss)
  | .expression e => .expression (e.moved r)
  | .print e => .print (e.moved r)
  | .declare name initial => .declare (name.moved r) (initial.map (Expr.moved r))
  | .branch condition consequent none => .branch (condition.moved r) consequent.moved none
  | .branch condition consequent (some alternative) =>
    .branch (condition.moved r) consequent.moved (some alternative.moved)
  | .loop condition body => .loop (condition.moved r) body.moved
  | .misplaced e => .misplaced e

/-- The statements of a block at their new places. -/
def Stmt.movedAll : List Stmt → List Stmt
  | [] => []
  | s :: rest => s.moved :: Stmt.movedAll rest

end

/-- The cause with its token or operator at its new place. -/
def RuntimeCause.moved : RuntimeCause → RuntimeCause
  | alreadyDefined name token => alreadyDefined name (token.moved r)
  | undefined name token => undefined name (token.moved r)
  | notAssignable token => notAssignable (token.moved r)
  | invalidOperands operator => invalidOperands (operator.moved r)
  | invalidUnary operator => invalidUnary (operator.moved r)
  | invalidOperand operator value => invalidOperand (operator.moved r) value

/-- The reason to stop, with its cause moved. -/
def Stop.moved : Stop → Stop
  | fault f => cause (f.cause.moved r)
  | halt h => halt h

/-- The code of a cause does not depend on places. -/
@[simp] theorem RuntimeCause.code_moved (c : RuntimeCause) : (c.moved r).code = c.code := by
  cases c <;> rfl

/-- Neither does its message. -/
@[simp] theorem RuntimeCause.message_moved (c : RuntimeCause) : (c.moved r).message = c.message := by
  cases c <;> rfl

/-- Statements are moved one by one. -/
theorem Stmt.movedAll_eq_map (ss : List Stmt) : Stmt.movedAll r ss = ss.map (Stmt.moved r) := by
  induction ss with
  | nil => rw [Stmt.movedAll, List.map_nil]
  | cons s rest ih => rw [Stmt.movedAll, ih, List.map_cons]

/-- A failed operation on scopes is reported at the name, wherever that is. -/
theorem Stop.scope_moved (name : Token) (fault : ScopeFault) :
    Stop.scope (name.moved r) fault = (Stop.scope name fault).moved r := by
  cases fault <;> rfl

/-! ## Expressions -/

/-- A minus sign somewhere else stops somewhere else and has the same values. -/
theorem Operator.negate_moved (o : Operator) (v : Value) :
    (o.moved r).negate v = (o.negate v).mapError (Stop.moved r) := by
  cases v <;> rfl

/-- The result of an operation on numbers has no place. -/
theorem Operator.resultOf_moved (result : Option Binary64) :
    resultOf result = (resultOf result).mapError (Stop.moved r) := by
  cases result <;> rfl

/-- So does an operator between operands. -/
theorem Operator.join_moved (o : Operator) (left right : Value) :
    (o.moved r).join left right = (o.join left right).mapError (Stop.moved r) := by
  obtain ⟨symbol, line, column⟩ := o
  cases symbol
  case plus => rfl
  case equalEqual => rfl
  case bangEqual => rfl
  all_goals cases left <;> cases right <;> first | rfl | exact resultOf_moved ..

/-- A name somewhere else is looked up with the same outcome, reported there. -/
theorem lookup_moved (name : Token) (env : Environment) :
    Evaluation.lookup (name.moved r) env =
      Outcome.mapStop (Stop.moved r) (Evaluation.lookup name env) := by
  have lexeme : (name.moved r).lexeme = name.lexeme := rfl
  rw [lookup_run, lookup_run, lexeme]
  cases env.get name.lexeme with
  | ok v => rfl
  | error fault => exact congrArg (EStateM.Result.error · env) (Stop.scope_moved r name fault)

/-- A variable is changed at a name somewhere else with the same outcome, reported there. -/
theorem change_moved (name : Token) (f : Environment → Except ScopeFault Environment)
    (env : Environment) :
    Evaluation.change (name.moved r) f env =
      Outcome.mapStop (Stop.moved r) (Evaluation.change name f env) := by
  rw [change_run, change_run]
  cases f env with
  | ok env' => rfl
  | error fault => exact congrArg (EStateM.Result.error · env) (Stop.scope_moved r name fault)

/-- **An expression that is moved has the same value**, or stops for the same reason at its new place. -/
theorem Expr.evaluate_moved (e : Expr) (env : Environment) :
    (e.moved r).evaluate env = Outcome.mapStop (Stop.moved r) (e.evaluate env) := by
  induction e generalizing env with
  | assign name value ih =>
    rw [Expr.moved, evaluate_assign, evaluate_assign]
    -- Moving keeps the kind of the target, so both runs evaluate the value or neither does.
    by_cases identifier : name.kind = .identifier
    · rw [if_pos identifier, if_pos (show (name.moved r).kind = .identifier from identifier), ih,
        Outcome.mapStop_bind]
      refine congrArg _ (funext fun v => funext fun env₁ => ?_)
      rw [change_moved, Outcome.mapStop_bind]
      rfl
    · rw [if_neg identifier, if_neg (show ¬ (name.moved r).kind = .identifier from identifier)]
      rfl
  | binary left operator right ihl ihr =>
    rw [Expr.moved, evaluate_binary, evaluate_binary, ihl, Outcome.mapStop_bind]
    refine congrArg _ (funext fun l => funext fun env₁ => ?_)
    rw [ihr, Outcome.mapStop_bind]
    refine congrArg _ (funext fun r => funext fun env₂ => ?_)
    rw [Operator.join_moved, Outcome.mapStop_settle]
  | grouping inner ih => rw [Expr.moved, evaluate_grouping, evaluate_grouping, ih]
  | literal value => rfl
  | unary operator operand ih =>
    -- Operators that stand before no operand are refused at their place; the other two have an operand.
    obtain ⟨symbol, line, column⟩ := operator
    rw [Expr.moved, evaluate_unary, evaluate_unary, ih]
    cases symbol
    case minus =>
      show Outcome.bind _ _ = Outcome.mapStop _ (Outcome.bind _ _)
      rw [Outcome.mapStop_bind]
      refine congrArg _ (funext fun v => funext fun env₁ => ?_)
      rw [Operator.negate_moved, Outcome.mapStop_settle]
    case bang =>
      show Outcome.bind _ _ = Outcome.mapStop _ (Outcome.bind _ _)
      rw [Outcome.mapStop_bind]
      rfl
    all_goals rfl
  | reference name =>
    rw [Expr.moved, evaluate_reference, evaluate_reference, lookup_moved]
  | misplaced s => rfl

/-! ## Statements -/

variable (w : World)

/-- Evaluations that agree up to places do so in a world. -/
theorem ofEvaluation_moved {α : Type} {m m' : Evaluation α}
    (h : ∀ env, m' env = Outcome.mapStop (Stop.moved r) (m env)) :
    Execution.ofEvaluation m' w =
      Outcome.mapStop (Stop.moved r) (Execution.ofEvaluation m w) := by
  rw [ofEvaluation_run, ofEvaluation_run, h]
  cases m w.environment <;> rfl

/-- An expression somewhere else has the same outcome in a world. -/
theorem Expr.run_moved (e : Expr) :
    Execution.ofEvaluation (e.moved r).evaluate w =
      Outcome.mapStop (Stop.moved r) (Execution.ofEvaluation e.evaluate w) :=
  ofEvaluation_moved r w (e.evaluate_moved r)

/-- As a condition it holds and fails alike. -/
theorem Expr.test_moved (e : Expr) :
    (e.moved r).test w = Outcome.mapStop (Stop.moved r) (e.test w) := by
  rw [test_run, test_run, e.run_moved, Outcome.mapStop_bind]
  rfl

/-- Closing a scope does not look at places. -/
theorem closeScope_mapStop (o : Outcome Stop World Unit) :
    Execution.closeScope (Outcome.mapStop (Stop.moved r) o) =
      Outcome.mapStop (Stop.moved r) (Execution.closeScope o) := by
  cases o with
  | ok _ w =>
    rw [Outcome.mapStop, Execution.closeScope]
    cases w.environment.exit <;> rfl
  | error stop w =>
    rw [Outcome.mapStop, Execution.closeScope, Execution.closeScope]
    cases w.environment.exit <;> rfl

/-- Tests and bodies that agree up to places make loops that do. -/
theorem whileTrue_moved {test test' : Execution Bool} {body body' : Execution Unit}
    (atTest : ∀ w, test' w = Outcome.mapStop (Stop.moved r) (test w))
    (atBody : ∀ w, body' w = Outcome.mapStop (Stop.moved r) (body w)) (n : Nat) :
    Execution.whileTrue n test' body' w =
      Outcome.mapStop (Stop.moved r) (Execution.whileTrue n test body w) := by
  induction n generalizing w with
  | zero => rfl
  | succ n ih =>
    rw [whileTrue_succ, whileTrue_succ, atTest, Outcome.mapStop_bind]
    refine congrArg _ (funext fun holds => funext fun w₁ => ?_)
    cases holds with
    | true =>
      show Outcome.bind (body' w₁) _ = Outcome.mapStop _ (Outcome.bind (body w₁) _)
      rw [atBody, Outcome.mapStop_bind]
      exact congrArg _ (funext fun _ => funext fun w₂ => ih w₂)
    | false => rfl

variable (passes : Nat)

/-- Statements somewhere else have the same outcome one after another, if each of them has. -/
theorem executeAll_moved {ss : List Stmt}
    (h : ∀ s ∈ ss, ∀ w, (s.moved r).execute passes w =
      Outcome.mapStop (Stop.moved r) (s.execute passes w)) :
    Stmt.executeAll passes (Stmt.movedAll r ss) w =
      Outcome.mapStop (Stop.moved r) (Stmt.executeAll passes ss w) := by
  induction ss generalizing w with
  | nil => rw [Stmt.movedAll]; rfl
  | cons s rest ih =>
    rw [Stmt.movedAll, executeAll_cons, executeAll_cons, h s (List.mem_cons_self ..),
      Outcome.mapStop_bind]
    exact congrArg _ (funext fun _ => funext fun w₁ =>
      ih w₁ fun t mem => h t (List.mem_cons_of_mem _ mem))

/-- **A statement that is moved does the same**, or stops for the same reason at its new place. -/
theorem Stmt.execute_moved (s : Stmt) :
    (s.moved r).execute passes w = Outcome.mapStop (Stop.moved r) (s.execute passes w) := by
  induction s generalizing w with
  | block ss ih =>
    rw [Stmt.moved, execute_block, execute_block,
      executeAll_moved r _ passes fun s mem w => ih s mem w, closeScope_mapStop]
  | expression e =>
    rw [Stmt.moved, execute_expression, execute_expression, e.run_moved, Outcome.mapStop_bind]
    rfl
  | print e =>
    rw [Stmt.moved, execute_print, execute_print, e.run_moved, Outcome.mapStop_bind]
    rfl
  | declare name initial =>
    -- A variable without a first value has one all the same.
    have value : Execution.ofEvaluation (initialValue (initial.map (Expr.moved r))) w =
        Outcome.mapStop (Stop.moved r) (Execution.ofEvaluation (initialValue initial) w) := by
      cases initial with
      | none => rfl
      | some e => exact e.run_moved r w
    rw [Stmt.moved, execute_declare, execute_declare, value, Outcome.mapStop_bind]
    exact congrArg _ (funext fun v => funext fun w₁ =>
      ofEvaluation_moved r w₁ (change_moved r name (·.define name.lexeme v)))
  | branch condition consequent alternative ih ih' =>
    cases alternative with
    | none =>
      rw [Stmt.moved, execute_branch, execute_branch, condition.test_moved, Outcome.mapStop_bind]
      refine congrArg _ (funext fun holds => funext fun w₁ => ?_)
      cases holds with
      | true => exact ih w₁
      | false => rfl
    | some a =>
      rw [Stmt.moved, execute_branch, execute_branch, condition.test_moved, Outcome.mapStop_bind]
      refine congrArg _ (funext fun holds => funext fun w₁ => ?_)
      cases holds with
      | true => exact ih w₁
      | false => exact ih' a rfl w₁
  | loop condition body ih =>
    rw [Stmt.moved, execute_loop, execute_loop]
    exact whileTrue_moved r w (condition.test_moved r) ih passes
  | misplaced e => rfl

end

end LoxScript
