import LoxScript.Execution
import LoxScript.Proofs.Number.Division
import LoxScript.Proofs.Outcome

/-! # Running step by step

One equation for the outcome of each kind of expression and statement.

* **`evaluate_binary`, `evaluate_assign`, …** — expressions, in an environment.
* **`execute_block`, `execute_loop`, …** — statements, in a world; later files never unfold the monads.
* **`whileTrue_stops`, `executeAll_stops`, …** — loops and lists of statements stop for the reasons that
  their parts stop for. -/

namespace LoxScript

/-! ## Expressions -/

section Expressions

variable (env : Environment)

/-- Looking a variable up leaves the environment alone. -/
theorem lookup_run (name : Token) :
    Evaluation.lookup name env =
      match env.get name.lexeme with
      | .ok v => .ok v env
      | .error fault => .error (Stop.scope name fault) env := by
  rw [Evaluation.lookup, Outcome.bind_run]
  show (match env.get name.lexeme with
    | .ok v => pure v
    | .error fault => throw (Stop.scope name fault) : Evaluation Value) env = _
  cases env.get name.lexeme <;> rfl

/-- A change that fails leaves the environment alone. -/
theorem change_run (name : Token) (f : Environment → Except ScopeFault Environment) :
    Evaluation.change name f env =
      match f env with
      | .ok env' => .ok () env'
      | .error fault => .error (Stop.scope name fault) env := by
  rw [Evaluation.change, Outcome.bind_run]
  show (match f env with
    | .ok env' => set env'
    | .error fault => throw (Stop.scope name fault) : Evaluation Unit) env = _
  cases f env <;> rfl

/-- A result is settled in the environment it is met in. -/
theorem ofExcept_run {α : Type} (r : Except Stop α) :
    Evaluation.ofExcept r env = Outcome.settle r env := by
  cases r <;> rfl

/-- A literal is its own value. -/
theorem evaluate_literal (v : Value) : (Expr.literal v).evaluate env = .ok v env := rfl

/-- Parentheses change nothing. -/
theorem evaluate_grouping (inner : Expr) : (Expr.grouping inner).evaluate env = inner.evaluate env := rfl

/-- A name is looked up. -/
theorem evaluate_reference (name : Token) :
    (Expr.reference name).evaluate env = Evaluation.lookup name env := rfl

/-- An assignment to a name evaluates the value, then changes the variable; anything else is refused first. -/
theorem evaluate_assign (name : Token) (value : Expr) :
    (Expr.assign name value).evaluate env =
      if name.kind = .identifier then
        Outcome.bind (value.evaluate env) fun v env₁ =>
          Outcome.bind (Evaluation.change name (·.assign name.lexeme v) env₁) fun _ env₂ => .ok v env₂
      else .error (Stop.cause (.notAssignable name)) env := by
  show (if name.kind = .identifier then (do
      let v ← value.evaluate
      Evaluation.change name (·.assign name.lexeme v)
      return v)
    else throw (Stop.cause (.notAssignable name)) : Evaluation Value) env = _
  split
  · rw [Outcome.bind_run]
    refine congrArg _ (funext fun v => funext fun env₁ => ?_)
    rw [Outcome.bind_run]
    rfl
  · rfl

/-- A minus sign needs the value of its operand, and so does a negation. Other operators are refused before
it is evaluated. -/
theorem evaluate_unary (o : Operator) (operand : Expr) :
    (Expr.unary o operand).evaluate env =
      match o.symbol with
      | .minus => Outcome.bind (operand.evaluate env) fun v env₁ => Outcome.settle (o.negate v) env₁
      | .bang => Outcome.bind (operand.evaluate env) fun v env₁ => .ok (.boolean !v.isTruthy) env₁
      | _ => .error (Stop.cause (.invalidUnary o)) env := by
  show (match o.symbol with
    | .minus => operand.evaluate >>= fun v => Evaluation.ofExcept (o.negate v)
    | .bang => operand.evaluate >>= fun v => return .boolean !v.isTruthy
    | _ => throw (Stop.cause (.invalidUnary o)) : Evaluation Value) env = _
  cases o.symbol
  case minus =>
    dsimp only
    rw [Outcome.bind_run]
    exact congrArg _ (funext fun v => funext fun env₁ => ofExcept_run env₁ _)
  case bang =>
    dsimp only
    rw [Outcome.bind_run]
    rfl
  all_goals rfl

/-- Both operands are evaluated, from left to right, before they are joined. -/
theorem evaluate_binary (left : Expr) (o : Operator) (right : Expr) :
    (Expr.binary left o right).evaluate env =
      Outcome.bind (left.evaluate env) fun l env₁ =>
        Outcome.bind (right.evaluate env₁) fun r env₂ => Outcome.settle (o.join l r) env₂ := by
  show (left.evaluate >>= fun l => right.evaluate >>= fun r =>
    Evaluation.ofExcept (o.join l r) : Evaluation Value) env = _
  rw [Outcome.bind_run]
  refine congrArg _ (funext fun l => funext fun env₁ => ?_)
  rw [Outcome.bind_run]
  exact congrArg _ (funext fun r => funext fun env₂ => ofExcept_run env₂ _)

/-- A statement in the place of an expression is a defect. -/
theorem evaluate_misplaced (s : Stmt) :
    (Expr.misplaced s).evaluate env = .error (Stop.defect (.unknownExpression s.kindName)) env := rfl

end Expressions

/-! ## Statements -/

section Statements

variable (passes : Nat) (w : World)

/-- Evaluating in a world leaves what is printed alone. -/
theorem ofEvaluation_run {α : Type} (m : Evaluation α) :
    Execution.ofEvaluation m w =
      match m w.environment with
      | .ok a env => .ok a { w with environment := env }
      | .error stop env => .error stop { w with environment := env } := rfl

/-- A condition holds if its value is truthy. -/
theorem test_run (e : Expr) :
    e.test w = Outcome.bind (Execution.ofEvaluation e.evaluate w) fun v w₁ => .ok v.isTruthy w₁ := by
  show (Execution.ofEvaluation e.evaluate >>= fun v => return v.isTruthy : Execution Bool) w = _
  rw [Outcome.bind_run]
  rfl

/-- A block runs its statements in a scope of its own, which is closed whatever they come to. -/
theorem execute_block (ss : List Stmt) :
    (Stmt.block ss).execute passes w =
      Execution.closeScope
        (Stmt.executeAll passes ss { w with environment := w.environment.enter }) := rfl

/-- The value of an expression statement is dropped. -/
theorem execute_expression (e : Expr) :
    (Stmt.expression e).execute passes w =
      Outcome.bind (Execution.ofEvaluation e.evaluate w) fun _ w₁ => .ok () w₁ := by
  show EStateM.map _ (Execution.ofEvaluation e.evaluate) w = _
  rw [EStateM.map]
  cases Execution.ofEvaluation e.evaluate w <;> rfl

/-- A `print` evaluates its expression and writes the value on a line. -/
theorem execute_print (e : Expr) :
    (Stmt.print e).execute passes w =
      Outcome.bind (Execution.ofEvaluation e.evaluate w) fun v w₁ =>
        .ok () { w₁ with printed := w₁.printed ++ v.printed ++ "\n" } := by
  show (Execution.ofEvaluation e.evaluate >>= fun v => Execution.printLine v.printed :
    Execution Unit) w = _
  rw [Outcome.bind_run]
  rfl

/-- The first value of a variable: that of its expression, or nil. -/
def initialValue (initial : Option Expr) : Evaluation Value :=
  match initial with
  | none => pure .nil
  | some e => e.evaluate

/-- A declaration defines its name with the initial value, in that order. -/
theorem execute_declare (name : Token) (initial : Option Expr) :
    (Stmt.declare name initial).execute passes w =
      Outcome.bind (Execution.ofEvaluation (initialValue initial) w) fun v w₁ =>
        Execution.ofEvaluation (Evaluation.change name (·.define name.lexeme v)) w₁ := by
  have both : (Stmt.declare name initial).execute passes w =
      Execution.ofEvaluation (initialValue initial >>= fun v =>
        Evaluation.change name (·.define name.lexeme v)) w := by
    cases initial <;> rfl
  rw [both, ofEvaluation_run, ofEvaluation_run, Outcome.bind_run]
  cases initialValue initial w.environment <;> rfl

/-- A branch tests its condition, and carries out one side. -/
theorem execute_branch (condition : Expr) (consequent : Stmt) (alternative : Option Stmt) :
    (Stmt.branch condition consequent alternative).execute passes w =
      Outcome.bind (condition.test w) fun holds w₁ =>
        if holds then consequent.execute passes w₁
        else
          match alternative with
          | none => .ok () w₁
          | some s => s.execute passes w₁ := by
  cases alternative <;>
  · show (condition.test >>= fun holds => if holds then consequent.execute passes else _ :
      Execution Unit) w = _
    rw [Outcome.bind_run]
    refine congrArg _ (funext fun holds => funext fun w₁ => ?_)
    cases holds <;> rfl

/-- A loop tests and carries out in turns. -/
theorem execute_loop (condition : Expr) (body : Stmt) :
    (Stmt.loop condition body).execute passes w =
      Execution.whileTrue passes condition.test (body.execute passes) w := rfl

/-- An expression in the place of a statement is a defect. -/
theorem execute_misplaced (e : Expr) :
    (Stmt.misplaced e).execute passes w = .error (Stop.defect (.unknownStatement e.kindName)) w := rfl

/-- No statements do nothing. -/
theorem executeAll_nil : Stmt.executeAll passes [] w = .ok () w := rfl

/-- The first statement is carried out before the others. -/
theorem executeAll_cons (s : Stmt) (rest : List Stmt) :
    Stmt.executeAll passes (s :: rest) w =
      Outcome.bind (s.execute passes w) fun _ w₁ => Stmt.executeAll passes rest w₁ := by
  show (s.execute passes >>= fun _ => Stmt.executeAll passes rest) w = _
  rw [Outcome.bind_run]

/-- One statement alone is carried out as it is. -/
theorem executeAll_singleton (s : Stmt) : Stmt.executeAll passes [s] w = s.execute passes w := by
  rw [executeAll_cons]
  cases s.execute passes w with
  | ok _ w₁ => exact executeAll_nil passes w₁
  | error stop w₁ => rfl

/-- Statements are carried out part by part. -/
theorem executeAll_append (ss rest : List Stmt) :
    Stmt.executeAll passes (ss ++ rest) w =
      Outcome.bind (Stmt.executeAll passes ss w) fun _ w₁ => Stmt.executeAll passes rest w₁ := by
  induction ss generalizing w with
  | nil => rw [List.nil_append, executeAll_nil, Outcome.bind_ok]
  | cons s ss ih =>
    rw [List.cons_append, executeAll_cons, executeAll_cons]
    cases s.execute passes w with
    | ok _ w₁ => exact ih w₁
    | error stop w₁ => rfl

variable (test : Execution Bool) (body : Execution Unit)

/-- One pass of a loop: the test, and if it holds the body and the other passes. -/
theorem whileTrue_succ (n : Nat) :
    Execution.whileTrue (n + 1) test body w =
      Outcome.bind (test w) fun holds w₁ =>
        if holds then Outcome.bind (body w₁) fun _ w₂ => Execution.whileTrue n test body w₂
        else .ok () w₁ := by
  show (test >>= fun holds => if holds then body >>= fun _ => Execution.whileTrue n test body
    else pure () : Execution Unit) w = _
  rw [Outcome.bind_run]
  refine congrArg _ (funext fun holds => funext fun w₁ => ?_)
  cases holds with
  | true =>
    show (body >>= fun _ => Execution.whileTrue n test body) w₁ = _
    rw [Outcome.bind_run]
    rfl
  | false => rfl

end Statements

/-- Loops come to the same if their bodies do wherever they get to. -/
theorem whileTrue_congr {P : World → Prop} {test : Execution Bool} {body body' : Execution Unit}
    (atTest : ∀ {w w₁ : World} {holds : Bool}, P w → test w = .ok holds w₁ → P w₁)
    (atBody : ∀ {w w₁ : World}, P w → body w = .ok () w₁ → P w₁)
    (same : ∀ {w : World}, P w → body w = body' w) (n : Nat) {w : World} (h : P w) :
    Execution.whileTrue n test body w = Execution.whileTrue n test body' w := by
  induction n generalizing w with
  | zero => rfl
  | succ n ih =>
    rw [whileTrue_succ, whileTrue_succ]
    apply Outcome.bind_congr
    intro holds w₁ tested
    have h₁ := atTest h tested
    cases holds with
    | false => rfl
    | true =>
      simp only [if_true, ← same h₁]
      exact Outcome.bind_congr fun _ w₂ done => ih (atBody h₁ done)

/-! ## Reasons to stop -/

section Stops

variable {P : Stop → Prop} {name : Token}

/-- Looking a variable up stops, if at all, because no scope declares it. -/
theorem lookup_stops (undefined : P (.cause (.undefined name.lexeme name))) (env : Environment) :
    Outcome.Stops P (Evaluation.lookup name env) := by
  rw [lookup_run, Environment.get]
  cases (env.holder? name.lexeme).bind fun i => (env.bindingsAt i).get? name.lexeme with
  | some v => exact .ok v env
  | none => exact .error undefined env

/-- An assignment stops, if at all, because no scope declares the variable. -/
theorem assign_stops (undefined : P (.cause (.undefined name.lexeme name))) (v : Value) (env : Environment) :
    Outcome.Stops P (Evaluation.change name (·.assign name.lexeme v) env) := by
  rw [change_run, Environment.assign]
  cases env.holder? name.lexeme with
  | some i => exact .ok () _
  | none => exact .error undefined env

/-- A declaration stops, if at all, because the scope declares the variable already. -/
theorem define_stops (alreadyDefined : P (.cause (.alreadyDefined name.lexeme name))) (v : Value)
    (env : Environment) : Outcome.Stops P (Evaluation.change name (·.define name.lexeme v) env) := by
  rw [change_run, Environment.define]
  by_cases defined : (env.bindingsAt env.current).contains name.lexeme
  · rw [if_pos defined]
    exact .error alreadyDefined env
  · rw [if_neg defined]
    exact .ok () _

/-- A minus sign stops, if at all, because of the value behind it. -/
theorem negate_stops {o : Operator} (invalidOperand : ∀ v, P (.cause (.invalidOperand o v))) {v : Value}
    {stop : Stop} (h : o.negate v = .error stop) : P stop := by
  cases v with
  | number x => cases h
  | nil | boolean b | text s =>
    cases h
    exact invalidOperand _

/-- An operator stops, if at all, because of its operands, or because it joins none. It never stops for want
of a quotient, whatever the numbers are. -/
theorem join_stops {o : Operator} (invalidOperands : P (.cause (.invalidOperands o)))
    (propertyAccess : o.symbol = .dot → P (.defect .propertyAccess))
    (cannotJoin : o.symbol = .bang ∨ o.symbol = .equal → P (.defect (.cannotJoin o.symbol)))
    {left right : Value} {stop : Stop} (h : o.join left right = .error stop) : P stop := by
  obtain ⟨symbol, line, column⟩ := o
  cases symbol with
  | plus | equalEqual | bangEqual => cases h
  | dot =>
    cases h
    exact propertyAccess rfl
  | bang =>
    cases h
    exact cannotJoin (.inl rfl)
  | equal =>
    cases h
    exact cannotJoin (.inr rfl)
  -- Two numbers have a quotient, so only operands of another kind stop a division.
  | slash =>
    cases left with
    | number x =>
      cases right with
      | number y =>
        obtain ⟨z, result⟩ := x.exists_divide? y
        have joined : Operator.join ⟨.slash, line, column⟩ (.number x) (.number y) =
            Operator.resultOf (x.divide? y) := rfl
        rw [joined, result] at h
        cases h
      | nil | boolean | text =>
        cases h
        exact invalidOperands
    | nil | boolean | text =>
      cases h
      exact invalidOperands
  | minus | star | greater | greaterEqual | less | lessEqual =>
    cases left <;> cases right <;> cases h <;> exact invalidOperands

/-- Evaluating in a world stops for reasons of a sort if the evaluation does. -/
theorem ofEvaluation_stops {α : Type} {m : Evaluation α} (h : ∀ env, Outcome.Stops P (m env)) (w : World) :
    Outcome.Stops P (Execution.ofEvaluation m w) := by
  have inner := h w.environment
  rw [ofEvaluation_run]
  cases result : m w.environment with
  | ok a env => exact .ok a _
  | error stop env => exact .error (inner stop env result) _

/-- So does a condition. -/
theorem test_stops {e : Expr} (h : ∀ env, Outcome.Stops P (e.evaluate env)) (w : World) :
    Outcome.Stops P (e.test w) := by
  rw [test_run]
  exact (ofEvaluation_stops h w).bind fun v w₁ => .ok _ w₁

/-- A loop stops for the reasons that its test and its body stop for, or because it needs more passes. -/
theorem whileTrue_stops {test : Execution Bool} {body : Execution Unit} (unfinished : P (.halt .unfinished))
    (atTest : ∀ w, Outcome.Stops P (test w)) (atBody : ∀ w, Outcome.Stops P (body w)) (n : Nat)
    (w : World) : Outcome.Stops P (Execution.whileTrue n test body w) := by
  induction n generalizing w with
  | zero => exact .error unfinished w
  | succ n ih =>
    rw [whileTrue_succ]
    refine (atTest w).bind fun holds w₁ => ?_
    cases holds with
    | true => exact (atBody w₁).bind fun _ w₂ => ih w₂
    | false => exact .ok () w₁

/-- Statements one after another stop for reasons of a sort if each of them does. -/
theorem executeAll_stops {passes : Nat} {ss : List Stmt}
    (each : ∀ s ∈ ss, ∀ w, Outcome.Stops P (s.execute passes w)) (w : World) :
    Outcome.Stops P (Stmt.executeAll passes ss w) := by
  induction ss generalizing w with
  | nil => exact .ok () w
  | cons s rest ih =>
    rw [executeAll_cons]
    exact (each s (List.mem_cons_self ..) w).bind fun _ w₁ =>
      ih (fun t mem => each t (List.mem_cons_of_mem _ mem)) w₁

end Stops

end LoxScript
