import LoxScript.Proofs.Interpreting
import LoxScript.Proofs.Scope.Lexical

/-! # Lookups noted where they are made

The lookups of a run are listed beside the run. Here a run notes them itself: it reaches variables through one
function only, which notes the lookup and comes to what the lookup comes to. Taking notes changes nothing else,
and the notes are the list.

* **`Lookup.make`** — the function through which variables are reached.
* **`Expr.noting`**, **`Stmt.noting`**, **`Session.noting`** — evaluating, carrying out and running with notes.
* **`Expr.noting_eq`**, **`Stmt.noting_eq`**, **`Session.noting_eq`** — all of them come to what they come to
  without notes, and what they add to the notes are the lookups listed. -/

namespace LoxScript

/-! ## Notes beside a state -/

/-- The outcome with notes beside the state left. -/
def Outcome.noted {ε σ α : Type} (o : Outcome ε σ α) (notes : List Lookup) : Outcome ε (σ × List Lookup) α :=
  Outcome.mapState (·, notes) o

namespace Outcome

variable {ε σ α β : Type} {o : Outcome ε σ α} {next : α → σ → Outcome ε σ β}
  {next' : α → σ × List Lookup → Outcome ε (σ × List Lookup) β} {notes : List Lookup}

/-- What goes on with notes adds those of the second part to those of the first. -/
theorem bind_noted {f : α → σ → List Lookup}
    (h : ∀ a s, next' a (s, notes) = (next a s).noted (notes ++ f a s)) :
    bind (o.noted notes) next' = (bind o next).noted (notes ++ followed o f) := by
  cases o with
  | ok a s => exact h a s
  | error stop s =>
    have none : notes ++ followed (.error stop s : Outcome ε σ α) f = notes := List.append_nil notes
    rw [none]
    rfl

/-- What goes on without notes leaves those of the first part. -/
theorem bind_noted_of_none (h : ∀ a s, next' a (s, notes) = (next a s).noted notes) :
    bind (o.noted notes) next' = (bind o next).noted notes := by
  cases o with
  | ok a s => exact h a s
  | error => rfl

/-- A result that leaves the state alone leaves the notes alone. -/
theorem settle_noted (result : Except ε α) (s : σ) (notes : List Lookup) :
    settle result (s, notes) = (settle result s).noted notes := by
  cases result <;> rfl

end Outcome

/-! ## Expressions -/

/-- **Makes a lookup and notes it.** -/
def Lookup.make (l : Lookup) (notes : List Lookup) : Outcome Stop (Environment × List Lookup) Value :=
  Outcome.noted l.outcome (notes ++ [l])

/-- Evaluates an expression and notes its lookups. -/
def Expr.noting (blocks : List Enclosing) :
    Expr → Environment × List Lookup → Outcome Stop (Environment × List Lookup) Value
  | .literal v, at_ => .ok v at_
  | .grouping inner, at_ => inner.noting blocks at_
  | .reference name, (env, notes) => Lookup.make ⟨name, none, env, blocks⟩ notes
  | .assign name value, at_ =>
    if name.kind = .identifier then
      Outcome.bind (value.noting blocks at_) fun v (env, notes) =>
        Lookup.make ⟨name, some v, env, blocks⟩ notes
    else .error (Stop.cause (.notAssignable name)) at_
  | .unary operator operand, at_ =>
    match operator.symbol with
    | .minus =>
      Outcome.bind (operand.noting blocks at_) fun v at₁ => Outcome.settle (operator.negate v) at₁
    | .bang => Outcome.bind (operand.noting blocks at_) fun v at₁ => .ok (.boolean !v.isTruthy) at₁
    | _ => .error (Stop.cause (.invalidUnary operator)) at_
  | .binary left operator right, at_ =>
    Outcome.bind (left.noting blocks at_) fun l at₁ =>
      Outcome.bind (right.noting blocks at₁) fun r at₂ => Outcome.settle (operator.join l r) at₂
  | .misplaced s, at_ => .error (Stop.defect (.unknownExpression s.kindName)) at_

/-- **Evaluating with notes** is evaluating, and notes the lookups of the expression. -/
theorem Expr.noting_eq (blocks : List Enclosing) (e : Expr) (env : Environment) (notes : List Lookup) :
    e.noting blocks (env, notes) = Outcome.noted (e.evaluate env) (notes ++ e.lookups blocks env) := by
  -- By induction on the expression, whatever has been noted before: the notes of a part evaluated later follow
  -- those of the part before it, and an operation on values notes nothing.
  induction e generalizing env notes with
  | literal v => rw [noting, lookups, List.append_nil, evaluate_literal]; rfl
  | grouping inner ih => rw [noting, lookups, ih, evaluate_grouping]
  | reference name => rw [noting, lookups, evaluate_reference]; rfl
  | assign name value ih =>
    rw [noting, lookups, evaluate_assign]
    split
    · rw [ih, ← List.append_assoc]
      exact Outcome.bind_noted fun v env₁ => rfl
    · rw [List.append_nil]
      rfl
  | unary operator operand ih =>
    rw [noting, lookups, evaluate_unary]
    cases operator.symbol
    case minus =>
      dsimp only
      rw [ih]
      exact Outcome.bind_noted_of_none fun v env₁ => Outcome.settle_noted _ env₁ _
    case bang =>
      dsimp only
      rw [ih]
      exact Outcome.bind_noted_of_none fun v env₁ => rfl
    all_goals
      dsimp only
      rw [List.append_nil]
      rfl
  | binary left operator right ihl ihr =>
    rw [noting, lookups, evaluate_binary, ihl, ← List.append_assoc]
    refine Outcome.bind_noted fun l env₁ => ?_
    rw [ihr]
    exact Outcome.bind_noted_of_none fun r env₂ => Outcome.settle_noted _ env₂ _
  | misplaced s => rw [noting, lookups, List.append_nil, evaluate_misplaced]; rfl

/-! ## Statements -/

namespace Execution

/-- Evaluates in the environment of the world, with notes. -/
def ofNoting {α : Type} (m : Environment × List Lookup → Outcome Stop (Environment × List Lookup) α) :
    World × List Lookup → Outcome Stop (World × List Lookup) α := fun (w, notes) =>
  Outcome.mapState (fun (env, notes) => ({ w with environment := env }, notes)) (m (w.environment, notes))

/-- Closes a scope after an outcome with notes, which stay. -/
def closeNoting (o : Outcome Stop (World × List Lookup) Unit) : Outcome Stop (World × List Lookup) Unit :=
  Outcome.noted (closeScope (Outcome.mapState Prod.fst o)) (Outcome.state o).2

/-- Carries out `body` as long as `test` holds, in at most `passes` tests, with notes. -/
def whileNoting (test : World × List Lookup → Outcome Stop (World × List Lookup) Bool)
    (body : World × List Lookup → Outcome Stop (World × List Lookup) Unit) :
    Nat → World × List Lookup → Outcome Stop (World × List Lookup) Unit
  | 0, at_ => .error (.halt .unfinished) at_
  | n + 1, at_ =>
    Outcome.bind (test at_) fun holds at₁ =>
      if holds then Outcome.bind (body at₁) fun _ at₂ => whileNoting test body n at₂
      else .ok () at₁

/-- Closing a scope adds nothing to the notes. -/
theorem closeNoting_noted (o : Outcome Stop World Unit) (notes : List Lookup) :
    closeNoting (o.noted notes) = Outcome.noted (closeScope o) notes := by
  cases o <;> rfl

/-- An evaluation with notes is one in a world with notes. -/
theorem ofNoting_eq {α : Type} {m : Evaluation α} {w : World} {notes notes' : List Lookup}
    {noting : Environment × List Lookup → Outcome Stop (Environment × List Lookup) α}
    (h : noting (w.environment, notes) = Outcome.noted (m w.environment) notes') :
    ofNoting noting (w, notes) = Outcome.noted (ofEvaluation m w) notes' := by
  rw [ofNoting, ofEvaluation_run]
  dsimp only
  rw [h]
  cases m w.environment <;> rfl

/-- A loop notes the lookups of its passes if its test and its body note theirs. -/
theorem whileNoting_eq {test : Execution Bool} {body : Execution Unit} {atTest atBody : World → List Lookup}
    {test' : World × List Lookup → Outcome Stop (World × List Lookup) Bool}
    {body' : World × List Lookup → Outcome Stop (World × List Lookup) Unit}
    (tested : ∀ w notes, test' (w, notes) = Outcome.noted (test w) (notes ++ atTest w))
    (done : ∀ w notes, body' (w, notes) = Outcome.noted (body w) (notes ++ atBody w)) (n : Nat) (w : World)
    (notes : List Lookup) :
    whileNoting test' body' n (w, notes) =
      Outcome.noted (whileTrue n test body w) (notes ++ lookupsWhile test body atTest atBody n w) := by
  -- By induction on the passes: a pass notes its test, then its body, then the passes behind it.
  induction n generalizing w notes with
  | zero => rw [lookupsWhile, List.append_nil]; rfl
  | succ n ih =>
    rw [whileNoting, lookupsWhile, whileTrue_succ, tested, ← List.append_assoc]
    refine Outcome.bind_noted fun holds w₁ => ?_
    cases holds with
    | false => simp [Outcome.noted, Outcome.mapState]
    | true =>
      simp only [if_true]
      rw [done, ← List.append_assoc]
      exact Outcome.bind_noted fun _ w₂ => ih w₂ _

end Execution

/-- Tests a condition with notes. -/
def Expr.testNoting (blocks : List Enclosing) (e : Expr) (at_ : World × List Lookup) :
    Outcome Stop (World × List Lookup) Bool :=
  Outcome.bind (Execution.ofNoting (e.noting blocks) at_) fun v at₁ => .ok v.isTruthy at₁

/-- **Testing with notes** is testing, and the notes are the lookups of the condition. -/
theorem Expr.testNoting_eq (blocks : List Enclosing) (e : Expr) (w : World) (notes : List Lookup) :
    e.testNoting blocks (w, notes) = Outcome.noted (e.test w) (notes ++ e.lookups blocks w.environment) := by
  rw [testNoting, test_run, Execution.ofNoting_eq (e.noting_eq blocks w.environment notes)]
  exact Outcome.bind_noted_of_none fun v w₁ => rfl

mutual

/-- Carries out a statement and notes its lookups. -/
def Stmt.noting (passes : Nat) (blocks : List Enclosing) :
    Stmt → World × List Lookup → Outcome Stop (World × List Lookup) Unit
  | .block statements, (w, notes) =>
    let inner := { w with environment := w.environment.enter }
    Execution.closeNoting
      (Stmt.notingAll passes blocks inner.environment.current [] statements (inner, notes))
  | .expression e, at_ => Outcome.bind (Execution.ofNoting (e.noting blocks) at_) fun _ at₁ => .ok () at₁
  | .print e, at_ =>
    Outcome.bind (Execution.ofNoting (e.noting blocks) at_) fun v (w, notes) =>
      .ok () ({ w with printed := w.printed ++ v.printed ++ "\n" }, notes)
  | .declare name initial, at_ =>
    let first := match initial with
      | none => .ok .nil at_
      | some e => Execution.ofNoting (e.noting blocks) at_
    -- A declaration is no lookup: it looks at the innermost scope only.
    Outcome.bind first fun v (w, notes) =>
      Outcome.noted (Execution.ofEvaluation (Evaluation.change name (·.define name.lexeme v)) w) notes
  | .branch condition consequent alternative, at_ =>
    Outcome.bind (condition.testNoting blocks at_) fun holds at₁ =>
      if holds then consequent.noting passes blocks at₁
      else
        match alternative with
        | none => .ok () at₁
        | some s => s.noting passes blocks at₁
  | .loop condition body, at_ =>
    Execution.whileNoting (condition.testNoting blocks) (body.noting passes blocks) passes at_
  | .misplaced e, at_ => .error (Stop.defect (.unknownStatement e.kindName)) at_

/-- Carries out the statements of a block, those in `preceding` having been carried out before,
and notes their lookups. -/
def Stmt.notingAll (passes : Nat) (blocks : List Enclosing) (frame : Nat) (preceding : List Stmt) :
    List Stmt → World × List Lookup → Outcome Stop (World × List Lookup) Unit
  | [], at_ => .ok () at_
  | s :: rest, at_ =>
    Outcome.bind (s.noting passes (⟨preceding, frame⟩ :: blocks) at_) fun _ at₁ =>
      Stmt.notingAll passes blocks frame (preceding ++ [s]) rest at₁

end

mutual

/-- **Carrying out with notes** is carrying out, and notes the lookups of the statement. -/
theorem Stmt.noting_eq (passes : Nat) (blocks : List Enclosing) : ∀ (s : Stmt) (w : World) (notes : List Lookup),
    s.noting passes blocks (w, notes) =
      Outcome.noted (s.execute passes w) (notes ++ s.lookups passes blocks w)
  | .block ss, w, notes => by
    rw [Stmt.noting, Stmt.lookups, execute_block]
    dsimp only
    rw [Stmt.notingAll_eq passes blocks _ [] ss, Execution.closeNoting_noted]
  | .expression e, w, notes => by
    rw [Stmt.noting, Stmt.lookups, execute_expression, Execution.ofNoting_eq (e.noting_eq blocks _ _)]
    exact Outcome.bind_noted_of_none fun v w₁ => rfl
  | .print e, w, notes => by
    rw [Stmt.noting, Stmt.lookups, execute_print, Execution.ofNoting_eq (e.noting_eq blocks _ _)]
    exact Outcome.bind_noted_of_none fun v w₁ => rfl
  | .declare name none, w, notes => by
    rw [Stmt.noting, Stmt.lookups, execute_declare, List.append_nil]
    rfl
  | .declare name (some e), w, notes => by
    rw [Stmt.noting, Stmt.lookups, execute_declare]
    dsimp only
    rw [Execution.ofNoting_eq (e.noting_eq blocks _ _)]
    exact Outcome.bind_noted_of_none fun v w₁ => rfl
  | .branch condition consequent none, w, notes => by
    rw [Stmt.noting, Stmt.lookups, execute_branch, condition.testNoting_eq, ← List.append_assoc]
    refine Outcome.bind_noted fun holds w₁ => ?_
    cases holds with
    | true => exact consequent.noting_eq passes blocks w₁ _
    | false => exact (congrArg (Outcome.noted (.ok () w₁)) (List.append_nil _)).symm
  | .branch condition consequent (some alternative), w, notes => by
    rw [Stmt.noting, Stmt.lookups, execute_branch, condition.testNoting_eq, ← List.append_assoc]
    refine Outcome.bind_noted fun holds w₁ => ?_
    cases holds with
    | true => exact consequent.noting_eq passes blocks w₁ _
    | false => exact alternative.noting_eq passes blocks w₁ _
  | .loop condition body, w, notes => by
    rw [Stmt.noting, Stmt.lookups, execute_loop]
    -- The passes are compared one by one, given that condition and body agree.
    have tested := condition.testNoting_eq blocks
    exact Execution.whileNoting_eq tested (body.noting_eq passes blocks) passes w notes
  | .misplaced e, w, notes => by
    rw [Stmt.noting, Stmt.lookups, List.append_nil, execute_misplaced]
    rfl

/-- Carrying out the statements of a block with notes is carrying them out, and notes their lookups. -/
theorem Stmt.notingAll_eq (passes : Nat) (blocks : List Enclosing) (frame : Nat) (preceding : List Stmt) :
    ∀ (ss : List Stmt) (w : World) (notes : List Lookup),
      Stmt.notingAll passes blocks frame preceding ss (w, notes) =
        Outcome.noted (Stmt.executeAll passes ss w)
          (notes ++ Stmt.lookupsAll passes blocks frame preceding ss w)
  | [], w, notes => by
    rw [Stmt.notingAll, Stmt.lookupsAll, List.append_nil, executeAll_nil]
    rfl
  | s :: rest, w, notes => by
    rw [Stmt.notingAll, Stmt.lookupsAll, executeAll_cons, s.noting_eq, ← List.append_assoc]
    exact Outcome.bind_noted fun _ w₁ => Stmt.notingAll_eq passes blocks frame (preceding ++ [s]) rest w₁ _

end

/-! ## Runs -/

namespace Session

/-- Runs statements, reporting and passing over those at fault, and notes their lookups. -/
def noting (passes : Nat) :
    List Stmt → Session × List Lookup → Outcome Halt (Session × List Lookup) Unit
  | [], at_ => .ok () at_
  | statement :: rest, (s, notes) =>
    match statement.noting passes [] (s.world, notes) with
    | .ok _ (w, notes) => noting passes rest ({ s with world := w }, notes)
    | .error (.fault fault) (w, notes) => noting passes rest (afterFault { s with world := w } fault, notes)
    | .error (.halt halt) (w, notes) => .error halt ({ s with world := w }, notes)

/-- **Running with notes** is running: the session is left as without, and the notes are the lookups that are
listed for the run. -/
theorem noting_eq (passes : Nat) (ss : List Stmt) (s : Session) (notes : List Lookup) :
    noting passes ss (s, notes) = Outcome.noted (interpret passes ss s) (notes ++ s.lookups passes ss) := by
  induction ss generalizing s notes with
  | nil => rw [noting, lookups, List.append_nil]; rfl
  | cons statement rest ih =>
    rw [noting, lookups, interpret_cons, statement.noting_eq, execute]
    -- The session is the same behind the statement, and the list goes on behind what was noted.
    cases statement.execute passes s.world with
    | ok _ w =>
      rw [← List.append_assoc]
      exact ih { s with world := w } _
    | error stop w =>
      cases stop with
      | fault fault =>
        rw [← List.append_assoc]
        exact ih (afterFault { s with world := w } fault) _
      | halt halt =>
        rw [← List.append_assoc, List.append_nil]
        rfl

end Session

end LoxScript
