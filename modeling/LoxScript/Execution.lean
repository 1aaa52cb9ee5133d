import LoxScript.Evaluation

/-! # Carrying out statements
A statement is carried out in a world of variables and printed text. A block opens a scope and closes it
again however it ends. Loops are the only statements that may not end by themselves; each is given a number
of passes, and a run in which one of them needs more is left unfinished. A larger number changes nothing
else. -/

namespace LoxScript

/-- What a running program acts on. -/
structure World where
  /-- The variables. -/
  environment : Environment := {}
  /-- The text printed so far. -/
  printed : String := ""
  deriving Inhabited

/-- A computation in a world that may stop. -/
abbrev Execution := EStateM Stop World

namespace Execution

/-- Evaluates in the environment of the world. -/
def ofEvaluation {α : Type} (m : Evaluation α) : Execution α := fun w =>
  match m w.environment with
  | .ok a env => .ok a { w with environment := env }
  | .error stop env => .error stop { w with environment := env }

/-- Prints a line. -/
def printLine (text : String) : Execution Unit :=
  modify fun w => { w with printed := w.printed ++ text ++ "\n" }

/-- Closes a scope after `outcome`. Failing to do so replaces the outcome. -/
def closeScope (outcome : EStateM.Result Stop World Unit) : EStateM.Result Stop World Unit :=
  match outcome with
  | .ok _ w =>
    match w.environment.exit with
    | .ok env => .ok () { w with environment := env }
    | .error _ => .error (Stop.defect .globalExit) w
  | .error stop w =>
    match w.environment.exit with
    | .ok env => .error stop { w with environment := env }
    | .error _ => .error (Stop.defect .globalExit) w

/-- Carries out `body` in a scope of its own. -/
def inScope (body : Execution Unit) : Execution Unit := fun w =>
  closeScope (body { w with environment := w.environment.enter })

/-- Carries out `body` as long as `test` holds, in at most `passes` tests. -/
def whileTrue (passes : Nat) (test : Execution Bool) (body : Execution Unit) : Execution Unit :=
  match passes with
  | 0 => throw (.halt .unfinished)
  | n + 1 => do
    if ← test then
      body
      whileTrue n test body

end Execution

/-- Whether the value of an expression makes a condition hold. -/
def Expr.test (e : Expr) : Execution Bool := do
  let v ← Execution.ofEvaluation e.evaluate
  return v.isTruthy

mutual

/-- Carries out a statement in which each loop may make `passes` passes. -/
def Stmt.execute (passes : Nat) : Stmt → Execution Unit
  | .block statements => Execution.inScope (Stmt.executeAll passes statements)
  | .expression e => discard (Execution.ofEvaluation e.evaluate)
  | .print e => do
    let v ← Execution.ofEvaluation e.evaluate
    Execution.printLine v.printed
  | .declare name initial => Execution.ofEvaluation do
    let v ← match initial with
      | none => pure .nil
      | some e => e.evaluate
    Evaluation.change name (·.define name.lexeme v)
  | .branch condition consequent alternative => do
    if ← condition.test then consequent.execute passes
    else
      match alternative with
      | none => return
      | some s => s.execute passes
  | .loop condition body => Execution.whileTrue passes condition.test (body.execute passes)
  | .misplaced e => throw (Stop.defect (.unknownStatement e.kindName))

/-- Carries out statements one after another. -/
def Stmt.executeAll (passes : Nat) : List Stmt → Execution Unit
  | [] => return
  | s :: rest => do
    s.execute passes
    Stmt.executeAll passes rest

end

end LoxScript
