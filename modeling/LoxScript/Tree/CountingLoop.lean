import LoxScript.Fault
import LoxScript.Tree

/-! # Counting loops
A counting loop has an optional initial statement, an optional condition and an optional increment. It is
not a statement of its own: it stands for a block that holds the initial statement and a conditional loop
whose body ends in the increment. -/

namespace LoxScript.CountingLoop

/-- The body of the conditional loop: the increment follows the statements of a block, or the only
statement of a new block. A choice or a loop as a body is refused. -/
def appendIncrement (body : Stmt) (increment : Expr) : Except LoopBody Stmt :=
  match body with
  | .block statements => .ok (.block (statements ++ [.expression increment]))
  | .expression _ | .print _ => .ok (.block [body, .expression increment])
  | .branch .. => .error .branch
  | _ => .error .loop

/-- The statement that a counting loop stands for. Without a condition it runs for ever. -/
def expand (initial : Option Stmt) (condition : Option Expr) (increment : Option Expr) (body : Stmt) :
    Except LoopBody Stmt := do
  let body ← match increment with
    | none => .ok body
    | some e => appendIncrement body e
  return .block (initial.toList ++ [.loop (condition.getD (.literal (.boolean true))) body])

end LoxScript.CountingLoop
