import LoxScript.Environment
import LoxScript.Fault
import LoxScript.Tree

/-! # Evaluating expressions
An expression is evaluated in an environment, which only assignments change, and only the values in it.
Evaluation ends with a value or stops; in both cases the changes made so far stay. -/

namespace LoxScript

/-- What no program meets in a run: a tree that no reading gives, or an operation without a result. -/
inductive Defect where
  /-- A point between two operands. -/
  | propertyAccess
  /-- A symbol between two operands that joins no values. -/
  | cannotJoin (symbol : Symbol)
  /-- A node in the place of a statement. -/
  | unknownStatement (kind : String)
  /-- A node in the place of an expression. -/
  | unknownExpression (kind : String)
  /-- A kind of node that a traversal has no case for. -/
  | unvisited (kind : String)
  /-- The global scope was to be closed. -/
  | globalExit
  /-- A quotient was to be had with a divisor of zero. -/
  | divisionByZero
  deriving DecidableEq, Repr, Inhabited

/-- The message for a defect. -/
def Defect.message : Defect → String
  | propertyAccess => "property access is not supported"
  | cannotJoin symbol => "'" ++ symbol.spelling ++ "' cannot join two values"
  | unknownStatement kind => "Unknown statement type: " ++ kind
  | unknownExpression kind => "Unknown expression type: " ++ kind
  | unvisited kind => "No visitor for " ++ kind
  | globalExit => ScopeFault.globalExit.message
  | divisionByZero => "float division by zero"

/-- Why a run ends before its program does. -/
inductive Halt where
  /-- The tree is defective, or an operation has no result. -/
  | defect (d : Defect)
  /-- A loop has used up the passes it was given. -/
  | unfinished
  deriving DecidableEq, Repr, Inhabited

/-- Why a statement stops. -/
inductive Stop where
  /-- The program is at fault; the run goes on with the next statement. -/
  | fault (fault : Fault RuntimeCause)
  /-- The run ends. -/
  | halt (halt : Halt)
  deriving DecidableEq, Inhabited

namespace Stop

/-- Stops with a cause at its own place. -/
def cause (c : RuntimeCause) : Stop := .fault ⟨c, c.span, none⟩

/-- Stops with a defect. -/
def defect (d : Defect) : Stop := .halt (.defect d)

/-- Stops with a failed operation on scopes that a name in the program asked for. -/
def scope (name : Token) : ScopeFault → Stop
  | .alreadyDefined n => cause (.alreadyDefined n name)
  | .undefined n => cause (.undefined n name)
  | .globalExit => defect .globalExit

end Stop

namespace Symbol

/-- The operation on two numbers that a symbol stands for; only a division can be without a result. Addition
has a wider meaning of its own. -/
def arithmetic? : Symbol → Option (Binary64 → Binary64 → Option Binary64)
  | minus => some fun x y => some (x - y)
  | star => some fun x y => some (x * y)
  | slash => some Binary64.divide?
  | _ => none

/-- The comparison of two numbers that a symbol stands for. -/
def comparison? : Symbol → Option (Binary64 → Binary64 → Bool)
  | greater => some fun x y => y.less x
  | greaterEqual => some fun x y => y.atMost x
  | less => some Binary64.less
  | lessEqual => some Binary64.atMost
  | _ => none

end Symbol

namespace Operator

/-- The sum of two numbers; other values are joined as texts. -/
def sum : Value → Value → Value
  | .number x, .number y => .number (x + y)
  | left, right => .text (left.printed ++ right.printed)

/-- The result of an operation on numbers as a value. -/
def resultOf : Option Binary64 → Except Stop Value
  | some z => .ok (.number z)
  | none => .error (.defect .divisionByZero)

/-- The value of two operands joined by an operator. -/
def join (o : Operator) (left right : Value) : Except Stop Value :=
  match o.symbol with
  | .plus => .ok (sum left right)
  | .equalEqual => .ok (.boolean (left.equal right))
  | .bangEqual => .ok (.boolean (!left.equal right))
  | .dot => .error (.defect .propertyAccess)
  | symbol =>
    match symbol.arithmetic?, symbol.comparison?, left, right with
    | some f, _, .number x, .number y => resultOf (f x y)
    | some _, _, _, _ => .error (.cause (.invalidOperands o))
    | none, some r, .number x, .number y => .ok (.boolean (r x y))
    | none, some _, _, _ => .error (.cause (.invalidOperands o))
    | none, none, _, _ => .error (.defect (.cannotJoin symbol))

/-- The value of an operand behind a minus sign. -/
def negate (o : Operator) : Value → Except Stop Value
  | .number x => .ok (.number (-x))
  | v => .error (.cause (.invalidOperand o v))

end Operator

/-- A computation in an environment that may stop. -/
abbrev Evaluation := EStateM Stop Environment

namespace Evaluation

/-- A value, or the reason to stop. -/
def ofExcept {α : Type} : Except Stop α → Evaluation α
  | .ok a => pure a
  | .error stop => throw stop

/-- Changes the environment as a name in the program asks. -/
def change (name : Token) (f : Environment → Except ScopeFault Environment) : Evaluation Unit := do
  match f (← get) with
  | .ok env => set env
  | .error fault => throw (Stop.scope name fault)

/-- Looks up a variable. -/
def lookup (name : Token) : Evaluation Value := do
  match (← get).get name.lexeme with
  | .ok v => return v
  | .error fault => throw (Stop.scope name fault)

end Evaluation

/-- Evaluates an expression. Operands are evaluated from left to right; an operator that cannot stand before
an operand is noticed before the operand is evaluated, and an assignment to something other than a name
before its value is. -/
def Expr.evaluate : Expr → Evaluation Value
  | .literal v => return v
  | .grouping inner => inner.evaluate
  | .reference name => Evaluation.lookup name
  | .assign name value => do
    if name.kind = .identifier then
      let v ← value.evaluate
      Evaluation.change name (·.assign name.lexeme v)
      return v
    else throw (Stop.cause (.notAssignable name))
  | .unary operator operand => do
    match operator.symbol with
    | .minus =>
      let v ← operand.evaluate
      Evaluation.ofExcept (operator.negate v)
    | .bang =>
      let v ← operand.evaluate
      return .boolean !v.isTruthy
    | _ => throw (Stop.cause (.invalidUnary operator))
  | .binary left operator right => do
    let l ← left.evaluate
    let r ← right.evaluate
    Evaluation.ofExcept (operator.join l r)
  | .misplaced s => throw (Stop.defect (.unknownExpression s.kindName))

end LoxScript
