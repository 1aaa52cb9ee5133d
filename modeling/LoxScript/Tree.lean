import LoxScript.Operator
import LoxScript.Value

/-! # Syntax trees
The expressions and statements of the language. There is no statement for counting loops: they are read as
a block with an initial statement and a conditional loop. Trees made by hand may also hold a statement
where an expression belongs or the reverse; such trees can be printed, and fail when that place is reached
in a run. -/

namespace LoxScript

mutual

/-- An expression. -/
inductive Expr where
  /-- Assignment to an existing variable; its value is the value assigned. -/
  | assign (name : Token) (value : Expr)
  /-- Two operands joined by an operator. -/
  | binary (left : Expr) (operator : Operator) (right : Expr)
  /-- An expression in parentheses. -/
  | grouping (inner : Expr)
  /-- A literal value. -/
  | literal (value : Value)
  /-- An operator before its operand. -/
  | unary (operator : Operator) (operand : Expr)
  /-- A reference to a variable. -/
  | reference (name : Token)
  /-- A statement where an expression belongs. -/
  | misplaced (statement : Stmt)

/-- A statement. -/
inductive Stmt where
  /-- Statements between braces, with a scope of their own. -/
  | block (statements : List Stmt)
  /-- An expression evaluated for its effects. -/
  | expression (expression : Expr)
  /-- Printing the value of an expression on a line. -/
  | print (expression : Expr)
  /-- The declaration of a variable, with or without a first value. -/
  | declare (name : Token) (initial : Option Expr)
  /-- A choice by a condition, with or without an alternative. -/
  | branch (condition : Expr) (consequent : Stmt) (alternative : Option Stmt)
  /-- Repetition while a condition holds. -/
  | loop (condition : Expr) (body : Stmt)
  /-- An expression where a statement belongs. -/
  | misplaced (expression : Expr)

end

instance : Inhabited Expr := ⟨.literal .nil⟩
instance : Inhabited Stmt := ⟨.block []⟩

mutual

/-- The name of the kind of node at the root of an expression. -/
def Expr.kindName : Expr → String
  | .assign .. => "Assign"
  | .binary .. => "Binary"
  | .grouping .. => "Grouping"
  | .literal .. => "Literal"
  | .unary .. => "Unary"
  | .reference .. => "Variable"
  | .misplaced s => s.kindName

/-- The name of the kind of node at the root of a statement. -/
def Stmt.kindName : Stmt → String
  | .block .. => "Block"
  | .expression .. => "ExpressionStatement"
  | .print .. => "Print"
  | .declare .. => "VariableDeclaration"
  | .branch .. => "If"
  | .loop .. => "While"
  | .misplaced e => e.kindName

end

/-- Induction over the expressions within an expression; a misplaced statement is not entered. -/
@[induction_eliminator]
theorem Expr.induct {motive : Expr → Prop}
    (assign : ∀ name value, motive value → motive (.assign name value))
    (binary : ∀ left operator right, motive left → motive right →
      motive (.binary left operator right))
    (grouping : ∀ inner, motive inner → motive (.grouping inner))
    (literal : ∀ value, motive (.literal value))
    (unary : ∀ operator operand, motive operand → motive (.unary operator operand))
    (reference : ∀ name, motive (.reference name))
    (misplaced : ∀ statement, motive (.misplaced statement)) : ∀ e, motive e
  | .assign n v =>
    assign n v (induct assign binary grouping literal unary reference misplaced v)
  | .binary l o r =>
    binary l o r (induct assign binary grouping literal unary reference misplaced l)
      (induct assign binary grouping literal unary reference misplaced r)
  | .grouping e => grouping e (induct assign binary grouping literal unary reference misplaced e)
  | .literal v => literal v
  | .unary o e => unary o e (induct assign binary grouping literal unary reference misplaced e)
  | .reference n => reference n
  | .misplaced s => misplaced s

/-- Induction over the statements within a statement; a misplaced expression is not entered. -/
@[induction_eliminator]
theorem Stmt.induct {motive : Stmt → Prop}
    (block : ∀ statements, (∀ s ∈ statements, motive s) → motive (.block statements))
    (expression : ∀ e, motive (.expression e))
    (print : ∀ e, motive (.print e))
    (declare : ∀ name initial, motive (.declare name initial))
    (branch : ∀ condition consequent alternative, motive consequent →
      (∀ s ∈ alternative, motive s) → motive (.branch condition consequent alternative))
    (loop : ∀ condition body, motive body → motive (.loop condition body))
    (misplaced : ∀ e, motive (.misplaced e)) : ∀ s, motive s
  | .block ss =>
    block ss fun s _ => induct block expression print declare branch loop misplaced s
  | .expression e => expression e
  | .print e => print e
  | .declare n i => declare n i
  | .branch c t e =>
    branch c t e (induct block expression print declare branch loop misplaced t)
      fun s _ => induct block expression print declare branch loop misplaced s
  | .loop c b => loop c b (induct block expression print declare branch loop misplaced b)
  | .misplaced e => misplaced e

end LoxScript
