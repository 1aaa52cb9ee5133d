import LoxScript.Diagnostic
import LoxScript.Value
import LoxScript.Operator
import LoxScript.Text.Lines

/-! # Faults of a program
What can be wrong with a program, as causes: one family for each stage that meets them. Code, message and
hints of every cause are given here and nowhere else. A fault is a cause at a place; it is shown to the
user as a diagnostic. -/

namespace LoxScript

/-- A lexeme that is not a token. -/
inductive LexicalCause where
  /-- A character that starts no token. -/
  | unexpectedCharacter (character : Char)
  /-- A string literal without its closing quote. -/
  | unterminatedString
  /-- A number literal with digits that have no decimal value. -/
  | invalidNumber (lexeme : String)
  deriving DecidableEq, Inhabited

/-- What was still to come when the input ended. -/
inductive Expectation where
  | moreInput | statement | expression
  deriving DecidableEq, Repr, Inhabited

/-- A token that the grammar requires at some point. -/
inductive Requirement where
  /-- The name of the variable after `var`. -/
  | variableName
  /-- The end of a variable declaration. -/
  | endOfDeclaration
  /-- The end of a print statement. -/
  | endOfPrint
  /-- The end of an expression statement. -/
  | endOfExpression
  /-- The closing brace of a block. -/
  | endOfBlock
  /-- The parenthesis before the condition of a choice. -/
  | openBranchCondition
  /-- The parenthesis after the condition of a choice. -/
  | closeBranchCondition
  /-- The parenthesis before the condition of a loop. -/
  | openLoopCondition
  /-- The parenthesis after the condition of a loop. -/
  | closeLoopCondition
  /-- The parenthesis before the clauses of a counting loop. -/
  | openClauses
  /-- The end of the condition of a counting loop. -/
  | endOfClauseCondition
  /-- The parenthesis after the clauses of a counting loop. -/
  | closeClauses
  /-- The parenthesis that closes a grouping. -/
  | closeGrouping
  deriving DecidableEq, Repr, Inhabited

/-- A statement that cannot be the body of a counting loop with an increment. -/
inductive LoopBody where
  | branch | loop
  deriving DecidableEq, Repr, Inhabited

/-- Tokens that are not a program. -/
inductive SyntaxCause where
  /-- The input ends too early. -/
  | unexpectedEnd (expected : Expectation)
  /-- A token that writes no operator. -/
  | notAnOperator (token : Token)
  /-- A token that begins no expression. -/
  | expectedExpression (token : Token)
  /-- An assignment to something other than a variable. -/
  | invalidTarget (equals : Token)
  /-- Another token, or the end of the input, in place of a required one. -/
  | missing (required : Requirement) (found : Option Token)
  /-- A counting loop whose increment cannot be joined to its body. -/
  | loopBody (body : LoopBody)
  deriving DecidableEq, Inhabited

/-- A statement that cannot be carried out. -/
inductive RuntimeCause where
  /-- A second declaration of a variable in one scope. -/
  | alreadyDefined (name : String) (token : Token)
  /-- A variable that no enclosing scope declares. -/
  | undefined (name : String) (token : Token)
  /-- An assignment to a token that is not a name. -/
  | notAssignable (token : Token)
  /-- Operands that the operator does not accept. -/
  | invalidOperands (operator : Operator)
  /-- An operator that cannot stand before an operand. -/
  | invalidUnary (operator : Operator)
  /-- An operator that does not accept the value after it. -/
  | invalidOperand (operator : Operator) (value : Value)
  deriving DecidableEq, Inhabited

namespace LexicalCause

/-- The code of a cause. -/
def code : LexicalCause → String
  | unexpectedCharacter _ => "E001"
  | unterminatedString => "E002"
  | invalidNumber _ => "E003"

/-- Why a number literal has no value. -/
def numberReason (lexeme : String) : String := "could not convert string to float: " ++ quoted lexeme

/-- The message for a cause. -/
def message : LexicalCause → String
  | unexpectedCharacter c => "unexpected character '" ++ c.toString ++ "'"
  | unterminatedString => "unterminated string literal"
  | invalidNumber lexeme => "invalid number literal '" ++ lexeme ++ "': " ++ numberReason lexeme

/-- The hints for a cause. -/
def hints : LexicalCause → List String
  | unterminatedString => ["string literals must be closed with a matching '\"'"]
  | _ => []

end LexicalCause

namespace Expectation

/-- How messages speak of what was still to come. -/
def text : Expectation → String
  | moreInput => "more input"
  | statement => "a statement"
  | expression => "expression"

end Expectation

namespace Requirement

/-- The kind of token that is required. -/
def kind : Requirement → Kind
  | variableName => .identifier
  | endOfDeclaration | endOfPrint | endOfExpression | endOfClauseCondition => .semicolon
  | endOfBlock => .rightBrace
  | openBranchCondition | openLoopCondition | openClauses => .leftParen
  | closeBranchCondition | closeLoopCondition | closeClauses | closeGrouping => .rightParen

/-- The message when the token is missing. -/
def message : Requirement → String
  | variableName => "expected variable name"
  | endOfDeclaration => "expected ';' after variable declaration"
  | endOfPrint => "expected ';' after value"
  | endOfExpression => "expected ';' after expression"
  | endOfBlock => "expected '\x7d' at end of block"
  | openBranchCondition => "expected '(' after 'if'"
  | closeBranchCondition => "expected ')' after if condition"
  | openLoopCondition => "expected '(' after 'while'"
  | closeLoopCondition => "expected ')' after while condition"
  | openClauses => "expected '(' after 'for'"
  | endOfClauseCondition => "expected ';' after loop condition"
  | closeClauses => "expected ')' after for clauses"
  | closeGrouping => "expected ')' after expression"

end Requirement

namespace LoopBody

/-- How messages speak of a body. -/
def text : LoopBody → String
  | branch => "if statement"
  | loop => "while statement"

end LoopBody

namespace SyntaxCause

/-- The code of a cause. -/
def code : SyntaxCause → String
  | unexpectedEnd _ => "E101"
  | notAnOperator _ => "E102"
  | expectedExpression _ => "E103"
  | invalidTarget _ => "E104"
  | missing .. => "E105"
  | loopBody _ => "E106"

/-- The message for a cause. -/
def message : SyntaxCause → String
  | unexpectedEnd expected => "unexpected end of input, expected " ++ expected.text
  | notAnOperator token => "'" ++ token.lexeme ++ "' is not an operator"
  | expectedExpression token => "expected expression, found " ++ token.kind.describe
  | invalidTarget _ => "invalid assignment target"
  | missing required _ => required.message
  | loopBody body => "unexpected " ++ body.text ++ " as for-loop body"

/-- The hints for a cause. -/
def hints : SyntaxCause → List String
  | invalidTarget _ => ["only a variable name may appear on the left of '='"]
  | loopBody _ => ["wrap the loop body in '\x7b \x7d'"]
  | _ => []

end SyntaxCause

namespace RuntimeCause

/-- The code of a cause. -/
def code : RuntimeCause → String
  | alreadyDefined .. => "E401"
  | undefined .. => "E402"
  | notAssignable _ => "E403"
  | invalidOperands _ => "E404"
  | invalidUnary _ => "E405"
  | invalidOperand .. => "E406"

/-- What a binary operator expects of its operands. -/
def expectedOperands : String := "two numbers"

/-- The message for a cause. -/
def message : RuntimeCause → String
  | alreadyDefined name _ => "variable '" ++ name ++ "' is already defined"
  | undefined name _ => "undefined variable '" ++ name ++ "'"
  | notAssignable token => "cannot assign a value to " ++ token.kind.describe
  | invalidOperands operator =>
    "invalid operands for '" ++ operator.symbol.spelling ++ "', expected " ++ expectedOperands
  | invalidUnary operator => "invalid operator '" ++ operator.symbol.spelling ++ "'"
  | invalidOperand operator value =>
    "invalid operator '" ++ operator.symbol.spelling ++ "' for value " ++ value.display

/-- The place of a cause: that of its token, or of its operator. -/
def span : RuntimeCause → Span
  | alreadyDefined _ token | undefined _ token | notAssignable token => token.span
  | invalidOperands operator | invalidUnary operator | invalidOperand operator _ =>
    Span.single operator.position

end RuntimeCause

/-- What is wrong with a program, at whichever stage it was met. -/
inductive Cause where
  /-- Met while cutting the source into tokens. -/
  | lexical (cause : LexicalCause)
  /-- Met while reading the tokens as statements. -/
  | grammatical (cause : SyntaxCause)
  /-- Met while carrying out a statement. -/
  | runtime (cause : RuntimeCause)
  deriving DecidableEq, Inhabited

namespace Cause

/-- The code of a cause. -/
def code : Cause → String
  | lexical c => c.code
  | grammatical c => c.code
  | runtime c => c.code

/-- The message for a cause. -/
def message : Cause → String
  | lexical c => c.message
  | grammatical c => c.message
  | runtime c => c.message

/-- The hints for a cause. -/
def hints : Cause → List String
  | lexical c => c.hints
  | grammatical c => c.hints
  | runtime _ => []

end Cause

/-- A cause at a place of a source. -/
structure Fault (κ : Type) where
  /-- What is wrong. -/
  cause : κ
  /-- The place it is about. -/
  span : Span
  /-- The source line in which the place starts, if it is known. -/
  sourceLine : Option String := none
  deriving DecidableEq, Inhabited

namespace Fault

/-- The same fault with its cause seen in another family. -/
def map {κ κ' : Type} (f : κ → κ') (fault : Fault κ) : Fault κ' :=
  { cause := f fault.cause, span := fault.span, sourceLine := fault.sourceLine }

/-- The fault with its source line taken from `lines`, unless it has one already. -/
def quote {κ : Type} (fault : Fault κ) (lines : List String) : Fault κ :=
  match fault.sourceLine with
  | some _ => fault
  | none => { fault with sourceLine := Lines.get? lines fault.span.start.line }

/-- Quoting a line leaves the cause of a fault alone. -/
@[simp] theorem cause_quote {κ : Type} (fault : Fault κ) (lines : List String) :
    (fault.quote lines).cause = fault.cause := by
  rw [quote]
  split <;> rfl

/-- Quoting a line leaves the place of a fault alone. -/
@[simp] theorem span_quote {κ : Type} (fault : Fault κ) (lines : List String) :
    (fault.quote lines).span = fault.span := by
  rw [quote]
  split <;> rfl

/-- The diagnostic that shows a fault. -/
def diagnostic (fault : Fault Cause) : Diagnostic where
  code := fault.cause.code
  message := fault.cause.message
  severity := .error
  span := fault.span
  sourceLine := fault.sourceLine
  hints := fault.cause.hints

end Fault

end LoxScript
