import LoxScript.Grammar.Expression
import LoxScript.Tree.CountingLoop

/-! # Reading statements
A declaration is a variable declaration or a statement. The first token tells which statement follows; what
begins with no word of a statement is an expression statement. An alternative belongs to the innermost
choice that can take it. -/

namespace LoxScript.Grammar

/-- Reads what follows the word `var`. -/
def variableDeclaration (fin : Span) (tokens : List Token) : Reading Stmt tokens :=
  (require fin .variableName tokens).andThen fun name rest behind =>
    match rest, behind with
    | [], behind =>
      ((require fin .endOfDeclaration []).within behind.suffix).map fun _ => .declare name none
    | t :: more, behind =>
      if t.kind = .equal then
        ((expressionThen fin .endOfDeclaration more).within behind.next).map fun e => .declare name (some e)
      else
        ((require fin .endOfDeclaration (t :: more)).within behind.suffix).map fun _ =>
          .declare name none

/-- Reads a condition between its parentheses. -/
def condition (fin : Span) (opening closing : Requirement) (tokens : List Token) :
    Reading Expr tokens :=
  (require fin opening tokens).andThen fun _ rest behind =>
    (expressionThen fin closing rest).within behind.suffix

/-- Reads the first clause of a counting loop: nothing, a variable declaration or an
expression, with its semicolon. -/
def initialClause (fin : Span) (tokens : List Token) : Reading (Option Stmt) tokens :=
  match tokens with
  | [] => (expressionThen fin .endOfExpression []).map fun e => some (.expression e)
  | t :: rest =>
    if t.kind = .semicolon then .done none rest Behind.tail
    else if t.kind = .varWord then
      ((variableDeclaration fin rest).within (List.suffix_cons _ _)).map some
    else (expressionThen fin .endOfExpression (t :: rest)).map fun e => some (.expression e)

/-- Reads another clause of a counting loop: nothing or an expression, with the token after it. -/
def clause (fin : Span) (required : Requirement) (tokens : List Token) :
    Reading (Option Expr) tokens :=
  match tokens with
  | [] => (expressionThen fin required []).map some
  | t :: rest =>
    if t.kind = required.kind then .done none rest Behind.tail
    else (expressionThen fin required (t :: rest)).map some

/-- The three clauses of a counting loop. -/
structure Clauses where
  /-- The statement carried out first. -/
  initial : Option Stmt
  /-- The condition tested before each pass. -/
  condition : Option Expr
  /-- The expression evaluated after each pass. -/
  increment : Option Expr

/-- Reads the clauses of a counting loop between their parentheses. -/
def clauses (fin : Span) (tokens : List Token) : Reading Clauses tokens :=
  (require fin .openClauses tokens).andThen fun _ rest₁ h₁ =>
    ((initialClause fin rest₁).within h₁.suffix).andThen fun initial rest₂ h₂ =>
      ((clause fin .endOfClauseCondition rest₂).within h₂.suffix).andThen fun condition rest₃ h₃ =>
        ((clause fin .closeClauses rest₃).within h₃.suffix).map fun increment =>
          ⟨initial, condition, increment⟩

mutual

/-- Reads a statement. -/
def statement (fin : Span) (tokens : List Token) : Reading Stmt tokens :=
  match tokens with
  | [] => .failed ⟨.unexpectedEnd .statement, fin, none⟩ [] (List.suffix_refl _)
  | t :: rest =>
    match t.kind with
    | .printWord => ((expressionThen fin .endOfPrint rest).map .print).within (List.suffix_cons _ _)
    | .leftBrace => ((blockItems fin rest).map .block).within (List.suffix_cons _ _)
    | .ifWord => (branch fin rest).within (List.suffix_cons _ _)
    | .whileWord =>
      ((condition fin .openLoopCondition .closeLoopCondition rest).andThen fun test left behind =>
        ((statement fin left).within behind.suffix).map fun body =>
          .loop test body).within (List.suffix_cons _ _)
    | .forWord =>
      ((clauses fin rest).andThen fun parts left behind =>
        ((statement fin left).within behind.suffix).andThen fun body after beyond =>
          match CountingLoop.expand parts.initial parts.condition parts.increment body with
          | .ok s => .done s after beyond
          | .error refused =>
            .failed ⟨.loopBody refused, t.span, none⟩ after beyond.suffix).within (List.suffix_cons _ _)
    | _ => (expressionThen fin .endOfExpression (t :: rest)).map .expression
termination_by (tokens.length, 0)
decreasing_by
  · exact Prod.Lex.left _ _ (by simp)
  · exact Prod.Lex.left _ _ (by simp)
  · exact Prod.Lex.left _ _ (Nat.lt_trans behind.length_lt (by simp))
  · exact Prod.Lex.left _ _ (Nat.lt_trans behind.length_lt (by simp))

/-- Reads what follows the word `if`: a condition, a statement and perhaps an alternative. -/
def branch (fin : Span) (tokens : List Token) : Reading Stmt tokens :=
  (condition fin .openBranchCondition .closeBranchCondition tokens).andThen fun test rest behind =>
    ((statement fin rest).within behind.suffix).andThen fun consequent left beyond =>
      match left, beyond with
      | [], beyond => .done (.branch test consequent none) [] beyond
      | t :: more, beyond =>
        if t.kind = .elseWord then
          ((statement fin more).within beyond.next).map
            fun alternative => .branch test consequent (some alternative)
        else .done (.branch test consequent none) (t :: more) beyond
termination_by (tokens.length, 1)
decreasing_by
  · exact Prod.Lex.left _ _ behind.length_lt
  · exact Prod.Lex.left _ _ (Behind.tail.trans_suffix beyond.suffix).length_lt

/-- Reads a variable declaration or a statement. -/
def declaration (fin : Span) (tokens : List Token) : Reading Stmt tokens :=
  match tokens with
  | [] => statement fin []
  | t :: rest =>
    if t.kind = .varWord then (variableDeclaration fin rest).within (List.suffix_cons _ _)
    else statement fin (t :: rest)
termination_by (tokens.length, 1)
decreasing_by
  · exact Prod.Lex.right _ (by decide)
  · exact Prod.Lex.right _ (by decide)

/-- Reads the declarations of a block and its closing brace. -/
def blockItems (fin : Span) (tokens : List Token) : Reading (List Stmt) tokens :=
  match tokens with
  | [] => (require fin .endOfBlock []).map fun _ => []
  | t :: rest =>
    if t.kind = .rightBrace then .done [] rest Behind.tail
    else
      (declaration fin (t :: rest)).andThen fun first left behind =>
        ((blockItems fin left).within behind.suffix).map fun others => first :: others
termination_by (tokens.length, 2)
decreasing_by
  · exact Prod.Lex.right _ (by decide)
  · exact Prod.Lex.left _ _ behind.length_lt

end

end LoxScript.Grammar
