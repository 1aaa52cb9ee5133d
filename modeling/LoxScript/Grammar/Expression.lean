import LoxScript.Grammar.Reading
import LoxScript.Tree

/-! # Reading expressions
From the loosest to the tightest: assignment, which groups to the right and takes only a variable as its
target; the binary operators on four levels, which group to the left; the operators before an operand; and
literals, variables and groupings. The levels of binary operators are read by one function, which takes the
lowest level it may use: after an operator it reads an operand from the levels above. -/

namespace LoxScript

/-- The operator that a token writes; a token of another kind is at fault. -/
def Operator.ofToken (t : Token) : Except (Fault SyntaxCause) Operator :=
  match ofToken? t with
  | some operator => .ok operator
  | none => .error ⟨.notAnOperator t, t.span, none⟩

namespace Grammar

/-- How tightly a kind of token binds the operands beside it, from equality at one to products at four; the
others do not join operands. -/
def precedence? : Kind → Option Nat
  | .equalEqual | .bangEqual => some 1
  | .less | .lessEqual | .greater | .greaterEqual => some 2
  | .plus | .minus => some 3
  | .star | .slash => some 4
  | _ => none

/-- The kinds of token that may stand before an operand. -/
def unaryOperators : List Kind := [.bang, .minus]

/-- The expression that one token is by itself. -/
def atom? (t : Token) : Option Expr :=
  match t.kind with
  | .number =>
    match t.datum with
    | some (.number x) => some (.literal (.number x))
    | _ => none
  | .string => some (.literal (.text t.text))
  | .trueWord => some (.literal (.boolean true))
  | .falseWord => some (.literal (.boolean false))
  | .nilWord => some (.literal .nil)
  | .identifier => some (.reference t)
  | _ => none

/-- An assignment to what was read before the equals sign. -/
def assignTo (equals : Token) (target value : Expr) : Except (Fault SyntaxCause) Expr :=
  match target with
  | .reference name => .ok (.assign name value)
  | _ => .error ⟨.invalidTarget equals, equals.span, none⟩

mutual

/-- Reads an expression: an assignment, or an operand of one. -/
def expression (fin : Span) (tokens : List Token) : Reading Expr tokens :=
  (binary fin 1 tokens).andThen fun target rest behind =>
    match rest, behind with
    | [], behind => .done target [] behind
    | t :: more, behind =>
      if t.kind = .equal then
        ((expression fin more).within behind.next).andThen
          fun value left behind' =>
            match assignTo t target value with
            | .ok e => .done e left behind'
            | .error fault => .failed fault left behind'.suffix
      else .done target (t :: more) behind
termination_by (tokens.length, 3)
decreasing_by
  · exact Prod.Lex.right _ (by decide)
  · exact Prod.Lex.left _ _ (Behind.tail.trans_suffix behind.suffix).length_lt

/-- Reads operands joined by operators of at least the level `lowest`. -/
def binary (fin : Span) (lowest : Nat) (tokens : List Token) : Reading Expr tokens :=
  (unary fin tokens).andThen fun left rest behind => climb fin lowest tokens left rest behind
termination_by (tokens.length, 2)
decreasing_by
  · exact Prod.Lex.right _ (by decide)
  · exact Prod.Lex.left _ _ behind.length_lt

/-- Goes on after the operand `left` as long as an operator of at least the level `lowest` follows. Which
operator it is is asked only behind its right operand. -/
def climb (fin : Span) (lowest : Nat) (tokens : List Token) (left : Expr) (rest : List Token)
    (behind : Behind rest tokens) : Reading Expr tokens :=
  match rest, behind with
  | [], behind => .done left [] behind
  | t :: more, behind =>
    match precedence? t.kind with
    | none => .done left (t :: more) behind
    | some level =>
      if level < lowest then .done left (t :: more) behind
      else
        (binary fin (level + 1) more).thenWithin behind.next
          fun right after beyond =>
            match Operator.ofToken t with
            | .ok operator =>
              climb fin lowest tokens (.binary left operator right) after
                (beyond.trans_suffix behind.next)
            | .error fault => .failed fault after (beyond.trans_suffix behind.next).suffix
termination_by (rest.length, 1)
decreasing_by
  · exact Prod.Lex.left _ _ (by simp)
  · exact Prod.Lex.left _ _ (Nat.lt_trans beyond.length_lt (by simp))

/-- Reads an operand with the operators before it. Which operator it is is asked only behind the operand. -/
def unary (fin : Span) (tokens : List Token) : Reading Expr tokens :=
  match tokens with
  | [] => primary fin []
  | t :: rest =>
    if t.kind ∈ unaryOperators then
      ((unary fin rest).andThen fun operand left behind =>
        match Operator.ofToken t with
        | .ok operator => .done (.unary operator operand) left behind
        | .error fault => .failed fault left behind.suffix).within (List.suffix_cons _ _)
    else primary fin (t :: rest)
termination_by (tokens.length, 1)
decreasing_by
  · exact Prod.Lex.right _ (by decide)
  · exact Prod.Lex.left _ _ (by simp)
  · exact Prod.Lex.right _ (by decide)

/-- Reads a literal, a variable or a grouping. -/
def primary (fin : Span) (tokens : List Token) : Reading Expr tokens :=
  match tokens with
  | [] => .failed ⟨.unexpectedEnd .expression, fin, none⟩ [] (List.suffix_refl _)
  | t :: rest =>
    match atom? t with
    | some e => .done e rest Behind.tail
    | none =>
      if t.kind = .leftParen then
        ((expression fin rest).andThen fun inner left behind =>
          ((require fin .closeGrouping left).within behind.suffix).map fun _ =>
            Expr.grouping inner).within (List.suffix_cons _ _)
      else .failed ⟨.expectedExpression t, t.span, none⟩ rest (List.suffix_cons _ _)
termination_by (tokens.length, 0)
decreasing_by exact Prod.Lex.left _ _ (by simp)

end

/-- Reads an expression and the token required after it. -/
def expressionThen (fin : Span) (required : Requirement) (tokens : List Token) : Reading Expr tokens :=
  (expression fin tokens).andThen fun e rest behind =>
    ((require fin required rest).within behind.suffix).map fun _ => e

end Grammar

end LoxScript
