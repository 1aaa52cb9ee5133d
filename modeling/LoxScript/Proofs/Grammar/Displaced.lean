import LoxScript.Proofs.Grammar.FaultOrder
import LoxScript.Proofs.Grammar.Relocated

/-! # Readings of tokens that are moved

No reading looks at a place. Tokens that are moved are read as the same phrases, moved along with them, or
refused with the same faults, moved as well.

* **`SyntaxCause.moved`**, **`Fault.displaced`** — faults of reading at their new places.
* **`relocate`** — the outcome of a reading at its new place, which composition respects (`relocate_bind`).
* **`Relocates.all`** — expressions; **`StatementsRelocate.all`** — statements.
* **`readProgram_moved`** — whole programs, with all of their faults. -/

namespace LoxScript

section

variable (r : Relocation)

/-- A token somewhere else is of the same kind. -/
theorem Token.kind_moved (t : Token) : (t.moved r).kind = t.kind := rfl

/-- The cause with its token at its new place. -/
def SyntaxCause.moved : SyntaxCause → SyntaxCause
  | unexpectedEnd expected => unexpectedEnd expected
  | notAnOperator token => notAnOperator (token.moved r)
  | expectedExpression token => expectedExpression (token.moved r)
  | invalidTarget equals => invalidTarget (equals.moved r)
  | missing required found => missing required (found.map (Token.moved r))
  | loopBody body => loopBody body

/-- A cause about tokens somewhere else has the same code. -/
@[simp] theorem SyntaxCause.code_moved (c : SyntaxCause) : (c.moved r).code = c.code := by
  cases c <;> rfl

/-- It has the same message. -/
@[simp] theorem SyntaxCause.message_moved (c : SyntaxCause) : (c.moved r).message = c.message := by
  cases c <;> rfl

/-- The fault of reading at its new place. -/
def Fault.displaced (fault : Fault SyntaxCause) : Fault SyntaxCause :=
  ⟨fault.cause.moved r, fault.span.moved r, fault.sourceLine⟩

end

namespace Grammar

/-! ## Outcomes -/

section Outcomes

variable (r : Relocation) {α β γ δ : Type}

/-- **The outcome at its new place**: the phrase changed by `f`, or the fault moved, and the tokens left moved
in either case. -/
def relocate (f : α → β) : Outcome α → Outcome β
  | .ok a left => .ok (f a) (left.map (Token.moved r))
  | .error fault left => .error (fault.displaced r) (left.map (Token.moved r))

/-- Moving an outcome is moving its parts. -/
theorem relocate_bind {f : α → β} {g : γ → δ} {o : Outcome α} {next : α → List Token → Outcome γ}
    {next' : β → List Token → Outcome δ}
    (behind : ∀ a left, o = .ok a left → next' (f a) (left.map (Token.moved r)) = relocate r g (next a left)) :
    (relocate r f o).bind next' = relocate r g (o.bind next) := by
  cases o with
  | ok a left => exact behind a left rfl
  | error fault left => rfl

/-- A phrase that is only wrapped is moved inside its wrapping. -/
theorem relocate_map {f : α → β} {g : γ → δ} {o : Outcome α} {wrap : α → γ} {wrap' : β → δ}
    (wrapped : ∀ a, wrap' (f a) = g (wrap a)) :
    ((relocate r f o).bind fun b left => .ok (wrap' b) left) =
      relocate r g (o.bind fun a left => .ok (wrap a) left) := by
  refine relocate_bind r fun a left _ => ?_
  rw [wrapped]
  rfl

/-- A result that is settled is relocated as a result. -/
theorem relocate_settle {f : α → β} (result : Except (Fault SyntaxCause) α) (left : List Token) :
    relocate r f (.settle result left) =
      .settle ((result.map f).mapError (Fault.displaced r)) (left.map (Token.moved r)) := by
  cases result <;> rfl

end Outcomes

/-! ## Expressions -/

section Expressions

variable (r : Relocation) (fin : Span)

/-- A token is the same atom wherever it is. -/
theorem atom?_moved (t : Token) : atom? (t.moved r) = (atom? t).map (Expr.moved r) := by
  obtain ⟨kind, datum, lexeme, span⟩ := t
  cases kind
  case number =>
    rcases datum with - | x | s <;> rfl
  all_goals rfl

/-- It writes the same operator, somewhere else. -/
theorem ofToken?_moved (t : Token) :
    Operator.ofToken? (t.moved r) = (Operator.ofToken? t).map (Operator.moved r) := by
  rw [Operator.ofToken?, Operator.ofToken?, Token.kind_moved]
  cases Symbol.ofKind? t.kind with
  | none => rfl
  | some symbol => exact congrArg some (Operator.moved_of_token r symbol t).symm

/-- It is the same prefix, somewhere else. -/
theorem unaryOperator?_moved (t : Token) :
    unaryOperator? (t.moved r) = (unaryOperator? t).map (Operator.moved r) := by
  rw [unaryOperator?, unaryOperator?, Token.kind_moved, ofToken?_moved]
  split <;> rfl

/-- It joins operands at the same level. -/
theorem joining?_moved (t : Token) :
    joining? (t.moved r) = (joining? t).map fun joined => (joined.1, joined.2.moved r) := by
  simp only [joining?, ofToken?_moved, Token.kind_moved]
  cases precedence? t.kind with
  | none => rfl
  | some level => cases Operator.ofToken? t <;> rfl

/-- What can be assigned to does not depend on places; a refusal is at the equals sign. -/
theorem assignTo_moved (t : Token) (target value : Expr) :
    assignTo (t.moved r) (target.moved r) (value.moved r) =
      ((assignTo t target value).map (Expr.moved r)).mapError (Fault.displaced r) := by
  cases target <;> rfl

/-- A required token is found or missed alike. At the end of the input it is missed at the end. -/
theorem requiring_moved (required : Requirement) (tokens : List Token) :
    requiring (fin.moved r) required (tokens.map (Token.moved r)) =
      relocate r (Token.moved r) (requiring fin required tokens) := by
  cases tokens with
  | nil => rfl
  | cons t rest =>
    rw [List.map_cons, requiring, requiring, Token.kind_moved]
    by_cases kind : t.kind = required.kind
    · rw [if_pos kind, if_pos kind]
      rfl
    · rw [if_neg kind, if_neg kind]
      rfl

/-- A required token behind which nothing more is read. -/
theorem requiring_then_moved {α β : Type} (f : α → β) (a : α) (required : Requirement) (tokens : List Token) :
    ((requiring (fin.moved r) required (tokens.map (Token.moved r))).bind fun _ left => .ok (f a) left) =
      relocate r f ((requiring fin required tokens).bind fun _ left => .ok a left) := by
  rw [requiring_moved]
  exact relocate_map r fun _ => rfl

/-- **Expressions and operands are moved with their tokens.** -/
structure Relocates (tokens : List Token) : Prop where
  expression : (expression (fin.moved r) (tokens.map (Token.moved r))).outcome =
    relocate r (Expr.moved r) (expression fin tokens).outcome
  operand : ∀ lowest, (binary (fin.moved r) lowest (tokens.map (Token.moved r))).outcome =
    relocate r (Expr.moved r) (binary fin lowest tokens).outcome
  prefixed : (unary (fin.moved r) (tokens.map (Token.moved r))).outcome =
    relocate r (Expr.moved r) (unary fin tokens).outcome

variable {r fin} {tokens : List Token}

/-- A primary, if all expressions from fewer tokens relocate. -/
theorem primary_moved (shorter : ∀ us, us.length < tokens.length → Relocates r fin us) :
    (primary (fin.moved r) (tokens.map (Token.moved r))).outcome =
      relocate r (Expr.moved r) (primary fin tokens).outcome := by
  cases tokens with
  | nil =>
    rw [List.map_nil, outcome_primary_nil, outcome_primary_nil]
    rfl
  | cons t rest =>
    rw [List.map_cons, outcome_primary_cons, outcome_primary_cons, atom?_moved]
    cases atom? t with
    | some e => rfl
    | none =>
      dsimp only [Option.map_none]
      rw [Token.kind_moved]
      by_cases paren : t.kind = .leftParen
      · rw [if_pos paren, if_pos paren,
          (shorter rest (Nat.lt_succ_self _)).expression]
        refine relocate_bind r fun inner left _ => ?_
        exact requiring_then_moved r fin (Expr.moved r) (.grouping inner) .closeGrouping left
      · rw [if_neg paren, if_neg paren]
        rfl

/-- An operand with its prefixes, if all expressions from fewer tokens relocate. -/
theorem unary_moved (shorter : ∀ us, us.length < tokens.length → Relocates r fin us) :
    (unary (fin.moved r) (tokens.map (Token.moved r))).outcome =
      relocate r (Expr.moved r) (unary fin tokens).outcome := by
  have atom := primary_moved shorter
  cases tokens with
  | nil =>
    rw [List.map_nil] at atom ⊢
    rw [outcome_unary_nil, outcome_unary_nil, atom]
  | cons t rest =>
    rw [List.map_cons] at atom ⊢
    rw [outcome_unary_cons, outcome_unary_cons, unaryOperator?_moved]
    cases unaryOperator? t with
    | none => exact atom
    | some operator =>
      dsimp only [Option.map_some]
      rw [(shorter rest (Nat.lt_succ_self _)).prefixed]
      exact relocate_map r fun _ => rfl

/-- The loop of precedence climbing moves what its operands move. -/
theorem climbing_moved {rest : List Token} (shorter : ∀ us, us.length < rest.length → Relocates r fin us)
    (lowest : Nat) (left : Expr) :
    climbing (fin.moved r) lowest (left.moved r) (rest.map (Token.moved r)) =
      relocate r (Expr.moved r) (climbing fin lowest left rest) := by
  -- Each pass takes an operator and its right operand.
  induction hn : rest.length using Nat.strongRecOn generalizing left rest with
  | ind n ih =>
    subst hn
    cases rest with
    | nil =>
      rw [List.map_nil, climbing_nil, climbing_nil]
      rfl
    | cons t others =>
      rw [List.map_cons, climbing_cons, climbing_cons, joining?_moved]
      cases joining? t with
      | none => rfl
      | some joined =>
        obtain ⟨level, operator⟩ := joined
        dsimp only [Option.map_some]
        by_cases low : level < lowest
        · rw [if_pos low, if_pos low]
          rfl
        · rw [if_neg low, if_neg low, (shorter others (Nat.lt_succ_self _)).operand]
          refine relocate_bind r fun right after read => ?_
          have fewer : after.length < (t :: others).length :=
            Nat.lt_succ_of_lt (Reading.behind_of_ok read).length_lt
          exact ih after.length fewer (fun us lt => shorter us (Nat.lt_trans lt fewer))
            (.binary left operator right) rfl

/-- **Expressions are moved with their tokens.** -/
theorem Relocates.all (tokens : List Token) : Relocates r fin tokens := by
  -- Every phrase inside a phrase begins behind a token of it.
  induction hn : tokens.length using Nat.strongRecOn generalizing tokens with
  | ind n ih =>
    subst hn
    have shorter : ∀ us, us.length < tokens.length → Relocates r fin us := fun us lt => ih us.length lt us rfl
    have prefixed := unary_moved shorter
    have operand : ∀ lowest, (binary (fin.moved r) lowest (tokens.map (Token.moved r))).outcome =
        relocate r (Expr.moved r) (binary fin lowest tokens).outcome := by
      intro lowest
      rw [outcome_binary, outcome_binary, prefixed]
      refine relocate_bind r fun left rest read => ?_
      have fewer := (Reading.behind_of_ok read).length_lt
      exact climbing_moved (fun us lt => shorter us (Nat.lt_trans lt fewer)) lowest left
    refine ⟨?_, operand, prefixed⟩
    rw [outcome_expression, outcome_expression, operand]
    refine relocate_bind r fun target rest read => ?_
    cases rest with
    | nil => rfl
    | cons t others =>
      have fewer : others.length < tokens.length :=
        Nat.lt_trans (Nat.lt_succ_self _) (Reading.behind_of_ok read).length_lt
      rw [List.map_cons]
      dsimp only
      rw [Token.kind_moved]
      by_cases equal : t.kind = .equal
      · rw [if_pos equal, if_pos equal, (shorter others fewer).expression]
        refine relocate_bind r fun value left _ => ?_
        rw [relocate_settle, assignTo_moved]
      · rw [if_neg equal, if_neg equal]
        rfl

variable (r fin) (tokens)

/-- An expression with the token behind it. -/
theorem expressionThen_moved (required : Requirement) :
    (expressionThen (fin.moved r) required (tokens.map (Token.moved r))).outcome =
      relocate r (Expr.moved r) (expressionThen fin required tokens).outcome := by
  rw [outcome_expressionThen, outcome_expressionThen, (Relocates.all tokens).expression]
  exact relocate_bind r fun e left _ => requiring_then_moved r fin (Expr.moved r) e required left

end Expressions

end Grammar

/-! ## Statements -/

namespace CountingLoop

variable (r : Relocation)

/-- The increment goes to the same place in the body. -/
theorem appendIncrement_moved (body : Stmt) (increment : Expr) :
    appendIncrement (body.moved r) (increment.moved r) =
      (appendIncrement body increment).map (Stmt.moved r) := by
  cases body with
  | block ss =>
    rw [Stmt.moved, appendIncrement, appendIncrement, Except.map, Stmt.moved, Stmt.movedAll_eq_map,
      Stmt.movedAll_eq_map, List.map_append, List.map_singleton, Stmt.moved]
  | expression e | print e =>
    simp only [Stmt.moved, appendIncrement, Except.map, Stmt.movedAll]
  | branch condition consequent alternative => cases alternative <;> rw [Stmt.moved] <;> rfl
  | declare name initial | loop condition body | misplaced e =>
    rw [Stmt.moved]
    rfl

/-- The block of a loop with its initial statement. -/
theorem block_moved (initial : Option Stmt) (condition : Option Expr) (body : Stmt) :
    (Stmt.block (initial.toList ++ [.loop (condition.getD (.literal (.boolean true))) body])).moved r =
      .block ((initial.map (Stmt.moved r)).toList ++
        [.loop ((condition.map (Expr.moved r)).getD (.literal (.boolean true))) (body.moved r)]) := by
  rw [Stmt.moved, Stmt.movedAll_eq_map, List.map_append, List.map_singleton, Stmt.moved]
  cases initial <;> cases condition <;> rfl

/-- A counting loop somewhere else is expanded to the same loop, or its body is refused alike. -/
theorem expand_moved (initial : Option Stmt) (condition increment : Option Expr) (body : Stmt) :
    expand (initial.map (Stmt.moved r)) (condition.map (Expr.moved r)) (increment.map (Expr.moved r))
        (body.moved r) =
      (expand initial condition increment body).map (Stmt.moved r) := by
  cases increment with
  | none => exact congrArg Except.ok (block_moved r initial condition body).symm
  | some e =>
    have appended := appendIncrement_moved r body e
    simp only [expand, Option.map_some, appended]
    cases appendIncrement body e with
    | error refused => rfl
    | ok extended => exact congrArg Except.ok (block_moved r initial condition extended).symm

end CountingLoop

namespace Grammar

/-- The clauses at their new places. -/
def Clauses.moved (r : Relocation) (parts : Clauses) : Clauses :=
  ⟨parts.initial.map (Stmt.moved r), parts.condition.map (Expr.moved r), parts.increment.map (Expr.moved r)⟩

section Statements

variable (r : Relocation) (fin : Span) (tokens : List Token)

/-- A declaration of a variable, behind its first word. -/
theorem variableDeclaration_moved :
    (variableDeclaration (fin.moved r) (tokens.map (Token.moved r))).outcome =
      relocate r (Stmt.moved r) (variableDeclaration fin tokens).outcome := by
  rw [outcome_variableDeclaration, outcome_variableDeclaration, requiring_moved]
  refine relocate_bind r fun name left _ => ?_
  have bare : Stmt.declare (name.moved r) none = (Stmt.declare name none).moved r := by rw [Stmt.moved]; rfl
  cases left with
  | nil =>
    rw [List.map_nil]
    dsimp only
    rw [bare]
    exact requiring_then_moved r fin (Stmt.moved r) (.declare name none) .endOfDeclaration []
  | cons t rest =>
    rw [List.map_cons]
    dsimp only
    rw [Token.kind_moved]
    by_cases equal : t.kind = .equal
    · rw [if_pos equal, if_pos equal, expressionThen_moved]
      exact relocate_map r fun e => by rw [Stmt.moved]; rfl
    · rw [if_neg equal, if_neg equal, bare]
      exact requiring_then_moved r fin (Stmt.moved r) (.declare name none) .endOfDeclaration (t :: rest)

/-- A condition in parentheses. -/
theorem condition_moved (opening closing : Requirement) :
    (condition (fin.moved r) opening closing (tokens.map (Token.moved r))).outcome =
      relocate r (Expr.moved r) (condition fin opening closing tokens).outcome := by
  rw [outcome_condition, outcome_condition, requiring_moved]
  exact relocate_bind r fun _ left _ => expressionThen_moved r fin left closing

/-- The first clause of a counting loop. -/
theorem initialClause_moved :
    (initialClause (fin.moved r) (tokens.map (Token.moved r))).outcome =
      relocate r (Option.map (Stmt.moved r)) (initialClause fin tokens).outcome := by
  have written : ∀ us, ((expressionThen (fin.moved r) .endOfExpression (us.map (Token.moved r))).outcome.bind
      fun e left => .ok (some (Stmt.expression e)) left) = relocate r (Option.map (Stmt.moved r))
        ((expressionThen fin .endOfExpression us).outcome.bind fun e left => .ok (some (.expression e)) left) := by
    intro us
    rw [expressionThen_moved]
    exact relocate_map r fun e => by rw [Option.map_some, Stmt.moved]
  cases tokens with
  | nil =>
    rw [List.map_nil, outcome_initialClause_nil, outcome_initialClause_nil]
    exact written []
  | cons t rest =>
    rw [List.map_cons, outcome_initialClause_cons, outcome_initialClause_cons, Token.kind_moved]
    by_cases semicolon : t.kind = .semicolon
    · rw [if_pos semicolon, if_pos semicolon]
      rfl
    · rw [if_neg semicolon, if_neg semicolon]
      by_cases var : t.kind = .varWord
      · rw [if_pos var, if_pos var, variableDeclaration_moved]
        exact relocate_map r fun _ => rfl
      · rw [if_neg var, if_neg var]
        exact written (t :: rest)

/-- Its second or third clause. -/
theorem clause_moved (required : Requirement) :
    (clause (fin.moved r) required (tokens.map (Token.moved r))).outcome =
      relocate r (Option.map (Expr.moved r)) (clause fin required tokens).outcome := by
  have written : ∀ us, ((expressionThen (fin.moved r) required (us.map (Token.moved r))).outcome.bind
      fun e left => .ok (some e) left) = relocate r (Option.map (Expr.moved r))
        ((expressionThen fin required us).outcome.bind fun e left => .ok (some e) left) := by
    intro us
    rw [expressionThen_moved]
    exact relocate_map r fun _ => rfl
  cases tokens with
  | nil =>
    rw [List.map_nil, outcome_clause_nil, outcome_clause_nil]
    exact written []
  | cons t rest =>
    rw [List.map_cons, outcome_clause_cons, outcome_clause_cons, Token.kind_moved]
    by_cases kind : t.kind = required.kind
    · rw [if_pos kind, if_pos kind]
      rfl
    · rw [if_neg kind, if_neg kind]
      exact written (t :: rest)

/-- All three of its clauses. -/
theorem clauses_moved :
    (clauses (fin.moved r) (tokens.map (Token.moved r))).outcome =
      relocate r (Clauses.moved r) (clauses fin tokens).outcome := by
  rw [outcome_clauses, outcome_clauses, requiring_moved]
  refine relocate_bind r fun _ rest₁ _ => ?_
  rw [initialClause_moved]
  refine relocate_bind r fun initial rest₂ _ => ?_
  rw [clause_moved]
  refine relocate_bind r fun condition rest₃ _ => ?_
  rw [clause_moved]
  exact relocate_map r fun _ => rfl

/-- **Statements and declarations are moved with their tokens.** -/
structure StatementsRelocate : Prop where
  statement : (statement (fin.moved r) (tokens.map (Token.moved r))).outcome =
    relocate r (Stmt.moved r) (statement fin tokens).outcome
  branch : (branch (fin.moved r) (tokens.map (Token.moved r))).outcome =
    relocate r (Stmt.moved r) (branch fin tokens).outcome
  declaration : (declaration (fin.moved r) (tokens.map (Token.moved r))).outcome =
    relocate r (Stmt.moved r) (declaration fin tokens).outcome
  items : (blockItems (fin.moved r) (tokens.map (Token.moved r))).outcome =
    relocate r (Stmt.movedAll r) (blockItems fin tokens).outcome

variable {r fin tokens}

/-- A statement, if all statements from fewer tokens relocate. -/
theorem statement_moved (shorter : ∀ us, us.length < tokens.length → StatementsRelocate r fin us) :
    (statement (fin.moved r) (tokens.map (Token.moved r))).outcome =
      relocate r (Stmt.moved r) (statement fin tokens).outcome := by
  cases tokens with
  | nil =>
    rw [List.map_nil, outcome_statement_nil, outcome_statement_nil]
    rfl
  | cons t rest =>
    have whole := expressionThen_moved r fin (t :: rest) .endOfExpression
    rw [List.map_cons] at whole ⊢
    rw [outcome_statement_cons, outcome_statement_cons, Token.kind_moved]
    -- Moving keeps the kinds of tokens, so both sides read the same form of statement.
    cases kind : t.kind
    case printWord =>
      dsimp only
      rw [expressionThen_moved]
      exact relocate_map r fun e => by rw [Stmt.moved]
    case leftBrace =>
      dsimp only
      rw [(shorter rest (Nat.lt_succ_self _)).items]
      exact relocate_map r fun ss => by rw [Stmt.moved]
    case ifWord => exact (shorter rest (Nat.lt_succ_self _)).branch
    case whileWord =>
      dsimp only
      rw [condition_moved]
      refine relocate_bind r fun test left read => ?_
      rw [(shorter left (Nat.lt_succ_of_lt (Reading.behind_of_ok read).length_lt)).statement]
      exact relocate_map r fun body => by rw [Stmt.moved]
    case forWord =>
      dsimp only
      rw [clauses_moved]
      refine relocate_bind r fun parts left read => ?_
      rw [(shorter left (Nat.lt_succ_of_lt (Reading.behind_of_ok read).length_lt)).statement]
      refine relocate_bind r fun body after _ => ?_
      -- An increment that the body refuses is refused in the moved loop too, at the moved place.
      have expanded := CountingLoop.expand_moved r parts.initial parts.condition parts.increment body
      rw [relocate_settle, Clauses.moved, expanded]
      cases CountingLoop.expand parts.initial parts.condition parts.increment body <;> rfl
    all_goals
      dsimp only
      rw [whole]
      exact relocate_map r fun e => by rw [Stmt.moved]

/-- A branch behind its first word; an `else` is recognised by its kind. -/
theorem branch_moved (shorter : ∀ us, us.length < tokens.length → StatementsRelocate r fin us) :
    (branch (fin.moved r) (tokens.map (Token.moved r))).outcome =
      relocate r (Stmt.moved r) (branch fin tokens).outcome := by
  rw [outcome_branch, outcome_branch, condition_moved]
  refine relocate_bind r fun test rest read => ?_
  have behind := Reading.behind_of_ok read
  rw [(shorter rest behind.length_lt).statement]
  refine relocate_bind r fun consequent left read' => ?_
  have bare : Stmt.branch (test.moved r) (consequent.moved r) none =
      (Stmt.branch test consequent none).moved r := by
    rw [Stmt.moved]
  -- What stands behind the consequent decides: nothing, an `else`, or another statement.
  cases left with
  | nil =>
    rw [List.map_nil]
    dsimp only
    rw [bare]
    rfl
  | cons t more =>
    rw [List.map_cons]
    dsimp only
    rw [Token.kind_moved]
    by_cases alternative : t.kind = .elseWord
    · have fewer : more.length < tokens.length := Nat.lt_trans (Nat.lt_succ_self _)
        (Nat.lt_trans (Reading.behind_of_ok read').length_lt behind.length_lt)
      rw [if_pos alternative, if_pos alternative,
        (shorter more fewer).statement]
      exact relocate_map r fun other => by rw [Stmt.moved]
    · rw [if_neg alternative, if_neg alternative, bare]
      rfl

/-- A declaration, if all statements from fewer tokens relocate. -/
theorem declaration_moved (shorter : ∀ us, us.length < tokens.length → StatementsRelocate r fin us) :
    (declaration (fin.moved r) (tokens.map (Token.moved r))).outcome =
      relocate r (Stmt.moved r) (declaration fin tokens).outcome := by
  have plain := statement_moved shorter
  cases tokens with
  | nil =>
    rw [List.map_nil, outcome_declaration_nil, outcome_declaration_nil]
    rfl
  | cons t rest =>
    rw [List.map_cons] at plain ⊢
    rw [outcome_declaration_cons, outcome_declaration_cons, Token.kind_moved]
    by_cases var : t.kind = .varWord
    · rw [if_pos var, if_pos var]
      exact variableDeclaration_moved r fin rest
    · rw [if_neg var, if_neg var]
      exact plain

/-- The declarations of a block up to its brace, if all statements from fewer tokens relocate. -/
theorem blockItems_moved (shorter : ∀ us, us.length < tokens.length → StatementsRelocate r fin us) :
    (blockItems (fin.moved r) (tokens.map (Token.moved r))).outcome =
      relocate r (Stmt.movedAll r) (blockItems fin tokens).outcome := by
  have first := declaration_moved shorter
  cases tokens with
  | nil =>
    rw [List.map_nil, outcome_blockItems_nil, outcome_blockItems_nil]
    rfl
  | cons t rest =>
    rw [List.map_cons] at first ⊢
    rw [outcome_blockItems_cons, outcome_blockItems_cons, Token.kind_moved]
    by_cases brace : t.kind = .rightBrace
    · rw [if_pos brace, if_pos brace, relocate, Stmt.movedAll]
    · rw [if_neg brace, if_neg brace, first]
      refine relocate_bind r fun s left read => ?_
      rw [(shorter left (Reading.behind_of_ok read).length_lt).items]
      exact relocate_map r fun others => by rw [Stmt.movedAll]

/-- **Statements are moved with their tokens.** -/
theorem StatementsRelocate.all (tokens : List Token) : StatementsRelocate r fin tokens := by
  -- Every statement inside a statement begins behind a token of it.
  induction hn : tokens.length using Nat.strongRecOn generalizing tokens with
  | ind n ih =>
    subst hn
    have shorter : ∀ us, us.length < tokens.length → StatementsRelocate r fin us :=
      fun us lt => ih us.length lt us rfl
    exact ⟨statement_moved shorter, branch_moved shorter, declaration_moved shorter, blockItems_moved shorter⟩

end Statements

/-! ## Programs -/

section Programs

/-- Without lines to quote a fault stays as it is. -/
theorem quote_nil (fault : Fault SyntaxCause) : fault.quote [] = fault := by
  obtain ⟨cause, span, line⟩ := fault
  cases line with
  | some text => rfl
  | none =>
    have nothing : Lines.get? [] span.start.line = none := by
      rw [Lines.get?, List.getElem?_nil, ite_self]
    exact congrArg (Fault.mk cause span) nothing

variable (r : Relocation)

/-- What reading a program gives, at its new place. -/
def ProgramReading.moved (reading : ProgramReading) : ProgramReading :=
  ⟨reading.statements.map (Stmt.moved r), reading.faults.map (Fault.displaced r),
    reading.rest.map (Token.moved r)⟩

/-- Recovery skips the same tokens: it looks at their kinds only. -/
theorem resume_moved (previous : Option Token) (tokens : List Token) :
    resume (previous.map (Token.moved r)) (tokens.map (Token.moved r)) =
      (resume previous tokens).map (Token.moved r) := by
  induction tokens generalizing previous with
  | nil => rfl
  | cons t rest ih =>
    have same : (previous.map (Token.moved r)).any (·.kind == .semicolon) =
        previous.any (·.kind == .semicolon) := by
      cases previous <;> rfl
    rw [List.map_cons, resume, resume, same, Token.kind_moved]
    split
    · rfl
    · exact ih (some t)

/-- So it does behind a declaration that failed. -/
theorem recoverFrom_moved (first : Token) (more left : List Token) :
    recoverFrom (first.moved r) (more.map (Token.moved r)) (left.map (Token.moved r)) =
      (recoverFrom first more left).map (Token.moved r) := by
  simp only [recoverFrom, ← List.map_cons, ← List.map_take, List.length_map, List.getLast?_map]
  cases ((first :: more).take ((first :: more).length - left.length)).getLast? with
  | none => exact resume_moved r (some first) more
  | some last => exact resume_moved r (some last) left

/-- **A program is moved with its tokens**, with all of its faults. -/
theorem readProgram_moved (fin : Span) (limit found : Nat) (tokens : List Token) :
    readProgram (fin.moved r) none limit found (tokens.map (Token.moved r)) =
      (readProgram fin none limit found tokens).moved r := by
  -- Each declaration takes a token, read or not, so the tokens left get fewer.
  induction hn : tokens.length using Nat.strongRecOn generalizing tokens found with
  | ind n ih =>
    subst hn
    cases tokens with
    | nil =>
      rw [List.map_nil, readProgram, readProgram]
      rfl
    | cons t more =>
      have all : StatementsRelocate r fin (t :: more) := .all (t :: more)
      have moved := all.declaration
      rw [List.map_cons] at moved ⊢
      cases read : (declaration fin (t :: more)).outcome with
      | ok s rest =>
        rw [read, relocate] at moved
        rw [readProgram_of_declaration _ _ _ _ moved, readProgram_of_declaration _ _ _ _ read,
          ih _ (Reading.behind_of_ok read).length_lt found rest rfl]
        rfl
      | error bare left =>
        rw [read, relocate] at moved
        rw [readProgram_of_fault _ _ _ _ moved, readProgram_of_fault _ _ _ _ read, recoverFrom_moved,
          Option.getD_none, quote_nil, quote_nil]
        by_cases enough : limit ≤ found + 1
        · rw [if_pos enough, if_pos enough]
          rfl
        · rw [if_neg enough, if_neg enough,
            ih _ (recoverFrom_length_lt t more left) (found + 1) (recoverFrom t more left) rfl]
          rfl

/-- **Lines are only quoted.** A program is read as without its lines, and then its faults quote them. -/
theorem readProgram_quoted (fin : Span) (lines : Option (List String)) (limit found : Nat)
    (tokens : List Token) :
    readProgram fin lines limit found tokens =
      { readProgram fin none limit found tokens with
        faults := (readProgram fin none limit found tokens).faults.map (·.quote (lines.getD [])) } := by
  induction hn : tokens.length using Nat.strongRecOn generalizing tokens found with
  | ind n ih =>
    subst hn
    cases tokens with
    | nil =>
      rw [readProgram, readProgram]
      rfl
    | cons t more =>
      -- The lines play no part in reading a declaration, nor in where reading goes on behind a fault.
      cases read : (declaration fin (t :: more)).outcome with
      | ok s rest =>
        rw [readProgram_of_declaration _ _ _ _ read, readProgram_of_declaration _ _ _ _ read,
          ih _ (Reading.behind_of_ok read).length_lt found rest rfl]
      | error bare left =>
        rw [readProgram_of_fault _ _ _ _ read, readProgram_of_fault _ _ _ _ read, Option.getD_none, quote_nil]
        by_cases enough : limit ≤ found + 1
        · rw [if_pos enough, if_pos enough, List.map_singleton]
        · rw [if_neg enough, if_neg enough,
            ih _ (recoverFrom_length_lt t more left) (found + 1) (recoverFrom t more left) rfl, List.map_cons]

end Programs

end Grammar

end LoxScript
