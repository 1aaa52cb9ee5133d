import LoxScript.Proofs.Grammar.Acceptance

/-! # Where faults of reading come from

Every fault that reading meets is about a token of the input or about its end, and the tokens left tell how
far reading got.

* **`Compositional`** — relations between two readings, one with more tokens behind, that are kept by
  composition and hold of the elementary steps by which expressions are read; they hold of all readings of
  expressions (`Compositional.throughout`).
* **`Refused`** — the six ways in which reading a phrase can fail.
* **`declaration_refused`** — every declaration that is not read fails in one of them.
* **`exists_refused_of_mem_faults`** — so every fault recorded over a whole program is of this kind. -/

namespace LoxScript.Grammar

/-! ## Relations between readings of expressions -/

/-- **Relations between outcomes that composition keeps**, and that hold of the elementary steps of reading an
expression twice: once from some tokens, and once with `more` behind them. No step that goes on takes a
semicolon. Where the tokens end, the second reading may come to anything. -/
structure Compositional (fin fin' : Span) (more : List Token)
    (P : {α : Type} → List Token → Outcome α → Outcome α → Prop) : Prop where
  done : ∀ {α : Type} (a : α) (tokens : List Token), P tokens (.ok a tokens) (.ok a (tokens ++ more))
  idle : ∀ {α : Type} (a : α) (o' : Outcome α), P [] (.ok a []) o'
  take : ∀ {α : Type} {t : Token} {rest : List Token} {o o' : Outcome α}, t.kind ≠ .semicolon →
    P rest o o' → P (t :: rest) o o'
  bind : ∀ {α β : Type} {tokens : List Token} {o o' : Outcome α} {next next' : α → List Token → Outcome β},
    (∀ a left, o = .ok a left → left <:+ tokens) → P tokens o o' →
    (∀ a left, o = .ok a left → P left (next a left) (next' a (left ++ more))) →
    P tokens (o.bind next) (o'.bind next')
  closing : ∀ tokens, P tokens (requiring fin .closeGrouping tokens)
    (requiring fin' .closeGrouping (tokens ++ more))
  ended : ∀ o', P (α := Expr) [] (.error ⟨.unexpectedEnd .expression, fin, none⟩ []) o'
  noExpression : ∀ t rest, P (α := Expr) (t :: rest) (.error ⟨.expectedExpression t, t.span, none⟩ rest)
    (.error ⟨.expectedExpression t, t.span, none⟩ (rest ++ more))
  target : ∀ {t : Token} {rest : List Token} {o o' : Outcome Expr}, t.kind = .equal →
    (∀ e left, o = .ok e left → left <:+ rest) → P rest o o' →
    P (α := Expr) (t :: rest) (o.bind fun _ left => .error ⟨.invalidTarget t, t.span, none⟩ left)
      (o'.bind fun _ left => .error ⟨.invalidTarget t, t.span, none⟩ left)

/-- A relation holds of everything that is read from `tokens`, with and without `more` behind them, as an
expression or an operand. -/
structure Throughout (fin fin' : Span) (more : List Token)
    (P : {α : Type} → List Token → Outcome α → Outcome α → Prop) (tokens : List Token) : Prop where
  expression : P tokens (expression fin tokens).outcome (expression fin' (tokens ++ more)).outcome
  operand : ∀ lowest, P tokens (binary fin lowest tokens).outcome (binary fin' lowest (tokens ++ more)).outcome
  prefixed : P tokens (unary fin tokens).outcome (unary fin' (tokens ++ more)).outcome

/-- A token that is an expression by itself is no semicolon. -/
theorem atom?_semicolon {t : Token} (h : t.kind = .semicolon) : atom? t = none := by rw [atom?, h]

/-- A semicolon joins nothing. -/
theorem joining?_semicolon {t : Token} (h : t.kind = .semicolon) : joining? t = none := by
  rw [joining?, Operator.ofToken?, h]
  rfl

/-- It is no prefix either. -/
theorem unaryOperator?_semicolon {t : Token} (h : t.kind = .semicolon) : unaryOperator? t = none := by
  rw [unaryOperator?, h]

namespace Compositional

variable {fin fin' : Span} {more : List Token} {P : {α : Type} → List Token → Outcome α → Outcome α → Prop}
  (c : Compositional fin fin' more P) {tokens : List Token}

include c

/-- What a shorter phrase and the steps behind it keep, they keep one after another. -/
theorem reading {α β : Type} {r : Reading α tokens} {o' : Outcome α}
    {next next' : α → List Token → Outcome β} (first : P tokens r.outcome o')
    (second : ∀ a left, Behind left tokens → P left (next a left) (next' a (left ++ more))) :
    P tokens (r.outcome.bind next) (o'.bind next') :=
  c.bind (fun _ _ ok => (Reading.behind_of_ok ok).suffix) first fun a left ok =>
    second a left (Reading.behind_of_ok ok)

/-- A property of outcomes is kept when the phrase is wrapped. -/
theorem map {α β : Type} {r : Reading α tokens} {o' : Outcome α} (f : α → β) (h : P tokens r.outcome o') :
    P tokens (r.outcome.bind fun a left => .ok (f a) left) (o'.bind fun a left => .ok (f a) left) :=
  c.reading h fun a left _ => c.done (f a) left

/-- A primary has the property, if all expressions from fewer tokens have. -/
theorem primary (shorter : ∀ us, us.length < tokens.length → Throughout fin fin' more P us) :
    P tokens (primary fin tokens).outcome (primary fin' (tokens ++ more)).outcome := by
  cases tokens with
  | nil =>
    rw [outcome_primary_nil]
    exact c.ended _
  | cons t rest =>
    rw [List.cons_append, outcome_primary_cons, outcome_primary_cons]
    -- An atom is taken at once, a parenthesis is read up to its end, and no other token begins a primary.
    cases atom : atom? t with
    | some e =>
      refine c.take (fun semicolon => ?_) (c.done e rest)
      rw [atom?_semicolon semicolon] at atom
      cases atom
    | none =>
      dsimp only
      split
      · next paren =>
        have inner := (shorter rest (Nat.lt_succ_self _)).expression
        refine c.take (by rw [paren]; decide) (c.reading inner fun e left _ => ?_)
        refine c.bind (fun _ after ok => ?_) (c.closing left) fun _ after _ => c.done _ after
        rw [((requiring_eq_ok fin).mp ok).1]
        exact List.suffix_cons _ _
      · exact c.noExpression t rest

/-- So has an operand with its prefixes. -/
theorem unary (shorter : ∀ us, us.length < tokens.length → Throughout fin fin' more P us) :
    P tokens (unary fin tokens).outcome (unary fin' (tokens ++ more)).outcome := by
  cases tokens with
  | nil =>
    rw [outcome_unary_nil, outcome_primary_nil]
    exact c.ended _
  | cons t rest =>
    have atom := c.primary shorter
    rw [List.cons_append] at atom ⊢
    rw [outcome_unary_cons, outcome_unary_cons]
    cases operator : unaryOperator? t with
    | some o =>
      refine c.take (fun semicolon => ?_) (c.map _ (shorter rest (Nat.lt_succ_self _)).prefixed)
      rw [unaryOperator?_semicolon semicolon] at operator
      cases operator
    | none => exact atom

/-- The loop of precedence climbing keeps what its operands keep. -/
theorem climbing {rest : List Token}
    (shorter : ∀ us, us.length < rest.length → Throughout fin fin' more P us) (lowest : Nat) (left : Expr) :
    P rest (climbing fin lowest left rest) (climbing fin' lowest left (rest ++ more)) := by
  -- Each pass takes an operator and its right operand.
  induction hn : rest.length using Nat.strongRecOn generalizing left rest with
  | ind n ih =>
    subst hn
    cases rest with
    | nil =>
      rw [climbing_nil]
      exact c.idle left _
    | cons t others =>
      rw [List.cons_append, climbing_cons, climbing_cons]
      cases joined : joining? t with
      | none => exact c.done left (t :: others)
      | some operator =>
        dsimp only
        split
        · exact c.done left (t :: others)
        · refine c.take (fun semicolon => ?_)
            (c.reading ((shorter others (Nat.lt_succ_self _)).operand _) ?_)
          · rw [joining?_semicolon semicolon] at joined
            cases joined
          · intro right after behind
            have fewer : after.length < (t :: others).length := Nat.lt_succ_of_lt behind.length_lt
            exact ih after.length fewer (fun us lt => shorter us (Nat.lt_trans lt fewer)) _ rfl

/-- **What composition keeps and the elementary steps have, all readings of expressions have.** -/
theorem throughout (tokens : List Token) : Throughout fin fin' more P tokens := by
  -- Every phrase inside a phrase begins behind a token of it.
  induction hn : tokens.length using Nat.strongRecOn generalizing tokens with
  | ind n ih =>
    subst hn
    have shorter : ∀ us, us.length < tokens.length → Throughout fin fin' more P us :=
      fun us lt => ih us.length lt us rfl
    have prefixed := c.unary shorter
    have operand : ∀ lowest,
        P tokens (binary fin lowest tokens).outcome (binary fin' lowest (tokens ++ more)).outcome := by
      intro lowest
      rw [outcome_binary, outcome_binary]
      exact c.reading prefixed fun left rest behind =>
        c.climbing (fun us lt => shorter us (Nat.lt_trans lt behind.length_lt)) lowest left
    refine ⟨?_, operand, prefixed⟩
    rw [outcome_expression, outcome_expression]
    refine c.reading (operand 1) fun target rest behind => ?_
    cases rest with
    | nil => exact c.idle target _
    | cons t others =>
      rw [List.cons_append]
      dsimp only
      split
      · next equal =>
        have fewer : others.length < tokens.length := Nat.lt_trans (Nat.lt_succ_self _) behind.length_lt
        have value := (shorter others fewer).expression
        -- Only a variable can be assigned to; the target is checked behind the value.
        by_cases name : ∃ x, target = .reference x
        · obtain ⟨x, rfl⟩ := name
          exact c.take (by rw [equal]; decide) (c.map _ value)
        · have refused : ∀ v, assignTo t target v = .error ⟨.invalidTarget t, t.span, none⟩ := by
            intro v
            cases target with
            | reference x => exact absurd ⟨x, rfl⟩ name
            | _ => rfl
          simp only [refused]
          exact c.target equal (fun _ _ ok => (Reading.behind_of_ok ok).suffix) value
      · exact c.done target (t :: others)

end Compositional

/-! ## The ways in which reading fails -/

/-- **A counting loop that is refused**: its clauses and its body are phrases of the grammar, but the
increment cannot be joined to the body. -/
inductive RefusedLoop : List Token → LoopBody → Prop
  | mk {forWord opening semicolon closing : Token} {is cs ns ts : List Token}
      {initial : Option Stmt} {condition increment : Option Expr} {isOpen : Bool} {body : Stmt}
      {refused : LoopBody} :
      forWord.kind = .forWord → opening.kind = .leftParen → Derives.Initial is initial →
      Derives.Clause cs condition → semicolon.kind = .semicolon →
      Derives.Clause ns increment → closing.kind = .rightParen →
      Derives.Statement isOpen ts body →
      CountingLoop.expand initial condition increment body = .error refused →
      RefusedLoop (forWord :: opening :: (is ++ (cs ++ semicolon :: (ns ++ closing :: ts)))) refused

/-- **How reading a phrase from `tokens` fails**, with the tokens left. -/
inductive Refused (fin : Span) (tokens : List Token) : Fault SyntaxCause → List Token → Prop
  /-- The input ended where a phrase should begin. -/
  | ended (expected : Expectation) : Refused fin tokens ⟨.unexpectedEnd expected, fin, none⟩ []
  /-- The input ended in place of a required token. -/
  | cut (required : Requirement) : Refused fin tokens ⟨.missing required none, fin, none⟩ []
  /-- Another token stands in place of a required one. -/
  | other {required : Requirement} {t : Token} {rest : List Token} :
      t :: rest <:+ tokens → t.kind ≠ required.kind →
      Refused fin tokens ⟨.missing required (some t), t.span, none⟩ (t :: rest)
  /-- A token that begins no expression stands where one should begin. -/
  | noExpression {t : Token} {rest : List Token} :
      t :: rest <:+ tokens → Refused fin tokens ⟨.expectedExpression t, t.span, none⟩ rest
  /-- What stands before an equals sign is no variable, which is noticed behind the value. -/
  | target {t : Token} {rest left : List Token} :
      t :: rest <:+ tokens → t.kind = .equal → left <:+ rest →
      Refused fin tokens ⟨.invalidTarget t, t.span, none⟩ left
  /-- A counting loop is refused, which is noticed behind its body. -/
  | body {refused : LoopBody} {t : Token} {loop left : List Token} :
      t :: (loop ++ left) <:+ tokens → RefusedLoop (t :: loop) refused →
      Refused fin tokens ⟨.loopBody refused, t.span, none⟩ left

namespace Refused

variable {fin : Span} {tokens more left : List Token} {fault : Fault SyntaxCause}

/-- What fails in an end of a list fails in the list. -/
theorem mono (h : Refused fin tokens fault left) (suffix : tokens <:+ more) :
    Refused fin more fault left := by
  cases h with
  | ended expected => exact .ended expected
  | cut required => exact .cut required
  | other at_ kind => exact .other (at_.trans suffix) kind
  | noExpression at_ => exact .noExpression (at_.trans suffix)
  | target at_ kind behind => exact .target (at_.trans suffix) kind behind
  | body at_ loop => exact .body (at_.trans suffix) loop

/-- The codes of faults of reading: that of a token which is no operator is none of them. -/
theorem code_mem (h : Refused fin tokens fault left) :
    fault.cause.code ∈ ["E101", "E103", "E104", "E105", "E106"] := by
  cases h <;> simp [SyntaxCause.code]

end Refused

/-- The outcome fails, if at all, in one of the ways in which reading fails. -/
def Refuses (fin : Span) {α : Type} (tokens : List Token) (o : Outcome α) : Prop :=
  ∀ fault left, o = .error fault left → Refused fin tokens fault left

section Refuses

variable {fin : Span} {α β : Type} {tokens rest : List Token}

/-- A phrase that was read is no failure. -/
theorem Refuses.ok (a : α) (left : List Token) : Refuses fin tokens (.ok a left) := fun _ _ h => nomatch h

/-- A fault in one of these ways. -/
theorem Refuses.error {fault : Fault SyntaxCause} {left : List Token}
    (h : Refused fin tokens fault left) : Refuses fin tokens (.error fault left : Outcome α) := by
  intro fault' left' e
  cases e
  exact h

/-- Reading an end of the tokens fails in a way in which reading the tokens can. -/
theorem Refuses.mono {o : Outcome α} (h : Refuses fin rest o) (suffix : rest <:+ tokens) :
    Refuses fin tokens o :=
  fun fault left e => (h fault left e).mono suffix

/-- Two readings one after another fail in these ways if each of them does. -/
theorem Refuses.bind {o : Outcome α} {next : α → List Token → Outcome β} (first : Refuses fin tokens o)
    (second : ∀ a left, o = .ok a left → Refuses fin tokens (next a left)) :
    Refuses fin tokens (o.bind next) := by
  cases o with
  | ok a left => exact second a left rfl
  | error fault left => exact .error (first fault left rfl)

/-- The case of `Refuses.bind` in which a phrase is read, and what follows is read behind it. -/
theorem Refuses.reading {r : Reading α tokens} {next : α → List Token → Outcome β}
    (first : Refuses fin tokens r.outcome)
    (second : ∀ a left, Behind left tokens → Refuses fin left (next a left)) :
    Refuses fin tokens (r.outcome.bind next) :=
  first.bind fun a left ok =>
    (second a left (Reading.behind_of_ok ok)).mono (Reading.behind_of_ok ok).suffix

/-- Wrapping a phrase adds no way to fail. -/
theorem Refuses.map {r : Reading α tokens} (f : α → β) (h : Refuses fin tokens r.outcome) :
    Refuses fin tokens (r.outcome.bind fun a left => .ok (f a) left) :=
  h.reading fun a left _ => .ok (f a) left

variable (fin)

/-- A missing token is refused where it should stand. -/
theorem requiring_refuses (required : Requirement) (tokens : List Token) :
    Refuses fin tokens (requiring fin required tokens) := by
  cases tokens with
  | nil => exact .error (.cut required)
  | cons t rest =>
    rw [requiring]
    split
    · exact .ok t rest
    · next kind => exact .error (.other (List.suffix_refl _) kind)

/-- A required token with what is read behind it. -/
theorem Refuses.requiring (required : Requirement) {next : Token → List Token → Outcome β}
    (second : ∀ t left, Behind left tokens → Refuses fin left (next t left)) :
    Refuses fin tokens ((requiring fin required tokens).bind next) := by
  refine (requiring_refuses fin required tokens).bind fun t left ok => ?_
  obtain ⟨rfl, -⟩ := (requiring_eq_ok fin).mp ok
  exact (second t left Behind.tail).mono (List.suffix_cons _ _)

/-! ## Expressions -/

/-- Failing in one of these ways is kept by composition. -/
theorem refuses_compositional : Compositional fin fin [] (fun tokens o _ => Refuses fin tokens o) where
  done a tokens := .ok a tokens
  idle a _ := .ok a []
  take _ h := h.mono (List.suffix_cons _ _)
  bind suffix first second := first.bind fun a left ok => (second a left ok).mono (suffix a left ok)
  closing tokens := requiring_refuses fin _ tokens
  ended _ := .error (.ended _)
  noExpression _ _ := .error (.noExpression (List.suffix_refl _))
  target kind suffix h := (h.mono (List.suffix_cons _ _)).bind fun e left ok =>
    .error (.target (List.suffix_refl _) kind (suffix e left ok))

/-- An expression fails in these ways only. -/
theorem expression_refuses (tokens : List Token) : Refuses fin tokens (expression fin tokens).outcome :=
  ((refuses_compositional fin).throughout tokens).expression

/-- So does an expression with the token behind it. -/
theorem expressionThen_refuses (required : Requirement) (tokens : List Token) :
    Refuses fin tokens (expressionThen fin required tokens).outcome := by
  rw [outcome_expressionThen]
  exact (expression_refuses fin tokens).reading fun e rest _ =>
    .requiring fin required fun _ left _ => .ok e left

/-! ## Statements -/

/-- So does a declaration of a variable. -/
theorem variableDeclaration_refuses (tokens : List Token) :
    Refuses fin tokens (variableDeclaration fin tokens).outcome := by
  rw [outcome_variableDeclaration]
  refine .requiring fin .variableName fun name rest _ => ?_
  have bare : Refuses fin rest ((requiring fin .endOfDeclaration rest).bind fun _ left =>
      .ok (Stmt.declare name none) left) := .requiring fin _ fun _ left _ => .ok _ left
  cases rest with
  | nil => exact bare
  | cons t more =>
    dsimp only
    split
    · exact ((expressionThen_refuses fin _ more).map _).mono (List.suffix_cons _ _)
    · exact bare

/-- So does a condition in parentheses. -/
theorem condition_refuses (opening closing : Requirement) (tokens : List Token) :
    Refuses fin tokens (condition fin opening closing tokens).outcome := by
  rw [outcome_condition]
  exact .requiring fin opening fun _ rest _ => expressionThen_refuses fin closing rest

/-- So does the first clause of a counting loop. -/
theorem initialClause_refuses (tokens : List Token) :
    Refuses fin tokens (initialClause fin tokens).outcome := by
  cases tokens with
  | nil =>
    rw [outcome_initialClause_nil]
    exact (expressionThen_refuses fin _ []).map _
  | cons t rest =>
    rw [outcome_initialClause_cons]
    split
    · exact .ok _ rest
    · split
      · exact ((variableDeclaration_refuses fin rest).map _).mono (List.suffix_cons _ _)
      · exact (expressionThen_refuses fin _ (t :: rest)).map _

/-- So do the second and the third. -/
theorem clause_refuses (required : Requirement) (tokens : List Token) :
    Refuses fin tokens (clause fin required tokens).outcome := by
  cases tokens with
  | nil =>
    rw [outcome_clause_nil]
    exact (expressionThen_refuses fin _ []).map _
  | cons t rest =>
    rw [outcome_clause_cons]
    split
    · exact .ok _ rest
    · exact (expressionThen_refuses fin _ (t :: rest)).map _

/-- So do all three together. -/
theorem clauses_refuses (tokens : List Token) : Refuses fin tokens (clauses fin tokens).outcome := by
  rw [outcome_clauses]
  refine .requiring fin .openClauses fun _ rest₁ _ => ?_
  refine (initialClause_refuses fin rest₁).reading fun initial rest₂ _ => ?_
  refine (clause_refuses fin _ rest₂).reading fun condition rest₃ _ => ?_
  exact (clause_refuses fin _ rest₃).map _

/-- Reading a statement or the contents of a block from `tokens` fails in one of these ways. -/
structure RefusesStatements (fin : Span) (tokens : List Token) : Prop where
  statement : Refuses fin tokens (statement fin tokens).outcome
  items : Refuses fin tokens (blockItems fin tokens).outcome

variable {fin}

section

variable (shorter : ∀ us, us.length < tokens.length → RefusesStatements fin us)

include shorter

/-- A branch, if statements from fewer tokens fail in these ways. -/
theorem branch_refuses : Refuses fin tokens (branch fin tokens).outcome := by
  rw [outcome_branch]
  refine (condition_refuses fin _ _ tokens).reading fun test rest behind => ?_
  have consequent := (shorter rest behind.length_lt).statement
  refine consequent.reading fun s left beyond => ?_
  cases left with
  | nil => exact .ok _ []
  | cons t more =>
    dsimp only
    split
    · have fewer : more.length < tokens.length :=
        Nat.lt_trans (Nat.lt_trans (Nat.lt_succ_self _) beyond.length_lt) behind.length_lt
      exact ((shorter more fewer).statement.map _).mono (List.suffix_cons _ _)
    · exact .ok _ (t :: more)

/-- A statement. Only a counting loop has a fault of its own here, about its body. -/
theorem statement_refuses_of_shorter : Refuses fin tokens (statement fin tokens).outcome := by
  cases tokens with
  | nil =>
    rw [outcome_statement_nil]
    exact .error (.ended _)
  | cons t rest =>
    have inside {α : Type} {o : Outcome α} (h : Refuses fin rest o) : Refuses fin (t :: rest) o :=
      h.mono (List.suffix_cons _ _)
    have behind_lt {left : List Token} (h : Behind left rest) : left.length < (t :: rest).length :=
      Nat.lt_succ_of_lt h.length_lt
    rw [outcome_statement_cons]
    split
    · exact inside ((expressionThen_refuses fin _ rest).map _)
    · exact inside ((shorter rest (Nat.lt_succ_self _)).items.map _)
    · exact inside (branch_refuses fun us lt => shorter us (Nat.lt_succ_of_lt lt))
    · refine inside ((condition_refuses fin _ _ rest).reading fun test left behind => ?_)
      exact (shorter left (behind_lt behind)).statement.map _
    · next kind =>
      -- That the body is refused is noticed behind it, but it is about the word at the front.
      refine (inside (clauses_refuses fin rest)).bind fun parts left ok => ?_
      have behind := Reading.behind_of_ok ok
      have body := (shorter left (behind_lt behind)).statement
      refine (inside (body.mono behind.suffix)).bind fun s after ok' => ?_
      cases expanded : CountingLoop.expand parts.initial parts.condition parts.increment s with
      | ok loop => exact .ok loop after
      | error refused =>
        obtain ⟨head, rfl, opening, is, cs, semicolon, ns, closing, rfl, ho, hi, hc, hs, hn, hcl⟩ :=
          clauses_derives ok
        obtain ⟨ts, isOpen, rfl, derives, -⟩ := statement_derives ok'
        refine .error (.body ?_ (.mk kind ho hi hc hs hn hcl derives expanded))
        simp
    · exact (expressionThen_refuses fin _ (t :: rest)).map _

/-- The declarations of a block. -/
theorem items_refuses_of_shorter
    (declaration : Refuses fin tokens (declaration fin tokens).outcome) :
    Refuses fin tokens (blockItems fin tokens).outcome := by
  cases tokens with
  | nil =>
    rw [outcome_blockItems_nil]
    exact .error (.cut _)
  | cons t rest =>
    rw [outcome_blockItems_cons]
    split
    · exact .ok _ rest
    · exact declaration.reading fun first left behind => (shorter left behind.length_lt).items.map _

end

/-- A declaration is a declaration of a variable or a statement. -/
theorem declaration_refuses_of (statement : Refuses fin tokens (statement fin tokens).outcome) :
    Refuses fin tokens (declaration fin tokens).outcome := by
  cases tokens with
  | nil =>
    rw [outcome_declaration_nil]
    exact .error (.ended _)
  | cons t rest =>
    rw [outcome_declaration_cons]
    split
    · exact (variableDeclaration_refuses fin rest).mono (List.suffix_cons _ _)
    · exact statement

/-- **Every statement, declaration and block fails in these ways only**, by induction on
the number of tokens. -/
theorem refusesStatements (tokens : List Token) : RefusesStatements fin tokens := by
  -- Every statement inside a statement begins behind a token of it.
  induction hn : tokens.length using Nat.strongRecOn generalizing tokens with
  | ind n ih =>
    subst hn
    have shorter : ∀ us, us.length < tokens.length → RefusesStatements fin us :=
      fun us lt => ih us.length lt us rfl
    have statement := statement_refuses_of_shorter shorter
    exact ⟨statement, items_refuses_of_shorter shorter (declaration_refuses_of statement)⟩

end Refuses

/-- **A declaration that is not read fails in one of six ways.** -/
theorem declaration_refused {fin : Span} {tokens left : List Token} {fault : Fault SyntaxCause}
    (h : (declaration fin tokens).outcome = .error fault left) : Refused fin tokens fault left :=
  declaration_refuses_of (refusesStatements tokens).statement fault left h

/-! ## Programs -/

/-- Reading goes on at an end of the tokens that the declaration began with. -/
theorem recoverFrom_suffix {first : Token} {more left : List Token} (suffix : left <:+ first :: more) :
    recoverFrom first more left <:+ first :: more := by
  simp only [recoverFrom]
  split
  · exact (resume_suffix _ _).trans (List.suffix_cons _ _)
  · exact (resume_suffix _ _).trans suffix

/-- **Every fault recorded over a program** is that of a declaration which began at some of its tokens, with
its line quoted. -/
theorem exists_refused_of_mem_faults {fin : Span} {lines : Option (List String)} {limit found : Nat}
    {tokens : List Token} {fault : Fault SyntaxCause}
    (mem : fault ∈ (readProgram fin lines limit found tokens).faults) :
    ∃ bare left, Refused fin tokens bare left ∧ fault = bare.quote (lines.getD []) := by
  -- Each declaration takes a token, read or not, so the tokens left get fewer.
  induction hn : tokens.length using Nat.strongRecOn generalizing tokens found with
  | ind n ih =>
    subst hn
    cases tokens with
    | nil =>
      rw [readProgram] at mem
      cases mem
    | cons t more =>
      cases read : (declaration fin (t :: more)).outcome with
      | ok s rest =>
        rw [readProgram_of_declaration fin lines limit found read] at mem
        have behind := Reading.behind_of_ok read
        obtain ⟨bare, left, refused, quoted⟩ := ih _ behind.length_lt mem rfl
        exact ⟨bare, left, refused.mono behind.suffix, quoted⟩
      | error bare left =>
        have refused := declaration_refused read
        rw [readProgram_of_fault fin lines limit found read] at mem
        split at mem
        · exact ⟨bare, left, refused, List.mem_singleton.mp mem⟩
        · rcases List.mem_cons.mp mem with rfl | mem
          · exact ⟨bare, left, refused, rfl⟩
          · have fewer := recoverFrom_length_lt t more left
            obtain ⟨bare', left', refused', quoted⟩ := ih _ fewer mem rfl
            have suffix := recoverFrom_suffix (Reading.suffix_of_error read)
            exact ⟨bare', left', refused'.mono suffix, quoted⟩

end LoxScript.Grammar
