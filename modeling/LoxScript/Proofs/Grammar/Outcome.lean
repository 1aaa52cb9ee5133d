import LoxScript.Grammar.Program
import LoxScript.Proofs.Grammar.Operators
import LoxScript.Proofs.Outcome
import Mathlib.Data.List.Basic

/-! # Outcomes of readings

A `Reading` carries, in its type, the proof that what is left is an end of the tokens; the recursion of
the reading functions rests on that proof, but no statement about what they read does.
This file forgets it: `Reading.outcome` is the bare phrase or fault with the tokens left, and each
reading function gets one equation for its outcome.

* **`climbing`** — the outcome of going on after an operand, which depends on the tokens left only
  (`outcome_climb`).
* **`outcome_expression`, `outcome_binary`, …, `outcome_blockItems`** — the equations; later files never
  unfold a reading function. -/

namespace LoxScript.Grammar

/-- What a reading comes to without the proofs in its type: a phrase or a fault, and the tokens left. -/
abbrev Outcome (α : Type) := LoxScript.Outcome (Fault SyntaxCause) (List Token) α

/-! ## Forgetting the proofs -/

namespace Reading

variable {α β : Type} {tokens rest : List Token}

/-- The outcome of a reading. -/
def outcome : Reading α tokens → Outcome α
  | .done phrase left _ => .ok phrase left
  | .failed fault left _ => .error fault left

/-- A phrase that was read, with what is left. -/
@[simp] theorem outcome_done (phrase : α) (left : List Token) (h : Behind left tokens) :
    (Reading.done phrase left h).outcome = .ok phrase left := rfl

/-- A fault, with what is left behind it. -/
@[simp] theorem outcome_failed (fault : Fault SyntaxCause) (left : List Token) (h : left <:+ tokens) :
    (Reading.failed fault left h : Reading α tokens).outcome = .error fault left := rfl

/-- Seeing a reading of an end of the tokens as a reading of the tokens changes nothing about its outcome. -/
@[simp] theorem outcome_within (r : Reading α rest) (h : rest <:+ tokens) :
    (r.within h).outcome = r.outcome := by
  cases r <;> rfl

/-- Going on after a phrase is `Outcome.bind`, if what follows has outcomes that ignore the proofs. -/
theorem outcome_thenWithin (r : Reading α rest) (h : rest <:+ tokens)
    (next : (phrase : α) → (left : List Token) → Behind left rest → Reading β tokens)
    (f : α → List Token → Outcome β)
    (hf : ∀ phrase left behind, (next phrase left behind).outcome = f phrase left) :
    (r.thenWithin h next).outcome = r.outcome.bind f := by
  cases r with
  | done phrase left behind => exact hf phrase left behind
  | failed => rfl

/-- The case of `outcome_thenWithin` in which the phrase is read from the whole list. -/
theorem outcome_andThen (r : Reading α tokens)
    (next : (phrase : α) → (left : List Token) → Behind left tokens → Reading β tokens)
    (f : α → List Token → Outcome β)
    (hf : ∀ phrase left behind, (next phrase left behind).outcome = f phrase left) :
    (r.andThen next).outcome = r.outcome.bind f :=
  outcome_thenWithin r _ next f hf

/-- Wrapping a phrase. -/
@[simp] theorem outcome_map (f : α → β) (r : Reading α tokens) :
    (r.map f).outcome = r.outcome.bind fun phrase left => .ok (f phrase) left :=
  outcome_andThen r _ _ fun _ _ _ => rfl

/-- Behind a phrase fewer tokens are left. -/
theorem behind_of_ok {r : Reading α tokens} {a : α} {left : List Token} (h : r.outcome = .ok a left) :
    Behind left tokens := by
  cases r with
  | done phrase rest behind =>
    cases h
    exact behind
  | failed => cases h

/-- The tokens left at a fault are an end of the list. -/
theorem suffix_of_error {r : Reading α tokens} {fault : Fault SyntaxCause} {left : List Token}
    (h : r.outcome = .error fault left) : left <:+ tokens := by
  cases r with
  | done => cases h
  | failed fault rest suffix =>
    cases h
    exact suffix

end Reading

/-! ## Expressions -/

section Expressions

variable (fin : Span)

/-- The outcome of reading one required token. -/
def requiring (required : Requirement) : List Token → Outcome Token
  | [] => .error ⟨.missing required none, fin, none⟩ []
  | t :: rest =>
    if t.kind = required.kind then .ok t rest
    else .error ⟨.missing required (some t), t.span, none⟩ (t :: rest)

/-- A required token. -/
@[simp] theorem outcome_require (required : Requirement) (tokens : List Token) :
    (require fin required tokens).outcome = requiring fin required tokens := by
  cases tokens with
  | nil => rfl
  | cons t rest =>
    simp only [require, requiring]
    split <;> rfl

/-- A required token is read iff the tokens begin with one of its kind. -/
theorem requiring_eq_ok {required : Requirement} {tokens rest : List Token} {t : Token} :
    requiring fin required tokens = .ok t rest ↔ tokens = t :: rest ∧ t.kind = required.kind := by
  cases tokens with
  | nil => simp [requiring]
  | cons u us =>
    rw [requiring]
    split
    · next h =>
      simp only [EStateM.Result.ok.injEq, List.cons.injEq]
      exact ⟨fun e => ⟨e, e.1 ▸ h⟩, fun e => e.1⟩
    · next h =>
      simp only [reduceCtorEq, List.cons.injEq, false_iff]
      rintro ⟨⟨rfl, -⟩, hk⟩
      exact h hk

/-- Going on after an operand comes to the same whichever list the tokens left are an end of. -/
theorem outcome_climb_eq (lowest : Nat) (left : Expr) (rest tokens tokens' : List Token)
    (behind : Behind rest tokens) (behind' : Behind rest tokens') :
    (climb fin lowest tokens left rest behind).outcome
      = (climb fin lowest tokens' left rest behind').outcome := by
  -- Each pass reads an operand from the tail, so the tokens left get fewer.
  induction h : rest.length using Nat.strongRecOn generalizing left rest tokens tokens' with
  | ind n ih =>
    subst h
    cases rest with
    | nil => rw [climb, climb]; rfl
    | cons t more =>
      rw [climb_cons, climb_cons]
      cases joining? t with
      | none => rfl
      | some joined =>
        obtain ⟨level, operator⟩ := joined
        dsimp only
        split
        · rfl
        · cases binary fin (level + 1) more with
          | done right after beyond =>
            have shorter : after.length < (t :: more).length :=
              Nat.lt_trans beyond.length_lt (by simp)
            exact ih after.length shorter _ _ _ _ _ _ rfl
          | failed => rfl

/-- The outcome of going on after the operand `left` with operators of at least the level `lowest`. -/
def climbing (lowest : Nat) (left : Expr) (rest : List Token) : Outcome Expr :=
  (climb fin lowest (default :: rest) left rest Behind.tail).outcome

/-- Climbing does not depend on what the first operand was read from. -/
theorem outcome_climb (lowest : Nat) (tokens : List Token) (left : Expr) (rest : List Token)
    (behind : Behind rest tokens) :
    (climb fin lowest tokens left rest behind).outcome = climbing fin lowest left rest :=
  outcome_climb_eq ..

/-- Nothing joins at the end of the tokens. -/
theorem climbing_nil (lowest : Nat) (left : Expr) : climbing fin lowest left [] = .ok left [] := by
  rw [climbing, climb]; rfl

/-- The loop of precedence climbing: an operator of at least the level `lowest` takes an operand from the
levels above its own, and the loop goes on with the two joined. -/
theorem climbing_cons (lowest : Nat) (left : Expr) (t : Token) (more : List Token) :
    climbing fin lowest left (t :: more) =
      match joining? t with
      | none => .ok left (t :: more)
      | some (level, operator) =>
        if level < lowest then .ok left (t :: more)
        else (binary fin (level + 1) more).outcome.bind fun right after =>
          climbing fin lowest (.binary left operator right) after := by
  rw [climbing, climb_cons]
  cases joining? t with
  | none => rfl
  | some joined =>
    obtain ⟨level, operator⟩ := joined
    dsimp only
    split
    · rfl
    · exact Reading.outcome_thenWithin _ _ _ _ fun _ _ _ => outcome_climb ..

/-- Joined operands: the first operand, then climbing. -/
theorem outcome_binary (lowest : Nat) (tokens : List Token) :
    (binary fin lowest tokens).outcome =
      (unary fin tokens).outcome.bind fun left rest => climbing fin lowest left rest := by
  rw [binary]
  exact Reading.outcome_andThen _ _ _ fun _ _ _ => outcome_climb ..

/-- An expression is an operand, and an assignment if an equals sign follows it. -/
theorem outcome_expression (tokens : List Token) :
    (expression fin tokens).outcome =
      (binary fin 1 tokens).outcome.bind fun target rest =>
        match rest with
        | [] => .ok target []
        | t :: more =>
          if t.kind = .equal then
            (expression fin more).outcome.bind fun value left => .settle (assignTo t target value) left
          else .ok target (t :: more) := by
  rw [expression]
  refine Reading.outcome_andThen _ _ _ fun target rest behind => ?_
  cases rest with
  | nil => rfl
  | cons t more =>
    dsimp only
    split
    · rw [Reading.outcome_andThen _ _ (fun value left => .settle (assignTo t target value) left)
        fun value left beyond => ?_, Reading.outcome_within]
      cases assignTo t target value <;> rfl
    · rfl

/-- At the end of the tokens a primary is missing. -/
theorem outcome_unary_nil : (unary fin []).outcome = (primary fin []).outcome := by rw [unary]

/-- A prefix and its operand, or else a primary. -/
theorem outcome_unary_cons (t : Token) (rest : List Token) :
    (unary fin (t :: rest)).outcome =
      match unaryOperator? t with
      | some operator => (unary fin rest).outcome.bind fun e left => .ok (.unary operator e) left
      | none => (primary fin (t :: rest)).outcome := by
  rw [unary_cons]
  cases unaryOperator? t with
  | some operator => simp
  | none => rfl

/-- At the end of the tokens an expression is missing there. -/
theorem outcome_primary_nil :
    (primary fin []).outcome = .error ⟨.unexpectedEnd .expression, fin, none⟩ [] := by
  rw [primary]; rfl

/-- An atom, a grouping, or no expression. -/
theorem outcome_primary_cons (t : Token) (rest : List Token) :
    (primary fin (t :: rest)).outcome =
      match atom? t with
      | some e => .ok e rest
      | none =>
        if t.kind = .leftParen then
          (expression fin rest).outcome.bind fun inner left =>
            (requiring fin .closeGrouping left).bind fun _ after => .ok (.grouping inner) after
        else .error ⟨.expectedExpression t, t.span, none⟩ rest := by
  rw [primary]
  cases atom? t with
  | some e => rfl
  | none =>
    dsimp only
    split
    · rw [Reading.outcome_within]
      exact Reading.outcome_andThen _ _ _ fun _ _ _ => by simp
    · rfl

/-- An expression and the token required behind it. -/
theorem outcome_expressionThen (required : Requirement) (tokens : List Token) :
    (expressionThen fin required tokens).outcome =
      (expression fin tokens).outcome.bind fun e rest =>
        (requiring fin required rest).bind fun _ left => .ok e left := by
  rw [expressionThen]
  exact Reading.outcome_andThen _ _ _ fun _ _ _ => by simp

end Expressions

/-! ## Statements -/

section Statements

variable (fin : Span)

/-- A declaration of a variable: its name, and the initial value if an equals sign follows. -/
theorem outcome_variableDeclaration (tokens : List Token) :
    (variableDeclaration fin tokens).outcome =
      (requiring fin .variableName tokens).bind fun name rest =>
        match rest with
        | [] => (requiring fin .endOfDeclaration []).bind fun _ left => .ok (.declare name none) left
        | t :: more =>
          if t.kind = .equal then
            (expressionThen fin .endOfDeclaration more).outcome.bind fun e left =>
              .ok (.declare name (some e)) left
          else (requiring fin .endOfDeclaration (t :: more)).bind fun _ left =>
            .ok (.declare name none) left := by
  rw [variableDeclaration, ← outcome_require]
  refine Reading.outcome_andThen _ _ _ fun name rest behind => ?_
  cases rest with
  | nil => simp
  | cons t more =>
    dsimp only
    split <;> simp

/-- A condition between its parentheses. -/
theorem outcome_condition (opening closing : Requirement) (tokens : List Token) :
    (condition fin opening closing tokens).outcome =
      (requiring fin opening tokens).bind fun _ rest => (expressionThen fin closing rest).outcome := by
  rw [condition, ← outcome_require]
  exact Reading.outcome_andThen _ _ _ fun _ _ _ => by simp

/-- At the end of the tokens an expression is missing. -/
theorem outcome_initialClause_nil :
    (initialClause fin []).outcome =
      (expressionThen fin .endOfExpression []).outcome.bind fun e left =>
        .ok (some (.expression e)) left := by
  simp [initialClause]

/-- A first clause may be absent, declare a variable, or be an expression. -/
theorem outcome_initialClause_cons (t : Token) (rest : List Token) :
    (initialClause fin (t :: rest)).outcome =
      if t.kind = .semicolon then .ok none rest
      else if t.kind = .varWord then
        (variableDeclaration fin rest).outcome.bind fun s left => .ok (some s) left
      else (expressionThen fin .endOfExpression (t :: rest)).outcome.bind fun e left =>
        .ok (some (.expression e)) left := by
  simp only [initialClause]
  split
  · rfl
  · split <;> simp

/-- At the end of the tokens an expression is missing here too. -/
theorem outcome_clause_nil (required : Requirement) :
    (clause fin required []).outcome =
      (expressionThen fin required []).outcome.bind fun e left => .ok (some e) left := by
  simp [clause]

/-- Another clause may be absent, or is an expression. -/
theorem outcome_clause_cons (required : Requirement) (t : Token) (rest : List Token) :
    (clause fin required (t :: rest)).outcome =
      if t.kind = required.kind then .ok none rest
      else (expressionThen fin required (t :: rest)).outcome.bind fun e left => .ok (some e) left := by
  simp only [clause]
  split
  · rfl
  · simp

/-- The three clauses one after another. -/
theorem outcome_clauses (tokens : List Token) :
    (clauses fin tokens).outcome =
      (requiring fin .openClauses tokens).bind fun _ rest₁ =>
        (initialClause fin rest₁).outcome.bind fun initial rest₂ =>
          (clause fin .endOfClauseCondition rest₂).outcome.bind fun condition rest₃ =>
            (clause fin .closeClauses rest₃).outcome.bind fun increment left =>
              .ok ⟨initial, condition, increment⟩ left := by
  rw [clauses, ← outcome_require]
  refine Reading.outcome_andThen _ _ _ fun _ rest₁ h₁ => ?_
  rw [← Reading.outcome_within _ h₁.suffix]
  refine Reading.outcome_andThen _ _ _ fun initial rest₂ h₂ => ?_
  rw [← Reading.outcome_within _ h₂.suffix]
  exact Reading.outcome_andThen _ _ _ fun _ _ _ => by simp

/-- At the end of the tokens a statement is missing. -/
theorem outcome_statement_nil :
    (statement fin []).outcome = .error ⟨.unexpectedEnd .statement, fin, none⟩ [] := by
  rw [statement]; rfl

/-- The first token tells which statement follows. -/
theorem outcome_statement_cons (t : Token) (rest : List Token) :
    (statement fin (t :: rest)).outcome =
      match t.kind with
      | .printWord => (expressionThen fin .endOfPrint rest).outcome.bind fun e left => .ok (.print e) left
      | .leftBrace => (blockItems fin rest).outcome.bind fun ss left => .ok (.block ss) left
      | .ifWord => (branch fin rest).outcome
      | .whileWord =>
        (condition fin .openLoopCondition .closeLoopCondition rest).outcome.bind fun test left =>
          (statement fin left).outcome.bind fun body after => .ok (.loop test body) after
      | .forWord =>
        (clauses fin rest).outcome.bind fun parts left =>
          (statement fin left).outcome.bind fun body after =>
            .settle ((CountingLoop.expand parts.initial parts.condition parts.increment body).mapError
              fun refused => ⟨.loopBody refused, t.span, none⟩) after
      | _ => (expressionThen fin .endOfExpression (t :: rest)).outcome.bind fun e left =>
        .ok (.expression e) left := by
  rw [statement]
  -- Only the loops read more than one part behind their first word; the parts are read in a row.
  cases hk : t.kind
  case whileWord =>
    dsimp only
    rw [Reading.outcome_within]
    exact Reading.outcome_andThen _ _ _ fun _ _ _ => by simp
  case forWord =>
    dsimp only
    rw [Reading.outcome_within]
    refine Reading.outcome_andThen _ _ _ fun parts left behind => ?_
    rw [← Reading.outcome_within _ behind.suffix]
    refine Reading.outcome_andThen _ _ _ fun body after beyond => ?_
    cases CountingLoop.expand parts.initial parts.condition parts.increment body <;> rfl
  all_goals simp

/-- A branch: its condition, what it leads to, and what an `else` leads to if one follows. -/
theorem outcome_branch (tokens : List Token) :
    (branch fin tokens).outcome =
      (condition fin .openBranchCondition .closeBranchCondition tokens).outcome.bind fun test rest =>
        (statement fin rest).outcome.bind fun consequent left =>
          match left with
          | [] => .ok (.branch test consequent none) []
          | t :: more =>
            if t.kind = .elseWord then
              (statement fin more).outcome.bind fun alternative after =>
                .ok (.branch test consequent (some alternative)) after
            else .ok (.branch test consequent none) (t :: more) := by
  rw [branch]
  refine Reading.outcome_andThen _ _ _ fun test rest behind => ?_
  rw [← Reading.outcome_within _ behind.suffix]
  refine Reading.outcome_andThen _ _ _ fun consequent left beyond => ?_
  cases left with
  | nil => rfl
  | cons t more =>
    dsimp only
    split <;> simp

/-- At the end of the tokens a statement is missing, not a declaration. -/
theorem outcome_declaration_nil :
    (declaration fin []).outcome = .error ⟨.unexpectedEnd .statement, fin, none⟩ [] := by
  rw [declaration, outcome_statement_nil]

/-- A declaration of a variable, or else a statement. -/
theorem outcome_declaration_cons (t : Token) (rest : List Token) :
    (declaration fin (t :: rest)).outcome =
      if t.kind = .varWord then (variableDeclaration fin rest).outcome
      else (statement fin (t :: rest)).outcome := by
  rw [declaration]
  split <;> simp

/-- At the end of the tokens the closing brace is missing. -/
theorem outcome_blockItems_nil :
    (blockItems fin []).outcome = .error ⟨.missing .endOfBlock none, fin, none⟩ [] := by
  rw [blockItems]; rfl

/-- The closing brace, or one declaration and then the others. -/
theorem outcome_blockItems_cons (t : Token) (rest : List Token) :
    (blockItems fin (t :: rest)).outcome =
      if t.kind = .rightBrace then .ok [] rest
      else (declaration fin (t :: rest)).outcome.bind fun first left =>
        (blockItems fin left).outcome.bind fun others after => .ok (first :: others) after := by
  rw [blockItems]
  split
  · rfl
  · exact Reading.outcome_andThen _ _ _ fun _ _ _ => by simp

end Statements

end LoxScript.Grammar
