import LoxScript.Proofs.Grammar.FaultOrder

/-! # Unfinished programs

The beginning of a program is not a program, in general, but nothing in it is wrong either: all that reading
can miss in it stands behind its end.

* **`Final`** — a reading that comes to the end of its tokens, with a phrase or looking for more of one.
* **`Viable`** — how reading some tokens is related to reading them with more behind them: it comes to the
  end, or decides the same, or both refuse.
* **`declaration_viable`** — reading a declaration is so related; for the phrases inside of expressions this
  is an instance of `Compositional`.
* **`prefix_unfinished`** — the result: the beginnings of a program have at most one fault, at their end. -/

namespace LoxScript.Grammar

/-! ## Readings with more behind -/

section Viable

variable {fin fin' : Span} {more tokens rest : List Token} {t : Token} {α β : Type}

/-- **Readings that come to the end of their tokens**: with a phrase that takes all of them, or with a fault
at the end, because a phrase should begin there or a token is required. -/
inductive Final (fin : Span) : Outcome α → Prop
  | ok (a : α) : Final fin (.ok a [])
  | ended (expected : Expectation) : Final fin (.error ⟨.unexpectedEnd expected, fin, none⟩ [])
  | missing (required : Requirement) : Final fin (.error ⟨.missing required none, fin, none⟩ [])

/-- **What more tokens behind can change**: a reading that comes to the end may then come to anything; any
other reads the same phrase, or is refused in both cases. -/
inductive Cut (fin : Span) (more : List Token) : Outcome α → Outcome α → Prop
  | final {o : Outcome α} (o' : Outcome α) : Final fin o → Cut fin more o o'
  | same (a : α) (left : List Token) : Cut fin more (.ok a left) (.ok a (left ++ more))
  | refused (fault fault' : Fault SyntaxCause) (left left' : List Token) :
      Cut fin more (.error fault left) (.error fault' left')

/-- **Reading `tokens` is viable** if more tokens behind them change no more than that, and if reading no
token at all comes to the end. -/
structure Viable (fin : Span) (more tokens : List Token) (o o' : Outcome α) : Prop where
  cut : Cut fin more o o'
  final : tokens = [] → Final fin o

namespace Viable

variable {o o' : Outcome α} {next next' : α → List Token → Outcome β}

/-- A reading that comes to the end is viable, whatever is read with more tokens behind. -/
theorem of_final (h : Final fin o) (o' : Outcome α) : Viable fin more tokens o o' := ⟨.final o' h, fun _ => h⟩

/-- A phrase that takes no token is viable. -/
theorem done (a : α) (tokens : List Token) :
    Viable fin more tokens (.ok a tokens) (.ok a (tokens ++ more)) := by
  refine ⟨.same a tokens, ?_⟩
  rintro rfl
  exact .ok a

/-- Behind a token that was taken there may be no other. -/
theorem take (h : Viable fin more rest o o') : Viable fin more (t :: rest) o o' := ⟨h.cut, nofun⟩

/-- Two readings that are refused, where there is a token. -/
theorem refused (fault fault' : Fault SyntaxCause) (left left' : List Token) :
    Viable (α := α) fin more (t :: rest) (.error fault left) (.error fault' left') :=
  ⟨.refused fault fault' left left', nofun⟩

/-- **Two readings one after another are viable if each is.** Where the first comes to the end of its
tokens, the second has none. -/
theorem bind (first : Viable fin more tokens o o')
    (second : ∀ a left, o = .ok a left → Viable fin more left (next a left) (next' a (left ++ more))) :
    Viable fin more tokens (o.bind next) (o'.bind next') := by
  have goes_on (h : Final fin o) : Final fin (o.bind next) := by
    cases h with
    | ok a => exact (second a [] rfl).final rfl
    | ended expected => exact .ended expected
    | missing required => exact .missing required
  refine ⟨?_, fun none => goes_on (first.final none)⟩
  cases first.cut with
  | final o' h => exact .final _ (goes_on h)
  | same a left => exact (second a left rfl).cut
  | refused fault fault' left left' => exact .refused fault fault' left left'

/-- Wrapping a phrase keeps a reading viable. -/
theorem map (h : Viable fin more tokens o o') (f : α → β) :
    Viable fin more tokens (o.bind fun a left => .ok (f a) left) (o'.bind fun a left => .ok (f a) left) :=
  h.bind fun a left _ => .done (f a) left

end Viable

variable (fin fin' more)

/-- A required token. -/
theorem requiring_viable (required : Requirement) (tokens : List Token) :
    Viable fin more tokens (requiring fin required tokens) (requiring fin' required (tokens ++ more)) := by
  cases tokens with
  | nil => exact .of_final (.missing required) _
  | cons t rest =>
    rw [List.cons_append, requiring, requiring]
    by_cases kind : t.kind = required.kind
    · simp only [if_pos kind]
      exact (Viable.done t rest).take
    · simp only [if_neg kind]
      exact .refused _ _ _ _

/-! ## Expressions -/

/-- **Being viable is kept by composition.** -/
theorem viable_compositional :
    Compositional fin fin' more (fun tokens o o' => Viable fin more tokens o o') where
  done a tokens := .done a tokens
  idle a o' := .of_final (.ok a) o'
  take _ h := h.take
  bind _ first second := first.bind second
  closing tokens := requiring_viable fin fin' more _ tokens
  ended o' := .of_final (.ended _) o'
  noExpression t rest := .refused _ _ _ _
  target {t rest o o'} _ _ h := by
    -- Whatever the value comes to with more behind it, it is not assigned to anything.
    have never : ∃ fault left, (o'.bind fun _ left => (.error ⟨.invalidTarget t, t.span, none⟩ left :
        Outcome Expr)) = .error fault left := by
      cases o' with
      | ok e left => exact ⟨_, _, rfl⟩
      | error fault left => exact ⟨_, _, rfl⟩
    obtain ⟨fault', left', never⟩ := never
    rw [never]
    cases o with
    | ok e left => exact .refused _ _ _ _
    | error fault left => exact .refused _ _ _ _

/-- An expression. -/
theorem expression_viable (tokens : List Token) :
    Viable fin more tokens (expression fin tokens).outcome (expression fin' (tokens ++ more)).outcome :=
  ((viable_compositional fin fin' more).throughout tokens).expression

/-- An expression with the token behind it. -/
theorem expressionThen_viable (required : Requirement) (tokens : List Token) :
    Viable fin more tokens (expressionThen fin required tokens).outcome
      (expressionThen fin' required (tokens ++ more)).outcome := by
  rw [outcome_expressionThen, outcome_expressionThen]
  refine (expression_viable fin fin' more tokens).bind fun e left _ => ?_
  exact (requiring_viable fin fin' more required left).map fun _ => e

/-! ## Parts of statements -/

/-- A declaration of a variable. -/
theorem variableDeclaration_viable (tokens : List Token) :
    Viable fin more tokens (variableDeclaration fin tokens).outcome
      (variableDeclaration fin' (tokens ++ more)).outcome := by
  rw [outcome_variableDeclaration, outcome_variableDeclaration]
  refine (requiring_viable fin fin' more _ tokens).bind fun name left _ => ?_
  cases left with
  | nil =>
    -- The name may be followed by anything.
    exact .of_final (.missing .endOfDeclaration) _
  | cons t rest =>
    rw [List.cons_append]
    dsimp only
    split
    · exact ((expressionThen_viable fin fin' more _ rest).map _).take
    · exact (requiring_viable fin fin' more _ (t :: rest)).map _

/-- A condition in parentheses. -/
theorem condition_viable (opening closing : Requirement) (tokens : List Token) :
    Viable fin more tokens (condition fin opening closing tokens).outcome
      (condition fin' opening closing (tokens ++ more)).outcome := by
  rw [outcome_condition, outcome_condition]
  exact (requiring_viable fin fin' more opening tokens).bind fun _ left _ =>
    expressionThen_viable fin fin' more closing left

/-- The first clause of a counting loop. -/
theorem initialClause_viable (tokens : List Token) :
    Viable fin more tokens (initialClause fin tokens).outcome
      (initialClause fin' (tokens ++ more)).outcome := by
  cases tokens with
  | nil =>
    rw [outcome_initialClause_nil]
    exact .of_final (((expressionThen_viable fin fin' more _ []).map _).final rfl) _
  | cons t rest =>
    rw [List.cons_append, outcome_initialClause_cons, outcome_initialClause_cons]
    split
    · exact (Viable.done _ rest).take
    · split
      · exact ((variableDeclaration_viable fin fin' more rest).map _).take
      · exact (expressionThen_viable fin fin' more _ (t :: rest)).map _

/-- Its second or third clause. -/
theorem clause_viable (required : Requirement) (tokens : List Token) :
    Viable fin more tokens (clause fin required tokens).outcome
      (clause fin' required (tokens ++ more)).outcome := by
  cases tokens with
  | nil =>
    rw [outcome_clause_nil]
    exact .of_final (((expressionThen_viable fin fin' more _ []).map _).final rfl) _
  | cons t rest =>
    rw [List.cons_append, outcome_clause_cons, outcome_clause_cons]
    split
    · exact (Viable.done _ rest).take
    · exact (expressionThen_viable fin fin' more _ (t :: rest)).map _

/-- All three of its clauses. -/
theorem clauses_viable (tokens : List Token) :
    Viable fin more tokens (clauses fin tokens).outcome (clauses fin' (tokens ++ more)).outcome := by
  rw [outcome_clauses, outcome_clauses]
  refine (requiring_viable fin fin' more _ tokens).bind fun _ rest₁ _ => ?_
  refine (initialClause_viable fin fin' more rest₁).bind fun initial rest₂ _ => ?_
  refine (clause_viable fin fin' more _ rest₂).bind fun condition rest₃ _ => ?_
  exact (clause_viable fin fin' more _ rest₃).map _

/-! ## Bodies of counting loops -/

/-- Whether a statement can be joined with the increment of a counting loop. -/
def Joinable : Stmt → Prop
  | .block _ | .expression _ | .print _ => True
  | _ => False

/-- A counting loop is refused iff it has an increment that its body cannot be joined with. -/
theorem expand_refused_iff (initial : Option Stmt) (test increment : Option Expr) (body : Stmt) :
    (∃ refused, CountingLoop.expand initial test increment body = .error refused) ↔
      increment ≠ none ∧ ¬Joinable body := by
  unfold CountingLoop.expand
  cases increment with
  | none => simp [pure, Except.pure, bind, Except.bind]
  | some e => cases body <;>
      simp [CountingLoop.appendIncrement, Joinable, pure, Except.pure, bind, Except.bind]

/-- The first token of a statement tells whether it can be joined with an increment: only choices and loops
with a condition cannot. -/
theorem Derives.Statement.joinable_iff {isOpen : Bool} {body : Stmt}
    (h : Derives.Statement isOpen (t :: rest) body) : Joinable body ↔ t.kind ∉ [.ifWord, .whileWord] := by
  generalize tokens_eq : t :: rest = us at h
  cases h with
  | expression e =>
    obtain ⟨u, us, rfl, begins⟩ := e.head
    obtain ⟨rfl, -⟩ := List.cons.inj tokens_eq
    refine iff_of_true trivial fun word => ?_
    rcases List.mem_pair.mp word with word | word <;> simp [word, beginsExpression] at begins
  | print word | block word | branch word | choice word | loop word | counting word =>
    obtain ⟨rfl, -⟩ := List.cons.inj tokens_eq
    simp [Joinable, word]

/-- The first token of the tokens that a statement was read from tells the same. -/
theorem joinable_iff {body : Stmt} {left : List Token}
    (read : (statement fin (t :: rest)).outcome = .ok body left) :
    Joinable body ↔ t.kind ∉ [.ifWord, .whileWord] := by
  obtain ⟨used, isOpen, tokens, h, -⟩ := statement_derives read
  obtain ⟨u, us, rfl, -⟩ := h.head
  obtain ⟨rfl, -⟩ := List.cons.inj tokens
  exact h.joinable_iff

/-- **The body of a counting loop** may come to another statement with more tokens behind it, but it can be
joined with the increment in neither case or in both. -/
theorem body_viable (parts : Clauses) (word : Token)
    (first : Viable fin more tokens (statement fin tokens).outcome (statement fin' (tokens ++ more)).outcome) :
    let finish (body : Stmt) (left : List Token) : Outcome Stmt :=
      .settle ((CountingLoop.expand parts.initial parts.condition parts.increment body).mapError
        fun refused => ⟨.loopBody refused, word.span, none⟩) left
    Viable fin more tokens ((statement fin tokens).outcome.bind finish)
      ((statement fin' (tokens ++ more)).outcome.bind finish) := by
  intro finish
  have refuses : ∀ {body refused} left,
      CountingLoop.expand parts.initial parts.condition parts.increment body = .error refused →
      finish body left = .error ⟨.loopBody refused, word.span, none⟩ left := by
    intro body refused left expanded
    simp only [finish, expanded]
    rfl
  cases tokens with
  | nil =>
    rw [outcome_statement_nil]
    exact .of_final (.ended _) _
  | cons t rest =>
    cases read : (statement fin (t :: rest)).outcome with
    | error fault left =>
      rw [read] at first
      exact first.bind fun _ _ ok => by cases ok
    | ok body left =>
      have joinable := joinable_iff fin read
      cases expanded : CountingLoop.expand parts.initial parts.condition parts.increment body with
      | ok s =>
        rw [read] at first
        refine first.bind fun body' left' ok => ?_
        cases ok
        simp only [finish, expanded]
        exact .done s left
      | error refused =>
        -- What is read with more tokens behind is refused as well, at the latest when it is joined.
        obtain ⟨some_increment, not_joinable⟩ := (expand_refused_iff ..).mp ⟨refused, expanded⟩
        have never : ∃ fault' left', (statement fin' (t :: rest ++ more)).outcome.bind finish =
            .error fault' left' := by
          cases read' : (statement fin' (t :: rest ++ more)).outcome with
          | error fault' left' => exact ⟨_, _, rfl⟩
          | ok body' left' =>
            rw [joinable, ← joinable_iff fin' read'] at not_joinable
            obtain ⟨refused', expanded'⟩ :=
              (expand_refused_iff parts.initial parts.condition _ body').mpr ⟨some_increment, not_joinable⟩
            exact ⟨_, left', refuses left' expanded'⟩
        obtain ⟨fault', left', never⟩ := never
        rw [never, LoxScript.Outcome.bind_ok, refuses left expanded]
        exact .refused _ _ _ _

/-! ## Statements -/

/-- Reading a statement or the contents of a block from `tokens` is viable. -/
structure ViableStatements (fin fin' : Span) (more tokens : List Token) : Prop where
  statement : Viable fin more tokens (statement fin tokens).outcome (statement fin' (tokens ++ more)).outcome
  items : Viable fin more tokens (blockItems fin tokens).outcome (blockItems fin' (tokens ++ more)).outcome

section

variable {fin fin' more} (shorter : ∀ us, us.length < tokens.length → ViableStatements fin fin' more us)

include shorter

/-- A branch, if statements from fewer tokens are viable. -/
theorem branch_viable :
    Viable fin more tokens (branch fin tokens).outcome (branch fin' (tokens ++ more)).outcome := by
  rw [outcome_branch, outcome_branch]
  refine (condition_viable fin fin' more _ _ tokens).bind fun test left ok => ?_
  have behind := Reading.behind_of_ok ok
  refine (shorter left behind.length_lt).statement.bind fun s after ok' => ?_
  have beyond := Reading.behind_of_ok ok'
  cases after with
  | nil =>
    -- An alternative may follow.
    exact .of_final (.ok _) _
  | cons t others =>
    rw [List.cons_append]
    dsimp only
    split
    · have fewer : others.length < tokens.length :=
        Nat.lt_trans (Nat.lt_trans (Nat.lt_succ_self _) beyond.length_lt) behind.length_lt
      exact ((shorter others fewer).statement.map _).take
    · exact .done _ (t :: others)

/-- A statement. The first token of its body decides whether a counting loop is refused, so more tokens
behind do not matter. -/
theorem statement_viable_of_shorter :
    Viable fin more tokens (statement fin tokens).outcome (statement fin' (tokens ++ more)).outcome := by
  cases tokens with
  | nil =>
    rw [outcome_statement_nil]
    exact .of_final (.ended _) _
  | cons t rest =>
    have behind_lt {left : List Token} (h : Behind left rest) : left.length < (t :: rest).length :=
      Nat.lt_succ_of_lt h.length_lt
    rw [List.cons_append, outcome_statement_cons, outcome_statement_cons]
    split
    · exact ((expressionThen_viable fin fin' more _ rest).map _).take
    · exact ((shorter rest (Nat.lt_succ_self _)).items.map _).take
    · exact (branch_viable fun us lt => shorter us (Nat.lt_succ_of_lt lt)).take
    · refine ((condition_viable fin fin' more _ _ rest).bind fun test left ok => ?_).take
      exact (shorter left (behind_lt (Reading.behind_of_ok ok))).statement.map _
    · refine ((clauses_viable fin fin' more rest).bind fun parts left ok => ?_).take
      exact body_viable fin fin' more parts t (shorter left (behind_lt (Reading.behind_of_ok ok))).statement
    · exact (expressionThen_viable fin fin' more _ (t :: rest)).map _

/-- The declarations of a block. -/
theorem items_viable_of_shorter
    (declaration : Viable fin more tokens (declaration fin tokens).outcome
      (declaration fin' (tokens ++ more)).outcome) :
    Viable fin more tokens (blockItems fin tokens).outcome (blockItems fin' (tokens ++ more)).outcome := by
  cases tokens with
  | nil =>
    rw [outcome_blockItems_nil]
    exact .of_final (.missing _) _
  | cons t rest =>
    rw [List.cons_append, outcome_blockItems_cons, outcome_blockItems_cons]
    split
    · exact (Viable.done [] rest).take
    · refine declaration.bind fun first left ok => ?_
      exact (shorter left (Reading.behind_of_ok ok).length_lt).items.map _

end

variable {fin fin' more}

/-- A declaration is a declaration of a variable or a statement. -/
theorem declaration_viable_of
    (statement : Viable fin more tokens (statement fin tokens).outcome
      (statement fin' (tokens ++ more)).outcome) :
    Viable fin more tokens (declaration fin tokens).outcome (declaration fin' (tokens ++ more)).outcome := by
  cases tokens with
  | nil =>
    rw [outcome_declaration_nil]
    exact .of_final (.ended _) _
  | cons t rest =>
    rw [List.cons_append] at statement ⊢
    rw [outcome_declaration_cons, outcome_declaration_cons]
    split
    · exact (variableDeclaration_viable fin fin' more rest).take
    · exact statement

/-- **Statements, declarations and blocks are viable**, by induction on the number of tokens. -/
theorem viableStatements (tokens : List Token) : ViableStatements fin fin' more tokens := by
  -- Every statement inside a statement begins behind a token of it.
  induction hn : tokens.length using Nat.strongRecOn generalizing tokens with
  | ind n ih =>
    subst hn
    have shorter : ∀ us, us.length < tokens.length → ViableStatements fin fin' more us :=
      fun us lt => ih us.length lt us rfl
    have statement := statement_viable_of_shorter shorter
    exact ⟨statement, items_viable_of_shorter shorter (declaration_viable_of statement)⟩

/-- **Reading a declaration is viable.** -/
theorem declaration_viable (tokens : List Token) :
    Viable fin more tokens (declaration fin tokens).outcome (declaration fin' (tokens ++ more)).outcome :=
  declaration_viable_of (viableStatements tokens).statement

end Viable

/-! ## Programs -/

/-- **A fault is at the end**, at the place `fin` behind the last token: a phrase should begin there, or a
token is required and none is found. -/
def AtEnd (fin : Span) (fault : Fault SyntaxCause) : Prop :=
  fault.span = fin ∧
    (fault.cause.code = "E101" ∨ fault.cause.code = "E105" ∧ ∃ required, fault.cause = .missing required none)

section

variable {fin fin' : Span} {lines lines' : Option (List String)} {limit limit' found found' : Nat}
  {tokens more : List Token}

/-- A declaration that fails at the end makes the only fault. -/
theorem faults_of_final {t : Token} {rest : List Token} {fault : Fault SyntaxCause} {left : List Token}
    (read : (declaration fin (t :: rest)).outcome = .error fault left)
    (final : Final fin (.error fault left : Outcome Stmt)) :
    ∃ fault, (readProgram fin lines limit found (t :: rest)).faults = [fault] ∧ AtEnd fin fault := by
  have nothing : left = [] := by cases final <;> rfl
  have faults : (readProgram fin lines limit found (t :: rest)).faults = [fault.quote (lines.getD [])] := by
    rw [readProgram_of_fault fin lines limit found read]
    split
    · rfl
    · -- Where no token is left, recovery finds none.
      have ended := recoverFrom_suffix_left (Reading.suffix_of_error read)
      rw [nothing, List.suffix_nil] at ended
      rw [nothing, ended, readProgram]
  refine ⟨_, faults, ?_⟩
  unfold AtEnd
  rw [Fault.span_quote, Fault.cause_quote]
  cases final with
  | ended expected => exact ⟨rfl, .inl rfl⟩
  | missing required => exact ⟨rfl, .inr ⟨rfl, required, rfl⟩⟩

/-- **The tokens with which a program begins** are read without a fault, or with one at their end. -/
theorem faults_of_prefix (whole : (readProgram fin' lines' limit' found' (tokens ++ more)).faults = []) :
    (readProgram fin lines limit found tokens).faults = [] ∨
      ∃ fault, (readProgram fin lines limit found tokens).faults = [fault] ∧ AtEnd fin fault := by
  -- Each declaration takes a token, so the tokens left get fewer.
  induction hn : tokens.length using Nat.strongRecOn generalizing tokens with
  | ind n ih =>
    subst hn
    cases tokens with
    | nil =>
      rw [readProgram]
      exact .inl rfl
    | cons t rest =>
      have cut : Cut fin more (declaration fin (t :: rest)).outcome
          (declaration fin' (t :: (rest ++ more))).outcome := (declaration_viable (t :: rest)).cut
      rw [List.cons_append] at whole
      cases read' : (declaration fin' (t :: (rest ++ more))).outcome with
      | error fault' left' =>
        rw [readProgram_of_fault fin' lines' limit' found' read'] at whole
        split at whole <;> cases whole
      | ok s' left' =>
        rw [readProgram_of_declaration fin' lines' limit' found' read'] at whole
        rw [read'] at cut
        cases read : (declaration fin (t :: rest)).outcome with
        | error fault left =>
          rw [read] at cut
          cases cut with
          | final _ final => exact .inr (faults_of_final read final)
        | ok s left =>
          rw [read] at cut
          rw [readProgram_of_declaration fin lines limit found read]
          cases cut with
          | final _ final =>
            cases final
            rw [readProgram]
            exact .inl rfl
          | same => exact ih _ (Reading.behind_of_ok read).length_lt whole rfl

end

/-- **Unfinished input is recognised as unfinished.** From the tokens with which a program begins a parser
recovers without a fault, or with exactly one: a fault at their end. So tokens whose first fault is not at
their end are continued to no program. -/
theorem prefix_unfinished (tokens : List Token) (source : Option String) (limit : Nat) :
    let faults := (Parser.ofTokens tokens source limit).recover.2.faults
    (∀ more source' program, parse (tokens ++ more) source' = .ok program →
      faults = [] ∨ ∃ fault, faults = [fault] ∧ AtEnd (endSpan tokens) fault) ∧
    ∀ fault others, faults = fault :: others → ¬AtEnd (endSpan tokens) fault →
      ∀ more source' program, parse (tokens ++ more) source' ≠ .ok program := by
  intro faults
  have unfinished : ∀ more source' program, parse (tokens ++ more) source' = .ok program →
      faults = [] ∨ ∃ fault, faults = [fault] ∧ AtEnd (endSpan tokens) fault := by
    intro more source' program accepted
    have whole := (derives_of_parse accepted).readProgram (endSpan (tokens ++ more)) none 1 0
    have read : faults = _ := (recover_ofTokens tokens source limit).2
    rw [read]
    exact faults_of_prefix (congrArg ProgramReading.faults whole)
  refine ⟨unfinished, fun fault others first elsewhere more source' program accepted => ?_⟩
  rcases unfinished more source' program accepted with none | ⟨only, one, atEnd⟩
  · rw [none] at first
    cases first
  · rw [one] at first
    cases first
    exact elsewhere atEnd

/-- The beginning `print x` of `print x;` has one fault, at its end. -/
theorem prefix_unfinished_print :
    let print := bare .printWord
    let x := bare .identifier
    parse ([print, x] ++ [bare .semicolon]) none = .ok [.print (.reference x)] ∧
      ∃ fault, (Parser.ofTokens [print, x] none 20).recover.2.faults = [fault] ∧
        AtEnd (endSpan [print, x]) fault := by
  intro print x
  have accepted : parse ([print, x] ++ [bare .semicolon]) none = .ok [.print (.reference x)] := by cbv
  have unfinished := (prefix_unfinished [print, x] none 20).1 _ _ _ accepted
  refine ⟨accepted, unfinished.resolve_left fun faultless => ?_⟩
  have ended : (declaration (endSpan [print, x]) [print, x]).outcome =
      .error ⟨.missing .endOfPrint none, endSpan [print, x], none⟩ [] := by cbv
  rw [(recover_ofTokens [print, x] none 20).2, readProgram_of_fault _ _ _ _ ended,
    if_neg (by decide)] at faultless
  cases faultless

end LoxScript.Grammar
