import LoxScript.Proofs.Grammar.ExpressionReading

/-! # Reading statements agrees with the grammar

Recursive descent reads exactly the statements and declarations of the grammar.

* **Completeness** (`Derives.Statement.read`, `Derives.Declarations.read`) — a statement is read whatever
  follows it, unless it is open and an `else` follows, which it would take.
* **Soundness** (`statement_derives`, `declaration_derives`) — what is read as a statement is one, and
  behind an open one no `else` is left: the innermost choice has taken it. -/

namespace LoxScript.Grammar

/-- No `else` stands at the front of `rest`. -/
def NoElse (rest : List Token) : Prop := ∀ t ∈ rest.head?, t.kind ≠ .elseWord

/-- The end of the tokens is no `else`. -/
theorem noElse_nil : NoElse [] := fun t ht => by simp at ht

/-- Neither is a token of another kind. -/
theorem noElse_cons {t : Token} {rest : List Token} (h : t.kind ≠ .elseWord) : NoElse (t :: rest) := by
  intro u hu
  obtain rfl : t = u := by simpa using hu
  exact h

/-! ## The body of a counting loop -/

/-- A counting loop stands for a block iff its increment can be joined to its body. -/
theorem expand_eq_ok_iff {initial : Option Stmt} {condition increment : Option Expr} {body s : Stmt} :
    CountingLoop.expand initial condition increment body = .ok s ↔
      ∃ extended, Extended body increment extended ∧
        s = .block (initial.toList ++
          [.loop (condition.getD (.literal (.boolean true))) extended]) := by
  -- Only a body that is a block or a simple statement takes an increment, and `Extended` lists those.
  have append : ∀ e extended, CountingLoop.appendIncrement body e = .ok extended ↔
      Extended body (some e) extended := by
    intro e extended
    constructor
    · intro h
      cases body <;> cases h <;> constructor
    · intro h
      cases h <;> rfl
  cases increment with
  | none =>
    constructor
    · intro h
      cases h
      exact ⟨body, .same, rfl⟩
    · rintro ⟨_, ⟨⟩, rfl⟩
      rfl
  | some e =>
    rw [CountingLoop.expand]
    cases hb : CountingLoop.appendIncrement body e with
    | ok extended =>
      constructor
      · intro h
        cases h
        exact ⟨extended, (append e extended).mp hb, rfl⟩
      · rintro ⟨extended', h, rfl⟩
        obtain rfl : extended = extended' := by simpa [hb] using (append e extended').mpr h
        rfl
    | error refused =>
      constructor
      · intro h
        cases h
      · rintro ⟨extended, h, -⟩
        exact absurd ((append e extended).mpr h) (by simp [hb])

/-! ## Completeness -/

section Completeness

variable (fin : Span)

/-- Where an expression can begin, an expression statement is read. -/
theorem outcome_statement_of_beginsExpression {t : Token} (h : beginsExpression t.kind = true)
    (rest : List Token) :
    (statement fin (t :: rest)).outcome =
      (expressionThen fin .endOfExpression (t :: rest)).outcome.bind fun e left =>
        .ok (.expression e) left := by
  rw [outcome_statement_cons]
  split
  all_goals first
    | rfl
    | (next hk => rw [hk] at h; exact absurd h (by decide))

namespace Derives

/-- An expression is read with the semicolon or parenthesis required behind it. -/
theorem Expression.readThen {ts : List Token} {e : Expr} (h : Expression ts e) {r : Requirement}
    {closing : Token} (hk : closing.kind = r.kind)
    (hc : closing.kind = .semicolon ∨ closing.kind = .rightParen) (rest : List Token) :
    (expressionThen fin r (ts ++ closing :: rest)).outcome = .ok e rest := by
  have last : requiring fin r (closing :: rest) = .ok closing rest := if_pos hk
  rw [outcome_expressionThen, h.read fin _ (endsExpression_cons hc), Outcome.bind_ok, last, Outcome.bind_ok]

/-- A declaration of a variable is read behind its first word, whatever follows. -/
theorem Variable.read {ts : List Token} {s : Stmt} (h : Variable ts s) (rest : List Token) :
    ∃ t us, ts = t :: us ∧ t.kind = .varWord ∧
      (variableDeclaration fin (us ++ rest)).outcome = .ok s rest := by
  cases h with
  | @bare varWord name semicolon hv hn hs =>
    have first : requiring fin .variableName (name :: semicolon :: rest) = .ok name (semicolon :: rest) :=
      if_pos hn
    have last : requiring fin .endOfDeclaration (semicolon :: rest) = .ok semicolon rest := if_pos hs
    refine ⟨varWord, [name, semicolon], rfl, hv, ?_⟩
    rw [outcome_variableDeclaration, List.cons_append, List.cons_append, List.nil_append, first,
      Outcome.bind_ok]
    dsimp only
    rw [if_neg (by rw [hs]; decide), last, Outcome.bind_ok]
  | @initialized varWord name equals semicolon us e hv hn he h hs =>
    have first : requiring fin .variableName (name :: equals :: (us ++ semicolon :: rest))
        = .ok name (equals :: (us ++ semicolon :: rest)) := if_pos hn
    refine ⟨varWord, name :: equals :: (us ++ [semicolon]), rfl, hv, ?_⟩
    rw [outcome_variableDeclaration, List.cons_append, List.cons_append, List.append_assoc,
      List.singleton_append, first, Outcome.bind_ok]
    dsimp only
    rw [if_pos he, h.readThen fin hs (.inl hs), Outcome.bind_ok]

/-- A condition is read, whatever follows. -/
theorem Condition.read {ts : List Token} {e : Expr} (h : Condition ts e) {opening closing : Requirement}
    (ho : opening.kind = .leftParen) (hc : closing.kind = .rightParen) (rest : List Token) :
    (condition fin opening closing (ts ++ rest)).outcome = .ok e rest := by
  cases h with
  | @mk left right us _ hl h hr =>
    have first : requiring fin opening (left :: (us ++ right :: rest)) = .ok left (us ++ right :: rest) :=
      if_pos (hl.trans ho.symm)
    rw [outcome_condition, List.cons_append, List.append_assoc, List.singleton_append, first,
      Outcome.bind_ok, h.readThen fin (hr.trans hc.symm) (.inr hr)]

/-- So is the first clause of a counting loop, which brings its own semicolon. -/
theorem Initial.read {ts : List Token} {initial : Option Stmt} (h : Initial ts initial)
    (rest : List Token) : (initialClause fin (ts ++ rest)).outcome = .ok initial rest := by
  cases h with
  | absent hs => rw [List.singleton_append, outcome_initialClause_cons, if_pos hs]
  | var h =>
    obtain ⟨t, us, rfl, ht, read⟩ := h.read fin rest
    rw [List.cons_append, outcome_initialClause_cons, if_neg (by rw [ht]; decide), if_pos ht, read,
      Outcome.bind_ok]
  | @expression us e semicolon h hs =>
    have whole := h.readThen fin (r := .endOfExpression) hs (.inl hs) rest
    obtain ⟨t, vs, rfl, ht⟩ := h.head
    have other : ∀ {k}, beginsExpression k = false → t.kind ≠ k := by
      rintro k hk rfl
      exact absurd ht (by simp [hk])
    rw [List.append_assoc, List.singleton_append, List.cons_append, outcome_initialClause_cons,
      if_neg (other rfl), if_neg (other rfl), ← List.cons_append, whole, Outcome.bind_ok]

/-- Another clause is read up to the token that closes it. -/
theorem Clause.read {ts : List Token} {e : Option Expr} (h : Clause ts e) {required : Requirement}
    {closing : Token} (hk : closing.kind = required.kind)
    (hc : closing.kind = .semicolon ∨ closing.kind = .rightParen) (rest : List Token) :
    (clause fin required (ts ++ closing :: rest)).outcome = .ok e rest := by
  cases h with
  | absent => rw [List.nil_append, outcome_clause_cons, if_pos hk]
  | present h =>
    have whole := h.readThen fin hk hc rest
    obtain ⟨t, us, rfl, ht⟩ := h.head
    have other : t.kind ≠ required.kind := by
      rw [← hk]
      intro same
      rcases hc with hc | hc <;> (rw [same, hc] at ht; exact absurd ht (by decide))
    rw [List.cons_append, outcome_clause_cons, if_neg other, ← List.cons_append, whole, Outcome.bind_ok]

/-- A statement does not begin with `var`. -/
theorem Statement.head_not_var {isOpen : Bool} {ts : List Token} {s : Stmt} (h : Statement isOpen ts s) :
    ∃ t us, ts = t :: us ∧ t.kind ≠ .varWord := by
  cases h with
  | expression h =>
    obtain ⟨t, us, rfl, ht⟩ := h.head
    exact ⟨t, _, rfl, fun hk => by rw [hk] at ht; exact absurd ht (by decide)⟩
  | print h | block h | branch h | choice h | loop h | counting h =>
    exact ⟨_, _, rfl, by rw [h]; decide⟩

/-- Declarations begin with no `else`. -/
theorem Declarations.noElse {ts : List Token} {ss : List Stmt} (h : Declarations ts ss)
    {rest : List Token} (hr : NoElse rest) : NoElse (ts ++ rest) := by
  cases h with
  | nil => exact hr
  | cons h _ =>
    obtain ⟨t, us, rfl, ht⟩ := h.head
    refine noElse_cons fun hk => ?_
    rw [hk] at ht
    exact absurd ht (by decide)

mutual

/-- **Completeness for statements**: a statement is read whatever follows it, unless it is open
and an `else` follows. -/
theorem Statement.read : ∀ {isOpen : Bool} {ts : List Token} {s : Stmt}, Statement isOpen ts s →
    ∀ rest : List Token, (isOpen = true → NoElse rest) →
    (statement fin (ts ++ rest)).outcome = .ok s rest
  | _, _, _, .expression h hs, rest, _ => by
    have whole := h.readThen fin (r := .endOfExpression) hs (.inl hs) rest
    obtain ⟨t, us, rfl, ht⟩ := h.head
    rw [List.append_assoc, List.singleton_append, List.cons_append,
      outcome_statement_of_beginsExpression fin ht, ← List.cons_append, whole, Outcome.bind_ok]
  | _, _, _, .print hp h hs, rest, _ => by
    rw [List.cons_append, List.append_assoc, List.singleton_append, outcome_statement_cons, hp]
    dsimp only
    rw [h.readThen fin hs (.inl hs), Outcome.bind_ok]
  | _, _, _, .block ho h hc, rest, _ => by
    rw [List.cons_append, List.append_assoc, List.singleton_append, outcome_statement_cons, ho]
    dsimp only
    rw [h.read _ rest hc, Outcome.bind_ok]
  | _, _, _, .branch hi hc h, rest, noElse => by
    rw [List.cons_append, List.append_assoc, outcome_statement_cons, hi]
    dsimp only
    rw [outcome_branch, hc.read fin rfl rfl, Outcome.bind_ok, h.read rest fun _ => noElse rfl,
      Outcome.bind_ok]
    cases rest with
    | nil => rfl
    | cons t more => exact if_neg (noElse rfl t rfl)
  | _, _, _, @Statement.choice ifWord elseWord cs ts us _ _ _ _ hi hc h he ha, rest, noElse => by
    -- The first branch is not open, so the `else` behind it is left to the choice.
    have first := h.read (elseWord :: (us ++ rest)) (fun closed => absurd closed (by decide))
    rw [List.cons_append, List.append_assoc, List.append_assoc, List.cons_append,
      outcome_statement_cons, hi]
    dsimp only
    rw [outcome_branch, hc.read fin rfl rfl, Outcome.bind_ok, first, Outcome.bind_ok]
    dsimp only
    rw [if_pos he, ha.read rest noElse, Outcome.bind_ok]
  | _, _, _, .loop hw hc h, rest, noElse => by
    rw [List.cons_append, List.append_assoc, outcome_statement_cons, hw]
    dsimp only
    rw [hc.read fin rfl rfl, Outcome.bind_ok, h.read rest noElse, Outcome.bind_ok]
  | _, _, _, @Statement.counting forWord opening semicolon closing is cs ns ts _ _ _ _ _ _ hf ho hi hc hs hn
      hp h extended, rest, noElse => by
    have first : requiring fin .openClauses
        (opening :: (is ++ (cs ++ semicolon :: (ns ++ closing :: (ts ++ rest)))))
        = .ok opening (is ++ (cs ++ semicolon :: (ns ++ closing :: (ts ++ rest)))) := if_pos ho
    have assoc : forWord :: opening :: (is ++ (cs ++ semicolon :: (ns ++ closing :: ts))) ++ rest
        = forWord :: opening :: (is ++ (cs ++ semicolon :: (ns ++ closing :: (ts ++ rest)))) := by simp
    rw [assoc, outcome_statement_cons, hf]
    show Outcome.bind (clauses fin _).outcome _ = _
    rw [outcome_clauses, first, Outcome.bind_ok, hi.read fin, Outcome.bind_ok, hc.read fin hs (.inl hs),
      Outcome.bind_ok, hn.read fin hp (.inr hp), Outcome.bind_ok, Outcome.bind_ok, h.read rest noElse,
      Outcome.bind_ok, expand_eq_ok_iff.mpr ⟨_, extended, rfl⟩]
    rfl

/-- **Completeness for declarations.** -/
theorem Declaration.read : ∀ {ts : List Token} {s : Stmt}, Declaration ts s →
    ∀ rest : List Token, NoElse rest → (declaration fin (ts ++ rest)).outcome = .ok s rest
  | _, _, .var h, rest, _ => by
    obtain ⟨t, us, rfl, ht, read⟩ := h.read fin rest
    rw [List.cons_append, outcome_declaration_cons, if_pos ht, read]
  | _, _, .statement h, rest, noElse => by
    have whole := h.read rest fun _ => noElse
    obtain ⟨t, us, rfl, ht⟩ := h.head_not_var
    rw [List.cons_append, outcome_declaration_cons, if_neg ht]
    exact whole

/-- **Completeness for the contents of a block.** -/
theorem Declarations.read : ∀ {ts : List Token} {ss : List Stmt}, Declarations ts ss →
    ∀ (closing : Token) (rest : List Token), closing.kind = .rightBrace →
    (blockItems fin (ts ++ closing :: rest)).outcome = .ok ss rest
  | _, _, .nil, closing, rest, hc => by
    rw [List.nil_append, outcome_blockItems_cons, if_pos hc]
  | _, _, .cons h hs, closing, rest, hc => by
    have behind : NoElse (closing :: rest) := noElse_cons (by rw [hc]; decide)
    have first := h.read _ (hs.noElse behind)
    have others := hs.read closing rest hc
    obtain ⟨t, us, rfl, ht⟩ := h.head
    rw [List.append_assoc, List.cons_append, outcome_blockItems_cons,
      if_neg (fun hk => by rw [hk] at ht; exact absurd ht (by decide)), ← List.cons_append, first,
      Outcome.bind_ok, others, Outcome.bind_ok]

end

end Derives

end Completeness

/-! ## Soundness -/

section Soundness

variable {fin : Span}

/-- What is read before a required token is an expression. -/
theorem expressionThen_derives {tokens : List Token}
    {required : Requirement} {e : Expr} {rest : List Token}
    (h : (expressionThen fin required tokens).outcome = .ok e rest) :
    ∃ used closing, tokens = used ++ closing :: rest ∧ Derives.Expression used e ∧
      closing.kind = required.kind := by
  rw [outcome_expressionThen] at h
  obtain ⟨e', mid, he, hnext⟩ := Outcome.bind_eq_ok.mp h
  obtain ⟨closing, after, hc, hlast⟩ := Outcome.bind_eq_ok.mp hnext
  obtain ⟨rfl, hk⟩ := (requiring_eq_ok fin).mp hc
  obtain ⟨used, rfl, hd⟩ := expression_derives he
  cases hlast
  exact ⟨used, closing, rfl, hd, hk⟩

/-- What is read behind `var` is a declaration of a variable. -/
theorem variableDeclaration_derives {tokens : List Token} {varWord : Token}
    (hv : varWord.kind = .varWord) {s : Stmt} {rest : List Token}
    (h : (variableDeclaration fin tokens).outcome = .ok s rest) :
    ∃ used, tokens = used ++ rest ∧ Derives.Variable (varWord :: used) s := by
  rw [outcome_variableDeclaration] at h
  obtain ⟨name, mid, hn, hnext⟩ := Outcome.bind_eq_ok.mp h
  obtain ⟨rfl, hk⟩ := (requiring_eq_ok fin).mp hn
  have bare (hb : ((requiring fin .endOfDeclaration mid).bind fun _ left =>
      .ok (.declare name none) left) = .ok s rest) :
      ∃ used, name :: mid = used ++ rest ∧ Derives.Variable (varWord :: used) s := by
    obtain ⟨semicolon, after, hs, hlast⟩ := Outcome.bind_eq_ok.mp hb
    obtain ⟨rfl, hks⟩ := (requiring_eq_ok fin).mp hs
    cases hlast
    exact ⟨[name, semicolon], rfl, .bare hv hk hks⟩
  cases mid with
  | nil => exact bare hnext
  | cons t more =>
    dsimp only at hnext
    split at hnext
    · next he =>
      obtain ⟨e, left, hi, hlast⟩ := Outcome.bind_eq_ok.mp hnext
      obtain ⟨used, semicolon, rfl, hd, hs⟩ := expressionThen_derives hi
      cases hlast
      exact ⟨name :: t :: (used ++ [semicolon]), by simp, .initialized hv hk he hd hs⟩
    · exact bare hnext

/-- What is read as a condition is one in parentheses. -/
theorem condition_derives {tokens : List Token}
    {opening closing : Requirement} (ho : opening.kind = .leftParen) (hc : closing.kind = .rightParen)
    {e : Expr} {rest : List Token} (h : (condition fin opening closing tokens).outcome = .ok e rest) :
    ∃ used, tokens = used ++ rest ∧ Derives.Condition used e := by
  rw [outcome_condition] at h
  obtain ⟨left, mid, hl, hnext⟩ := Outcome.bind_eq_ok.mp h
  obtain ⟨rfl, hk⟩ := (requiring_eq_ok fin).mp hl
  obtain ⟨used, right, rfl, hd, hr⟩ := expressionThen_derives hnext
  exact ⟨left :: (used ++ [right]), by simp, .mk (hk.trans ho) hd (hr.trans hc)⟩

/-- What is read as a first clause is one. -/
theorem initialClause_derives {tokens : List Token} {initial : Option Stmt}
    {rest : List Token} (h : (initialClause fin tokens).outcome = .ok initial rest) :
    ∃ used, tokens = used ++ rest ∧ Derives.Initial used initial := by
  -- Whatever is neither a semicolon nor a declaration is read as an expression.
  have expression (hb : ((expressionThen fin .endOfExpression tokens).outcome.bind fun e left =>
      .ok (some (.expression e)) left) = .ok initial rest) :
      ∃ used, tokens = used ++ rest ∧ Derives.Initial used initial := by
    obtain ⟨e, left, he, hlast⟩ := Outcome.bind_eq_ok.mp hb
    obtain ⟨used, semicolon, rfl, hd, hs⟩ := expressionThen_derives he
    cases hlast
    exact ⟨used ++ [semicolon], by simp, .expression hd hs⟩
  cases tokens with
  | nil => exact expression (outcome_initialClause_nil fin ▸ h)
  | cons t more =>
    rw [outcome_initialClause_cons] at h
    split at h
    · next hs =>
      cases h
      exact ⟨[t], rfl, .absent hs⟩
    · split at h
      · next hv =>
        obtain ⟨s, left, hread, hlast⟩ := Outcome.bind_eq_ok.mp h
        obtain ⟨used, rfl, hd⟩ :=
          variableDeclaration_derives hv hread
        cases hlast
        exact ⟨t :: used, rfl, .var hd⟩
      · exact expression h

/-- What is read as another clause is one, and the token that closes it follows. -/
theorem clause_derives {tokens : List Token} {required : Requirement}
    {e : Option Expr} {rest : List Token} (h : (clause fin required tokens).outcome = .ok e rest) :
    ∃ used closing, tokens = used ++ closing :: rest ∧ Derives.Clause used e ∧
      closing.kind = required.kind := by
  -- A clause that its closing token does not end at once is an expression.
  have present (hb : ((expressionThen fin required tokens).outcome.bind fun e left =>
      .ok (some e) left) = .ok e rest) :
      ∃ used closing, tokens = used ++ closing :: rest ∧ Derives.Clause used e ∧
        closing.kind = required.kind := by
    obtain ⟨e', left, he, hlast⟩ := Outcome.bind_eq_ok.mp hb
    obtain ⟨used, closing, rfl, hd, hk⟩ := expressionThen_derives he
    cases hlast
    exact ⟨used, closing, rfl, .present hd, hk⟩
  cases tokens with
  | nil => exact present (outcome_clause_nil fin required ▸ h)
  | cons t more =>
    rw [outcome_clause_cons] at h
    split at h
    · next hk =>
      cases h
      exact ⟨[], t, rfl, .absent, hk⟩
    · exact present h

/-- What is read as three clauses is these, between parentheses. -/
theorem clauses_derives {tokens : List Token} {parts : Clauses}
    {rest : List Token} (h : (clauses fin tokens).outcome = .ok parts rest) :
    ∃ used, tokens = used ++ rest ∧ ∃ opening is cs semicolon ns closing,
      used = opening :: (is ++ (cs ++ semicolon :: (ns ++ [closing]))) ∧
      opening.kind = .leftParen ∧ Derives.Initial is parts.initial ∧
      Derives.Clause cs parts.condition ∧ semicolon.kind = .semicolon ∧
      Derives.Clause ns parts.increment ∧ closing.kind = .rightParen := by
  rw [outcome_clauses] at h
  obtain ⟨opening, rest₁, h₁, next₁⟩ := Outcome.bind_eq_ok.mp h
  obtain ⟨rfl, ho⟩ := (requiring_eq_ok fin).mp h₁
  obtain ⟨initial, rest₂, h₂, next₂⟩ := Outcome.bind_eq_ok.mp next₁
  obtain ⟨is, rfl, hi⟩ := initialClause_derives h₂
  obtain ⟨condition, rest₃, h₃, next₃⟩ := Outcome.bind_eq_ok.mp next₂
  obtain ⟨cs, semicolon, rfl, hc, hs⟩ := clause_derives h₃
  obtain ⟨increment, left, h₄, hlast⟩ := Outcome.bind_eq_ok.mp next₃
  obtain ⟨ns, closing, rfl, hn, hcl⟩ := clause_derives h₄
  cases hlast
  exact ⟨opening :: (is ++ (cs ++ semicolon :: (ns ++ [closing]))), by simp, opening, is, cs, semicolon,
    ns, closing, rfl, ho, hi, hc, hs, hn, hcl⟩

/-- A declaration is faithful wherever a statement is. -/
theorem declaration_derives_of {tokens : List Token}
    (statement : ∀ {s rest}, (statement fin tokens).outcome = .ok s rest →
      ∃ used isOpen, tokens = used ++ rest ∧ Derives.Statement isOpen used s ∧
        (isOpen = true → NoElse rest))
    {s : Stmt} {rest : List Token} (h : (declaration fin tokens).outcome = .ok s rest) :
    ∃ used, tokens = used ++ rest ∧ Derives.Declaration used s := by
  cases tokens with
  | nil =>
    rw [outcome_declaration_nil] at h
    cases h
  | cons t more =>
    rw [outcome_declaration_cons] at h
    split at h
    · next hv =>
      obtain ⟨used, rfl, hd⟩ := variableDeclaration_derives hv h
      exact ⟨t :: used, rfl, .var hd⟩
    · obtain ⟨used, isOpen, hu, hd, -⟩ := statement h
      exact ⟨used, hu, .statement hd⟩

/-- What is read from `tokens` as a statement or as the contents of a block is that; behind an open
statement no `else` is left. -/
structure FaithfulStatements (fin : Span) (tokens : List Token) : Prop where
  statement : ∀ {s rest}, (statement fin tokens).outcome = .ok s rest →
    ∃ used isOpen, tokens = used ++ rest ∧ Derives.Statement isOpen used s ∧
      (isOpen = true → NoElse rest)
  items : ∀ {ss rest}, (blockItems fin tokens).outcome = .ok ss rest →
    ∃ used closing, tokens = used ++ closing :: rest ∧ closing.kind = .rightBrace ∧
      Derives.Declarations used ss

section

variable {tokens : List Token}
  (shorter : ∀ us, us <:+ tokens → us.length < tokens.length → FaithfulStatements fin us)

include shorter

/-- **What is read behind `if` is a branch or a choice**; behind a branch no `else` is left. -/
theorem branch_derives {ifWord : Token} (hi : ifWord.kind = .ifWord) {s : Stmt} {rest : List Token}
    (h : (branch fin tokens).outcome = .ok s rest) :
    ∃ used isOpen, tokens = used ++ rest ∧ Derives.Statement isOpen (ifWord :: used) s ∧
      (isOpen = true → NoElse rest) := by
  rw [outcome_branch] at h
  obtain ⟨test, mid, ht, hnext⟩ := Outcome.bind_eq_ok.mp h
  obtain ⟨cs, rfl, hcond⟩ := condition_derives rfl rfl ht
  have condition_pos : 0 < cs.length := by cases hcond; simp
  obtain ⟨consequent, left, hc, hlast⟩ := Outcome.bind_eq_ok.mp hnext
  have fewer : mid.length < (cs ++ mid).length := by
    rw [List.length_append]
    omega
  obtain ⟨ts, isOpen, rfl, hd, noElse⟩ := (shorter mid (List.suffix_append _ _) fewer).statement hc
  cases left with
  | nil =>
    cases hlast
    exact ⟨cs ++ ts, true, by simp, .branch hi hcond hd, fun _ => noElse_nil⟩
  | cons t more =>
    dsimp only at hlast
    split at hlast
    · next he =>
      -- An `else` follows, so the first branch was not open.
      have closed : isOpen = false := by
        cases isOpen with
        | false => rfl
        | true => exact absurd he (noElse rfl t rfl)
      subst closed
      obtain ⟨alternative, after, ha, hfinal⟩ := Outcome.bind_eq_ok.mp hlast
      have suffix : more <:+ cs ++ (ts ++ t :: more) := ⟨cs ++ ts ++ [t], by simp⟩
      have fewer' : more.length < (cs ++ (ts ++ t :: more)).length := by
        rw [List.length_append, List.length_append, List.length_cons]
        omega
      obtain ⟨us, isOpen, rfl, hda, noElse'⟩ := (shorter more suffix fewer').statement ha
      cases hfinal
      exact ⟨cs ++ (ts ++ t :: us), isOpen, by simp, .choice hi hcond hd he hda, noElse'⟩
    · next hne =>
      cases hlast
      exact ⟨cs ++ ts, true, by simp, .branch hi hcond hd, fun _ => noElse_cons hne⟩

/-- **What is read behind `for` is a counting loop**, whose body takes the increment; behind it no `else` is
left if its body is open. -/
theorem counting_derives {forWord : Token} (hf : forWord.kind = .forWord) {s : Stmt} {rest : List Token}
    (h : ((clauses fin tokens).outcome.bind fun parts left =>
      (statement fin left).outcome.bind fun body after =>
        .settle ((CountingLoop.expand parts.initial parts.condition parts.increment body).mapError
          fun refused => ⟨.loopBody refused, forWord.span, none⟩) after) = .ok s rest) :
    ∃ used isOpen, tokens = used ++ rest ∧ Derives.Statement isOpen (forWord :: used) s ∧
      (isOpen = true → NoElse rest) := by
  obtain ⟨parts, left, hp, hnext⟩ := Outcome.bind_eq_ok.mp h
  obtain ⟨used, rfl, opening, is, cs, semicolon, ns, closing, rfl, ho, hi, hc, hs, hn, hcl⟩ := clauses_derives hp
  obtain ⟨body, after, hb, hlast⟩ := Outcome.bind_eq_ok.mp hnext
  have fewer : left.length < (opening :: (is ++ (cs ++ semicolon :: (ns ++ [closing]))) ++ left).length := by
    rw [List.length_append, List.length_cons]
    omega
  obtain ⟨ts, isOpen, rfl, hd, noElse⟩ := (shorter left (List.suffix_append _ _) fewer).statement hb
  obtain ⟨hexpand, rfl⟩ := Outcome.settle_eq_ok.mp hlast
  -- The loop was read, so joining the increment to its body was not refused.
  have expanded : CountingLoop.expand parts.initial parts.condition parts.increment body = .ok s := by
    cases he : CountingLoop.expand parts.initial parts.condition parts.increment body with
    | ok s' =>
      rw [he] at hexpand
      cases hexpand
      rfl
    | error refused =>
      rw [he] at hexpand
      cases hexpand
  obtain ⟨extended, hx, rfl⟩ := expand_eq_ok_iff.mp expanded
  exact ⟨opening :: (is ++ (cs ++ semicolon :: (ns ++ closing :: ts))), isOpen, by simp,
    .counting hf ho hi hc hs hn hcl hd hx, noElse⟩

/-- The first token tells which statement was read. -/
theorem statement_derives_of_shorter {s : Stmt} {rest : List Token}
    (h : (statement fin tokens).outcome = .ok s rest) :
    ∃ used isOpen, tokens = used ++ rest ∧ Derives.Statement isOpen used s ∧
      (isOpen = true → NoElse rest) := by
  cases tokens with
  | nil =>
    rw [outcome_statement_nil] at h
    cases h
  | cons t more =>
    -- Every clause reads behind the first token, where the statements are shorter.
    have shorter' : ∀ us, us <:+ more → FaithfulStatements fin us := fun us suffix =>
      shorter us (suffix.trans (List.suffix_cons _ _)) (Nat.lt_succ_of_le suffix.length_le)
    rw [outcome_statement_cons] at h
    split at h
    · next hk =>
      obtain ⟨e, left, he, hlast⟩ := Outcome.bind_eq_ok.mp h
      obtain ⟨used, semicolon, rfl, hd, hs⟩ := expressionThen_derives he
      cases hlast
      exact ⟨t :: (used ++ [semicolon]), false, by simp, .print hk hd hs, by simp⟩
    · next hk =>
      obtain ⟨ss, left, hi, hlast⟩ := Outcome.bind_eq_ok.mp h
      obtain ⟨used, closing, rfl, hc, hd⟩ := (shorter' more (List.suffix_refl _)).items hi
      cases hlast
      exact ⟨t :: (used ++ [closing]), false, by simp, .block hk hd hc, by simp⟩
    · next hk =>
      obtain ⟨used, isOpen, rfl, hd, noElse⟩ :=
        branch_derives (fun us suffix _ => shorter' us suffix) hk h
      exact ⟨t :: used, isOpen, rfl, hd, noElse⟩
    · next hk =>
      obtain ⟨test, left, ht, hnext⟩ := Outcome.bind_eq_ok.mp h
      obtain ⟨cs, rfl, hcond⟩ := condition_derives rfl rfl ht
      obtain ⟨body, after, hb, hlast⟩ := Outcome.bind_eq_ok.mp hnext
      obtain ⟨ts, isOpen, rfl, hd, noElse⟩ := (shorter' left (List.suffix_append _ _)).statement hb
      cases hlast
      exact ⟨t :: (cs ++ ts), isOpen, by simp, .loop hk hcond hd, noElse⟩
    · next hk =>
      obtain ⟨used, isOpen, rfl, hd, noElse⟩ :=
        counting_derives (fun us suffix _ => shorter' us suffix) hk h
      exact ⟨t :: used, isOpen, rfl, hd, noElse⟩
    · obtain ⟨e, left, he, hlast⟩ := Outcome.bind_eq_ok.mp h
      obtain ⟨used, semicolon, hu, hd, hs⟩ := expressionThen_derives he
      cases hlast
      exact ⟨used ++ [semicolon], false, by simp [hu], .expression hd hs, by simp⟩

/-- What is read up to the closing brace is declarations, if statements are what they are read as. -/
theorem blockItems_derives_of_shorter
    (statement : ∀ {s rest}, (statement fin tokens).outcome = .ok s rest →
      ∃ used isOpen, tokens = used ++ rest ∧ Derives.Statement isOpen used s ∧
        (isOpen = true → NoElse rest))
    {ss : List Stmt} {rest : List Token} (h : (blockItems fin tokens).outcome = .ok ss rest) :
    ∃ used closing, tokens = used ++ closing :: rest ∧ closing.kind = .rightBrace ∧
      Derives.Declarations used ss := by
  cases tokens with
  | nil =>
    rw [outcome_blockItems_nil] at h
    cases h
  | cons t more =>
    rw [outcome_blockItems_cons] at h
    split at h
    · next hk =>
      cases h
      exact ⟨[], t, rfl, hk, .nil⟩
    · obtain ⟨first, left, hf, hnext⟩ := Outcome.bind_eq_ok.mp h
      obtain ⟨others, after, ho, hlast⟩ := Outcome.bind_eq_ok.mp hnext
      obtain ⟨ts, hts, hd⟩ := declaration_derives_of statement hf
      -- A declaration takes at least one token, which is why the items behind it are read from fewer.
      have pos : 0 < ts.length := by
        obtain ⟨u, us, rfl, -⟩ := hd.head
        simp
      have length : left.length < (t :: more).length := by simp [hts]; omega
      obtain ⟨us, closing, rfl, hc, hds⟩ :=
        (shorter left (hts ▸ List.suffix_append _ _) length).items ho
      cases hlast
      exact ⟨ts ++ us, closing, by simp [hts], hc, .cons hd hds⟩

end

/-- **Soundness for statements**, together with the contents of blocks. -/
theorem faithfulStatements {tokens : List Token} :
    FaithfulStatements fin tokens := by
  -- Strong induction on the number of tokens, for statements and for the items of a block at once.
  induction hn : tokens.length using Nat.strongRecOn generalizing tokens with
  | ind n ih =>
    subst hn
    have shorter : ∀ us, us <:+ tokens → us.length < tokens.length → FaithfulStatements fin us :=
      fun us suffix lt => ih us.length lt rfl
    have statement : ∀ {s rest}, (statement fin tokens).outcome = .ok s rest →
        ∃ used isOpen, tokens = used ++ rest ∧ Derives.Statement isOpen used s ∧
          (isOpen = true → NoElse rest) :=
      fun h => statement_derives_of_shorter shorter h
    exact ⟨statement, fun h => blockItems_derives_of_shorter shorter statement h⟩

/-- **What is read as a statement is one**, and behind an open one no `else` is left. -/
theorem statement_derives {tokens : List Token} {s : Stmt}
    {rest : List Token} (h : (statement fin tokens).outcome = .ok s rest) :
    ∃ used isOpen, tokens = used ++ rest ∧ Derives.Statement isOpen used s ∧
      (isOpen = true → NoElse rest) :=
  faithfulStatements.statement h

/-- **What is read as a declaration is one.** -/
theorem declaration_derives {tokens : List Token} {s : Stmt}
    {rest : List Token} (h : (declaration fin tokens).outcome = .ok s rest) :
    ∃ used, tokens = used ++ rest ∧ Derives.Declaration used s :=
  declaration_derives_of (fun h => statement_derives h) h

end Soundness

end LoxScript.Grammar
