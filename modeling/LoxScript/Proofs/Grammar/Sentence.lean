import LoxScript.Proofs.Grammar.Origin

/-! # Reading sentences

A sentence is tokens up to a semicolon. What is read from it does not depend on what follows it, unless all of
it is a statement, which an alternative may follow.

* **`Sentence`** — tokens that end with their only semicolon, without an opening brace or the word `for`.
* **`declaration_whole`** — a declaration read from a sentence takes all of it, or fails with a fault that is
  the same whatever follows.
* **`Sentence.recoverFrom`** — behind a declaration that failed in a sentence, reading goes on behind the
  sentence, if only its first token is a word that begins statements. -/

namespace LoxScript.Grammar

/-- **Sentences**: tokens that end with their only semicolon, without an opening brace or the word `for`. -/
inductive Sentence : List Token → Prop
  | last {t : Token} : t.kind = .semicolon → Sentence [t]
  | cons {t : Token} {rest : List Token} :
      t.kind ∉ [.semicolon, .leftBrace, .forWord] → Sentence rest → Sentence (t :: rest)

namespace Sentence

variable {t : Token} {rest : List Token}

/-- The semicolon is the last token, and every other token is followed by a sentence. -/
theorem cons_cases (h : Sentence (t :: rest)) :
    (t.kind = .semicolon ∧ rest = []) ∨ (t.kind ≠ .semicolon ∧ Sentence rest) := by
  cases h with
  | last semicolon => exact .inl ⟨semicolon, rfl⟩
  | cons plain h =>
    refine .inr ⟨fun semicolon => plain ?_, h⟩
    rw [semicolon]
    exact List.mem_cons_self

/-- Behind a token that is no semicolon the sentence goes on. -/
theorem tail (h : Sentence (t :: rest)) (kind : t.kind ≠ .semicolon) : Sentence rest := by
  obtain ⟨semicolon, -⟩ | ⟨-, h⟩ := h.cons_cases
  · exact absurd semicolon kind
  · exact h

/-- No sentence begins with a brace or with the word `for`. -/
theorem head_ne (h : Sentence (t :: rest)) {k : Kind} (excluded : k ∈ [.leftBrace, .forWord]) :
    t.kind ≠ k := by
  rintro rfl
  cases h with
  | last semicolon =>
    rw [semicolon] at excluded
    exact absurd excluded (by decide)
  | cons plain _ => exact plain (List.mem_cons_of_mem _ excluded)

/-- Plain tokens and a semicolon are a sentence. -/
theorem of_append {body : List Token} (semicolon : t.kind = .semicolon)
    (plain : ∀ u ∈ body, u.kind ∉ [.semicolon, .leftBrace, .forWord]) : Sentence (body ++ [t]) := by
  induction body with
  | nil => exact .last semicolon
  | cons u us ih =>
    exact .cons (plain u List.mem_cons_self) (ih fun v mem => plain v (List.mem_cons_of_mem _ mem))

end Sentence

/-! ## Outcomes of reading a sentence -/

section Outcomes

variable {fin fin' : Span} {more tokens : List Token} {α β : Type}

/-- What is read inside of a sentence: a phrase with the semicolon still to come, or a fault. Either is the
same with `more` behind the sentence. -/
inductive Inside (more : List Token) : Outcome α → Outcome α → Prop
  | ok (a : α) {left : List Token} : Sentence left → Inside more (.ok a left) (.ok a (left ++ more))
  | error (fault : Fault SyntaxCause) (left : List Token) :
      Inside more (.error fault left) (.error fault (left ++ more))

/-- What is read from a sentence as a whole: a phrase that takes all of it, or a fault that is the same with
`more` behind the sentence. -/
inductive Whole (more : List Token) : Outcome α → Outcome α → Prop
  | ok (a : α) (o' : Outcome α) : Whole more (.ok a []) o'
  | error (fault : Fault SyntaxCause) (left : List Token) :
      Whole more (.error fault left) (.error fault (left ++ more))

section Composition

variable {o o' : Outcome α} {next next' : α → List Token → Outcome β}

/-- Inside a sentence, what is read next may end inside as well. -/
theorem Inside.inside (h : Inside more o o')
    (second : ∀ a left, Sentence left → Inside more (next a left) (next' a (left ++ more))) :
    Inside more (o.bind next) (o'.bind next') := by
  cases h with
  | ok a sentence => exact second a _ sentence
  | error fault left => exact .error fault left

/-- Or it may take the rest of the sentence. -/
theorem Inside.whole (h : Inside more o o')
    (second : ∀ a left, o = .ok a left → Sentence left → Whole more (next a left) (next' a (left ++ more))) :
    Whole more (o.bind next) (o'.bind next') := by
  cases h with
  | ok a sentence => exact second a _ rfl sentence
  | error fault left => exact .error fault left

/-- A step that takes nothing may follow what takes a whole sentence. -/
theorem Whole.bind (h : Whole more o o') (finish : ∀ a, ∃ b, next a [] = .ok b []) :
    Whole more (o.bind next) (o'.bind next') := by
  cases h with
  | ok a o' =>
    obtain ⟨b, finished⟩ := finish a
    rw [LoxScript.Outcome.bind_ok, finished]
    exact .ok b _
  | error fault left => exact .error fault left

end Composition

variable (fin fin' more)

/-! ## Expressions -/

/-- A required token that is no semicolon ends inside. -/
theorem requiring_inside {required : Requirement} (kind : required.kind ≠ .semicolon)
    (sentence : Sentence tokens) :
    Inside more (requiring fin required tokens) (requiring fin' required (tokens ++ more)) := by
  cases tokens with
  | nil => cases sentence
  | cons t rest =>
    rw [List.cons_append, requiring, requiring]
    split
    · next same => exact .ok t (sentence.tail (same ▸ kind))
    · exact .error _ (t :: rest)

/-- The semicolon is the last token of a sentence. -/
theorem requiring_whole {required : Requirement} (kind : required.kind = .semicolon)
    (sentence : Sentence tokens) :
    Whole more (requiring fin required tokens) (requiring fin' required (tokens ++ more)) := by
  cases sentence with
  | last semicolon =>
    rw [requiring, if_pos (semicolon.trans kind.symm)]
    exact .ok _ _
  | @cons t rest plain _ =>
    have other : t.kind ≠ required.kind := by
      intro same
      exact plain (by rw [same, kind]; exact List.mem_cons_self)
    rw [List.cons_append, requiring, requiring, if_neg other, if_neg other]
    exact .error _ (t :: rest)

/-- Staying inside of a sentence is kept by composition. -/
theorem inside_compositional :
    Compositional fin fin' more (fun tokens o o' => Sentence tokens → Inside more o o') where
  done a _ sentence := .ok a sentence
  idle _ _ sentence := nomatch sentence
  take kind h sentence := h (sentence.tail kind)
  bind _ first second sentence := by
    cases first sentence with
    | ok a sentence' => exact second a _ rfl sentence'
    | error fault left => exact .error fault left
  closing _ sentence := requiring_inside fin fin' more (by decide) sentence
  ended _ sentence := nomatch sentence
  noExpression _ rest _ := .error _ rest
  target kind _ h sentence :=
    (h (sentence.tail (by rw [kind]; decide))).inside fun _ left _ => .error _ left

/-- So does an expression, which has no semicolon. -/
theorem expression_inside (sentence : Sentence tokens) :
    Inside more (expression fin tokens).outcome (expression fin' (tokens ++ more)).outcome :=
  ((inside_compositional fin fin' more).throughout tokens).expression sentence

/-- So does an expression with a token behind it that is no semicolon. -/
theorem expressionThen_inside {required : Requirement} (kind : required.kind ≠ .semicolon)
    (sentence : Sentence tokens) :
    Inside more (expressionThen fin required tokens).outcome
      (expressionThen fin' required (tokens ++ more)).outcome := by
  rw [outcome_expressionThen, outcome_expressionThen]
  exact (expression_inside fin fin' more sentence).inside fun e left sentence' =>
    (requiring_inside fin fin' more kind sentence').inside fun _ _ sentence'' => .ok e sentence''

/-- An expression with a semicolon behind it takes the sentence. -/
theorem expressionThen_whole {required : Requirement} (kind : required.kind = .semicolon)
    (sentence : Sentence tokens) :
    Whole more (expressionThen fin required tokens).outcome
      (expressionThen fin' required (tokens ++ more)).outcome := by
  rw [outcome_expressionThen, outcome_expressionThen]
  exact (expression_inside fin fin' more sentence).whole fun e left _ sentence' =>
    (requiring_whole fin fin' more kind sentence').bind fun _ => ⟨e, rfl⟩

/-! ## Statements -/

/-- A condition ends inside. -/
theorem condition_inside {opening closing : Requirement} (opens : opening.kind ≠ .semicolon)
    (closes : closing.kind ≠ .semicolon) (sentence : Sentence tokens) :
    Inside more (condition fin opening closing tokens).outcome
      (condition fin' opening closing (tokens ++ more)).outcome := by
  rw [outcome_condition, outcome_condition]
  exact (requiring_inside fin fin' more opens sentence).inside fun _ _ sentence' =>
    expressionThen_inside fin fin' more closes sentence'

/-- A declaration of a variable takes the sentence. -/
theorem variableDeclaration_whole (sentence : Sentence tokens) :
    Whole more (variableDeclaration fin tokens).outcome
      (variableDeclaration fin' (tokens ++ more)).outcome := by
  rw [outcome_variableDeclaration, outcome_variableDeclaration]
  refine (requiring_inside fin fin' more (by decide) sentence).whole fun name left _ sentence' => ?_
  cases left with
  | nil => cases sentence'
  | cons t rest =>
    rw [List.cons_append]
    dsimp only
    split
    · next equal =>
      have value := sentence'.tail (by rw [equal]; decide)
      exact (expressionThen_whole fin fin' more rfl value).bind fun e => ⟨.declare name (some e), rfl⟩
    · exact (requiring_whole fin fin' more rfl sentence').bind fun _ => ⟨.declare name none, rfl⟩

/-- A statement read from a sentence ends with it: an alternative would have to follow the semicolon. -/
theorem statement_whole (sentence : Sentence tokens) :
    Whole more (statement fin tokens).outcome (statement fin' (tokens ++ more)).outcome := by
  -- A statement inside a statement begins behind a condition.
  induction hn : tokens.length using Nat.strongRecOn generalizing tokens with
  | ind n ih =>
    subst hn
    cases tokens with
    | nil => cases sentence
    | cons t rest =>
      have inner : ∀ {opening closing : Requirement} {test : Expr} {left : List Token},
          (condition fin opening closing rest).outcome = .ok test left → Sentence left →
          Whole more (statement fin left).outcome (statement fin' (left ++ more)).outcome :=
        fun read sentence' => ih _ (Nat.lt_succ_of_lt (Reading.behind_of_ok read).length_lt) sentence' rfl
      rw [List.cons_append, outcome_statement_cons, outcome_statement_cons]
      split
      · next word =>
        have printed := sentence.tail (by rw [word]; decide)
        exact (expressionThen_whole fin fin' more rfl printed).bind fun e => ⟨.print e, rfl⟩
      · next brace =>
        exact absurd brace (sentence.head_ne (by decide))
      · next word =>
        rw [outcome_branch, outcome_branch]
        have test := sentence.tail (by rw [word]; decide)
        exact (condition_inside fin fin' more (by decide) (by decide) test).whole
          fun test left read sentence' => (inner read sentence').bind fun s => ⟨.branch test s none, rfl⟩
      · next word =>
        have test := sentence.tail (by rw [word]; decide)
        exact (condition_inside fin fin' more (by decide) (by decide) test).whole
          fun test left read sentence' => (inner read sentence').bind fun s => ⟨.loop test s, rfl⟩
      · next word =>
        exact absurd word (sentence.head_ne (by decide))
      · exact (expressionThen_whole fin fin' more rfl sentence).bind fun e => ⟨.expression e, rfl⟩

/-- **A declaration read from a sentence takes all of it**, or fails alike whatever follows. -/
theorem declaration_whole (sentence : Sentence tokens) :
    Whole more (declaration fin tokens).outcome (declaration fin' (tokens ++ more)).outcome := by
  cases tokens with
  | nil => cases sentence
  | cons t rest =>
    have statement := statement_whole fin fin' more sentence
    rw [List.cons_append] at statement ⊢
    rw [outcome_declaration_cons, outcome_declaration_cons]
    split
    · next var => exact variableDeclaration_whole fin fin' more (sentence.tail (by rw [var]; decide))
    · exact statement

end Outcomes

/-! ## Recovery -/

/-- Behind a semicolon reading goes on at once. -/
theorem resume_semicolon {t : Token} (h : t.kind = .semicolon) (rest : List Token) :
    resume (some t) rest = rest := by
  cases rest with
  | nil => rfl
  | cons u us => simp [resume, h]

namespace Sentence

variable {t : Token} {tokens left : List Token}

/-- Reading goes on behind a sentence in which no word begins a statement. -/
theorem resume (sentence : Sentence tokens) (plain : ∀ t ∈ tokens, t.kind.startsStatement = false)
    {previous : Token} (inside : previous.kind ≠ .semicolon) (rest : List Token) :
    Grammar.resume (some previous) (tokens ++ rest) = rest := by
  induction tokens generalizing previous with
  | nil => cases sentence
  | cons t others ih =>
    have on : Grammar.resume (some previous) (t :: (others ++ rest)) =
        Grammar.resume (some t) (others ++ rest) := by
      simp [Grammar.resume, inside, plain t List.mem_cons_self]
    rw [List.cons_append, on]
    obtain ⟨semicolon, rfl⟩ | ⟨kind, sentence'⟩ := sentence.cons_cases
    · exact resume_semicolon semicolon rest
    · exact ih sentence' (fun u mem => plain u (List.mem_cons_of_mem _ mem)) kind

/-- The same behind every token of the sentence. -/
theorem resume_behind {taken : List Token} (sentence : Sentence (taken ++ t :: left))
    (plain : ∀ u ∈ left, u.kind.startsStatement = false) (rest : List Token) :
    Grammar.resume (some t) (left ++ rest) = rest := by
  induction taken with
  | nil =>
    obtain ⟨semicolon, rfl⟩ | ⟨kind, sentence'⟩ := sentence.cons_cases
    · exact resume_semicolon semicolon rest
    · exact sentence'.resume plain kind rest
  | cons u us ih =>
    obtain ⟨-, none⟩ | ⟨-, sentence'⟩ := sentence.cons_cases
    · exact absurd none (List.append_ne_nil_of_right_ne_nil _ (List.cons_ne_nil _ _))
    · exact ih sentence'

/-- **Recovery takes the rest of a sentence, and nothing else**, if at most its first token is a
word that begins statements. -/
theorem recoverFrom {first : Token} (sentence : Sentence (first :: tokens))
    (plain : ∀ t ∈ tokens, t.kind.startsStatement = false) (suffix : left <:+ first :: tokens)
    (rest : List Token) : Grammar.recoverFrom first (tokens ++ rest) (left ++ rest) = rest := by
  obtain ⟨taken, split⟩ := suffix
  -- What was taken is a part of the sentence, whatever follows that.
  have whole : first :: (tokens ++ rest) = taken ++ (left ++ rest) := by
    rw [← List.cons_append, ← split, List.append_assoc]
  have front : (taken ++ (left ++ rest)).take ((taken ++ (left ++ rest)).length - (left ++ rest).length) =
      taken := by
    rw [List.length_append, Nat.add_sub_cancel, List.take_left]
  rw [Grammar.recoverFrom, whole, front]
  -- A declaration that took no token loses its first one.
  rcases List.eq_nil_or_concat' taken with rfl | ⟨init, last, rfl⟩
  · exact resume_behind (List.nil_append (first :: tokens) ▸ sentence) plain rest
  · rw [List.getLast?_concat]
    rw [List.append_assoc, List.singleton_append] at split
    refine resume_behind (split ▸ sentence) (fun u mem => plain u ?_) rest
    cases init with
    | nil => exact (List.cons.inj split).2 ▸ mem
    | cons v vs =>
      rw [← (List.cons.inj split).2]
      exact List.mem_append_right _ (List.mem_cons_of_mem _ mem)

end Sentence

end LoxScript.Grammar
