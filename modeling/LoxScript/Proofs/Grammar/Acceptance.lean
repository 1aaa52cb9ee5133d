import LoxScript.Proofs.Grammar.StatementReading

/-! # The programs that are accepted

A list of tokens is accepted iff it is a program of the grammar, and then gives the tree of its
derivation.
The fault of a declaration is recorded and reading goes on, so acceptance is that no fault is recorded
over the whole list.

* **`Derives.Declarations.readProgram`** — the declarations of a program are read without a fault.
* **`readProgram_derives`** — tokens read without a fault are a program.
* **`parse_eq_ok_iff_derives`** — the two together: the accepted lists, their trees, and that no list has
  two. -/

namespace LoxScript.Grammar

section

variable (fin : Span) (lines : Option (List String)) (limit found : Nat)

/-- After a declaration that is read, reading goes on behind it. -/
theorem readProgram_of_declaration {t : Token} {more rest : List Token} {s : Stmt}
    (h : (declaration fin (t :: more)).outcome = .ok s rest) :
    readProgram fin lines limit found (t :: more) =
      { readProgram fin lines limit found rest with
        statements := s :: (readProgram fin lines limit found rest).statements } := by
  rw [readProgram]
  cases hd : declaration fin (t :: more) with
  | done s' rest' behind =>
    rw [hd] at h
    cases h
    rfl
  | failed fault left suffix =>
    rw [hd] at h
    cases h

/-- A declaration that is not read leaves its fault. Reading ends there, or goes on after recovery. -/
theorem readProgram_of_fault {t : Token} {more left : List Token} {fault : Fault SyntaxCause}
    (h : (declaration fin (t :: more)).outcome = .error fault left) :
    readProgram fin lines limit found (t :: more) =
      if limit ≤ found + 1 then ⟨[], [fault.quote (lines.getD [])], left⟩
      else { readProgram fin lines limit (found + 1) (recoverFrom t more left) with
        faults := fault.quote (lines.getD []) ::
          (readProgram fin lines limit (found + 1) (recoverFrom t more left)).faults } := by
  rw [readProgram]
  cases hd : declaration fin (t :: more) with
  | done s rest behind =>
    rw [hd] at h
    cases h
  | failed fault' left' suffix =>
    rw [hd] at h
    cases h
    rfl

/-- **Completeness for programs**: declarations one after another are read without a fault. -/
theorem Derives.Declarations.readProgram {ts : List Token} {ss : List Stmt}
    (h : Derives.Declarations ts ss) : readProgram fin lines limit found ts = ⟨ss, [], []⟩ := by
  induction ss generalizing ts with
  | nil =>
    cases h
    rw [Grammar.readProgram]
  | cons s ss ih =>
    cases h with
    | cons h hs =>
      have others := ih hs
      have first := h.read fin _ (hs.noElse noElse_nil)
      obtain ⟨t, us, rfl, -⟩ := h.head
      rw [List.append_nil] at first
      rw [List.cons_append] at first ⊢
      rw [readProgram_of_declaration fin lines limit found first, others]

variable {fin lines limit found}

/-- **Soundness for programs**: what is read without a fault is declarations one after another. -/
theorem readProgram_derives {tokens : List Token}
    (h : (readProgram fin lines limit found tokens).faults = []) :
    Derives.Declarations tokens (readProgram fin lines limit found tokens).statements := by
  -- Each declaration takes a token, so the tokens left get fewer.
  induction hn : tokens.length using Nat.strongRecOn generalizing tokens with
  | ind n ih =>
    subst hn
    cases tokens with
    | nil =>
      rw [readProgram]
      exact .nil
    | cons t more =>
      cases hd : (declaration fin (t :: more)).outcome with
      | error fault left =>
        rw [readProgram_of_fault fin lines limit found hd] at h
        split at h <;> cases h
      | ok s rest =>
        rw [readProgram_of_declaration fin lines limit found hd] at h ⊢
        obtain ⟨used, hused, hs⟩ := declaration_derives hd
        have taken : 0 < used.length := by
          obtain ⟨u, us, rfl, -⟩ := hs.head
          exact Nat.zero_lt_succ _
        have shorter : rest.length < (t :: more).length := by
          rw [hused, List.length_append]
          omega
        have others := ih rest.length shorter h rfl
        rw [hused]
        exact .cons hs others

end

/-- What a fresh parser recovers from all of its tokens. -/
theorem recover_ofTokens (tokens : List Token) (source : Option String) (limit : Nat) :
    (Parser.ofTokens tokens source limit).recover.1 =
        (readProgram (endSpan tokens) (source.map Lines.ofSource) limit 0 tokens).statements ∧
      (Parser.ofTokens tokens source limit).recover.2.faults =
        (readProgram (endSpan tokens) (source.map Lines.ofSource) limit 0 tokens).faults :=
  ⟨rfl, List.nil_append _⟩

/-- A program of the grammar is accepted. -/
theorem parse_of_derives {tokens : List Token} {ss : List Stmt} (h : Derives.Declarations tokens ss)
    (source : Option String) : parse tokens source = .ok ss := by
  simp only [parse, Parser.recover, Parser.ofTokens, h.readProgram, List.append_nil]

/-- Tokens that begin with no declaration are refused with the fault of it. -/
theorem parse_of_fault {t : Token} {more left : List Token} {fault : Fault SyntaxCause}
    (h : (declaration (endSpan (t :: more)) (t :: more)).outcome = .error fault left)
    (source : Option String) :
    parse (t :: more) source = .error (fault.quote ((source.map Lines.ofSource).getD [])) := by
  have reading := recover_ofTokens (t :: more) source 20
  rw [readProgram_of_fault _ _ _ _ h, if_neg (by decide)] at reading
  simp only [parse, reading.2]

/-- What is accepted is a program of the grammar. -/
theorem derives_of_parse {tokens : List Token} {source : Option String} {ss : List Stmt}
    (h : parse tokens source = .ok ss) : Derives.Declarations tokens ss := by
  simp only [parse, Parser.recover, Parser.ofTokens, List.nil_append] at h
  split at h
  · next none =>
    cases h
    exact readProgram_derives none
  · cases h

/-- What is accepted as one statement is a declaration of the grammar. -/
theorem parse_eq_singleton_iff {tokens : List Token} {source : Option String} {s : Stmt} :
    parse tokens source = .ok [s] ↔ Derives.Declaration tokens s := by
  constructor
  · intro h
    cases derives_of_parse h with
    | cons declaration others =>
      cases others
      rwa [List.append_nil]
  · intro h
    have program := parse_of_derives (.cons h .nil) source
    rwa [List.append_nil] at program

/-- **The parser accepts exactly the programs of the grammar.** A list of tokens is accepted with the
statements `ss` iff it derives them; no list derives two programs, and a list that derives none is refused
with a fault. -/
theorem parse_eq_ok_iff_derives (tokens : List Token) (source : Option String) :
    (∀ ss, parse tokens source = .ok ss ↔ Derives.Declarations tokens ss) ∧
      (∀ ss ss', Derives.Declarations tokens ss → Derives.Declarations tokens ss' → ss = ss') ∧
      ((∀ ss, ¬ Derives.Declarations tokens ss) → ∃ fault, parse tokens source = .error fault) := by
  refine ⟨fun ss => ⟨derives_of_parse, fun h => parse_of_derives h source⟩, ?_, ?_⟩
  · intro ss ss' h h'
    have same := (parse_of_derives h source).symm.trans (parse_of_derives h' source)
    exact Except.ok.inj same
  · intro none
    cases h : parse tokens source with
    | ok ss => exact absurd (derives_of_parse h) (none ss)
    | error fault => exact ⟨fault, rfl⟩

/-- A token of the kind `k` without datum, lexeme or place. -/
def bare (k : Kind) : Token := ⟨k, none, "", default⟩

/-- The tokens of `if (x) if (x) x; else x;`: the inner choice takes the alternative. -/
example :
    let x := bare .identifier
    let condition := [bare .leftParen, x, bare .rightParen]
    parse (bare .ifWord :: (condition ++ bare .ifWord ::
        (condition ++ ([x, bare .semicolon] ++ bare .elseWord :: [x, bare .semicolon])))) none = .ok
      [.branch (.reference x)
        (.branch (.reference x) (.expression (.reference x)) (some (.expression (.reference x))))
        none] := by
  intro x condition
  have name : Derives.Expression [x] (.reference x) :=
    .operand (.tighter (.tighter (.tighter (.tighter (.prefixed (.primary (.name rfl)))))))
  have test : Derives.Condition condition (.reference x) := .mk rfl name rfl
  have only : Derives.Statement false [x, bare .semicolon] (.expression (.reference x)) :=
    .expression name rfl
  have inner : Derives.Statement false (bare .ifWord ::
      (condition ++ ([x, bare .semicolon] ++ bare .elseWord :: [x, bare .semicolon]))) _ :=
    .choice rfl test only rfl only
  have outer : Derives.Statement true (bare .ifWord :: (condition ++ _)) _ := .branch rfl test inner
  have program := Derives.Declarations.cons (.statement outer) .nil
  rw [List.append_nil] at program
  exact parse_of_derives program none

end LoxScript.Grammar
