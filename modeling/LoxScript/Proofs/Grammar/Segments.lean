import LoxScript.Proofs.Grammar.Acceptance
import LoxScript.Proofs.Grammar.Sentence
import Mathlib.Data.List.Forall2

/-! # Programs with faults in them

A program with faults is segments one after another: declarations, and sentences that are none. Recovery
starts again at the next segment, so a segment that cannot be read costs one fault and no statement.

* **`BadSegment.declaration_eq_error`** — a segment that is no declaration fails with the same fault whatever
  follows it.
* **`readProgram_segments`** — reading takes the segments one by one.
* **`recover_segments`** — the result for parsers. -/

namespace LoxScript.Grammar

/-! ## Segments -/

/-- Tokens that are accepted as exactly one declaration. -/
structure GoodSegment where
  /-- The tokens of the declaration. -/
  tokens : List Token
  /-- The tree of the declaration. -/
  tree : Stmt
  accepted : parse tokens none = .ok [tree]

/-- A sentence that is not accepted as a declaration. It does not begin with `else`, and a word that begins
statements is at most its first token. -/
structure BadSegment where
  /-- The tokens before the semicolon. -/
  body : List Token
  /-- The last token. -/
  semicolon : Token
  semicolon_kind : semicolon.kind = .semicolon
  plain : ∀ t ∈ body, t.kind ∉ [.semicolon, .leftBrace, .forWord]
  noElse : NoElse body
  words : ∀ t ∈ body.tail, t.kind.startsStatement = false
  refused : ∀ s, parse (body ++ [semicolon]) none ≠ .ok [s]

/-- **Segments** of a program. -/
inductive Segment where
  /-- A declaration. -/
  | good (segment : GoodSegment)
  /-- A sentence that is none. -/
  | bad (segment : BadSegment)

/-- All tokens of a bad segment. -/
def BadSegment.tokens (b : BadSegment) : List Token := b.body ++ [b.semicolon]

namespace Segment

/-- The tokens of a segment. -/
def tokens : Segment → List Token
  | good g => g.tokens
  | bad b => b.tokens

/-- The tree of a segment that is a declaration. -/
def tree? : Segment → Option Stmt
  | good g => some g.tree
  | bad _ => none

/-- The segment, if it is not a declaration. -/
def bad? : Segment → Option BadSegment
  | good _ => none
  | bad b => some b

end Segment

/-- The grammar says the same of a good segment. -/
theorem GoodSegment.derives (g : GoodSegment) : Derives.Declaration g.tokens g.tree :=
  parse_eq_singleton_iff.mp g.accepted

namespace BadSegment

variable (b : BadSegment)

/-- A bad segment is a sentence. -/
theorem sentence : Sentence b.tokens := .of_append b.semicolon_kind b.plain

/-- No word behind its first token begins a statement, nor does its semicolon. -/
theorem words_tokens : ∀ t ∈ b.tokens.tail, t.kind.startsStatement = false := by
  intro t mem
  have words := b.words
  rw [tokens] at mem
  cases body : b.body with
  | nil =>
    rw [body] at mem
    cases mem
  | cons first rest =>
    rw [body] at mem words
    rcases List.mem_append.mp mem with mem | mem
    · exact words t mem
    · rw [List.mem_singleton.mp mem, b.semicolon_kind]
      rfl

/-- **A segment that is no declaration fails with the same fault whatever follows it**, and reading stops
inside of it. -/
theorem declaration_eq_error (fin fin' : Span) (more : List Token) :
    ∃ fault left, left <:+ b.tokens ∧ (declaration fin b.tokens).outcome = .error fault left ∧
      (declaration fin' (b.tokens ++ more)).outcome = .error fault (left ++ more) := by
  have whole := declaration_whole fin fin' more b.sentence
  cases read : (declaration fin b.tokens).outcome with
  | ok s left =>
    -- A declaration that takes the whole sentence makes the segment a good one.
    rw [read] at whole
    cases whole
    obtain ⟨used, tokens_eq, derives⟩ := declaration_derives read
    rw [List.append_nil] at tokens_eq
    subst tokens_eq
    exact absurd (parse_eq_singleton_iff.mpr derives) (b.refused s)
  | error fault left =>
    rw [read] at whole
    refine ⟨fault, left, Reading.suffix_of_error read, rfl, ?_⟩
    cases read' : (declaration fin' (b.tokens ++ more)).outcome with
    | ok s left' =>
      rw [read'] at whole
      cases whole
    | error fault' left' =>
      rw [read'] at whole
      cases whole
      rfl

end BadSegment

/-- No segment begins with `else`, so none is taken for an alternative of the one before. -/
theorem noElse_segments (segments : List Segment) : NoElse (segments.flatMap Segment.tokens) := by
  cases segments with
  | nil => exact noElse_nil
  | cons segment rest =>
    rw [List.flatMap_cons]
    cases segment with
    | good g =>
      obtain ⟨t, us, tokens_eq, begins⟩ := g.derives.head
      rw [Segment.tokens, tokens_eq, List.cons_append]
      refine noElse_cons fun word => ?_
      rw [word] at begins
      cases begins
    | bad b =>
      rw [Segment.tokens, BadSegment.tokens]
      cases body : b.body with
      | nil => exact noElse_cons (by rw [b.semicolon_kind]; decide)
      | cons t us => exact noElse_cons (b.noElse t (by rw [body]; rfl))

/-! ## Reading segments -/

section

variable (fin : Span) (source : Option String) (limit : Nat)

/-- **Reading takes segments one by one**: it gives the trees of the declarations, and for each other segment
the fault with which that is refused by itself, all in order. -/
theorem readProgram_segments (segments : List Segment) (found : Nat)
    (enough : found + (segments.filterMap Segment.bad?).length < limit) :
    ∃ faults, readProgram fin (source.map Lines.ofSource) limit found (segments.flatMap Segment.tokens) =
        ⟨segments.filterMap Segment.tree?, faults, []⟩ ∧
      List.Forall₂ (fun b fault => parse b.tokens source = .error fault)
        (segments.filterMap Segment.bad?) faults := by
  induction segments generalizing found with
  | nil =>
    rw [List.flatMap_nil, readProgram]
    exact ⟨[], rfl, .nil⟩
  | cons segment rest ih =>
    rw [List.flatMap_cons]
    cases segment with
    | good g =>
      obtain ⟨faults, others, alone⟩ := ih found enough
      have first := g.derives.read fin (rest.flatMap Segment.tokens) (noElse_segments rest)
      obtain ⟨t, us, tokens_eq, -⟩ := g.derives.head
      rw [tokens_eq, List.cons_append] at first
      refine ⟨faults, ?_, alone⟩
      rw [Segment.tokens, tokens_eq, List.cons_append, readProgram_of_declaration _ _ _ _ first, others]
      rfl
    | bad b =>
      -- Each bad segment adds one to the faults found.
      have count : found + ((Segment.bad b :: rest).filterMap Segment.bad?).length =
          found + 1 + (rest.filterMap Segment.bad?).length := by
        show found + (List.length (rest.filterMap Segment.bad?) + 1) = _
        omega
      rw [count] at enough
      obtain ⟨faults, others, alone⟩ := ih (found + 1) enough
      obtain ⟨fault, left, suffix, byItself, first⟩ :=
        b.declaration_eq_error (endSpan b.tokens) fin (rest.flatMap Segment.tokens)
      obtain ⟨t, more, tokens_eq⟩ : ∃ t more, b.tokens = t :: more :=
        List.exists_cons_of_ne_nil (List.append_ne_nil_of_right_ne_nil _ (List.cons_ne_nil _ _))
      have sentence := b.sentence
      have words := b.words_tokens
      rw [tokens_eq] at byItself first suffix sentence words
      rw [List.cons_append] at first
      refine ⟨fault.quote ((source.map Lines.ofSource).getD []) :: faults, ?_, .cons ?_ alone⟩
      · rw [Segment.tokens, tokens_eq, List.cons_append, readProgram_of_fault _ _ _ _ first,
          if_neg (by omega), sentence.recoverFrom words suffix, others]
        rfl
      · rw [tokens_eq]
        exact parse_of_fault byItself source

end

/-- **A segment that is no declaration costs one fault and nothing else.** From segments with fewer bad ones
among them than faults are enough, a parser recovers the trees of the good ones in order, and the faults with
which the bad ones are refused by themselves in order; no token is left. -/
theorem recover_segments (segments : List Segment) (source : Option String) {limit : Nat}
    (enough : (segments.filterMap Segment.bad?).length < limit) :
    let recovered := (Parser.ofTokens (segments.flatMap Segment.tokens) source limit).recover
    recovered.1 = segments.filterMap Segment.tree? ∧
      List.Forall₂ (fun b fault => parse b.tokens source = .error fault)
        (segments.filterMap Segment.bad?) recovered.2.faults ∧
      recovered.2.rest = [] := by
  intro recovered
  obtain ⟨faults, read, alone⟩ := readProgram_segments (endSpan (segments.flatMap Segment.tokens)) source
    limit segments 0 (by rwa [Nat.zero_add])
  have reading := recover_ofTokens (segments.flatMap Segment.tokens) source limit
  rw [read] at reading
  refine ⟨reading.1, reading.2 ▸ alone, ?_⟩
  exact congrArg ProgramReading.rest read

/-- Of `x; x x; ; x;` the second and the third segment are no declarations. -/
theorem recover_segments_two_bad :
    let x := bare .identifier
    let semicolon := bare .semicolon
    let recovered := (Parser.ofTokens [x, semicolon, x, x, semicolon, semicolon, x, semicolon] none 3).recover
    recovered.1 = [.expression (.reference x), .expression (.reference x)] ∧
      recovered.2.faults.length = 2 ∧ recovered.2.rest = [] := by
  intro x semicolon
  let good : GoodSegment :=
    { tokens := [x, semicolon], tree := .expression (.reference x), accepted := by cbv }
  have missed : (declaration (endSpan [x, x, semicolon]) [x, x, semicolon]).outcome =
      .error ⟨.missing .endOfExpression (some x), x.span, none⟩ [x, semicolon] := by cbv
  have lacking : (declaration (endSpan [semicolon]) [semicolon]).outcome =
      .error ⟨.expectedExpression semicolon, semicolon.span, none⟩ [] := by cbv
  let twice : BadSegment :=
    { body := [x, x], semicolon := semicolon, semicolon_kind := rfl, plain := by decide
      noElse := noElse_cons (by decide), words := by decide
      refused := fun _ accepted => by cases (parse_of_fault missed none).symm.trans accepted }
  let empty : BadSegment :=
    { body := [], semicolon := semicolon, semicolon_kind := rfl, plain := by decide
      noElse := noElse_nil, words := by decide
      refused := fun _ accepted => by cases (parse_of_fault lacking none).symm.trans accepted }
  obtain ⟨trees, faults, rest⟩ :=
    recover_segments [.good good, .bad twice, .bad empty, .good good] none (show 2 < 3 by decide)
  exact ⟨trees, faults.length_eq.symm, rest⟩

end LoxScript.Grammar
