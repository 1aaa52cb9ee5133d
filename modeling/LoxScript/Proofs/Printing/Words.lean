import LoxScript.Proofs.Scanning.Lexicon

/-! # Words

The tokens of a source without their places.

* **`Lexes text words rest`** — cutting lexemes off a text gives these words and leaves a rest.
* **`lexes_iff_tokenize`** — a source has these words as its tokens iff cutting lexemes off it gives them
  and leaves nothing.
* **`Lexeme.cut_token`** — what a token can be.
* **`Lexes.spelled`** — names and strings among the words are what their characters say. -/

namespace LoxScript

/-- A token without its place. -/
structure Word where
  /-- The lexical class. -/
  kind : Kind
  /-- The datum of a literal or name. -/
  datum : Option Datum
  /-- The characters. -/
  lexeme : String
  deriving DecidableEq

/-- The token without its place. -/
def Token.word (t : Token) : Word := ⟨t.kind, t.datum, t.lexeme⟩

/-- Cutting lexemes off the front of a text gives words and leaves a rest. Each lexeme is cut with all
that follows it in view. -/
inductive Lexes : List Char → List Word → List Char → Prop
  /-- Nothing is cut off. -/
  | done {rest : List Char} : Lexes rest [] rest
  /-- A lexeme that is read over. -/
  | skip {first : Char} {more left rest : List Char} {ws : List Word} {lexeme : Lexeme} :
      Lexeme.cut first more = lexeme → lexeme.shape = .blank ∨ lexeme.shape = .comment →
      first :: more = lexeme.chars ++ left → Lexes left ws rest → Lexes (first :: more) ws rest
  /-- A lexeme that is a word. -/
  | word {first : Char} {more left rest : List Char} {ws : List Word} {lexeme : Lexeme} {kind : Kind}
      {datum : Option Datum} :
      Lexeme.cut first more = lexeme → lexeme.shape = .token kind datum →
      first :: more = lexeme.chars ++ left → Lexes left ws rest →
      Lexes (first :: more) (⟨kind, datum, String.ofList lexeme.chars⟩ :: ws) rest

/-! ## Words and tokens -/

/-- A source whose lexemes are words scans to tokens with these words. -/
theorem Lexes.untilFault {text rest : List Char} {ws : List Word} (h : Lexes text ws rest)
    (all : rest = []) {s : Scanner} (ahead : s.cursor.ahead = text) :
    ∃ tokens, tokensOf s.untilFault.1 = .ok tokens ∧ tokens.map Token.word = ws := by
  -- By induction on the words: what is skipped yields nothing, and every word yields its token.
  induction h generalizing s with
  | done => exact ⟨[], by rw [Scanner.untilFault_of_end (ahead.trans all), tokensOf], rfl⟩
  | @skip first more left _ _ lexeme cut shape split _ ih =>
    have step := Scanner.step?_of_ahead ahead
    rw [cut] at step
    have silent : Scanner.yield? s (s.consume lexeme.chars) lexeme = none := by
      rcases shape with shape | shape <;> rw [Scanner.yield?, shape]
    rw [silent] at step
    rw [Scanner.untilFault_of_none step]
    exact ih all (Scanner.ahead_consume (ahead.trans split))
  | @word first more left _ _ lexeme kind datum cut shape split _ ih =>
    have step := Scanner.step?_of_ahead ahead
    rw [cut] at step
    obtain ⟨token, yields, word⟩ : ∃ token, Scanner.yield? s (s.consume lexeme.chars) lexeme =
        some (.ok token) ∧ token.word = ⟨kind, datum, String.ofList lexeme.chars⟩ := by
      refine ⟨⟨kind, datum, String.ofList lexeme.chars, ?_⟩, ?_, rfl⟩
      rotate_left
      · rw [Scanner.yield?, shape]
    rw [yields] at step
    obtain ⟨tokens, ok, words⟩ := ih all (Scanner.ahead_consume (ahead.trans split))
    refine ⟨token :: tokens, ?_, ?_⟩
    · rw [Scanner.untilFault_of_token step, tokensOf, ok]
      rfl
    · rw [List.map_cons, word, words]

/-- A source that scans to tokens has their words. -/
theorem lexes_of_untilFault {s : Scanner} {tokens : List Token}
    (h : tokensOf s.untilFault.1 = .ok tokens) : Lexes s.cursor.ahead (tokens.map Token.word) [] := by
  -- Every step leaves fewer characters ahead.
  induction hn : s.cursor.ahead.length using Nat.strongRecOn generalizing s tokens with
  | ind n ih =>
    cases ahead : s.cursor.ahead with
    | nil =>
      rw [Scanner.untilFault_of_end ahead] at h
      cases h
      exact .done
    | cons first more =>
      have step := Scanner.step?_of_ahead ahead
      have shorter := Scanner.step?_shorter step
      obtain ⟨left, split⟩ := Lexeme.cut_isPrefix first more
      have after := Scanner.ahead_consume (ahead.trans split.symm)
      cases shape : (Lexeme.cut first more).shape with
      | blank =>
        rw [Scanner.yield?, shape] at step
        rw [Scanner.untilFault_of_none step] at h
        have others := ih _ (hn ▸ shorter) h rfl
        rw [after] at others
        exact .skip rfl (.inl shape) split.symm others
      | comment =>
        rw [Scanner.yield?, shape] at step
        rw [Scanner.untilFault_of_none step] at h
        have others := ih _ (hn ▸ shorter) h rfl
        rw [after] at others
        exact .skip rfl (.inr shape) split.symm others
      | token kind datum =>
        rw [Scanner.yield?, shape] at step
        rw [Scanner.untilFault_of_token step, tokensOf] at h
        cases rest : tokensOf (s.consume (Lexeme.cut first more).chars).untilFault.1 with
        | error fault =>
          rw [rest] at h
          cases h
        | ok later =>
          rw [rest] at h
          cases h
          have others := ih _ (hn ▸ shorter) rest rfl
          rw [after] at others
          exact .word rfl shape split.symm others
      | fault cause =>
        rw [Scanner.yield?, shape] at step
        rw [Scanner.untilFault_of_fault step] at h
        cases h

/-- **The words of a source** are those of its tokens. -/
theorem lexes_iff_tokenize {source : String} {file : Option String} {ws : List Word} :
    Lexes source.toList ws [] ↔
      ∃ tokens, tokenize source file = .ok tokens ∧ tokens.map Token.word = ws := by
  constructor
  · intro h
    exact h.untilFault rfl rfl
  · rintro ⟨tokens, ok, rfl⟩
    exact lexes_of_untilFault ok

/-! ## Spelling -/

namespace Word

/-- A word is a name if its characters are, and are not a reserved word. -/
def IsName (w : Word) : Prop :=
  ∃ first more, CharClass.isNameStart first = true ∧ (∀ c ∈ more, CharClass.isNamePart c = true) ∧
    Kind.ofKeyword? (String.ofList (first :: more)) = none ∧
    w = ⟨.identifier, some (.text (String.ofList (first :: more))), String.ofList (first :: more)⟩

/-- A word is a text if its datum stands in quotes and has none inside. -/
def IsText (w : Word) : Prop :=
  ∃ inside : List Char, (∀ c ∈ inside, c ≠ '"') ∧
    w = ⟨.string, some (.text (String.ofList inside)), String.ofList ('"' :: inside ++ ['"'])⟩

/-- A word is spelled right if a name is a name and a string a text. -/
def Spelled (w : Word) : Prop :=
  (w.kind = .identifier → w.IsName) ∧ (w.kind = .string → w.IsText)

/-- A name is an identifier. -/
theorem IsName.kind_eq {w : Word} (h : w.IsName) : w.kind = .identifier := by
  obtain ⟨first, more, -, -, -, rfl⟩ := h
  rfl

/-- The word of a text is a string. -/
theorem IsText.kind_eq {w : Word} (h : w.IsText) : w.kind = .string := by
  obtain ⟨inside, -, rfl⟩ := h
  rfl

end Word

namespace Lexeme

/-- **What a token is**: a name, a string, a number, or a mark or reserved word, which carries no datum. -/
theorem cut_token {first : Char} {rest : List Char} {kind : Kind} {datum : Option Datum}
    (h : (cut first rest).shape = .token kind datum) :
    Word.IsName ⟨kind, datum, String.ofList (cut first rest).chars⟩ ∨
      Word.IsText ⟨kind, datum, String.ofList (cut first rest).chars⟩ ∨
      (kind = .number ∧ ∃ x, datum = some (.number x)) ∨
      (kind ∉ [.identifier, .string, .number] ∧ datum = none) := by
  -- What is cut off is read by the lexicon, or is a fault and no token.
  rcases cut_cases first rest with reads | ⟨-, lexeme⟩ | ⟨-, lexeme⟩
  · rw [h] at reads
    generalize (cut first rest).chars = chars at reads
    cases reads with
    | mark mem =>
      have each : ∀ entry ∈ Kind.marks, entry.2 ∉ [.identifier, .string, .number] := by decide
      exact .inr (.inr (.inr ⟨each _ mem, rfl⟩))
    | @string inside free =>
      exact .inr (.inl ⟨inside, fun c mem same => free (same ▸ mem), rfl⟩)
    | number => exact .inr (.inr (.inl ⟨rfl, _, rfl⟩))
    | keyword _ reserved =>
      have each : ∀ entry ∈ Kind.keywords, entry.2 ∉ [.identifier, .string, .number] := by decide
      exact .inr (.inr (.inr ⟨each _ reserved, rfl⟩))
    | name isWord free =>
      obtain ⟨start, all⟩ := isWord
      exact .inl ⟨_, _, start, all, Kind.ofKeyword?_eq_none_iff.mpr free, rfl⟩
  · rw [lexeme] at h
    cases h
  · rw [lexeme] at h
    cases h

/-- A lexeme that is a token is spelled right. -/
theorem cut_spelled {first : Char} {rest : List Char} {kind : Kind} {datum : Option Datum}
    (h : (cut first rest).shape = .token kind datum) :
    Word.Spelled ⟨kind, datum, String.ofList (cut first rest).chars⟩ := by
  rcases cut_token h with name | text | ⟨rfl, -⟩ | ⟨other, -⟩
  · obtain rfl : kind = .identifier := name.kind_eq
    exact ⟨fun _ => name, fun string => (by cases string)⟩
  · obtain rfl : kind = .string := text.kind_eq
    exact ⟨fun identifier => (by cases identifier), fun _ => text⟩
  · exact ⟨fun identifier => (by cases identifier), fun string => (by cases string)⟩
  · constructor
    · rintro (rfl : kind = .identifier)
      exact absurd (by decide) other
    · rintro (rfl : kind = .string)
      exact absurd (by decide) other

/-- A number token carries a number. -/
theorem cut_number {first : Char} {rest : List Char} {datum : Option Datum}
    (h : (cut first rest).shape = .token .number datum) : ∃ x, datum = some (.number x) := by
  rcases cut_token h with name | text | ⟨-, carried⟩ | ⟨other, -⟩
  · have kind : Kind.number = .identifier := name.kind_eq
    cases kind
  · have kind : Kind.number = .string := text.kind_eq
    cases kind
  · exact carried
  · exact absurd (by decide) other

end Lexeme

/-- **The words of a text are spelled right.** -/
theorem Lexes.spelled {text rest : List Char} {ws : List Word} (h : Lexes text ws rest) :
    ∀ w ∈ ws, w.Spelled := by
  induction h with
  | done => exact fun _ mem => by cases mem
  | skip _ _ _ _ ih => exact ih
  | @word first more _ _ _ _ _ _ cut shape _ _ ih =>
    intro w mem
    rcases List.mem_cons.mp mem with rfl | mem
    · subst cut
      exact Lexeme.cut_spelled shape
    · exact ih w mem

end LoxScript
