import LoxScript.Proofs.Printing.Words
import LoxScript.Proofs.Scanning.Places

/-! # Lexemes with trivia between them

A token ends where a blank or a newline stands behind it, so the tokens of a source do not depend on the
trivia between them.

* **`Apart`** — a text that does not go on with a lexeme in front of it.
* **`Lexeme.Reads.longest`** — a token in front of such a text is the longest lexeme.
* **`Spaced`** — the texts in which given lexemes stand one after another with trivia between them.
* **`scan_spaced`** — the result: such a text has the same words as the source of the lexemes. -/

namespace LoxScript

/-- A text that stands **apart** from what is in front of it: it is empty, or begins with a
blank or a newline. -/
def Apart (text : List Char) : Prop := ∀ c ∈ text.head?, CharClass.isBlank c = true ∨ c = '\n'

/-- The end of a text stands apart. -/
theorem Apart.nil : Apart [] := by
  intro c mem
  cases mem

/-! ## Where tokens end -/

namespace Lexeme

variable {chars more rest : List Char} {c : Char} {shape : Shape} {kind : Kind} {datum : Option Datum}

/-- A lexeme is what is cut off it. -/
theorem Reads.cut_eq {first : Char} (h : Reads (first :: rest) shape) :
    cut first rest = ⟨shape, first :: rest⟩ :=
  Longest.cut_eq ⟨h, List.prefix_refl _, fun _ begins => begins.length_le⟩

/-- **The lexemes with blanks or newlines in them** are blanks, comments and strings. -/
theorem Reads.of_blank_mem (h : Reads chars shape) (mem : c ∈ chars)
    (blank : CharClass.isBlank c = true ∨ c = '\n') :
    chars = [c] ∨ (∃ body, chars = '/' :: '/' :: body) ∨
      ∃ inside, chars = '"' :: inside ++ ['"'] ∧ '"' ∉ inside := by
  -- A blank or a newline is part of no number and of no word, and no mark contains one.
  have other : CharClass.isDigit c = false ∧ c ≠ '.' ∧ CharClass.isNamePart c = false := by
    simp only [CharClass.isBlank, Bool.or_eq_true, beq_iff_eq] at blank
    rcases blank with ((rfl | rfl) | rfl) | rfl <;> decide +kernel
  cases h with
  | blank => exact .inl (by rw [List.mem_singleton.mp mem])
  | comment => exact .inr (.inl ⟨_, rfl⟩)
  | mark mark =>
    have each : ∀ entry ∈ Kind.marks,
        (entry.1.toList.any fun d => CharClass.isBlank d || d == '\n') = false := by
      decide
    have none := List.any_eq_false.mp (each _ mark) c mem
    rw [Bool.or_eq_true, beq_iff_eq] at none
    exact absurd blank none
  | string free => exact .inr (.inr ⟨_, rfl, free⟩)
  | number isNumber | invalid isNumber =>
    rcases isNumber.parts c mem with digit | point
    · rw [other.1] at digit
      cases digit
    · exact absurd point other.2.1
  | keyword isWord | name isWord =>
    have part := isWord.parts c mem
    rw [other.2.2] at part
    cases part

/-- A string has its closing quote behind the opening one. -/
theorem Reads.quote_mem (h : Reads ('"' :: rest) (.token kind datum)) : '"' ∈ rest := by
  by_contra unclosed
  have all : rest.dropWhile (· != '"') = [] :=
    List.dropWhile_eq_nil_iff.mpr fun c mem => bne_iff_ne.mpr fun same => unclosed (same ▸ mem)
  have cut := h.cut_eq
  have fault : Lexeme.cut '"' rest = ⟨.fault .unterminatedString, '"' :: rest⟩ := by
    show Lexeme.string rest = _
    rw [Lexeme.string, all]
  rw [fault] at cut
  cases cut

/-- No lexeme goes on behind a token with a blank or a newline. -/
theorem Reads.not_reads_append (h : Reads chars (.token kind datum))
    (blank : CharClass.isBlank c = true ∨ c = '\n') : ¬Reads (chars ++ c :: more) shape := by
  intro longer
  obtain ⟨first, others, rfl⟩ := List.exists_cons_of_ne_nil h.ne_nil
  rw [List.cons_append] at longer
  have mem : c ∈ first :: (others ++ c :: more) := by simp
  rcases longer.of_blank_mem mem blank with single | ⟨body, comment⟩ | ⟨inside, string, free⟩
  · exact absurd (List.cons.inj single).2 (by simp)
  · obtain ⟨rfl, behind⟩ := List.cons.inj comment
    cases others with
    | nil =>
      -- A slash alone may become a comment, but not through a blank.
      obtain ⟨rfl, -⟩ := List.cons.inj behind
      exact absurd blank (by decide)
    | cons second others =>
      obtain ⟨rfl, -⟩ := List.cons.inj behind
      cases h.cut_eq
  · rw [List.cons_append] at string
    obtain ⟨rfl, behind⟩ := List.cons.inj string
    obtain ⟨init, last, ends⟩ := (List.eq_nil_or_concat' (c :: more)).resolve_left (List.cons_ne_nil _ _)
    rw [ends, ← List.append_assoc] at behind
    obtain ⟨rfl, -⟩ := List.append_inj' behind rfl
    exact free (List.mem_append_left _ h.quote_mem)

/-- **A token is the longest lexeme** of a text in which it is followed by a blank, a newline or nothing. -/
theorem Reads.longest {text : List Char} (h : Reads chars (.token kind datum)) (apart : Apart text) :
    Longest (chars ++ text) chars (.token kind datum) where
  reads := h
  begins := List.prefix_append _ _
  longest := by
    intro chars' shape' reads begins
    refine Nat.le_of_not_lt fun longer => ?_
    obtain ⟨tail, rfl⟩ :=
      List.prefix_of_prefix_length_le (List.prefix_append chars text) begins (Nat.le_of_lt longer)
    cases tail with
    | nil => simp at longer
    | cons c more =>
      have behind : c :: more <+: text := (List.prefix_append_right_inj chars).mp begins
      obtain ⟨left, rfl⟩ := behind
      exact h.not_reads_append (apart c rfl) reads

end Lexeme

/-! ## Trivia are read over -/

section Lexes

variable {text rest : List Char} {ws : List Word}

/-- Trivia give no words. A comment must not go on with what is behind it. -/
theorem Trivia.lexes {unended : Bool} {gap : List Char} (h : Trivia unended gap)
    (ended : unended = true → AtLineEnd text) (behind : Lexes text ws rest) : Lexes (gap ++ text) ws rest := by
  -- The last piece of the trivia is read in front of the text, and the pieces before in front of both.
  induction h generalizing text with
  | none => exact behind
  | @blank gap c _ blank ih =>
    rw [List.append_assoc]
    refine ih ?_ (.skip (Lexeme.cut_of_blank (.inl blank) text) (.inl rfl) rfl behind)
    intro unended
    cases unended
  | newline _ ih =>
    rw [List.append_assoc]
    exact ih (fun _ => .newline text) (.skip (Lexeme.cut_of_blank (.inr rfl) text) (.inl rfl) rfl behind)
  | @comment gap body _ free ih =>
    rw [List.append_assoc]
    have inside : (body ++ text).takeWhile (· != '\n') = body := by
      rw [(ended rfl).takeWhile rfl, List.takeWhile_eq_self_iff]
      exact fun c mem => bne_iff_ne.mpr fun same => free (same ▸ mem)
    have cut : Lexeme.cut '/' ('/' :: (body ++ text)) = ⟨.comment, '/' :: '/' :: body⟩ := by
      show Lexeme.slash ('/' :: (body ++ text)) = _
      rw [Lexeme.slash, inside]
    refine ih ?_ (.skip cut (.inr rfl) rfl behind)
    intro unended
    cases unended

/-- The words of a text are lexemes of the language. -/
theorem Lexes.reads (h : Lexes text ws rest) :
    ∀ w ∈ ws, Lexeme.Reads w.lexeme.toList (.token w.kind w.datum) := by
  induction h with
  | done => exact fun _ mem => by cases mem
  | skip _ _ _ _ ih => exact ih
  | @word first more _ _ _ _ kind datum cut shape _ _ ih =>
    refine List.forall_mem_cons.mpr ⟨?_, ih⟩
    subst cut
    rw [String.toList_ofList]
    rcases Lexeme.cut_cases first more with reads | ⟨-, lexeme⟩ | ⟨-, lexeme⟩
    · rwa [shape] at reads
    · rw [lexeme] at shape
      cases shape
    · rw [lexeme] at shape
      cases shape

/-- A word is cut off in front of a text that stands apart from it. -/
theorem Lexes.cons_apart {w : Word} (reads : Lexeme.Reads w.lexeme.toList (.token w.kind w.datum))
    (apart : Apart text) (behind : Lexes text ws rest) : Lexes (w.lexeme.toList ++ text) (w :: ws) rest := by
  have longest := reads.longest apart
  obtain ⟨first, more, chars⟩ := List.exists_cons_of_ne_nil reads.ne_nil
  rw [chars, List.cons_append] at longest ⊢
  have word : w = ⟨w.kind, w.datum, String.ofList (first :: more)⟩ := by
    rw [← chars, String.ofList_toList]
  rw [word]
  exact .word longest.cut_eq rfl rfl behind

end Lexes

/-! ## Spaced lexemes -/

/-- **The texts in which given lexemes are spaced out**: trivia, the first lexeme, trivia, and so on to the
trivia at the end. What stands behind a lexeme begins with a blank or a newline, or is nothing; a comment has
a newline behind it, unless it ends the text. -/
inductive Spaced : List String → List Char → Prop
  | last {unended : Bool} {gap : List Char} : Trivia unended gap → Spaced [] gap
  | next {gap text : List Char} {lexeme : String} {lexemes : List String} :
      Trivia false gap → Apart text → Spaced lexemes text →
      Spaced (lexeme :: lexemes) (gap ++ (lexeme.toList ++ text))

/-- Lexemes that are spaced out are the words of the text. -/
theorem Spaced.lexes {ws : List Word} {text : List Char} (h : Spaced (ws.map Word.lexeme) text)
    (reads : ∀ w ∈ ws, Lexeme.Reads w.lexeme.toList (.token w.kind w.datum)) : Lexes text ws [] := by
  induction ws generalizing text with
  | nil =>
    cases h with
    | last trivia =>
      have all : Lexes (text ++ []) [] [] := trivia.lexes (fun _ => .nil) .done
      rwa [List.append_nil] at all
  | cons w ws ih =>
    cases h with
    | next trivia apart others =>
      obtain ⟨first, more⟩ := List.forall_mem_cons.mp reads
      exact trivia.lexes nofun (.cons_apart first apart (ih others more))

/-- **The words of a source do not depend on its trivia.** -/
theorem scan_spaced {source source' : String} {file : Option String} {tokens : List Token}
    (scanned : scan source file = tokens.map .ok)
    (spaced : Spaced (tokens.map Token.lexeme) source'.toList) (file' : Option String) :
    ∃ tokens' : List Token, scan source' file' = tokens'.map .ok ∧
      tokens'.map Token.word = tokens.map Token.word := by
  have lexes : Lexes source.toList (tokens.map Token.word) [] :=
    lexes_iff_tokenize.mpr ⟨tokens, tokenize_eq_ok_iff.mpr scanned, rfl⟩
  have lexemes : (tokens.map Token.word).map Word.lexeme = tokens.map Token.lexeme := by
    rw [List.map_map]
    rfl
  rw [← lexemes] at spaced
  obtain ⟨tokens', scanned', words⟩ := lexes_iff_tokenize.mp (spaced.lexes lexes.reads)
  exact ⟨tokens', tokenize_eq_ok_iff.mp scanned', words⟩

end LoxScript
