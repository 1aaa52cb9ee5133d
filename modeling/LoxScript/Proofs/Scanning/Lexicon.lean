import LoxScript.Proofs.Scanning.Steps
import Mathlib.Data.List.TakeWhile

/-! # The lexicon

The lexemes of the language by themselves, whatever surrounds them, and that a scanner cuts off the longest
one that its text begins with.

* **`Lexeme.Reads chars shape`** — characters that are one lexeme of the language, and what they are.
* **`Lexeme.Longest`** — the longest lexeme that a text begins with.
* **`Lexeme.Reads.outgrown`** — whatever lexeme a text begins with, the one that is cut off it is no shorter.
* **`Lexeme.cut_cases`** — what is cut off is a lexeme, or the text begins with none.
* **`Scanner.cuts_longest`** — a step of the scanner consumes the longest lexeme and yields what that is. -/

namespace LoxScript

/-! ## Reserved words -/

/-- The kind of a word is the one that the table of reserved words gives it. -/
theorem Kind.ofKeyword?_eq_some_iff {text : String} {kind : Kind} :
    ofKeyword? text = some kind ↔ (text, kind) ∈ keywords := by
  constructor
  · intro h
    obtain ⟨entry, found, rfl⟩ := Option.map_eq_some_iff.mp h
    have spelled : entry.1 = text := by simpa using List.find?_some found
    rw [← spelled]
    exact List.mem_of_find?_eq_some found
  · intro mem
    have known : ∀ entry ∈ keywords, ofKeyword? entry.1 = some entry.2 := by decide
    exact known _ mem

/-- A text is no reserved word iff it has none of their spellings. -/
theorem Kind.ofKeyword?_eq_none_iff {text : String} :
    ofKeyword? text = none ↔ ∀ kind, (text, kind) ∉ keywords := by
  rw [Option.eq_none_iff_forall_ne_some]
  exact forall_congr' fun kind => not_congr ofKeyword?_eq_some_iff

namespace Lexeme

/-! ## What a character can begin -/

/-- A character that begins neither a mark nor a comment nor a string. -/
def Unmarked (c : Char) : Prop := singleMark? c = none ∧ equalMark? c = none ∧ c ≠ '/' ∧ c ≠ '"'

/-- The characters that begin marks, comments and strings. -/
def marked : List Char :=
  ['(', ')', '\x7b', '\x7d', ',', '.', '-', '+', ';', '*', '!', '=', '<', '>', '/', '"']

/-- A class without marked characters. -/
theorem unmarked_of_class {p : Char → Bool} {c : Char} (h : p c = true)
    (free : marked.any p = false) : Unmarked c := by
  have other : ∀ d ∈ marked, c ≠ d := by
    rintro d mem rfl
    exact List.any_eq_false.mp free c mem h
  -- Whatever the tables of marks have an entry for is a marked character.
  refine ⟨?_, ?_, other '/' (by decide), other '"' (by decide)⟩
  · unfold singleMark?
    split
    all_goals first | rfl | exact absurd rfl (other _ (by decide))
  · unfold equalMark?
    split
    all_goals first | rfl | exact absurd rfl (other _ (by decide))

/-- What starts a name is no digit. -/
theorem not_digit_of_nameStart {c : Char} (h : CharClass.isNameStart c = true) :
    ¬ CharClass.isAsciiDigit c = true := by
  intro digit
  simp only [CharClass.isAsciiDigit, Bool.and_eq_true, decide_eq_true_eq] at digit
  simp only [CharClass.isNameStart, CharClass.isAsciiLetter, Bool.or_eq_true, Bool.and_eq_true,
    decide_eq_true_eq, beq_iff_eq] at h
  rcases h with (⟨lower, -⟩ | ⟨upper, -⟩) | rfl
  · exact absurd (Char.le_trans lower digit.2) (by decide)
  · exact absurd (Char.le_trans upper digit.2) (by decide)
  · exact absurd digit.2 (by decide)

/-- A text that begins with a digit begins with a number. -/
theorem cut_of_digit {c : Char} (h : CharClass.isAsciiDigit c = true) (rest : List Char) :
    cut c rest = number c rest := by
  obtain ⟨single, equal, slash, quote⟩ := unmarked_of_class h rfl
  rw [cut, single, equal]
  dsimp only
  rw [if_neg slash, if_neg quote, if_pos h]

/-- A text that begins as names do begins with a word. -/
theorem cut_of_nameStart {c : Char} (h : CharClass.isNameStart c = true) (rest : List Char) :
    cut c rest = word c rest := by
  obtain ⟨single, equal, slash, quote⟩ := unmarked_of_class h rfl
  rw [cut, single, equal]
  dsimp only
  rw [if_neg slash, if_neg quote, if_neg (not_digit_of_nameStart h), if_pos h]

/-- A blank or a newline is cut off alone. -/
theorem cut_of_blank {c : Char} (h : CharClass.isBlank c = true ∨ c = '\n') (rest : List Char) :
    cut c rest = ⟨.blank, [c]⟩ := by
  simp only [CharClass.isBlank, Bool.or_eq_true, beq_iff_eq] at h
  rcases h with ((rfl | rfl) | rfl) | rfl <;> rfl

/-! ## Lexemes by themselves -/

/-- A name or a reserved word: a letter or an underscore, and letters, digits and underscores after it. -/
inductive IsWord : List Char → Prop
  | intro {first : Char} {more : List Char} : CharClass.isNameStart first = true →
      (∀ c ∈ more, CharClass.isNamePart c = true) → IsWord (first :: more)

/-- A number: digits of which the first is an ASCII one, and a point with at least one digit after
it, or no point. -/
inductive IsNumber : List Char → Prop
  | whole {first : Char} {more : List Char} : CharClass.isAsciiDigit first = true →
      (∀ d ∈ more, CharClass.isDigit d = true) → IsNumber (first :: more)
  | pointed {first : Char} {more digits : List Char} : CharClass.isAsciiDigit first = true →
      (∀ d ∈ more, CharClass.isDigit d = true) → digits ≠ [] →
      (∀ d ∈ digits, CharClass.isDigit d = true) → IsNumber (first :: more ++ '.' :: digits)

/-- **The lexemes of the language**, each with what it is. -/
inductive Reads : List Char → Shape → Prop
  /-- One blank or newline. -/
  | blank {c : Char} : CharClass.isBlank c = true ∨ c = '\n' → Reads [c] .blank
  /-- A comment, which has no newline in it. -/
  | comment {body : List Char} : '\n' ∉ body → Reads ('/' :: '/' :: body) .comment
  /-- Punctuation or an operator. -/
  | mark {text : String} {kind : Kind} : (text, kind) ∈ Kind.marks → Reads text.toList (.token kind none)
  /-- A string, which has no quote between its quotes. -/
  | string {inside : List Char} : '"' ∉ inside →
      Reads ('"' :: inside ++ ['"']) (.token .string (some (.text (String.ofList inside))))
  /-- A number that has a value. -/
  | number {chars : List Char} {d : Decimal} : IsNumber chars → Decimal.ofNumeral? chars = some d →
      Reads chars (.token .number (some (.number d.toBinary64)))
  /-- A number with a digit that has no value. -/
  | invalid {chars : List Char} : IsNumber chars → Decimal.ofNumeral? chars = none →
      Reads chars (.fault (.invalidNumber (String.ofList chars)))
  /-- A reserved word. -/
  | keyword {chars : List Char} {kind : Kind} : IsWord chars → (String.ofList chars, kind) ∈ Kind.keywords →
      Reads chars (.token kind none)
  /-- A name, which is no reserved word. -/
  | name {chars : List Char} : IsWord chars → (∀ kind, (String.ofList chars, kind) ∉ Kind.keywords) →
      Reads chars (.token .identifier (some (.text (String.ofList chars))))

/-- A word has a character. -/
theorem IsWord.ne_nil {chars : List Char} (h : IsWord chars) : chars ≠ [] := by
  obtain ⟨-, -⟩ := h
  exact List.cons_ne_nil _ _

/-- A number has a digit. -/
theorem IsNumber.ne_nil {chars : List Char} (h : IsNumber chars) : chars ≠ [] := by
  cases h <;> exact List.cons_ne_nil _ _

/-- A lexeme has at least one character. -/
theorem Reads.ne_nil {chars : List Char} {shape : Shape} (h : Reads chars shape) : chars ≠ [] := by
  cases h with
  | blank | comment | string => exact List.cons_ne_nil _ _
  | mark mem =>
    have each : ∀ entry ∈ Kind.marks, entry.1.toList ≠ [] := by decide
    exact each _ mem
  | number isNumber | invalid isNumber => exact isNumber.ne_nil
  | keyword isWord | name isWord => exact isWord.ne_nil

/-- **The longest lexeme** that a text begins with. -/
structure Longest (text chars : List Char) (shape : Shape) : Prop where
  reads : Reads chars shape
  begins : chars <+: text
  longest : ∀ {chars' : List Char} {shape' : Shape}, Reads chars' shape' → chars' <+: text →
    chars'.length ≤ chars.length

/-! ## What is cut off is a lexeme -/

section Cut

variable {first : Char} {rest : List Char}

/-- Characters of a class that a text begins with are among the first of that class. -/
theorem length_le_takeWhile {p : Char → Bool} {chars text : List Char} (all : ∀ c ∈ chars, p c = true)
    (begins : chars <+: text) : chars.length ≤ (text.takeWhile p).length := by
  obtain ⟨left, rfl⟩ := begins
  rw [List.takeWhile_append_of_pos all, List.length_append]
  exact Nat.le_add_right _ _

/-- A mark of one character is a mark. -/
theorem singleMark?_mem {k : Kind} (h : singleMark? first = some k) :
    (String.ofList [first], k) ∈ Kind.marks := by
  unfold singleMark? at h
  split at h <;> cases h <;> decide

/-- A mark that an equals sign may continue is one with it and without it. -/
theorem equalMark?_mem {ks : Kind × Kind} (h : equalMark? first = some ks) :
    (String.ofList [first, '='], ks.1) ∈ Kind.marks ∧ (String.ofList [first], ks.2) ∈ Kind.marks := by
  unfold equalMark? at h
  split at h <;> cases h <;> decide

/-- A mark is a lexeme of its kind. -/
theorem reads_mark {chars : List Char} {k : Kind} (mem : (String.ofList chars, k) ∈ Kind.marks) :
    Reads chars (.token k none) := by
  have reads := Reads.mark mem
  rwa [String.toList_ofList] at reads

/-- What is cut off as such a mark is the longer or the shorter mark. -/
theorem reads_equalMark {ks : Kind × Kind} (h : equalMark? first = some ks) (rest : List Char) :
    Reads (equalMark ks first rest).chars (equalMark ks first rest).shape := by
  obtain ⟨withEqual, alone⟩ := equalMark?_mem h
  unfold equalMark
  split
  · exact reads_mark withEqual
  · exact reads_mark alone

/-- What is cut off behind a slash is a comment up to the end of the line, or the slash. -/
theorem reads_slash (rest : List Char) : Reads (slash rest).chars (slash rest).shape := by
  unfold slash
  split
  · refine .comment fun mem => ?_
    exact absurd (List.mem_takeWhile_imp mem) (by decide)
  · exact reads_mark (by decide)

/-- A quote with another one behind it begins a string. -/
theorem reads_string (closed : '"' ∈ rest) : Reads (string rest).chars (string rest).shape := by
  simp only [string]
  split
  · next all =>
    exact absurd (List.dropWhile_eq_nil_iff.mp all '"' closed) (by decide)
  · refine .string fun mem => ?_
    exact absurd (List.mem_takeWhile_imp mem) (by decide)

/-- The point and digits that a number goes on with, or nothing. -/
theorem fraction_cases (text : List Char) :
    fraction text = [] ∨ ∃ digits, digits ≠ [] ∧ (∀ d ∈ digits, CharClass.isDigit d = true) ∧
      fraction text = '.' :: digits := by
  unfold fraction
  split
  · next d rest =>
    split
    · next digit =>
      refine .inr ⟨d :: rest.takeWhile CharClass.isDigit, List.cons_ne_nil _ _, ?_, rfl⟩
      intro c mem
      rcases List.mem_cons.mp mem with rfl | mem
      · exact digit
      · exact List.mem_takeWhile_imp mem
    · exact .inl rfl
  · exact .inl rfl

/-- The characters of the number that a digit begins. -/
theorem chars_number (first : Char) (rest : List Char) :
    (number first rest).chars =
      first :: rest.takeWhile CharClass.isDigit ++ fraction (rest.dropWhile CharClass.isDigit) := by
  simp only [number]
  split <;> rfl

/-- What the number that a digit begins is depends on its characters only. -/
theorem shape_number (first : Char) (rest : List Char) :
    (number first rest).shape =
      match Decimal.ofNumeral? (number first rest).chars with
      | some d => .token .number (some (.number d.toBinary64))
      | none => .fault (.invalidNumber (String.ofList (number first rest).chars)) := by
  rw [chars_number]
  simp only [number]
  cases Decimal.ofNumeral?
    (first :: rest.takeWhile CharClass.isDigit ++ fraction (rest.dropWhile CharClass.isDigit)) <;> rfl

/-- What is cut off behind a digit is digits, with a point among them if digits follow it. -/
theorem isNumber_number (digit : CharClass.isAsciiDigit first = true) (rest : List Char) :
    IsNumber (number first rest).chars := by
  rw [chars_number]
  rcases fraction_cases (rest.dropWhile CharClass.isDigit) with none | ⟨digits, some, all, point⟩
  · rw [none, List.append_nil]
    exact .whole digit fun d mem => List.mem_takeWhile_imp mem
  · rw [point]
    exact .pointed digit (fun d mem => List.mem_takeWhile_imp mem) some all

/-- It is a number, or at fault for a digit that no number is written with. -/
theorem reads_number (digit : CharClass.isAsciiDigit first = true) (rest : List Char) :
    Reads (number first rest).chars (number first rest).shape := by
  rw [shape_number]
  cases value : Decimal.ofNumeral? (number first rest).chars with
  | some d => exact .number (isNumber_number digit rest) value
  | none => exact .invalid (isNumber_number digit rest) value

/-- A word goes on as long as names do. -/
theorem chars_word (first : Char) (rest : List Char) :
    (word first rest).chars = first :: rest.takeWhile CharClass.isNamePart := by
  simp only [word]
  split <;> rfl

/-- What the word that a letter begins is depends on its characters only. -/
theorem shape_word (first : Char) (rest : List Char) :
    (word first rest).shape =
      match Kind.ofKeyword? (String.ofList (word first rest).chars) with
      | some kind => .token kind none
      | none => .token .identifier (some (.text (String.ofList (word first rest).chars))) := by
  rw [chars_word]
  simp only [word]
  cases Kind.ofKeyword? (String.ofList (first :: rest.takeWhile CharClass.isNamePart)) <;> rfl

/-- What is cut off as a word is a reserved word or a name. -/
theorem reads_word (start : CharClass.isNameStart first = true) (rest : List Char) :
    Reads (word first rest).chars (word first rest).shape := by
  have isWord : IsWord (word first rest).chars := by
    rw [chars_word]
    exact .intro start fun c mem => List.mem_takeWhile_imp mem
  rw [shape_word]
  cases known : Kind.ofKeyword? (String.ofList (word first rest).chars) with
  | some kind => exact .keyword isWord (Kind.ofKeyword?_eq_some_iff.mp known)
  | none => exact .name isWord (Kind.ofKeyword?_eq_none_iff.mp known)

/-- **What is cut off a text** is a lexeme; or it is all of the text, which begins with a quote that is not
closed; or it is one character. -/
theorem cut_cases (first : Char) (rest : List Char) :
    Reads (cut first rest).chars (cut first rest).shape ∨
    (first = '"' ∧ cut first rest = ⟨.fault .unterminatedString, first :: rest⟩) ∨
    (first ≠ '"' ∧ cut first rest = ⟨.fault (.unexpectedCharacter first), [first]⟩) := by
  -- The cases are those of `cut`, in its order.
  unfold cut
  split
  · next k single => exact .inl (reads_mark (singleMark?_mem single))
  split
  · next ks equal => exact .inl (reads_equalMark equal rest)
  split
  · exact .inl (reads_slash rest)
  split
  · next quote =>
    by_cases closed : '"' ∈ rest
    · exact .inl (reads_string closed)
    · have all : rest.dropWhile (· != '"') = [] :=
        List.dropWhile_eq_nil_iff.mpr fun c mem => bne_iff_ne.mpr fun same => closed (same ▸ mem)
      refine .inr (.inl ⟨quote, ?_⟩)
      rw [string, all, quote]
  split
  · next digit => exact .inl (reads_number digit rest)
  split
  · next start => exact .inl (reads_word start rest)
  split
  · next blank =>
    rw [Bool.or_eq_true, beq_iff_eq] at blank
    exact .inl (.blank blank)
  · next quote _ _ _ => exact .inr (.inr ⟨quote, rfl⟩)

end Cut

/-! ## The longest lexeme is cut off -/

/-- A lexeme that is no shorter than other characters, and is what these are if it consists of them. -/
structure Outgrows (lexeme : Lexeme) (chars : List Char) (shape : Shape) : Prop where
  reads : Reads lexeme.chars lexeme.shape
  length_le : chars.length ≤ lexeme.chars.length
  shape_eq : lexeme.chars = chars → lexeme.shape = shape

section Outgrows

variable {first : Char} {rest chars : List Char}

/-- How punctuation and operators are spelled. -/
theorem mark_cases {text : String} {kind : Kind} (mem : (text, kind) ∈ Kind.marks) :
    (∃ c, singleMark? c = some kind ∧ text.toList = [c]) ∨
    (∃ c ks, singleMark? c = none ∧ equalMark? c = some ks ∧
      (text.toList = [c] ∧ kind = ks.2 ∨ text.toList = [c, '='] ∧ kind = ks.1)) ∨
    (text.toList = ['/'] ∧ kind = .slash) := by
  have each : ∀ entry ∈ Kind.marks,
      (∃ c, singleMark? c = some entry.2 ∧ entry.1.toList = [c]) ∨
      (∃ c ks, singleMark? c = none ∧ equalMark? c = some ks ∧
        (entry.1.toList = [c] ∧ entry.2 = ks.2 ∨ entry.1.toList = [c, '='] ∧ entry.2 = ks.1)) ∨
      (entry.1.toList = ['/'] ∧ entry.2 = .slash) := by
    -- One goal for each mark: it stands alone, or is one of a pair, or begins comments too.
    simp only [Kind.marks, List.forall_mem_cons]
    and_intros
    all_goals first
      | exact .inl ⟨_, rfl, rfl⟩
      | exact .inr (.inl ⟨_, _, rfl, rfl, .inl ⟨rfl, rfl⟩⟩)
      | exact .inr (.inl ⟨_, _, rfl, rfl, .inr ⟨rfl, rfl⟩⟩)
      | exact .inr (.inr ⟨rfl, trivial⟩)
      | exact fun _ mem => absurd mem List.not_mem_nil
  exact each _ mem

/-- A mark that an equals sign may continue is cut off before all but the marks of one character. -/
theorem cut_of_equalMark {ks : Kind × Kind} (single : singleMark? first = none)
    (equal : equalMark? first = some ks) (rest : List Char) :
    cut first rest = equalMark ks first rest := by
  rw [cut, single, equal]

/-- A mark at the beginning of a text is no longer than what is cut off there. -/
theorem mark_outgrown {text : String} {kind : Kind} (mem : (text, kind) ∈ Kind.marks)
    (begins : text.toList <+: first :: rest) :
    (cut first rest).Outgrows text.toList (.token kind none) := by
  -- A mark is a character of its own, one that may go on with an equals sign, or a slash.
  rcases mark_cases mem with ⟨c, single, chars⟩ | ⟨c, ks, single, equal, ⟨chars, rfl⟩ | ⟨chars, rfl⟩⟩ |
    ⟨chars, rfl⟩
  all_goals rw [chars] at begins ⊢
  · obtain ⟨rfl, -⟩ := List.cons_prefix_cons.mp begins
    have cut : cut c rest = mark kind [c] := by rw [cut, single]
    rw [cut]
    exact ⟨reads_mark (singleMark?_mem single), Nat.le_refl _, fun _ => rfl⟩
  · -- The mark may go on with an equals sign, and is another one then.
    obtain ⟨rfl, -⟩ := List.cons_prefix_cons.mp begins
    rw [cut_of_equalMark single equal]
    refine ⟨reads_equalMark equal rest, ?_, ?_⟩
    · unfold equalMark
      split <;> simp [mark]
    · unfold equalMark
      split <;> simp [mark]
  · obtain ⟨rfl, left, rfl⟩ := List.cons_prefix_cons.mp begins
    rw [cut_of_equalMark single equal]
    exact ⟨reads_equalMark equal _, Nat.le_refl _, fun _ => rfl⟩
  · obtain ⟨rfl, -⟩ := List.cons_prefix_cons.mp begins
    refine ⟨reads_slash rest, ?_, ?_⟩
    · show 1 ≤ (slash rest).chars.length
      unfold slash
      split <;> simp [mark]
    · show (slash rest).chars = ['/'] → (slash rest).shape = _
      unfold slash
      split <;> simp [mark]

/-- Neither is a comment: it ends with its line. -/
theorem comment_outgrown {body : List Char} (free : '\n' ∉ body)
    (begins : '/' :: '/' :: body <+: first :: rest) :
    (cut first rest).Outgrows ('/' :: '/' :: body) .comment := by
  obtain ⟨rfl, left, rfl⟩ := List.cons_prefix_cons.mp begins
  refine ⟨reads_slash ('/' :: body ++ left), ?_, fun _ => rfl⟩
  have within : body.length ≤ ((body ++ left).takeWhile (· != '\n')).length :=
    length_le_takeWhile (fun c mem => bne_iff_ne.mpr fun same => free (same ▸ mem)) ⟨left, rfl⟩
  show body.length + 1 + 1 ≤ ((body ++ left).takeWhile (· != '\n')).length + 1 + 1
  omega

/-- Neither is a string: the first quote behind its own closes it. -/
theorem string_outgrown {inside : List Char} (free : '"' ∉ inside)
    (begins : '"' :: inside ++ ['"'] <+: first :: rest) :
    (cut first rest).Outgrows ('"' :: inside ++ ['"'])
      (.token .string (some (.text (String.ofList inside)))) := by
  rw [List.cons_append] at begins
  obtain ⟨rfl, left, rfl⟩ := List.cons_prefix_cons.mp begins
  have other : ∀ c ∈ inside, (c != '"') = true := fun c mem =>
    bne_iff_ne.mpr fun same => free (same ▸ mem)
  -- The string ends at its closing quote, whatever comes behind it.
  have lexeme : string (inside ++ ['"'] ++ left) =
      ⟨.token .string (some (.text (String.ofList inside))), '"' :: inside ++ ['"']⟩ := by
    rw [List.append_assoc, string, List.takeWhile_append_of_pos other, List.dropWhile_append_of_pos other]
    simp
  show (string _).Outgrows _ _
  rw [lexeme]
  exact ⟨.string free, Nat.le_refl _, fun _ => rfl⟩

/-- Neither is a number: the longest one is cut off. -/
theorem number_outgrown (isNumber : IsNumber chars) (begins : chars <+: first :: rest) :
    CharClass.isAsciiDigit first = true ∧ chars.length ≤ (number first rest).chars.length := by
  rw [chars_number]
  cases isNumber with
  | whole digit all =>
    obtain ⟨rfl, behind⟩ := List.cons_prefix_cons.mp begins
    have within := length_le_takeWhile all behind
    refine ⟨digit, ?_⟩
    simp only [List.cons_append, List.length_cons, List.length_append]
    omega
  | @pointed _ more digits digit all nonempty all' =>
    rw [List.cons_append] at begins
    obtain ⟨rfl, left, rfl⟩ := List.cons_prefix_cons.mp begins
    obtain ⟨d, ds, rfl⟩ := List.exists_cons_of_ne_nil nonempty
    -- A point is no digit, so the digits in front of it end there.
    have point : ¬ CharClass.isDigit '.' = true := by decide +kernel
    have front : (more ++ '.' :: d :: ds ++ left).takeWhile CharClass.isDigit = more := by
      rw [List.append_assoc, List.takeWhile_append_of_pos all, List.cons_append,
        List.takeWhile_cons_of_neg point, List.append_nil]
    have back : (more ++ '.' :: d :: ds ++ left).dropWhile CharClass.isDigit = '.' :: d :: (ds ++ left) := by
      rw [List.append_assoc, List.dropWhile_append_of_pos all, List.cons_append,
        List.dropWhile_cons_of_neg point]
      rfl
    have within : ds.length ≤ ((ds ++ left).takeWhile CharClass.isDigit).length :=
      length_le_takeWhile (fun c mem => all' c (List.mem_cons_of_mem _ mem)) ⟨left, rfl⟩
    refine ⟨digit, ?_⟩
    rw [front, back, fraction, if_pos (all' d (List.mem_cons_self ..))]
    simp only [List.cons_append, List.length_cons, List.length_append]
    omega

/-- Neither is a word: the longest one is cut off. -/
theorem word_outgrown (isWord : IsWord chars) (begins : chars <+: first :: rest) :
    CharClass.isNameStart first = true ∧ chars.length ≤ (word first rest).chars.length := by
  rw [chars_word]
  obtain ⟨start, all⟩ := isWord
  obtain ⟨rfl, behind⟩ := List.cons_prefix_cons.mp begins
  exact ⟨start, Nat.succ_le_succ (length_le_takeWhile all behind)⟩

/-- **Whatever lexeme a text begins with**, what is cut off the text is a lexeme and no shorter. -/
theorem Reads.outgrown {shape : Shape} (reads : Reads chars shape) (begins : chars <+: first :: rest) :
    (cut first rest).Outgrows chars shape := by
  cases reads with
  | blank h =>
    obtain ⟨rfl, -⟩ := List.cons_prefix_cons.mp begins
    rw [cut_of_blank h]
    exact ⟨.blank h, Nat.le_refl _, fun _ => rfl⟩
  | comment free => exact comment_outgrown free begins
  | mark mem => exact mark_outgrown mem begins
  | string free => exact string_outgrown free begins
  | number isNumber value =>
    -- What is cut off may be longer, and is then another number, but what it is depends on its characters.
    obtain ⟨digit, length⟩ := number_outgrown isNumber begins
    rw [cut_of_digit digit]
    refine ⟨reads_number digit rest, length, fun same => ?_⟩
    rw [shape_number, same, value]
  | invalid isNumber value =>
    obtain ⟨digit, length⟩ := number_outgrown isNumber begins
    rw [cut_of_digit digit]
    refine ⟨reads_number digit rest, length, fun same => ?_⟩
    rw [shape_number, same, value]
  | keyword isWord reserved =>
    obtain ⟨start, length⟩ := word_outgrown isWord begins
    rw [cut_of_nameStart start]
    refine ⟨reads_word start rest, length, fun same => ?_⟩
    rw [shape_word, same, Kind.ofKeyword?_eq_some_iff.mpr reserved]
  | name isWord free =>
    obtain ⟨start, length⟩ := word_outgrown isWord begins
    rw [cut_of_nameStart start]
    refine ⟨reads_word start rest, length, fun same => ?_⟩
    rw [shape_word, same, Kind.ofKeyword?_eq_none_iff.mpr free]

/-- **The longest lexeme is cut off**, if the text begins with one. -/
theorem Longest.cut_eq {shape : Shape} (h : Longest (first :: rest) chars shape) :
    cut first rest = ⟨shape, chars⟩ := by
  obtain ⟨reads, length, same⟩ := h.reads.outgrown h.begins
  have within := Lexeme.cut_isPrefix first rest
  have shorter := h.longest reads within
  -- Both begin the same text, and neither is shorter than the other.
  have chars_eq : (cut first rest).chars = chars :=
    (List.prefix_of_prefix_length_le within h.begins shorter).eq_of_length_le length
  rw [← same chars_eq, ← chars_eq]

/-- A text that begins with a lexeme begins with a longest one, which is cut off it. -/
theorem longest_cut (reads : Reads (cut first rest).chars (cut first rest).shape) :
    Longest (first :: rest) (cut first rest).chars (cut first rest).shape where
  reads := reads
  begins := cut_isPrefix first rest
  longest := fun other begins => (other.outgrown begins).length_le

end Outgrows

end Lexeme

/-! ## Steps of the scanner -/

namespace Scanner

/-- The next step consumes these characters and yields what they are. -/
def Cuts (s : Scanner) (chars : List Char) (shape : Lexeme.Shape) : Prop :=
  ∃ t, s.step? = some (yield? s t ⟨shape, chars⟩, t) ∧ s.cursor.ahead = chars ++ t.cursor.ahead

/-- A step consumes what is cut off the text ahead. -/
theorem cuts_cut {s : Scanner} {first : Char} {rest : List Char} (ahead : s.cursor.ahead = first :: rest) :
    s.Cuts (Lexeme.cut first rest).chars (Lexeme.cut first rest).shape := by
  obtain ⟨left, split⟩ := Lexeme.cut_isPrefix first rest
  refine ⟨_, step?_of_ahead ahead, ?_⟩
  rw [ahead_consume (ahead.trans split.symm), ahead, split]

/-- **Scanning is longest match.** At every place of every source, if the text ahead begins with a lexeme of
the language, the scanner consumes the longest one and yields what that is: nothing for a blank or a comment,
a reserved word or a name, a string, a number, or a fault for a number with a digit that has no value. If
the text begins with no lexeme, the scanner consumes all of it and yields a fault about an unclosed string
where a quote is ahead, and elsewhere consumes one character and yields a fault about that. -/
theorem cuts_longest (s : Scanner) :
    (∀ chars shape, Lexeme.Longest s.cursor.ahead chars shape → s.Cuts chars shape) ∧
    ((∀ chars shape, ¬ Lexeme.Longest s.cursor.ahead chars shape) →
      match s.cursor.ahead with
      | [] => s.step? = none
      | first :: rest =>
        if first = '"' then s.Cuts (first :: rest) (.fault .unterminatedString)
        else s.Cuts [first] (.fault (.unexpectedCharacter first))) := by
  -- The scanner cuts off `cut first rest`; it is the longest lexeme if it is a lexeme at all.
  cases ahead : s.cursor.ahead with
  | nil =>
    refine ⟨fun chars shape longest => ?_, fun _ => step?_of_end ahead⟩
    exact absurd (List.prefix_nil.mp longest.begins) longest.reads.ne_nil
  | cons first rest =>
    constructor
    · intro chars shape longest
      have cuts := cuts_cut ahead
      rwa [longest.cut_eq] at cuts
    · intro none
      have cuts := cuts_cut ahead
      rcases Lexeme.cut_cases first rest with reads | ⟨quote, lexeme⟩ | ⟨other, lexeme⟩
      · exact absurd (Lexeme.longest_cut reads) (none _ _)
      · rw [lexeme] at cuts
        exact (if_pos quote).mpr cuts
      · rw [lexeme] at cuts
        exact (if_neg other).mpr cuts

end Scanner

end LoxScript
