import LoxScript.Operator
import LoxScript.Proofs.Number.Numeral
import LoxScript.Proofs.Printing.Words

/-! # Pieces of a source

How each kind of word is cut off the front of a text.
A mark ends by itself unless an equals sign could continue it; a name, a reserved word or a number ends
where something else begins.

* **`Ends`** — a text that begins with something that continues no word: a blank, a semicolon or a closing
  parenthesis.
* **`Lexes.mark`**, **`Lexes.symbol`**, **`Lexes.keyword`**, **`Lexes.name`**, **`Lexes.quoted`**,
  **`Lexes.numeral`** — one word in front of a text. -/

namespace LoxScript

/-- The word of a kind that is spelled in one way. -/
def Word.mark (kind : Kind) : Word := ⟨kind, none, kind.spelling?.getD ""⟩

/-- A text that continues no word. -/
inductive Ends : List Char → Prop
  | blank {rest : List Char} : Ends (' ' :: rest)
  | semicolon {rest : List Char} : Ends (';' :: rest)
  | closing {rest : List Char} : Ends (')' :: rest)

section Ends

variable {p : Char → Bool} {cs text : List Char}

/-- Characters of a class end where a text that continues no word begins. -/
theorem Ends.takeWhile (ends : Ends text) (all : ∀ c ∈ cs, p c = true) (blank : p ' ' = false)
    (semicolon : p ';' = false) (closing : p ')' = false) : (cs ++ text).takeWhile p = cs := by
  have stop : text.takeWhile p = [] := by
    cases ends with
    | blank => rw [List.takeWhile_cons, blank]; rfl
    | semicolon => rw [List.takeWhile_cons, semicolon]; rfl
    | closing => rw [List.takeWhile_cons, closing]; rfl
  rw [List.takeWhile_append_of_pos all, stop, List.append_nil]

/-- What ends a word also ends what is dropped with its characters. -/
theorem Ends.dropWhile (ends : Ends text) (all : ∀ c ∈ cs, p c = true) (blank : p ' ' = false)
    (semicolon : p ';' = false) (closing : p ')' = false) : (cs ++ text).dropWhile p = text := by
  have stop : text.dropWhile p = text := by
    cases ends with
    | blank => rw [List.dropWhile_cons, blank]; rfl
    | semicolon => rw [List.dropWhile_cons, semicolon]; rfl
    | closing => rw [List.dropWhile_cons, closing]; rfl
  rw [List.dropWhile_append_of_pos all, stop]

end Ends

namespace Lexeme

/-- The spelling of a mark is its character. -/
theorem word_mark {c : Char} {k : Kind} (h : singleMark? c = some k) :
    Word.mark k = ⟨k, none, String.ofList [c]⟩ := by
  unfold singleMark? at h
  split at h <;> cases h <;> rfl

end Lexeme

namespace Lexes

variable {text rest : List Char} {ws : List Word}

/-- A blank is read over. -/
theorem blank (h : Lexes text ws rest) : Lexes (' ' :: text) ws rest :=
  have cut : Lexeme.cut ' ' text = ⟨.blank, [' ']⟩ := rfl
  .skip cut (.inl rfl) rfl h

/-- So is a newline. -/
theorem newline (h : Lexes text ws rest) : Lexes ('\n' :: text) ws rest :=
  have cut : Lexeme.cut '\n' text = ⟨.blank, ['\n']⟩ := rfl
  .skip cut (.inl rfl) rfl h

/-- So are blanks one after another. -/
theorem blanks (n : Nat) (h : Lexes text ws rest) : Lexes (List.replicate n ' ' ++ text) ws rest := by
  induction n with
  | zero => exact h
  | succ n ih => exact ih.blank

/-! ## Marks -/

/-- A mark of one character is its word, whatever follows. -/
theorem mark {c : Char} {k : Kind} (single : Lexeme.singleMark? c = some k) (h : Lexes text ws rest) :
    Lexes (c :: text) (Word.mark k :: ws) rest := by
  have cut : Lexeme.cut c text = Lexeme.mark k [c] := by rw [Lexeme.cut, single]
  rw [Lexeme.word_mark single]
  exact .word cut rfl rfl h

/-- A mark that an equals sign could continue stands for itself if none follows. -/
theorem equalMark (c : Char) {k k' : Kind} (single : Lexeme.singleMark? c = none)
    (equal : Lexeme.equalMark? c = some (k', k)) (other : text.head? ≠ some '=')
    (h : Lexes text ws rest) : Lexes (c :: text) (⟨k, none, String.ofList [c]⟩ :: ws) rest := by
  have cut : Lexeme.cut c text = Lexeme.mark k [c] := by
    rw [Lexeme.cut, single, equal]
    dsimp only
    rw [Lexeme.equalMark]
    intro more begins
    rw [begins] at other
    exact other rfl
  exact .word cut rfl rfl h

/-- A mark that an equals sign continues. -/
theorem equalMark_equal (c : Char) {k k' : Kind} (single : Lexeme.singleMark? c = none)
    (equal : Lexeme.equalMark? c = some (k', k)) (h : Lexes text ws rest) :
    Lexes (c :: '=' :: text) (⟨k', none, String.ofList [c, '=']⟩ :: ws) rest := by
  have cut : Lexeme.cut c ('=' :: text) = Lexeme.mark k' [c, '='] := by
    rw [Lexeme.cut, single, equal]
    rfl
  exact .word cut rfl rfl h

/-- A slash is a word unless another slash makes it a comment. -/
theorem slash (other : text.head? ≠ some '/') (h : Lexes text ws rest) :
    Lexes ('/' :: text) (Word.mark .slash :: ws) rest := by
  have cut : Lexeme.cut '/' text = Lexeme.mark .slash ['/'] := by
    show Lexeme.slash text = _
    rw [Lexeme.slash]
    intro more begins
    rw [begins] at other
    exact other rfl
  exact .word cut rfl rfl h

/-- **An operator** in front of a text that continues neither it nor a comment. -/
theorem symbol (s : Symbol) (equal : text.head? ≠ some '=') (slash : text.head? ≠ some '/')
    (h : Lexes text ws rest) : Lexes (s.spelling.toList ++ text) (Word.mark s.kind :: ws) rest := by
  cases s with
  | slash => exact h.slash slash
  | bang => exact h.equalMark '!' rfl rfl equal
  | equal => exact h.equalMark '=' rfl rfl equal
  | greater => exact h.equalMark '>' rfl rfl equal
  | less => exact h.equalMark '<' rfl rfl equal
  | bangEqual => exact h.equalMark_equal '!' rfl rfl
  | equalEqual => exact h.equalMark_equal '=' rfl rfl
  | greaterEqual => exact h.equalMark_equal '>' rfl rfl
  | lessEqual => exact h.equalMark_equal '<' rfl rfl
  | dot | minus | plus | star => exact h.mark rfl

/-! ## Words of letters -/

/-- What a reserved word is made of. -/
theorem keyword_parts : ∀ entry ∈ Kind.keywords, ∃ first more, entry.1.toList = first :: more ∧
    CharClass.isNameStart first = true ∧ (∀ c ∈ more, CharClass.isNamePart c = true) ∧
    Kind.ofKeyword? entry.1 = some entry.2 ∧ Word.mark entry.2 = ⟨entry.2, none, entry.1⟩ := by
  intro entry mem
  have parts : ∀ entry ∈ Kind.keywords, ((entry.1.toList.head?).any CharClass.isNameStart &&
      entry.1.toList.tail.all CharClass.isNamePart) = true ∧
      Kind.ofKeyword? entry.1 = some entry.2 ∧ Word.mark entry.2 = ⟨entry.2, none, entry.1⟩ := by
    decide
  obtain ⟨letters, known, spelled⟩ := parts entry mem
  cases chars : entry.1.toList with
  | nil =>
    rw [chars] at letters
    cases letters
  | cons first more =>
    rw [chars, Bool.and_eq_true, List.all_eq_true] at letters
    exact ⟨first, more, rfl, letters.1, letters.2, known, spelled⟩

/-- The letters of a word end where a text that continues no word begins. -/
theorem takeWhile_namePart {more : List Char} (parts : ∀ c ∈ more, CharClass.isNamePart c = true)
    (ends : Ends text) : (more ++ text).takeWhile CharClass.isNamePart = more :=
  ends.takeWhile parts (by decide) (by decide) (by decide)

/-- **A reserved word** in front of a text that does not continue it. -/
theorem keyword (letters : String) {k : Kind} (reserved : (letters, k) ∈ Kind.keywords)
    (ends : Ends text) (h : Lexes text ws rest) :
    Lexes (letters.toList ++ text) (Word.mark k :: ws) rest := by
  obtain ⟨first, more, chars, start, parts, known, spelled⟩ := keyword_parts _ reserved
  dsimp only at chars known spelled
  have letters_eq : String.ofList (first :: more) = letters := by rw [← chars, String.ofList_toList]
  have cut : Lexeme.cut first (more ++ text) = Lexeme.mark k (first :: more) := by
    rw [Lexeme.cut_of_nameStart start, Lexeme.word, takeWhile_namePart parts ends, letters_eq, known]
  rw [chars, spelled, ← letters_eq]
  exact .word cut rfl rfl h

/-- **A name** in front of a text that does not continue it. -/
theorem name {w : Word} (isName : w.IsName) (ends : Ends text) (h : Lexes text ws rest) :
    Lexes (w.lexeme.toList ++ text) (w :: ws) rest := by
  obtain ⟨first, more, start, parts, fresh, rfl⟩ := isName
  have cut : Lexeme.cut first (more ++ text) =
      ⟨.token .identifier (some (.text (String.ofList (first :: more)))), first :: more⟩ := by
    rw [Lexeme.cut_of_nameStart start, Lexeme.word, takeWhile_namePart parts ends, fresh]
  rw [String.toList_ofList]
  exact .word cut rfl rfl h

/-! ## Literals -/

/-- **A text in quotes** with none inside. -/
theorem quoted {inside : List Char} (free : ∀ c ∈ inside, c ≠ '"') (h : Lexes text ws rest) :
    Lexes ('"' :: inside ++ '"' :: text)
      (⟨.string, some (.text (String.ofList inside)), String.ofList ('"' :: inside ++ ['"'])⟩ :: ws)
      rest := by
  have other : ∀ c ∈ inside, (c != '"') = true := fun c mem => bne_iff_ne.mpr (free c mem)
  have taken : (inside ++ '"' :: text).takeWhile (· != '"') = inside := by
    rw [List.takeWhile_append_of_pos other]
    exact List.append_nil inside
  have left : (inside ++ '"' :: text).dropWhile (· != '"') = '"' :: text := by
    rw [List.dropWhile_append_of_pos other]
    rfl
  have cut : Lexeme.cut '"' (inside ++ '"' :: text) =
      ⟨.token .string (some (.text (String.ofList inside))), '"' :: inside ++ ['"']⟩ := by
    show Lexeme.string _ = _
    rw [Lexeme.string, left, taken]
  have split : '"' :: (inside ++ '"' :: text) = ('"' :: inside ++ ['"']) ++ text := by
    rw [List.append_assoc]
    rfl
  exact .word cut rfl split h

/-- The literal that a digit begins is the numeral in front of a text that does not continue it. -/
theorem number_of_numeral {first : Char} {more : List Char} (isNumeral : IsNumeral (first :: more))
    (ends : Ends text) {d : Decimal} (value : Decimal.ofNumeral? (first :: more) = some d) :
    Lexeme.number first (more ++ text) =
      ⟨.token .number (some (.number d.toBinary64)), first :: more⟩ := by
  generalize hcs : first :: more = cs at isNumeral value
  cases isNumeral with
  | whole _ digits =>
    subst hcs
    have letters : ∀ c ∈ more, CharClass.isDigit c = true := fun c mem =>
      digits.isDigit c (List.mem_cons_of_mem _ mem)
    -- Without a point, all digits are taken at once and the text behind them begins no fraction.
    have fraction : Lexeme.fraction text = [] := by cases ends <;> rfl
    have taken := ends.takeWhile letters (by decide) (by decide) (by decide)
    have left := ends.dropWhile letters (by decide) (by decide) (by decide)
    rw [Lexeme.number, taken, left, fraction, List.append_nil, value]
  | @pointed ws fs nonempty digits nonempty' digits' =>
    cases ws with
    | nil => exact absurd rfl nonempty
    | cons first' ws =>
      cases fs with
      | nil => exact absurd rfl nonempty'
      | cons d fs =>
        cases hcs
        have front : ∀ c ∈ ws, CharClass.isDigit c = true := fun c mem =>
          digits.isDigit c (List.mem_cons_of_mem _ mem)
        have back : ∀ c ∈ fs, CharClass.isDigit c = true := fun c mem =>
          digits'.isDigit c (List.mem_cons_of_mem _ mem)
        have split : (ws ++ '.' :: d :: fs) ++ text = ws ++ '.' :: d :: (fs ++ text) := by
          rw [List.append_assoc]
          rfl
        -- The digits in front end at the point; those behind it are taken as the fraction.
        have point : CharClass.isDigit '.' = false := by decide
        have taken : (ws ++ '.' :: d :: (fs ++ text)).takeWhile CharClass.isDigit = ws := by
          rw [List.takeWhile_append_of_pos front, List.takeWhile_cons, point]
          exact List.append_nil ws
        have left : (ws ++ '.' :: d :: (fs ++ text)).dropWhile CharClass.isDigit =
            '.' :: d :: (fs ++ text) := by
          rw [List.dropWhile_append_of_pos front, List.dropWhile_cons, point]
          rfl
        have fraction : Lexeme.fraction ('.' :: d :: (fs ++ text)) = '.' :: d :: fs := by
          rw [Lexeme.fraction, if_pos (digits'.isDigit d (List.mem_cons_self ..)),
            ends.takeWhile back (by decide) (by decide) (by decide)]
        show Lexeme.number first ((ws ++ '.' :: d :: fs) ++ text) = _
        rw [split, Lexeme.number, taken, left, fraction, value]

/-- A numeral begins with a digit. -/
theorem exists_digit_of_numeral {cs : List Char} (h : IsNumeral cs) :
    ∃ first more, cs = first :: more ∧ CharClass.isAsciiDigit first = true := by
  cases h with
  | @whole ds nonempty digits =>
    obtain ⟨first, more, rfl⟩ := List.exists_cons_of_ne_nil nonempty
    exact ⟨first, more, rfl, digits first (List.mem_cons_self ..)⟩
  | @pointed ws fs nonempty digits =>
    obtain ⟨first, more, rfl⟩ := List.exists_cons_of_ne_nil nonempty
    exact ⟨first, _, rfl, digits first (List.mem_cons_self ..)⟩

/-- **A numeral** in front of a text that does not continue it. -/
theorem numeral {cs : List Char} {x : Binary64} (denotes : Denotes cs x) (ends : Ends text)
    (h : Lexes text ws rest) :
    Lexes (cs ++ text) (⟨.number, some (.number x), String.ofList cs⟩ :: ws) rest := by
  obtain ⟨isNumeral, d, value, rfl⟩ := denotes
  obtain ⟨first, more, rfl, digit⟩ := exists_digit_of_numeral isNumeral
  have cut : Lexeme.cut first (more ++ text) =
      ⟨.token .number (some (.number d.toBinary64)), first :: more⟩ := by
    rw [Lexeme.cut_of_digit digit, number_of_numeral isNumeral ends value]
  exact .word cut rfl rfl h

end Lexes

end LoxScript
