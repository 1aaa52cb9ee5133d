import LoxScript.Proofs.Grammar.Derivation
import LoxScript.Proofs.Printing.Pieces
import LoxScript.Proofs.Printing.Regrouped

/-! # The words of the canonical source

The canonical source of a tree is cut into the words of the regrouped tree: the pieces that the printer
puts next to each other never merge.

* **`Expr.words`**, **`Stmt.words`** — the words of a tree, written as it stands.
* **`Expr.Writable`**, **`Stmt.Writable`** — trees that a program can contain: names are names, texts have
  no quotes inside, operators join or precede operands, and nothing is misplaced.
* **`Stmt.Over`** — trees over expressions of a sort, with a condition on what stands before an `else`.
* **`Expr.Writable.lexes`**, **`Stmt.Over.lexes`**, **`lexes_programSource`** — the words of the canonical
  source. -/

namespace LoxScript

/-! ## The words of a tree -/

/-- The word of a literal. -/
def Value.word : Value → Word
  | .nil => .mark .nilWord
  | .boolean true => .mark .trueWord
  | .boolean false => .mark .falseWord
  | .number x => ⟨.number, some (.number x), x.plain⟩
  | .text s => ⟨.string, some (.text s), "\"" ++ s ++ "\""⟩

/-- The words of an expression as it stands. -/
def Expr.words : Expr → List Word
  | .assign name value => name.word :: .mark .equal :: value.words
  | .binary left operator right => left.words ++ .mark operator.symbol.kind :: right.words
  | .grouping inner => .mark .leftParen :: (inner.words ++ [.mark .rightParen])
  | .literal value => [value.word]
  | .unary operator operand => .mark operator.symbol.kind :: operand.words
  | .reference name => [name.word]
  | .misplaced _ => []

mutual

/-- The words of a statement as it stands. -/
def Stmt.words : Stmt → List Word
  | .block ss => .mark .leftBrace :: (Stmt.wordsAll ss ++ [.mark .rightBrace])
  | .expression e => e.words ++ [.mark .semicolon]
  | .print e => .mark .printWord :: (e.words ++ [.mark .semicolon])
  | .declare name none => [.mark .varWord, name.word, .mark .semicolon]
  | .declare name (some e) =>
    .mark .varWord :: name.word :: .mark .equal :: (e.words ++ [.mark .semicolon])
  | .branch condition consequent none =>
    .mark .ifWord :: .mark .leftParen :: (condition.words ++ .mark .rightParen :: consequent.words)
  | .branch condition consequent (some alternative) =>
    .mark .ifWord :: .mark .leftParen :: (condition.words ++ .mark .rightParen ::
      (consequent.words ++ .mark .elseWord :: alternative.words))
  | .loop condition body =>
    .mark .whileWord :: .mark .leftParen :: (condition.words ++ .mark .rightParen :: body.words)
  | .misplaced _ => []

/-- The words of statements one after another. -/
def Stmt.wordsAll : List Stmt → List Word
  | [] => []
  | s :: rest => s.words ++ Stmt.wordsAll rest

end

/-! ## Trees that can be written -/

/-- Whether an expression can be an operand as it stands: an assignment cannot. -/
def Expr.isOperand : Expr → Bool
  | .assign .. => false
  | _ => true

/-- Whether an `else` behind a statement would belong to a choice at its end. -/
def Stmt.isOpen : Stmt → Bool
  | .branch _ _ none => true
  | .branch _ _ (some alternative) => alternative.isOpen
  | .loop _ body => body.isOpen
  | _ => false

/-- **Expressions that a program can contain.** -/
inductive Expr.Writable : Expr → Prop
  | assign {name : Token} {value : Expr} : name.word.IsName → Writable value → Writable (.assign name value)
  | binary {left right : Expr} {operator : Operator} {level : Nat} {kind : Kind} :
      Writable left → left.isOperand = true → Grammar.Joins level kind operator.symbol →
      Writable right → right.isOperand = true → Writable (.binary left operator right)
  | grouping {inner : Expr} : Writable inner → Writable (.grouping inner)
  | literal {value : Value} : (∀ s, value = .text s → ∀ c ∈ s.toList, c ≠ '"') →
      Writable (.literal value)
  | unary {operator : Operator} {operand : Expr} :
      operator.symbol = .bang ∨ operator.symbol = .minus → Writable operand →
      operand.isOperand = true → Writable (.unary operator operand)
  | reference {name : Token} : name.word.IsName → Writable (.reference name)

/-- **Statements that a program can contain.** A branch or body is no declaration, and what stands before
an `else` is not open. -/
inductive Stmt.Writable : Stmt → Prop
  | block {ss : List Stmt} : (∀ s ∈ ss, Writable s) → Writable (.block ss)
  | expression {e : Expr} : e.Writable → Writable (.expression e)
  | print {e : Expr} : e.Writable → Writable (.print e)
  | declare {name : Token} {initial : Option Expr} :
      name.word.IsName → (∀ e ∈ initial, e.Writable) → Writable (.declare name initial)
  | branch {condition : Expr} {consequent : Stmt} :
      condition.Writable → consequent.declared = [] → Writable consequent →
      Writable (.branch condition consequent none)
  | choice {condition : Expr} {consequent alternative : Stmt} :
      condition.Writable → consequent.declared = [] → Writable consequent → consequent.isOpen = false →
      alternative.declared = [] → Writable alternative →
      Writable (.branch condition consequent (some alternative))
  | loop {condition : Expr} {body : Stmt} :
      condition.Writable → body.declared = [] → Writable body → Writable (.loop condition body)

/-- **Statements over expressions of a sort `E`** that have `C` before each `else`. Names are names, and a
branch or body is no declaration. -/
inductive Stmt.Over (E : Expr → Prop) (C : Stmt → Prop) : Stmt → Prop
  | block {ss : List Stmt} : (∀ s ∈ ss, Over E C s) → Over E C (.block ss)
  | expression {e : Expr} : E e → Over E C (.expression e)
  | print {e : Expr} : E e → Over E C (.print e)
  | declare {name : Token} {initial : Option Expr} :
      name.word.IsName → (∀ e ∈ initial, E e) → Over E C (.declare name initial)
  | branch {condition : Expr} {consequent : Stmt} :
      E condition → consequent.declared = [] → Over E C consequent →
      Over E C (.branch condition consequent none)
  | choice {condition : Expr} {consequent alternative : Stmt} :
      E condition → consequent.declared = [] → Over E C consequent → C consequent →
      alternative.declared = [] → Over E C alternative →
      Over E C (.branch condition consequent (some alternative))
  | loop {condition : Expr} {body : Stmt} :
      E condition → body.declared = [] → Over E C body → Over E C (.loop condition body)

/-- Writable statements are those over writable expressions with nothing open before an `else`. -/
theorem Stmt.Writable.toOver {s : Stmt} (h : s.Writable) : s.Over Expr.Writable (·.isOpen = false) := by
  induction h with
  | block _ ih => exact .block ih
  | expression writable => exact .expression writable
  | print writable => exact .print writable
  | declare isName writable => exact .declare isName writable
  | branch writable declared _ ih => exact .branch writable declared ih
  | choice writable declared _ closed declared' _ ih ih' =>
    exact .choice writable declared ih closed declared' ih'
  | loop writable declared _ ih => exact .loop writable declared ih

/-! ## Literals -/

/-- A whole number is denoted by its digits. -/
theorem denotes_whole (n : Nat) : Denotes (Decimal.digitsOf n) (.whole n) := by
  refine ⟨.whole (Decimal.digitsOf_ne_nil n) (.digitsOf n), _, Decimal.ofNumeral?_whole (.digitsOf n), ?_⟩
  rw [Decimal.ofDigitChars_digitsOf]
  rfl

section Lexing

variable {text rest : List Char} {ws : List Word}

/-- A number in front of a text that does not continue it, if its plain text denotes it. -/
theorem Lexes.plain {x : Binary64} (denotes : Denotes x.plain.toList x) (ends : Ends text)
    (h : Lexes text ws rest) : Lexes (x.plain.toList ++ text) ((Value.number x).word :: ws) rest := by
  have word : (Value.number x).word = ⟨.number, some (.number x), String.ofList x.plain.toList⟩ := by
    rw [String.ofList_toList, Value.word]
  rw [word]
  exact h.numeral denotes ends

/-- One of the whole numbers that numbers without a literal are written with. -/
theorem Lexes.whole {n : Nat} (plain : (Binary64.whole n).plain.toList = Decimal.digitsOf n)
    (ends : Ends text) (h : Lexes text ws rest) :
    Lexes (Decimal.digitsOf n ++ text) ((Value.number (.whole n)).word :: ws) rest := by
  have denotes := denotes_whole n
  rw [← plain] at denotes ⊢
  exact h.plain denotes ends

/-- Zero is printed as its digit. -/
theorem plain_whole_zero : (Binary64.whole 0).plain.toList = Decimal.digitsOf 0 := by decide +kernel

/-- So is one. -/
theorem plain_whole_one : (Binary64.whole 1).plain.toList = Decimal.digitsOf 1 := by decide +kernel

/-- A division by zero behind its numerator. -/
theorem Lexes.overZero (h : Lexes text ws rest) :
    Lexes (" / 0)".toList ++ text)
      (Word.mark .slash :: (Value.number (.whole 0)).word :: Word.mark .rightParen :: ws) rest := by
  show Lexes (' ' :: '/' :: ' ' :: (Decimal.digitsOf 0 ++ ')' :: text)) _ rest
  exact .blank (.slash (by simp) (.blank (.whole plain_whole_zero .closing (.mark rfl h))))

/-- The source of a number is cut into the words of the regrouped literal wherever the literal of a number
without a sign is cut off whole. -/
theorem Lexes.numberSource_of (x : Binary64) (h : Lexes text ws rest)
    (unsigned : ∀ m e canonical, x = .finite false m e canonical →
      Lexes (x.plain.toList ++ text) ((Value.number x).word :: ws) rest) :
    Lexes ((Value.numberSource x).toList ++ text) ((Value.number x).regrouped.words ++ ws) rest := by
  -- Infinities and what is not a number are written as quotients of whole numbers, in parentheses.
  cases x with
  | nan => exact .mark rfl (.whole plain_whole_zero .blank h.overZero)
  | infinity negative =>
    cases negative with
    | false => exact .mark rfl (.whole plain_whole_one .blank h.overZero)
    | true => exact .mark rfl (.mark rfl (.whole plain_whole_one .blank h.overZero))
  | finite negative m e canonical =>
    cases negative with
    | false => exact unsigned m e canonical rfl
    | true =>
      have closed : Lexes (')' :: text) (Word.mark .rightParen :: ws) rest := h.mark rfl
      have split : (Value.numberSource (.finite true m e canonical)).toList ++ text =
          '(' :: '-' :: ((Binary64.finite false m e canonical).plain.toList ++ ')' :: text) := by
        rw [Value.numberSource, String.toList_append, String.toList_append, List.append_assoc,
          List.append_assoc]
        rfl
      rw [split]
      exact .mark rfl (.mark rfl (closed.plain Binary64.plain_denotes .closing))

/-- The source of a number is cut into the words of the regrouped literal. -/
theorem Lexes.numberSource (x : Binary64) (ends : Ends text) (h : Lexes text ws rest) :
    Lexes ((Value.numberSource x).toList ++ text) ((Value.number x).regrouped.words ++ ws) rest := by
  refine h.numberSource_of x fun m e canonical unsigned => ?_
  rw [unsigned]
  exact h.plain Binary64.plain_denotes ends

/-- The source of a literal is cut into the words of the regrouped literal. -/
theorem Lexes.literal {v : Value} (free : ∀ s, v = .text s → ∀ c ∈ s.toList, c ≠ '"')
    (ends : Ends text) (h : Lexes text ws rest) :
    Lexes (v.source.toList ++ text) (v.regrouped.words ++ ws) rest := by
  cases v with
  | nil => exact .keyword "nil" (by decide) ends h
  | boolean b =>
    cases b with
    | true => exact .keyword "true" (by decide) ends h
    | false => exact .keyword "false" (by decide) ends h
  | number x => exact h.numberSource x ends
  | text s =>
    have split : (Value.text s).source.toList ++ text = '"' :: s.toList ++ '"' :: text := by
      rw [Value.source, String.toList_append, String.toList_append, List.append_assoc, List.append_assoc]
      rfl
    have word : (Value.text s).word = ⟨.string, some (.text (String.ofList s.toList)),
        String.ofList ('"' :: s.toList ++ ['"'])⟩ := by
      have quoted : "\"" ++ s ++ "\"" = String.ofList ('"' :: s.toList ++ ['"']) := by
        rw [← String.toList_inj]
        simp
      rw [Value.word, quoted, String.ofList_toList]
    rw [split]
    show Lexes _ ((Value.text s).word :: ws) rest
    rw [word]
    exact h.quoted (free s rfl)

/-! ## Expressions -/

/-- A character that an expression may begin with. -/
def beginsSource (c : Char) : Bool :=
  CharClass.isNameStart c || CharClass.isAsciiDigit c || c == '(' || c == '"'

/-- A name begins as sources of expressions do. -/
theorem Word.IsName.begins {w : Word} (h : w.IsName) :
    ∃ c cs, w.lexeme.toList = c :: cs ∧ beginsSource c = true := by
  obtain ⟨first, more, start, -, -, rfl⟩ := h
  exact ⟨first, more, String.toList_ofList, by rw [beginsSource, start]; rfl⟩

/-- So does the source of a literal. -/
theorem Value.source_begins (v : Value) : ∃ c cs, v.source.toList = c :: cs ∧ beginsSource c = true := by
  cases v with
  | nil => exact ⟨'n', _, rfl, by decide⟩
  | boolean b =>
    cases b with
    | true => exact ⟨'t', _, rfl, by decide⟩
    | false => exact ⟨'f', _, rfl, by decide⟩
  | number x =>
    cases x with
    | nan => exact ⟨'(', _, rfl, by decide⟩
    | infinity negative => cases negative <;> exact ⟨'(', _, rfl, by decide⟩
    | finite negative m e canonical =>
      cases negative with
      | true =>
        rw [Value.source, Value.numberSource, String.toList_append, String.toList_append]
        exact ⟨'(', _, rfl, by decide⟩
      | false =>
        -- Without a sign the number is written as a numeral, which begins with a digit.
        have denotes : Denotes (Binary64.finite false m e canonical).plain.toList _ :=
          Binary64.plain_denotes
        obtain ⟨c, cs, eq, digit⟩ := Lexes.exists_digit_of_numeral denotes.1
        exact ⟨c, cs, eq, by rw [beginsSource, digit, Bool.or_true]; rfl⟩
  | text s =>
    rw [Value.source, String.toList_append, String.toList_append]
    exact ⟨'"', _, rfl, by decide⟩

/-- So does the source of every expression that a program can contain. -/
theorem Expr.Writable.source_begins {e : Expr} (h : e.Writable) (level : Nat) :
    ∃ c cs, (e.source level).toList = c :: cs ∧ beginsSource c = true := by
  cases h with
  | @assign name _ isName =>
    obtain ⟨c, cs, eq, begins⟩ := isName.begins
    have lexeme : name.lexeme.toList = c :: cs := eq
    rw [Expr.source, String.toList_append, String.toList_append, lexeme]
    exact ⟨c, _, rfl, begins⟩
  | reference isName => exact isName.begins
  | @literal value _ => exact value.source_begins
  | binary | grouping | unary =>
    simp only [Expr.source, String.toList_append, List.append_assoc]
    exact ⟨'(', _, rfl, by decide⟩

/-- The source of an expression begins with neither an equals sign nor a slash, which would continue an
operator before it. -/
theorem Expr.Writable.source_head {e : Expr} (h : e.Writable) (level : Nat) (text : List Char) :
    ((e.source level).toList ++ text).head? ≠ some '=' ∧
      ((e.source level).toList ++ text).head? ≠ some '/' := by
  obtain ⟨c, cs, eq, begins⟩ := h.source_begins level
  rw [eq]
  constructor
  · rintro ⟨⟩
    exact absurd begins (by decide)
  · rintro ⟨⟩
    exact absurd begins (by decide)

/-- A blank is neither an equals sign nor a slash, so what stands before it is not continued. -/
theorem blank_head (text : List Char) :
    (' ' :: text).head? ≠ some '=' ∧ (' ' :: text).head? ≠ some '/' := by
  constructor <;> rintro ⟨⟩

/-- **The source of an expression is cut into the words of the regrouped expression**, whatever follows
that continues no word. -/
theorem Expr.Writable.lexes {e : Expr} (h : e.Writable) (level : Nat) {text rest : List Char}
    {ws : List Word} (ends : Ends text) (behind : Lexes text ws rest) :
    Lexes ((e.source level).toList ++ text) (e.regrouped.words ++ ws) rest := by
  -- By induction on the expression: `split` spreads its source into the words and the blanks between them,
  -- and behind every part stands a character that ends what was written last.
  induction h generalizing text ws with
  | @assign name value isName _ ih =>
    have split : ((Expr.assign name value).source level).toList ++ text =
        name.word.lexeme.toList ++ ' ' :: '=' :: ' ' :: ((value.source level).toList ++ text) := by
      simp only [Expr.source, String.toList_append, List.append_assoc]
      rfl
    rw [split]
    exact .name isName .blank (.blank (.symbol .equal (blank_head _).1 (blank_head _).2
      (.blank (ih ends behind))))
  | @binary left right operator l k _ _ joins _ _ ihl ihr =>
    have split : ((Expr.binary left operator right).source level).toList ++ text =
        '(' :: ((left.source level).toList ++ ' ' :: (operator.symbol.spelling.toList ++
          ' ' :: ((right.source level).toList ++ ')' :: text))) := by
      simp only [Expr.source, String.toList_append, List.append_assoc]
      rfl
    have words : (Expr.binary left operator right).regrouped.words ++ ws =
        Word.mark .leftParen :: (left.regrouped.words ++ Word.mark operator.symbol.kind ::
          (right.regrouped.words ++ Word.mark .rightParen :: ws)) := by
      simp only [Expr.regrouped, Expr.words, List.append_assoc, List.cons_append, List.nil_append]
    rw [split, words]
    refine .mark rfl (ihl .blank (.blank (.symbol _ (blank_head _).1 (blank_head _).2 (.blank ?_))))
    exact ihr .closing (.mark rfl behind)
  | @grouping inner _ ih =>
    have split : ((Expr.grouping inner).source level).toList ++ text =
        '(' :: ((inner.source level).toList ++ ')' :: text) := by
      simp only [Expr.source, String.toList_append, List.append_assoc]
      rfl
    have words : (Expr.grouping inner).regrouped.words ++ ws =
        Word.mark .leftParen :: (inner.regrouped.words ++ Word.mark .rightParen :: ws) := by
      simp only [Expr.regrouped, Expr.words, List.append_assoc, List.cons_append, List.nil_append]
    rw [split, words]
    exact .mark rfl (ih .closing (.mark rfl behind))
  | literal free => exact behind.literal free ends
  | @unary operator operand _ writable _ ih =>
    have split : ((Expr.unary operator operand).source level).toList ++ text =
        '(' :: (operator.symbol.spelling.toList ++ ((operand.source level).toList ++ ')' :: text)) := by
      simp only [Expr.source, String.toList_append, List.append_assoc]
      rfl
    have words : (Expr.unary operator operand).regrouped.words ++ ws =
        Word.mark .leftParen :: Word.mark operator.symbol.kind ::
          (operand.regrouped.words ++ Word.mark .rightParen :: ws) := by
      simp only [Expr.regrouped, Expr.words, List.append_assoc, List.cons_append, List.nil_append]
    -- The operator must not grow: the operand starts with neither `=` nor `/`.
    have head := writable.source_head level (')' :: text)
    rw [split, words]
    exact .mark rfl (.symbol _ head.1 head.2 (ih .closing (.mark rfl behind)))
  | reference isName => exact .name isName ends behind

/-! ## Statements -/

/-- Indentation is read over. -/
theorem Lexes.indentation (level : Nat) (behind : Lexes text ws rest) :
    Lexes ((indentation level).toList ++ text) ws rest := by
  rw [LoxScript.indentation, String.toList_ofList]
  exact behind.blanks _

/-- A reserved word and a condition in parentheses. -/
theorem Lexes.condition {letters : String} {k : Kind} (reserved : (letters, k) ∈ Kind.keywords)
    {e : Expr} (writable : e.Writable) (level : Nat) (behind : Lexes text ws rest) :
    Lexes (letters.toList ++ ' ' :: '(' :: ((e.source level).toList ++ ')' :: ' ' :: text))
      (.mark k :: .mark .leftParen :: (e.regrouped.words ++ .mark .rightParen :: ws)) rest :=
  .keyword letters reserved .blank (.blank (.mark rfl
    (writable.lexes level .closing (.mark rfl behind.blank))))

/-- An expression and a semicolon. -/
theorem Lexes.terminated {e : Expr} (writable : e.Writable) (level : Nat) (behind : Lexes text ws rest) :
    Lexes ((e.source level).toList ++ ';' :: text) (e.regrouped.words ++ .mark .semicolon :: ws) rest :=
  writable.lexes level .semicolon (.mark rfl behind)

/-- A block with its lines between braces. -/
theorem Lexes.block {lines : List String} {inner : List Word} (level : Nat)
    (inside : ∀ {text : List Char} {ws : List Word}, Lexes text ws rest →
      Lexes (("\n".intercalate lines).toList ++ text) (inner ++ ws) rest)
    (empty : lines = [] → inner = []) (behind : Lexes text ws rest) :
    Lexes ((blockSource level lines).toList ++ text)
      (.mark .leftBrace :: (inner ++ .mark .rightBrace :: ws)) rest := by
  cases lines with
  | nil =>
    have empty_block : blockSource level [] = "\x7b\x7d" := by rw [blockSource, if_pos List.isEmpty_nil]
    rw [empty rfl, empty_block]
    show Lexes ('\x7b' :: '\x7d' :: text) (.mark .leftBrace :: .mark .rightBrace :: ws) rest
    exact .mark rfl (.mark rfl behind)
  | cons line more =>
    have split : (blockSource level (line :: more)).toList ++ text =
        '\x7b' :: '\n' :: (("\n".intercalate (line :: more)).toList ++
          '\n' :: ((LoxScript.indentation level).toList ++ '\x7d' :: text)) := by
      have nonempty : ¬ (line :: more).isEmpty = true := Bool.false_ne_true
      rw [blockSource, if_neg nonempty]
      simp only [String.toList_append, List.append_assoc]
      rfl
    rw [split]
    exact .mark rfl (.newline (inside (.newline (.indentation level (.mark rfl behind)))))

/-- Statements on lines of their own, if each of them is cut into its words. -/
theorem Lexes.lines {level : Nat} {ss : List Stmt}
    (each : ∀ s ∈ ss, ∀ {text : List Char} {ws : List Word}, Lexes text ws rest →
      Lexes ((s.source level).toList ++ text) (s.regrouped.words ++ ws) rest)
    (behind : Lexes text ws rest) :
    Lexes (("\n".intercalate (Stmt.sourceLines level ss)).toList ++ text)
      (Stmt.wordsAll (Stmt.regroupedAll ss) ++ ws) rest := by
  -- By induction on the statements; the last one is told apart, since no line break stands behind it.
  induction ss with
  | nil => exact behind
  | cons s more ih =>
    have others := ih fun t mem => each t (List.mem_cons_of_mem _ mem)
    have words : Stmt.wordsAll (Stmt.regroupedAll (s :: more)) ++ ws =
        s.regrouped.words ++ (Stmt.wordsAll (Stmt.regroupedAll more) ++ ws) := by
      rw [Stmt.regroupedAll, Stmt.wordsAll, List.append_assoc]
    rw [words]
    cases more with
    | nil =>
      have split : ("\n".intercalate (Stmt.sourceLines level [s])).toList ++ text =
          (LoxScript.indentation level).toList ++ ((s.source level).toList ++ text) := by
        rw [Stmt.sourceLines, Stmt.sourceLines, String.intercalate_singleton, String.toList_append,
          List.append_assoc]
      rw [split]
      exact .indentation level (each s (List.mem_cons_self ..) behind)
    | cons t more =>
      have split : ("\n".intercalate (Stmt.sourceLines level (s :: t :: more))).toList ++ text =
          (LoxScript.indentation level).toList ++ ((s.source level).toList ++
            '\n' :: (("\n".intercalate (Stmt.sourceLines level (t :: more))).toList ++ text)) := by
        rw [Stmt.sourceLines, Stmt.sourceLines, String.intercalate_cons_cons]
        simp only [String.toList_append, List.append_assoc]
        rfl
      rw [split]
      exact .indentation level (each s (List.mem_cons_self ..) others.newline)

/-- Before every text and at every level, the source of a statement is cut into the words
of the regrouped statement. -/
def Stmt.CutAsWritten (rest : List Char) (s : Stmt) : Prop :=
  ∀ (level : Nat) ⦃text : List Char⦄ ⦃ws : List Word⦄, Lexes text ws rest →
    Lexes ((s.source level).toList ++ text) (s.regrouped.words ++ ws) rest

namespace Stmt.CutAsWritten

/-- An expression and its semicolon. -/
theorem expression {e : Expr} (writable : e.Writable) : (Stmt.expression e).CutAsWritten rest := by
  intro level text ws behind
  have split : ((Stmt.expression e).source level).toList ++ text =
      (e.source level).toList ++ ';' :: text := by
    show (e.source level ++ ";").toList ++ text = _
    rw [String.toList_append, List.append_assoc]
    rfl
  have words : (Stmt.expression e).regrouped.words ++ ws =
      e.regrouped.words ++ Word.mark .semicolon :: ws := List.append_assoc ..
  rw [split, words]
  exact .terminated writable level behind

/-- A `print`: the blank keeps the reserved word apart from the expression. -/
theorem print {e : Expr} (writable : e.Writable) : (Stmt.print e).CutAsWritten rest := by
  intro level text ws behind
  have split : ((Stmt.print e).source level).toList ++ text =
      "print".toList ++ ' ' :: ((e.source level).toList ++ ';' :: text) := by
    show ("print " ++ e.source level ++ ";").toList ++ text = _
    simp only [String.toList_append, List.append_assoc]
    rfl
  have words : (Stmt.print e).regrouped.words ++ ws =
      Word.mark .printWord :: (e.regrouped.words ++ Word.mark .semicolon :: ws) :=
    congrArg _ (List.append_assoc ..)
  rw [split, words]
  exact .keyword "print" (by decide) .blank (.blank (.terminated writable level behind))

/-- A declaration without an initial value: the semicolon ends the name. -/
theorem declare {name : Token} (isName : name.word.IsName) :
    (Stmt.declare name none).CutAsWritten rest := by
  intro level text ws behind
  have split : ((Stmt.declare name none).source level).toList ++ text =
      "var".toList ++ ' ' :: (name.word.lexeme.toList ++ ';' :: text) := by
    show ("var " ++ name.word.lexeme ++ ";").toList ++ text = _
    simp only [String.toList_append, List.append_assoc]
    rfl
  rw [split]
  exact .keyword "var" (by decide) .blank (.blank (.name isName .semicolon (.mark rfl behind)))

/-- A declaration with an initial value: blanks keep the name, `=` and the value apart. -/
theorem assigned {name : Token} {e : Expr} (isName : name.word.IsName) (writable : e.Writable) :
    (Stmt.declare name (some e)).CutAsWritten rest := by
  intro level text ws behind
  have split : ((Stmt.declare name (some e)).source level).toList ++ text =
      "var".toList ++ ' ' :: (name.word.lexeme.toList ++ ' ' :: '=' :: ' ' ::
        ((e.source level).toList ++ ';' :: text)) := by
    show ("var " ++ name.word.lexeme ++ " = " ++ e.source level ++ ";").toList ++ text = _
    simp only [String.toList_append, List.append_assoc]
    rfl
  have words : (Stmt.declare name (some e)).regrouped.words ++ ws =
      Word.mark .varWord :: name.word :: Word.mark .equal ::
        (e.regrouped.words ++ Word.mark .semicolon :: ws) := by
    show _ :: _ :: _ :: ((e.regrouped.words ++ [Word.mark .semicolon]) ++ ws) = _
    rw [List.append_assoc]
    rfl
  have terminated := Lexes.terminated writable level behind
  rw [split, words]
  exact .keyword "var" (by decide) .blank (.blank (.name isName .blank (.blank
    (.symbol .equal (blank_head _).1 (blank_head _).2 terminated.blank))))

/-- A block whose statements are cut as written. -/
theorem block {ss : List Stmt} (each : ∀ s ∈ ss, s.CutAsWritten rest) :
    (Stmt.block ss).CutAsWritten rest := by
  intro level text ws behind
  have words : (Stmt.block ss).regrouped.words ++ ws = Word.mark .leftBrace ::
      (Stmt.wordsAll (Stmt.regroupedAll ss) ++ Word.mark .rightBrace :: ws) :=
    congrArg _ (List.append_assoc ..)
  have empty : Stmt.sourceLines (level + 1) ss = [] → Stmt.wordsAll (Stmt.regroupedAll ss) = [] := by
    intro none
    cases ss with
    | nil => rfl
    | cons s more => cases none
  rw [words]
  exact .block level (.lines fun s mem _ _ behind => each s mem (level + 1) behind) empty behind

/-- An `if` without an `else`. -/
theorem branch {condition : Expr} {consequent : Stmt} (writable : condition.Writable)
    (h : consequent.CutAsWritten rest) : (Stmt.branch condition consequent none).CutAsWritten rest := by
  intro level text ws behind
  have split : ((Stmt.branch condition consequent none).source level).toList ++ text =
      "if".toList ++ ' ' :: '(' :: ((condition.source level).toList ++ ')' :: ' ' ::
        ((consequent.source level).toList ++ text)) := by
    show ("if (" ++ condition.source level ++ ") " ++ consequent.source level).toList ++ text = _
    simp only [String.toList_append, List.append_assoc]
    rfl
  have words : (Stmt.branch condition consequent none).regrouped.words ++ ws =
      Word.mark .ifWord :: Word.mark .leftParen :: (condition.regrouped.words ++
        Word.mark .rightParen :: (consequent.regrouped.words ++ ws)) :=
    congrArg (_ :: _ :: ·) (List.append_assoc ..)
  rw [split, words]
  exact .condition (by decide) writable level (h level behind)

/-- What stands before an `else`: an `if` in braces of its own, any other statement as it is. -/
theorem beforeElse {consequent : Stmt} (h : consequent.CutAsWritten rest) (level : Nat)
    (behind : Lexes text ws rest) :
    Lexes ((if consequent.isBranch then
        blockSource level [LoxScript.indentation (level + 1) ++ consequent.source (level + 1)]
      else consequent.source level).toList ++ text)
      ((consequent.braced consequent.regrouped).words ++ ws) rest := by
  rw [Stmt.braced]
  split
  · have words : (Stmt.block [consequent.regrouped]).words ++ ws = Word.mark .leftBrace ::
        (consequent.regrouped.words ++ Word.mark .rightBrace :: ws) := by
      show _ :: (((consequent.regrouped.words ++ []) ++ [Word.mark .rightBrace]) ++ ws) = _
      rw [List.append_nil, List.append_assoc]
      rfl
    rw [words]
    refine .block level (fun behind => ?_) (fun empty => by cases empty) behind
    rw [String.intercalate_singleton, String.toList_append, List.append_assoc]
    exact .indentation (level + 1) (h (level + 1) behind)
  · exact h level behind

/-- An `if` with an `else`. -/
theorem choice {condition : Expr} {consequent alternative : Stmt} (writable : condition.Writable)
    (h : consequent.CutAsWritten rest) (h' : alternative.CutAsWritten rest) :
    (Stmt.branch condition consequent (some alternative)).CutAsWritten rest := by
  intro level text ws behind
  have split : ((Stmt.branch condition consequent (some alternative)).source level).toList ++ text =
      "if".toList ++ ' ' :: '(' :: ((condition.source level).toList ++ ')' :: ' ' ::
        ((if consequent.isBranch then
            blockSource level [LoxScript.indentation (level + 1) ++ consequent.source (level + 1)]
          else consequent.source level).toList ++ ' ' :: ("else".toList ++ ' ' ::
            ((alternative.source level).toList ++ text)))) := by
    show ("if (" ++ condition.source level ++ ") " ++ _ ++ " else " ++
      alternative.source level).toList ++ text = _
    simp only [String.toList_append, List.append_assoc]
    rfl
  have words : (Stmt.branch condition consequent (some alternative)).regrouped.words ++ ws =
      Word.mark .ifWord :: Word.mark .leftParen :: (condition.regrouped.words ++
        Word.mark .rightParen :: ((consequent.braced consequent.regrouped).words ++
          Word.mark .elseWord :: (alternative.regrouped.words ++ ws))) := by
    show _ :: _ :: (condition.regrouped.words ++ _ :: ((consequent.braced consequent.regrouped).words ++
      _ :: alternative.regrouped.words) ++ ws) = _
    simp only [List.append_assoc, List.cons_append]
  rw [split, words]
  exact .condition (by decide) writable level (h.beforeElse level
    (.blank (.keyword "else" (by decide) .blank (h' level behind).blank)))

/-- A loop. -/
theorem loop {condition : Expr} {body : Stmt} (writable : condition.Writable)
    (h : body.CutAsWritten rest) : (Stmt.loop condition body).CutAsWritten rest := by
  intro level text ws behind
  have split : ((Stmt.loop condition body).source level).toList ++ text =
      "while".toList ++ ' ' :: '(' :: ((condition.source level).toList ++ ')' :: ' ' ::
        ((body.source level).toList ++ text)) := by
    show ("while (" ++ condition.source level ++ ") " ++ body.source level).toList ++ text = _
    simp only [String.toList_append, List.append_assoc]
    rfl
  have words : (Stmt.loop condition body).regrouped.words ++ ws =
      Word.mark .whileWord :: Word.mark .leftParen :: (condition.regrouped.words ++
        Word.mark .rightParen :: (body.regrouped.words ++ ws)) :=
    congrArg (_ :: _ :: ·) (List.append_assoc ..)
  rw [split, words]
  exact .condition (by decide) writable level (h level behind)

end Stmt.CutAsWritten

/-- **The source of a statement is cut into the words of the regrouped statement**, whatever follows and
whatever stands before an `else`. -/
theorem Stmt.Over.lexes {C : Stmt → Prop} {s : Stmt} (h : s.Over Expr.Writable C) (level : Nat)
    (behind : Lexes text ws rest) :
    Lexes ((s.source level).toList ++ text) (s.regrouped.words ++ ws) rest := by
  suffices cut : s.CutAsWritten rest from cut level behind
  induction h with
  | block _ ih => exact .block ih
  | expression writable => exact .expression writable
  | print writable => exact .print writable
  | @declare name initial isName writable =>
    cases initial with
    | none => exact .declare isName
    | some e => exact .assigned isName (writable e rfl)
  | branch writable _ _ ih => exact .branch writable ih
  | choice writable _ _ _ _ _ ih ih' => exact .choice writable ih ih'
  | loop writable _ _ ih => exact .loop writable ih

end Lexing

/-- The lines of a program are its statements without indentation. -/
theorem sourceLines_zero (ss : List Stmt) : Stmt.sourceLines 0 ss = ss.map (Stmt.source 0) := by
  induction ss with
  | nil => rw [Stmt.sourceLines, List.map_nil]
  | cons s rest ih =>
    have none : indentation 0 = "" := rfl
    rw [Stmt.sourceLines, ih, none, String.empty_append, List.map_cons]

/-- **The source of a program is cut into the words of the regrouped program.** -/
theorem lexes_programSource {C : Stmt → Prop} {ss : List Stmt} (h : ∀ s ∈ ss, s.Over Expr.Writable C) :
    Lexes (programSource ss).toList (Stmt.wordsAll (Stmt.regroupedAll ss)) [] := by
  have lines : Lexes (("\n".intercalate (Stmt.sourceLines 0 ss)).toList ++ [])
      (Stmt.wordsAll (Stmt.regroupedAll ss) ++ []) [] :=
    .lines (fun s mem _ _ behind => (h s mem).lexes 0 behind) .done
  rw [List.append_nil, List.append_nil, sourceLines_zero] at lines
  exact lines

end LoxScript
