import LoxScript.Proofs.Printing.Spelling
import LoxScript.Proofs.Printing.Unplaced

/-! # Reading the words of a tree

Tokens whose words are those of a tree with nothing open before an `else` are a phrase of the grammar, and
the phrase stands for the tree up to places.

* **`Expr.Rereads D e`** — all tokens with the words of `e` stand, by the derivations `D`, for `e` up to
  places; one rule for each production of the grammar.
* **`Expr.Writable.rereads`**, **`Stmt.Over.rereads`** — regrouped expressions, and statements over
  expressions that are read back.
* **`derives_of_words`** — programs.
* **`Stmt.Over.regrouped`** — what that says of regrouped statements. -/

namespace LoxScript

open Grammar

/-- There are four levels of binary operators. -/
theorem Grammar.Joins.bounds {level : Nat} {k : Kind} {symbol : Symbol} (h : Joins level k symbol) :
    1 ≤ level ∧ level ≤ 4 := by
  cases h <;> decide

/-- An operator joins operands as the kind that it is written with. -/
theorem Grammar.Joins.kind_eq {level : Nat} {k : Kind} {symbol : Symbol} (h : Joins level k symbol) :
    symbol.kind = k := by
  cases h <;> rfl

/-! ## Words of single tokens -/

/-- A token with the word of a mark has its kind. -/
theorem Token.kind_of_word {t : Token} {k : Kind} (h : t.word = .mark k) : t.kind = k :=
  congrArg Word.kind h

/-- Tokens with the same word are the same up to places. -/
theorem Token.unplaced_eq_of_word_eq {t u : Token} (h : t.word = u.word) : t.unplaced = u.unplaced := by
  obtain ⟨kind, datum, lexeme, span⟩ := t
  obtain ⟨kind', datum', lexeme', span'⟩ := u
  cases h
  rfl

section Words

variable {ts : List Token} {w : Word} {ws us : List Word}

/-- The first of tokens with a first word. -/
theorem exists_cons_of_words (h : ts.map Token.word = w :: ws) :
    ∃ t more, ts = t :: more ∧ t.word = w ∧ more.map Token.word = ws :=
  List.map_eq_cons_iff.mp h

/-- Tokens with words one after another are tokens one after another. -/
theorem exists_append_of_words (h : ts.map Token.word = ws ++ us) :
    ∃ front back, ts = front ++ back ∧ front.map Token.word = ws ∧ back.map Token.word = us :=
  List.map_eq_append_iff.mp h

/-- Tokens with one word are one token. -/
theorem exists_singleton_of_words (h : ts.map Token.word = [w]) : ∃ t, ts = [t] ∧ t.word = w := by
  obtain ⟨t, more, rfl, word, none⟩ := exists_cons_of_words h
  rw [List.map_eq_nil_iff.mp none]
  exact ⟨t, rfl, word⟩

end Words

/-! ## Expressions -/

/-- All tokens with the words of an expression stand for it, up to places. -/
def Expr.Rereads (D : List Token → Expr → Prop) (e : Expr) : Prop :=
  ∀ ts : List Token, ts.map Token.word = e.words → ∃ e', D ts e' ∧ e'.unplaced = e.unplaced

namespace Expr.Rereads

variable {D D' : List Token → Expr → Prop} {e : Expr}

/-- What is read back as one phrase is read back as any that includes it. -/
theorem mono (h : Rereads D e) (derives : ∀ ts e, D ts e → D' ts e) : Rereads D' e := by
  intro ts words
  obtain ⟨e', phrase, same⟩ := h ts words
  exact ⟨e', derives ts e' phrase, same⟩

/-- A primary is an operand at every level. -/
theorem operand (h : Rereads Derives.Primary e) {level : Nat} (le : level ≤ 5) :
    Rereads (Derives.Operand level) e := by
  refine h.mono fun ts e primary => ?_
  obtain ⟨steps, hs⟩ := Nat.exists_eq_add_of_le le
  induction steps generalizing level with
  | zero =>
    obtain rfl : level = 5 := by omega
    exact .prefixed (.primary primary)
  | succ steps ih => exact .tighter (ih (by omega) (by omega))

/-- What is read back as a primary is read back as an expression. -/
theorem expression (h : Rereads Derives.Primary e) : Rereads Derives.Expression e :=
  (h.operand (show 1 ≤ 5 by decide)).mono fun _ _ => .operand

/-- An operand at any level is an expression. -/
theorem of_operand {level : Nat} (h : Rereads (Derives.Operand level) e) (positive : 1 ≤ level) :
    Rereads Derives.Expression e := by
  refine h.mono fun ts e operand => .operand ?_
  clear h
  obtain ⟨steps, rfl⟩ := Nat.exists_eq_add_of_le positive
  induction steps with
  | zero => exact operand
  | succ steps ih => exact ih (by omega) (.tighter operand)

/-- A literal is read back from its word. -/
theorem literal (v : Value) : Rereads Derives.Primary (.literal v) := by
  intro ts words
  obtain ⟨t, rfl, word⟩ := exists_singleton_of_words words
  cases v with
  | nil => exact ⟨_, .nilWord (Token.kind_of_word word), rfl⟩
  | boolean b =>
    cases b with
    | true => exact ⟨_, .trueWord (Token.kind_of_word word), rfl⟩
    | false => exact ⟨_, .falseWord (Token.kind_of_word word), rfl⟩
  | number x => exact ⟨_, .number (congrArg Word.kind word) (congrArg Word.datum word), rfl⟩
  | text s =>
    have datum : t.datum = some (.text s) := congrArg Word.datum word
    have text : t.text = s := by
      rw [Token.text, datum]
      rfl
    refine ⟨_, .text (congrArg Word.kind word), ?_⟩
    rw [text]

/-- A name is read back from its word. -/
theorem reference {name : Token} (isName : name.word.IsName) :
    Rereads Derives.Primary (.reference name) := by
  intro ts words
  obtain ⟨t, rfl, word⟩ := exists_singleton_of_words words
  have identifier : t.kind = .identifier := (congrArg Word.kind word).trans isName.kind_eq
  exact ⟨_, .name identifier, congrArg Expr.reference (Token.unplaced_eq_of_word_eq word)⟩

/-- A grouping is read back if its inside is. -/
theorem grouping (h : Rereads Derives.Expression e) : Rereads Derives.Primary (.grouping e) := by
  intro ts words
  obtain ⟨opening, more, rfl, hopening, words⟩ := exists_cons_of_words words
  obtain ⟨inside, back, rfl, hinside, hback⟩ := exists_append_of_words words
  obtain ⟨closing, rfl, hclosing⟩ := exists_singleton_of_words hback
  obtain ⟨e', phrase, same⟩ := h inside hinside
  exact ⟨_, .grouping (Token.kind_of_word hopening) phrase (Token.kind_of_word hclosing),
    congrArg Expr.grouping same⟩

/-- An operator before an operand is read back if the operand is. -/
theorem unary {o : Operator} (before : o.symbol = .bang ∨ o.symbol = .minus)
    (h : Rereads Derives.Prefixed e) : Rereads Derives.Prefixed (.unary o e) := by
  intro ts words
  obtain ⟨symbol, line, column⟩ := o
  obtain ⟨t, more, rfl, word, words⟩ := exists_cons_of_words words
  obtain ⟨e', phrase, same⟩ := h more words
  have both : ∀ o : Operator, o.symbol = symbol →
      (Expr.unary o e').unplaced = (Expr.unary ⟨symbol, line, column⟩ e).unplaced := by
    rintro o rfl
    rw [Expr.unplaced, Expr.unplaced, same]
    rfl
  rcases before with rfl | rfl
  · exact ⟨_, .not (Token.kind_of_word word) phrase, both _ rfl⟩
  · exact ⟨_, .negative (Token.kind_of_word word) phrase, both _ rfl⟩

/-- An operator between operands is read back at its level, if the right operand is at a higher one. -/
theorem binary {left right : Expr} {o : Operator} {level : Nat} {k : Kind}
    (joins : Joins level k o.symbol) (hl : Rereads (Derives.Operand level) left)
    (hr : Rereads (Derives.Operand (level + 1)) right) :
    Rereads (Derives.Operand level) (.binary left o right) := by
  intro ts words
  obtain ⟨symbol, line, column⟩ := o
  obtain ⟨front, more, rfl, hfront, words⟩ := exists_append_of_words words
  obtain ⟨t, back, rfl, word, hback⟩ := exists_cons_of_words words
  obtain ⟨l', phrase, same⟩ := hl front hfront
  obtain ⟨r', phrase', same'⟩ := hr back hback
  have kind : t.kind = k := (Token.kind_of_word word).trans joins.kind_eq
  refine ⟨_, .join phrase (kind ▸ joins) phrase', ?_⟩
  rw [Expr.unplaced, Expr.unplaced, same, same']
  rfl

/-- An assignment is read back if its value is. -/
theorem assign {name : Token} (isName : name.word.IsName) (h : Rereads Derives.Expression e) :
    Rereads Derives.Expression (.assign name e) := by
  intro ts words
  obtain ⟨t, more, rfl, word, words⟩ := exists_cons_of_words words
  obtain ⟨equals, value, rfl, hequals, hvalue⟩ := exists_cons_of_words words
  obtain ⟨e', phrase, same⟩ := h value hvalue
  have identifier : t.kind = .identifier := (congrArg Word.kind word).trans isName.kind_eq
  refine ⟨_, .assign identifier (Token.kind_of_word hequals) phrase, ?_⟩
  rw [Expr.unplaced, Expr.unplaced, same, Token.unplaced_eq_of_word_eq word]

/-- A quotient in parentheses whose numerator has no operators between operands. -/
theorem ratio (h : Rereads Derives.Prefixed e) (den : Nat) : Rereads Derives.Primary (.ratio e den) := by
  have numerator : Rereads (Derives.Operand 4) e := h.mono fun _ _ phrase => .tighter (.prefixed phrase)
  have quotient := binary (o := ⟨.slash, 0, 0⟩) .slash numerator
    ((literal (.number (.whole den))).operand (Nat.le_refl 5))
  exact (quotient.of_operand (by decide)).grouping

/-- The source of a literal is read as a primary. -/
theorem value (v : Value) : Rereads Derives.Primary v.regrouped := by
  have number : ∀ x, Rereads Derives.Prefixed (.literal (.number x)) := fun x =>
    (literal (.number x)).mono fun _ _ => .primary
  cases v with
  | nil => exact literal .nil
  | boolean b => exact literal (.boolean b)
  | text s => exact literal (.text s)
  | number x =>
    -- A number without a sign is an atom; all others are written as operations in parentheses.
    cases x with
    | nan => exact (number _).ratio 0
    | infinity negative =>
      cases negative with
      | false => exact (number _).ratio 0
      | true => exact ((number _).unary (.inr rfl)).ratio 0
    | finite negative m e canonical =>
      cases negative with
      | false => exact literal _
      | true =>
        have negated := (number (.finite false m e canonical)).unary (o := ⟨.minus, 0, 0⟩) (.inr rfl)
        have operand : Rereads (Derives.Operand 5) _ := negated.mono fun _ _ => .prefixed
        exact (operand.of_operand (by decide)).grouping

end Expr.Rereads

/-- **The regrouped expression is read back**, as a primary unless it is an assignment. -/
theorem Expr.Writable.rereads {e : Expr} (h : e.Writable) :
    e.regrouped.Rereads Derives.Expression ∧
      (e.isOperand = true → e.regrouped.Rereads Derives.Primary) := by
  induction h with
  | assign isName _ ih => exact ⟨.assign isName ih.1, fun operand => by cases operand⟩
  | @binary left right operator level kind _ hl joins _ hr ihl ihr =>
    have bounds := joins.bounds
    have sum := Expr.Rereads.binary joins ((ihl.2 hl).operand (by omega)) ((ihr.2 hr).operand (by omega))
    have primary := (sum.of_operand bounds.1).grouping
    exact ⟨primary.expression, fun _ => primary⟩
  | grouping _ ih => exact ⟨ih.1.grouping.expression, fun _ => ih.1.grouping⟩
  | @literal v _ => exact ⟨(Expr.Rereads.value v).expression, fun _ => .value v⟩
  | unary before _ operand ih =>
    have prefixed := ((ih.2 operand).mono fun _ _ => .primary).unary before
    have operand : Expr.Rereads (Derives.Operand 5) _ := prefixed.mono fun _ _ => .prefixed
    have primary := (operand.of_operand (by decide)).grouping
    exact ⟨primary.expression, fun _ => primary⟩
  | reference isName => exact ⟨(Expr.Rereads.reference isName).expression, fun _ => .reference isName⟩

/-! ## Statements -/

/-- All tokens with the words of a statement stand for it, up to places. -/
def Stmt.Rereads (D : List Token → Stmt → Prop) (s : Stmt) : Prop :=
  ∀ ts : List Token, ts.map Token.word = s.words → ∃ s', D ts s' ∧ s'.unplaced = s.unplaced

/-- All tokens with the words of statements one after another stand for them, up to places. -/
def RereadsAll (ss : List Stmt) : Prop :=
  ∀ ts : List Token, ts.map Token.word = Stmt.wordsAll ss →
    ∃ ss', Derives.Declarations ts ss' ∧ Stmt.unplacedAll ss' = Stmt.unplacedAll ss

section Parts

variable {e : Expr} {ts : List Token}

/-- An expression and a semicolon. -/
theorem Expr.Rereads.terminated (h : e.Rereads Derives.Expression)
    (words : ts.map Token.word = e.words ++ [.mark .semicolon]) :
    ∃ us semicolon e', ts = us ++ [semicolon] ∧ semicolon.kind = .semicolon ∧
      Derives.Expression us e' ∧ e'.unplaced = e.unplaced := by
  obtain ⟨us, back, rfl, hus, hback⟩ := exists_append_of_words words
  obtain ⟨semicolon, rfl, word⟩ := exists_singleton_of_words hback
  obtain ⟨e', phrase, same⟩ := h us hus
  exact ⟨us, semicolon, e', rfl, Token.kind_of_word word, phrase, same⟩

/-- A condition in parentheses, and what follows it. -/
theorem Expr.Rereads.condition (h : e.Rereads Derives.Expression) {ws : List Word}
    (words : ts.map Token.word = .mark .leftParen :: (e.words ++ .mark .rightParen :: ws)) :
    ∃ cs us e', ts = cs ++ us ∧ Derives.Condition cs e' ∧ e'.unplaced = e.unplaced ∧
      us.map Token.word = ws := by
  obtain ⟨opening, more, rfl, hopening, words⟩ := exists_cons_of_words words
  obtain ⟨inside, back, rfl, hinside, words⟩ := exists_append_of_words words
  obtain ⟨closing, us, rfl, hclosing, words⟩ := exists_cons_of_words words
  obtain ⟨e', phrase, same⟩ := h inside hinside
  refine ⟨opening :: (inside ++ [closing]), us, e', ?_,
    .mk (Token.kind_of_word hopening) phrase (Token.kind_of_word hclosing), same, words⟩
  rw [List.cons_append, List.append_assoc, List.singleton_append]

end Parts

namespace Stmt.Rereads

variable {D D' : List Token → Stmt → Prop} {e : Expr} {s : Stmt} {isOpen : Bool}

/-- What is read back as one phrase is read back as any that includes it. -/
theorem mono (h : Rereads D s) (derives : ∀ ts s, D ts s → D' ts s) : Rereads D' s := by
  intro ts words
  obtain ⟨s', phrase, same⟩ := h ts words
  exact ⟨s', derives ts s' phrase, same⟩

/-- An expression statement is read back if its expression is. -/
theorem expression (h : e.Rereads Derives.Expression) :
    Rereads (Derives.Statement false) (.expression e) := by
  intro ts words
  obtain ⟨us, semicolon, e', rfl, kind, phrase, same⟩ := h.terminated words
  exact ⟨_, .expression phrase kind, congrArg Stmt.expression same⟩

/-- A `print` is read back if its expression is. -/
theorem print (h : e.Rereads Derives.Expression) : Rereads (Derives.Statement false) (.print e) := by
  intro ts words
  obtain ⟨t, more, rfl, word, words⟩ := exists_cons_of_words words
  obtain ⟨us, semicolon, e', rfl, kind, phrase, same⟩ := h.terminated words
  exact ⟨_, .print (Token.kind_of_word word) phrase kind, congrArg Stmt.print same⟩

/-- A block is read back if its statements are. -/
theorem block {ss : List Stmt} (h : RereadsAll ss) : Rereads (Derives.Statement false) (.block ss) := by
  intro ts words
  obtain ⟨opening, more, rfl, hopening, words⟩ := exists_cons_of_words words
  obtain ⟨inside, back, rfl, hinside, hback⟩ := exists_append_of_words words
  obtain ⟨closing, rfl, hclosing⟩ := exists_singleton_of_words hback
  obtain ⟨ss', phrase, same⟩ := h inside hinside
  exact ⟨_, .block (Token.kind_of_word hopening) phrase (Token.kind_of_word hclosing),
    congrArg Stmt.block same⟩

/-- A declaration of a variable is read back if its initial value is, where it has one. -/
theorem declare {name : Token} (isName : name.word.IsName) {initial : Option Expr}
    (h : ∀ e ∈ initial, e.Rereads Derives.Expression) : Rereads Derives.Variable (.declare name initial) := by
  intro ts words
  have identifier : ∀ {t : Token}, t.word = name.word → t.kind = .identifier := fun word =>
    (congrArg Word.kind word).trans isName.kind_eq
  cases initial with
  | none =>
    obtain ⟨var, more, rfl, hvar, words⟩ := exists_cons_of_words words
    obtain ⟨t, back, rfl, word, words⟩ := exists_cons_of_words words
    obtain ⟨semicolon, rfl, hsemicolon⟩ := exists_singleton_of_words words
    refine ⟨_, .bare (Token.kind_of_word hvar) (identifier word) (Token.kind_of_word hsemicolon), ?_⟩
    rw [Stmt.unplaced, Stmt.unplaced, Token.unplaced_eq_of_word_eq word]
  | some e =>
    obtain ⟨var, more, rfl, hvar, words⟩ := exists_cons_of_words words
    obtain ⟨t, back, rfl, word, words⟩ := exists_cons_of_words words
    obtain ⟨equals, value, rfl, hequals, words⟩ := exists_cons_of_words words
    obtain ⟨us, semicolon, e', rfl, kind, phrase, same⟩ := (h e rfl).terminated words
    refine ⟨_, .initialized (Token.kind_of_word hvar) (identifier word) (Token.kind_of_word hequals)
      phrase kind, ?_⟩
    rw [Stmt.unplaced, Stmt.unplaced, Token.unplaced_eq_of_word_eq word, Option.map_some, Option.map_some,
      same]

/-- A branch is read back as an open statement, whatever it leads to. -/
theorem branch (hc : e.Rereads Derives.Expression) (h : Rereads (Derives.Statement isOpen) s) :
    Rereads (Derives.Statement true) (.branch e s none) := by
  intro ts words
  obtain ⟨ifWord, more, rfl, hif, words⟩ := exists_cons_of_words words
  obtain ⟨cs, us, e', rfl, condition, same, words⟩ := hc.condition words
  obtain ⟨s', phrase, same'⟩ := h us words
  refine ⟨_, .branch (Token.kind_of_word hif) condition phrase, ?_⟩
  rw [Stmt.unplaced, Stmt.unplaced, same, same']

/-- A choice is read back if nothing is open before its `else`. -/
theorem choice {a : Stmt} (hc : e.Rereads Derives.Expression) (h : Rereads (Derives.Statement false) s)
    (ha : Rereads (Derives.Statement isOpen) a) :
    Rereads (Derives.Statement isOpen) (.branch e s (some a)) := by
  intro ts words
  obtain ⟨ifWord, more, rfl, hif, words⟩ := exists_cons_of_words words
  obtain ⟨cs, us, e', rfl, condition, same, words⟩ := hc.condition words
  obtain ⟨front, back, rfl, hfront, words⟩ := exists_append_of_words words
  obtain ⟨elseWord, last, rfl, helse, hlast⟩ := exists_cons_of_words words
  obtain ⟨s', phrase, same'⟩ := h front hfront
  obtain ⟨a', phrase', same''⟩ := ha last hlast
  refine ⟨_, .choice (Token.kind_of_word hif) condition phrase (Token.kind_of_word helse) phrase', ?_⟩
  rw [Stmt.unplaced, Stmt.unplaced, same, same', same'']

/-- A loop is read back, as open as its body is. -/
theorem loop (hc : e.Rereads Derives.Expression) (h : Rereads (Derives.Statement isOpen) s) :
    Rereads (Derives.Statement isOpen) (.loop e s) := by
  intro ts words
  obtain ⟨whileWord, more, rfl, hwhile, words⟩ := exists_cons_of_words words
  obtain ⟨cs, us, e', rfl, condition, same, words⟩ := hc.condition words
  obtain ⟨s', phrase, same'⟩ := h us words
  refine ⟨_, .loop (Token.kind_of_word hwhile) condition phrase, ?_⟩
  rw [Stmt.unplaced, Stmt.unplaced, same, same']

end Stmt.Rereads

/-- No statements are read back from no words. -/
theorem RereadsAll.nil : RereadsAll [] := by
  intro ts words
  rw [List.map_eq_nil_iff.mp words]
  exact ⟨[], .nil, rfl⟩

/-- Statements are read back one behind another. -/
theorem RereadsAll.cons {s : Stmt} {ss : List Stmt} (h : s.Rereads Derives.Declaration)
    (hs : RereadsAll ss) : RereadsAll (s :: ss) := by
  intro ts words
  obtain ⟨front, back, rfl, hfront, hback⟩ := exists_append_of_words words
  obtain ⟨s', phrase, same⟩ := h front hfront
  obtain ⟨ss', phrases, sames⟩ := hs back hback
  refine ⟨s' :: ss', .cons phrase phrases, ?_⟩
  rw [Stmt.unplacedAll, Stmt.unplacedAll, same, sames]

/-- Statements are read back one after another if each of them is. -/
theorem RereadsAll.of_forall {ss : List Stmt} (h : ∀ s ∈ ss, s.Rereads Derives.Declaration) :
    RereadsAll ss := by
  induction ss with
  | nil => exact .nil
  | cons s more ih =>
    exact .cons (h s (List.mem_cons_self ..)) (ih fun t mem => h t (List.mem_cons_of_mem _ mem))

/-- **A statement with nothing open before an `else` is read back**, as open as it is, and as a
declaration in any case. -/
theorem Stmt.Over.rereads {s : Stmt}
    (h : s.Over (Expr.Rereads Derives.Expression) (·.isOpen = false)) :
    (s.declared = [] → s.Rereads (Derives.Statement s.isOpen)) ∧ s.Rereads Derives.Declaration := by
  have both : ∀ {s : Stmt}, s.Rereads (Derives.Statement s.isOpen) →
      (s.declared = [] → s.Rereads (Derives.Statement s.isOpen)) ∧ s.Rereads Derives.Declaration :=
    fun h => ⟨fun _ => h, h.mono fun _ _ => .statement⟩
  induction h with
  | block _ ih => exact both (.block (.of_forall fun s mem => (ih s mem).2))
  | expression he => exact both (.expression he)
  | print he => exact both (.print he)
  | declare isName he => exact ⟨nofun, (Stmt.Rereads.declare isName he).mono fun _ _ => .var⟩
  | branch hc declared _ ih => exact both (.branch hc (ih.1 declared))
  | @choice condition consequent alternative hc declared _ closed declared' _ ih ih' =>
    have first := ih.1 declared
    rw [closed] at first
    exact both (.choice hc first (ih'.1 declared'))
  | loop hc declared _ ih => exact both (.loop hc (ih.1 declared))

/-- **Tokens with the words of a program derive it**, up to places. -/
theorem derives_of_words {ss : List Stmt}
    (h : ∀ s ∈ ss, s.Over (Expr.Rereads Derives.Expression) (·.isOpen = false)) {ts : List Token}
    (words : ts.map Token.word = Stmt.wordsAll ss) :
    ∃ ss', Derives.Declarations ts ss' ∧ Stmt.unplacedAll ss' = Stmt.unplacedAll ss :=
  RereadsAll.of_forall (fun s mem => (h s mem).rereads.2) ts words

/-! ## Regrouped statements -/

/-- Regrouping leaves alone what a statement declares. -/
@[simp] theorem Stmt.declared_regrouped (s : Stmt) : s.regrouped.declared = s.declared := by
  cases s with
  | declare name initial => cases initial <;> rfl
  | branch condition consequent alternative => cases alternative <;> rfl
  | block | expression | print | loop | misplaced => rfl

/-- It leaves alone whether a statement is open: added braces stand before an `else` only. -/
@[simp] theorem Stmt.isOpen_regrouped (s : Stmt) : s.regrouped.isOpen = s.isOpen := by
  induction s with
  | declare name initial => cases initial <;> rfl
  | branch condition consequent alternative _ ih =>
    cases alternative with
    | none => rfl
    | some a => simpa only [regrouped, isOpen] using ih a rfl
  | loop condition body ih => simpa only [regrouped, isOpen] using ih
  | block | expression | print | misplaced => rfl

/-- **A regrouped statement is one over expressions that are read back.** -/
theorem Stmt.Over.regrouped {C C' : Stmt → Prop} {s : Stmt} (h : s.Over Expr.Writable C)
    (braced : ∀ t, C t → C' (t.braced t.regrouped)) :
    s.regrouped.Over (Expr.Rereads Derives.Expression) C' := by
  induction h with
  | block _ ih => exact .block (Stmt.forall_regroupedAll ih)
  | expression writable => exact .expression writable.rereads.1
  | print writable => exact .print writable.rereads.1
  | @declare name initial isName writable =>
    cases initial with
    | none => exact .declare isName fun _ mem => by cases mem
    | some e =>
      refine .declare isName fun _ mem => ?_
      cases mem
      exact (writable e rfl).rereads.1
  | @branch condition consequent writable declared _ ih =>
    exact .branch writable.rereads.1 (consequent.declared_regrouped.trans declared) ih
  | @choice condition consequent alternative writable declared _ before declared' _ ih ih' =>
    -- With braces or without, what stands before the `else` declares nothing and is made of the same parts.
    have first : (consequent.braced consequent.regrouped).declared = [] ∧
        (consequent.braced consequent.regrouped).Over (Expr.Rereads Derives.Expression) C' := by
      rw [Stmt.braced]
      split
      · refine ⟨rfl, .block fun t mem => ?_⟩
        rw [List.mem_singleton.mp mem]
        exact ih
      · exact ⟨consequent.declared_regrouped.trans declared, ih⟩
    exact .choice writable.rereads.1 first.1 first.2 (braced consequent before)
      (alternative.declared_regrouped.trans declared') ih'
  | @loop condition body writable declared _ ih =>
    exact .loop writable.rereads.1 (body.declared_regrouped.trans declared) ih

/-- A choice in braces is not open. -/
theorem Stmt.isOpen_braced {s : Stmt} (h : s.isBranch = true ∨ s.isOpen = false) :
    (s.braced s.regrouped).isOpen = false := by
  rw [Stmt.braced]
  split
  · rfl
  · next plain => rw [isOpen_regrouped, h.resolve_left plain]

/-- The regrouped statements of a program have nothing open before an `else`. -/
theorem Stmt.Writable.regrouped {s : Stmt} (h : s.Writable) :
    s.regrouped.Over (Expr.Rereads Derives.Expression) (·.isOpen = false) :=
  h.toOver.regrouped fun _ closed => Stmt.isOpen_braced (.inr closed)

end LoxScript
