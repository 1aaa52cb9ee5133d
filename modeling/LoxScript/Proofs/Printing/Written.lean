import LoxScript.Proofs.Grammar.Placement
import LoxScript.Proofs.Printing.Spelling

/-! # Programs are writable

The trees that the grammar gives for the tokens of a source are writable.

* **`Derives.Expression.writable`**, **`Derives.Statement.writable`** — phrases of tokens that are spelled
  right.
* **`writable_of_parse`** — an accepted source. -/

namespace LoxScript.Grammar

/-- The words of all tokens are spelled right. -/
def AllSpelled (ts : List Token) : Prop := ∀ t ∈ ts, t.word.Spelled

namespace AllSpelled

variable {t : Token} {ts us : List Token}

/-- The first of tokens that are spelled is spelled. -/
theorem head (h : AllSpelled (t :: ts)) : t.word.Spelled := h t (List.mem_cons_self ..)

/-- So are all but the first. -/
theorem tail (h : AllSpelled (t :: ts)) : AllSpelled ts := fun u mem => h u (List.mem_cons_of_mem _ mem)

/-- So is every beginning of them. -/
theorem left (h : AllSpelled (ts ++ us)) : AllSpelled ts := fun u mem => h u (List.mem_append_left _ mem)

/-- So is every end of them. -/
theorem right (h : AllSpelled (ts ++ us)) : AllSpelled us := fun u mem => h u (List.mem_append_right _ mem)

/-- An identifier that is spelled right is a name. -/
theorem isName (h : AllSpelled (t :: ts)) (kind : t.kind = .identifier) : t.word.IsName := h.head.1 kind

/-- The text of a string token that is spelled right has no quotes inside. -/
theorem text_free (h : AllSpelled (t :: ts)) (kind : t.kind = .string) : ∀ c ∈ t.text.toList, c ≠ '"' := by
  obtain ⟨inside, free, word⟩ := h.head.2 kind
  have datum : t.datum = some (.text (String.ofList inside)) := congrArg Word.datum word
  have text : t.text = String.ofList inside := by
    rw [Token.text, datum]
    rfl
  rw [text, String.toList_ofList]
  exact free

end AllSpelled

namespace Derives

/-! ## Expressions -/

mutual

/-- **An expression of tokens that are spelled right is writable.** -/
theorem Expression.writable : ∀ {ts : List Token} {e : Expr}, Expression ts e → AllSpelled ts → e.Writable
  | _, _, .operand h, spelled => (h.writable spelled).1
  | _, _, .assign hn _ h, spelled => .assign (spelled.isName hn) (h.writable spelled.tail.tail)

/-- An operand read from spelled tokens can be written, and be an operand as it stands. -/
theorem Operand.writable : ∀ {level : Nat} {ts : List Token} {e : Expr}, Operand level ts e →
    AllSpelled ts → e.Writable ∧ e.isOperand = true
  | _, _, _, .tighter h, spelled => h.writable spelled
  | _, _, _, .join hl joins hr, spelled =>
    have left := hl.writable spelled.left
    have right := hr.writable spelled.right.tail
    ⟨.binary left.1 left.2 joins right.1 right.2, rfl⟩
  | _, _, _, .prefixed h, spelled => h.writable spelled

/-- So can an operand with its prefixes. -/
theorem Prefixed.writable : ∀ {ts : List Token} {e : Expr}, Prefixed ts e → AllSpelled ts →
    e.Writable ∧ e.isOperand = true
  | _, _, .not _ h, spelled =>
    have operand := h.writable spelled.tail
    ⟨.unary (.inl rfl) operand.1 operand.2, rfl⟩
  | _, _, .negative _ h, spelled =>
    have operand := h.writable spelled.tail
    ⟨.unary (.inr rfl) operand.1 operand.2, rfl⟩
  | _, _, .primary h, spelled => h.writable spelled

/-- So can a primary: a text has no quotes inside since its token has none. -/
theorem Primary.writable : ∀ {ts : List Token} {e : Expr}, Primary ts e → AllSpelled ts →
    e.Writable ∧ e.isOperand = true
  | _, _, .number _ _, _ => ⟨.literal nofun, rfl⟩
  | _, _, .text ht, spelled =>
    ⟨.literal fun s eq => by
      cases eq
      exact spelled.text_free ht, rfl⟩
  | _, _, .trueWord _, _ => ⟨.literal nofun, rfl⟩
  | _, _, .falseWord _, _ => ⟨.literal nofun, rfl⟩
  | _, _, .nilWord _, _ => ⟨.literal nofun, rfl⟩
  | _, _, .name hn, spelled => ⟨.reference (spelled.isName hn), rfl⟩
  | _, _, .grouping _ h _, spelled => ⟨.grouping (h.writable spelled.tail.left), rfl⟩

end

/-! ## Statements -/

/-- A declaration of a variable can be written. -/
theorem Variable.writable {ts : List Token} {s : Stmt} (h : Variable ts s) (spelled : AllSpelled ts) :
    s.Writable := by
  cases h with
  | bare _ hn => exact .declare (spelled.tail.isName hn) nofun
  | initialized _ hn _ he =>
    refine .declare (spelled.tail.isName hn) fun e mem => ?_
    cases mem
    exact he.writable spelled.tail.tail.tail.left

/-- So can a condition. -/
theorem Condition.writable {ts : List Token} {e : Expr} (h : Condition ts e) (spelled : AllSpelled ts) :
    e.Writable := by
  cases h with
  | mk _ he => exact he.writable spelled.tail.left

/-- So can the first clause of a counting loop. -/
theorem Initial.writable {ts : List Token} {initial : Option Stmt} (h : Initial ts initial)
    (spelled : AllSpelled ts) : ∀ s ∈ initial, s.Writable := by
  intro s mem
  cases h with
  | absent => cases mem
  | var h =>
    cases mem
    exact h.writable spelled
  | expression h =>
    cases mem
    exact .expression (h.writable spelled.left)

/-- So can its second or third clause. -/
theorem Clause.writable {ts : List Token} {clause : Option Expr} (h : Clause ts clause)
    (spelled : AllSpelled ts) : ∀ e ∈ clause, e.Writable := by
  intro e mem
  cases h with
  | absent => cases mem
  | present h =>
    cases mem
    exact h.writable spelled

end Derives

/-- A block is writable if its statements are. -/
theorem writable_block (ss : List Stmt) : (Stmt.block ss).Writable ↔ ∀ s ∈ ss, s.Writable := by
  constructor
  · intro writable
    cases writable with
    | block each => exact each
  · exact .block

namespace Derives

/-- A statement that is not open in the grammar is not open as a tree. -/
theorem Statement.isOpen_eq {isOpen : Bool} {ts : List Token} {s : Stmt} (h : Statement isOpen ts s)
    (closed : isOpen = false) : s.isOpen = false := by
  induction s generalizing isOpen ts with
  | branch condition consequent alternative _ ih =>
    cases h with
    | branch => cases closed
    | choice _ _ _ _ ha =>
      have last := ih _ rfl ha closed
      exact last
  | loop condition body ih =>
    cases h with
    | loop _ _ hb =>
      have last := ih hb closed
      exact last
  | block | expression | print | declare | misplaced => rfl

mutual

/-- **A statement of tokens that are spelled right is writable.** -/
theorem Statement.writable : ∀ {isOpen : Bool} {ts : List Token} {s : Stmt}, Statement isOpen ts s →
    AllSpelled ts → s.Writable
  | _, _, _, .expression h _, spelled => .expression (h.writable spelled.left)
  | _, _, _, .print _ h _, spelled => .print (h.writable spelled.tail.left)
  | _, _, _, .block _ h _, spelled => .block (h.writable spelled.tail.left)
  | _, _, _, .branch _ hc h, spelled =>
    .branch (hc.writable spelled.tail.left) h.declared_eq (h.writable spelled.tail.right)
  | _, _, _, .choice _ hc h _ ha, spelled =>
    .choice (hc.writable spelled.tail.left) h.declared_eq (h.writable spelled.tail.right.left)
      (h.isOpen_eq rfl) ha.declared_eq (ha.writable spelled.tail.right.right.tail)
  | _, _, _, .loop _ hc h, spelled =>
    .loop (hc.writable spelled.tail.left) h.declared_eq (h.writable spelled.tail.right)
  | _, _, _, .counting _ _ hi hc _ hn _ h extended, spelled => by
    -- A counting loop is written as the block it stands for, of the parts that were read.
    have body := h.writable spelled.tail.tail.right.right.tail.right.tail
    have condition := hc.writable spelled.tail.tail.right.left
    have increment := hn.writable spelled.tail.tail.right.right.tail.left
    refine .block fun s mem => ?_
    rcases List.mem_append.mp mem with mem | mem
    · exact hi.writable spelled.tail.tail.left s (Option.mem_toList.mp mem)
    · rw [List.mem_singleton.mp mem]
      have writable := extended.keeps writable_block body fun e mem => .expression (increment e mem)
      refine .loop ?_ (extended.declared_eq h.declared_eq) writable
      cases hc with
      | absent => exact .literal nofun
      | present _ => exact condition _ rfl

/-- So can a declaration. -/
theorem Declaration.writable : ∀ {ts : List Token} {s : Stmt}, Declaration ts s → AllSpelled ts →
    s.Writable
  | _, _, .var h, spelled => h.writable spelled
  | _, _, .statement h, spelled => h.writable spelled

/-- So can declarations one after another. -/
theorem Declarations.writable : ∀ {ts : List Token} {ss : List Stmt}, Declarations ts ss →
    AllSpelled ts → ∀ s ∈ ss, s.Writable
  | _, _, .nil, _ => fun _ mem => by cases mem
  | _, _, .cons h hs, spelled => by
    have first := h.writable spelled.left
    have others := hs.writable spelled.right
    intro s mem
    rcases List.mem_cons.mp mem with rfl | mem
    · exact first
    · exact others s mem

end

end Derives

/-- The tokens of a source are spelled right. -/
theorem allSpelled_of_tokenize {source : String} {file : Option String} {tokens : List Token}
    (h : tokenize source file = .ok tokens) : AllSpelled tokens := by
  have lexes : Lexes source.toList (tokens.map Token.word) [] :=
    lexes_iff_tokenize.mpr ⟨tokens, h, rfl⟩
  exact fun t mem => lexes.spelled t.word (List.mem_map_of_mem mem)

/-- **The statements of an accepted source are writable.** -/
theorem writable_of_parse {source : String} {file : Option String} {tokens : List Token}
    {ss : List Stmt} (scanned : tokenize source file = .ok tokens)
    (parsed : parse tokens (some source) = .ok ss) : ∀ s ∈ ss, s.Writable :=
  (derives_of_parse parsed).writable (allSpelled_of_tokenize scanned)

end LoxScript.Grammar
