import LoxScript.Tree

/-! # The grammar

Which lists of tokens are phrases of the language, and which tree each phrase stands for, stated as
relations between tokens and trees and without regard to how they are read.

* **`Derives.Expression`** — assignment to a bare name, which groups to the right, above four levels of
  binary operators (`Derives.Operand`), which group to the left, above the operators before an operand
  and the primaries.
* **`Derives.Statement isOpen`** — statements; one is *open* if it ends in a choice without an
  alternative, which an `else` behind it would belong to. Only a statement that is not open may stand
  before an `else`, so an alternative belongs to the innermost open choice.
* **`Derives.Declarations`** — the contents of a block, and whole programs. -/

namespace LoxScript.Grammar

/-- **The binary operators by level**: equality, comparison, sums and products, from the loosest. -/
inductive Joins : Nat → Kind → Symbol → Prop
  | equalEqual : Joins 1 .equalEqual .equalEqual
  | bangEqual : Joins 1 .bangEqual .bangEqual
  | less : Joins 2 .less .less
  | lessEqual : Joins 2 .lessEqual .lessEqual
  | greater : Joins 2 .greater .greater
  | greaterEqual : Joins 2 .greaterEqual .greaterEqual
  | plus : Joins 3 .plus .plus
  | minus : Joins 3 .minus .minus
  | star : Joins 4 .star .star
  | slash : Joins 4 .slash .slash

/-- The body of a counting loop with its increment. Without an increment any body will do; the increment goes
behind the statements of a block, or behind an expression or print statement in a block of their own. -/
inductive Extended : Stmt → Option Expr → Stmt → Prop
  | same {body : Stmt} : Extended body none body
  | block {ss : List Stmt} {e : Expr} :
      Extended (.block ss) (some e) (.block (ss ++ [.expression e]))
  | expression {b e : Expr} :
      Extended (.expression b) (some e) (.block [.expression b, .expression e])
  | print {b e : Expr} : Extended (.print b) (some e) (.block [.print b, .expression e])

/-- **What holds of a body and of its increment** holds of both together, if it holds of a block whenever it
holds of the statements in it. -/
theorem Extended.keeps {P : Stmt → Prop} (inBlock : ∀ ss, P (.block ss) ↔ ∀ s ∈ ss, P s) {body extended : Stmt}
    {increment : Option Expr} (h : Extended body increment extended) (hb : P body)
    (hi : ∀ e ∈ increment, P (.expression e)) : P extended := by
  cases h with
  | same => exact hb
  | @block ss e =>
    refine (inBlock _).mpr fun s mem => ?_
    rcases List.mem_append.mp mem with mem | mem
    · exact (inBlock ss).mp hb s mem
    · rw [List.mem_singleton.mp mem]
      exact hi e rfl
  | @expression b e | @print b e =>
    refine (inBlock _).mpr fun s mem => ?_
    rcases List.mem_cons.mp mem with rfl | mem
    · exact hb
    · rw [List.mem_singleton.mp mem]
      exact hi e rfl

namespace Derives

/-! ## Expressions -/

mutual

/-- **Expressions.** An assignment has a bare name as its target and takes the whole expression behind
the equals sign as its value. -/
inductive Expression : List Token → Expr → Prop
  | operand {ts : List Token} {e : Expr} : Operand 1 ts e → Expression ts e
  | assign {name equals : Token} {ts : List Token} {value : Expr} :
      name.kind = .identifier → equals.kind = .equal → Expression ts value →
      Expression (name :: equals :: ts) (.assign name value)

/-- **Operands at a level** are those of the next tighter level, and two of them joined by an operator
of the level, the left one of which may be joined by such operators itself. -/
inductive Operand : Nat → List Token → Expr → Prop
  | tighter {level : Nat} {ts : List Token} {e : Expr} :
      Operand (level + 1) ts e → Operand level ts e
  | join {level : Nat} {ls rs : List Token} {t : Token} {symbol : Symbol} {l r : Expr} :
      Operand level ls l → Joins level t.kind symbol → Operand (level + 1) rs r →
      Operand level (ls ++ t :: rs) (.binary l ⟨symbol, t.line, t.column⟩ r)
  | prefixed {ts : List Token} {e : Expr} : Prefixed ts e → Operand 5 ts e

/-- **Operators before an operand** may follow each other. -/
inductive Prefixed : List Token → Expr → Prop
  | not {t : Token} {ts : List Token} {e : Expr} :
      t.kind = .bang → Prefixed ts e → Prefixed (t :: ts) (.unary ⟨.bang, t.line, t.column⟩ e)
  | negative {t : Token} {ts : List Token} {e : Expr} :
      t.kind = .minus → Prefixed ts e → Prefixed (t :: ts) (.unary ⟨.minus, t.line, t.column⟩ e)
  | primary {ts : List Token} {e : Expr} : Primary ts e → Prefixed ts e

/-- **Primaries** are literals, names and expressions in parentheses. -/
inductive Primary : List Token → Expr → Prop
  | number {t : Token} {x : Binary64} :
      t.kind = .number → t.datum = some (.number x) → Primary [t] (.literal (.number x))
  | text {t : Token} : t.kind = .string → Primary [t] (.literal (.text t.text))
  | trueWord {t : Token} : t.kind = .trueWord → Primary [t] (.literal (.boolean true))
  | falseWord {t : Token} : t.kind = .falseWord → Primary [t] (.literal (.boolean false))
  | nilWord {t : Token} : t.kind = .nilWord → Primary [t] (.literal .nil)
  | name {t : Token} : t.kind = .identifier → Primary [t] (.reference t)
  | grouping {opening closing : Token} {ts : List Token} {e : Expr} :
      opening.kind = .leftParen → Expression ts e → closing.kind = .rightParen →
      Primary (opening :: (ts ++ [closing])) (.grouping e)

end

/-! ## Statements -/

/-- The declaration of a variable, with or without a first value. -/
inductive Variable : List Token → Stmt → Prop
  | bare {varWord name semicolon : Token} :
      varWord.kind = .varWord → name.kind = .identifier → semicolon.kind = .semicolon →
      Variable [varWord, name, semicolon] (.declare name none)
  | initialized {varWord name equals semicolon : Token} {ts : List Token} {e : Expr} :
      varWord.kind = .varWord → name.kind = .identifier → equals.kind = .equal →
      Expression ts e → semicolon.kind = .semicolon →
      Variable (varWord :: name :: equals :: (ts ++ [semicolon])) (.declare name (some e))

/-- A condition between its parentheses. -/
inductive Condition : List Token → Expr → Prop
  | mk {opening closing : Token} {ts : List Token} {e : Expr} :
      opening.kind = .leftParen → Expression ts e → closing.kind = .rightParen →
      Condition (opening :: (ts ++ [closing])) e

/-- The first clause of a counting loop with its semicolon. -/
inductive Initial : List Token → Option Stmt → Prop
  | absent {semicolon : Token} : semicolon.kind = .semicolon → Initial [semicolon] none
  | var {ts : List Token} {s : Stmt} : Variable ts s → Initial ts (some s)
  | expression {ts : List Token} {e : Expr} {semicolon : Token} :
      Expression ts e → semicolon.kind = .semicolon →
      Initial (ts ++ [semicolon]) (some (.expression e))

/-- Another clause of a counting loop: nothing or an expression. -/
inductive Clause : List Token → Option Expr → Prop
  | absent : Clause [] none
  | present {ts : List Token} {e : Expr} : Expression ts e → Clause ts (some e)

mutual

/-- **Statements**, open or not. A statement that ends in another one is open if that one is, and a
choice without an alternative always is. -/
inductive Statement : Bool → List Token → Stmt → Prop
  | expression {ts : List Token} {e : Expr} {semicolon : Token} :
      Expression ts e → semicolon.kind = .semicolon →
      Statement false (ts ++ [semicolon]) (.expression e)
  | print {printWord semicolon : Token} {ts : List Token} {e : Expr} :
      printWord.kind = .printWord → Expression ts e → semicolon.kind = .semicolon →
      Statement false (printWord :: (ts ++ [semicolon])) (.print e)
  | block {opening closing : Token} {ts : List Token} {ss : List Stmt} :
      opening.kind = .leftBrace → Declarations ts ss → closing.kind = .rightBrace →
      Statement false (opening :: (ts ++ [closing])) (.block ss)
  | branch {ifWord : Token} {cs ts : List Token} {test : Expr} {isOpen : Bool} {s : Stmt} :
      ifWord.kind = .ifWord → Condition cs test → Statement isOpen ts s →
      Statement true (ifWord :: (cs ++ ts)) (.branch test s none)
  | choice {ifWord elseWord : Token} {cs ts us : List Token} {test : Expr} {isOpen : Bool}
      {s alternative : Stmt} :
      ifWord.kind = .ifWord → Condition cs test → Statement false ts s →
      elseWord.kind = .elseWord → Statement isOpen us alternative →
      Statement isOpen (ifWord :: (cs ++ (ts ++ elseWord :: us))) (.branch test s (some alternative))
  | loop {whileWord : Token} {cs ts : List Token} {test : Expr} {isOpen : Bool} {body : Stmt} :
      whileWord.kind = .whileWord → Condition cs test → Statement isOpen ts body →
      Statement isOpen (whileWord :: (cs ++ ts)) (.loop test body)
  | counting {forWord opening semicolon closing : Token} {is cs ns ts : List Token}
      {initial : Option Stmt} {condition increment : Option Expr} {isOpen : Bool}
      {body extended : Stmt} :
      forWord.kind = .forWord → opening.kind = .leftParen → Initial is initial →
      Clause cs condition → semicolon.kind = .semicolon →
      Clause ns increment → closing.kind = .rightParen →
      Statement isOpen ts body → Extended body increment extended →
      Statement isOpen (forWord :: opening :: (is ++ (cs ++ semicolon :: (ns ++ closing :: ts))))
        (.block (initial.toList ++ [.loop (condition.getD (.literal (.boolean true))) extended]))

/-- **Declarations** are the declarations of variables, and statements. -/
inductive Declaration : List Token → Stmt → Prop
  | var {ts : List Token} {s : Stmt} : Variable ts s → Declaration ts s
  | statement {ts : List Token} {isOpen : Bool} {s : Stmt} : Statement isOpen ts s → Declaration ts s

/-- Declarations one after another: the contents of a block, and a program. -/
inductive Declarations : List Token → List Stmt → Prop
  | nil : Declarations [] []
  | cons {ts us : List Token} {s : Stmt} {ss : List Stmt} :
      Declaration ts s → Declarations us ss → Declarations (ts ++ us) (s :: ss)

end

end Derives

/-! ## How phrases begin -/

/-- The kinds of token that an expression may begin with. -/
def beginsExpression : Kind → Bool
  | .number | .string | .trueWord | .falseWord | .nilWord | .identifier | .leftParen | .bang | .minus => true
  | _ => false

/-- The kinds of token that a declaration may begin with. -/
def beginsDeclaration : Kind → Bool
  | .varWord | .printWord | .leftBrace | .ifWord | .whileWord | .forWord => true
  | k => beginsExpression k

namespace Derives

/-- A primary begins with a token that an expression can begin with. -/
theorem Primary.head {ts : List Token} {e : Expr} (h : Primary ts e) :
    ∃ t us, ts = t :: us ∧ beginsExpression t.kind = true := by
  cases h with
  | number h | text h | trueWord h | falseWord h | nilWord h | name h | grouping h =>
    exact ⟨_, _, rfl, by rw [h]; rfl⟩

/-- So does an operand with its prefixes. -/
theorem Prefixed.head {ts : List Token} {e : Expr} (h : Prefixed ts e) :
    ∃ t us, ts = t :: us ∧ beginsExpression t.kind = true := by
  cases h with
  | not h | negative h => exact ⟨_, _, rfl, by rw [h]; rfl⟩
  | primary h => exact h.head

/-- So does an operand of any level: its leftmost part begins it. -/
theorem Operand.head {level : Nat} {ts : List Token} {e : Expr} :
    Operand level ts e → ∃ t us, ts = t :: us ∧ beginsExpression t.kind = true
  | .tighter h => h.head
  | .join l _ _ => by
    obtain ⟨t, us, rfl, ht⟩ := l.head
    exact ⟨t, _, rfl, ht⟩
  | .prefixed h => h.head

/-- An expression begins with a token of one of nine kinds. -/
theorem Expression.head {ts : List Token} {e : Expr} (h : Expression ts e) :
    ∃ t us, ts = t :: us ∧ beginsExpression t.kind = true := by
  cases h with
  | operand h => exact h.head
  | assign h => exact ⟨_, _, rfl, by rw [h]; rfl⟩

/-- What begins an expression begins a declaration. -/
theorem beginsDeclaration_of_beginsExpression {k : Kind} (h : beginsExpression k = true) :
    beginsDeclaration k = true := by
  cases k <;> first | rfl | exact absurd h (by decide)

/-- A statement begins with a token that a declaration can begin with. -/
theorem Statement.head {isOpen : Bool} {ts : List Token} {s : Stmt} (h : Statement isOpen ts s) :
    ∃ t us, ts = t :: us ∧ beginsDeclaration t.kind = true := by
  cases h with
  | expression h =>
    obtain ⟨t, us, rfl, ht⟩ := h.head
    exact ⟨t, _, rfl, beginsDeclaration_of_beginsExpression ht⟩
  | print h | block h | branch h | choice h | loop h | counting h =>
    exact ⟨_, _, rfl, by rw [h]; rfl⟩

/-- A declaration begins with a token of one of fifteen kinds, and so neither with `else` nor
with a closing brace. -/
theorem Declaration.head {ts : List Token} {s : Stmt} (h : Declaration ts s) :
    ∃ t us, ts = t :: us ∧ beginsDeclaration t.kind = true := by
  cases h with
  | var h =>
    cases h with
    | bare h | initialized h => exact ⟨_, _, rfl, by rw [h]; rfl⟩
  | statement h => exact h.head

end Derives

end LoxScript.Grammar
