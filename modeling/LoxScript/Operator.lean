import LoxScript.Token

/-! # Operators
An operator of an expression is one of the thirteen operator-shaped kinds of token, with the place at which
it was written. Only some of them join two values, and fewer stand before one. -/

namespace LoxScript

/-- The operator-shaped kinds of token. -/
inductive Symbol where
  | dot | minus | plus | slash | star | bang | bangEqual | equal | equalEqual | greater | greaterEqual
  | less | lessEqual
  deriving DecidableEq, Repr, Inhabited

namespace Symbol

/-- Every symbol, in the order of its declaration. -/
def all : List Symbol :=
  [dot, minus, plus, slash, star, bang, bangEqual, equal, equalEqual, greater, greaterEqual, less,
    lessEqual]

/-- The kind of token that a symbol is written with. -/
def kind : Symbol → Kind
  | dot => .dot
  | minus => .minus
  | plus => .plus
  | slash => .slash
  | star => .star
  | bang => .bang
  | bangEqual => .bangEqual
  | equal => .equal
  | equalEqual => .equalEqual
  | greater => .greater
  | greaterEqual => .greaterEqual
  | less => .less
  | lessEqual => .lessEqual

/-- The symbol that a kind of token writes, if it is operator-shaped. -/
def ofKind? : Kind → Option Symbol
  | .dot => some dot
  | .minus => some minus
  | .plus => some plus
  | .slash => some slash
  | .star => some star
  | .bang => some bang
  | .bangEqual => some bangEqual
  | .equal => some equal
  | .equalEqual => some equalEqual
  | .greater => some greater
  | .greaterEqual => some greaterEqual
  | .less => some less
  | .lessEqual => some lessEqual
  | _ => none

/-- The spelling of a symbol. -/
def spelling : Symbol → String
  | dot => "."
  | minus => "-"
  | plus => "+"
  | slash => "/"
  | star => "*"
  | bang => "!"
  | bangEqual => "!="
  | equal => "="
  | equalEqual => "=="
  | greater => ">"
  | greaterEqual => ">="
  | less => "<"
  | lessEqual => "<="

/-- A kind of token writes exactly the symbol whose kind it is. -/
theorem ofKind?_eq_some_iff {k : Kind} {s : Symbol} : ofKind? k = some s ↔ s.kind = k := by
  constructor
  · cases k <;> simp only [ofKind?, Option.some.injEq, reduceCtorEq, false_implies] <;>
      (rintro rfl; rfl)
  · rintro rfl; cases s <;> rfl

end Symbol

/-- A symbol together with the place of its last character. -/
structure Operator where
  /-- Which operator it is. -/
  symbol : Symbol
  /-- The line it was written on. -/
  line : Int
  /-- The column of its last character. -/
  column : Int
  deriving DecidableEq, Repr, Inhabited

namespace Operator

/-- The operator that a token writes, if it is operator-shaped. -/
def ofToken? (t : Token) : Option Operator :=
  (Symbol.ofKind? t.kind).map fun s => ⟨s, t.line, t.column⟩

/-- The place of an operator as a position of its own: neither offset nor file is kept. -/
def position (o : Operator) : Position := { line := o.line, column := o.column, offset := 0 }

end Operator

end LoxScript
