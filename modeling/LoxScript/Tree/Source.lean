import LoxScript.Tree

/-! # Canonical source of a tree
The text of a tree in the language itself: every operation in parentheses, one statement a line, blocks
indented by four blanks. Reading that text gives the tree back up to added groupings. -/

namespace LoxScript

namespace Value

/-- A number as an expression of the language. There are no literals for negative numbers, infinities and
the value that is not a number, so these are written as operations. -/
def numberSource (x : Binary64) : String :=
  match x with
  | .nan => "(0 / 0)"
  | .infinity false => "(1 / 0)"
  | .infinity true => "(-1 / 0)"
  | .finite false .. => x.plain
  | .finite true .. => "(-" ++ x.neg.plain ++ ")"

/-- The source of a literal with this value. -/
def source : Value → String
  | .text s => "\"" ++ s ++ "\""
  | .number x => numberSource x
  | v => v.printed

end Value

/-- The blanks in front of a line at a level of nesting. -/
def indentation (level : Nat) : String := String.ofList (List.replicate (4 * level) ' ')

/-- Whether a statement is a choice, whose alternative could be taken for that of an enclosing one. -/
def Stmt.isBranch : Stmt → Bool
  | .branch .. => true
  | _ => false

/-- The lines of a block between its braces. -/
def blockSource (level : Nat) (lines : List String) : String :=
  if lines.isEmpty then "\x7b\x7d"
  else "\x7b\n" ++ "\n".intercalate lines ++ "\n" ++ indentation level ++ "\x7d"

mutual

/-- The canonical source of an expression. -/
def Expr.source (level : Nat) : Expr → String
  | .assign name value => name.lexeme ++ " = " ++ value.source level
  | .binary left operator right =>
    "(" ++ left.source level ++ " " ++ operator.symbol.spelling ++ " " ++ right.source level ++ ")"
  | .grouping inner => "(" ++ inner.source level ++ ")"
  | .literal value => value.source
  | .unary operator operand => "(" ++ operator.symbol.spelling ++ operand.source level ++ ")"
  | .reference name => name.lexeme
  | .misplaced statement => statement.source level

/-- The canonical source of a statement whose first line is already indented by `level`. A choice within the
first branch of a choice with an alternative stands in braces, which keep the alternative where it belongs. -/
def Stmt.source (level : Nat) : Stmt → String
  | .block statements => blockSource level (Stmt.sourceLines (level + 1) statements)
  | .expression e => e.source level ++ ";"
  | .print e => "print " ++ e.source level ++ ";"
  | .declare name none => "var " ++ name.lexeme ++ ";"
  | .declare name (some e) => "var " ++ name.lexeme ++ " = " ++ e.source level ++ ";"
  | .branch condition consequent none =>
    "if (" ++ condition.source level ++ ") " ++ consequent.source level
  | .branch condition consequent (some alternative) =>
    let first :=
      if consequent.isBranch then
        blockSource level [indentation (level + 1) ++ consequent.source (level + 1)]
      else consequent.source level
    "if (" ++ condition.source level ++ ") " ++ first ++ " else " ++ alternative.source level
  | .loop condition body => "while (" ++ condition.source level ++ ") " ++ body.source level
  | .misplaced e => e.source level

/-- The indented canonical sources of the statements of a block. -/
def Stmt.sourceLines (level : Nat) : List Stmt → List String
  | [] => []
  | s :: rest => (indentation level ++ s.source level) :: Stmt.sourceLines level rest

end

/-- The canonical source of a program: its statements, one after another. -/
def programSource (statements : List Stmt) : String :=
  "\n".intercalate (statements.map (Stmt.source 0))

end LoxScript
