import LoxScript.Tree

/-! # Outline of a tree
The structure of a tree as indented lines: the kind of each node, and below it the name of each part with
the part itself. Names and operators are shown with the place they were written at. -/

namespace LoxScript

namespace Outline

/-- One line at a level of nesting. -/
def line (level : Nat) (text : String) : String :=
  String.ofList (List.replicate (2 * level) ' ') ++ text

/-- A part that is a token. -/
def tokenPart (level : Nat) (part : String) (t : Token) : String :=
  line (level + 1) (part ++ ": " ++ t.listing ++ " @ " ++ t.place)

/-- A part that is an operator. -/
def operatorPart (level : Nat) (o : Operator) : String :=
  line (level + 1) ("operator: '" ++ o.symbol.spelling ++ "' @ " ++ o.position.lineColumn)

/-- A part that is missing. -/
def missingPart (level : Nat) (part : String) : String := line (level + 1) (part ++ ": None")

end Outline

open Outline in
mutual

/-- The outline of an expression whose first line stands at `level`. -/
def Expr.outline (level : Nat) : Expr → List String
  | .assign name value =>
    line level "Assign" :: tokenPart level "name" name ::
      line (level + 1) "value:" :: value.outline (level + 2)
  | .binary left operator right =>
    line level "Binary" :: line (level + 1) "left:" :: (left.outline (level + 2) ++
      operatorPart level operator :: line (level + 1) "right:" :: right.outline (level + 2))
  | .grouping inner =>
    line level "Grouping" :: line (level + 1) "inner:" :: inner.outline (level + 2)
  | .literal value =>
    [line level "Literal", line (level + 1) ("value: " ++ value.listing)]
  | .unary operator operand =>
    line level "Unary" :: operatorPart level operator ::
      line (level + 1) "operand:" :: operand.outline (level + 2)
  | .reference name => [line level "Variable", tokenPart level "name" name]
  | .misplaced statement => statement.outline level

/-- The outline of a statement whose first line stands at `level`. -/
def Stmt.outline (level : Nat) : Stmt → List String
  | .block statements =>
    line level "Block" :: line (level + 1) "statements: [" ::
      (Stmt.outlines (level + 2) statements ++ [line (level + 1) "]"])
  | .expression e =>
    line level "ExpressionStatement" :: line (level + 1) "expression:" :: e.outline (level + 2)
  | .print e => line level "Print" :: line (level + 1) "expression:" :: e.outline (level + 2)
  | .declare name none =>
    [line level "VariableDeclaration", tokenPart level "name" name, missingPart level "initializer"]
  | .declare name (some e) =>
    line level "VariableDeclaration" :: tokenPart level "name" name ::
      line (level + 1) "initializer:" :: e.outline (level + 2)
  | .branch condition consequent alternative =>
    line level "If" :: line (level + 1) "condition:" :: (condition.outline (level + 2) ++
      line (level + 1) "then_branch:" :: (consequent.outline (level + 2) ++
        match alternative with
        | none => [missingPart level "else_branch"]
        | some s => line (level + 1) "else_branch:" :: s.outline (level + 2)))
  | .loop condition body =>
    line level "While" :: line (level + 1) "condition:" :: (condition.outline (level + 2) ++
      line (level + 1) "body:" :: body.outline (level + 2))
  | .misplaced e => e.outline level

/-- The outlines of statements at one level, one after another. -/
def Stmt.outlines (level : Nat) : List Stmt → List String
  | [] => []
  | s :: rest => s.outline level ++ Stmt.outlines level rest

end

/-- The outline of a program as one text. -/
def programOutline (statements : List Stmt) : String := "\n".intercalate (Stmt.outlines 0 statements)

end LoxScript
