import LoxScript.Proofs.Printing.Spelling
import LoxScript.Proofs.Printing.Unplaced

/-! # What printing keeps of a tree

A tree made by hand can have parentheses or not where its source has them, and names with any place, class
and datum. Its source consults none of these, and its core has none of them.

* **`Expr.named`**, **`Stmt.named`** — the tree with its names told by their characters.
* **`Stmt.Printable`** — trees made by hand that the language has a source for.
* **`Expr.core`**, **`Stmt.core`** — what is left of a tree without places, parentheses and added braces.
* **`Stmt.core_regrouped`**, **`Stmt.core_unplaced`**, **`Stmt.core_named`** — what does not show in a core. -/

namespace LoxScript

/-! ## Names told by their characters -/

/-- The name as it is read from its characters, at no place. -/
def Token.named (t : Token) : Token := ⟨.identifier, some (.text t.lexeme), t.lexeme, .nowhere⟩

/-- A name that is told by its characters stays as it is. -/
@[simp] theorem Token.named_named (t : Token) : t.named.named = t.named := rfl

/-- It does not depend on the place of the name. -/
@[simp] theorem Token.named_unplaced (t : Token) : t.unplaced.named = t.named := rfl

/-- The expression with its names as they are read. -/
def Expr.named : Expr → Expr
  | .assign name value => .assign name.named value.named
  | .binary left operator right => .binary left.named operator right.named
  | .grouping inner => .grouping inner.named
  | .literal value => .literal value
  | .unary operator operand => .unary operator operand.named
  | .reference name => .reference name.named
  | .misplaced s => .misplaced s

mutual

/-- The statement with its names as they are read. -/
def Stmt.named : Stmt → Stmt
  | .block ss => .block (Stmt.namedAll ss)
  | .expression e => .expression e.named
  | .print e => .print e.named
  | .declare name none => .declare name.named none
  | .declare name (some e) => .declare name.named (some e.named)
  | .branch condition consequent none => .branch condition.named consequent.named none
  | .branch condition consequent (some alternative) =>
    .branch condition.named consequent.named (some alternative.named)
  | .loop condition body => .loop condition.named body.named
  | .misplaced e => .misplaced e

/-- The statements of a block with their names as they are read. -/
def Stmt.namedAll : List Stmt → List Stmt
  | [] => []
  | s :: rest => s.named :: Stmt.namedAll rest

end

/-- **Statements that can be printed**: their names, told by their characters, are names, operators join or
precede operands that are no assignments, texts have no quotes inside, branches and bodies are no
declarations, and nothing is misplaced. -/
def Stmt.Printable (s : Stmt) : Prop := s.named.Over Expr.Writable fun _ => True

/-- The names of statements are told one statement after another. -/
theorem Stmt.namedAll_eq_map (ss : List Stmt) : Stmt.namedAll ss = ss.map Stmt.named := by
  induction ss with
  | nil => rw [Stmt.namedAll, List.map_nil]
  | cons s rest ih => rw [Stmt.namedAll, ih, List.map_cons]

/-- The source of an expression has the characters of its names only. -/
@[simp] theorem Expr.source_named (level : Nat) (e : Expr) : e.named.source level = e.source level := by
  induction e with
  | assign name value ih => rw [named, source, source, ih, Token.named]
  | binary left operator right ihl ihr => rw [named, source, source, ihl, ihr]
  | grouping inner ih => rw [named, source, source, ih]
  | unary operator operand ih => rw [named, source, source, ih]
  | literal | reference | misplaced => rfl

/-- A statement with its names told is a branch iff it was one. -/
@[simp] theorem Stmt.isBranch_named (s : Stmt) : s.named.isBranch = s.isBranch := by
  cases s with
  | declare name initial => cases initial <;> rfl
  | branch condition consequent alternative => cases alternative <;> rfl
  | block | expression | print | loop | misplaced => rfl

/-- The lines of statements are the same if the source of each is. -/
theorem Stmt.sourceLines_namedAll {level : Nat} {ss : List Stmt}
    (each : ∀ s ∈ ss, s.named.source level = s.source level) :
    Stmt.sourceLines level (Stmt.namedAll ss) = Stmt.sourceLines level ss := by
  induction ss with
  | nil => rw [namedAll]
  | cons s rest ih =>
    rw [namedAll, sourceLines, sourceLines, each s (List.mem_cons_self ..),
      ih fun t mem => each t (List.mem_cons_of_mem _ mem)]

/-- The source of a statement consults the characters of its names only. -/
@[simp] theorem Stmt.source_named (level : Nat) (s : Stmt) : s.named.source level = s.source level := by
  induction s generalizing level with
  | block ss ih => rw [named, source, source, sourceLines_namedAll fun s mem => ih s mem (level + 1)]
  | expression e => rw [named, source, source, e.source_named]
  | print e => rw [named, source, source, e.source_named]
  | declare name initial =>
    cases initial with
    | none => rfl
    | some e => rw [named, source, source, e.source_named, Token.named]
  | branch condition consequent alternative ih ih' =>
    cases alternative with
    | none => simp only [named, source, condition.source_named, ih]
    | some a => simp only [named, source, condition.source_named, isBranch_named, ih, ih' a rfl]
  | loop condition body ih => simp only [named, source, condition.source_named, ih]
  | misplaced e => rfl

/-- **The source of a program has the characters of its names only.** -/
theorem programSource_named (program : List Stmt) :
    programSource (program.map Stmt.named) = programSource program := by
  rw [programSource, programSource, List.map_map]
  exact congrArg _ (List.map_congr_left fun s _ => s.source_named 0)

/-! ## Cores -/

/-- The expression in parentheses, or the expression itself. -/
def Expr.inside : Expr → Expr
  | .grouping inner => inner
  | e => e

/-- **The core of an expression**: no parentheses and no places, names told by their characters, and
numbers without a literal as the operations that they are written as. -/
def Expr.core : Expr → Expr
  | .assign name value => .assign name.named value.core
  | .binary left operator right => .binary left.core operator.unplaced right.core
  | .grouping inner => inner.core
  | .literal value => value.regrouped.inside
  | .unary operator operand => .unary operator.unplaced operand.core
  | .reference name => .reference name.named
  | .misplaced s => .misplaced s

/-- A choice without the braces around it. -/
def Stmt.unbraced : Stmt → Stmt
  | .block [s] => if s.isBranch then s else .block [s]
  | s => s

mutual

/-- **The core of a statement**: that of its expressions, without braces around a choice before an `else`. -/
def Stmt.core : Stmt → Stmt
  | .block ss => .block (Stmt.coreAll ss)
  | .expression e => .expression e.core
  | .print e => .print e.core
  | .declare name none => .declare name.named none
  | .declare name (some e) => .declare name.named (some e.core)
  | .branch condition consequent none => .branch condition.core consequent.core none
  | .branch condition consequent (some alternative) =>
    .branch condition.core consequent.core.unbraced (some alternative.core)
  | .loop condition body => .loop condition.core body.core
  | .misplaced e => .misplaced e

/-- The cores of the statements of a block. -/
def Stmt.coreAll : List Stmt → List Stmt
  | [] => []
  | s :: rest => s.core :: Stmt.coreAll rest

end

/-- Whether a value has a literal. -/
def Value.hasLiteral : Value → Bool
  | .number .nan => false
  | .number (.infinity _) => false
  | .number (.finite negative ..) => !negative
  | _ => true

/-- The literal of a value that has one is its own core. -/
theorem Expr.core_literal {v : Value} (h : v.hasLiteral = true) : (Expr.literal v).core = .literal v := by
  cases v with
  | nil | boolean | text => rfl
  | number x =>
    cases x with
    | nan => cases h
    | infinity negative => cases h
    | finite negative m e canonical =>
      cases negative with
      | false => rfl
      | true => cases h

/-- A quotient by zero keeps its dividend in its core. -/
theorem Expr.core_ratio (num : Expr) : (Expr.ratio num 0).core = (Expr.ratio num.core 0).inside := by
  have zero : (Value.number (.whole 0)).hasLiteral = true := by decide +kernel
  rw [ratio, core, core, core_literal zero]
  rfl

/-- The operation that a literal is written as has the core of the literal. -/
theorem Value.core_regrouped (v : Value) : v.regrouped.core = (Expr.literal v).core := by
  have zero : (Value.number (.whole 0)).hasLiteral = true := by decide +kernel
  have one : (Value.number (.whole 1)).hasLiteral = true := by decide +kernel
  -- Only a number may be written as an operation: a quotient, or a number behind a minus sign.
  cases v with
  | nil | boolean | text => rfl
  | number x =>
    cases x with
    | nan =>
      rw [regrouped, Expr.core_ratio, Expr.core_literal zero]
      rfl
    | infinity negative =>
      cases negative with
      | false =>
        rw [regrouped, Expr.core_ratio, Expr.core_literal one]
        rfl
      | true =>
        have negated : (Expr.unary ⟨.minus, 0, 0⟩ (.literal (.number (.whole 1)))).core =
            .unary ⟨.minus, 0, 0⟩ (.literal (.number (.whole 1))) := by
          rw [Expr.core, Expr.core_literal one]
          rfl
        rw [regrouped, Expr.core_ratio, negated]
        rfl
    | finite negative m e canonical => cases negative <;> rfl

/-- The parentheses that printing adds do not show in a core. -/
@[simp] theorem Expr.core_regrouped (e : Expr) : e.regrouped.core = e.core := by
  induction e with
  | assign name value ih => simp only [regrouped, core, ih]
  | binary left operator right ihl ihr => simp only [regrouped, core, ihl, ihr]
  | grouping inner ih => simp only [regrouped, core, ih]
  | literal value => exact value.core_regrouped
  | unary operator operand ih => simp only [regrouped, core, ih]
  | reference | misplaced => rfl

/-- Neither do places. -/
@[simp] theorem Expr.core_unplaced (e : Expr) : e.unplaced.core = e.core := by
  induction e with
  | assign name value ih => simp only [unplaced, core, ih, Token.named_unplaced]
  | binary left operator right ihl ihr => simp only [unplaced, core, ihl, ihr, Operator.unplaced]
  | grouping inner ih => simp only [unplaced, core, ih]
  | unary operator operand ih => simp only [unplaced, core, ih, Operator.unplaced]
  | literal | reference | misplaced => rfl

/-- Neither does what a name has beside its characters. -/
@[simp] theorem Expr.core_named (e : Expr) : e.named.core = e.core := by
  induction e with
  | assign name value ih => simp only [named, core, ih, Token.named_named]
  | binary left operator right ihl ihr => simp only [named, core, ihl, ihr]
  | grouping inner ih => simp only [named, core, ih]
  | unary operator operand ih => simp only [named, core, ih]
  | literal | reference | misplaced => rfl

namespace Stmt

/-- The core of statements is taken one by one. -/
theorem coreAll_eq_map (ss : List Stmt) : coreAll ss = ss.map core := by
  induction ss with
  | nil => rw [coreAll, List.map_nil]
  | cons s rest ih => rw [coreAll, ih, List.map_cons]

/-- Changing statements in a way that their cores do not show does not show in a block either. -/
theorem coreAll_map {f : Stmt → Stmt} {ss : List Stmt} (h : ∀ s ∈ ss, (f s).core = s.core) :
    coreAll (ss.map f) = coreAll ss := by
  rw [coreAll_eq_map, coreAll_eq_map, List.map_map]
  exact List.map_congr_left h

/-- A statement is a branch iff its core is. -/
@[simp] theorem isBranch_core (s : Stmt) : s.core.isBranch = s.isBranch := by
  cases s with
  | declare name initial => cases initial <;> rfl
  | branch condition consequent alternative => cases alternative <;> rfl
  | block | expression | print | loop | misplaced => rfl

/-- A choice has no braces to lose. -/
theorem unbraced_of_isBranch {s : Stmt} (h : s.isBranch = true) : s.unbraced = s := by
  cases s with
  | branch => rfl
  | block | expression | print | declare | loop | misplaced => cases h

/-- The braces around a choice before an `else` do not show in the core. -/
theorem unbraced_core_braced {s t : Stmt} (h : t.core = s.core) :
    (s.braced t).core.unbraced = s.core.unbraced := by
  rw [braced]
  split
  · next choice =>
    have branch : s.core.isBranch = true := s.isBranch_core.trans choice
    rw [core, coreAll, coreAll, h, unbraced, if_pos branch, unbraced_of_isBranch branch]
  · rw [h]

/-- The parentheses and braces that printing adds do not show in the core of a statement. -/
@[simp] theorem core_regrouped (s : Stmt) : s.regrouped.core = s.core := by
  induction s with
  | block ss ih => rw [regrouped, core, core, regroupedAll_eq_map, coreAll_map ih]
  | expression e => rw [regrouped, core, core, e.core_regrouped]
  | print e => rw [regrouped, core, core, e.core_regrouped]
  | declare name initial =>
    cases initial with
    | none => rfl
    | some e => rw [regrouped, core, core, e.core_regrouped]
  | branch condition consequent alternative ih ih' =>
    cases alternative with
    | none => rw [regrouped, core, core, condition.core_regrouped, ih]
    | some a =>
      rw [regrouped, core, core, condition.core_regrouped, unbraced_core_braced ih, ih' a rfl]
  | loop condition body ih => rw [regrouped, core, core, condition.core_regrouped, ih]
  | misplaced => rfl

/-- Neither do places. -/
@[simp] theorem core_unplaced (s : Stmt) : s.unplaced.core = s.core := by
  induction s with
  | block ss ih => rw [unplaced, core, core, unplacedAll_eq_map, coreAll_map ih]
  | expression e => rw [unplaced, core, core, e.core_unplaced]
  | print e => rw [unplaced, core, core, e.core_unplaced]
  | declare name initial =>
    cases initial with
    | none => rfl
    | some e => rw [unplaced, Option.map_some, core, core, e.core_unplaced, Token.named_unplaced]
  | branch condition consequent alternative ih ih' =>
    cases alternative with
    | none => rw [unplaced, core, core, condition.core_unplaced, ih]
    | some a => rw [unplaced, core, core, condition.core_unplaced, ih, ih' a rfl]
  | loop condition body ih => rw [unplaced, core, core, condition.core_unplaced, ih]
  | misplaced => rfl

/-- Programs that are the same up to places have the same cores. -/
theorem coreAll_eq_of_unplacedAll_eq {ss ss' : List Stmt} (same : unplacedAll ss = unplacedAll ss') :
    coreAll ss = coreAll ss' := by
  have cores := congrArg coreAll same
  rw [unplacedAll_eq_map, unplacedAll_eq_map] at cores
  rwa [coreAll_map fun s _ => s.core_unplaced, coreAll_map fun s _ => s.core_unplaced] at cores

/-- Neither does what a name has beside its characters. -/
@[simp] theorem core_named (s : Stmt) : s.named.core = s.core := by
  induction s with
  | block ss ih => rw [named, core, core, namedAll_eq_map, coreAll_map ih]
  | expression e => rw [named, core, core, e.core_named]
  | print e => rw [named, core, core, e.core_named]
  | declare name initial =>
    cases initial with
    | none => rfl
    | some e => rw [named, core, core, e.core_named, Token.named_named]
  | branch condition consequent alternative ih ih' =>
    cases alternative with
    | none => rw [named, core, core, condition.core_named, ih]
    | some a => rw [named, core, core, condition.core_named, ih, ih' a rfl]
  | loop condition body ih => rw [named, core, core, condition.core_named, ih]
  | misplaced => rfl

end Stmt

end LoxScript
