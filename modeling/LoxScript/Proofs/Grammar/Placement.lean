import LoxScript.Proofs.Grammar.Acceptance
import LoxScript.Proofs.Scope.Names

/-! # Where declarations stand

In a program of the grammar declarations stand among the statements of a block or of the program, since a
branch and the body of a loop are statements.

* **`placed_of_parse`** — the statements of an accepted program are placed. -/

namespace LoxScript.Grammar

/-- A block is placed if its statements are. -/
theorem placed_block (ss : List Stmt) : (Stmt.block ss).Placed ↔ ∀ s ∈ ss, s.Placed := by
  constructor
  · intro placed
    cases placed with
    | block each => exact each
  · exact .block

/-- A body with its increment is placed if the body is. -/
theorem Extended.placed {body extended : Stmt} {increment : Option Expr}
    (h : Extended body increment extended) (placed : body.Placed) : extended.Placed :=
  h.keeps placed_block placed fun _ _ => .expression

/-- A body with its increment declares nothing around it if the body does not. -/
theorem Extended.declared_eq {body extended : Stmt} {increment : Option Expr}
    (h : Extended body increment extended) (closed : body.declared = []) :
    extended.declared = [] := by
  cases h with
  | same => exact closed
  | block | expression | print => rfl

namespace Derives

/-- A declaration of a variable is placed. -/
theorem Variable.placed {ts : List Token} {s : Stmt} (h : Variable ts s) : s.Placed := by
  cases h <;> exact .declare

/-- So is the first clause of a counting loop. -/
theorem Initial.placed {ts : List Token} {initial : Option Stmt} (h : Initial ts initial) :
    ∀ s ∈ initial, s.Placed := by
  intro s hs
  cases h with
  | absent => cases hs
  | var h =>
    cases hs
    exact h.placed
  | expression =>
    cases hs
    exact .expression

/-- A statement declares nothing in the scope it is carried out in. -/
theorem Statement.declared_eq {isOpen : Bool} {ts : List Token} {s : Stmt}
    (h : Statement isOpen ts s) : s.declared = [] := by
  cases h <;> rfl

mutual

/-- **A statement that is read is placed**: no branch or loop has a declaration as its body. -/
theorem Statement.placed : ∀ {isOpen : Bool} {ts : List Token} {s : Stmt},
    Statement isOpen ts s → s.Placed
  | _, _, _, .expression _ _ => .expression
  | _, _, _, .print _ _ _ => .print
  | _, _, _, .block _ h _ => .block h.placed
  | _, _, _, .branch _ _ h => .branch h.declared_eq h.placed (fun _ hs => by cases hs) fun _ hs => by cases hs
  | _, _, _, .choice _ _ h _ ha => by
    have alternative := ha.placed
    refine .branch h.declared_eq h.placed (fun s hs => ?_) fun s hs => ?_
    · cases hs
      exact ha.declared_eq
    · cases hs
      exact alternative
  | _, _, _, .loop _ _ h => .loop h.declared_eq h.placed
  | _, _, _, .counting _ _ hi _ _ _ _ h extended => by
    have body := h.placed
    refine .block fun s hs => ?_
    rcases List.mem_append.mp hs with hs | hs
    · exact hi.placed s (Option.mem_toList.mp hs)
    · rw [List.mem_singleton.mp hs]
      exact .loop (extended.declared_eq h.declared_eq) (extended.placed body)

/-- So is a declaration. -/
theorem Declaration.placed : ∀ {ts : List Token} {s : Stmt}, Declaration ts s → s.Placed
  | _, _, .var h => h.placed
  | _, _, .statement h => h.placed

/-- So are declarations one after another. -/
theorem Declarations.placed : ∀ {ts : List Token} {ss : List Stmt}, Declarations ts ss →
    ∀ s ∈ ss, s.Placed
  | _, _, .nil => fun _ hs => by cases hs
  | _, _, .cons h hs => by
    have first := h.placed
    have others := hs.placed
    intro s mem
    rcases List.mem_cons.mp mem with rfl | mem
    · exact first
    · exact others s mem

end

end Derives

/-- **The statements of an accepted program are placed.** -/
theorem placed_of_parse {tokens : List Token} {source : Option String} {ss : List Stmt}
    (h : parse tokens source = .ok ss) : ∀ s ∈ ss, s.Placed :=
  (derives_of_parse h).placed

end LoxScript.Grammar
