import LoxScript.Proofs.Grammar.Acceptance
import LoxScript.Proofs.Relocation

/-! # Phrases that are moved

The grammar does not look at places: tokens that are moved make the same phrases, moved along with them.

* **`Derives.Expression.moved`**, **`Derives.Statement.moved`** — by induction on the derivation.
* **`Derives.Declarations.append`** — programs one after another are a program. -/

namespace LoxScript.Grammar

variable (r : Relocation)

namespace Derives

/-! ## Expressions -/

mutual

/-- **Tokens of an expression that are moved make the expression moved.** -/
theorem Expression.moved : ∀ {ts : List Token} {e : Expr}, Expression ts e →
    Expression (ts.map (Token.moved r)) (e.moved r)
  | _, _, .operand h => .operand h.moved
  | _, _, .assign hn he h => .assign hn he h.moved

/-- Tokens of an operand make it up somewhere else, with its operators there. -/
theorem Operand.moved : ∀ {level : Nat} {ts : List Token} {e : Expr}, Operand level ts e →
    Operand level (ts.map (Token.moved r)) (e.moved r)
  | _, _, _, .tighter h => .tighter h.moved
  | _, _, _, .join hl joins hr => by
    rw [List.map_append, List.map_cons, Expr.moved, Operator.moved_of_token]
    exact .join hl.moved joins hr.moved
  | _, _, _, .prefixed h => .prefixed h.moved

/-- So do tokens of an operand with its prefixes. -/
theorem Prefixed.moved : ∀ {ts : List Token} {e : Expr}, Prefixed ts e →
    Prefixed (ts.map (Token.moved r)) (e.moved r)
  | _, _, .not hk h => by
    rw [List.map_cons, Expr.moved, Operator.moved_of_token]
    exact .not hk h.moved
  | _, _, .negative hk h => by
    rw [List.map_cons, Expr.moved, Operator.moved_of_token]
    exact .negative hk h.moved
  | _, _, .primary h => .primary h.moved

/-- So do tokens of a primary. -/
theorem Primary.moved : ∀ {ts : List Token} {e : Expr}, Primary ts e →
    Primary (ts.map (Token.moved r)) (e.moved r)
  | _, _, .number hk hd => .number hk hd
  | _, _, .text hk => .text hk
  | _, _, .trueWord hk => .trueWord hk
  | _, _, .falseWord hk => .falseWord hk
  | _, _, .nilWord hk => .nilWord hk
  | _, _, .name hk => .name hk
  | _, _, .grouping ho h hc => by
    rw [List.map_cons, List.map_append, List.map_singleton]
    exact .grouping ho h.moved hc

end

/-! ## Statements -/

/-- So do those of a declaration of a variable. -/
theorem Variable.moved {ts : List Token} {s : Stmt} (h : Variable ts s) :
    Variable (ts.map (Token.moved r)) (s.moved r) := by
  cases h with
  | bare hv hn hs => exact .bare hv hn hs
  | initialized hv hn he h hs =>
    rw [List.map_cons, List.map_cons, List.map_cons, List.map_append, List.map_singleton]
    exact .initialized hv hn he (h.moved r) hs

/-- So do those of a condition. -/
theorem Condition.moved {ts : List Token} {e : Expr} (h : Condition ts e) :
    Condition (ts.map (Token.moved r)) (e.moved r) := by
  cases h with
  | mk ho h hc =>
    rw [List.map_cons, List.map_append, List.map_singleton]
    exact .mk ho (h.moved r) hc

/-- So do those of the first clause of a counting loop. -/
theorem Initial.moved {ts : List Token} {initial : Option Stmt} (h : Initial ts initial) :
    Initial (ts.map (Token.moved r)) (initial.map (Stmt.moved r)) := by
  cases h with
  | absent hs => exact .absent hs
  | var h => exact .var (h.moved r)
  | expression h hs =>
    rw [List.map_append, List.map_singleton, Option.map_some, Stmt.moved]
    exact .expression (h.moved r) hs

/-- So do those of its second or third clause. -/
theorem Clause.moved {ts : List Token} {clause : Option Expr} (h : Clause ts clause) :
    Clause (ts.map (Token.moved r)) (clause.map (Expr.moved r)) := by
  cases h with
  | absent => exact .absent
  | present h => exact .present (h.moved r)

end Derives

/-- A body is joined with its increment wherever they are moved. -/
theorem Extended.moved {body extended : Stmt} {increment : Option Expr}
    (h : Extended body increment extended) :
    Extended (body.moved r) (increment.map (Expr.moved r)) (extended.moved r) := by
  cases h with
  | same => exact .same
  | block =>
    rw [Stmt.moved, Stmt.moved, Stmt.movedAll_eq_map, Stmt.movedAll_eq_map, List.map_append,
      List.map_singleton, Stmt.moved]
    exact .block
  | expression | print =>
    rw [Stmt.moved, Stmt.moved, Stmt.movedAll_eq_map, List.map_cons, List.map_singleton, Stmt.moved,
      Stmt.moved]
    constructor

namespace Derives

mutual

/-- **Tokens of a statement that are moved make the statement moved.** -/
theorem Statement.moved : ∀ {isOpen : Bool} {ts : List Token} {s : Stmt}, Statement isOpen ts s →
    Statement isOpen (ts.map (Token.moved r)) (s.moved r)
  | _, _, _, .expression h hs => by
    rw [List.map_append, List.map_singleton, Stmt.moved]
    exact .expression (h.moved r) hs
  | _, _, _, .print hp h hs => by
    rw [List.map_cons, List.map_append, List.map_singleton, Stmt.moved]
    exact .print hp (h.moved r) hs
  | _, _, _, .block ho h hc => by
    rw [List.map_cons, List.map_append, List.map_singleton, Stmt.moved, Stmt.movedAll_eq_map]
    exact .block ho h.moved hc
  | _, _, _, .branch hi hc h => by
    rw [List.map_cons, List.map_append, Stmt.moved]
    exact .branch hi (hc.moved r) h.moved
  | _, _, _, .choice hi hc h he ha => by
    rw [List.map_cons, List.map_append, List.map_append, List.map_cons, Stmt.moved]
    exact .choice hi (hc.moved r) h.moved he ha.moved
  | _, _, _, .loop hw hc h => by
    rw [List.map_cons, List.map_append, Stmt.moved]
    exact .loop hw (hc.moved r) h.moved
  | _, _, _, @Statement.counting forWord opening semicolon closing is cs ns ts initial condition increment
      isOpen body extended hf ho hi hc hs hn hcl h hx => by
    -- The condition that a loop has when none is written has no place.
    have test : (condition.getD (.literal (.boolean true))).moved r =
        (condition.map (Expr.moved r)).getD (.literal (.boolean true)) := by
      cases condition <;> rfl
    have first : (initial.toList).map (Stmt.moved r) = (initial.map (Stmt.moved r)).toList := by
      cases initial <;> rfl
    rw [Stmt.moved, Stmt.movedAll_eq_map]
    simp only [List.map_cons, List.map_append, List.map_nil]
    rw [first, Stmt.moved, test]
    exact .counting hf ho (hi.moved r) (hc.moved r) hs (hn.moved r) hcl h.moved (hx.moved r)

/-- So do those of a declaration. -/
theorem Declaration.moved : ∀ {ts : List Token} {s : Stmt}, Declaration ts s →
    Declaration (ts.map (Token.moved r)) (s.moved r)
  | _, _, .var h => .var (h.moved r)
  | _, _, .statement h => .statement h.moved

/-- So do those of declarations one after another. -/
theorem Declarations.moved : ∀ {ts : List Token} {ss : List Stmt}, Declarations ts ss →
    Declarations (ts.map (Token.moved r)) (ss.map (Stmt.moved r))
  | _, _, .nil => .nil
  | _, _, .cons h hs => by
    rw [List.map_append, List.map_cons]
    exact .cons h.moved hs.moved

end

/-! ## Programs -/

/-- Programs one after another are a program. -/
theorem Declarations.append {ts us : List Token} : ∀ {ss ss' : List Stmt}, Declarations ts ss →
    Declarations us ss' → Declarations (ts ++ us) (ss ++ ss')
  | _, _, .nil, second => second
  | _, _, .cons h hs, second => by
    rw [List.append_assoc, List.cons_append]
    exact .cons h (hs.append second)

end Derives

end LoxScript.Grammar
