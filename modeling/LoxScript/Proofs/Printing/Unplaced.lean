import LoxScript.Proofs.Relocation

/-! # Trees without places

A run consults the places of names and operators for its faults only. To forget the places of a tree is to
move the whole tree to one place that is nowhere.

* **`Expr.unplaced`**, **`Stmt.unplaced`** — the tree with all of its places forgotten.
* **`Stop.unplaced`** — the reason to stop with its place forgotten; code and message stay.
* **`Expr.evaluate_unplaced`**, **`Stmt.execute_unplaced`** — a tree without places runs like the tree, up
  to the places of faults. -/

namespace LoxScript

/-- A span that is nowhere. -/
def Span.nowhere : Span := .single { line := 0, column := 0, offset := 0 }

/-- The token without its place. -/
def Token.unplaced (t : Token) : Token := { t with span := .nowhere }

/-- The operator without its place. -/
def Operator.unplaced (o : Operator) : Operator := ⟨o.symbol, 0, 0⟩

/-- The expression without places; a misplaced statement stays as it is. -/
def Expr.unplaced : Expr → Expr
  | .assign name value => .assign name.unplaced value.unplaced
  | .binary left operator right => .binary left.unplaced operator.unplaced right.unplaced
  | .grouping inner => .grouping inner.unplaced
  | .literal value => .literal value
  | .unary operator operand => .unary operator.unplaced operand.unplaced
  | .reference name => .reference name.unplaced
  | .misplaced s => .misplaced s

mutual

/-- The statement without places; a misplaced expression stays as it is. -/
def Stmt.unplaced : Stmt → Stmt
  | .block ss => .block (Stmt.unplacedAll ss)
  | .expression e => .expression e.unplaced
  | .print e => .print e.unplaced
  | .declare name initial => .declare name.unplaced (initial.map Expr.unplaced)
  | .branch condition consequent none => .branch condition.unplaced consequent.unplaced none
  | .branch condition consequent (some alternative) =>
    .branch condition.unplaced consequent.unplaced (some alternative.unplaced)
  | .loop condition body => .loop condition.unplaced body.unplaced
  | .misplaced e => .misplaced e

/-- The statements of a block without places. -/
def Stmt.unplacedAll : List Stmt → List Stmt
  | [] => []
  | s :: rest => s.unplaced :: Stmt.unplacedAll rest

end

/-- Places of statements are forgotten one by one. -/
theorem Stmt.unplacedAll_eq_map (ss : List Stmt) : Stmt.unplacedAll ss = ss.map Stmt.unplaced := by
  induction ss with
  | nil => rw [Stmt.unplacedAll, List.map_nil]
  | cons s rest ih => rw [Stmt.unplacedAll, ih, List.map_cons]

/-- The cause without the place of its token or operator. -/
def RuntimeCause.unplaced : RuntimeCause → RuntimeCause
  | alreadyDefined name token => alreadyDefined name token.unplaced
  | undefined name token => undefined name token.unplaced
  | notAssignable token => notAssignable token.unplaced
  | invalidOperands operator => invalidOperands operator.unplaced
  | invalidUnary operator => invalidUnary operator.unplaced
  | invalidOperand operator value => invalidOperand operator.unplaced value

/-- The reason to stop without its place. -/
def Stop.unplaced : Stop → Stop
  | fault f => cause f.cause.unplaced
  | halt h => halt h

/-- The code of a cause does not depend on places. -/
@[simp] theorem RuntimeCause.code_unplaced (c : RuntimeCause) : c.unplaced.code = c.code := by
  cases c <;> rfl

/-- Neither does its message. -/
@[simp] theorem RuntimeCause.message_unplaced (c : RuntimeCause) : c.unplaced.message = c.message := by
  cases c <;> rfl

/-- Faults that are the same up to places have the same code and message. -/
theorem Stop.gist_eq_of_unplaced_eq {f g : Fault RuntimeCause}
    (h : (Stop.fault f).unplaced = (Stop.fault g).unplaced) :
    f.cause.code = g.cause.code ∧ f.cause.message = g.cause.message := by
  have causes : f.cause.unplaced = g.cause.unplaced := congrArg Fault.cause (Stop.fault.inj h)
  rw [← f.cause.code_unplaced, ← f.cause.message_unplaced, causes, RuntimeCause.code_unplaced,
    RuntimeCause.message_unplaced]
  exact ⟨rfl, rfl⟩

/-! ## To one place -/

/-- Everything goes to the place that is nowhere. -/
def Relocation.nowhere : Relocation where
  position := fun _ => { line := 0, column := 0, offset := 0 }
  place := fun _ _ => (0, 0)
  place_eq := fun _ => rfl

/-- An expression that is moved nowhere has its places forgotten. -/
theorem Expr.moved_nowhere (e : Expr) : e.moved .nowhere = e.unplaced := by
  induction e with
  | assign name value ih => rw [Expr.moved, ih]; rfl
  | binary left operator right ihl ihr => rw [Expr.moved, ihl, ihr]; rfl
  | grouping inner ih => rw [Expr.moved, ih]; rfl
  | literal value => rfl
  | unary operator operand ih => rw [Expr.moved, ih]; rfl
  | reference name => rfl
  | misplaced s => rfl

/-- So have statements, if each of them has. -/
theorem Stmt.movedAll_nowhere {ss : List Stmt} (h : ∀ s ∈ ss, s.moved .nowhere = s.unplaced) :
    Stmt.movedAll .nowhere ss = Stmt.unplacedAll ss := by
  induction ss with
  | nil => rw [Stmt.movedAll, Stmt.unplacedAll]
  | cons s rest ih =>
    rw [Stmt.movedAll, Stmt.unplacedAll, h s (List.mem_cons_self ..),
      ih fun t mem => h t (List.mem_cons_of_mem _ mem)]

/-- So has every statement. -/
theorem Stmt.moved_nowhere (s : Stmt) : s.moved .nowhere = s.unplaced := by
  induction s with
  | block ss ih => rw [Stmt.moved, Stmt.unplaced, Stmt.movedAll_nowhere ih]
  | expression e => rw [Stmt.moved, Stmt.unplaced, e.moved_nowhere]
  | print e => rw [Stmt.moved, Stmt.unplaced, e.moved_nowhere]
  | declare name initial =>
    cases initial with
    | none => rfl
    | some e =>
      rw [Stmt.moved, Stmt.unplaced, Option.map_some, Option.map_some, e.moved_nowhere]
      rfl
  | branch condition consequent alternative ih ih' =>
    cases alternative with
    | none => rw [Stmt.moved, Stmt.unplaced, condition.moved_nowhere, ih]
    | some a => rw [Stmt.moved, Stmt.unplaced, condition.moved_nowhere, ih, ih' a rfl]
  | loop condition body ih => rw [Stmt.moved, Stmt.unplaced, condition.moved_nowhere, ih]
  | misplaced e => rw [Stmt.moved, Stmt.unplaced]

/-- So has a reason to stop. -/
theorem Stop.moved_nowhere (stop : Stop) : stop.moved .nowhere = stop.unplaced := by
  cases stop with
  | fault f =>
    obtain ⟨cause, span, line⟩ := f
    cases cause <;> rfl
  | halt h => rfl

/-! ## Runs -/

/-- **An expression without places has the same value**, or stops for the same reason without its place. -/
theorem Expr.evaluate_unplaced (e : Expr) (env : Environment) :
    e.unplaced.evaluate env = Outcome.mapStop Stop.unplaced (e.evaluate env) := by
  rw [← e.moved_nowhere, e.evaluate_moved, funext Stop.moved_nowhere]

/-- **A statement without places does the same**, or stops for the same reason without its place. -/
theorem Stmt.execute_unplaced (w : World) (passes : Nat) (s : Stmt) :
    s.unplaced.execute passes w = Outcome.mapStop Stop.unplaced (s.execute passes w) := by
  rw [← s.moved_nowhere, s.execute_moved, funext Stop.moved_nowhere]

end LoxScript
