import LoxScript.Proofs.Scope.Insertion
import LoxScript.Tree.Source

/-! # Regrouping

What the canonical source of a tree says explicitly: operations stand in parentheses, numbers that have no
literal are operations, and a choice before an `else` stands in braces.

* **`Expr.regrouped`**, **`Stmt.regrouped`** — the tree that says so itself.
* **`Expr.evaluate_regrouped`**, **`Stmt.Placed.execute_regrouped`** — it runs like the tree. -/

namespace LoxScript

/-- The number nearest to a whole one. -/
def Binary64.whole (n : Nat) : Binary64 := Decimal.toBinary64 ⟨n, 0⟩

/-- A quotient of small whole numbers, at no place. -/
def Expr.ratio (num : Expr) (den : Nat) : Expr :=
  .grouping (.binary num ⟨.slash, 0, 0⟩ (.literal (.number (.whole den))))

/-- The expression that the source of a literal is. -/
def Value.regrouped : Value → Expr
  | .number .nan => .ratio (.literal (.number (.whole 0))) 0
  | .number (.infinity false) => .ratio (.literal (.number (.whole 1))) 0
  | .number (.infinity true) => .ratio (.unary ⟨.minus, 0, 0⟩ (.literal (.number (.whole 1)))) 0
  | .number (.finite true m e canonical) =>
    .grouping (.unary ⟨.minus, 0, 0⟩ (.literal (.number (.finite false m e canonical))))
  | v => .literal v

/-- The expression with its operations in parentheses and its literals as their sources are. -/
def Expr.regrouped : Expr → Expr
  | .assign name value => .assign name value.regrouped
  | .binary left operator right => .grouping (.binary left.regrouped operator right.regrouped)
  | .grouping inner => .grouping inner.regrouped
  | .literal value => value.regrouped
  | .unary operator operand => .grouping (.unary operator operand.regrouped)
  | .reference name => .reference name
  | .misplaced s => .misplaced s

/-- A choice in a block of its own, any other statement as it is. -/
def Stmt.braced (original regrouped : Stmt) : Stmt :=
  if original.isBranch then .block [regrouped] else regrouped

mutual

/-- The statement with its expressions regrouped, and with braces around a choice before an `else`. -/
def Stmt.regrouped : Stmt → Stmt
  | .block ss => .block (Stmt.regroupedAll ss)
  | .expression e => .expression e.regrouped
  | .print e => .print e.regrouped
  | .declare name none => .declare name none
  | .declare name (some e) => .declare name (some e.regrouped)
  | .branch condition consequent none => .branch condition.regrouped consequent.regrouped none
  | .branch condition consequent (some alternative) =>
    .branch condition.regrouped (consequent.braced consequent.regrouped) (some alternative.regrouped)
  | .loop condition body => .loop condition.regrouped body.regrouped
  | .misplaced e => .misplaced e

/-- The statements of a block regrouped. -/
def Stmt.regroupedAll : List Stmt → List Stmt
  | [] => []
  | s :: rest => s.regrouped :: Stmt.regroupedAll rest

end

/-! ## Expressions -/

/-- A quotient has the value of its terms. -/
theorem Expr.evaluate_ratio {num : Expr} {x z : Binary64} {den : Nat} {env : Environment}
    (h : num.evaluate env = .ok (.number x) env) (quotient : x.divide? (.whole den) = some z) :
    (Expr.ratio num den).evaluate env = .ok (.number z) env := by
  rw [Expr.ratio, evaluate_grouping, evaluate_binary, h, Outcome.bind_ok, evaluate_literal,
    Outcome.bind_ok]
  show Outcome.settle (Operator.resultOf (x.divide? (.whole den))) env = _
  rw [quotient]
  rfl

/-- The source of a literal has its value. -/
theorem Value.evaluate_regrouped (v : Value) (env : Environment) :
    v.regrouped.evaluate env = .ok v env := by
  cases v with
  | nil => rfl
  | boolean b => rfl
  | text s => rfl
  | number x =>
    cases x with
    | nan =>
      have quotient : (Binary64.whole 0).divide? (.whole 0) = some .nan := by decide +kernel
      rw [Value.regrouped, Expr.evaluate_ratio rfl quotient]
    | infinity negative =>
      cases negative with
      | false =>
        have quotient : (Binary64.whole 1).divide? (.whole 0) = some (.infinity false) := by decide +kernel
        rw [Value.regrouped, Expr.evaluate_ratio rfl quotient]
      | true =>
        have quotient : (-Binary64.whole 1).divide? (.whole 0) = some (.infinity true) := by decide +kernel
        rw [Value.regrouped, Expr.evaluate_ratio (evaluate_unary _ _ _) quotient]
    | finite negative m e canonical => cases negative <;> rfl

/-- **Regrouping does not change the value of an expression.** -/
theorem Expr.evaluate_regrouped (e : Expr) (env : Environment) :
    e.regrouped.evaluate env = e.evaluate env := by
  induction e generalizing env with
  | assign name value ih =>
    rw [Expr.regrouped, evaluate_assign, evaluate_assign, ih]
  | binary left operator right ihl ihr =>
    rw [Expr.regrouped, evaluate_grouping, evaluate_binary, evaluate_binary, ihl]
    simp only [ihr]
  | grouping inner ih => rw [Expr.regrouped, evaluate_grouping, evaluate_grouping, ih]
  | literal value => rw [Expr.regrouped, Value.evaluate_regrouped, evaluate_literal]
  | unary operator operand ih =>
    rw [Expr.regrouped, evaluate_grouping, evaluate_unary, evaluate_unary, ih]
  | reference name => rfl
  | misplaced s => rfl

/-- Added parentheses do not change how an expression runs in a world. -/
theorem Expr.run_regrouped (e : Expr) (w : World) :
    Execution.ofEvaluation e.regrouped.evaluate w = Execution.ofEvaluation e.evaluate w := by
  rw [ofEvaluation_run, ofEvaluation_run, e.evaluate_regrouped]

/-- Nor how it runs as a condition. -/
theorem Expr.test_regrouped (e : Expr) (w : World) : e.regrouped.test w = e.test w := by
  rw [test_run, test_run, e.run_regrouped]

/-! ## Statements -/

/-- Statements are regrouped one by one. -/
theorem Stmt.regroupedAll_eq_map (ss : List Stmt) : Stmt.regroupedAll ss = ss.map Stmt.regrouped := by
  induction ss with
  | nil => rw [Stmt.regroupedAll, List.map_nil]
  | cons s rest ih => rw [Stmt.regroupedAll, ih, List.map_cons]

/-- What holds of each statement regrouped holds of all of them. -/
theorem Stmt.forall_regroupedAll {P : Stmt → Prop} {ss : List Stmt} (h : ∀ s ∈ ss, P s.regrouped) :
    ∀ t ∈ Stmt.regroupedAll ss, P t := by
  rw [Stmt.regroupedAll_eq_map]
  exact List.forall_mem_map.mpr h

/-- Evaluating an expression keeps the environment a stack. -/
theorem Expr.test_chained (e : Expr) {w w₁ : World} {holds : Bool} (h : w.environment.Chained)
    (tested : e.test w = .ok holds w₁) : w₁.environment.Chained := by
  obtain ⟨names, outer, declares⟩ := h.declares
  have left := e.test_declares declares
  rw [tested] at left
  exact left.chained

/-- Carrying a statement out keeps the environment a stack. -/
theorem Stmt.Placed.execute_chained {s : Stmt} (placed : s.Placed) (passes : Nat) {w : World}
    (h : w.environment.Chained) : (Outcome.state (s.execute passes w)).environment.Chained := by
  obtain ⟨names, outer, declares⟩ := h.declares
  have grows := placed.execute_declares passes declares
  cases outcome : s.execute passes w with
  | ok _ w₁ =>
    rw [outcome] at grows
    exact grows.chained
  | error stop w₁ =>
    rw [outcome] at grows
    obtain ⟨left, grown⟩ := grows
    exact grown.chained

/-- A placed statement that runs to its end leaves its scopes chained. -/
theorem Stmt.Placed.chained_of_ok {s : Stmt} (placed : s.Placed) {passes : Nat} {w w₁ : World}
    (h : w.environment.Chained) (done : s.execute passes w = .ok () w₁) : w₁.environment.Chained := by
  have left := placed.execute_chained passes h
  rwa [done] at left

/-- Placed statements one after another run alike if each of them does from chained scopes. -/
theorem executeAll_congr {passes : Nat} {ss : List Stmt} (placed : ∀ s ∈ ss, s.Placed)
    (alike : ∀ s ∈ ss, ∀ w : World, w.environment.Chained →
      s.regrouped.execute passes w = s.execute passes w) {w : World} (h : w.environment.Chained) :
    Stmt.executeAll passes (Stmt.regroupedAll ss) w = Stmt.executeAll passes ss w := by
  induction ss generalizing w with
  | nil => rw [Stmt.regroupedAll]
  | cons s rest ih =>
    rw [Stmt.regroupedAll, executeAll_cons, executeAll_cons, alike s (List.mem_cons_self ..) w h]
    apply Outcome.bind_congr
    intro _ w₁ done
    exact ih (fun t mem => placed t (List.mem_cons_of_mem _ mem))
      (fun t mem => alike t (List.mem_cons_of_mem _ mem))
      ((placed s (List.mem_cons_self ..)).chained_of_ok h done)

/-- **Regrouping does not change what a statement does** in an environment that is a stack. -/
theorem Stmt.Placed.execute_regrouped {s : Stmt} (placed : s.Placed) (passes : Nat) {w : World}
    (h : w.environment.Chained) : s.regrouped.execute passes w = s.execute passes w := by
  induction placed generalizing w with
  | @block ss placed ih =>
    rw [Stmt.regrouped, execute_block, execute_block,
      executeAll_congr placed (fun s mem w hw => ih s mem hw)
        (w := { w with environment := w.environment.enter }) h.enter]
  | @expression e => rw [Stmt.regrouped, execute_expression, execute_expression, e.run_regrouped]
  | @print e => rw [Stmt.regrouped, execute_print, execute_print, e.run_regrouped]
  | @declare name initial =>
    cases initial with
    | none => rw [Stmt.regrouped]
    | some e =>
      rw [Stmt.regrouped, execute_declare, execute_declare]
      exact congrArg (Outcome.bind · _) (e.run_regrouped w)
  | @branch condition consequent alternative closed placed closed' placed' ih ih' =>
    cases alternative with
    | none =>
      rw [Stmt.regrouped, execute_branch, execute_branch, condition.test_regrouped]
      apply Outcome.bind_congr
      intro holds w₁ tested
      -- What is run next starts from the state the condition left, and that is a stack again.
      have h₁ := condition.test_chained h tested
      cases holds with
      | true => exact ih h₁
      | false => rfl
    | some a =>
      rw [Stmt.regrouped, execute_branch, execute_branch, condition.test_regrouped]
      apply Outcome.bind_congr
      intro holds w₁ tested
      have h₁ := condition.test_chained h tested
      cases holds with
      | true =>
        show (consequent.braced consequent.regrouped).execute passes w₁ = consequent.execute passes w₁
        rw [Stmt.braced]
        split
        · -- The braces are around a statement that declares nothing.
          rw [← execute_block_singleton placed closed passes h₁, execute_block, execute_block,
            executeAll_singleton, executeAll_singleton]
          exact congrArg _ (ih h₁.enter)
        · exact ih h₁
      | false => exact ih' a rfl h₁
  | @loop condition body closed placed ih =>
    rw [Stmt.regrouped, execute_loop, execute_loop]
    -- Both loops test alike, so one invariant, that the environment is a stack, carries all passes.
    have test : condition.regrouped.test = condition.test := funext condition.test_regrouped
    rw [test]
    symm
    exact whileTrue_congr (P := fun w : World => w.environment.Chained)
      (fun h₁ tested => condition.test_chained h₁ tested) (fun h₁ done => placed.chained_of_ok h₁ done)
      (fun h₁ => (ih h₁).symm) passes h

end LoxScript
