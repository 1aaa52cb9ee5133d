import LoxScript.Proofs.Grammar.Placement
import LoxScript.Proofs.Scope.Insertion

/-! # The scope of an increment

A counting loop stands for a conditional loop whose body ends in the increment, within the braces of the
body if it has braces.
So the increment is evaluated in the scope of the body, and a name in it that the body declares does not
mean there what it means in the condition.

* **`CountingLoop.meaning`** — counting loops with the increment in the scope of the loop.
* **`CountingLoop.execute_eq_meaning`** — the loop does what it means if its body declares no name of the
  increment.
* **`CountingLoop.holder?_eq_iff`** — where the increment is evaluated, its names are held where they are in
  the condition iff the body declares none of them. -/

namespace LoxScript.CountingLoop

/-- **The meaning of a counting loop.** The initial statement, the condition and the increment have the
scope of the loop; the body is carried out as a statement, and then the increment is evaluated. -/
def meaning (passes : Nat) (initial : Option Stmt) (condition : Option Expr) (increment : Expr)
    (body : Stmt) : Execution Unit :=
  Execution.inScope do
    Stmt.executeAll passes initial.toList
    Execution.whileTrue passes (condition.getD (.literal (.boolean true))).test do
      body.execute passes
      discard (Execution.ofEvaluation increment.evaluate)

/-- The statements that come before the increment in its scope: those of a block, or the only one. -/
def before : Stmt → List Stmt
  | .block ss => ss
  | s => [s]

/-- The body with its increment is a block of the statements of the body and the increment. -/
theorem extended_eq {body extended : Stmt} {increment : Expr}
    (h : Grammar.Extended body (some increment) extended) :
    extended = .block (before body ++ [.expression increment]) := by
  cases h <;> rfl

/-- The statements before the increment are placed if the body is. -/
theorem before_placed {body : Stmt} (placed : body.Placed) : ∀ s ∈ before body, s.Placed := by
  cases placed with
  | block each => exact each
  | expression | print | declare | branch | loop =>
    intro s hs
    rw [List.mem_singleton.mp hs]
    constructor <;> assumption

/-- A body that takes an increment does the same in braces. -/
theorem execute_before {body extended : Stmt} {increment : Expr}
    (h : Grammar.Extended body (some increment) extended) (passes : Nat) {w : World}
    (chained : w.environment.Chained) :
    (Stmt.block (before body)).execute passes w = body.execute passes w := by
  cases h with
  | block => rfl
  | expression => exact execute_block_singleton .expression rfl passes chained
  | print => exact execute_block_singleton .print rfl passes chained

/-- **One pass.** An increment at the end of a block does what it does behind the block, if the statements
before it declare none of its names. -/
theorem execute_block_increment {ss : List Stmt} (placed : ∀ s ∈ ss, s.Placed) {increment : Expr}
    (free : ∀ name ∈ increment.names, name ∉ declaredIn ss) (passes : Nat) {w : World}
    (chained : w.environment.Chained) :
    (Stmt.block (ss ++ [.expression increment])).execute passes w =
      Outcome.bind ((Stmt.block ss).execute passes w) fun _ w₁ =>
        (Stmt.expression increment).execute passes w₁ := by
  obtain ⟨names, outer, declares⟩ := chained.declares
  have after := executeAll_declares placed passes
    (w := { w with environment := w.environment.enter }) declares.enter
  rw [execute_block, execute_block, executeAll_append]
  cases ho : Stmt.executeAll passes ss { w with environment := w.environment.enter } with
  | error stop w₁ =>
    rw [Outcome.bind_error, Execution.closeScope]
    cases w₁.environment.exit <;> rfl
  | ok a w₁ =>
    rw [ho] at after
    -- The scope of the block declares none of the names of the increment, which may be evaluated without.
    obtain ⟨b, below, he, hb, hbelow⟩ := Environment.Declares.exists_cons after
    cases below with
    | nil => cases hbelow
    | cons c rest =>
      have inserted : World.Inserted b 0 (rest.length + 1)
          { w₁ with environment := .ofStack (c :: rest) } w₁ :=
        ⟨rfl, [], c :: rest, rfl, rfl, rfl, he⟩
      have rel : Outcome.Rel Eq (World.Inserted b 0 (rest.length + 1)) Eq
          ((Stmt.expression increment).execute passes { w₁ with environment := .ofStack (c :: rest) })
          ((Stmt.expression increment).execute passes w₁) := by
        rw [execute_expression, execute_expression]
        refine (increment.run_inserted (fun x hx mem => free x hx ?_) inserted).bind ?_
        · rwa [hb, List.nil_append] at mem
        · rintro v _ w₂ w₂' rfl h₂
          exact .ok rfl h₂
      have exit : w₁.environment.exit = .ok (.ofStack (c :: rest)) := by
        rw [he]
        exact Environment.exit_ofStack_cons b c rest
      rw [Outcome.bind_ok, executeAll_singleton, closeScope_of_inserted rel, Execution.closeScope, exit]
      rfl

/-- What is done in each pass of a loop, with the increment in the scope of the loop. -/
theorem meaning_pass (passes : Nat) (body : Stmt) (increment : Expr) (w : World) :
    (do
      body.execute passes
      discard (Execution.ofEvaluation increment.evaluate) : Execution Unit) w =
      Outcome.bind (body.execute passes w) fun _ w₁ =>
        (Stmt.expression increment).execute passes w₁ := by
  rw [Outcome.bind_run]
  rfl

/-- **The loop does what it means** if its body declares no name of the increment in the scope that the
increment goes into. -/
theorem execute_eq_meaning {initial : Option Stmt} {condition : Option Expr} {increment : Expr}
    {body s : Stmt} (expanded : expand initial condition (some increment) body = .ok s)
    (initialPlaced : ∀ s ∈ initial, s.Placed) (placed : body.Placed)
    (free : ∀ name ∈ increment.names, name ∉ declaredIn (before body)) (passes : Nat) {w : World}
    (chained : w.environment.Chained) :
    s.execute passes w = meaning passes initial condition increment body w := by
  obtain ⟨extended, h, rfl⟩ := Grammar.expand_eq_ok_iff.mp expanded
  have pass : ∀ w : World, w.environment.Chained → extended.execute passes w =
      Outcome.bind (body.execute passes w) fun _ w₁ =>
        (Stmt.expression increment).execute passes w₁ := by
    intro w chained
    rw [extended_eq h, execute_block_increment (before_placed placed) free passes chained,
      execute_before h passes chained]
  obtain ⟨names, outer, declares⟩ := chained.declares
  have clause : ∀ s ∈ initial.toList, s.Placed :=
    fun s hs => initialPlaced s (Option.mem_toList.mp hs)
  have start := executeAll_declares clause passes
    (w := { w with environment := w.environment.enter }) declares.enter
  rw [execute_block, meaning, Execution.inScope, Outcome.bind_run, executeAll_append]
  refine congrArg _ ?_
  cases ho : Stmt.executeAll passes initial.toList { w with environment := w.environment.enter } with
  | error stop w₁ => rfl
  | ok _ w₁ =>
    rw [ho] at start
    rw [Outcome.bind_ok, executeAll_singleton, execute_loop]
    -- The loop comes to the same in each pass, since the scopes around it stay those it was reached in.
    apply whileTrue_congr (P := fun w₂ => w₂.environment.Declares (_ :: names :: outer)) ?_ ?_ ?_ passes start
    · intro w₂ w₃ holds h₂ tested
      have left := (condition.getD (.literal (.boolean true))).test_declares h₂
      rwa [tested] at left
    · intro w₂ w₃ h₂ done
      have closed : extended.declared = [] := by rw [extended_eq h]; rfl
      have left := (h.placed placed).execute_declares passes h₂
      rwa [done, closed, Grows, List.append_nil] at left
    · intro w₂ h₂
      rw [pass w₂ h₂.chained, meaning_pass]

/-- **Where the increment is evaluated, its names are held where they are in the condition** iff the body
declares none of them in the scope that the increment goes into. -/
theorem holder?_eq_iff {body : Stmt} (placed : body.Placed) (increment : Expr) (passes : Nat)
    {w w' : World} (chained : w.environment.Chained)
    (reached : Stmt.executeAll passes (before body) { w with environment := w.environment.enter } =
      .ok () w') :
    (∀ name ∈ increment.names, w'.environment.holder? name = w.environment.holder? name) ↔
      ∀ name ∈ increment.names, name ∉ declaredIn (before body) := by
  obtain ⟨names, outer, declares⟩ := chained.declares
  have after := executeAll_declares (before_placed placed) passes
    (w := { w with environment := w.environment.enter }) declares.enter
  rw [reached, Grows, List.nil_append] at after
  refine forall₂_congr fun name _ => ?_
  rw [after.holder?_eq, declares.holder?_eq, Environment.holderIn]
  by_cases mem : name ∈ declaredIn (before body)
  · rw [if_pos mem]
    refine ⟨fun same => ?_, fun free => absurd mem free⟩
    -- What holds the name in the condition lies further out.
    have lt := Environment.holderIn_lt same.symm
    exact absurd lt (Nat.lt_irrefl _)
  · rw [if_neg mem]
    exact ⟨fun _ => mem, fun _ => rfl⟩

/-- **When a counting loop keeps its increment in its own scope.** Take a counting loop with an increment
that is accepted. If the body declares no name of the increment in the scope that the increment goes into,
the loop does what it means, from every state. And wherever the increment is reached, its names are held
where they are in the condition iff the body declares none of them there. -/
theorem increment_scope {isOpen : Bool} {is ts : List Token} {initial : Option Stmt}
    {condition : Option Expr} {increment : Expr} {body s : Stmt}
    (clause : Grammar.Derives.Initial is initial) (statement : Grammar.Derives.Statement isOpen ts body)
    (expanded : expand initial condition (some increment) body = .ok s) :
    ((∀ name ∈ increment.names, name ∉ declaredIn (before body)) →
      ∀ (passes : Nat) (w : World), w.environment.Chained →
        s.execute passes w = meaning passes initial condition increment body w) ∧
    ∀ (passes : Nat) (w w' : World), w.environment.Chained →
      Stmt.executeAll passes (before body) { w with environment := w.environment.enter } = .ok () w' →
      ((∀ name ∈ increment.names, w'.environment.holder? name = w.environment.holder? name) ↔
        ∀ name ∈ increment.names, name ∉ declaredIn (before body)) :=
  ⟨fun free passes _ chained =>
      execute_eq_meaning expanded clause.placed statement.placed free passes chained,
    fun passes _ _ chained reached =>
      holder?_eq_iff statement.placed increment passes chained reached⟩

/-- The name `s` at no particular place. -/
def named (s : String) : Token := ⟨.identifier, some (.text s), s, default⟩

/-- The loop of `for (; x; x = nil) { var y; print x; }`, run where `x` is true, does what it means:
its body declares another name. It prints once, and where the increment is reached `x` is the
variable of the condition. -/
theorem increment_scope_other_name :
    let x := Expr.reference (named "x")
    let increment := Expr.assign (named "x") (.literal .nil)
    let body := Stmt.block [.declare (named "y") none, .print x]
    let w : World := ⟨⟨#[⟨[("x", .boolean true)], none⟩], 0⟩, ""⟩
    ∃ s w', expand none (some x) (some increment) body = .ok s ∧
      s.execute 2 w = meaning 2 none (some x) increment body w ∧
      Outcome.state (s.execute 2 w) = ⟨⟨#[⟨[("x", .nil)], none⟩], 0⟩, "true\n"⟩ ∧
      Stmt.executeAll 2 (before body) { w with environment := w.environment.enter } = .ok () w' ∧
      w'.environment.holder? "x" = w.environment.holder? "x" := by
  intro x increment body w
  have declaration : Grammar.Derives.Variable
      [Grammar.bare .varWord, named "y", Grammar.bare .semicolon] (.declare (named "y") none) :=
    .bare rfl rfl rfl
  have name : Grammar.Derives.Expression [named "x"] x :=
    .operand (.tighter (.tighter (.tighter (.tighter (.prefixed (.primary (.name rfl)))))))
  have print : Grammar.Derives.Statement false
      (Grammar.bare .printWord :: ([named "x"] ++ [Grammar.bare .semicolon])) (.print x) := .print rfl name rfl
  have statement : Grammar.Derives.Statement false
      (Grammar.bare .leftBrace :: (_ ++ [Grammar.bare .rightBrace])) body :=
    .block rfl (.cons (.var declaration) (.cons (.statement print) .nil)) rfl
  have clause : Grammar.Derives.Initial [Grammar.bare .semicolon] none := .absent rfl
  have chained : w.environment.Chained := Environment.chained_ofStack [("x", .boolean true)] []
  have free : ∀ name ∈ increment.names, name ∉ declaredIn (before body) := by decide
  have expanded : expand none (some x) (some increment) body = .ok _ := rfl
  let w' : World := ⟨⟨#[⟨[("x", .boolean true)], none⟩, ⟨[("y", .nil)], some 0⟩], 1⟩, "true\n"⟩
  have reached : Stmt.executeAll 2 (before body) { w with environment := w.environment.enter } = .ok () w' := by
    with_unfolding_all rfl
  obtain ⟨does, holds⟩ := increment_scope clause statement expanded
  refine ⟨_, w', expanded, does free 2 w chained, by with_unfolding_all rfl, reached, ?_⟩
  exact (holds 2 w w' chained reached).mpr free "x" (by decide)

/-- The loop of `for (var x = "a"; n != "11"; x = "b") { n = n + "1"; print x; var x = "c"; }`, run
where `n` is empty, prints twice what it should print once: the increment sets the variable of the body. -/
theorem increment_captured :
    let initial := Stmt.declare (named "x") (some (.literal (.text "a")))
    let condition := Expr.binary (.reference (named "n")) ⟨.bangEqual, 1, 35⟩ (.literal (.text "11"))
    let increment := Expr.assign (named "x") (.literal (.text "b"))
    let body := Stmt.block
      [.expression (.assign (named "n")
        (.binary (.reference (named "n")) ⟨.plus, 1, 61⟩ (.literal (.text "1")))),
        .print (.reference (named "x")),
        .declare (named "x") (some (.literal (.text "c")))]
    let w : World := ⟨⟨#[⟨[("n", .text "")], none⟩], 0⟩, ""⟩
    ∃ s, expand (some initial) (some condition) (some increment) body = .ok s ∧
      (Outcome.state (s.execute 3 w)).printed = "a\na\n" ∧
      (Outcome.state (meaning 3 (some initial) (some condition) increment body w)).printed = "a\nb\n" := by
  intro initial condition increment body w
  refine ⟨_, rfl, ?_, ?_⟩
  · decide +kernel
  · decide +kernel

end LoxScript.CountingLoop
