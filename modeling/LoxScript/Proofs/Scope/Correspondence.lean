import LoxScript.Proofs.Interpreting
import LoxScript.Proofs.Scope.Names

/-! # Runs in environments that correspond

Two environments may differ in something that a program does not get to see.
Then it runs alike in both, provided that what it does with names keeps the environments that way.
What programs do with names is five operations; a correspondence is a relation that these keep.

* **`Access`** — the names that may be looked up, assigned to and declared;
  `Expr.Keeps`, `Stmt.Keeps` say that a tree keeps to them.
* **`Environment.Correspondence`** — a relation of environments that such an access keeps.
* **`Expr.evaluate_alike`**, **`Stmt.Keeps.execute_alike`**, **`Stmt.runAll_alike`** — expressions, statements
  and whole runs come to the same in environments that correspond. -/

namespace LoxScript

/-! ## What trees do with names -/

/-- The names looked up in an expression. -/
def Expr.names : Expr → List String
  | .assign name value => name.lexeme :: value.names
  | .binary left _ right => left.names ++ right.names
  | .grouping inner => inner.names
  | .literal _ => []
  | .unary _ operand => operand.names
  | .reference name => [name.lexeme]
  | .misplaced _ => []

/-- The names that an expression assigns to. -/
def Expr.targets : Expr → List String
  | .assign name value => name.lexeme :: value.targets
  | .binary left _ right => left.targets ++ right.targets
  | .grouping inner => inner.targets
  | .literal _ => []
  | .unary _ operand => operand.targets
  | .reference _ => []
  | .misplaced _ => []

/-- An expression assigns to names in it. -/
theorem Expr.targets_subset (e : Expr) : e.targets ⊆ e.names := by
  induction e with
  | assign name value ih => exact List.cons_subset_cons _ ih
  | binary left operator right ihl ihr =>
    intro x hx
    rcases List.mem_append.mp hx with hx | hx
    · exact List.mem_append_left _ (ihl hx)
    · exact List.mem_append_right _ (ihr hx)
  | grouping inner ih => exact ih
  | unary operator operand ih => exact ih
  | literal | reference | misplaced => exact List.nil_subset _

/-- What may be done with which names. -/
structure Access where
  /-- The names that may be looked up. -/
  sees : String → Prop
  /-- The names that may be assigned to. -/
  assigns : String → Prop
  /-- The names that may be declared so many scopes further in. -/
  declares : Nat → String → Prop

/-- An expression that looks up and assigns to what it may. -/
structure Expr.Keeps (a : Access) (e : Expr) : Prop where
  sees : ∀ name ∈ e.names, a.sees name
  assigns : ∀ name ∈ e.targets, a.assigns name

/-- A statement so many scopes further in that does with names what it may. -/
inductive Stmt.Keeps (a : Access) : Nat → Stmt → Prop
  | block {n : Nat} {ss : List Stmt} : (∀ s ∈ ss, Keeps a (n + 1) s) → Keeps a n (.block ss)
  | expression {n : Nat} {e : Expr} : e.Keeps a → Keeps a n (.expression e)
  | print {n : Nat} {e : Expr} : e.Keeps a → Keeps a n (.print e)
  | declare {n : Nat} {name : Token} {initial : Option Expr} :
      (∀ e ∈ initial, e.Keeps a) → a.declares n name.lexeme → Keeps a n (.declare name initial)
  | branch {n : Nat} {condition : Expr} {consequent : Stmt} {alternative : Option Stmt} :
      condition.Keeps a → Keeps a n consequent → (∀ s ∈ alternative, Keeps a n s) →
      Keeps a n (.branch condition consequent alternative)
  | loop {n : Nat} {condition : Expr} {body : Stmt} :
      condition.Keeps a → Keeps a n body → Keeps a n (.loop condition body)
  | misplaced {n : Nat} {e : Expr} : Keeps a n (.misplaced e)

/-! ## Environments that correspond -/

namespace Environment

/-- A change fails alike in two environments, or leads to environments that are related. -/
def ChangedAlike (R : Environment → Environment → Prop) :
    Except ScopeFault Environment → Except ScopeFault Environment → Prop
  | .ok env, .ok env' => R env env'
  | .error fault, .error fault' => fault = fault'
  | _, _ => False

/-- **Relations of environments that operations keep.** `R n` relates environments that are `n` scopes further
in than where the access is from. -/
structure Correspondence (a : Access) (R : Nat → Environment → Environment → Prop) : Prop where
  get_eq {n : Nat} {env env' : Environment} : R n env env' →
    ∀ name, a.sees name → env'.get name = env.get name
  assign {n : Nat} {env env' : Environment} : R n env env' →
    ∀ name value, a.assigns name → ChangedAlike (R n) (env.assign name value) (env'.assign name value)
  define {n : Nat} {env env' : Environment} : R n env env' →
    ∀ name value, a.declares n name → ChangedAlike (R n) (env.define name value) (env'.define name value)
  enter {n : Nat} {env env' : Environment} : R n env env' → R (n + 1) env.enter env'.enter
  exit {n : Nat} {env env' : Environment} : R (n + 1) env env' →
    ∃ env₁ env₁', env.exit = .ok env₁ ∧ env'.exit = .ok env₁' ∧ R n env₁ env₁'

end Environment

open Environment (ChangedAlike Correspondence)

/-- Two worlds in which the same text has been printed behind `before` and `before'`, and
whose environments are related. -/
structure World.Alike (before before' : String) (R : Environment → Environment → Prop) (w w' : World) :
    Prop where
  printed : ∃ text, w.printed = before ++ text ∧ w'.printed = before' ++ text
  environment : R w.environment w'.environment

section

variable {a : Access} {R : Nat → Environment → Environment → Prop} {n : Nat} {env env' : Environment}

/-! ## Expressions -/

/-- A change that a name asks for comes to the same. -/
theorem change_alike {S : Environment → Environment → Prop} {name : Token}
    {f f' : Environment → Except ScopeFault Environment} (h : S env env')
    (changed : ChangedAlike S (f env) (f' env')) :
    Outcome.Rel Eq S Eq (Evaluation.change name f env) (Evaluation.change name f' env') := by
  rw [change_run, change_run]
  -- Both changes are made, or neither is.
  cases first : f env with
  | ok env₁ =>
    cases second : f' env' with
    | ok env₁' =>
      rw [first, second] at changed
      exact .ok rfl changed
    | error fault' =>
      rw [first, second] at changed
      exact changed.elim
  | error fault =>
    cases second : f' env' with
    | ok env₁' =>
      rw [first, second] at changed
      exact changed.elim
    | error fault' =>
      rw [first, second] at changed
      exact .error (congrArg _ changed) h

/-- **An expression comes to the same in environments that correspond**, and leaves such environments. -/
theorem Expr.evaluate_alike (c : Correspondence a R) (e : Expr) (keeps : e.Keeps a) (h : R n env env') :
    Outcome.Rel Eq (R n) Eq (e.evaluate env) (e.evaluate env') := by
  -- Operands are evaluated in turn, so the environments change before the next one.
  induction e generalizing env env' with
  | assign name value ih =>
    rw [evaluate_assign, evaluate_assign]
    split
    · have inValue : value.Keeps a :=
        ⟨fun x hx => keeps.sees x (List.mem_cons_of_mem _ hx),
          fun x hx => keeps.assigns x (List.mem_cons_of_mem _ hx)⟩
      refine (ih inValue h).bind ?_
      rintro v _ env₁ env₁' rfl h₁
      refine (change_alike h₁ (c.assign h₁ name.lexeme v (keeps.assigns _ (List.mem_cons_self ..)))).bind ?_
      rintro _ _ env₂ env₂' - h₂
      exact .ok rfl h₂
    · exact .error rfl h
  | binary left operator right ihl ihr =>
    have inLeft : left.Keeps a :=
      ⟨fun x hx => keeps.sees x (List.mem_append_left _ hx),
        fun x hx => keeps.assigns x (List.mem_append_left _ hx)⟩
    have inRight : right.Keeps a :=
      ⟨fun x hx => keeps.sees x (List.mem_append_right _ hx),
        fun x hx => keeps.assigns x (List.mem_append_right _ hx)⟩
    rw [evaluate_binary, evaluate_binary]
    refine (ihl inLeft h).bind ?_
    rintro l _ env₁ env₁' rfl h₁
    refine (ihr inRight h₁).bind ?_
    rintro r _ env₂ env₂' rfl h₂
    exact .settle (operator.join l r) h₂
  | grouping inner ih =>
    rw [evaluate_grouping, evaluate_grouping]
    exact ih ⟨keeps.sees, keeps.assigns⟩ h
  | literal v =>
    rw [evaluate_literal, evaluate_literal]
    exact .ok rfl h
  | unary operator operand ih =>
    have inOperand : operand.Keeps a := ⟨keeps.sees, keeps.assigns⟩
    rw [evaluate_unary, evaluate_unary]
    split
    · refine (ih inOperand h).bind ?_
      rintro v _ env₁ env₁' rfl h₁
      exact .settle (operator.negate v) h₁
    · refine (ih inOperand h).bind ?_
      rintro v _ env₁ env₁' rfl h₁
      exact .ok rfl h₁
    · exact .error rfl h
  | reference name =>
    rw [evaluate_reference, evaluate_reference, lookup_run, lookup_run,
      c.get_eq h name.lexeme (keeps.sees _ (List.mem_singleton.mpr rfl))]
    cases env.get name.lexeme with
    | ok v => exact .ok rfl h
    | error fault => exact .error rfl h
  | misplaced s =>
    rw [evaluate_misplaced, evaluate_misplaced]
    exact .error rfl h

/-! ## Statements -/

variable {before before' : String} {w w' : World}

/-- Evaluating in a world comes to what evaluating in its environment comes to. -/
theorem ofEvaluation_alike {α : Type} {S : Environment → Environment → Prop} {m m' : Evaluation α}
    (atEnvironment : Outcome.Rel Eq S Eq (m w.environment) (m' w'.environment))
    (printed : ∃ text, w.printed = before ++ text ∧ w'.printed = before' ++ text) :
    Outcome.Rel Eq (World.Alike before before' S) Eq (Execution.ofEvaluation m w)
      (Execution.ofEvaluation m' w') := by
  rw [ofEvaluation_run, ofEvaluation_run]
  cases hm : m w.environment <;> cases hm' : m' w'.environment <;> rw [hm, hm'] at atEnvironment
  · exact .ok atEnvironment.1 ⟨printed, atEnvironment.2⟩
  · exact atEnvironment.elim
  · exact atEnvironment.elim
  · exact .error atEnvironment.1 ⟨printed, atEnvironment.2⟩

/-- An expression runs alike in worlds that are alike. -/
theorem Expr.run_alike (c : Correspondence a R) (e : Expr) (keeps : e.Keeps a)
    (h : World.Alike before before' (R n) w w') :
    Outcome.Rel Eq (World.Alike before before' (R n)) Eq (Execution.ofEvaluation e.evaluate w)
      (Execution.ofEvaluation e.evaluate w') :=
  ofEvaluation_alike (e.evaluate_alike c keeps h.environment) h.printed

/-- So does a condition. -/
theorem Expr.test_alike (c : Correspondence a R) (e : Expr) (keeps : e.Keeps a)
    (h : World.Alike before before' (R n) w w') :
    Outcome.Rel Eq (World.Alike before before' (R n)) Eq (e.test w) (e.test w') := by
  rw [test_run, test_run]
  refine (e.run_alike c keeps h).bind ?_
  rintro v _ w₁ w₁' rfl h₁
  exact .ok rfl h₁

/-- A scope is closed alike. -/
theorem closeScope_alike (c : Correspondence a R) {o o' : Outcome Stop World Unit}
    (h : Outcome.Rel Eq (World.Alike before before' (R (n + 1))) Eq o o') :
    Outcome.Rel Eq (World.Alike before before' (R n)) Eq (Execution.closeScope o)
      (Execution.closeScope o') := by
  -- The scope is closed on both sides, and both have ended or both have stopped for the same reason.
  cases o with
  | ok _ w =>
    cases o' with
    | error stop' w' => exact h.elim
    | ok _ w' =>
      obtain ⟨env, env', he, he', related⟩ := c.exit h.2.environment
      rw [Execution.closeScope, Execution.closeScope, he, he']
      exact .ok rfl ⟨h.2.printed, related⟩
  | error stop w =>
    cases o' with
    | ok _ w' => exact h.elim
    | error stop' w' =>
      obtain ⟨env, env', he, he', related⟩ := c.exit h.2.environment
      rw [Execution.closeScope, Execution.closeScope, he, he']
      exact .error h.1 ⟨h.2.printed, related⟩

/-- Loops correspond if their conditions and bodies do. -/
theorem whileTrue_rel {S : World → World → Prop} {E : Stop → Stop → Prop}
    {test test' : Execution Bool} {body body' : Execution Unit}
    (unfinished : E (.halt .unfinished) (.halt .unfinished))
    (atTest : ∀ {w w'}, S w w' → Outcome.Rel E S Eq (test w) (test' w'))
    (atBody : ∀ {w w'}, S w w' → Outcome.Rel E S Eq (body w) (body' w')) (passes : Nat) {w w' : World}
    (h : S w w') :
    Outcome.Rel E S Eq (Execution.whileTrue passes test body w)
      (Execution.whileTrue passes test' body' w') := by
  -- By induction on the passes: both tests come to the same, so both loops go on or both end.
  induction passes generalizing w w' with
  | zero => exact .error unfinished h
  | succ passes ih =>
    rw [whileTrue_succ, whileTrue_succ]
    refine (atTest h).bind ?_
    rintro holds _ w₁ w₁' rfl h₁
    cases holds with
    | true =>
      refine (atBody h₁).bind ?_
      rintro _ _ w₂ w₂' - h₂
      exact ih h₂
    | false => exact .ok rfl h₁

/-- Statements one after another come to the same if each of them does. -/
theorem executeAll_rel {S : World → World → Prop} {passes : Nat} {ss : List Stmt}
    (atEach : ∀ s ∈ ss, ∀ {w w'}, S w w' → Outcome.Rel Eq S Eq (s.execute passes w) (s.execute passes w'))
    {w w' : World} (h : S w w') :
    Outcome.Rel Eq S Eq (Stmt.executeAll passes ss w) (Stmt.executeAll passes ss w') := by
  induction ss generalizing w w' with
  | nil =>
    rw [executeAll_nil, executeAll_nil]
    exact .ok rfl h
  | cons s rest ih =>
    rw [executeAll_cons, executeAll_cons]
    refine (atEach s (List.mem_cons_self ..) h).bind ?_
    rintro _ _ w₁ w₁' - h₁
    exact ih (fun t ht => atEach t (List.mem_cons_of_mem _ ht)) h₁

/-- **A statement comes to the same in worlds that correspond**, prints the same, and leaves such worlds. -/
theorem Stmt.Keeps.execute_alike (c : Correspondence a R) {s : Stmt} (keeps : s.Keeps a n) (passes : Nat)
    {w w' : World} (h : World.Alike before before' (R n) w w') :
    Outcome.Rel Eq (World.Alike before before' (R n)) Eq (s.execute passes w) (s.execute passes w') := by
  induction keeps generalizing w w' with
  | block _ ih =>
    -- The statements run one scope further in.
    rw [execute_block, execute_block]
    exact closeScope_alike c
      (executeAll_rel (fun s hs _ _ h => ih s hs h) ⟨h.printed, c.enter h.environment⟩)
  | @expression n e keeps =>
    rw [execute_expression, execute_expression]
    refine (e.run_alike c keeps h).bind ?_
    rintro v _ w₁ w₁' - h₁
    exact .ok rfl h₁
  | @print n e keeps =>
    rw [execute_print, execute_print]
    refine (e.run_alike c keeps h).bind ?_
    rintro v _ w₁ w₁' rfl h₁
    obtain ⟨text, printed, printed'⟩ := h₁.printed
    refine .ok rfl ⟨⟨text ++ v.printed ++ "\n", ?_, ?_⟩, h₁.environment⟩
    · rw [printed, String.append_assoc, String.append_assoc, String.append_assoc]
    · rw [printed', String.append_assoc, String.append_assoc, String.append_assoc]
  | @declare n name initial keeps declares =>
    have value : Outcome.Rel Eq (World.Alike before before' (R n)) Eq
        (Execution.ofEvaluation (initialValue initial) w)
        (Execution.ofEvaluation (initialValue initial) w') := by
      cases initial with
      | none => exact .ok rfl h
      | some e => exact e.run_alike c (keeps e rfl) h
    rw [execute_declare, execute_declare]
    refine value.bind ?_
    rintro v _ w₁ w₁' rfl h₁
    -- If the name is declared already, that is so in both, and what the value has changed stays in both.
    exact ofEvaluation_alike (change_alike h₁.environment (c.define h₁.environment name.lexeme v declares))
      h₁.printed
  | @branch n condition consequent alternative keeps _ _ ih ih' =>
    rw [execute_branch, execute_branch]
    refine (condition.test_alike c keeps h).bind ?_
    rintro holds _ w₁ w₁' rfl h₁
    cases holds with
    | true => exact ih h₁
    | false =>
      cases alternative with
      | none => exact .ok rfl h₁
      | some s => exact ih' s rfl h₁
  | @loop n condition body keeps _ ih =>
    rw [execute_loop, execute_loop]
    exact whileTrue_rel rfl (fun h => condition.test_alike c keeps h) (fun h => ih h) passes h
  | misplaced =>
    rw [execute_misplaced, execute_misplaced]
    exact .error rfl h

/-- **A run comes to the same in worlds that correspond**, with the same faults. -/
theorem Stmt.runAll_alike (c : Correspondence a R) {ss : List Stmt} (keeps : ∀ s ∈ ss, s.Keeps a n)
    (passes : Nat) {w w' : World} (h : World.Alike before before' (R n) w w') :
    Outcome.Rel Eq (fun left left' => World.Alike before before' (R n) left.1 left'.1 ∧ left.2 = left'.2) Eq
      (Stmt.runAll passes ss w) (Stmt.runAll passes ss w') := by
  induction ss generalizing w w' with
  | nil => exact .ok rfl ⟨h, rfl⟩
  | cons s rest ih =>
    have keepRest : ∀ t ∈ rest, t.Keeps a n := fun t ht => keeps t (List.mem_cons_of_mem _ ht)
    have first := (keeps s (List.mem_cons_self ..)).execute_alike c passes h
    rw [Stmt.runAll, Stmt.runAll]
    cases one : s.execute passes w with
    | ok _ w₁ =>
      cases other : s.execute passes w' with
      | ok _ w₁' =>
        rw [one, other] at first
        exact ih keepRest first.2
      | error stop' w₁' =>
        rw [one, other] at first
        exact first.elim
    | error stop w₁ =>
      cases other : s.execute passes w' with
      | ok _ w₁' =>
        rw [one, other] at first
        exact first.elim
      | error stop' w₁' =>
        rw [one, other] at first
        obtain ⟨rfl, h₁⟩ := first
        cases stop with
        | halt halt => exact .error rfl ⟨h₁, rfl⟩
        | fault fault =>
          -- The run goes on from worlds that correspond, the fault in front of the others in both.
          exact (ih keepRest h₁).mapState fun _ _ left => ⟨left.1, congrArg (fault :: ·) left.2⟩

end

end LoxScript
