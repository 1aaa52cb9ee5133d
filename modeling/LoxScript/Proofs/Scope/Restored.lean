import LoxScript.Proofs.Interpreting
import LoxScript.Proofs.Scope.Names

/-! # Scopes are restored

Whatever a statement is and however it ends, the scopes open after it are those open before it. This is
so for trees made by hand too, and for environments of any shape: opening a scope puts a frame behind all
others and remembers the current one, so closing it finds the way back if only the frames and links in
between have been left alone.

* **`Environment.Grown`** — two environments that differ in values, and in names that the current scope
  has been given besides.
* **`Environment.Grown.exit`** — a scope in which things have grown can be closed, and what is left is the
  environment from before it was opened, up to values.
* **`Expr.evaluate_grown`**, **`Stmt.execute_extends`** — every evaluation and every execution keeps to
  this, along normal and faulty paths alike.
* **`execute_restores_scopes`** — the result for expressions, statements and whole runs. -/

namespace LoxScript

namespace Environment

/-- **An environment that has grown.** The current scope declares the names `added` besides those it
declared before. Values may have changed; frames, links and all other names are the same. -/
structure Grown (added : List String) (env env' : Environment) : Prop where
  depth_eq : env'.depth = env.depth
  current_eq : env'.current = env.current
  enclosing_eq : ∀ i : Nat, (env'.frames[i]?).bind (·.enclosing) = (env.frames[i]?).bind (·.enclosing)
  names_eq : ∀ i : Nat,
    (env'.bindingsAt i).names = (env.bindingsAt i).names ++ if i = env.current then added else []

/-- An environment that has grown by some names. -/
def Extends (env env' : Environment) : Prop := ∃ added, Grown added env env'

variable {env env₁ env₂ : Environment} {added more : List String}

/-- Nothing has grown in an environment left alone. -/
@[simp] theorem Grown.refl (env : Environment) : Grown [] env env where
  depth_eq := rfl
  current_eq := rfl
  enclosing_eq _ := rfl
  names_eq i := by simp

/-- What has grown twice has grown by the names of both. -/
theorem Grown.trans (first : Grown added env env₁) (second : Grown more env₁ env₂) :
    Grown (added ++ more) env env₂ where
  depth_eq := second.depth_eq.trans first.depth_eq
  current_eq := second.current_eq.trans first.current_eq
  enclosing_eq i := (second.enclosing_eq i).trans (first.enclosing_eq i)
  names_eq i := by
    rw [second.names_eq, first.names_eq, first.current_eq, List.append_assoc]
    by_cases top : i = env.current
    · rw [if_pos top, if_pos top, if_pos top]
    · rw [if_neg top, if_neg top, if_neg top, List.append_nil]

/-- An environment extends itself. -/
theorem Extends.refl (env : Environment) : Extends env env := ⟨[], .refl env⟩

/-- An environment extends what an environment that it extends does. -/
theorem Extends.trans (first : Extends env env₁) (second : Extends env₁ env₂) : Extends env env₂ := by
  obtain ⟨added, first⟩ := first
  obtain ⟨more, second⟩ := second
  exact ⟨added ++ more, first.trans second⟩

/-! ## Changing a variable -/

/-- Setting a variable of one frame changes the variables of that frame, if there is one. -/
theorem bindingsAt_setAt (env : Environment) (i : Nat) (name : String) (value : Value) (j : Nat) :
    (env.setAt i name value).bindingsAt j =
      if i = j ∧ i < env.frames.size then (env.bindingsAt j).set name value else env.bindingsAt j := by
  rw [bindingsAt, bindingsAt, frames_setAt]
  by_cases same : i = j
  · subst same
    rw [if_pos rfl]
    cases frame : env.frames[i]? with
    | none => rw [if_neg fun both => Nat.not_lt.mpr (Array.getElem?_eq_none_iff.mp frame) both.2]; rfl
    | some f => rw [if_pos ⟨rfl, (Array.getElem?_eq_some_iff.mp frame).1⟩]; rfl
  · rw [if_neg same, if_neg fun both => same both.1]

/-- Setting a variable changes neither frames nor links. -/
theorem enclosing_setAt (env : Environment) (i : Nat) (name : String) (value : Value) (j : Nat) :
    ((env.setAt i name value).frames[j]?).bind (·.enclosing) = (env.frames[j]?).bind (·.enclosing) := by
  rw [frames_setAt]
  split
  · cases env.frames[j]? <;> rfl
  · rfl

/-- Setting a name adds no frame. -/
theorem depth_setAt (env : Environment) (i : Nat) (name : String) (value : Value) :
    (env.setAt i name value).depth = env.depth :=
  Array.size_modify

/-- Assignment adds no name: it sets a variable where the name is held. -/
theorem Grown.assign {name : String} {value : Value} (ok : env.assign name value = .ok env₁) :
    Grown [] env env₁ := by
  rw [Environment.assign] at ok
  cases holder : env.holder? name with
  | none =>
    rw [holder] at ok
    cases ok
  | some i =>
    rw [holder] at ok
    cases ok
    have held : name ∈ (env.bindingsAt i).names := by
      obtain ⟨v, hv, -⟩ := get_of_holder? holder
      exact Bindings.contains_iff_mem_names.mp (Option.isSome_iff_exists.mpr ⟨v, hv⟩)
    refine ⟨depth_setAt .., rfl, enclosing_setAt env i name value, fun j => ?_⟩
    rw [bindingsAt_setAt, ite_self, List.append_nil]
    split
    · next both => rw [← both.1, Bindings.names_set, if_pos held]
    · rfl

/-- A declaration adds its name to the current scope. -/
theorem Extends.define {name : String} {value : Value} (ok : env.define name value = .ok env₁) :
    Extends env env₁ := by
  rw [Environment.define] at ok
  split at ok
  · cases ok
  · next fresh =>
    cases ok
    have absent : name ∉ (env.bindingsAt env.current).names :=
      fun mem => fresh (Bindings.contains_iff_mem_names.mpr mem)
    -- Without a current frame there is nothing to declare the name in.
    refine ⟨if env.current < env.frames.size then [name] else [],
      depth_setAt .., rfl, enclosing_setAt env env.current name value, fun j => ?_⟩
    rw [bindingsAt_setAt]
    by_cases top : j = env.current
    · subst top
      by_cases inside : env.current < env.frames.size
      · rw [if_pos ⟨rfl, inside⟩, if_pos rfl, if_pos inside, Bindings.names_set, if_neg absent]
      · rw [if_neg fun both => inside both.2, if_pos rfl, if_neg inside, List.append_nil]
    · rw [if_neg fun both => top both.1.symm, if_neg top, List.append_nil]

/-! ## Opening and closing a scope -/

/-- Opening a scope puts an empty frame behind all others. -/
theorem frames_enter (env : Environment) (i : Nat) :
    env.enter.frames[i]? =
      if i = env.frames.size then some { enclosing := some env.current } else env.frames[i]? :=
  Array.getElem?_push

/-- **A scope in which things have grown can be closed**, and leaves the environment from before it was
opened, up to values. -/
theorem Grown.exit (h : Grown added env.enter env₁) :
    ∃ env₂, env₁.exit = .ok env₂ ∧ Grown [] env env₂ := by
  have size : env₁.frames.size = env.frames.size + 1 := by
    rw [← Array.size_push]
    exact h.depth_eq
  have current : env₁.current = env.frames.size := h.current_eq
  -- Closing follows the link that opening made, and that nothing has changed since.
  have link : (env₁.frames[env₁.current]?).bind (·.enclosing) = some env.current := by
    rw [h.enclosing_eq, current, frames_enter, if_pos rfl]
    rfl
  have below : ∀ i : Nat, i ≠ env.frames.size → env₁.frames.pop[i]? = env₁.frames[i]? := by
    intro i other
    rw [Array.getElem?_pop, size]
    split
    · rfl
    · exact (Array.getElem?_eq_none (by omega)).symm
  have popped : env₁.frames.pop[env.frames.size]? = none :=
    Array.getElem?_eq_none (by rw [Array.size_pop, size]; exact Nat.le_refl _)
  have absent : env.frames[env.frames.size]? = none := Array.getElem?_eq_none (Nat.le_refl _)
  refine ⟨⟨env₁.frames.pop, env.current⟩, by rw [Environment.exit, link], ?_, rfl, fun i => ?_, fun i => ?_⟩
  · rw [depth, depth, Array.size_pop, size, Nat.add_sub_cancel]
  · by_cases top : i = env.frames.size
    · rw [top, popped, absent]
    · rw [below i top, h.enclosing_eq, frames_enter, if_neg top]
  · rw [ite_self, List.append_nil]
    by_cases top : i = env.frames.size
    · simp only [bindingsAt, top, popped, absent]
    · have names := h.names_eq i
      rw [if_neg (show ¬ i = env.enter.current from top), List.append_nil] at names
      simp only [bindingsAt, frames_enter, if_neg top] at names
      simp only [bindingsAt, below i top, names]

end Environment

open Environment

/-! ## Expressions -/

/-- **Evaluating an expression changes values only**, whatever it comes to. -/
theorem Expr.evaluate_grown (e : Expr) (env : Environment) :
    Grown [] env (Outcome.state (e.evaluate env)) :=
  e.state_evaluate (P := Grown []) Grown.refl Grown.trans Grown.assign env

/-! ## Statements -/

section Statements

/-- Evaluating in a world changes values only. -/
theorem ofEvaluation_grown (e : Expr) (w : World) :
    Grown [] w.environment (Outcome.state (Execution.ofEvaluation e.evaluate w)).environment := by
  have inner := e.evaluate_grown w.environment
  rw [ofEvaluation_run]
  cases he : e.evaluate w.environment <;> (rw [he] at inner; exact inner)

/-- Testing a condition adds no names. -/
theorem Expr.test_grown (e : Expr) (w : World) :
    Grown [] w.environment (Outcome.state (e.test w)).environment := by
  rw [test_run]
  exact Outcome.state_bind (fun w₁ : World => Grown [] w.environment w₁.environment)
    (ofEvaluation_grown e w) fun _ _ h₁ => h₁

/-- The outcome leaves an environment that has grown since `w`. -/
def Restores {α : Type} (w : World) (o : Outcome Stop World α) : Prop :=
  Extends w.environment (Outcome.state o).environment

variable {α β : Type} {w : World}

/-- Two computations one after another restore scopes if each of them does. -/
theorem Restores.bind {o : Outcome Stop World α} {next : α → World → Outcome Stop World β}
    (first : Restores w o) (second : ∀ a w₁, Restores w₁ (next a w₁)) :
    Restores w (Outcome.bind o next) :=
  Outcome.state_bind (fun w₁ : World => Extends w.environment w₁.environment) first
    fun a w₁ h₁ => h₁.trans (second a w₁)

/-- A value restores them, leaving the world alone. -/
theorem Restores.of_ok (a : α) (w : World) : Restores w (.ok a w) := Extends.refl w.environment

/-- A loop restores them if its test and its body do. -/
theorem Restores.whileTrue {test : Execution Bool} {body : Execution Unit}
    (atTest : ∀ w, Restores w (test w)) (atBody : ∀ w, Restores w (body w)) (n : Nat) (w : World) :
    Restores w (Execution.whileTrue n test body w) := by
  induction n generalizing w with
  | zero => exact Extends.refl w.environment
  | succ n ih =>
    rw [whileTrue_succ]
    refine (atTest w).bind fun holds w₁ => ?_
    cases holds with
    | true => exact (atBody w₁).bind fun _ w₂ => ih w₂
    | false => exact .of_ok () w₁

/-- Statements one after another restore them if each does. -/
theorem Restores.executeAll {passes : Nat} {ss : List Stmt} {w : World}
    (atEach : ∀ s ∈ ss, ∀ w, Restores w (s.execute passes w)) :
    Restores w (Stmt.executeAll passes ss w) := by
  induction ss generalizing w with
  | nil =>
    rw [executeAll_nil]
    exact .of_ok () w
  | cons s rest ih =>
    rw [executeAll_cons]
    exact (atEach s (List.mem_cons_self ..) w).bind fun _ w₁ =>
      ih fun t mem => atEach t (List.mem_cons_of_mem _ mem)

/-- **A scope that restores is closed again**, whatever happened in it: what is left is the world from
before, up to values and text. -/
theorem Restores.closeScope {o : Outcome Stop World Unit}
    (h : Restores { w with environment := w.environment.enter } o) :
    ∃ env, Grown [] w.environment env ∧
      Execution.closeScope o = Outcome.mapState (fun w₁ => { w₁ with environment := env }) o := by
  obtain ⟨added, h⟩ := h
  obtain ⟨env, closed, grown⟩ := h.exit
  refine ⟨env, grown, ?_⟩
  cases o with
  | ok _ w₁ =>
    have closed : w₁.environment.exit = .ok env := closed
    rw [Execution.closeScope, closed]
    rfl
  | error stop w₁ =>
    have closed : w₁.environment.exit = .ok env := closed
    rw [Execution.closeScope, closed]
    rfl

/-- **A statement at most adds names to the current scope**, whatever it is and whatever it comes to. -/
theorem Stmt.execute_extends (s : Stmt) (passes : Nat) (w : World) : Restores w (s.execute passes w) := by
  induction s generalizing w with
  | block ss ih =>
    -- What the statements add goes with the scope that they ran in.
    obtain ⟨env, grown, closed⟩ := (Restores.executeAll ih).closeScope
    rw [execute_block, Restores, closed, Outcome.state_mapState]
    exact ⟨[], grown⟩
  | expression e =>
    rw [execute_expression]
    exact Restores.bind ⟨[], ofEvaluation_grown e w⟩ fun _ w₁ => .of_ok () w₁
  | print e =>
    rw [execute_print]
    exact Restores.bind ⟨[], ofEvaluation_grown e w⟩ fun _ w₁ => Extends.refl w₁.environment
  | declare name initial =>
    have value : Restores w (Execution.ofEvaluation (initialValue initial) w) := by
      cases initial with
      | none => exact Extends.refl w.environment
      | some e => exact ⟨[], ofEvaluation_grown e w⟩
    rw [execute_declare]
    refine value.bind fun v w₁ => ?_
    have defined := state_change name (·.define name.lexeme v) Extends.refl Extends.define w₁.environment
    rw [Restores, ofEvaluation_run]
    cases hd : Evaluation.change name (·.define name.lexeme v) w₁.environment <;>
      (rw [hd] at defined; exact defined)
  | branch condition consequent alternative ih ih' =>
    rw [execute_branch]
    refine Restores.bind ⟨[], condition.test_grown w⟩ fun holds w₁ => ?_
    cases holds with
    | true => exact ih w₁
    | false =>
      cases alternative with
      | none => exact .of_ok () w₁
      | some a => exact ih' a rfl w₁
  | loop condition body ih =>
    rw [execute_loop]
    exact .whileTrue (fun w₁ => ⟨[], condition.test_grown w₁⟩) ih passes w
  | misplaced e =>
    rw [execute_misplaced]
    exact Extends.refl w.environment

/-- A block adds no names to the scope around it. -/
theorem execute_block_grown (passes : Nat) (ss : List Stmt) (w : World) :
    Grown [] w.environment (Outcome.state ((Stmt.block ss).execute passes w)).environment := by
  obtain ⟨env, grown, closed⟩ :=
    (Restores.executeAll (w := { w with environment := w.environment.enter })
      fun s _ => s.execute_extends passes).closeScope
  rw [execute_block, closed, Outcome.state_mapState]
  exact grown

/-- Neither does a `print`. -/
theorem execute_print_grown (passes : Nat) (e : Expr) (w : World) :
    Grown [] w.environment (Outcome.state ((Stmt.print e).execute passes w)).environment := by
  rw [execute_print]
  exact Outcome.state_bind (fun w₁ : World => Grown [] w.environment w₁.environment)
    (ofEvaluation_grown e w) fun _ _ h₁ => h₁

/-- Neither does an expression statement. -/
theorem execute_expression_grown (passes : Nat) (e : Expr) (w : World) :
    Grown [] w.environment (Outcome.state ((Stmt.expression e).execute passes w)).environment := by
  rw [execute_expression]
  exact Outcome.state_bind (fun w₁ : World => Grown [] w.environment w₁.environment)
    (ofEvaluation_grown e w) fun _ _ h₁ => h₁

end Statements

/-! ## Runs -/

/-- **A run at most adds names to the current scope**, however it ends. -/
theorem Session.interpret_extends (passes : Nat) (ss : List Stmt) (s : Session) :
    Extends s.world.environment
      (Outcome.state (Session.interpret passes ss s)).world.environment := by
  induction ss generalizing s with
  | nil => exact Extends.refl s.world.environment
  | cons statement rest ih =>
    have first := statement.execute_extends passes s.world
    rw [Session.interpret_cons]
    cases outcome : statement.execute passes s.world with
    | ok _ w =>
      rw [outcome] at first
      exact first.trans (ih { s with world := w })
    | error stop w =>
      rw [outcome] at first
      cases stop with
      | fault fault => exact first.trans (ih (afterFault { s with world := w } fault))
      | halt halt => exact first

/-- **Execution restores the scopes.** Whatever a statement is, whatever the environment, and whether it
ends, is at fault or halts: there are as many frames as before, the current one is the current one and all
links are as they were; the frames around the current one declare the names they declared, and the current
one has lost none. A block, a print statement or an expression statement adds none either, and an expression
adds a name to no frame. So the depth after a run is the depth before it. -/
theorem execute_restores_scopes (passes : Nat) :
    (∀ (s : Stmt) (w : World),
      Extends w.environment (Outcome.state (s.execute passes w)).environment) ∧
    (∀ (ss : List Stmt) (w : World),
      Grown [] w.environment (Outcome.state ((Stmt.block ss).execute passes w)).environment) ∧
    (∀ (e : Expr) (w : World),
      Grown [] w.environment (Outcome.state ((Stmt.print e).execute passes w)).environment ∧
      Grown [] w.environment (Outcome.state ((Stmt.expression e).execute passes w)).environment) ∧
    (∀ (e : Expr) (env : Environment), Grown [] env (Outcome.state (e.evaluate env))) ∧
    (∀ (ss : List Stmt) (extra : List Reporter) (s : Session),
      (Outcome.state (Session.interpret passes ss s)).world.environment.depth
        = s.world.environment.depth ∧
      (Outcome.state (Session.interpretWith passes ss extra s)).world.environment.depth
        = s.world.environment.depth) := by
  refine ⟨fun s w => s.execute_extends passes w, fun ss w => execute_block_grown passes ss w,
    fun e w => ⟨execute_print_grown passes e w, execute_expression_grown passes e w⟩,
    fun e env => e.evaluate_grown env, fun ss extra s => ⟨?_, ?_⟩⟩
  · obtain ⟨added, grown⟩ := Session.interpret_extends passes ss s
    exact grown.depth_eq
  · -- Further reporters do not matter for the environment.
    obtain ⟨added, grown⟩ :=
      Session.interpret_extends passes ss { s with reporters := s.reporters ++ extra }
    have depth := grown.depth_eq
    rw [Session.interpretWith]
    cases run : Session.interpret passes ss { s with reporters := s.reporters ++ extra } <;>
      (rw [run] at depth; exact depth)

end LoxScript
