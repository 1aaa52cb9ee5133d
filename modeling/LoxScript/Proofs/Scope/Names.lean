import LoxScript.Proofs.Running
import LoxScript.Proofs.Scope.Stack

/-! # The names in scope

Which names the open scopes declare decides where a name is looked up, and a run changes these names in
one way only: a declaration adds its name to the innermost scope.

* **`Environment.Declares`** — the names that the open scopes declare, innermost scope first, each scope's
  in the order of declaration.
* **`Environment.Declares.holder?_eq`** — a name is held by the innermost scope that declares it.
* **`Expr.state_evaluate`** — an expression does to an environment what assignments do, and so
  (**`Expr.evaluate_declares`**) declares nothing.
* **`Stmt.Placed.execute_declares`** — a statement that ends has declared, in the innermost scope, what it
  declares directly, and nothing in the scopes around. -/

namespace LoxScript

namespace Bindings

/-- The names of the variables, in the order of declaration. -/
def names (b : Bindings) : List String := b.map (·.1)

/-- Bindings hold a name iff it is among their names. -/
theorem contains_iff_mem_names {b : Bindings} {name : String} :
    b.contains name = true ↔ name ∈ b.names := by
  induction b with
  | nil => simp [contains, get?, names]
  | cons entry rest ih =>
    obtain ⟨n, v⟩ := entry
    rw [contains] at ih ⊢
    by_cases eq : n = name
    · simp [get?, names, eq]
    · rw [get?, if_neg eq, ih]
      simp [names, Ne.symm eq]

/-- Setting a variable adds its name unless it is there. -/
theorem names_set (b : Bindings) (name : String) (value : Value) :
    (b.set name value).names = if name ∈ b.names then b.names else b.names ++ [name] := by
  induction b with
  | nil => rfl
  | cons entry rest ih =>
    obtain ⟨n, v⟩ := entry
    by_cases eq : n = name
    · simp [set, names, eq]
    · rw [set, if_neg eq]
      show n :: (set rest name value).names = _
      rw [ih]
      by_cases mem : name ∈ names rest
      · rw [if_pos mem, if_pos (show name ∈ names ((n, v) :: rest) from List.mem_cons_of_mem _ mem)]
        rfl
      · have fresh : name ∉ names ((n, v) :: rest) := by
          simp only [names, List.map_cons, List.mem_cons, not_or]
          exact ⟨Ne.symm eq, mem⟩
        rw [if_neg mem, if_neg fresh]
        rfl

/-- Setting a name that is held changes no names. -/
theorem names_set_of_contains {b : Bindings} {name : String} (h : b.contains name = true)
    (value : Value) : (b.set name value).names = b.names := by
  rw [names_set, if_pos (contains_iff_mem_names.mp h)]

/-- Setting any other adds it behind them. -/
theorem names_set_of_not_contains {b : Bindings} {name : String} (h : ¬ b.contains name = true)
    (value : Value) : (b.set name value).names = b.names ++ [name] := by
  rw [names_set, if_neg fun mem => h (contains_iff_mem_names.mpr mem)]

end Bindings

namespace Environment

/-- The open scopes declare the names `scopes`, innermost scope first. -/
def Declares (env : Environment) (scopes : List (List String)) : Prop :=
  ∃ stack, env = ofStack stack ∧ stack.map Bindings.names = scopes

/-- The index of the innermost scope that declares a name. -/
def holderIn : List (List String) → String → Option Nat
  | [], _ => none
  | names :: outer, name => if name ∈ names then some outer.length else holderIn outer name

/-- The scope that holds a name is one of the scopes. -/
theorem holderIn_lt {scopes : List (List String)} {name : String} {i : Nat}
    (h : holderIn scopes name = some i) : i < scopes.length := by
  induction scopes with
  | nil => cases h
  | cons names outer ih =>
    rw [holderIn] at h
    split at h
    · cases h
      exact Nat.lt_succ_self _
    · exact Nat.lt_succ_of_lt (ih h)

/-- A chained environment declares names, scope by scope. -/
theorem Chained.declares {env : Environment} (h : Chained env) :
    ∃ names outer, env.Declares (names :: outer) := by
  obtain ⟨b, below, rfl⟩ := chained_iff_ofStack.mp h
  exact ⟨b.names, below.map Bindings.names, b :: below, rfl, rfl⟩

/-- Frames whose variables are known by name. -/
theorem Declares.exists_cons {env : Environment} {names : List String} {outer : List (List String)}
    (h : env.Declares (names :: outer)) :
    ∃ b below, env = ofStack (b :: below) ∧ b.names = names ∧ below.map Bindings.names = outer := by
  obtain ⟨stack, rfl, eq⟩ := h
  cases stack with
  | nil => cases eq
  | cons b below =>
    obtain ⟨hb, hbelow⟩ := List.cons.inj eq
    exact ⟨b, below, rfl, hb, hbelow⟩

/-- An environment that does is chained. -/
theorem Declares.chained {env : Environment} {names : List String} {outer : List (List String)}
    (h : env.Declares (names :: outer)) : Chained env := by
  obtain ⟨b, below, rfl, -, -⟩ := h.exists_cons
  exact chained_ofStack b below

namespace Declares

variable {env env' : Environment} {names : List String} {outer scopes : List (List String)}

/-- The innermost scope that declares a name holds it. -/
theorem holder?_eq (h : env.Declares scopes) (name : String) :
    env.holder? name = holderIn scopes name := by
  obtain ⟨stack, rfl, rfl⟩ := h
  induction stack with
  | nil => exact holder?_ofStack_nil name
  | cons b below ih =>
    rw [holder?_ofStack_cons, ih, List.map_cons, holderIn, List.length_map]
    by_cases held : b.contains name = true
    · rw [if_pos held, if_pos (Bindings.contains_iff_mem_names.mp held)]
    · rw [if_neg held, if_neg fun mem => held (Bindings.contains_iff_mem_names.mpr mem)]

/-- The chain runs through all scopes. -/
theorem chain_eq (h : env.Declares scopes) : env.chain = (List.range scopes.length).reverse := by
  obtain ⟨stack, rfl, rfl⟩ := h
  rw [chain_ofStack, List.length_map]

/-- There are as many frames as open scopes. -/
theorem size_eq (h : env.Declares scopes) : env.frames.size = scopes.length := by
  obtain ⟨stack, rfl, rfl⟩ := h
  rw [size_frames_ofStack, List.length_map]

/-- Opening a scope opens one without names. -/
theorem enter (h : env.Declares (names :: outer)) : env.enter.Declares ([] :: names :: outer) := by
  obtain ⟨b, below, rfl, rfl, rfl⟩ := h.exists_cons
  exact ⟨[] :: b :: below, enter_ofStack_cons b below, rfl⟩

/-- Closing a scope leaves the others with their names. -/
theorem exit {inner : List String} (h : env.Declares (inner :: names :: outer)) :
    ∃ env', env.exit = .ok env' ∧ env'.Declares (names :: outer) := by
  obtain ⟨b, below, rfl, -, eq⟩ := h.exists_cons
  cases below with
  | nil => cases eq
  | cons c rest => exact ⟨ofStack (c :: rest), exit_ofStack_cons b c rest, c :: rest, rfl, eq⟩

/-- A definition adds its name to the innermost scope. -/
theorem define {name : String} {value : Value} (h : env.Declares (names :: outer))
    (ok : env.define name value = .ok env') : env'.Declares ((names ++ [name]) :: outer) := by
  obtain ⟨b, below, rfl, rfl, rfl⟩ := h.exists_cons
  rw [define_ofStack_cons] at ok
  split at ok
  · cases ok
  · next fresh =>
    cases ok
    exact ⟨b.set name value :: below, rfl,
      congrArg (· :: _) (Bindings.names_set_of_not_contains fresh value)⟩

/-- An assignment adds no name. -/
theorem assign {name : String} {value : Value} (h : env.Declares scopes)
    (ok : env.assign name value = .ok env') : env'.Declares scopes := by
  obtain ⟨stack, rfl, rfl⟩ := h
  rw [assign_ofStack] at ok
  cases ha : assigned stack name value with
  | none =>
    rw [ha] at ok
    cases ok
  | some stack' =>
    rw [ha] at ok
    cases ok
    exact ⟨stack', rfl, names_of_assigned ha⟩
where
  /-- Assignment declares nothing. -/
  names_of_assigned {stack stack' : List Bindings} {name : String} {value : Value}
      (h : assigned stack name value = some stack') :
      stack'.map Bindings.names = stack.map Bindings.names := by
    induction stack generalizing stack' with
    | nil => cases h
    | cons b below ih =>
      rw [assigned] at h
      split at h
      · next held =>
        cases h
        exact congrArg (· :: _) (Bindings.names_set_of_contains held value)
      · obtain ⟨below', hb, rfl⟩ := Option.map_eq_some_iff.mp h
        exact congrArg (_ :: ·) (ih hb)

end Declares

/-- A name that is held has a value. -/
theorem get_of_holder? {env : Environment} {name : String} {i : Nat}
    (h : env.holder? name = some i) :
    ∃ v, (env.bindingsAt i).get? name = some v ∧ env.get name = .ok v := by
  have held : (env.bindingsAt i).contains name = true := by
    rw [holder?] at h
    have found := List.find?_some h
    exact found
  obtain ⟨v, hv⟩ := Option.isSome_iff_exists.mp held
  refine ⟨v, hv, ?_⟩
  rw [get, h, Option.bind_some, hv]

/-- A name that no scope holds is undefined. -/
theorem get_of_holder?_none {env : Environment} {name : String} (h : env.holder? name = none) :
    env.get name = .error (.undefined name) := by
  rw [get, h]
  rfl

end Environment

/-! ## Expressions -/

/-- What holds of the state after each of two computations holds after both. -/
theorem Outcome.state_bind {ε σ α β : Type} (P : σ → Prop) {o : Outcome ε σ α}
    {next : α → σ → Outcome ε σ β} (first : P o.state)
    (second : ∀ a s, P s → P (next a s).state) : P (Outcome.bind o next).state := by
  cases o with
  | ok a s => exact second a s first
  | error stop s => exact first

/-- A result that is settled leaves the state as it was. -/
theorem Outcome.state_settle {ε σ α : Type} (r : Except ε α) (s : σ) :
    (Outcome.settle r s).state = s := by
  cases r <;> rfl

/-- A change that a name asks for leaves an environment that is related as changes relate them, or
the one from before. -/
theorem state_change (name : Token) (f : Environment → Except ScopeFault Environment)
    {P : Environment → Environment → Prop} (refl : ∀ env, P env env)
    (ok : ∀ {env env'}, f env = .ok env' → P env env') (env : Environment) :
    P env (Outcome.state (Evaluation.change name f env)) := by
  rw [change_run]
  cases result : f env with
  | ok env' => exact ok result
  | error fault => exact refl env

/-- **An expression does to an environment what assignments do**, whatever it comes to: a relation that
holds between an environment and itself, that passes on, and that assignments keep to, holds between the
environments before and after. -/
theorem Expr.state_evaluate {P : Environment → Environment → Prop} (refl : ∀ env, P env env)
    (trans : ∀ {env env₁ env₂}, P env env₁ → P env₁ env₂ → P env env₂)
    (assign : ∀ {env env' : Environment} {name : String} {v : Value}, env.assign name v = .ok env' → P env env')
    (e : Expr) (env : Environment) : P env (Outcome.state (e.evaluate env)) := by
  -- By induction on the expression: `state_bind` passes the relation on from what is evaluated first, and an
  -- operation on values (`settle`) leaves the environment alone.
  induction e generalizing env with
  | assign name value ih =>
    rw [evaluate_assign]
    split
    · refine Outcome.state_bind (P env) (ih env) fun v env₁ h₁ => ?_
      refine Outcome.state_bind (P env) (trans h₁ ?_) fun _ _ h₂ => h₂
      exact state_change name (·.assign name.lexeme v) refl assign env₁
    · exact refl env
  | binary left operator right ihl ihr =>
    rw [evaluate_binary]
    refine Outcome.state_bind (P env) (ihl env) fun l env₁ h₁ => ?_
    refine Outcome.state_bind (P env) (trans h₁ (ihr env₁)) fun r env₂ h₂ => ?_
    rw [Outcome.state_settle]
    exact h₂
  | grouping inner ih =>
    rw [evaluate_grouping]
    exact ih env
  | literal value =>
    rw [evaluate_literal]
    exact refl env
  | unary operator operand ih =>
    rw [evaluate_unary]
    split
    · refine Outcome.state_bind (P env) (ih env) fun v env₁ h₁ => ?_
      rw [Outcome.state_settle]
      exact h₁
    · exact Outcome.state_bind (P env) (ih env) fun v env₁ h₁ => h₁
    · exact refl env
  | reference name =>
    rw [evaluate_reference, lookup_run]
    split <;> exact refl env
  | misplaced s =>
    rw [evaluate_misplaced]
    exact refl env

/-- **Evaluating an expression declares nothing.** -/
theorem Expr.evaluate_declares (e : Expr) {env : Environment} {scopes : List (List String)}
    (h : env.Declares scopes) : (Outcome.state (e.evaluate env)).Declares scopes :=
  e.state_evaluate (P := fun env env' => env.Declares scopes → env'.Declares scopes)
    (fun _ h => h) (fun first second h => second (first h)) (fun ok h => h.assign ok) env h

/-- Evaluating in a world leaves the names of all scopes as they are. -/
theorem ofEvaluation_declares (e : Expr) {w : World} {scopes : List (List String)}
    (h : w.environment.Declares scopes) :
    (Outcome.state (Execution.ofEvaluation e.evaluate w)).environment.Declares scopes := by
  have inner := e.evaluate_declares h
  rw [ofEvaluation_run]
  cases he : e.evaluate w.environment <;> (rw [he] at inner; exact inner)

/-- So does testing a condition. -/
theorem Expr.test_declares (e : Expr) {w : World} {scopes : List (List String)}
    (h : w.environment.Declares scopes) :
    (Outcome.state (e.test w)).environment.Declares scopes := by
  rw [test_run]
  exact Outcome.state_bind (fun w : World => w.environment.Declares scopes) (ofEvaluation_declares e h)
    fun _ _ h₁ => h₁

/-! ## Statements -/

/-- The names that a statement declares in the scope it is carried out in. -/
def Stmt.declared : Stmt → List String
  | .declare name _ => [name.lexeme]
  | _ => []

/-- The names that statements declare in the scope they are carried out in. -/
def declaredIn (ss : List Stmt) : List String := ss.flatMap Stmt.declared

/-- **Placed statements**: declarations stand among the statements of a block, and not as a branch or the
body of a loop; nothing is misplaced. -/
inductive Stmt.Placed : Stmt → Prop
  | block {ss : List Stmt} : (∀ s ∈ ss, Placed s) → Placed (.block ss)
  | expression {e : Expr} : Placed (.expression e)
  | print {e : Expr} : Placed (.print e)
  | declare {name : Token} {initial : Option Expr} : Placed (.declare name initial)
  | branch {condition : Expr} {consequent : Stmt} {alternative : Option Stmt} :
      consequent.declared = [] → Placed consequent →
      (∀ s ∈ alternative, s.declared = []) → (∀ s ∈ alternative, Placed s) →
      Placed (.branch condition consequent alternative)
  | loop {condition : Expr} {body : Stmt} :
      body.declared = [] → Placed body → Placed (.loop condition body)

/-- The innermost scope declared `names` before and `added` besides if the outcome is no stop; the scopes
around it declare `outer`. -/
def Grows {α : Type} (names added : List String) (outer : List (List String))
    (o : Outcome Stop World α) : Prop :=
  match o with
  | .ok _ w => w.environment.Declares ((names ++ added) :: outer)
  | .error _ w => ∃ left, w.environment.Declares (left :: outer)

section Grows

variable {α β : Type} {names added more : List String} {outer : List (List String)}

/-- What two computations add is added one behind the other. -/
theorem Grows.bind {o : Outcome Stop World α} {next : α → World → Outcome Stop World β}
    (first : Grows names added outer o)
    (second : ∀ a w, w.environment.Declares ((names ++ added) :: outer) →
      Grows (names ++ added) more outer (next a w)) :
    Grows names (added ++ more) outer (Outcome.bind o next) := by
  cases o with
  | ok a w =>
    have h := second a w first
    rw [Outcome.bind_ok]
    cases hn : next a w with
    | ok b w₁ =>
      rw [hn] at h
      rw [Grows, List.append_assoc] at *
      exact h
    | error stop w₁ =>
      rw [hn] at h
      exact h
  | error stop w => exact first

/-- Going on after something that declares nothing. -/
theorem Grows.after {o : Outcome Stop World α} {next : α → World → Outcome Stop World β}
    (first : Grows names [] outer o)
    (second : ∀ a w, w.environment.Declares (names :: outer) →
      Grows names more outer (next a w)) :
    Grows names more outer (Outcome.bind o next) := by
  rw [← List.nil_append more]
  refine first.bind fun a w h => ?_
  rw [List.append_nil] at h ⊢
  exact second a w h

/-- An outcome that declares the same as before. -/
theorem Grows.of_state {o : Outcome Stop World α}
    (h : (Outcome.state o).environment.Declares (names :: outer)) : Grows names [] outer o := by
  cases o with
  | ok a w => rw [Grows, List.append_nil]; exact h
  | error stop w => exact ⟨names, h⟩

/-- Closing a scope leaves the scope around it as it is. -/
theorem Grows.closeScope {o : Outcome Stop World Unit} (h : Grows [] added (names :: outer) o) :
    Grows names [] outer (Execution.closeScope o) := by
  cases o with
  | ok a w =>
    obtain ⟨env, he, hd⟩ := h.exit
    rw [Execution.closeScope, he]
    exact .of_state hd
  | error stop w =>
    obtain ⟨left, h⟩ := h
    obtain ⟨env, he, hd⟩ := h.exit
    rw [Execution.closeScope, he]
    exact .of_state hd

/-- A loop whose test and body add nothing adds nothing. -/
theorem Grows.whileTrue {test : Execution Bool} {body : Execution Unit}
    (atTest : ∀ w, w.environment.Declares (names :: outer) → Grows names [] outer (test w))
    (atBody : ∀ w, w.environment.Declares (names :: outer) → Grows names [] outer (body w))
    (n : Nat) {w : World} (h : w.environment.Declares (names :: outer)) :
    Grows names [] outer (Execution.whileTrue n test body w) := by
  induction n generalizing w with
  | zero => exact ⟨names, h⟩
  | succ n ih =>
    rw [whileTrue_succ]
    refine (atTest w h).after fun holds w₁ h₁ => ?_
    split
    · exact (atBody w₁ h₁).after fun _ w₂ h₂ => ih h₂
    · exact .of_state h₁

/-- Statements one after another add what each of them declares. -/
theorem Grows.executeAll {passes : Nat} {ss : List Stmt}
    (atEach : ∀ s ∈ ss, ∀ {w : World} {names : List String},
      w.environment.Declares (names :: outer) → Grows names s.declared outer (s.execute passes w))
    {w : World} (h : w.environment.Declares (names :: outer)) :
    Grows names (declaredIn ss) outer (Stmt.executeAll passes ss w) := by
  induction ss generalizing w names with
  | nil =>
    rw [executeAll_nil]
    exact .of_state h
  | cons s rest ih =>
    rw [executeAll_cons]
    exact Grows.bind (atEach s (List.mem_cons_self ..) h) fun _ w₁ h₁ =>
      ih (fun t ht => atEach t (List.mem_cons_of_mem _ ht)) h₁

end Grows

/-- Evaluating adds nothing. -/
theorem Grows.ofEvaluation {names : List String} {outer : List (List String)} (e : Expr) {w : World}
    (h : w.environment.Declares (names :: outer)) :
    Grows names [] outer (Execution.ofEvaluation e.evaluate w) :=
  .of_state (ofEvaluation_declares e h)

/-- Neither does finding the initial value of a variable. -/
theorem Grows.initialValue {names : List String} {outer : List (List String)}
    (initial : Option Expr) {w : World} (h : w.environment.Declares (names :: outer)) :
    Grows names [] outer (Execution.ofEvaluation (initialValue initial) w) := by
  cases initial with
  | none => exact .of_state h
  | some e => exact Grows.ofEvaluation e h

/-- **A statement declares what it declares directly.** If it ends, the innermost scope has got the name
of a declaration, and nothing else; the scopes around declare the same as before in any case. -/
theorem Stmt.Placed.execute_declares {s : Stmt} (placed : s.Placed) (passes : Nat) {w : World}
    {names : List String} {outer : List (List String)}
    (h : w.environment.Declares (names :: outer)) :
    Grows names s.declared outer (s.execute passes w) := by
  -- By induction on where statements may stand. The names of the innermost scope grow at a declaration only;
  -- a branch and a body are statements that declare nothing directly (`closed`).
  induction placed generalizing w names outer with
  | @block ss _ ih =>
    rw [execute_block]
    -- The scope of the block starts without names and is closed however the block ends.
    have inner : Grows [] (declaredIn ss) (names :: outer) (Stmt.executeAll passes ss
        { w with environment := w.environment.enter }) :=
      Grows.executeAll (fun s hs _ _ hw => ih s hs hw) h.enter
    exact inner.closeScope
  | @expression e =>
    rw [execute_expression]
    exact (Grows.ofEvaluation e h).after fun _ w₁ h₁ => .of_state h₁
  | @print e =>
    rw [execute_print]
    exact (Grows.ofEvaluation e h).after fun v w₁ h₁ => .of_state h₁
  | @declare name initial =>
    rw [execute_declare]
    refine (Grows.initialValue initial h).after fun v w₁ h₁ => ?_
    rw [ofEvaluation_run, change_run]
    cases hd : w₁.environment.define name.lexeme v with
    | ok env => exact h₁.define hd
    | error fault => exact ⟨names, h₁⟩
  | @branch condition consequent alternative closed _ closed' _ ih ih' =>
    rw [execute_branch]
    refine Grows.after (.of_state (condition.test_declares h)) fun holds w₁ h₁ => ?_
    cases holds with
    | true =>
      have taken := ih h₁
      rw [closed] at taken
      exact taken
    | false =>
      cases alternative with
      | none => exact .of_state h₁
      | some a =>
        have taken := ih' a rfl h₁
        rw [closed' a rfl] at taken
        exact taken
  | @loop condition body closed _ ih =>
    rw [execute_loop]
    refine Grows.whileTrue (fun w₁ h₁ => .of_state (condition.test_declares h₁)) (fun w₁ h₁ => ?_)
      passes h
    have pass := ih h₁
    rw [closed] at pass
    exact pass

/-- Statements one after another declare what each of them declares directly. -/
theorem executeAll_declares {ss : List Stmt} (placed : ∀ s ∈ ss, s.Placed) (passes : Nat) {w : World}
    {names : List String} {outer : List (List String)}
    (h : w.environment.Declares (names :: outer)) :
    Grows names (declaredIn ss) outer (Stmt.executeAll passes ss w) :=
  Grows.executeAll (fun s hs _ _ hw => (placed s hs).execute_declares passes hw) h

end LoxScript
