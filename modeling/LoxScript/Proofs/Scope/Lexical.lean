import LoxScript.Proofs.Grammar.Placement
import LoxScript.Session

/-! # Lexical scoping

Names are looked up along the open scopes while a program runs; where they are found can be read off the
text.

* **`Stmt.lookups`, `Session.lookups`** — the lookups that a run makes, in order: each with the blocks
  around the occurrence, how far these have been carried out, and the environment at that moment. A run that
  notes each of its lookups notes exactly these (`Session.noting_eq`).
* **`Lookup.Tracks`** — the scopes open at a lookup are those of the blocks around the occurrence, and the
  scope of a block declares what the statements before the occurrence declare. Every lookup of a run does
  (`Stmt.Placed.lookups_track`).
* **`lookups_lexical`** — a lookup finds the name in the innermost block that declares it before the
  occurrence, or it comes to the global scope. -/

namespace LoxScript

/-! ## The lookups of a run -/

/-- A block around an occurrence, in the activation that is running. -/
structure Enclosing where
  /-- The statements of the block before the one that contains the occurrence. -/
  preceding : List Stmt
  /-- The frame that was opened for this activation. -/
  frame : Nat

/-- Whether a statement of the block before the occurrence declares a name. -/
def Enclosing.declares (b : Enclosing) (name : String) : Bool :=
  decide (name ∈ declaredIn b.preceding)

/-- A lookup during a run. -/
structure Lookup where
  /-- The name that occurs. -/
  name : Token
  /-- The value to be assigned; a reference has none. -/
  value : Option Value
  /-- The environment in which the name is looked up. -/
  environment : Environment
  /-- The blocks around the occurrence, the innermost first. -/
  blocks : List Enclosing

/-- What the occurrence comes to. -/
def Lookup.outcome (l : Lookup) : Outcome Stop Environment Value :=
  match l.value with
  | none => Evaluation.lookup l.name l.environment
  | some v =>
    Outcome.bind (Evaluation.change l.name (·.assign l.name.lexeme v) l.environment) fun _ env =>
      .ok v env

/-- What happens after a computation, if it ends. -/
def Outcome.followed {ε σ α β : Type} (o : Outcome ε σ α) (next : α → σ → List β) : List β :=
  match o with
  | .ok a s => next a s
  | .error _ _ => []

/-- The lookups made while an expression is evaluated. -/
def Expr.lookups (blocks : List Enclosing) : Expr → Environment → List Lookup
  | .literal _, _ => []
  | .grouping inner, env => inner.lookups blocks env
  | .reference name, env => [⟨name, none, env, blocks⟩]
  | .assign name value, env =>
    if name.kind = .identifier then
      value.lookups blocks env ++
        Outcome.followed (value.evaluate env) fun v env₁ => [⟨name, some v, env₁, blocks⟩]
    else []
  | .unary operator operand, env =>
    match operator.symbol with
    | .minus | .bang => operand.lookups blocks env
    | _ => []
  | .binary left _ right, env =>
    left.lookups blocks env ++
      Outcome.followed (left.evaluate env) fun _ env₁ => right.lookups blocks env₁
  | .misplaced _, _ => []

/-- The lookups made by a loop. -/
def Execution.lookupsWhile (test : Execution Bool) (body : Execution Unit)
    (atTest atBody : World → List Lookup) : Nat → World → List Lookup
  | 0, _ => []
  | n + 1, w =>
    atTest w ++ Outcome.followed (test w) fun holds w₁ =>
      if holds then
        atBody w₁ ++ Outcome.followed (body w₁) fun _ w₂ => lookupsWhile test body atTest atBody n w₂
      else []

mutual

/-- The lookups made while a statement is carried out. -/
def Stmt.lookups (passes : Nat) (blocks : List Enclosing) : Stmt → World → List Lookup
  | .block statements, w =>
    let inner := { w with environment := w.environment.enter }
    Stmt.lookupsAll passes blocks inner.environment.current [] statements inner
  | .expression e, w => e.lookups blocks w.environment
  | .print e, w => e.lookups blocks w.environment
  | .declare _ initial, w =>
    match initial with
    | none => []
    | some e => e.lookups blocks w.environment
  | .branch condition consequent alternative, w =>
    condition.lookups blocks w.environment ++ Outcome.followed (condition.test w) fun holds w₁ =>
      if holds then consequent.lookups passes blocks w₁
      else
        match alternative with
        | none => []
        | some s => s.lookups passes blocks w₁
  | .loop condition body, w =>
    Execution.lookupsWhile condition.test (body.execute passes)
      (fun w₁ => condition.lookups blocks w₁.environment) (body.lookups passes blocks) passes w
  | .misplaced _, _ => []

/-- The lookups made while the statements of a block are carried out, those in `preceding` having been
carried out before. -/
def Stmt.lookupsAll (passes : Nat) (blocks : List Enclosing) (frame : Nat) (preceding : List Stmt) :
    List Stmt → World → List Lookup
  | [], _ => []
  | s :: rest, w =>
    s.lookups passes (⟨preceding, frame⟩ :: blocks) w ++
      Outcome.followed (s.execute passes w) fun _ w₁ =>
        Stmt.lookupsAll passes blocks frame (preceding ++ [s]) rest w₁

end

/-- The lookups made by a run of a program: a statement at fault ends alone, and the run goes on. -/
def Session.lookups (passes : Nat) : List Stmt → Session → List Lookup
  | [], _ => []
  | statement :: rest, s =>
    statement.lookups passes [] s.world ++
      match s.execute passes statement with
      | (.ok _, s₁) => lookups passes rest s₁
      | (.error (.fault fault), s₁) =>
        lookups passes rest ((s₁.record (.stopped fault)).report (fault.map .runtime))
      | (.error (.halt _), _) => []

/-! ## The scopes open at a lookup -/

/-- The names declared by the scopes of blocks and by the global scope. -/
def scopesOf (blocks : List Enclosing) (globals : List String) : List (List String) :=
  blocks.map (fun b => declaredIn b.preceding) ++ [globals]

/-- The frames of blocks follow each other, the outermost behind the global one. -/
def Framed (blocks : List Enclosing) : Prop :=
  ∀ (k : Nat) (b : Enclosing), blocks[k]? = some b → b.frame + k = blocks.length

/-- The open scopes are those of the blocks around the occurrence, in the activations that are running. -/
def Lookup.Tracks (l : Lookup) : Prop :=
  Framed l.blocks ∧ ∃ globals, l.environment.Declares (scopesOf l.blocks globals)

/-- There is a scope for each block, and the global one. -/
theorem length_scopesOf (blocks : List Enclosing) (globals : List String) :
    (scopesOf blocks globals).length = blocks.length + 1 := by
  simp [scopesOf]

/-- There is always an innermost scope. -/
theorem scopesOf_exists_cons (blocks : List Enclosing) (globals : List String) :
    ∃ names outer, scopesOf blocks globals = names :: outer := by
  cases blocks with
  | nil => exact ⟨globals, [], rfl⟩
  | cons b rest => exact ⟨declaredIn b.preceding, scopesOf rest globals, rfl⟩

/-- Outside of all blocks there is nothing to follow. -/
theorem Framed.nil : Framed [] := fun k b h => by cases h

/-- A block opened inside others has the next frame. -/
theorem Framed.cons {blocks : List Enclosing} (h : Framed blocks) (preceding : List Stmt) :
    Framed (⟨preceding, blocks.length + 1⟩ :: blocks) := by
  intro k b hk
  cases k with
  | zero =>
    cases hk
    rfl
  | succ k => exact congrArg Nat.succ (h k b hk)

/-- What is noted behind an outcome is noted behind its value, if it has one. -/
theorem Outcome.mem_followed {ε σ α β : Type} {o : Outcome ε σ α} {next : α → σ → List β} {b : β} :
    b ∈ Outcome.followed o next ↔ ∃ a s, o = .ok a s ∧ b ∈ next a s := by
  cases o <;> simp [Outcome.followed]

section Tracks

variable {blocks : List Enclosing} {globals : List String}

/-- Lookups made one after another track if the first ones do, and those behind them wherever these lead. -/
theorem forall_tracks_followed {ε σ α : Type} {first : List Lookup} {o : Outcome ε σ α}
    {next : α → σ → List Lookup}
    (before : ∀ l ∈ first, l.Tracks) (behind : ∀ a s, o = .ok a s → ∀ l ∈ next a s, l.Tracks) :
    ∀ l ∈ first ++ Outcome.followed o next, l.Tracks := by
  intro l hl
  rcases List.mem_append.mp hl with hl | hl
  · exact before l hl
  · obtain ⟨a, s, ok, hl⟩ := Outcome.mem_followed.mp hl
    exact behind a s ok l hl

/-- **The lookups of an expression track the open scopes**, since evaluating it opens and closes none. -/
theorem Expr.lookups_track (framed : Framed blocks) (e : Expr) {env : Environment}
    (h : env.Declares (scopesOf blocks globals)) : ∀ l ∈ e.lookups blocks env, l.Tracks := by
  -- By induction on the expression. A part evaluated first leaves the scopes as they were, so the part
  -- after it is traced from an environment that declares the same names.
  induction e generalizing env with
  | assign name value ih =>
    rw [Expr.lookups]
    split
    · refine forall_tracks_followed (ih h) fun v env₁ hv => ?_
      have after := value.evaluate_declares h
      rw [hv] at after
      exact List.forall_mem_singleton.mpr ⟨framed, globals, after⟩
    · exact List.forall_mem_nil _
  | binary left operator right ihl ihr =>
    rw [Expr.lookups]
    refine forall_tracks_followed (ihl h) fun v env₁ hv => ?_
    have after := left.evaluate_declares h
    rw [hv] at after
    exact ihr after
  | grouping inner ih =>
    rw [Expr.lookups]
    exact ih h
  | literal v =>
    rw [Expr.lookups]
    exact List.forall_mem_nil _
  | unary operator operand ih =>
    rw [Expr.lookups]
    split
    · exact ih h
    · exact ih h
    · exact List.forall_mem_nil _
  | reference name =>
    rw [Expr.lookups]
    exact List.forall_mem_singleton.mpr ⟨framed, globals, h⟩
  | misplaced s =>
    rw [Expr.lookups]
    exact List.forall_mem_nil _

/-- A loop tracks if its condition and its body do. -/
theorem lookupsWhile_track {test : Execution Bool} {body : Execution Unit}
    {atTest atBody : World → List Lookup} {names : List String} {outer : List (List String)}
    (tested : ∀ w, w.environment.Declares (names :: outer) → Grows names [] outer (test w))
    (done : ∀ w, w.environment.Declares (names :: outer) → Grows names [] outer (body w))
    (trackTest : ∀ w, w.environment.Declares (names :: outer) → ∀ l ∈ atTest w, l.Tracks)
    (trackBody : ∀ w, w.environment.Declares (names :: outer) → ∀ l ∈ atBody w, l.Tracks)
    (n : Nat) {w : World} (h : w.environment.Declares (names :: outer)) :
    ∀ l ∈ Execution.lookupsWhile test body atTest atBody n w, l.Tracks := by
  -- By induction on the passes left: every pass begins with `names` on top, because the body adds none.
  induction n generalizing w with
  | zero => exact List.forall_mem_nil _
  | succ n ih =>
    rw [Execution.lookupsWhile]
    refine forall_tracks_followed (trackTest w h) fun holds w₁ hw₁ => ?_
    have h₁ := tested w h
    rw [hw₁, Grows, List.append_nil] at h₁
    split
    · refine forall_tracks_followed (trackBody w₁ h₁) fun _ w₂ hw₂ => ?_
      have h₂ := done w₁ h₁
      rw [hw₂, Grows, List.append_nil] at h₂
      exact ih h₂
    · exact List.forall_mem_nil _

/-- The statements of a block track if each of them does. -/
theorem lookupsAll_track {passes : Nat} (framed : Framed blocks) {ss : List Stmt}
    (placed : ∀ s ∈ ss, s.Placed)
    (atEach : ∀ s ∈ ss, ∀ {inside : List Enclosing} {w : World}, Framed inside →
      w.environment.Declares (scopesOf inside globals) → ∀ l ∈ s.lookups passes inside w, l.Tracks)
    {preceding : List Stmt} {w : World}
    (h : w.environment.Declares (declaredIn preceding :: scopesOf blocks globals)) :
    ∀ l ∈ Stmt.lookupsAll passes blocks (blocks.length + 1) preceding ss w, l.Tracks := by
  induction ss generalizing preceding w with
  | nil =>
    intro l hl
    rw [Stmt.lookupsAll] at hl
    cases hl
  | cons s rest ih =>
    rw [Stmt.lookupsAll]
    refine forall_tracks_followed (atEach s (List.mem_cons_self ..) (framed.cons preceding) h) fun _ w₁ hw₁ => ?_
    -- The statement has ended, so its name is among those of the block from here on.
    have after := (placed s (List.mem_cons_self ..)).execute_declares passes h
    have names : declaredIn (preceding ++ [s]) = declaredIn preceding ++ s.declared := by
      simp [declaredIn]
    rw [hw₁, Grows, ← names] at after
    exact ih (fun t ht => placed t (List.mem_cons_of_mem _ ht))
      (fun t ht => atEach t (List.mem_cons_of_mem _ ht)) after

/-- **The lookups of a statement track**: the scopes open at each of them are those of the
blocks around the occurrence. -/
theorem Stmt.Placed.lookups_track {s : Stmt} (placed : s.Placed) (passes : Nat)
    (framed : Framed blocks) {w : World} (h : w.environment.Declares (scopesOf blocks globals)) :
    ∀ l ∈ s.lookups passes blocks w, l.Tracks := by
  induction placed generalizing blocks w with
  | @block ss placed ih =>
    obtain ⟨names, outer, eq⟩ := scopesOf_exists_cons blocks globals
    -- The block opens one more scope, with nothing declared yet, and the new frame gets the next number.
    have inner : w.environment.enter.Declares ([] :: scopesOf blocks globals) := by
      rw [eq] at h ⊢
      exact h.enter
    have frame : w.environment.enter.current = blocks.length + 1 := by
      show w.environment.frames.size = _
      rw [h.size_eq, length_scopesOf]
    rw [Stmt.lookups]
    dsimp only
    rw [frame]
    exact lookupsAll_track framed placed (fun s hs _ _ framed hw => ih s hs framed hw) inner
  | @expression e | @print e =>
    rw [Stmt.lookups]
    exact e.lookups_track framed h
  | @declare name initial =>
    cases initial with
    | none =>
      rw [Stmt.lookups]
      exact List.forall_mem_nil _
    | some e =>
      rw [Stmt.lookups]
      exact e.lookups_track framed h
  | @branch condition consequent alternative _ _ _ _ ih ih' =>
    -- The branch that runs starts from the state its condition left, with the same names.
    have tested := condition.test_declares h
    cases alternative with
    | none =>
      rw [Stmt.lookups]
      refine forall_tracks_followed (condition.lookups_track framed h) fun holds w₁ hw₁ => ?_
      rw [hw₁] at tested
      cases holds with
      | true => exact ih framed tested
      | false => exact List.forall_mem_nil _
    | some a =>
      rw [Stmt.lookups]
      refine forall_tracks_followed (condition.lookups_track framed h) fun holds w₁ hw₁ => ?_
      rw [hw₁] at tested
      cases holds with
      | true => exact ih framed tested
      | false => exact ih' a rfl framed tested
  | @loop condition body closed placed ih =>
    obtain ⟨names, outer, eq⟩ := scopesOf_exists_cons blocks globals
    rw [Stmt.lookups]
    rw [eq] at h
    refine lookupsWhile_track (fun w₁ h₁ => .of_state (condition.test_declares h₁)) (fun w₁ h₁ => ?_)
      (fun w₁ h₁ => condition.lookups_track framed (eq ▸ h₁)) (fun w₁ h₁ => ih framed (eq ▸ h₁))
      passes h
    -- The body of a loop declares nothing of its own, so a pass ends with the names it began with.
    have pass := placed.execute_declares passes h₁
    rw [closed] at pass
    exact pass

end Tracks

/-- **The lookups of a run track**, if it starts with no scope open but the global one. A statement at fault
has closed its scopes, so the next one starts like that again. -/
theorem Session.lookups_track {passes : Nat} {ss : List Stmt} (placed : ∀ s ∈ ss, s.Placed)
    {t : Session} {globals : List String} (h : t.world.environment.Declares [globals]) :
    ∀ l ∈ t.lookups passes ss, l.Tracks := by
  induction ss generalizing t globals with
  | nil => exact fun l hl => by cases hl
  | cons s rest ih =>
    intro l hl
    have others : ∀ s ∈ rest, s.Placed := fun s hs => placed s (List.mem_cons_of_mem _ hs)
    have first : s.Placed := placed s (List.mem_cons_self ..)
    have after := first.execute_declares passes h
    rw [Session.lookups] at hl
    rcases List.mem_append.mp hl with hl | hl
    · exact first.lookups_track passes .nil h l hl
    · rw [Session.execute] at hl
      -- The statement ends, stops at a fault or halts. The first adds its name to the globals, the second
      -- restores the global scope, and after the third nothing is looked up.
      cases hs : s.execute passes t.world with
      | ok _ w =>
        rw [hs] at hl after
        have again : ({ t with world := w } : Session).world.environment.Declares
            [globals ++ s.declared] := after
        exact ih others again l hl
      | error stop w =>
        rw [hs] at hl after
        obtain ⟨left, after⟩ := after
        cases stop with
        | fault fault =>
          have again : ((({ t with world := w } : Session).record (.stopped fault)).report
              (fault.map .runtime)).world.environment.Declares [left] := after
          exact ih others again l hl
        | halt halt => cases hl

/-! ## Where names are found -/

/-- **The text decides which scope holds a name**: the innermost block that declares it before the
occurrence, or else the global scope if that declares it. -/
theorem holderIn_scopesOf (blocks : List Enclosing) (globals : List String) (name : String) :
    Environment.holderIn (scopesOf blocks globals) name =
      match blocks.findIdx? (·.declares name) with
      | some k => some (blocks.length - k)
      | none => if name ∈ globals then some 0 else none := by
  induction blocks with
  | nil => rfl
  | cons b rest ih =>
    show (if name ∈ declaredIn b.preceding then some (scopesOf rest globals).length
      else Environment.holderIn (scopesOf rest globals) name) = _
    rw [List.findIdx?_cons, Enclosing.declares]
    by_cases mem : name ∈ declaredIn b.preceding
    · rw [if_pos mem, length_scopesOf]
      simp [mem]
    · rw [if_neg mem, ih]
      simp only [mem, decide_false, Bool.false_eq_true, if_false]
      cases rest.findIdx? (·.declares name) with
      | none => rfl
      | some k => simp

/-- An occurrence whose name is held comes to a value. -/
theorem Lookup.outcome_of_held {l : Lookup} {i : Nat}
    (h : l.environment.holder? l.name.lexeme = some i) : ∃ v env, l.outcome = .ok v env := by
  obtain ⟨v, -, hv⟩ := Environment.get_of_holder? h
  rw [Lookup.outcome]
  -- A reference reads the variable, an assignment writes it where it is held.
  cases l.value with
  | none =>
    refine ⟨v, l.environment, ?_⟩
    dsimp only
    rw [lookup_run, hv]
  | some assigned =>
    refine ⟨assigned, l.environment.setAt i l.name.lexeme assigned, ?_⟩
    dsimp only
    rw [change_run, Environment.assign, h]
    rfl

/-- An occurrence whose name is not held is at fault. -/
theorem Lookup.outcome_of_not_held {l : Lookup}
    (h : l.environment.holder? l.name.lexeme = none) :
    ∃ fault, l.outcome = .error (.fault fault) l.environment ∧ fault.cause.code = "E402" := by
  let cause : RuntimeCause := .undefined l.name.lexeme l.name
  refine ⟨⟨cause, cause.span, none⟩, ?_, rfl⟩
  rw [Lookup.outcome]
  cases l.value with
  | none =>
    dsimp only
    rw [lookup_run, Environment.get_of_holder?_none h]
    rfl
  | some assigned =>
    dsimp only
    rw [change_run, Environment.assign, h]
    rfl

/-- **Lookup at run time is lexical scoping.** Consider a run of an accepted program that starts with only
the global scope open, and a lookup for an occurrence in it. If a block around the occurrence
declares the name before it, the lookup succeeds and finds the name in the frame of the running activation
of the innermost such block, as many links out as there are blocks between. If there is no such block, the
lookup comes to the global frame, and finds the name there or is at fault. -/
theorem lookups_lexical {tokens : List Token} {source : Option String} {program : List Stmt}
    (accepted : parse tokens source = .ok program) (passes : Nat) {s : Session}
    (chained : s.world.environment.Chained) (depth : s.world.environment.depth = 1) :
    ∀ l ∈ s.lookups passes program,
      match l.blocks.findIdx? (·.declares l.name.lexeme) with
      | some k =>
        ∃ b, l.blocks[k]? = some b ∧
          l.environment.holder? l.name.lexeme = some b.frame ∧
          l.environment.chain[k]? = some b.frame ∧
          ∃ v env, l.outcome = .ok v env
      | none =>
        l.environment.chain.getLast? = some 0 ∧
          ((l.environment.holder? l.name.lexeme = some 0 ∧ ∃ v env, l.outcome = .ok v env) ∨
            (l.environment.holder? l.name.lexeme = none ∧
              ∃ fault, l.outcome = .error (.fault fault) l.environment ∧
                fault.cause.code = "E402")) := by
  intro l hl
  obtain ⟨globals, outer, hd⟩ := chained.declares
  -- One link deep means that the global scope is the whole chain.
  have only : outer = [] := by
    have size := hd.size_eq
    rw [Environment.depth] at depth
    rw [depth] at size
    exact List.eq_nil_of_length_eq_zero (Nat.succ.inj size).symm
  rw [only] at hd
  obtain ⟨framed, globals, hl⟩ := Session.lookups_track (Grammar.placed_of_parse accepted) hd l hl
  -- What the environment answers depends on the names of its scopes alone, and those are the ones the
  -- text puts around the occurrence.
  have holder := (hl.holder?_eq l.name.lexeme).trans (holderIn_scopesOf l.blocks globals l.name.lexeme)
  have chain : l.environment.chain = (List.range (l.blocks.length + 1)).reverse := by
    rw [hl.chain_eq, length_scopesOf]
  cases found : l.blocks.findIdx? (·.declares l.name.lexeme) with
  | some k =>
    rw [found] at holder
    have lt : k < l.blocks.length := List.findIdx?_eq_some_iff_getElem.mp found |>.1
    have frame : l.blocks[k].frame = l.blocks.length - k := by
      have := framed k l.blocks[k] (List.getElem?_eq_getElem lt)
      omega
    refine ⟨l.blocks[k], List.getElem?_eq_getElem lt, ?_, ?_, Lookup.outcome_of_held holder⟩
    · rw [frame]
      exact holder
    · rw [chain, frame, List.getElem?_reverse (by simp; omega), List.length_range,
        List.getElem?_range (by omega)]
      congr 1
  | none =>
    rw [found] at holder
    refine ⟨by rw [chain, List.getLast?_reverse, List.head?_range]; rfl, ?_⟩
    dsimp only at holder
    split at holder
    · exact .inl ⟨holder, Lookup.outcome_of_held holder⟩
    · exact .inr ⟨holder, Lookup.outcome_of_not_held holder⟩

/-- In a run of `{ var x; { x; } }` the reference finds the variable in the frame of the outer
block, one link out. -/
theorem lookups_lexical_outer_block :
    let x : Token := ⟨.identifier, some (.text "x"), "x", default⟩
    let program := [Stmt.block [.declare x none, .block [.expression (.reference x)]]]
    ∃ l, Session.lookups 1 program {} = [l] ∧ l.environment.holder? "x" = some 1 ∧
      l.environment.chain[1]? = some 1 := by
  intro x program
  have name : Grammar.Derives.Expression [x] (.reference x) :=
    .operand (.tighter (.tighter (.tighter (.tighter (.prefixed (.primary (.name rfl)))))))
  have reference : Grammar.Derives.Statement false ([x] ++ [Grammar.bare .semicolon])
      (.expression (.reference x)) := .expression name rfl
  have inner : Grammar.Derives.Statement false
      (Grammar.bare .leftBrace :: (_ ++ [Grammar.bare .rightBrace])) _ :=
    .block rfl (.cons (.statement reference) .nil) rfl
  have declaration : Grammar.Derives.Variable
      [Grammar.bare .varWord, x, Grammar.bare .semicolon] (.declare x none) := .bare rfl rfl rfl
  have outer : Grammar.Derives.Statement false
      (Grammar.bare .leftBrace :: (_ ++ [Grammar.bare .rightBrace])) _ :=
    .block rfl (.cons (.var declaration) (.cons (.statement inner) .nil)) rfl
  have accepted := Grammar.parse_of_derives (.cons (.statement outer) .nil) none
  have only : Session.lookups 1 program {} =
      [⟨x, none, ⟨#[{}, ⟨[("x", .nil)], some 0⟩, ⟨[], some 1⟩], 2⟩,
        [⟨[], 2⟩, ⟨[.declare x none], 1⟩]⟩] := by
    with_unfolding_all rfl
  have lexical := lookups_lexical accepted 1 (s := {}) Environment.chained_initial rfl
  rw [only] at lexical ⊢
  obtain ⟨b, hb, holder, chain, -⟩ := lexical _ (List.mem_singleton.mpr rfl)
  cases hb
  exact ⟨_, rfl, holder, chain⟩

end LoxScript
