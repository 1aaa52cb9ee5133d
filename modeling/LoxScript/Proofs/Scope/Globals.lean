import LoxScript.Proofs.Scope.Correspondence

/-! # The globals that a program names

A program that starts with only the global scope open sees nothing of the global variables but those that it
names, and does nothing to the others.
So two sessions that agree on these run it alike, whatever else is defined in them.

* **`namesIn`, `targetsIn`, `declaredWithin`** — the names that occur in a program, those that it assigns to,
  and those that it declares in whatever scope.
* **`Bindings.KeptBy`** — globals after a run of a program as compared to those before it.
* **`GlobalsAlike`** — the globals of two runs; environments whose other scopes are the same correspond for
  what the program does with names (`GlobalsAlike.correspondence`).
* **`interpret_named_globals`** — the result. -/

namespace LoxScript

/-! ## The names in a program -/

mutual

/-- A statement with all statements within it. -/
def Stmt.parts : Stmt → List Stmt
  | .block ss => .block ss :: Stmt.partsAll ss
  | .branch condition consequent none => .branch condition consequent none :: consequent.parts
  | .branch condition consequent (some alternative) =>
    .branch condition consequent (some alternative) :: (consequent.parts ++ alternative.parts)
  | .loop condition body => .loop condition body :: body.parts
  | s => [s]

/-- Statements with all statements within them. -/
def Stmt.partsAll : List Stmt → List Stmt
  | [] => []
  | s :: rest => s.parts ++ Stmt.partsAll rest

end

/-- The expressions that a statement has besides its parts. -/
def Stmt.expressions : Stmt → List Expr
  | .expression e | .print e => [e]
  | .declare _ initial => initial.toList
  | .branch condition _ _ | .loop condition _ => [condition]
  | .block _ | .misplaced _ => []

/-- The names that a program assigns to. -/
def targetsIn (program : List Stmt) : List String :=
  (Stmt.partsAll program).flatMap fun s => s.expressions.flatMap Expr.targets

/-- The names that a program declares, in whatever scope. -/
def declaredWithin (program : List Stmt) : List String := (Stmt.partsAll program).flatMap Stmt.declared

/-- The names that occur in a program. -/
def namesIn (program : List Stmt) : List String :=
  (Stmt.partsAll program).flatMap fun s => s.declared ++ s.expressions.flatMap Expr.names

/-- What a program assigns to, it names. -/
theorem targetsIn_subset (program : List Stmt) : targetsIn program ⊆ namesIn program := by
  intro name mem
  obtain ⟨s, part, mem⟩ := List.mem_flatMap.mp mem
  obtain ⟨e, inside, mem⟩ := List.mem_flatMap.mp mem
  have named := List.mem_flatMap.mpr ⟨e, inside, e.targets_subset mem⟩
  exact List.mem_flatMap.mpr ⟨s, part, List.mem_append_right _ named⟩

/-- What a program declares, it names. -/
theorem declaredWithin_subset (program : List Stmt) : declaredWithin program ⊆ namesIn program := by
  intro name mem
  obtain ⟨s, part, mem⟩ := List.mem_flatMap.mp mem
  exact List.mem_flatMap.mpr ⟨s, part, List.mem_append_left _ mem⟩

/-- The parts of one statement are among those of all. -/
theorem parts_subset_partsAll {s : Stmt} {ss : List Stmt} (h : s ∈ ss) : s.parts ⊆ Stmt.partsAll ss := by
  induction ss with
  | nil => cases h
  | cons t rest ih =>
    rw [Stmt.partsAll]
    rcases List.mem_cons.mp h with rfl | h
    · exact List.subset_append_left _ _
    · exact List.Subset.trans (ih h) (List.subset_append_right _ _)

/-- A statement that itself does with names what it may in any scope, its parts aside. -/
structure Stmt.KeepsItself (a : Access) (s : Stmt) : Prop where
  expressions : ∀ e ∈ s.expressions, e.Keeps a
  declares : ∀ name ∈ s.declared, ∀ n, a.declares n name

/-- A statement does with names what it may if its parts do. -/
theorem Stmt.keeps_of_parts {a : Access} {s : Stmt} {n : Nat} (h : ∀ t ∈ s.parts, t.KeepsItself a) :
    s.Keeps a n := by
  -- By induction on the statement: its parts are itself and the parts of the statements in it.
  induction s generalizing n with
  | block ss ih =>
    rw [parts] at h
    exact .block fun s hs => ih s hs fun t ht => h t (List.mem_cons_of_mem _ (parts_subset_partsAll hs ht))
  | expression e =>
    exact .expression ((h _ (List.mem_singleton.mpr rfl)).expressions e (List.mem_singleton.mpr rfl))
  | print e =>
    exact .print ((h _ (List.mem_singleton.mpr rfl)).expressions e (List.mem_singleton.mpr rfl))
  | declare name initial =>
    have itself := h _ (List.mem_singleton.mpr rfl)
    exact .declare (fun e he => itself.expressions e (Option.mem_toList.mpr he))
      (itself.declares name.lexeme (List.mem_singleton.mpr rfl) n)
  | branch condition consequent alternative ih ih' =>
    cases alternative with
    | none =>
      rw [parts] at h
      exact .branch ((h _ (List.mem_cons_self ..)).expressions condition (List.mem_singleton.mpr rfl))
        (ih fun t ht => h t (List.mem_cons_of_mem _ ht)) fun s hs => nomatch hs
    | some alternative =>
      rw [parts] at h
      refine .branch ((h _ (List.mem_cons_self ..)).expressions condition (List.mem_singleton.mpr rfl))
        (ih fun t ht => h t (List.mem_cons_of_mem _ (List.mem_append_left _ ht))) fun s hs => ?_
      cases hs
      exact ih' alternative rfl fun t ht => h t (List.mem_cons_of_mem _ (List.mem_append_right _ ht))
  | loop condition body ih =>
    rw [parts] at h
    exact .loop ((h _ (List.mem_cons_self ..)).expressions condition (List.mem_singleton.mpr rfl))
      (ih fun t ht => h t (List.mem_cons_of_mem _ ht))
  | misplaced e => exact .misplaced

/-- What a program does with names. -/
def accessOf (program : List Stmt) : Access where
  sees name := name ∈ namesIn program
  assigns name := name ∈ targetsIn program
  declares _ name := name ∈ declaredWithin program

/-- The statements of a program keep to what the program does with names. -/
theorem keeps_accessOf {program : List Stmt} {s : Stmt} (h : s ∈ program) (n : Nat) :
    s.Keeps (accessOf program) n := by
  refine Stmt.keeps_of_parts fun t ht => ?_
  have part : t ∈ Stmt.partsAll program := parts_subset_partsAll h ht
  refine ⟨fun e he => ⟨fun name mem => ?_, fun name mem => ?_⟩, fun name mem _ => ?_⟩
  · have named := List.mem_flatMap.mpr ⟨e, he, mem⟩
    exact List.mem_flatMap.mpr ⟨t, part, List.mem_append_right _ named⟩
  · exact List.mem_flatMap.mpr ⟨t, part, List.mem_flatMap.mpr ⟨e, he, mem⟩⟩
  · exact List.mem_flatMap.mpr ⟨t, part, mem⟩

/-! ## Globals before and after -/

/-- **What a program leaves alone.** Of the globals `before`, those that the program does not assign to have
their values, and all are still defined; there are no new ones but those that the program declares. -/
structure Bindings.KeptBy (program : List Stmt) (before after : Bindings) : Prop where
  value : ∀ name v, before.get? name = some v → name ∉ targetsIn program → after.get? name = some v
  defined : ∀ name, before.contains name = true → after.contains name = true
  declared : ∀ name, after.contains name = true → before.contains name = true ∨ name ∈ declaredWithin program

namespace Bindings

/-- Bindings that a name is set in hold this name besides what they held. -/
theorem contains_set (b : Bindings) (name other : String) (value : Value) :
    (b.set name value).contains other = (decide (name = other) || b.contains other) := by
  rw [contains, contains, get?_set]
  by_cases same : name = other
  · rw [if_pos same, decide_eq_true same]
    rfl
  · rw [if_neg same, decide_eq_false same, Bool.false_or]

namespace KeptBy

variable {program : List Stmt} {before after : Bindings} {name : String}

/-- Bindings are kept as they are by a program that does nothing to them. -/
theorem refl (program : List Stmt) (b : Bindings) : KeptBy program b b :=
  ⟨fun _ _ h _ => h, fun _ h => h, fun _ h => .inl h⟩

/-- Assignment to a global that the program assigns to. -/
theorem assign (h : KeptBy program before after) (target : name ∈ targetsIn program)
    (held : after.contains name = true) (value : Value) : KeptBy program before (after.set name value) where
  value other v was free := by
    have different : name ≠ other := fun same => free (same ▸ target)
    rw [get?_set, if_neg different]
    exact h.value other v was free
  defined other was := by
    rw [contains_set, h.defined other was, Bool.or_true]
  declared other now := by
    rw [contains_set, Bool.or_eq_true, decide_eq_true_iff] at now
    rcases now with rfl | now
    · -- Assignment defines nothing.
      exact h.declared _ held
    · exact h.declared other now

/-- Declaration of a global that the program declares and that is not defined. -/
theorem define (h : KeptBy program before after) (declares : name ∈ declaredWithin program)
    (free : ¬ after.contains name = true) (value : Value) : KeptBy program before (after.set name value) where
  value other v was unassigned := by
    -- What had a value has one now, so it is not what is being declared.
    have now := h.value other v was unassigned
    have different : name ≠ other := by
      rintro rfl
      exact free (by rw [contains, now]; rfl)
    rw [get?_set, if_neg different]
    exact now
  defined other was := by
    rw [contains_set, h.defined other was, Bool.or_true]
  declared other now := by
    rw [contains_set, Bool.or_eq_true, decide_eq_true_iff] at now
    rcases now with rfl | now
    · exact .inr declares
    · exact h.declared other now

end KeptBy

end Bindings

/-! ## The globals of two runs -/

/-- The globals of two runs of a program, which began with `g₀` and `g₀'`. -/
structure GlobalsAlike (program : List Stmt) (g₀ g₀' g g' : Bindings) : Prop where
  agree : ∀ name ∈ namesIn program, g'.get? name = g.get? name
  kept : g₀.KeptBy program g
  kept' : g₀'.KeptBy program g'

/-- Environments of two runs so many scopes further in: the scopes around are the same, and
the globals are alike. -/
def RunAlike (program : List Stmt) (g₀ g₀' : Bindings) (inner : Nat) (env env' : Environment) : Prop :=
  ∃ above g g', above.length = inner ∧ env = Environment.ofStack (above ++ [g]) ∧
    env' = Environment.ofStack (above ++ [g']) ∧ GlobalsAlike program g₀ g₀' g g'

section

variable {program : List Stmt} {g₀ g₀' g g' : Bindings} {name : String}

namespace GlobalsAlike

/-- A name of the program is held by both or by neither. -/
theorem contains_eq (h : GlobalsAlike program g₀ g₀' g g') (named : name ∈ namesIn program) :
    g'.contains name = g.contains name := by
  rw [Bindings.contains, Bindings.contains, h.agree name named]

/-- It has the same value in both. -/
theorem get_eq (h : GlobalsAlike program g₀ g₀' g g') (named : name ∈ namesIn program) :
    (Environment.ofStack [g']).get name = (Environment.ofStack [g]).get name := by
  rw [Environment.get_ofStack_cons, Environment.get_ofStack_cons, h.agree name named]

/-- Setting the same variable keeps globals in agreement. -/
theorem agree_set (h : GlobalsAlike program g₀ g₀' g g') (value : Value) :
    ∀ other ∈ namesIn program, (g'.set name value).get? other = (g.set name value).get? other := by
  intro other named
  rw [Bindings.get?_set, Bindings.get?_set, h.agree other named]

/-- Assigning to a name of the program keeps globals alike. -/
theorem assign (h : GlobalsAlike program g₀ g₀' g g') (target : name ∈ targetsIn program)
    (held : g.contains name = true) (value : Value) :
    GlobalsAlike program g₀ g₀' (g.set name value) (g'.set name value) where
  agree := h.agree_set value
  kept := h.kept.assign target held value
  kept' := h.kept'.assign target ((h.contains_eq (targetsIn_subset program target)).trans held) value

/-- So does defining one. -/
theorem define (h : GlobalsAlike program g₀ g₀' g g') (declares : name ∈ declaredWithin program)
    (free : ¬ g.contains name = true) (value : Value) :
    GlobalsAlike program g₀ g₀' (g.set name value) (g'.set name value) where
  agree := h.agree_set value
  kept := h.kept.define declares free value
  kept' := by
    refine h.kept'.define declares ?_ value
    rwa [h.contains_eq (declaredWithin_subset program declares)]

end GlobalsAlike

namespace RunAlike

open Environment (ChangedAlike)

variable {inner : Nat} {env env' : Environment}

/-- A name of the program has the same value in both environments. -/
theorem get_eq (h : RunAlike program g₀ g₀' inner env env') (named : name ∈ namesIn program) :
    env'.get name = env.get name := by
  obtain ⟨above, g, g', -, rfl, rfl, alike⟩ := h
  exact Environment.get_append_congr (alike.get_eq named) above

/-- An assignment changes both environments alike, or fails in both. -/
theorem assign (h : RunAlike program g₀ g₀' inner env env') (target : name ∈ targetsIn program)
    (value : Value) :
    ChangedAlike (RunAlike program g₀ g₀' inner) (env.assign name value) (env'.assign name value) := by
  obtain ⟨above, g, g', rfl, rfl, rfl, alike⟩ := h
  have same := alike.contains_eq (targetsIn_subset program target)
  rw [Environment.assign_ofStack, Environment.assign_ofStack, Environment.assigned_append,
    Environment.assigned_append]
  cases inAbove : Environment.assigned above name value with
  | some above' => exact ⟨above', g, g', Environment.length_of_assigned inAbove, rfl, rfl, alike⟩
  | none =>
    -- No inner scope holds the name, so that the globals decide, which agree on it.
    simp only [Environment.assigned, same]
    by_cases held : g.contains name = true
    · simp only [if_pos held]
      exact ⟨above, _, _, rfl, rfl, rfl, alike.assign target held value⟩
    · simp only [if_neg held]
      rfl

/-- So does a definition. -/
theorem define (h : RunAlike program g₀ g₀' inner env env') (declares : name ∈ declaredWithin program)
    (value : Value) :
    ChangedAlike (RunAlike program g₀ g₀' inner) (env.define name value) (env'.define name value) := by
  obtain ⟨above, g, g', rfl, rfl, rfl, alike⟩ := h
  cases above with
  | nil =>
    -- The global scope is the innermost one, and declares the name in both or in neither.
    rw [List.nil_append, List.nil_append, Environment.define_ofStack_cons, Environment.define_ofStack_cons,
      alike.contains_eq (declaredWithin_subset program declares)]
    by_cases held : g.contains name = true
    · rw [if_pos held, if_pos held]
      rfl
    · rw [if_neg held, if_neg held]
      exact ⟨[], _, _, rfl, rfl, rfl, alike.define declares held value⟩
  | cons b rest =>
    -- The innermost scope is the same in both, whatever the globals are.
    rw [List.cons_append, List.cons_append, Environment.define_ofStack_cons,
      Environment.define_ofStack_cons]
    by_cases held : b.contains name = true
    · rw [if_pos held, if_pos held]
      rfl
    · rw [if_neg held, if_neg held]
      exact ⟨b.set name value :: rest, g, g', rfl, rfl, rfl, alike⟩

/-- Environments that are alike are so with a scope opened in each. -/
theorem enter (h : RunAlike program g₀ g₀' inner env env') :
    RunAlike program g₀ g₀' (inner + 1) env.enter env'.enter := by
  obtain ⟨above, g, g', length, rfl, rfl, alike⟩ := h
  exact ⟨[] :: above, g, g', congrArg Nat.succ length, Environment.enter_ofStack (by simp),
    Environment.enter_ofStack (by simp), alike⟩

/-- They are so with a scope closed in each, if one has been opened. -/
theorem exit (h : RunAlike program g₀ g₀' (inner + 1) env env') :
    ∃ env₁ env₁', env.exit = .ok env₁ ∧ env'.exit = .ok env₁' ∧
      RunAlike program g₀ g₀' inner env₁ env₁' := by
  obtain ⟨above, g, g', length, rfl, rfl, alike⟩ := h
  cases above with
  | nil => cases length
  | cons b rest =>
    exact ⟨_, _, Environment.exit_ofStack b (by simp), Environment.exit_ofStack b (by simp),
      rest, g, g', Nat.succ.inj length, rfl, rfl, alike⟩

/-- **Environments whose globals are alike correspond** for what the program does with names. -/
theorem correspondence (program : List Stmt) (g₀ g₀' : Bindings) :
    Environment.Correspondence (accessOf program) (RunAlike program g₀ g₀') where
  get_eq h _ named := h.get_eq named
  assign h _ value target := h.assign target value
  define h _ value declares := h.define declares value
  enter h := h.enter
  exit h := h.exit

/-- Where only the global scope is open, the globals are all there is. -/
theorem globals (h : RunAlike program g₀ g₀' inner env env') :
    GlobalsAlike program g₀ g₀' env.globals env'.globals := by
  obtain ⟨above, g, g', -, rfl, rfl, alike⟩ := h
  rw [Environment.globals_ofStack_append, Environment.globals_ofStack_append]
  exact alike

end RunAlike

end

/-- An environment in which only the global scope is open. -/
theorem Environment.Chained.eq_globals {env : Environment} (chained : env.Chained) (depth : env.depth = 1) :
    env = Environment.ofStack [env.globals] := by
  obtain ⟨b, below, rfl⟩ := Environment.chained_iff_ofStack.mp chained
  have length : (b :: below).length = 1 := by rwa [Environment.depth, Environment.size_frames_ofStack] at depth
  obtain rfl : below = [] := List.eq_nil_of_length_eq_zero (Nat.succ.inj length)
  rfl

/-! ## Runs of sessions -/

/-- What is wrong and where: the cause of a fault, with its code and message, and its place. -/
def Fault.core (fault : Fault Cause) : Cause × Span := (fault.cause, fault.span)

/-- **Two sessions that have run a program alike**, from `s` to `t` and from `s'` to `t'`. -/
structure Session.RanAlike (program : List Stmt) (s s' t t' : Session) : Prop where
  /-- The same text has been printed. -/
  printed : ∃ text, t.world.printed = s.world.printed ++ text ∧ t'.world.printed = s'.world.printed ++ text
  /-- The same faults have been reported, though the sessions may quote different lines for them. -/
  reported : ∃ new new', s.Went t.world new t ∧ s'.Went t'.world new' t' ∧
    new.map Fault.core = new'.map Fault.core
  /-- The globals that the program names agree. -/
  agree : ∀ name ∈ namesIn program,
    t'.world.environment.globals.get? name = t.world.environment.globals.get? name
  /-- The first session has kept the globals that the program leaves alone. -/
  kept : s.world.environment.globals.KeptBy program t.world.environment.globals
  /-- So has the second. -/
  kept' : s'.world.environment.globals.KeptBy program t'.world.environment.globals

/-- The same faults of statements are shown alike. -/
theorem map_core_shown (lines lines' : List String) (faults : List (Fault RuntimeCause)) :
    (faults.map (Session.shown lines)).map Fault.core = (faults.map (Session.shown lines')).map Fault.core := by
  rw [List.map_map, List.map_map]
  refine List.map_congr_left fun fault _ => ?_
  simp only [Function.comp_apply, Fault.core, Session.shown, Fault.cause_quote, Fault.span_quote]

/-- **A program sees and touches only the globals that it names.** Two sessions in which only the global scope
is open, and whose globals agree on the names in a program, run it alike, however many passes loops are given:
both end or both halt for the same reason, with the same text printed and the same faults reported, and the
globals still agree on these names. In each of them the globals that the program does not assign to keep their
values, all globals are still defined, and there are no new ones but those that the program declares. This is
so however the statements end. -/
theorem interpret_named_globals (program : List Stmt) (passes : Nat) {s s' : Session}
    (chained : s.world.environment.Chained) (depth : s.world.environment.depth = 1)
    (chained' : s'.world.environment.Chained) (depth' : s'.world.environment.depth = 1)
    (agree : ∀ name ∈ namesIn program,
      s'.world.environment.globals.get? name = s.world.environment.globals.get? name) :
    Outcome.Rel Eq (Session.RanAlike program s s') Eq (Session.interpret passes program s)
      (Session.interpret passes program s') := by
  have start : RunAlike program s.world.environment.globals s'.world.environment.globals 0
      s.world.environment s'.world.environment :=
    ⟨[], _, _, rfl, chained.eq_globals depth, chained'.eq_globals depth', agree, .refl _ _, .refl _ _⟩
  have worlds : World.Alike s.world.printed s'.world.printed
      (RunAlike program s.world.environment.globals s'.world.environment.globals 0) s.world s'.world :=
    ⟨⟨"", String.append_empty.symm, String.append_empty.symm⟩, start⟩
  have run := Stmt.runAll_alike (RunAlike.correspondence program _ _)
    (fun t ht => keeps_accessOf ht 0) passes worlds
  -- The sessions report the faults of the runs, which are the same.
  rw [Session.interpret_eq, Session.interpret_eq]
  refine run.mapState ?_
  rintro ⟨w, faults⟩ ⟨w', _⟩ ⟨alike, rfl⟩
  have went := s.went_behind (w, faults)
  have went' := s'.went_behind (w', faults)
  have globals := alike.environment.globals
  refine ⟨?_, ⟨_, _, ?_, ?_, map_core_shown s.lines s'.lines faults⟩, ?_, ?_, ?_⟩
  · rw [went.world_eq, went'.world_eq]
    exact alike.printed
  · rw [went.world_eq]
    exact went
  · rw [went'.world_eq]
    exact went'
  · rw [went.world_eq, went'.world_eq]
    exact globals.agree
  · rw [went.world_eq]
    exact globals.kept
  · rw [went'.world_eq]
    exact globals.kept'

/-- `print x; x = true;` is run alike where `y` is defined besides `x` and where it is not. -/
theorem interpret_named_globals_other_global :
    let x : Token := ⟨.identifier, some (.text "x"), "x", default⟩
    let program := [Stmt.print (.reference x), .expression (.assign x (.literal (.boolean true)))]
    let s : Session := { world := ⟨⟨#[⟨[("x", .nil), ("y", .nil)], none⟩], 0⟩, ""⟩ }
    let s' : Session := { world := ⟨⟨#[⟨[("x", .nil)], none⟩], 0⟩, "before\n"⟩ }
    s'.world.environment.contains "y" ≠ s.world.environment.contains "y" ∧
      Outcome.Rel Eq (Session.RanAlike program s s') Eq (Session.interpret 0 program s)
        (Session.interpret 0 program s') := by
  intro x program s s'
  have agree : ∀ name ∈ namesIn program,
      s'.world.environment.globals.get? name = s.world.environment.globals.get? name := by
    intro name mem
    have only : namesIn program = ["x", "x"] := by cbv
    obtain rfl : name = "x" := by simpa [only] using mem
    rfl
  refine ⟨by cbv; decide, interpret_named_globals program 0 ?_ rfl ?_ rfl agree⟩
  · exact Environment.chained_ofStack [("x", .nil), ("y", .nil)] []
  · exact Environment.chained_ofStack [("x", .nil)] []

end LoxScript
