import LoxScript.Proofs.Running
import LoxScript.Session

/-! # Runs of a session

What statements do to the variables and the output does not depend on who listens to their faults, so a run
of a session is a run in its world, with the faults passed on.

* **`Stmt.runAll`** — statements carried out in a world, with the faults of those that fail.
* **`Session.interpret_eq`** — interpreting statements in a session is running them in its world and
  reporting their faults in order.
* **`Session.interpret_cons`** — the same statement by statement.
* **`Session.faults`**, **`Session.Went`** — the faults that a session has reported, and how it goes on by
  reporting more (`Session.went_behind`). -/

namespace LoxScript

/-! ## Runs in a world -/

/-- **What statements come to in a world.** The run goes on behind a statement that fails and breaks off at
one that halts; it leaves the world, and the faults of the statements that failed. -/
def Stmt.runAll (passes : Nat) : List Stmt → World → Outcome Halt (World × List (Fault RuntimeCause)) Unit
  | [], w => .ok () (w, [])
  | s :: rest, w =>
    match s.execute passes w with
    | .ok _ w₁ => runAll passes rest w₁
    | .error (.fault fault) w₁ => Outcome.mapState (Prod.map id (fault :: ·)) (runAll passes rest w₁)
    | .error (.halt halt) w₁ => .error halt (w₁, [])

/-- Statements one after another run one after another. -/
theorem Stmt.runAll_append (passes : Nat) (ss ts : List Stmt) (w : World) :
    runAll passes (ss ++ ts) w = Outcome.bind (runAll passes ss w) fun _ left =>
      Outcome.mapState (Prod.map id (left.2 ++ ·)) (runAll passes ts left.1) := by
  induction ss generalizing w with
  | nil =>
    rw [List.nil_append, runAll, Outcome.bind_ok]
    cases runAll passes ts w <;> rfl
  | cons s rest ih =>
    rw [List.cons_append, runAll, runAll]
    cases s.execute passes w with
    | ok _ w₁ => exact ih w₁
    | error stop w₁ =>
      cases stop with
      | halt halt => rfl
      | fault fault =>
        -- On both sides the fault stands in front of those of the rest and of `ts`.
        dsimp only
        rw [ih w₁]
        cases runAll passes rest w₁ with
        | error halt left => rfl
        | ok _ left => exact Outcome.mapState_mapState _ _ (runAll passes ts left.1)

/-- **A run leaves what its statements stop for**: it halts, if at all, for a reason that one of them halts
for, and its faults are theirs. -/
theorem Stmt.runAll_stops {P : Stop → Prop} {passes : Nat} {ss : List Stmt}
    (each : ∀ s ∈ ss, ∀ w, Outcome.Stops P (s.execute passes w)) (w : World) :
    Outcome.Stops (fun halt => P (.halt halt)) (runAll passes ss w) ∧
      ∀ fault ∈ (Outcome.state (runAll passes ss w)).2, P (.fault fault) := by
  induction ss generalizing w with
  | nil => exact ⟨.ok () _, fun _ mem => by cases mem⟩
  | cons s rest ih =>
    have first := each s (List.mem_cons_self ..) w
    have others := ih fun t mem => each t (List.mem_cons_of_mem _ mem)
    rw [runAll]
    cases outcome : s.execute passes w with
    | ok _ w₁ => exact others w₁
    | error stop w₁ =>
      have reason := first stop w₁ outcome
      cases stop with
      | halt halt =>
        exact ⟨.error (P := fun halt => P (.halt halt)) reason (w₁, []), fun _ mem => by cases mem⟩
      | fault fault =>
        -- The run goes on behind the statement, with its fault in front of those to come.
        obtain ⟨halts, faults⟩ := others w₁
        refine ⟨halts.mapState _, fun f mem => ?_⟩
        rw [Outcome.state_mapState] at mem
        rcases List.mem_cons.mp mem with rfl | mem
        · exact reason
        · exact faults f mem

namespace Session

/-! ## Runs of a session -/

/-- The session behind a statement that was at fault. -/
def afterFault (s : Session) (fault : Fault RuntimeCause) : Session :=
  (s.record (.stopped fault)).report (fault.map .runtime)

section Runs

variable (passes : Nat) (statement : Stmt) (rest : List Stmt) (s : Session)

/-- A run goes on behind a statement that ends or is at fault. -/
theorem interpret_cons :
    interpret passes (statement :: rest) s =
      match statement.execute passes s.world with
      | .ok _ w => interpret passes rest { s with world := w }
      | .error (.fault fault) w => interpret passes rest (afterFault { s with world := w } fault)
      | .error (.halt halt) w => .error halt { s with world := w } := by
  rw [interpret, Outcome.get_bind_run, execute]
  cases statement.execute passes s.world with
  | ok _ w => rfl
  | error stop w => cases stop <;> rfl

/-- The session in another world, behind faults that were reported in order. -/
def behind (s : Session) (left : World × List (Fault RuntimeCause)) : Session :=
  left.2.foldl afterFault { s with world := left.1 }

/-- **A run of a session is a run in its world, with the faults reported in order.** -/
theorem interpret_eq (ss : List Stmt) :
    interpret passes ss s = Outcome.mapState s.behind (Stmt.runAll passes ss s.world) := by
  induction ss generalizing s with
  | nil => rfl
  | cons statement rest ih =>
    rw [interpret_cons, Stmt.runAll]
    cases statement.execute passes s.world with
    | ok _ w => exact ih { s with world := w }
    | error stop w =>
      cases stop with
      | halt halt => rfl
      | fault fault =>
        show interpret passes rest (afterFault { s with world := w } fault) =
          Outcome.mapState s.behind (Outcome.mapState (Prod.map id (fault :: ·)) (Stmt.runAll passes rest w))
        rw [ih, Outcome.mapState_mapState]
        rfl

end Runs

/-! ## Reported faults -/

/-- The faults reported so far, the oldest first. -/
def faults (s : Session) : List (Fault Cause) :=
  s.journal.toList.filterMap fun
    | .report fault => some fault
    | .note .. => none

/-- A fault of a statement as a session reports it. -/
def shown (lines : List String) (fault : Fault RuntimeCause) : Fault Cause :=
  (fault.map Cause.runtime).quote lines

/-- **How a session goes on**: to another world, with new faults that are reported behind those from before
and received in order by every reporter. -/
structure Went (s : Session) (w : World) (new : List (Fault Cause)) (t : Session) : Prop where
  world_eq : t.world = w
  faults_eq : t.faults = s.faults ++ new
  reporters_eq : t.reporters = s.reporters.map fun r => new.foldl (fun r fault => r.receive fault) r

/-- One stretch of a run after another: the later world stands, and faults are reported in
the order of both. -/
theorem Went.trans {s t u : Session} {w w' : World} {new new' : List (Fault Cause)}
    (first : s.Went w new t) (second : t.Went w' new' u) : s.Went w' (new ++ new') u where
  world_eq := second.world_eq
  faults_eq := by rw [second.faults_eq, first.faults_eq, List.append_assoc]
  reporters_eq := by
    rw [second.reporters_eq, first.reporters_eq, List.map_map]
    refine List.map_congr_left fun r _ => ?_
    exact List.foldl_append.symm

/-- A session in another world has reported nothing new. -/
theorem went_world (s : Session) (w : World) : s.Went w [] { s with world := w } where
  world_eq := rfl
  faults_eq := (List.append_nil _).symm
  reporters_eq := (List.map_id' s.reporters).symm

/-- A note reports nothing. -/
theorem went_note (s : Session) (component : Component) (level : Level) (text : String) :
    s.Went s.world [] (s.record (.note component level text)) where
  world_eq := rfl
  faults_eq := by
    rw [faults, record, Array.toList_push, List.filterMap_append]
    rfl
  reporters_eq := (List.map_id' s.reporters).symm

/-- Notes on things report nothing, and leave the lines to be quoted as they are. -/
theorem went_noted {α : Type} {note : α → JournalEntry}
    (isNote : ∀ a, ∃ component level text, note a = .note component level text) (items : List α) (s : Session) :
    s.Went s.world [] (items.foldl (fun s a => s.record (note a)) s) ∧
      (items.foldl (fun s a => s.record (note a)) s).lines = s.lines := by
  induction items generalizing s with
  | nil => exact ⟨went_world s s.world, rfl⟩
  | cons a rest ih =>
    obtain ⟨component, level, text, entry⟩ := isNote a
    obtain ⟨others, lines⟩ := ih (s.record (note a))
    rw [entry] at others lines
    rw [List.foldl_cons, entry]
    exact ⟨(s.went_note component level text).trans others, lines⟩

/-- A fault is reported with its line quoted. -/
theorem went_report (s : Session) (fault : Fault Cause) :
    s.Went s.world [fault.quote s.lines] (s.report fault) where
  world_eq := rfl
  faults_eq := by
    rw [faults, report, record, Array.toList_push, List.filterMap_append]
    rfl
  reporters_eq := rfl

/-- Faults are reported in order. -/
theorem went_reportAll (s : Session) (fs : List (Fault Cause)) :
    s.Went s.world (fs.map (·.quote s.lines)) (s.reportAll fs) := by
  induction fs generalizing s with
  | nil => exact went_world s s.world
  | cons fault rest ih => exact (s.went_report fault).trans (ih (s.report fault))

/-- A fault of a statement is reported and leaves the world as the statement left it. -/
theorem went_afterFault (s : Session) (fault : Fault RuntimeCause) :
    s.Went s.world [shown s.lines fault] (s.afterFault fault) :=
  (s.went_note _ _ _).trans (went_report _ _)

/-- A fault of a statement comes behind those reported before. -/
theorem faults_afterFault (s : Session) (fault : Fault RuntimeCause) :
    (s.afterFault fault).faults = s.faults ++ [shown s.lines fault] :=
  (s.went_afterFault fault).faults_eq

/-- Behind a run the faults of its statements have been reported, with their lines quoted. -/
theorem went_behind (s : Session) (left : World × List (Fault RuntimeCause)) :
    s.Went left.1 (left.2.map (shown s.lines)) (s.behind left) := by
  obtain ⟨w, fs⟩ := left
  have reported : ∀ (fs : List (Fault RuntimeCause)) (t : Session),
      t.Went t.world (fs.map (shown t.lines)) (fs.foldl afterFault t) := by
    intro fs
    induction fs with
    | nil => exact fun t => went_world t t.world
    | cons fault rest ih => exact fun t => (went_afterFault t fault).trans (ih (t.afterFault fault))
  exact (went_world s w).trans (reported fs { s with world := w })

/-- **A run reports the faults of its statements** and nothing else. -/
theorem went_interpret (passes : Nat) (ss : List Stmt) (s : Session) :
    ∃ w, s.Went w ((Outcome.state (Stmt.runAll passes ss s.world)).2.map (shown s.lines))
      (Outcome.state (interpret passes ss s)) := by
  rw [interpret_eq, Outcome.state_mapState]
  exact ⟨_, s.went_behind _⟩

/-- **What a run reports** is the faults of its statements, quoted, behind those reported before. -/
theorem faults_interpret (passes : Nat) (ss : List Stmt) (s : Session) :
    (Outcome.state (interpret passes ss s)).faults =
      s.faults ++ (Outcome.state (Stmt.runAll passes ss s.world)).2.map (shown s.lines) := by
  obtain ⟨w, went⟩ := went_interpret passes ss s
  exact went.faults_eq

end Session

end LoxScript
