import LoxScript.Proofs.Scope.Correspondence

/-! # A scope that is not seen

A scope that declares none of the names looked up might as well not be there.
Two runs are compared here: one with such a scope among the open ones, and one without.

* **`Environment.Inserted`** — the environments before and after the scope is put in;
  they correspond for what looks up and assigns to other names (`Environment.Inserted.correspondence`).
* **`Expr.run_inserted`** — evaluation comes to the same with a scope that declares none of the names
  of the expression.
* **`Stmt.Placed.execute_inserted`** — so does execution, with a scope that declares nothing.
* **`execute_block_singleton`** — braces around a statement that declares nothing change nothing. -/

namespace LoxScript

namespace Environment

/-- `env'` has one more scope than `env`, which binds `b` and lies between the `inner` innermost scopes and
the `outer` others. -/
def Inserted (b : Bindings) (inner outer : Nat) (env env' : Environment) : Prop :=
  ∃ above below, above.length = inner ∧ below.length = outer ∧
    env = ofStack (above ++ below) ∧ env' = ofStack (above ++ b :: below)

/-- What does not get to see a scope that binds `b`: it uses other names, and declares names only
in scopes further in. -/
def outside (b : Bindings) : Access where
  sees name := name ∉ b.names
  assigns name := name ∉ b.names
  declares inner _ := inner ≠ 0

namespace Inserted

variable {b : Bindings} {inner outer : Nat} {env env' : Environment} {name : String}

/-- A scope that does not declare a name does not matter for its value. -/
theorem get_eq (h : Inserted b inner outer env env') (free : name ∉ b.names) :
    env'.get name = env.get name := by
  obtain ⟨above, below, -, -, rfl, rfl⟩ := h
  refine get_append_congr ?_ above
  have absent : b.get? name = none := by
    cases hb : b.get? name with
    | none => rfl
    | some v => exact absurd (Bindings.contains_iff_mem_names.mp (by rw [Bindings.contains, hb]; rfl)) free
  rw [get_ofStack_cons, absent]

/-- Assignment passes over a scope that does not declare the name. -/
theorem assign (h : Inserted b inner outer env env') (free : name ∉ b.names) (value : Value) :
    ChangedAlike (Inserted b inner outer) (env.assign name value) (env'.assign name value) := by
  obtain ⟨above, below, rfl, rfl, rfl, rfl⟩ := h
  have passed : ¬ b.contains name = true := fun held => free (Bindings.contains_iff_mem_names.mp held)
  rw [assign_ofStack, assign_ofStack, assigned_append, assigned_append, assigned, if_neg passed]
  cases inAbove : assigned above name value with
  | some above' => exact ⟨above', below, length_of_assigned inAbove, rfl, rfl, rfl⟩
  | none =>
    cases inBelow : assigned below name value with
    | some below' => exact ⟨above, below', rfl, length_of_assigned inBelow, rfl, rfl⟩
    | none => rfl

/-- A declaration goes to the innermost scope, so the scope put in must not be that one. -/
theorem define (h : Inserted b inner outer env env') (further : inner ≠ 0) (name : String) (value : Value) :
    ChangedAlike (Inserted b inner outer) (env.define name value) (env'.define name value) := by
  obtain ⟨above, below, rfl, hb, rfl, rfl⟩ := h
  cases above with
  | nil => exact absurd rfl further
  | cons c rest =>
    rw [List.cons_append, List.cons_append, define_ofStack_cons, define_ofStack_cons]
    by_cases held : c.contains name = true
    · rw [if_pos held, if_pos held]
      rfl
    · rw [if_neg held, if_neg held]
      exact ⟨c.set name value :: rest, below, rfl, hb, rfl, rfl⟩

/-- A scope is opened further in on both sides. -/
theorem enter (h : Inserted b inner (outer + 1) env env') :
    Inserted b (inner + 1) (outer + 1) env.enter env'.enter := by
  obtain ⟨above, below, ha, hb, rfl, rfl⟩ := h
  have some : above ++ below ≠ [] := by
    rw [← List.length_pos_iff, List.length_append, hb]
    omega
  exact ⟨[] :: above, below, congrArg Nat.succ ha, hb, enter_ofStack some, enter_ofStack (by simp)⟩

/-- A scope further in is closed on both sides. -/
theorem exit (h : Inserted b (inner + 1) (outer + 1) env env') :
    ∃ env₁ env₁', env.exit = .ok env₁ ∧ env'.exit = .ok env₁' ∧
      Inserted b inner (outer + 1) env₁ env₁' := by
  obtain ⟨above, below, ha, hb, rfl, rfl⟩ := h
  cases above with
  | nil => cases ha
  | cons c rest =>
    have some : rest ++ below ≠ [] := by
      rw [← List.length_pos_iff, List.length_append, hb]
      omega
    exact ⟨_, _, exit_ofStack c some, exit_ofStack c (by simp), rest, below, Nat.succ.inj ha, hb, rfl, rfl⟩

/-- **Environments with and without a scope correspond** for what does not get to see the scope. -/
theorem correspondence (b : Bindings) (outer : Nat) :
    Correspondence (outside b) (fun inner => Inserted b inner (outer + 1)) where
  get_eq h _ free := h.get_eq free
  assign h _ value free := h.assign free value
  define h name value further := h.define further name value
  enter h := h.enter
  exit h := h.exit

end Inserted

end Environment

open Environment (Inserted outside)

/-! ## Expressions and statements -/

/-- `w'` is `w` with one more scope. -/
structure World.Inserted (b : Bindings) (inner outer : Nat) (w w' : World) : Prop where
  printed_eq : w'.printed = w.printed
  environment : Environment.Inserted b inner outer w.environment w'.environment

/-- Worlds with and without a scope are alike, with nothing printed before. -/
theorem World.inserted_eq (b : Bindings) (inner outer : Nat) :
    World.Inserted b inner outer = World.Alike "" "" (Environment.Inserted b inner outer) := by
  funext w w'
  refine propext ⟨fun h => ⟨⟨w.printed, ?_, ?_⟩, h.environment⟩, fun h => ⟨?_, h.environment⟩⟩
  · rw [String.empty_append]
  · rw [String.empty_append, h.printed_eq]
  · obtain ⟨text, printed, printed'⟩ := h.printed
    rw [printed, printed']

variable {b : Bindings} {inner outer : Nat} {w w' : World}

/-- **A scope that declares none of the names of an expression is not seen by it.** -/
theorem Expr.run_inserted (e : Expr) (free : ∀ name ∈ e.names, name ∉ b.names)
    (h : World.Inserted b inner (outer + 1) w w') :
    Outcome.Rel Eq (World.Inserted b inner (outer + 1)) Eq (Execution.ofEvaluation e.evaluate w)
      (Execution.ofEvaluation e.evaluate w') := by
  rw [World.inserted_eq] at h ⊢
  have keeps : e.Keeps (outside b) := ⟨free, fun name mem => free name (e.targets_subset mem)⟩
  exact e.run_alike (Environment.Inserted.correspondence b outer) keeps h

/-- Every expression keeps away from an empty scope. -/
theorem Expr.keeps_outside_nil (e : Expr) : e.Keeps (outside []) :=
  ⟨fun _ _ => List.not_mem_nil, fun _ _ => List.not_mem_nil⟩

/-- A placed statement keeps away from an empty scope, as long as it does not declare something in it. -/
theorem Stmt.Placed.keeps_outside_nil {s : Stmt} (placed : s.Placed)
    (elsewhere : inner = 0 → s.declared = []) : s.Keeps (outside []) inner := by
  induction placed generalizing inner with
  | block _ ih => exact .block fun s hs => ih s hs fun zero => by cases zero
  | expression => exact .expression (Expr.keeps_outside_nil _)
  | print => exact .print (Expr.keeps_outside_nil _)
  | declare =>
    refine .declare (fun e _ => e.keeps_outside_nil) fun zero => ?_
    cases elsewhere zero
  | branch closed _ closed' _ ih ih' =>
    exact .branch (Expr.keeps_outside_nil _) (ih fun _ => closed) fun s hs => ih' s hs fun _ => closed' s hs
  | loop closed _ ih => exact .loop (Expr.keeps_outside_nil _) (ih fun _ => closed)

/-- **A scope that declares nothing is not seen by a statement**, as long as the statement does not
declare something in it. -/
theorem Stmt.Placed.execute_inserted {s : Stmt} (placed : s.Placed) (passes : Nat)
    (elsewhere : inner = 0 → s.declared = []) (h : World.Inserted [] inner (outer + 1) w w') :
    Outcome.Rel Eq (World.Inserted [] inner (outer + 1)) Eq (s.execute passes w)
      (s.execute passes w') := by
  rw [World.inserted_eq] at h ⊢
  exact (placed.keeps_outside_nil elsewhere).execute_alike (Environment.Inserted.correspondence [] outer)
    passes h

/-- Closing the inserted scope gives what there is without it. -/
theorem closeScope_of_inserted {b : Bindings} {outer : Nat} {o o' : Outcome Stop World Unit}
    (h : Outcome.Rel Eq (World.Inserted b 0 (outer + 1)) Eq o o') : Execution.closeScope o' = o := by
  -- At the end the inserted scope is on top, and closing it leaves what was below.
  have close : ∀ {w w' : World}, World.Inserted b 0 (outer + 1) w w' →
      w'.environment.exit = .ok w.environment ∧ { w' with environment := w.environment } = w := by
    rintro w w' ⟨printed, above, below, ha, hb, he, he'⟩
    obtain rfl := List.eq_nil_of_length_eq_zero ha
    cases below with
    | nil => cases hb
    | cons c rest =>
      refine ⟨?_, by rw [printed]⟩
      rw [he, he']
      exact Environment.exit_ofStack_cons b c rest
  cases o with
  | ok a w =>
    cases o' with
    | error stop' w' => exact h.elim
    | ok a' w' =>
      obtain ⟨exit, same⟩ := close h.2
      rw [Execution.closeScope, exit]
      exact congrArg (EStateM.Result.ok ()) same
  | error stop w =>
    cases o' with
    | ok a' w' => exact h.elim
    | error stop' w' =>
      obtain ⟨exit, same⟩ := close h.2
      rw [Execution.closeScope, exit, h.1]
      exact congrArg (EStateM.Result.error stop') same

/-- **Braces around a statement that declares nothing change nothing.** -/
theorem execute_block_singleton {s : Stmt} (placed : s.Placed) (closed : s.declared = [])
    (passes : Nat) {w : World} (chained : w.environment.Chained) :
    (Stmt.block [s]).execute passes w = s.execute passes w := by
  obtain ⟨c, below, eq⟩ := Environment.chained_iff_ofStack.mp chained
  have inserted : World.Inserted [] 0 (below.length + 1) w
      { w with environment := w.environment.enter } := by
    refine ⟨rfl, [], c :: below, rfl, rfl, eq, ?_⟩
    show w.environment.enter = _
    rw [eq, Environment.enter_ofStack_cons]
    rfl
  rw [execute_block, executeAll_singleton]
  exact closeScope_of_inserted (placed.execute_inserted passes (fun _ => closed) inserted)

end LoxScript
