/-! # Outcomes

What a computation with a state comes to: a value or a reason to stop, and in both cases the state that is
left.

* **`Outcome.bind`** — go on after a value, pass a stop on; computations compose by it (`bind_run`).
* **`Outcome.state`** — the state left.
* **`Outcome.mapStop`** — the outcome with its reason to stop changed, which composition respects.
* **`Outcome.Stops`** — the outcome stops, if at all, for a reason of some sort, as composed computations do
  if their parts do (`Stops.bind`).
* **`Outcome.Rel`** — outcomes that correspond, given which reasons to stop, which values and which states
  do; composed computations correspond if their parts do (`Rel.bind`). -/

namespace LoxScript

/-- A value or a reason to stop, with the state left. -/
abbrev Outcome (ε σ α : Type) := EStateM.Result ε σ α

namespace Outcome

variable {ε σ α β γ : Type}

/-- Goes on after a value; a stop is passed on. -/
def bind (o : Outcome ε σ α) (next : α → σ → Outcome ε σ β) : Outcome ε σ β :=
  match o with
  | .ok a s => next a s
  | .error stop s => .error stop s

/-- A result that leaves the state alone. -/
def settle (result : Except ε α) (s : σ) : Outcome ε σ α :=
  match result with
  | .ok a => .ok a s
  | .error stop => .error stop s

/-- The state left. -/
def state : Outcome ε σ α → σ
  | .ok _ s => s
  | .error _ s => s

/-- The outcome with the state left changed. -/
def mapState {σ' : Type} (f : σ → σ') : Outcome ε σ α → Outcome ε σ' α
  | .ok a s => .ok a (f s)
  | .error stop s => .error stop (f s)

/-- A value is reached in the state it comes with. -/
@[simp] theorem state_ok (a : α) (s : σ) : state (.ok a s : Outcome ε σ α) = s := rfl

/-- So is a stop. -/
@[simp] theorem state_error (stop : ε) (s : σ) : state (.error stop s : Outcome ε σ α) = s := rfl

/-- Changing the state changes the state reached. -/
@[simp] theorem state_mapState {σ' : Type} (f : σ → σ') (o : Outcome ε σ α) :
    (mapState f o).state = f o.state := by
  cases o <;> rfl

/-- Two changes of the state are one. -/
theorem mapState_mapState {σ' σ'' : Type} (g : σ' → σ'') (f : σ → σ') (o : Outcome ε σ α) :
    mapState g (mapState f o) = mapState (g ∘ f) o := by
  cases o <;> rfl

/-- An outcome with its state changed is a value iff the outcome is. -/
theorem mapState_eq_ok {σ' : Type} {f : σ → σ'} {o : Outcome ε σ α} {a : α} {s : σ'} :
    mapState f o = .ok a s ↔ ∃ s', o = .ok a s' ∧ f s' = s := by
  constructor
  · intro h
    cases o with
    | ok b s' =>
      cases h
      exact ⟨s', rfl, rfl⟩
    | error stop s' => cases h
  · rintro ⟨s', rfl, rfl⟩
    rfl

/-- After a value the next computation runs. -/
@[simp] theorem bind_ok (a : α) (s : σ) (next : α → σ → Outcome ε σ β) :
    bind (.ok a s) next = next a s := rfl

/-- After a stop nothing runs. -/
@[simp] theorem bind_error (stop : ε) (s : σ) (next : α → σ → Outcome ε σ β) :
    bind (.error stop s) next = .error stop s := rfl

/-- A result that is a value leaves the state alone. -/
@[simp] theorem settle_ok (a : α) (s : σ) : settle (.ok a : Except ε α) s = .ok a s := rfl

/-- So does a result that is a stop. -/
@[simp] theorem settle_error (stop : ε) (s : σ) :
    settle (.error stop : Except ε α) s = .error stop s := rfl

/-- A composed computation succeeds iff both of its parts do. -/
theorem bind_eq_ok {o : Outcome ε σ α} {next : α → σ → Outcome ε σ β} {b : β} {s : σ} :
    bind o next = .ok b s ↔ ∃ a mid, o = .ok a mid ∧ next a mid = .ok b s := by
  cases o <;> simp [bind, and_assoc]

/-- What goes on alike behind every value goes on alike. -/
theorem bind_congr {o : Outcome ε σ α} {next next' : α → σ → Outcome ε σ β}
    (same : ∀ a s, o = .ok a s → next a s = next' a s) : bind o next = bind o next' := by
  cases o with
  | ok a s => exact same a s rfl
  | error stop s => rfl

/-- A settled result succeeds iff it is a value, with the state it was given. -/
theorem settle_eq_ok {r : Except ε α} {a : α} {s left : σ} :
    settle r s = .ok a left ↔ r = .ok a ∧ s = left := by
  cases r <;> simp [settle]

/-- Running one computation after another. -/
theorem bind_run (m : EStateM ε σ α) (next : α → EStateM ε σ β) (s : σ) :
    (m >>= next) s = bind (m s) next := by
  show EStateM.bind m next s = _
  rw [EStateM.bind]
  cases m s <;> rfl

/-- A value changes nothing. -/
@[simp] theorem pure_run (a : α) (s : σ) : (pure a : EStateM ε σ α) s = .ok a s := rfl

/-- Asking for the state hands it on. -/
theorem get_bind_run (next : σ → EStateM ε σ β) (s : σ) : (get >>= next) s = next s s := rfl

/-- Stopping changes nothing. -/
@[simp] theorem throw_run (stop : ε) (s : σ) : (throw stop : EStateM ε σ α) s = .error stop s := rfl

/-! ## Other reasons to stop -/

section MapStop

variable {ε' : Type} (f : ε → ε')

/-- The outcome with its reason to stop changed. -/
def mapStop (o : Outcome ε σ α) : Outcome ε' σ α :=
  match o with
  | .ok a s => .ok a s
  | .error stop s => .error (f stop) s

/-- Stops may be renamed part by part. -/
theorem mapStop_bind (o : Outcome ε σ α) (next : α → σ → Outcome ε σ β) :
    mapStop f (bind o next) = bind (mapStop f o) fun a s => mapStop f (next a s) := by
  cases o <;> rfl

/-- Stops of a result may be renamed before or after it is settled. -/
theorem mapStop_settle (result : Except ε α) (s : σ) :
    mapStop f (settle result s) = settle (result.mapError f) s := by
  cases result <;> rfl

end MapStop

/-! ## Reasons to stop of some sort -/

/-- The outcome stops, if at all, for a reason that `P` holds of. -/
def Stops (P : ε → Prop) (o : Outcome ε σ α) : Prop := ∀ stop s, o = .error stop s → P stop

section Stops

variable {P : ε → Prop}

/-- A value does not stop. -/
theorem Stops.ok (a : α) (s : σ) : Stops P (.ok a s : Outcome ε σ α) := fun _ _ h => nomatch h

/-- A stop has what is said of stops if it has it. -/
theorem Stops.error {stop : ε} (h : P stop) (s : σ) : Stops P (.error stop s : Outcome ε σ α) := by
  intro stop' s' e
  cases e
  exact h

/-- A composed computation stops for reasons of a sort if both of its parts do. -/
theorem Stops.bind {o : Outcome ε σ α} {next : α → σ → Outcome ε σ β} (first : Stops P o)
    (second : ∀ a s, Stops P (next a s)) : Stops P (bind o next) := by
  cases o with
  | ok a s => exact second a s
  | error stop s => exact .error (first stop s rfl) s

/-- A settled result stops as the result does. -/
theorem Stops.settle {result : Except ε α} (h : ∀ stop, result = .error stop → P stop) (s : σ) :
    Stops P (settle result s) := by
  cases result with
  | ok a => exact .ok a s
  | error stop => exact .error (h stop rfl) s

/-- Changing the state does not change how an outcome stops. -/
theorem Stops.mapState {σ' : Type} {o : Outcome ε σ α} (h : Stops P o) (f : σ → σ') :
    Stops P (mapState f o) := by
  cases o with
  | ok a s => exact .ok a (f s)
  | error stop s => exact .error (h stop s rfl) (f s)

end Stops

/-! ## Corresponding outcomes -/

/-- Two outcomes correspond if both stop or neither does, and what they come to corresponds. -/
def Rel {ε ε' σ σ' α α' : Type} (E : ε → ε' → Prop) (R : σ → σ' → Prop) (V : α → α' → Prop)
    (o : Outcome ε σ α) (o' : Outcome ε' σ' α') : Prop :=
  match o, o' with
  | .ok a s, .ok a' s' => V a a' ∧ R s s'
  | .error stop s, .error stop' s' => E stop stop' ∧ R s s'
  | _, _ => False

section Rel

variable {ε ε' σ σ' α α' β β' : Type} {E : ε → ε' → Prop} {R R' : σ → σ' → Prop}
  {V : α → α' → Prop} {V' : β → β' → Prop}

/-- Composed computations correspond if their parts do. -/
theorem Rel.bind {o : Outcome ε σ α} {o' : Outcome ε' σ' α'} {next : α → σ → Outcome ε σ β}
    {next' : α' → σ' → Outcome ε' σ' β'} (first : Rel E R V o o')
    (second : ∀ a a' s s', V a a' → R s s' → Rel E R V' (next a s) (next' a' s')) :
    Rel E R V' (bind o next) (bind o' next') := by
  cases o with
  | ok a s =>
    cases o' with
    | ok a' s' => exact second a a' s s' first.1 first.2
    | error stop' s' => exact first.elim
  | error stop s =>
    cases o' with
    | ok a' s' => exact first.elim
    | error stop' s' => exact first

/-- Related values in related states are related outcomes. -/
theorem Rel.ok {a : α} {a' : α'} {s : σ} {s' : σ'} (value : V a a') (state : R s s') :
    Rel E R V (.ok a s) (.ok a' s') := ⟨value, state⟩

/-- So are related stops. -/
theorem Rel.error {stop : ε} {stop' : ε'} {s : σ} {s' : σ'} (stops : E stop stop') (state : R s s') :
    Rel E R V (.error stop s) (.error stop' s') := ⟨stops, state⟩

/-- One result settled in related states comes to related outcomes. -/
theorem Rel.settle (result : Except ε α) {s : σ} {s' : σ'} (state : R s s') :
    Rel Eq R Eq (settle result s) (settle result s') := by
  cases result with
  | ok a => exact .ok rfl state
  | error stop => exact .error rfl state

/-- Outcomes that correspond do so with their states changed, if the changed states correspond. -/
theorem Rel.mapState {σ₁ σ₁' : Type} {S : σ₁ → σ₁' → Prop} {f : σ → σ₁} {f' : σ' → σ₁'}
    {o : Outcome ε σ α} {o' : Outcome ε' σ' α'} (h : Rel E R V o o')
    (change : ∀ s s', R s s' → S (f s) (f' s')) :
    Rel E S V (mapState f o) (mapState f' o') := by
  cases o with
  | ok a s =>
    cases o' with
    | ok a' s' => exact ⟨h.1, change s s' h.2⟩
    | error stop' s' => exact h.elim
  | error stop s =>
    cases o' with
    | ok a' s' => exact h.elim
    | error stop' s' => exact ⟨h.1, change s s' h.2⟩

/-- The states left by outcomes that correspond do. -/
theorem Rel.state {o : Outcome ε σ α} {o' : Outcome ε' σ' α'} (h : Rel E R V o o') :
    R o.state o'.state := by
  cases o with
  | ok a s =>
    cases o' with
    | ok a' s' => exact h.2
    | error stop' s' => exact h.elim
  | error stop s =>
    cases o' with
    | ok a' s' => exact h.elim
    | error stop' s' => exact h.2

end Rel

end Outcome

end LoxScript
