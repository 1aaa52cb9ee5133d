import LoxScript.Environment.Script
import LoxScript.Proofs.Scope.Stack
import Mathlib.Data.List.Forall2

/-! # Environments as stacks of maps

An environment finds its variables along the links between its frames, but closes whatever frame lies last.
A stack of maps from names to values knows no links: what is looked up is in the uppermost map that holds the
name, and what is closed is the map on top.
Scripts come to the same on both, however they open and close scopes inside one another.

* **`MapStack`**, **`MapState`**, **`ScopeAction.runOnMaps`** — stacks of maps, and scripts run on them.
* **`ScopeState.Agrees`** — an environment and a stack with the same variables;
  kept by every operation (`ScopeAction.run_inStep`).
* **`ScopeState.BodyRuns`**, **`ScopeState.ScopeRuns`** — how a nested script runs and its scope is closed.
* **`ScopeState.Reached`** — the moments of a run, also those inside nested scripts.
* **`scripts_refine_maps`** — the result. -/

namespace LoxScript

open Environment (ofStack assigned)

/-! ## Stacks of maps -/

/-- A stack of maps from names to values. There is always a map on it. -/
structure MapStack where
  /-- The map on top. -/
  top : Bindings := []
  /-- The maps below it, downward. -/
  below : List Bindings := []

namespace MapStack

/-- The maps from the top down. -/
def maps (m : MapStack) : List Bindings := m.top :: m.below

/-- The number of maps. -/
def height (m : MapStack) : Nat := m.maps.length

/-- Adds a name to the map on top. -/
def define (m : MapStack) (name : String) (value : Value) : Except ScopeFault MapStack :=
  if m.top.contains name then .error (.alreadyDefined name)
  else .ok { m with top := m.top.set name value }

/-- Changes the value of a name in the uppermost map that holds it. -/
def assign (m : MapStack) (name : String) (value : Value) : Except ScopeFault MapStack :=
  if m.top.contains name then .ok { m with top := m.top.set name value }
  else match assigned m.below name value with
    | some below => .ok { m with below }
    | none => .error (.undefined name)

/-- The value of a name in the uppermost map that holds it. -/
def get (m : MapStack) (name : String) : Except ScopeFault Value :=
  match m.maps.findSome? (·.get? name) with
  | some value => .ok value
  | none => .error (.undefined name)

/-- Whether some map holds a name. -/
def contains (m : MapStack) (name : String) : Bool := m.maps.any (·.contains name)

/-- Puts an empty map on top. -/
def push (m : MapStack) : MapStack := ⟨[], m.maps⟩

/-- Takes the map on top away, unless it is the only one. -/
def pop (m : MapStack) : Except ScopeFault MapStack :=
  match m.below with
  | [] => .error .globalExit
  | b :: rest => .ok ⟨b, rest⟩

/-- The only map cannot be taken away, and any other can. -/
theorem pop_cases (m : MapStack) :
    (m.height ≠ 1 ∧ ∃ m', m.pop = .ok m') ∨ m.height = 1 ∧ m.pop = .error .globalExit := by
  obtain ⟨top, below⟩ := m
  cases below with
  | nil => exact .inr ⟨rfl, rfl⟩
  | cons b rest => exact .inl ⟨fun one => (Nat.succ_ne_zero _ (Nat.succ.inj one)), _, rfl⟩

/-! ### Their environments -/

/-- The environment with the maps of a stack in its frames. -/
def toEnvironment (m : MapStack) : Environment := ofStack m.maps

variable (m : MapStack) (name : String) (value : Value)

/-- The environment of a stack of maps is chained. -/
theorem chained_toEnvironment : m.toEnvironment.Chained := Environment.chained_ofStack m.top m.below

/-- It has a frame for each map. -/
theorem depth_toEnvironment : m.toEnvironment.depth = m.height :=
  Environment.size_frames_ofStack m.maps

/-- Defining a name is adding it to the map on top. -/
theorem define_toEnvironment :
    m.toEnvironment.define name value = (m.define name value).map toEnvironment := by
  rw [toEnvironment, maps, Environment.define_ofStack_cons, define]
  by_cases held : m.top.contains name = true
  · rw [if_pos held, if_pos held]
    rfl
  · rw [if_neg held, if_neg held]
    rfl

/-- Assigning to a name is changing it in the uppermost map that holds it. -/
theorem assign_toEnvironment :
    m.toEnvironment.assign name value = (m.assign name value).map toEnvironment := by
  rw [toEnvironment, maps, Environment.assign_ofStack, assigned, assign]
  by_cases held : m.top.contains name = true
  · rw [if_pos held, if_pos held]
    rfl
  · rw [if_neg held, if_neg held]
    cases assigned m.below name value <;> rfl

/-- Looking a name up is looking it up in the stack. -/
theorem get_toEnvironment : m.toEnvironment.get name = m.get name := by
  rw [toEnvironment, get]
  induction m.maps with
  | nil => exact Environment.get_ofStack_nil name
  | cons b below ih =>
    rw [Environment.get_ofStack_cons, List.findSome?_cons, ih]
    cases b.get? name <;> rfl

/-- A name is held by the one iff it is held by the other. -/
theorem contains_toEnvironment : m.toEnvironment.contains name = m.contains name := by
  rw [toEnvironment, contains, Environment.contains]
  induction m.maps with
  | nil => rw [Environment.holder?_ofStack_nil]; rfl
  | cons b below ih =>
    rw [Environment.holder?_ofStack_cons, List.any_cons, ← ih]
    cases b.contains name <;> rfl

/-- Opening a scope is putting a map on top. -/
theorem enter_toEnvironment : m.toEnvironment.enter = m.push.toEnvironment :=
  Environment.enter_ofStack_cons m.top m.below

/-- Closing a scope is taking the map on top off. -/
theorem exit_toEnvironment : m.toEnvironment.exit = m.pop.map toEnvironment := by
  obtain ⟨top, below⟩ := m
  cases below with
  | nil => rfl
  | cons b rest => exact Environment.exit_ofStack_cons top b rest

/-- The frame at an index holds the map that lies above as many others. -/
theorem bindings_frames_toEnvironment (i : Nat) :
    m.toEnvironment.frames[i]?.map (·.bindings) = m.maps.reverse[i]? := by
  rw [toEnvironment]
  induction m.maps with
  | nil => rfl
  | cons b below ih =>
    rw [Environment.frames_ofStack_cons, List.reverse_cons]
    rcases Nat.lt_trichotomy i below.length with lt | eq | gt
    · rw [if_neg (Nat.ne_of_lt lt), ih, List.getElem?_append_left (by simpa using lt)]
    · -- The innermost frame is the last one, and the uppermost map lies above all others.
      rw [if_pos eq, eq, List.getElem?_append_right (by simp)]
      simp
    · rw [if_neg (Nat.ne_of_gt gt), ih, List.getElem?_eq_none (by simp; omega),
        List.getElem?_eq_none (by simp; omega)]

end MapStack

/-! ## Scripts on stacks of maps -/

/-- The map of a nested script's scope, as the script goes on seeing it. -/
inductive ScopeMap where
  /-- It lies on the stack above so many others. -/
  | onStack (level : Nat)
  /-- It was taken off the stack when it held these variables. -/
  | takenOff (bindings : Bindings)

namespace ScopeMap

/-- The variables of the map. -/
def bindings (m : MapStack) : ScopeMap → Bindings
  | onStack level => (m.maps.reverse[level]?).getD []
  | takenOff bindings => bindings

/-- The map after the one above `level` others was taken off the stack. -/
def without (level : Nat) (top : Bindings) : ScopeMap → ScopeMap
  | onStack l => if l = level then takenOff top else onStack l
  | takenOff bindings => takenOff bindings

end ScopeMap

/-- A stack of maps with the maps of the scopes that are being run on it. -/
structure MapState where
  /-- The stack. -/
  stack : MapStack := {}
  /-- The maps of the open nested scripts, the innermost first. -/
  scopes : List ScopeMap := []

namespace MapState

/-- The state with another stack, on which the same scopes are open. -/
def withStack (s : MapState) (stack : MapStack) : MapState := { s with stack }

/-- The state without the map on top. -/
def pop (s : MapState) : Except ScopeFault MapState :=
  s.stack.pop.map fun stack => ⟨stack, s.scopes.map (·.without stack.height s.stack.top)⟩

/-- The state and the result of an operation that may fail. -/
def attempt (s : MapState) (outcome : Except ScopeFault MapState) : ScopeResult × MapState :=
  match outcome with
  | .ok t => (.done, t)
  | .error f => (.fault f, s)

/-- The state in the scope of a nested script. -/
def openScope (s : MapState) : MapState where
  stack := s.stack.push
  scopes := .onStack s.stack.height :: s.scopes

/-- Pops once at the end of a nested script. Failing to do so replaces the failure of the script. -/
def closeScope (s : MapState) (raised : Option ScopeFault) : Option ScopeFault × MapState :=
  let s := { s with scopes := s.scopes.drop 1 }
  match s.pop with
  | .ok t => (raised, t)
  | .error f => (some f, s)

/-- The result of a nested script, given how its operations ended, and the state behind its scope. -/
def endScope (inner : List (ScopeResult × Nat)) (failure : Option ScopeFault) (s : MapState) :
    ScopeResult × MapState :=
  let own := if failure.isNone then
    s.scopes.head?.map fun map => (map.bindings s.stack, s.stack.height) else none
  let (raised, t) := s.closeScope failure
  (.scope inner own raised, t)

end MapState

mutual

/-- Runs one operation on a stack of maps. -/
def ScopeAction.runOnMaps : ScopeAction → MapState → ScopeResult × MapState
  | .define name value, s => s.attempt ((s.stack.define name value).map s.withStack)
  | .assign name value, s => s.attempt ((s.stack.assign name value).map s.withStack)
  | .get name, s =>
    match s.stack.get name with
    | .ok v => (.value v, s)
    | .error f => (.fault f, s)
  | .contains name, s => (.truth (s.stack.contains name), s)
  | .enter, s => (.done, s.withStack s.stack.push)
  | .exit, s => s.attempt s.pop
  | .scope body, s =>
    let (inner, failure, t) := ScopeAction.runBodyOnMaps body s.openScope
    t.endScope inner failure
  | .within body, s =>
    let (inner, failure, t) := ScopeAction.runBodyOnMaps body s.openScope
    let (result, u) := t.endScope inner failure
    (result.uncaught, u)

/-- Runs nested operations on a stack of maps, up to the first that fails. -/
def ScopeAction.runBodyOnMaps :
    List ScopeAction → MapState → List (ScopeResult × Nat) × Option ScopeFault × MapState
  | [], s => ([], none, s)
  | action :: rest, s =>
    match action.runOnMaps s with
    | (.fault f, t) => ([], some f, t)
    | (result, t) =>
      let (others, failure, u) := ScopeAction.runBodyOnMaps rest t
      ((result, t.stack.height) :: others, failure, u)

end

/-- Runs a script on a stack of maps. -/
def ScopeAction.runAllOnMaps : List ScopeAction → MapState → List ScopeResult × MapState
  | [], s => ([], s)
  | action :: rest, s =>
    let (result, t) := action.runOnMaps s
    let (others, u) := ScopeAction.runAllOnMaps rest t
    (result :: others, u)

/-! ## Environments and stacks in step -/

/-- What a watch knows of the map of a scope. -/
def ScopeMap.WatchedBy (m : MapStack) : ScopeMap → FrameWatch → Prop
  | onStack level, w => w.index = level ∧ w.isOpen = true ∧ m.maps.reverse[level]? = some w.bindings
  | takenOff bindings, w => w.isOpen = false ∧ w.bindings = bindings

namespace ScopeMap

variable {m : MapStack} {map : ScopeMap} {w : FrameWatch}

/-- A watch knows the variables of its map. -/
theorem WatchedBy.bindings_eq (h : map.WatchedBy m w) : w.bindings = map.bindings m := by
  cases map with
  | onStack level => rw [ScopeMap.bindings, h.2.2]; rfl
  | takenOff _ => exact h.2

/-- A watch follows the variables of an open frame. -/
theorem WatchedBy.follow_of_lt {m' : MapStack} {level : Nat} (h : (onStack level).WatchedBy m w)
    (lt : level < m'.height) : (onStack level).WatchedBy m' (w.follow m'.toEnvironment) := by
  obtain ⟨index, isOpen, -⟩ := h
  have inReverse : level < m'.maps.reverse.length := by rw [List.length_reverse]; exact lt
  have held := m'.bindings_frames_toEnvironment level
  rw [List.getElem?_eq_getElem inReverse] at held
  obtain ⟨frame, atLevel, bindings⟩ := Option.map_eq_some_iff.mp held
  rw [FrameWatch.follow, if_pos isOpen, index, atLevel]
  exact ⟨rfl, isOpen, by rw [List.getElem?_eq_getElem inReverse, ← bindings]⟩

/-- The map of an open frame is on the stack. -/
theorem WatchedBy.level_lt {level : Nat} (h : (onStack level).WatchedBy m w) : level < m.height := by
  have lt := (List.getElem?_eq_some_iff.mp h.2.2).1
  rwa [List.length_reverse] at lt

/-- A closed frame is not followed any longer. -/
theorem WatchedBy.follow_takenOff {m' : MapStack} {bindings : Bindings}
    (h : (takenOff bindings).WatchedBy m w) (env : Environment) :
    (takenOff bindings).WatchedBy m' (w.follow env) := by
  rw [FrameWatch.follow, h.1]
  exact h

/-- A watch follows the map of its scope as long as no map is taken off the stack. -/
theorem WatchedBy.follow {m' : MapStack} (h : map.WatchedBy m w) (le : m.height ≤ m'.height) :
    map.WatchedBy m' (w.follow m'.toEnvironment) := by
  cases map with
  | onStack level => exact h.follow_of_lt (Nat.lt_of_lt_of_le h.level_lt le)
  | takenOff _ => exact h.follow_takenOff _

/-- A watch that loses its frame keeps the variables the map had last. -/
theorem WatchedBy.follow_pop {m' : MapStack} (h : map.WatchedBy m w) (popped : m.pop = .ok m') :
    (map.without m'.height m.top).WatchedBy m' (w.follow m'.toEnvironment) := by
  obtain ⟨top, below⟩ := m
  cases below with
  | nil => cases popped
  | cons b rest =>
    cases popped
    cases map with
    | takenOff _ => exact h.follow_takenOff _
    | onStack level =>
      have lt : level < rest.length + 2 := h.level_lt
      have height : MapStack.height ⟨b, rest⟩ = rest.length + 1 := rfl
      rw [without, height]
      by_cases last : level = rest.length + 1
      · -- The frame is the one closed: the watch finds it gone, and has seen the map on top last.
        obtain ⟨index, isOpen, bindings⟩ := h
        have atTop : w.bindings = top := by
          rw [MapStack.maps, List.reverse_cons, List.getElem?_append_right (by simp [last])] at bindings
          simpa [last, eq_comm] using bindings
        have gone : (MapStack.toEnvironment ⟨b, rest⟩).frames[level]? = none := by
          rw [Array.getElem?_eq_none_iff, MapStack.toEnvironment, Environment.size_frames_ofStack]
          exact Nat.le_of_eq last.symm
        rw [if_pos last, FrameWatch.follow, if_pos isOpen, index, gone]
        exact ⟨rfl, atTop⟩
      · rw [if_neg last]
        exact h.follow_of_lt (show level < rest.length + 1 by omega)

end ScopeMap

/-- An environment and a stack of maps with the same variables, and the same scopes open on both. -/
structure ScopeState.Agrees (s : ScopeState) (m : MapState) : Prop where
  environment_eq : s.environment = m.stack.toEnvironment
  watched : List.Forall₂ (ScopeMap.WatchedBy m.stack) m.scopes s.watched

/-- The same result from states that agree, and states that agree behind it. -/
def InStep (r : ScopeResult × ScopeState) (r' : ScopeResult × MapState) : Prop :=
  r.1 = r'.1 ∧ r.2.Agrees r'.2

namespace ScopeState

variable {s : ScopeState} {m : MapState}

/-- Nothing has been run on either at the start. -/
theorem agrees_initial : Agrees {} {} := ⟨rfl, .nil⟩

namespace Agrees

/-- The depth of the environment is the height of the stack. -/
theorem depth_eq (h : s.Agrees m) : s.environment.depth = m.stack.height := by
  rw [h.environment_eq, MapStack.depth_toEnvironment]

/-- Changes that take no map off the stack. -/
theorem update (h : s.Agrees m) {stack : MapStack} (le : m.stack.height ≤ stack.height) :
    (s.update stack.toEnvironment).Agrees (m.withStack stack) where
  environment_eq := rfl
  watched := List.forall₂_map_right_iff.mpr (h.watched.imp fun _ _ watched => watched.follow le)

/-- Opening a scope keeps them in agreement, and the new frame is watched. -/
theorem openScope (h : s.Agrees m) : s.openScope.Agrees m.openScope := by
  have le : m.stack.height ≤ m.stack.push.height := Nat.le_succ _
  have entered : s.environment.enter = m.stack.push.toEnvironment := by
    rw [h.environment_eq, MapStack.enter_toEnvironment]
  refine ⟨entered, ?_⟩
  rw [ScopeState.openScope, entered]
  refine .cons ⟨rfl, rfl, ?_⟩ (h.update le).watched
  rw [MapState.openScope, MapStack.push, MapStack.maps, List.reverse_cons, MapStack.height,
    List.getElem?_append_right (by simp)]
  simp

/-- Closing a scope is popping. -/
theorem exit (h : s.Agrees m) :
    (s.environment.depth ≠ 1 ∧
        ∃ env m', s.environment.exit = .ok env ∧ m.pop = .ok m' ∧ (s.update env).Agrees m') ∨
      s.environment.depth = 1 ∧ s.environment.exit = .error .globalExit ∧ m.pop = .error .globalExit := by
  -- Only the height decides: the environment closes a frame exactly if a map can be taken off.
  rw [h.depth_eq, h.environment_eq, MapStack.exit_toEnvironment, MapState.pop]
  rcases m.stack.pop_cases with ⟨more, stack, popped⟩ | ⟨one, popped⟩
  · rw [popped]
    refine .inl ⟨more, _, _, rfl, rfl, rfl, ?_⟩
    refine List.forall₂_map_right_iff.mpr (List.forall₂_map_left_iff.mpr ?_)
    exact h.watched.imp fun _ _ watched => watched.follow_pop popped
  · rw [popped]
    exact .inr ⟨one, rfl, rfl⟩

/-- Changes that may fail and take no map off the stack. -/
theorem attempt (h : s.Agrees m) {outcome : Except ScopeFault MapStack}
    (le : ∀ stack, outcome = .ok stack → m.stack.height ≤ stack.height) :
    InStep (s.attempt (outcome.map MapStack.toEnvironment)) (m.attempt (outcome.map m.withStack)) := by
  cases outcome with
  | ok stack => exact ⟨rfl, h.update (le stack rfl)⟩
  | error f => exact ⟨rfl, h⟩

/-- An attempt to close a scope comes to the same on both. -/
theorem attempt_exit (h : s.Agrees m) : InStep (s.attempt s.environment.exit) (m.attempt m.pop) := by
  rcases h.exit with ⟨-, env, m', closed, popped, agrees⟩ | ⟨-, closed, popped⟩
  · rw [closed, popped]
    exact ⟨rfl, agrees⟩
  · rw [closed, popped]
    exact ⟨rfl, h⟩

/-- So does closing the scope of a nested script, however that ended. -/
theorem endScope (h : s.Agrees m) (inner : List (ScopeResult × Nat)) (failure : Option ScopeFault) :
    InStep (s.endScope inner failure) (m.endScope inner failure) := by
  have own : (s.watched.head?.map fun w => (w.bindings, s.environment.depth)) =
      m.scopes.head?.map fun map => (map.bindings m.stack, m.stack.height) := by
    rw [h.depth_eq]
    have watched := h.watched
    generalize s.watched = watches, m.scopes = maps at watched
    cases watched with
    | nil => rfl
    | cons first _ => exact congrArg (fun b => some (b, _)) first.bindings_eq
  -- The frame handed out is not followed any longer when the scope is closed.
  have dropped : Agrees { s with watched := s.watched.drop 1 } { m with scopes := m.scopes.drop 1 } :=
    ⟨h.environment_eq, List.forall₂_drop 1 h.watched⟩
  rw [ScopeState.endScope, MapState.endScope, own, ScopeState.closeScope, MapState.closeScope]
  rcases dropped.exit with ⟨-, env, m', closed, popped, agrees⟩ | ⟨-, closed, popped⟩
  · dsimp only at closed popped ⊢
    rw [closed, popped]
    exact ⟨rfl, agrees⟩
  · dsimp only at closed popped ⊢
    rw [closed, popped]
    exact ⟨rfl, dropped⟩

end Agrees

end ScopeState

/-! ## Runs in step -/

namespace ScopeAction

open ScopeState (Agrees)

/-- Putting a value into a map or below it adds no map and takes none away. -/
theorem height_of_define {m m' : MapStack} {name : String} {value : Value}
    (h : m.define name value = .ok m') : m.height = m'.height := by
  rw [MapStack.define] at h
  split at h <;> cases h
  rfl

/-- Assigning puts no map on the stack and takes none off. -/
theorem height_of_assign {m m' : MapStack} {name : String} {value : Value}
    (h : m.assign name value = .ok m') : m.height = m'.height := by
  rw [MapStack.assign] at h
  split at h
  · cases h
    rfl
  · cases changed : assigned m.below name value with
    | none =>
      rw [changed] at h
      cases h
    | some below =>
      rw [changed] at h
      cases h
      exact congrArg Nat.succ (Environment.length_of_assigned changed).symm

mutual

/-- **An operation results in the same on an environment and on a stack of maps that agrees with it**, and
they agree behind it. -/
theorem run_inStep : ∀ (action : ScopeAction) {s : ScopeState} {m : MapState}, s.Agrees m →
    InStep (action.run s) (action.runOnMaps m)
  | .define name value, s, m, h => by
    rw [run, runOnMaps, h.environment_eq, MapStack.define_toEnvironment]
    exact h.attempt fun _ ok => Nat.le_of_eq (height_of_define ok)
  | .assign name value, s, m, h => by
    rw [run, runOnMaps, h.environment_eq, MapStack.assign_toEnvironment]
    exact h.attempt fun _ ok => Nat.le_of_eq (height_of_assign ok)
  | .get name, s, m, h => by
    rw [run, runOnMaps, h.environment_eq, MapStack.get_toEnvironment]
    cases m.stack.get name <;> exact ⟨rfl, h⟩
  | .contains name, s, m, h => by
    rw [run, runOnMaps, h.environment_eq, MapStack.contains_toEnvironment]
    exact ⟨rfl, h⟩
  | .enter, s, m, h => by
    rw [run, runOnMaps, h.environment_eq, MapStack.enter_toEnvironment]
    exact ⟨rfl, h.update (Nat.le_succ _)⟩
  | .exit, s, m, h => by
    rw [run, runOnMaps]
    exact h.attempt_exit
  | .scope body, s, m, h => by
    -- The body agrees by the mutual statement below, and leaving the scope keeps the agreement.
    obtain ⟨inner, failure, agrees⟩ := runBody_inStep body h.openScope
    rw [run, runOnMaps]
    dsimp only
    rw [inner, failure]
    exact agrees.endScope _ _
  | .within body, s, m, h => by
    obtain ⟨inner, failure, agrees⟩ := runBody_inStep body h.openScope
    rw [run, runOnMaps]
    dsimp only
    rw [inner, failure]
    have ended := agrees.endScope (runBodyOnMaps body m.openScope).1 (runBodyOnMaps body m.openScope).2.1
    exact ⟨congrArg ScopeResult.uncaught ended.1, ended.2⟩

/-- Nested operations run alike. -/
theorem runBody_inStep : ∀ (body : List ScopeAction) {s : ScopeState} {m : MapState}, s.Agrees m →
    (runBody body s).1 = (runBodyOnMaps body m).1 ∧
      (runBody body s).2.1 = (runBodyOnMaps body m).2.1 ∧
      (runBody body s).2.2.Agrees (runBodyOnMaps body m).2.2
  | [], s, m, h => by
    rw [runBody, runBodyOnMaps]
    exact ⟨rfl, rfl, h⟩
  | action :: rest, s, m, h => by
    obtain ⟨result, agrees⟩ := run_inStep action h
    rw [runBody, runBodyOnMaps]
    generalize action.run s = r at result agrees ⊢
    generalize action.runOnMaps m = r' at result agrees ⊢
    obtain ⟨result, t⟩ := r
    obtain ⟨_, t'⟩ := r'
    cases result
    obtain ⟨others, failure, behind⟩ := runBody_inStep rest agrees
    -- Only a fault breaks off; the depths noted behind other results are the heights of the stack.
    cases result with
    | fault f => exact ⟨rfl, rfl, agrees⟩
    | done | value | truth | scope =>
      exact ⟨congr (congrArg List.cons (congrArg (Prod.mk _) agrees.depth_eq)) others, failure, behind⟩

end

/-- **A script runs alike on an environment and on a stack of maps.** -/
theorem runAll_inStep (script : List ScopeAction) {s : ScopeState} {m : MapState} (h : s.Agrees m) :
    (runAll script s).1 = (runAllOnMaps script m).1 ∧
      (runAll script s).2.Agrees (runAllOnMaps script m).2 := by
  induction script generalizing s m with
  | nil => exact ⟨rfl, h⟩
  | cons action rest ih =>
    obtain ⟨result, agrees⟩ := run_inStep action h
    obtain ⟨others, behind⟩ := ih agrees
    exact ⟨congr (congrArg List.cons result) others, behind⟩

end ScopeAction

/-! ## Nested scripts -/

namespace ScopeState

open ScopeAction (runAll)

/-- **How the operations of a nested script run**: one after another up to the first that fails. The script
comes to the results of those that have not failed, to the failure and to the state left. -/
inductive BodyRuns (s : ScopeState) :
    List ScopeAction → List ScopeResult → Option ScopeFault → ScopeState → Prop
  | all {body : List ScopeAction} {results : List ScopeResult} {t : ScopeState} :
      runAll body s = (results, t) → (∀ f, .fault f ∉ results) → BodyRuns s body results none t
  | failing {before after : List ScopeAction} {action : ScopeAction} {results : List ScopeResult}
      {f : ScopeFault} {t u : ScopeState} :
      runAll before s = (results, t) → (∀ f, .fault f ∉ results) → action.run t = (.fault f, u) →
      BodyRuns s (before ++ action :: after) results (some f) u

/-- **How a nested script with its scope runs**: the scope is opened, the operations run, and then one scope
is closed whatever they did. If they have come down to the global scope, that fails instead of what has
failed among them. -/
inductive ScopeRuns (s : ScopeState) (body : List ScopeAction) (results : List ScopeResult) :
    Option ScopeFault → Environment → Prop
  | closed {failure : Option ScopeFault} {t : ScopeState} {env : Environment} :
      BodyRuns s.openScope body results failure t → t.environment.depth ≠ 1 →
      t.environment.exit = .ok env → ScopeRuns s body results failure env
  | global {failure : Option ScopeFault} {t : ScopeState} :
      BodyRuns s.openScope body results failure t → t.environment.depth = 1 →
      t.environment.exit = .error .globalExit → ScopeRuns s body results (some .globalExit) t.environment

/-- A nested script goes on behind an action that did not fail. -/
theorem BodyRuns.cons {s t u : ScopeState} {action : ScopeAction} {result : ScopeResult}
    {body : List ScopeAction} {results : List ScopeResult} {failure : Option ScopeFault}
    (first : action.run s = (result, t)) (fine : ∀ f, result ≠ .fault f)
    (rest : BodyRuns t body results failure u) :
    BodyRuns s (action :: body) (result :: results) failure u := by
  have behind : ∀ {actions : List ScopeAction} {rs : List ScopeResult} {v : ScopeState},
      runAll actions t = (rs, v) → runAll (action :: actions) s = (result :: rs, v) := by
    intro actions rs v h
    rw [runAll, first]
    dsimp only
    rw [h]
  have none : ∀ {rs : List ScopeResult}, (∀ f, .fault f ∉ rs) → ∀ f, .fault f ∉ result :: rs := by
    intro rs others f mem
    rcases List.mem_cons.mp mem with eq | mem
    · exact fine f eq.symm
    · exact others f mem
  -- The operation joins those that have not failed, in both ways the rest can end.
  cases rest with
  | all run others => exact .all (behind run) (none others)
  | failing run others fails => exact .failing (behind run) (none others) fails

/-- Nested operations run up to the first that fails. -/
theorem bodyRuns_runBody (body : List ScopeAction) (s : ScopeState) :
    BodyRuns s body ((ScopeAction.runBody body s).1.map Prod.fst) (ScopeAction.runBody body s).2.1
      (ScopeAction.runBody body s).2.2 := by
  induction body generalizing s with
  | nil =>
    rw [ScopeAction.runBody]
    exact .all rfl fun _ mem => nomatch mem
  | cons action rest ih =>
    cases first : action.run s with
    | mk result t =>
      rw [ScopeAction.runBody, first]
      cases result with
      | fault f =>
        show BodyRuns s ([] ++ action :: rest) [] (some f) t
        exact .failing rfl (fun _ mem => nomatch mem) first
      | done | value | truth | scope => exact (ih t).cons first fun _ eq => nomatch eq

/-- **A nested script** is run in a scope of its own, and one scope is closed at its end. -/
theorem Agrees.scopeRuns {s : ScopeState} {m : MapState} (h : s.Agrees m) (body : List ScopeAction) :
    ∃ inner own raised t, (ScopeAction.scope body).run s = (.scope inner own raised, t) ∧
      ScopeRuns s body (inner.map Prod.fst) raised t.environment := by
  obtain ⟨-, -, agrees⟩ := ScopeAction.runBody_inStep body h.openScope
  have runs := bodyRuns_runBody body s.openScope
  rw [ScopeAction.run]
  -- What matters of the body is the state left: it agrees with a stack, however many scopes it has closed.
  generalize ScopeAction.runBody body s.openScope = r at agrees runs
  obtain ⟨inner, failure, t⟩ := r
  dsimp only at agrees runs ⊢
  rw [ScopeState.endScope, ScopeState.closeScope]
  dsimp only
  rcases agrees.exit with ⟨more, env, -, closed, -, -⟩ | ⟨one, closed, -⟩
  · rw [closed]
    exact ⟨_, _, _, _, rfl, .closed runs more closed⟩
  · rw [closed]
    have whole := ScopeRuns.global runs one closed
    exact ⟨_, _, _, _, rfl, whole⟩

/-! ## Moments of a run -/

/-- The states that operations come to from the start on an environment and on a stack of maps,
also inside nested scripts. -/
inductive Reached : ScopeState → MapState → Prop
  | start : Reached {} {}
  | behind {s : ScopeState} {m : MapState} (action : ScopeAction) :
      Reached s m → Reached (action.run s).2 (action.runOnMaps m).2
  | inside {s : ScopeState} {m : MapState} : Reached s m → Reached s.openScope m.openScope

/-- At every moment of a run the two agree. -/
theorem Reached.agrees {s : ScopeState} {m : MapState} (h : Reached s m) : s.Agrees m := by
  induction h with
  | start => exact agrees_initial
  | behind action _ ih => exact (action.run_inStep ih).2
  | inside _ ih => exact ih.openScope

/-- A script that is run at such a moment ends at one. -/
theorem Reached.runAll {s : ScopeState} {m : MapState} (h : Reached s m) (script : List ScopeAction) :
    Reached (runAll script s).2 (ScopeAction.runAllOnMaps script m).2 := by
  induction script generalizing s m with
  | nil => exact h
  | cons action rest ih => exact ih (h.behind action)

end ScopeState

/-- Whether an operation has a nested script. -/
def ScopeAction.isNested : ScopeAction → Bool
  | scope _ | within _ => true
  | _ => false

/-- An operation without a nested script leaves everything as it was if it fails. -/
theorem ScopeAction.state_of_fault {action : ScopeAction} (single : action.isNested = false) {s : ScopeState}
    {f : ScopeFault} (fails : (action.run s).1 = .fault f) : (action.run s).2 = s := by
  -- A change that fails is not taken over.
  have attempt : ∀ {outcome : Except ScopeFault Environment}, (s.attempt outcome).1 = .fault f →
      (s.attempt outcome).2 = s := by
    intro outcome fails
    cases outcome with
    | ok env => cases fails
    | error _ => rfl
  cases action with
  | define | assign | exit =>
    rw [run] at fails ⊢
    exact attempt fails
  | get name =>
    rw [run]
    cases s.environment.get name <;> rfl
  | contains | enter =>
    rw [run] at fails
    cases fails
  | scope | within => cases single

/-- **How an environment stands to a stack of maps at a moment of a run.** -/
structure ScopeState.Refines (s : ScopeState) (m : MapState) : Prop where
  /-- Each frame is enclosed by the one before it, the first by none, and the last one is the current one. -/
  chained : s.environment.Chained
  /-- The frames hold the maps of the stack. -/
  environment_eq : s.environment = m.stack.toEnvironment
  /-- Every operation results in what it results in on the stack. -/
  result_eq : ∀ action : ScopeAction, (action.run s).1 = (action.runOnMaps m).1
  /-- An operation that fails by itself changes nothing. -/
  unchanged : ∀ (action : ScopeAction) (f : ScopeFault), action.isNested = false →
    (action.run s).1 = .fault f → (action.run s).2 = s
  /-- A nested script runs up to its first failure, then one scope is closed; the failure of the whole goes on
  where it is not caught. -/
  nested : ∀ body, ∃ inner own raised t, (ScopeAction.scope body).run s = (.scope inner own raised, t) ∧
    ScopeRuns s body (inner.map Prod.fst) raised t.environment ∧
    (ScopeAction.within body).run s = ((ScopeResult.scope inner own raised).uncaught, t)

/-- **Scripts on environments refine scripts on stacks of maps.** A script on a fresh environment has the
results that it has on a fresh stack of maps, and at every moment of a run, also inside nested scripts, the
environment is that of the stack. -/
theorem scripts_refine_maps (script : List ScopeAction) :
    (ScopeAction.runAll script {}).1 = (ScopeAction.runAllOnMaps script {}).1 ∧
      ScopeState.Reached (ScopeAction.runAll script {}).2 (ScopeAction.runAllOnMaps script {}).2 ∧
      ∀ s m, ScopeState.Reached s m → s.Refines m := by
  refine ⟨(ScopeAction.runAll_inStep script ScopeState.agrees_initial).1,
    ScopeState.Reached.start.runAll script, fun s m reached => ?_⟩
  have agrees := reached.agrees
  refine ⟨?_, agrees.environment_eq, fun action => (action.run_inStep agrees).1,
    fun action f single fails => action.state_of_fault single fails, fun body => ?_⟩
  · rw [agrees.environment_eq]
    exact m.stack.chained_toEnvironment
  · -- Caught or not, the scope runs the same way.
    obtain ⟨inner, own, raised, t, ran, runs⟩ := agrees.scopeRuns body
    refine ⟨inner, own, raised, t, ran, runs, ?_⟩
    rw [ScopeAction.run] at ran
    rw [ScopeAction.run]
    dsimp only at ran ⊢
    rw [ran]

/-- The nested script has left its scope when its second operation fails, so that the failure to close one
more takes the place of that. -/
example : (ScopeAction.runAll [.define "x" (.boolean true), .scope [.exit, .define "x" (.boolean true)]] {}).1 =
    [.done, .scope [(.done, 1)] none (some .globalExit)] := rfl

end LoxScript
