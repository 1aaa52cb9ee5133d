import LoxScript.Environment
import Mathlib.Data.List.Find

/-! # Environments as stacks

The frames of an environment lie side by side and name the frames that enclose them by index.
In an environment that has come about by opening and closing scopes the links say nothing new: each frame
is enclosed by the one before it, and the current one is the last.
Such an environment is a stack of bindings, and its operations are those of the stack.

* **`Chained`** — each frame is enclosed by the one before it; kept by every operation
  (`Chained.enter`, `Chained.exit`, `Chained.define`, `Chained.assign`).
* **`ofStack`** — the environment of a stack, innermost bindings first; every chained environment is one
  (`chained_iff_ofStack`).
* **`get_ofStack_cons`, `assign_ofStack`, …** — the operations on stacks; later files never unfold the
  environment. -/

namespace LoxScript.Environment

/-- Each frame is enclosed by the one before it, and the last one is the current one. -/
structure Chained (env : Environment) : Prop where
  current_eq : env.current + 1 = env.frames.size
  enclosing_eq : ∀ (i : Nat) (frame : Frame), env.frames[i]? = some frame →
    frame.enclosing = if i = 0 then none else some (i - 1)

/-- The frames of a stack of bindings, the outermost first. -/
def framesOf : List Bindings → List Frame
  | [] => []
  | b :: below =>
    framesOf below ++ [⟨b, if below.length = 0 then none else some (below.length - 1)⟩]

/-- The environment of a stack of bindings, of which the innermost comes first. -/
def ofStack (stack : List Bindings) : Environment := ⟨(framesOf stack).toArray, stack.length - 1⟩

/-- A stack has a frame for each of its bindings. -/
@[simp] theorem length_framesOf (stack : List Bindings) : (framesOf stack).length = stack.length := by
  induction stack with
  | nil => rfl
  | cons b below ih => simp [framesOf, ih]

/-- The current frame is the last one. -/
@[simp] theorem current_ofStack_cons (b : Bindings) (below : List Bindings) :
    (ofStack (b :: below)).current = below.length := rfl

/-- The environment of a stack has as many frames. -/
@[simp] theorem size_frames_ofStack (stack : List Bindings) :
    (ofStack stack).frames.size = stack.length := by
  simp [ofStack]

/-- The innermost frame comes behind those of the rest of the stack. -/
theorem frames_ofStack_cons (b : Bindings) (below : List Bindings) (i : Nat) :
    (ofStack (b :: below)).frames[i]? =
      if i = below.length then
        some ⟨b, if below.length = 0 then none else some (below.length - 1)⟩
      else (ofStack below).frames[i]? := by
  simp only [ofStack, framesOf, List.getElem?_toArray, List.getElem?_append, length_framesOf]
  by_cases lt : i < below.length
  · rw [if_pos lt, if_neg (Nat.ne_of_lt lt)]
  · rw [if_neg lt]
    by_cases eq : i = below.length
    · rw [if_pos eq, eq, Nat.sub_self]
      rfl
    · have beyond : below.length ≤ i := Nat.not_lt.mp lt
      rw [if_neg eq, List.getElem?_eq_none (by simp; omega),
        List.getElem?_eq_none (by rw [length_framesOf]; exact beyond)]

/-! ## Looking names up -/

/-- The innermost bindings are behind those of the rest of the stack. -/
theorem bindingsAt_ofStack_cons (b : Bindings) (below : List Bindings) (i : Nat) :
    (ofStack (b :: below)).bindingsAt i =
      if i = below.length then b else (ofStack below).bindingsAt i := by
  rw [bindingsAt, bindingsAt, frames_ofStack_cons]
  by_cases eq : i = below.length
  · rw [if_pos eq, if_pos eq]
  · rw [if_neg eq, if_neg eq]

/-- The chain from a frame depends on the frames up to it only. -/
theorem chainFrom_congr {f g : Array Frame} (i : Nat) (h : ∀ j ≤ i, f[j]? = g[j]?) :
    chainFrom f i = chainFrom g i := by
  induction i using Nat.strongRecOn with
  | ind i ih =>
    rw [chainFrom, chainFrom, h i (Nat.le_refl i)]
    cases g[i]? with
    | none => rfl
    | some frame =>
      dsimp only
      cases frame.enclosing with
      | none => rfl
      | some outer =>
        dsimp only
        by_cases lt : outer < i
        · rw [if_pos lt, if_pos lt, ih outer lt fun j le => h j (Nat.le_trans le (Nat.le_of_lt lt))]
        · rw [if_neg lt, if_neg lt]

/-- The chain of a stack runs through all of its frames. -/
theorem chain_ofStack (stack : List Bindings) :
    (ofStack stack).chain = (List.range stack.length).reverse := by
  induction stack with
  | nil => rw [chain, chainFrom]; rfl
  | cons b below ih =>
    rw [chain, current_ofStack_cons, chainFrom, frames_ofStack_cons, if_pos rfl, List.length_cons,
      List.range_succ, List.reverse_append, List.reverse_singleton, List.singleton_append, ← ih]
    cases below with
    | nil => rw [chain, chainFrom]; rfl
    | cons c rest =>
      -- The frame below is the one before, and the chain from there does not see the innermost frame.
      show (if rest.length < rest.length + 1 then
        (c :: rest).length :: chainFrom (ofStack (b :: c :: rest)).frames rest.length
        else [(c :: rest).length]) = _
      rw [if_pos (Nat.lt_succ_self _)]
      refine congrArg _ (chainFrom_congr _ fun j le => ?_)
      have below : j ≠ (c :: rest).length := Nat.ne_of_lt (Nat.lt_succ_of_le le)
      rw [frames_ofStack_cons, if_neg below]

/-- A name is held by the innermost bindings that declare it. -/
theorem holder?_ofStack_cons (b : Bindings) (below : List Bindings) (name : String) :
    (ofStack (b :: below)).holder? name =
      if b.contains name then some below.length else (ofStack below).holder? name := by
  rw [holder?, holder?, chain_ofStack, chain_ofStack, List.length_cons, List.range_succ,
    List.reverse_append, List.reverse_singleton, List.singleton_append, List.find?_cons,
    bindingsAt_ofStack_cons, if_pos rfl]
  cases b.contains name with
  | true => rfl
  | false =>
    have same : ∀ i ∈ (List.range below.length).reverse,
        ((ofStack (b :: below)).bindingsAt i).contains name
          = ((ofStack below).bindingsAt i).contains name := by
      intro i hi
      have lt : i < below.length := by simpa using hi
      rw [bindingsAt_ofStack_cons, if_neg (Nat.ne_of_lt lt)]
    exact List.find?_congr same

/-- Nothing holds a name where there are no frames. -/
@[simp] theorem holder?_ofStack_nil (name : String) : (ofStack []).holder? name = none := by
  rw [holder?, chain_ofStack]; rfl

/-- What holds a name is a frame of the stack. -/
theorem holder?_ofStack_lt {stack : List Bindings} {name : String} {i : Nat}
    (h : (ofStack stack).holder? name = some i) : i < stack.length := by
  have mem := List.mem_of_find?_eq_some h
  rw [chain_ofStack] at mem
  simpa using mem

/-- The value of a name is that in the innermost bindings that declare it. -/
theorem get_ofStack_cons (b : Bindings) (below : List Bindings) (name : String) :
    (ofStack (b :: below)).get name =
      match b.get? name with
      | some v => .ok v
      | none => (ofStack below).get name := by
  rw [get, holder?_ofStack_cons]
  cases hb : b.get? name with
  | some v =>
    have held : b.contains name = true := by rw [Bindings.contains, hb]; rfl
    rw [if_pos held, Option.bind_some, bindingsAt_ofStack_cons, if_pos rfl, hb]
  | none =>
    have free : ¬ b.contains name = true := by rw [Bindings.contains, hb]; decide
    rw [if_neg free]
    cases hh : (ofStack below).holder? name with
    | none => rw [get, hh]; rfl
    | some i =>
      have lt : i < below.length := holder?_ofStack_lt hh
      rw [get, hh, Option.bind_some, Option.bind_some, bindingsAt_ofStack_cons,
        if_neg (Nat.ne_of_lt lt)]

/-- There every name is undefined. -/
@[simp] theorem get_ofStack_nil (name : String) :
    (ofStack []).get name = .error (.undefined name) := by
  rw [get, holder?_ofStack_nil]; rfl

/-- Below the same scopes it does not matter where a value comes from. -/
theorem get_append_congr {below below' : List Bindings} {name : String}
    (h : (ofStack below).get name = (ofStack below').get name) (above : List Bindings) :
    (ofStack (above ++ below)).get name = (ofStack (above ++ below')).get name := by
  induction above with
  | nil => exact h
  | cons b rest ih => rw [List.cons_append, List.cons_append, get_ofStack_cons, get_ofStack_cons, ih]

/-- The global variables lie at the bottom of the stack. -/
theorem globals_ofStack_append (above : List Bindings) (g : Bindings) :
    (ofStack (above ++ [g])).globals = g := by
  induction above with
  | nil => rfl
  | cons b rest ih =>
    rw [globals, List.cons_append, bindingsAt_ofStack_cons, if_neg (by simp)]
    exact ih

/-! ## Changing a variable -/

/-- The stack with the nearest variable of a name set. -/
def assigned : List Bindings → String → Value → Option (List Bindings)
  | [], _, _ => none
  | b :: below, name, value =>
    if b.contains name then some (b.set name value :: below)
    else (assigned below name value).map (b :: ·)

/-- Assignment looks through the upper scopes of a stack first. -/
theorem assigned_append (above below : List Bindings) (name : String) (value : Value) :
    assigned (above ++ below) name value =
      match assigned above name value with
      | some above' => some (above' ++ below)
      | none => (assigned below name value).map (above ++ ·) := by
  induction above with
  | nil =>
    rw [assigned]
    exact Option.map_id'.symm
  | cons b rest ih =>
    rw [List.cons_append, assigned, assigned, ih]
    by_cases held : b.contains name = true
    · rw [if_pos held, if_pos held]
      rfl
    · rw [if_neg held, if_neg held]
      cases assigned rest name value with
      | some rest' => rfl
      | none => exact Option.map_map _ _ _

/-- Setting a variable of one frame changes that frame. -/
theorem frames_setAt (env : Environment) (i : Nat) (name : String) (value : Value) (j : Nat) :
    (env.setAt i name value).frames[j]? =
      if i = j then env.frames[j]?.map fun frame =>
        { frame with bindings := frame.bindings.set name value }
      else env.frames[j]? :=
  Array.getElem?_modify

/-- Setting a name in the last frame sets it in the innermost bindings. -/
theorem setAt_ofStack_cons (b : Bindings) (below : List Bindings) (name : String) (value : Value) :
    (ofStack (b :: below)).setAt below.length name value = ofStack (b.set name value :: below) := by
  have frames : ((ofStack (b :: below)).setAt below.length name value).frames
      = (ofStack (b.set name value :: below)).frames := by
    refine Array.ext_getElem? fun j => ?_
    rw [frames_setAt, frames_ofStack_cons, frames_ofStack_cons]
    by_cases eq : j = below.length
    · rw [if_pos eq, if_pos eq, if_pos eq.symm]
      rfl
    · rw [if_neg eq, if_neg eq, if_neg (Ne.symm eq)]
  exact congrArg (Environment.mk · _) frames

/-- Setting a variable below the innermost frame sets it in the rest of the stack. -/
theorem setAt_ofStack_cons_of_lt {b : Bindings} {below below' : List Bindings} {i : Nat}
    {name : String} {value : Value} (lt : i < below.length) (length : below'.length = below.length)
    (set : (ofStack below).setAt i name value = ofStack below') :
    (ofStack (b :: below)).setAt i name value = ofStack (b :: below') := by
  have frames : ((ofStack (b :: below)).setAt i name value).frames = (ofStack (b :: below')).frames := by
    refine Array.ext_getElem? fun j => ?_
    rw [frames_setAt, frames_ofStack_cons, frames_ofStack_cons, ← set, frames_setAt, length]
    by_cases eq : j = below.length
    · rw [if_pos eq, if_neg (by omega), if_pos eq]
    · rw [if_neg eq, if_neg eq]
  have current : (ofStack (b :: below)).current = (ofStack (b :: below')).current := length.symm
  exact congr (congrArg Environment.mk frames) current

/-- Assigning leaves the stack as high as it was. -/
theorem length_of_assigned {stack stack' : List Bindings} {name : String} {value : Value}
    (h : assigned stack name value = some stack') : stack'.length = stack.length := by
  induction stack generalizing stack' with
  | nil => cases h
  | cons b below ih =>
    rw [assigned] at h
    split at h
    · cases h
      rfl
    · obtain ⟨below', hb, rfl⟩ := Option.map_eq_some_iff.mp h
      exact congrArg Nat.succ (ih hb)

/-- Assignment in a stack sets the variable where the name is held, and fails where it is not. -/
theorem assigned_eq (stack : List Bindings) (name : String) (value : Value) :
    match (ofStack stack).holder? name, assigned stack name value with
    | some i, some stack' => (ofStack stack).setAt i name value = ofStack stack'
    | none, none => True
    | _, _ => False := by
  -- By induction on the stack: the top scope holds the name, or it is held, or not, in the scopes below.
  induction stack with
  | nil => rw [holder?_ofStack_nil, assigned]; trivial
  | cons b below ih =>
    rw [holder?_ofStack_cons, assigned]
    by_cases held : b.contains name = true
    · rw [if_pos held, if_pos held]
      exact setAt_ofStack_cons b below name value
    · rw [if_neg held, if_neg held]
      cases hh : (ofStack below).holder? name with
      | none =>
        cases ha : assigned below name value with
        | none => trivial
        | some below' => rw [hh, ha] at ih; exact ih
      | some i =>
        cases ha : assigned below name value with
        | none => rw [hh, ha] at ih; exact ih
        | some below' =>
          rw [hh, ha] at ih
          exact setAt_ofStack_cons_of_lt (holder?_ofStack_lt hh) (length_of_assigned ha) ih

/-- Assignment in a stack. -/
theorem assign_ofStack (stack : List Bindings) (name : String) (value : Value) :
    (ofStack stack).assign name value =
      match assigned stack name value with
      | some stack' => .ok (ofStack stack')
      | none => .error (.undefined name) := by
  have eq := assigned_eq stack name value
  rw [assign]
  cases hh : (ofStack stack).holder? name with
  | none =>
    cases ha : assigned stack name value with
    | none => rfl
    | some stack' => rw [hh, ha] at eq; exact eq.elim
  | some i =>
    cases ha : assigned stack name value with
    | none => rw [hh, ha] at eq; exact eq.elim
    | some stack' =>
      rw [hh, ha] at eq
      exact congrArg Except.ok eq

/-- A declaration goes to the innermost bindings. -/
theorem define_ofStack_cons (b : Bindings) (below : List Bindings) (name : String) (value : Value) :
    (ofStack (b :: below)).define name value =
      if b.contains name then .error (.alreadyDefined name)
      else .ok (ofStack (b.set name value :: below)) := by
  rw [define, current_ofStack_cons, bindingsAt_ofStack_cons, if_pos rfl, setAt_ofStack_cons]

/-! ## Opening and closing scopes -/

/-- Opening a scope puts empty bindings on the stack. -/
theorem enter_ofStack_cons (b : Bindings) (below : List Bindings) :
    (ofStack (b :: below)).enter = ofStack ([] :: b :: below) := by
  simp [enter, ofStack, framesOf]

/-- Closing a scope takes the innermost bindings off. -/
theorem exit_ofStack_cons (b c : Bindings) (below : List Bindings) :
    (ofStack (b :: c :: below)).exit = .ok (ofStack (c :: below)) := by
  rw [exit, current_ofStack_cons, frames_ofStack_cons, if_pos rfl]
  simp [ofStack, framesOf]

/-- A scope is opened on top of a stack. -/
theorem enter_ofStack {stack : List Bindings} (h : stack ≠ []) :
    (ofStack stack).enter = ofStack ([] :: stack) := by
  cases stack with
  | nil => exact absurd rfl h
  | cons b below => exact enter_ofStack_cons b below

/-- The uppermost scope is closed, unless it is the only one. -/
theorem exit_ofStack (b : Bindings) {below : List Bindings} (h : below ≠ []) :
    (ofStack (b :: below)).exit = .ok (ofStack below) := by
  cases below with
  | nil => exact absurd rfl h
  | cons c rest => exact exit_ofStack_cons b c rest

/-! ## Chained environments -/

/-- The environment of a stack is chained. -/
theorem chained_ofStack (b : Bindings) (below : List Bindings) : Chained (ofStack (b :: below)) := by
  refine ⟨by simp, ?_⟩
  -- An empty stack has no frame that could be linked wrongly, so the induction may start there.
  induction b :: below with
  | nil =>
    intro i frame h
    simp [ofStack, framesOf] at h
  | cons c rest ih =>
    intro i frame h
    rw [frames_ofStack_cons] at h
    by_cases top : i = rest.length
    · rw [if_pos top] at h
      cases h
      rw [top]
    · rw [if_neg top] at h
      exact ih i frame h

/-- Frames each of which is enclosed by the one before are those of the stack of their bindings. -/
theorem framesOf_bindings {frames : List Frame}
    (h : ∀ (i : Nat) (frame : Frame), frames.reverse[i]? = some frame →
      frame.enclosing = if i = 0 then none else some (i - 1)) :
    framesOf (frames.map (·.bindings)) = frames.reverse := by
  induction frames with
  | nil => rfl
  | cons f rest ih =>
    have last : f.enclosing = if rest.length = 0 then none else some (rest.length - 1) :=
      h rest.length f (by simp)
    have before : ∀ (i : Nat) (frame : Frame), rest.reverse[i]? = some frame →
        frame.enclosing = if i = 0 then none else some (i - 1) := by
      intro i frame hi
      refine h i frame ?_
      have lt : i < rest.reverse.length := (List.getElem?_eq_some_iff.mp hi).1
      rw [List.reverse_cons, List.getElem?_append_left lt, hi]
    rw [List.map_cons, framesOf, ih before, List.reverse_cons, List.length_map, ← last]

/-- The chained environments are those of the stacks with at least one scope. -/
theorem chained_iff_ofStack {env : Environment} :
    Chained env ↔ ∃ b below, env = ofStack (b :: below) := by
  constructor
  · intro h
    -- The links of a chained environment are those that `framesOf` gives to its bindings.
    have frames : framesOf (env.frames.toList.reverse.map (·.bindings)) = env.frames.toList := by
      have links := h.enclosing_eq
      rw [framesOf_bindings, List.reverse_reverse]
      intro i frame hi
      rw [List.reverse_reverse, Array.getElem?_toList] at hi
      exact links i frame hi
    have size : env.frames.toList.reverse.length = env.current + 1 := by
      rw [List.length_reverse, Array.length_toList, h.current_eq]
    cases stack : env.frames.toList.reverse with
    | nil =>
      rw [stack] at size
      cases size
    | cons f rest =>
      rw [stack] at size frames
      refine ⟨f.bindings, rest.map (·.bindings), ?_⟩
      have current : env.current = rest.length := (Nat.succ.inj size).symm
      rw [List.map_cons] at frames
      rw [ofStack, frames, List.length_cons, List.length_map, Nat.add_sub_cancel, ← current]
  · rintro ⟨b, below, rfl⟩
    exact chained_ofStack b below

/-- The environment a session starts with. -/
theorem chained_initial : Chained {} := chained_ofStack [] []

/-- It stays so when a scope is opened. -/
theorem Chained.enter {env : Environment} (h : Chained env) : Chained env.enter := by
  obtain ⟨b, below, rfl⟩ := chained_iff_ofStack.mp h
  rw [enter_ofStack_cons]
  exact chained_ofStack [] (b :: below)

/-- It stays so when a scope is closed. -/
theorem Chained.exit {env env' : Environment} (h : Chained env) (ok : env.exit = .ok env') :
    Chained env' := by
  obtain ⟨b, below, rfl⟩ := chained_iff_ofStack.mp h
  cases below with
  | nil => cases ok
  | cons c rest =>
    rw [exit_ofStack_cons] at ok
    cases ok
    exact chained_ofStack c rest

/-- It stays so when a name is defined. -/
theorem Chained.define {env env' : Environment} (h : Chained env) {name : String} {value : Value}
    (ok : env.define name value = .ok env') : Chained env' := by
  obtain ⟨b, below, rfl⟩ := chained_iff_ofStack.mp h
  rw [define_ofStack_cons] at ok
  split at ok
  · cases ok
  · cases ok
    exact chained_ofStack _ below

/-- It stays so when a name is assigned to. -/
theorem Chained.assign {env env' : Environment} (h : Chained env) {name : String} {value : Value}
    (ok : env.assign name value = .ok env') : Chained env' := by
  obtain ⟨b, below, rfl⟩ := chained_iff_ofStack.mp h
  rw [assign_ofStack] at ok
  cases ha : assigned (b :: below) name value with
  | none =>
    rw [ha] at ok
    cases ok
  | some stack =>
    rw [ha] at ok
    cases ok
    have length := length_of_assigned ha
    cases stack with
    | nil => cases length
    | cons c rest => exact chained_ofStack c rest

end LoxScript.Environment
