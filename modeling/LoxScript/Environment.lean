import LoxScript.Value

/-! # Environments
Variables live in frames, one for each open scope. The frames lie side by side in an array; each but the
global one names the frame that encloses it by its index, and a name is looked for along these links from
the current frame outward. The global frame has index zero and is never closed. -/

namespace LoxScript

/-- The variables of one scope with their values. -/
abbrev Bindings := List (String × Value)

namespace Bindings

/-- The value of a variable. -/
def get? (b : Bindings) (name : String) : Option Value :=
  match b with
  | [] => none
  | (n, v) :: rest => if n = name then some v else get? rest name

/-- Whether a variable is among the bindings. -/
def contains (b : Bindings) (name : String) : Bool := (b.get? name).isSome

/-- The bindings with a variable set to a value. -/
def set (b : Bindings) (name : String) (value : Value) : Bindings :=
  match b with
  | [] => [(name, value)]
  | (n, v) :: rest => if n = name then (n, value) :: rest else (n, v) :: set rest name value

/-- The bindings by name, in the order of code points. -/
def sorted (b : Bindings) : Bindings := b.mergeSort fun x y => x.1 ≤ y.1

/-- Setting a variable gives it the value and leaves the others alone. -/
theorem get?_set (b : Bindings) (name other : String) (value : Value) :
    (b.set name value).get? other = if name = other then some value else b.get? other := by
  induction b with
  | nil => simp [set, get?]
  | cons entry rest ih =>
    obtain ⟨n, v⟩ := entry
    by_cases h : n = name
    · subst h; by_cases h' : n = other <;> simp [set, get?, h']
    · by_cases h' : n = other
      · subst h'; simp [set, get?, h, Ne.symm h]
      · simp [set, get?, h, h', ih]

end Bindings

/-- One scope. -/
structure Frame where
  /-- The variables declared in the scope. -/
  bindings : Bindings := []
  /-- The index of the enclosing frame; the global frame has none. -/
  enclosing : Option Nat := none
  deriving DecidableEq, Inhabited

/-- The frames of all open scopes. -/
structure Environment where
  /-- The frames, the global one first. -/
  frames : Array Frame := #[{}]
  /-- The index of the innermost frame. -/
  current : Nat := 0
  deriving DecidableEq, Inhabited

/-- Why an operation on scopes fails. -/
inductive ScopeFault where
  /-- The scope declares the name already. -/
  | alreadyDefined (name : String)
  /-- No open scope declares the name. -/
  | undefined (name : String)
  /-- The global scope cannot be closed. -/
  | globalExit
  deriving DecidableEq, Repr, Inhabited

/-- The message for a fault. -/
def ScopeFault.message : ScopeFault → String
  | alreadyDefined name => "variable '" ++ name ++ "' is already defined in this scope"
  | undefined name => "undefined variable '" ++ name ++ "'"
  | globalExit => "cannot exit the global scope"

namespace Environment

/-- The number of open scopes, the global one included. -/
def depth (env : Environment) : Nat := env.frames.size

/-- The variables of a frame; none if there is no such frame. -/
def bindingsAt (env : Environment) (index : Nat) : Bindings :=
  match env.frames[index]? with
  | some frame => frame.bindings
  | none => []

/-- The global variables. -/
def globals (env : Environment) : Bindings := env.bindingsAt 0

/-- The indices of a frame and those that enclose it, outward. A link is followed only toward smaller
indices, where the enclosing frames lie. -/
def chainFrom (frames : Array Frame) (index : Nat) : List Nat :=
  match frames[index]? with
  | none => []
  | some frame =>
    match frame.enclosing with
    | none => [index]
    | some outer => if outer < index then index :: chainFrom frames outer else [index]
termination_by index

/-- The indices of the open scopes from the current one outward. -/
def chain (env : Environment) : List Nat := chainFrom env.frames env.current

/-- The index of the nearest frame that declares a name. -/
def holder? (env : Environment) (name : String) : Option Nat :=
  env.chain.find? fun index => (env.bindingsAt index).contains name

/-- The environment with a variable of one frame set. -/
def setAt (env : Environment) (index : Nat) (name : String) (value : Value) : Environment :=
  { env with
    frames := env.frames.modify index fun frame =>
      { frame with bindings := frame.bindings.set name value } }

/-- Declares a variable in the current scope. -/
def define (env : Environment) (name : String) (value : Value) : Except ScopeFault Environment :=
  if (env.bindingsAt env.current).contains name then .error (.alreadyDefined name)
  else .ok (env.setAt env.current name value)

/-- Gives a new value to the nearest variable of a name. -/
def assign (env : Environment) (name : String) (value : Value) : Except ScopeFault Environment :=
  match env.holder? name with
  | some index => .ok (env.setAt index name value)
  | none => .error (.undefined name)

/-- The value of the nearest variable of a name. -/
def get (env : Environment) (name : String) : Except ScopeFault Value :=
  match (env.holder? name).bind fun index => (env.bindingsAt index).get? name with
  | some value => .ok value
  | none => .error (.undefined name)

/-- Whether some open scope declares a name. -/
def contains (env : Environment) (name : String) : Bool := (env.holder? name).isSome

/-- Opens a scope within the current one. -/
def enter (env : Environment) : Environment where
  frames := env.frames.push { enclosing := some env.current }
  current := env.frames.size

/-- Closes the current scope. -/
def exit (env : Environment) : Except ScopeFault Environment :=
  match (env.frames[env.current]?).bind (·.enclosing) with
  | some outer => .ok { frames := env.frames.pop, current := outer }
  | none => .error .globalExit

end Environment

end LoxScript
