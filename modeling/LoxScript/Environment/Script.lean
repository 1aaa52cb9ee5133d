import LoxScript.Environment

/-! # Scripts of scope operations
A script is a sequence of operations on one environment, some of which may fail. Two of them run a nested
script in a scope of its own: they open a scope, run the nested operations up to the first that fails, and
then close one scope whatever has happened. They differ in whether the failure of the scope is caught at its
end or goes on to what is around it. -/

namespace LoxScript

/-- An operation on an environment. -/
inductive ScopeAction where
  | define (name : String) (value : Value)
  | assign (name : String) (value : Value)
  | get (name : String)
  | contains (name : String)
  | enter
  | exit
  /-- Nested operations in a scope of their own, whose failure is caught behind the scope. -/
  | scope (body : List ScopeAction)
  /-- Nested operations in a scope of their own, whose failure is that of the whole operation. -/
  | within (body : List ScopeAction)

/-- What an operation results in. -/
inductive ScopeResult where
  /-- It was done. -/
  | done
  /-- The value looked up. -/
  | value (v : Value)
  /-- Whether a name is declared. -/
  | truth (b : Bool)
  /-- It failed. -/
  | fault (f : ScopeFault)
  /-- The nested operations that did not fail, each with the depth after it; the variables of the scope's
  own frame with the depth, if no nested operation failed; and how the scope failed, if it did. -/
  | scope (inner : List (ScopeResult × Nat)) (own : Option (Bindings × Nat)) (raised : Option ScopeFault)

/-- The result where a failed scope is not caught. -/
def ScopeResult.uncaught : ScopeResult → ScopeResult
  | .scope _ _ (some f) => .fault f
  | result => result

/-- A frame followed through the operations of a script. Once closed it keeps its last variables. -/
structure FrameWatch where
  /-- The index of the frame. -/
  index : Nat
  /-- Whether the frame is still open. -/
  isOpen : Bool
  /-- The variables seen last. -/
  bindings : Bindings

/-- The watched frame after one operation that closes at most the last frame. -/
def FrameWatch.follow (env : Environment) (w : FrameWatch) : FrameWatch :=
  if w.isOpen then
    match env.frames[w.index]? with
    | some frame => { w with bindings := frame.bindings }
    | none => { w with isOpen := false }
  else w

/-- An environment with the frames of the scopes that are being run in it. -/
structure ScopeState where
  /-- The environment. -/
  environment : Environment := {}
  /-- The frames of the open nested scripts, the innermost first. -/
  watched : List FrameWatch := []

namespace ScopeState

/-- The state after an operation has changed the environment. -/
def update (s : ScopeState) (env : Environment) : ScopeState where
  environment := env
  watched := s.watched.map (·.follow env)

/-- The state and the result of an operation that may fail. -/
def attempt (s : ScopeState) (outcome : Except ScopeFault Environment) : ScopeResult × ScopeState :=
  match outcome with
  | .ok env => (.done, s.update env)
  | .error f => (.fault f, s)

/-- The state in a new scope whose frame is watched. -/
def openScope (s : ScopeState) : ScopeState :=
  let env := s.environment.enter
  { s.update env with watched := ⟨env.current, true, []⟩ :: s.watched.map (·.follow env) }

/-- Closes one scope at the end of a nested script. Failing to do so replaces the failure of the script. -/
def closeScope (s : ScopeState) (raised : Option ScopeFault) : Option ScopeFault × ScopeState :=
  let s := { s with watched := s.watched.drop 1 }
  match s.environment.exit with
  | .ok env => (raised, s.update env)
  | .error f => (some f, s)

/-- The result of a nested script, given how its operations ended, and the state behind its scope. -/
def endScope (inner : List (ScopeResult × Nat)) (failure : Option ScopeFault) (s : ScopeState) :
    ScopeResult × ScopeState :=
  let own := if failure.isNone then
    s.watched.head?.map fun w => (w.bindings, s.environment.depth) else none
  let (raised, t) := s.closeScope failure
  (.scope inner own raised, t)

end ScopeState

mutual

/-- Runs one operation. -/
def ScopeAction.run : ScopeAction → ScopeState → ScopeResult × ScopeState
  | .define name value, s => s.attempt (s.environment.define name value)
  | .assign name value, s => s.attempt (s.environment.assign name value)
  | .get name, s =>
    match s.environment.get name with
    | .ok v => (.value v, s)
    | .error f => (.fault f, s)
  | .contains name, s => (.truth (s.environment.contains name), s)
  | .enter, s => (.done, s.update s.environment.enter)
  | .exit, s => s.attempt s.environment.exit
  | .scope body, s =>
    let (inner, failure, t) := ScopeAction.runBody body s.openScope
    t.endScope inner failure
  | .within body, s =>
    let (inner, failure, t) := ScopeAction.runBody body s.openScope
    let (result, u) := t.endScope inner failure
    (result.uncaught, u)

/-- Runs nested operations up to the first that fails. -/
def ScopeAction.runBody :
    List ScopeAction → ScopeState → List (ScopeResult × Nat) × Option ScopeFault × ScopeState
  | [], s => ([], none, s)
  | action :: rest, s =>
    match action.run s with
    | (.fault f, t) => ([], some f, t)
    | (result, t) =>
      let (others, failure, u) := ScopeAction.runBody rest t
      ((result, t.environment.depth) :: others, failure, u)

end

/-- Runs a script: its operations in turn, also behind those that fail. -/
def ScopeAction.runAll : List ScopeAction → ScopeState → List ScopeResult × ScopeState
  | [], s => ([], s)
  | action :: rest, s =>
    let (result, t) := action.run s
    let (others, u) := ScopeAction.runAll rest t
    (result :: others, u)

end LoxScript
