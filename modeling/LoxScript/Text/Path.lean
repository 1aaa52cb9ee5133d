/-! # Paths
The plain form of a path: without empty steps and steps that stay where they are. -/

namespace LoxScript.Path

/-- The steps of a path between slashes. -/
def steps : List Char → List (List Char)
  | [] => [[]]
  | '/' :: rest => [] :: steps rest
  | c :: rest =>
    match steps rest with
    | [] => [[c]]
    | step :: more => (c :: step) :: more

/-- The slashes a path begins with in its plain form: two count as they are, any other number as one. -/
def root (path : List Char) : List Char :=
  match (path.takeWhile (· == '/')).length with
  | 0 => []
  | 2 => ['/', '/']
  | _ => ['/']

end LoxScript.Path

namespace LoxScript

/-- The plain form of a path; a path without steps is the place it starts from. -/
def plainPath (path : String) : String :=
  let start := Path.root path.toList
  let steps := (Path.steps path.toList).filter fun step => step != [] && step != ['.']
  if start.isEmpty && steps.isEmpty then "."
  else String.ofList (start ++ ['/'].intercalate steps)

end LoxScript
