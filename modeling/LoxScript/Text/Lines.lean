/-! # Lines of a text
A source is cut into lines at newlines; a line is quoted without the carriage returns it ends in. -/

namespace LoxScript.Lines

/-- The pieces of `text` between newlines; a text without newlines is one piece. -/
def split : List Char → List (List Char)
  | [] => [[]]
  | '\n' :: rest => [] :: split rest
  | c :: rest =>
    match split rest with
    | [] => [[c]]
    | line :: lines => (c :: line) :: lines

/-- A line without the carriage returns at its end. -/
def trimReturns (line : List Char) : List Char :=
  (line.reverse.dropWhile (· == '\r')).reverse

/-- The lines of a source as diagnostics quote them. -/
def ofSource (source : String) : List String :=
  (split source.toList).map fun line => String.ofList (trimReturns line)

/-- Line `number` of `lines`, counted from one. -/
def get? (lines : List String) (number : Int) : Option String :=
  if 1 ≤ number then lines[(number - 1).toNat]? else none

/-- A text with every carriage return, alone or before a newline, read as a newline. -/
def universal : List Char → List Char
  | [] => []
  | '\r' :: '\n' :: rest => '\n' :: universal rest
  | '\r' :: rest => '\n' :: universal rest
  | c :: rest => c :: universal rest

end LoxScript.Lines
