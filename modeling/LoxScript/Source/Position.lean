/-! # Positions and spans
A position names one character of a source by line, column and offset; a span names a run of characters by
its first and its last one. Coordinates are integers, because a position made by hand may lie outside every
text. -/

namespace LoxScript

/-- The place of one character. -/
structure Position where
  /-- The line, counted from one. -/
  line : Int
  /-- The column within the line, counted from one; zero is just before the line. -/
  column : Int
  /-- The number of characters before this one in the source. -/
  offset : Int
  /-- The file that the source came from. -/
  file : Option String := none
  deriving DecidableEq, Repr, Inhabited

/-- A run of characters, both ends inclusive. -/
structure Span where
  /-- The first character. -/
  start : Position
  /-- The last character. -/
  stop : Position
  deriving DecidableEq, Repr, Inhabited

namespace Position

/-- The file name and a colon; nothing for a source without a file or with an empty file name. -/
def fileMark (p : Position) : String :=
  match p.file with
  | none => ""
  | some file => if file.isEmpty then "" else file ++ ":"

/-- Line and column, as written in messages. -/
def lineColumn (p : Position) : String := toString p.line ++ ":" ++ toString p.column

/-- The position as written in front of a message. -/
def text (p : Position) : String := p.fileMark ++ p.lineColumn

/-- The place just after `p` on the same line. -/
def next (p : Position) : Position := { p with column := p.column + 1, offset := p.offset + 1 }

end Position

namespace Span

/-- The span of one character. -/
def single (p : Position) : Span := ⟨p, p⟩

/-- Both ends as written in listings; the file is named once. -/
def text (s : Span) : String :=
  s.start.fileMark ++ s.start.lineColumn ++ "-" ++ s.stop.lineColumn

end Span

end LoxScript
