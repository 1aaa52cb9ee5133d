import LoxScript.Source.Position

/-! # Diagnostics
A diagnostic tells the user what is wrong at some place of a source. It is written as a head line and, where
the source line is known, that line with carets under the place meant, and the hints. -/

namespace LoxScript

/-- How grave a diagnostic is. -/
inductive Severity where
  | error | warning | info | hint
  deriving DecidableEq, Repr, Inhabited

/-- The word for a severity. -/
def Severity.name : Severity → String
  | error => "error"
  | warning => "warning"
  | info => "info"
  | hint => "hint"

/-- A message about a place of a source. -/
structure Diagnostic where
  /-- The code of the message. -/
  code : String
  /-- The message itself. -/
  message : String
  /-- How grave it is. -/
  severity : Severity
  /-- The place it is about. -/
  span : Span
  /-- The source line in which the place starts, if it is known. -/
  sourceLine : Option String := none
  /-- Advice, one line each. -/
  hints : List String := []
  deriving DecidableEq, Repr, Inhabited

namespace Diagnostic

/-- The head line: place, severity, code and message. -/
def head (d : Diagnostic) : String :=
  d.span.start.text ++ ": " ++ d.severity.name ++ "[" ++ d.code ++ "]: " ++ d.message

/-- The width of the margin that holds the line number. -/
def marginWidth : Nat := 3

/-- The line number, filled with blanks on the left up to the width of the margin. -/
def margin (line : Int) : String :=
  let number := toString line
  String.ofList (List.replicate (marginWidth - number.length) ' ') ++ number

/-- The column of the first caret: that of the place, but never before the line. -/
def caretColumn (d : Diagnostic) : Int := max 1 d.span.start.column

/-- The number of carets: to the end of the place if it ends on the same line, else to the end of the
quoted line; at least one. -/
def caretCount (d : Diagnostic) (quotedLine : String) : Nat :=
  let stop : Int :=
    if d.span.start.line = d.span.stop.line then d.span.stop.column + 1 else quotedLine.length + 1
  (max 1 (stop - d.caretColumn)).toNat

/-- The carets behind as many blanks as put the first of them under its column. -/
def caretLine (d : Diagnostic) (quotedLine : String) : String :=
  String.ofList (List.replicate (d.caretColumn - 1).toNat ' ' ++
    List.replicate (d.caretCount quotedLine) '^')

/-- The quoted source line between a margin and the carets. -/
def quotation (d : Diagnostic) (quotedLine : String) : List String :=
  ["  |", margin d.span.start.line ++ " | " ++ quotedLine, "    | " ++ d.caretLine quotedLine]

/-- The lines of the written form. -/
def lines (d : Diagnostic) (showSource : Bool) : List String :=
  let quoted := match d.sourceLine with
    | some text => if showSource then d.quotation text else []
    | none => []
  d.head :: (quoted ++ d.hints.map ("    = hint: " ++ ·))

/-- The written form. -/
def text (d : Diagnostic) (showSource : Bool) : String := "\n".intercalate (d.lines showSource)

end Diagnostic

end LoxScript
