import LoxScript.Lexeme
import LoxScript.Source.Cursor

/-! # Scanning
A scanner cuts a source into lexemes from the front and turns each into a token or a fault at its place;
blanks and comments only move it on. It can be stopped after any result and resumed, and a fault never
stops it for good. -/

namespace LoxScript

/-- A token, or the fault that stands in its place. -/
abbrev Scanned := Except (Fault LexicalCause) Token

/-- A source being scanned. -/
structure Scanner where
  /-- The lines of the source, to be quoted by faults. -/
  lines : List String
  /-- The file the source came from. -/
  file : Option String
  /-- How much of the source has been consumed. -/
  cursor : Cursor
  /-- The line of the character consumed last, or of the one after it if that was a newline. -/
  line : Nat := 1
  /-- The column of the character consumed last. -/
  column : Nat := 0
  /-- The offset at which the lexeme cut last begins. -/
  start : Nat := 0

namespace Scanner

/-- The scanner at the start of a source. -/
def ofSource (source : String) (file : Option String) : Scanner where
  lines := Lines.ofSource source
  file := file
  cursor := Cursor.atStart source.toList

/-- Whether the whole source has been consumed. -/
def atEnd (s : Scanner) : Bool := s.cursor.atEnd

/-- Line and column after consuming `text` from a line and column. -/
def advance (place : Nat × Nat) (text : List Char) : Nat × Nat :=
  text.foldl (fun p c => if c = '\n' then (p.1 + 1, 0) else (p.1, p.2 + 1)) place

/-- The position of the character about to be consumed. -/
def nextPosition (s : Scanner) : Position where
  line := s.line
  column := s.column + 1
  offset := s.cursor.position
  file := s.file

/-- The position of the character consumed last. -/
def lastPosition (s : Scanner) : Position where
  line := s.line
  column := s.column
  offset := (s.cursor.position - 1 : Nat)
  file := s.file

/-- The scanner after the characters of a lexeme. -/
def consume (s : Scanner) (chars : List Char) : Scanner :=
  let place := advance (s.line, s.column) chars
  { s with
    start := s.cursor.position
    cursor := s.cursor.skip chars.length
    line := place.1
    column := place.2 }

/-- What a lexeme between two states of the scanner yields: nothing, a token or a fault. -/
def yield? (before after : Scanner) (lexeme : Lexeme) : Option Scanned :=
  let span : Span := ⟨before.nextPosition, after.lastPosition⟩
  match lexeme.shape with
  | .blank | .comment => none
  | .token kind datum => some (.ok ⟨kind, datum, String.ofList lexeme.chars, span⟩)
  | .fault cause => some (.error ((⟨cause, span, none⟩ : Fault LexicalCause).quote before.lines))

/-- Consumes one lexeme, unless the source is at its end. -/
def step? (s : Scanner) : Option (Option Scanned × Scanner) :=
  match s.cursor.ahead with
  | [] => none
  | first :: rest =>
    let lexeme := Lexeme.cut first rest
    let after := s.consume lexeme.chars
    some (yield? s after lexeme, after)

/-- A step leaves fewer characters ahead. -/
theorem step?_shorter {s t : Scanner} {r : Option Scanned} (h : s.step? = some (r, t)) :
    t.cursor.ahead.length < s.cursor.ahead.length := by
  unfold step? at h
  split at h
  · simp at h
  · next first rest e =>
    simp only [Option.some.injEq, Prod.mk.injEq] at h
    have positive := List.length_pos_iff.2 (Lexeme.cut_ne_nil first rest)
    rw [← h.2, e]
    simp only [consume, Cursor.skip, e, List.length_drop, List.length_cons]
    omega

/-- The next token or fault, if there is one, and the scanner after it. -/
def next? (s : Scanner) : Option Scanned × Scanner :=
  match _h : s.step? with
  | none => (none, s)
  | some (some r, t) => (some r, t)
  | some (none, t) => next? t
termination_by s.cursor.ahead.length
decreasing_by exact step?_shorter _h

/-- All tokens and faults still to come, and the scanner at the end. -/
def rest (s : Scanner) : List Scanned × Scanner :=
  match _h : s.step? with
  | none => ([], s)
  | some (r, t) =>
    let (more, final) := rest t
    (r.toList ++ more, final)
termination_by s.cursor.ahead.length
decreasing_by exact step?_shorter _h

/-- All results up to the first fault, that fault included, and the scanner after it. -/
def untilFault (s : Scanner) : List Scanned × Scanner :=
  match _h : s.step? with
  | none => ([], s)
  | some (some (.error fault), t) => ([.error fault], t)
  | some (r, t) =>
    let (more, final) := untilFault t
    (r.toList ++ more, final)
termination_by s.cursor.ahead.length
decreasing_by exact step?_shorter _h

end Scanner

/-- All tokens and faults of a source, in order. -/
def scan (source : String) (file : Option String) : List Scanned := (Scanner.ofSource source file).rest.1

/-- The tokens among results, or the first fault among them. -/
def tokensOf : List Scanned → Except (Fault LexicalCause) (List Token)
  | [] => .ok []
  | .error fault :: _ => .error fault
  | .ok t :: more => (tokensOf more).map (t :: ·)

/-- The tokens of a source, or its first fault. -/
def tokenize (source : String) (file : Option String) : Except (Fault LexicalCause) (List Token) :=
  tokensOf (Scanner.ofSource source file).untilFault.1

end LoxScript
