import LoxScript.Diagnostic.Collector
import LoxScript.Grammar.Statement

/-! # Reading programs
A program is a list of declarations. One that cannot be read is recorded as a fault and skipped: reading
goes on behind the next semicolon or at the next word that begins a statement, until there have been
enough faults. -/

namespace LoxScript

namespace Grammar

/-- The tokens from which reading goes on after a fault: all of them if the token `previous` before them is
a semicolon, else the first end that begins a statement or follows a semicolon. -/
def resume (previous : Option Token) : List Token → List Token
  | [] => []
  | t :: rest =>
    if previous.any (·.kind == .semicolon) || t.kind.startsStatement then t :: rest
    else resume (some t) rest

/-- Reading goes on at an end of the tokens left. -/
theorem resume_suffix (previous : Option Token) (tokens : List Token) :
    resume previous tokens <:+ tokens := by
  induction tokens generalizing previous with
  | nil => exact List.suffix_refl _
  | cons t rest ih =>
    simp only [resume]; split
    · exact List.suffix_refl _
    · exact (ih _).trans (List.suffix_cons _ _)

/-- The tokens from which reading goes on when the declaration at `first :: more` failed with `left` still
to be read. A declaration that took no token loses one. -/
def recoverFrom (first : Token) (more left : List Token) : List Token :=
  let taken := (first :: more).take ((first :: more).length - left.length)
  match taken.getLast? with
  | none => resume (some first) more
  | some last => resume (some last) left

/-- Recovery leaves fewer tokens than the declaration began with. -/
theorem recoverFrom_length_lt (first : Token) (more left : List Token) :
    (recoverFrom first more left).length < (first :: more).length := by
  simp only [recoverFrom]
  split
  · exact Nat.lt_succ_of_le (resume_suffix _ _).length_le
  · next last h =>
    have some_taken : (first :: more).take ((first :: more).length - left.length) ≠ [] := by
      intro e; rw [e] at h; simp at h
    have shorter : left.length < (first :: more).length := by
      refine Nat.lt_of_not_le fun le => some_taken ?_
      rw [Nat.sub_eq_zero_of_le le, List.take_zero]
    exact Nat.lt_of_le_of_lt (resume_suffix _ _).length_le shorter

/-- What reading a whole list of tokens gives. -/
structure ProgramReading where
  /-- The statements that could be read. -/
  statements : List Stmt
  /-- One fault for each declaration that could not. -/
  faults : List (Fault SyntaxCause)
  /-- The tokens left when there were enough faults. -/
  rest : List Token

/-- Reads declarations to the end of the tokens, or until `limit` faults have been found, of which `found`
came earlier. Faults quote the line they are at if the lines of the source are known. -/
def readProgram (fin : Span) (lines : Option (List String)) (limit found : Nat)
    (tokens : List Token) : ProgramReading :=
  match tokens with
  | [] => ⟨[], [], []⟩
  | first :: more =>
    match declaration fin (first :: more) with
    | .done s rest _ =>
      let others := readProgram fin lines limit found rest
      { others with statements := s :: others.statements }
    | .failed fault left _ =>
      let fault := fault.quote (lines.getD [])
      if limit ≤ found + 1 then ⟨[], [fault], left⟩
      else
        let others := readProgram fin lines limit (found + 1) (recoverFrom first more left)
        { others with faults := fault :: others.faults }
termination_by tokens.length
decreasing_by
  · exact ‹Behind rest (first :: more)›.length_lt
  · exact recoverFrom_length_lt first more left

end Grammar

/-! ## Reading step by step -/

/-- Tokens being read, with the faults recorded so far. -/
structure Parser where
  /-- All tokens. -/
  tokens : List Token
  /-- The lines of the source, if it is known. -/
  lines : Option (List String)
  /-- The number of faults that are enough. -/
  limit : Nat := 20
  /-- The tokens not read yet. -/
  rest : List Token := tokens
  /-- The faults recorded so far. -/
  faults : List (Fault SyntaxCause) := []

namespace Parser

/-- A parser for the tokens of a source, if that is at hand. -/
def ofTokens (tokens : List Token) (source : Option String) (limit : Nat) : Parser where
  tokens := tokens
  lines := source.map Lines.ofSource
  limit := limit

/-- The place of faults at the end of the input. -/
def fin (p : Parser) : Span := Grammar.endSpan p.tokens

/-- The number of tokens read. -/
def position (p : Parser) : Nat := p.tokens.length - p.rest.length

/-- The token read last. -/
def previous? (p : Parser) : Option Token := (p.tokens.take p.position).getLast?

/-- Reads one phrase. A fault is not recorded, and what was read before it stays read. -/
def read {α : Type} (p : Parser) (phrase : Span → (tokens : List Token) → Grammar.Reading α tokens) :
    Except (Fault SyntaxCause) α × Parser :=
  let reading := phrase p.fin p.rest
  (reading.result, { p with rest := reading.left })

/-- Reads one token, whatever it is. -/
def advance (p : Parser) : Except (Fault SyntaxCause) Token × Parser :=
  match p.rest with
  | [] => (.error ⟨.unexpectedEnd .moreInput, p.fin, none⟩, p)
  | t :: rest => (.ok t, { p with rest := rest })

/-- Moves on to where reading resumes after a fault. A declaration that began at the position `start` and
took no token loses one, and so does one whose start is not told. -/
def synchronize (p : Parser) (start : Option Int) : Parser :=
  match p.rest with
  | [] => p
  | t :: more =>
    if start.all (· == (p.position : Int)) then { p with rest := Grammar.resume (some t) more }
    else { p with rest := Grammar.resume p.previous? (t :: more) }

/-- Reads declarations to the end, recording the faults. -/
def recover (p : Parser) : List Stmt × Parser :=
  let reading := Grammar.readProgram p.fin p.lines p.limit p.faults.length p.rest
  (reading.statements, { p with rest := reading.rest, faults := p.faults ++ reading.faults })

/-- The recorded faults as diagnostics. -/
def collector (p : Parser) : Collector where
  limit := p.limit
  diagnostics := p.faults.map fun fault => (fault.map Cause.grammatical).diagnostic

end Parser

/-- The statements of a program, or its first fault. -/
def parse (tokens : List Token) (source : Option String) : Except (Fault SyntaxCause) (List Stmt) :=
  let (statements, p) := (Parser.ofTokens tokens source 20).recover
  match p.faults with
  | [] => .ok statements
  | fault :: _ => .error fault

end LoxScript
