import LoxScript.Fault
import LoxScript.Number.Decimal
import LoxScript.Text.CharClass

/-! # Lexemes
`Lexeme.cut` cuts the first lexeme off a text: the longest beginning that is a blank, a comment, a mark, a
literal or a name. A text that begins with none of these loses one character to a fault, or all of its
characters if they are an unclosed string. -/

namespace LoxScript

/-- What a lexeme is. -/
inductive Lexeme.Shape where
  /-- One blank or newline. -/
  | blank
  /-- A comment up to the end of its line. -/
  | comment
  /-- A token, with its datum if it is a literal or a name. -/
  | token (kind : Kind) (datum : Option Datum)
  /-- Characters that are no lexeme of the language. -/
  | fault (cause : LexicalCause)
  deriving DecidableEq, Inhabited

/-- The characters at the beginning of a text that belong together, and what they are. -/
structure Lexeme where
  /-- What the characters are. -/
  shape : Lexeme.Shape
  /-- The characters. -/
  chars : List Char
  deriving DecidableEq, Inhabited

namespace Lexeme

/-- The marks of one character that no other mark continues. -/
def singleMark? : Char → Option Kind
  | '(' => some .leftParen
  | ')' => some .rightParen
  | '\x7b' => some .leftBrace
  | '\x7d' => some .rightBrace
  | ',' => some .comma
  | '.' => some .dot
  | '-' => some .minus
  | '+' => some .plus
  | ';' => some .semicolon
  | '*' => some .star
  | _ => none

/-- The marks that an equals sign continues: the kind with it, and the kind without. -/
def equalMark? : Char → Option (Kind × Kind)
  | '!' => some (.bangEqual, .bang)
  | '=' => some (.equalEqual, .equal)
  | '<' => some (.lessEqual, .less)
  | '>' => some (.greaterEqual, .greater)
  | _ => none

/-- A mark without a datum. -/
def mark (kind : Kind) (chars : List Char) : Lexeme := ⟨.token kind none, chars⟩

/-- A mark that an equals sign may continue. -/
def equalMark (kinds : Kind × Kind) (first : Char) : List Char → Lexeme
  | '=' :: _ => mark kinds.1 [first, '=']
  | _ => mark kinds.2 [first]

/-- What a slash begins: a comment if another slash follows. -/
def slash : List Char → Lexeme
  | '/' :: rest => ⟨.comment, '/' :: '/' :: rest.takeWhile (· != '\n')⟩
  | _ => mark .slash ['/']

/-- What a double quote begins: a string up to the next one, or a fault that takes everything. -/
def string (rest : List Char) : Lexeme :=
  let inside := rest.takeWhile (· != '"')
  match rest.dropWhile (· != '"') with
  | [] => ⟨.fault .unterminatedString, '"' :: rest⟩
  | _ :: _ => ⟨.token .string (some (.text (String.ofList inside))), '"' :: inside ++ ['"']⟩

/-- The point and the digits after it, if a digit follows the point. -/
def fraction : List Char → List Char
  | '.' :: d :: rest => if CharClass.isDigit d then '.' :: d :: rest.takeWhile CharClass.isDigit else []
  | _ => []

/-- The number literal that a digit begins. -/
def number (first : Char) (rest : List Char) : Lexeme :=
  let chars := first :: rest.takeWhile CharClass.isDigit ++ fraction (rest.dropWhile CharClass.isDigit)
  match Decimal.ofNumeral? chars with
  | some d => ⟨.token .number (some (.number d.toBinary64)), chars⟩
  | none => ⟨.fault (.invalidNumber (String.ofList chars)), chars⟩

/-- The reserved word or name that a letter begins. -/
def word (first : Char) (rest : List Char) : Lexeme :=
  let chars := first :: rest.takeWhile CharClass.isNamePart
  let text := String.ofList chars
  match Kind.ofKeyword? text with
  | some kind => mark kind chars
  | none => ⟨.token .identifier (some (.text text)), chars⟩

/-- The first lexeme of the text `first :: rest`. -/
def cut (first : Char) (rest : List Char) : Lexeme :=
  match singleMark? first with
  | some kind => mark kind [first]
  | none =>
  match equalMark? first with
  | some kinds => equalMark kinds first rest
  | none =>
  if first = '/' then slash rest
  else if first = '"' then string rest
  else if CharClass.isAsciiDigit first then number first rest
  else if CharClass.isNameStart first then word first rest
  else if CharClass.isBlank first || first == '\n' then ⟨.blank, [first]⟩
  else ⟨.fault (.unexpectedCharacter first), [first]⟩

/-! ## A lexeme is a beginning of its text -/

/-- The fraction of a number is where the text goes on. -/
theorem fraction_isPrefix (text : List Char) : fraction text <+: text := by
  unfold fraction
  split
  · split
    · exact List.cons_prefix_cons.2 ⟨rfl, List.cons_prefix_cons.2 ⟨rfl, List.takeWhile_prefix _⟩⟩
    · exact List.nil_prefix
  · exact List.nil_prefix

/-- A lexeme consists of the characters its text begins with. -/
theorem cut_isPrefix (first : Char) (rest : List Char) : (cut first rest).chars <+: first :: rest := by
  have one : [first] <+: first :: rest := ⟨rest, rfl⟩
  unfold cut
  split
  · exact one
  split
  · unfold equalMark; split
    · exact ⟨_, rfl⟩
    · exact one
  split
  · next h =>
    subst h; unfold slash; split
    · exact List.cons_prefix_cons.2 ⟨rfl, List.cons_prefix_cons.2 ⟨rfl, List.takeWhile_prefix _⟩⟩
    · exact one
  split
  · next h =>
    subst h
    simp only [string]; split
    · exact List.prefix_refl _
    · next d ds e =>
      have hd : d = '"' := by
        have := List.head?_dropWhile_not (· != '"') rest
        rw [e] at this; simpa using this
      refine List.cons_prefix_cons.2 ⟨rfl, ds, ?_⟩
      have := List.takeWhile_append_dropWhile (p := (· != '"')) (l := rest)
      rw [e, hd] at this
      simpa using this
  split
  · have : first :: rest.takeWhile CharClass.isDigit ++ fraction (rest.dropWhile CharClass.isDigit)
        <+: first :: rest := by
      refine List.cons_prefix_cons.2 ⟨rfl, ?_⟩
      have h := (List.prefix_append_right_inj (rest.takeWhile CharClass.isDigit)).2
        (fraction_isPrefix (rest.dropWhile CharClass.isDigit))
      rwa [List.takeWhile_append_dropWhile] at h
    simp only [number]; split <;> exact this
  split
  · have : first :: rest.takeWhile CharClass.isNamePart <+: first :: rest :=
      List.cons_prefix_cons.2 ⟨rfl, List.takeWhile_prefix _⟩
    simp only [word]; split <;> exact this
  split <;> exact one

/-- A lexeme has at least one character. -/
theorem cut_ne_nil (first : Char) (rest : List Char) : (cut first rest).chars ≠ [] := by
  unfold cut
  split
  · simp [mark]
  split
  · unfold equalMark; split <;> simp [mark]
  split
  · unfold slash; split <;> simp [mark]
  split
  · simp only [string]; split <;> simp
  split
  · simp only [number]; split <;> simp
  split
  · simp only [word]; split <;> simp [mark]
  split <;> simp

end Lexeme

end LoxScript
