import LoxScript.Number.Text
import LoxScript.Source.Position
import LoxScript.Text.Quoted
import LoxScript.Token.Kind

/-! # Tokens
A token is a lexeme with its kind, the datum it stands for and its place in the source. -/

namespace LoxScript

/-- What a literal or a name stands for. -/
inductive Datum where
  /-- The value of a number literal. -/
  | number (x : Binary64)
  /-- The characters of a string literal, or a name. -/
  | text (s : String)
  deriving DecidableEq, Inhabited

/-- A token of the language. -/
structure Token where
  /-- The lexical class. -/
  kind : Kind
  /-- The datum of a literal or name. -/
  datum : Option Datum := none
  /-- The characters of the token in the source. -/
  lexeme : String
  /-- The place of the lexeme. -/
  span : Span
  deriving DecidableEq, Inhabited

namespace Datum

/-- The datum as listings show it: the short form of a number, the quoted form of a text. -/
def listing : Datum → String
  | number x => x.short
  | text s => quoted s

/-- The datum as a text. -/
def asText : Datum → String
  | number x => x.short
  | text s => s

/-- The word that stands for a datum that a token made by hand lacks. -/
def missing : String := "None"

end Datum

namespace Token

/-- The line of a token is that of its last character. -/
def line (t : Token) : Int := t.span.stop.line

/-- The column of a token is that of its last character. -/
def column (t : Token) : Int := t.span.stop.column

/-- Whether the token is a name. -/
def isIdentifier (t : Token) : Bool := t.kind == .identifier

/-- The token as listings show it: the name of its kind, and for literals and names the datum. -/
def listing (t : Token) : String :=
  match t.kind with
  | .number | .string | .identifier =>
    t.kind.name ++ "(" ++ (t.datum.map Datum.listing).getD Datum.missing ++ ")"
  | _ => t.kind.name

/-- The text that a string token stands for. -/
def text (t : Token) : String := (t.datum.map Datum.asText).getD Datum.missing

/-- Line and column, as listings and dumps write them after a token. -/
def place (t : Token) : String := t.span.stop.lineColumn

end Token

end LoxScript
