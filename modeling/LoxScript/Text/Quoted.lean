import LoxScript.Text.CharClass

/-! # Quoted text
The quoted form in which token listings, debug dumps and some messages show a piece of text: between
quotation marks, on one line, and with every character that does not print written as an escape. -/

namespace LoxScript.Quoted

/-- The mark that surrounds `text`: an apostrophe, unless the text holds an apostrophe and no double quote. -/
def mark (text : List Char) : Char :=
  if text.contains '\'' && !text.contains '"' then '"' else '\''

/-- The last `width` hexadecimal digits of `n`, in lower case. -/
def hex (width n : Nat) : List Char :=
  match width with
  | 0 => []
  | w + 1 => hex w (n / 16) ++ [Nat.digitChar (n % 16)]

/-- The escape of a character by its code point, in the shortest of the three forms that holds it. -/
def codeEscape (c : Char) : List Char :=
  let n := c.toNat
  if n < 0x100 then '\\' :: 'x' :: hex 2 n
  else if n < 0x10000 then '\\' :: 'u' :: hex 4 n
  else '\\' :: 'U' :: hex 8 n

/-- How one character is shown between marks `q`. -/
def encodeChar (q c : Char) : List Char :=
  if c == q || c == '\\' then ['\\', c]
  else if c == '\n' then ['\\', 'n']
  else if c == '\r' then ['\\', 'r']
  else if c == '\t' then ['\\', 't']
  else if CharClass.isPrintable c then [c]
  else codeEscape c

/-- The characters of the quoted form. -/
def encode (text : List Char) : List Char :=
  let q := mark text
  q :: (text.flatMap (encodeChar q) ++ [q])

end LoxScript.Quoted

namespace LoxScript

/-- The quoted form of `text`. -/
def quoted (text : String) : String := String.ofList (Quoted.encode text.toList)

end LoxScript
