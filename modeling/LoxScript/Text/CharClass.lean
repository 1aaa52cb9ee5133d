import LoxScript.Text.CharTable

/-! # Character classes
The classes of characters that the lexical grammar and the quoted form of text are written in. ASCII is
decided by comparison, everything else by the ranges of `LoxScript.CharTable`. -/

namespace LoxScript.CharClass

/-- Whether the code point of `c` lies in one of the ranges. -/
def inRanges (ranges : List (Nat × Nat)) (c : Char) : Bool :=
  ranges.any fun r => r.1 ≤ c.toNat && c.toNat ≤ r.2

/-- Whether `c` is an ASCII character. -/
def isAscii (c : Char) : Bool := c.toNat < 128

/-- One of the ten digits `0` to `9`, the only characters a number may start with. -/
def isAsciiDigit (c : Char) : Bool := '0' ≤ c && c ≤ '9'

/-- A letter `a` to `z` or `A` to `Z`. -/
def isAsciiLetter (c : Char) : Bool := ('a' ≤ c && c ≤ 'z') || ('A' ≤ c && c ≤ 'Z')

/-- The value of a decimal digit of any script. -/
def decimalDigit? (c : Char) : Option Nat :=
  if isAsciiDigit c then some (c.toNat - '0'.toNat)
  else (CharTable.decimalZeros.find? fun z => z ≤ c.toNat && c.toNat < z + 10).map (c.toNat - ·)

/-- A digit in the wide sense: a decimal digit of any script, or a sign such as `²` that stands for a
digit without being one. -/
def isDigit (c : Char) : Bool :=
  isAsciiDigit c || (!isAscii c && ((decimalDigit? c).isSome || inRanges CharTable.otherDigits c))

/-- A letter or a numeric character of any script. -/
def isAlphanumeric (c : Char) : Bool :=
  isAsciiDigit c || isAsciiLetter c || (!isAscii c && inRanges CharTable.alphanumeric c)

/-- A character that quoted text shows as itself. -/
def isPrintable (c : Char) : Bool :=
  (' ' ≤ c && c ≤ '~') || (!isAscii c && inRanges CharTable.printable c)

/-- A character that may start a name. -/
def isNameStart (c : Char) : Bool := isAsciiLetter c || c == '_'

/-- A character that may continue a name. -/
def isNamePart (c : Char) : Bool := isAlphanumeric c || c == '_'

/-- A character that separates lexemes and is not a newline. -/
def isBlank (c : Char) : Bool := c == ' ' || c == '\r' || c == '\t'

/-- Every ASCII digit is a digit. -/
theorem isDigit_of_isAsciiDigit {c : Char} (h : isAsciiDigit c = true) : isDigit c = true := by
  simp [isDigit, h]

/-- A character that may start a name may also continue one. -/
theorem isNamePart_of_isNameStart {c : Char} (h : isNameStart c = true) : isNamePart c = true := by
  rcases Bool.or_eq_true_iff.1 h with h | h <;> simp [isNamePart, isAlphanumeric, h]

end LoxScript.CharClass
