import LoxScript.Number.Arithmetic
import LoxScript.Number.Text
import LoxScript.Text.Quoted

/-! # Values
What an expression evaluates to: a truth value, nothing, a number or a text. Values never change. -/

namespace LoxScript

/-- A value of the running program. -/
inductive Value where
  /-- The value of a variable that was given none. -/
  | nil
  /-- A truth value. -/
  | boolean (b : Bool)
  /-- A number. -/
  | number (x : Binary64)
  /-- A text. -/
  | text (s : String)
  deriving DecidableEq, Inhabited

namespace Value

/-- The text that `print` writes. -/
def printed : Value → String
  | nil => "nil"
  | boolean true => "true"
  | boolean false => "false"
  | number x => x.plain
  | text s => s

/-- The text by which messages refer to a value: texts stand between double quotes. -/
def display : Value → String
  | text s => "\"" ++ s ++ "\""
  | v => v.printed

/-- The value as listings show it, with the name of its type. -/
def listing : Value → String
  | nil => "Value(None, NIL)"
  | boolean true => "Value(True, BOOLEAN)"
  | boolean false => "Value(False, BOOLEAN)"
  | number x => "Value(" ++ x.short ++ ", NUMBER)"
  | text s => "Value(" ++ quoted s ++ ", STRING)"

/-- Whether a condition with this value holds: not for nothing, not for false and not for zero. -/
def isTruthy : Value → Bool
  | nil => false
  | boolean b => b
  | number x => !x.isZero
  | text _ => true

/-- Whether the value is a number. -/
def isNumber : Value → Bool
  | number _ => true
  | _ => false

/-- Equality within the language: values of different types differ, and what is not a
number differs from everything. -/
def equal : Value → Value → Bool
  | nil, nil => true
  | boolean a, boolean b => a == b
  | number x, number y => x.equal y
  | text s, text t => s == t
  | _, _ => false

end Value

end LoxScript
