import LoxScript.Number.Rounding
import LoxScript.Text.CharClass

/-! # Decimal numbers
A decimal is a whole coefficient times a power of ten. It stands between the digits of a number literal
and the floating-point number nearest to them, and between a floating-point number and its text. -/

namespace LoxScript

/-- The number `coefficient * 10^exponent`. -/
structure Decimal where
  /-- The digits, read as one whole number. -/
  coefficient : Nat
  /-- The power of ten of the last digit. -/
  exponent : Int
  deriving DecidableEq, Repr

namespace Decimal

/-- The floating-point number nearest to a decimal. -/
def toBinary64 (d : Decimal) : Binary64 :=
  if 0 ≤ d.exponent then .ofRatio false (d.coefficient * Nat.pow 10 d.exponent.toNat * Binary64.one) 1
  else .ofRatio false (d.coefficient * Binary64.one) (Nat.pow 10 (-d.exponent).toNat)

/-- The whole number written by decimal digits of any script. -/
def readDigits (digits : List Char) : Option Nat :=
  digits.foldlM (fun n c => (CharClass.decimalDigit? c).map (10 * n + ·)) 0

/-- The decimal written as digits with at most one point among them. -/
def ofNumeral? (numeral : List Char) : Option Decimal :=
  let whole := numeral.takeWhile (· != '.')
  let fraction := (numeral.dropWhile (· != '.')).drop 1
  (readDigits (whole ++ fraction)).map fun n => ⟨n, -(fraction.length : Int)⟩

/-- The decimal digits of a whole number. -/
def digitsOf (n : Nat) : List Char := Nat.toDigits 10 n

/-- The same value without zeros at the end of the coefficient. -/
def trim (d : Decimal) : Decimal :=
  let kept := ((digitsOf d.coefficient).reverse.dropWhile (· == '0')).reverse
  let dropped := (digitsOf d.coefficient).length - kept.length
  ⟨d.coefficient / Nat.pow 10 dropped, d.exponent + dropped⟩

/-- The power of ten of the first digit. -/
def magnitude (d : Decimal) : Int := d.exponent + ((digitsOf d.coefficient).length - 1 : Nat)

/-- The digits without an exponent, with a point only if a digit stands after it. -/
def positional (d : Decimal) : List Char :=
  let ds := digitsOf d.coefficient
  if 0 ≤ d.exponent then ds ++ List.replicate d.exponent.toNat '0'
  else
    let places := (-d.exponent).toNat
    let padded := List.replicate (places + 1 - ds.length) '0' ++ ds
    padded.take (padded.length - places) ++ '.' :: padded.drop (padded.length - places)

/-- One digit, a point and the other digits if there are any, and the exponent with its sign and
at least two digits. -/
def scientific (d : Decimal) : List Char :=
  let power := digitsOf d.magnitude.natAbs
  let mantissa := match digitsOf d.coefficient with
    | first :: second :: rest => first :: '.' :: second :: rest
    | ds => ds
  mantissa ++ 'e' :: (if d.magnitude < 0 then '-' else '+') ::
    (List.replicate (2 - power.length) '0' ++ power)

end Decimal

end LoxScript
