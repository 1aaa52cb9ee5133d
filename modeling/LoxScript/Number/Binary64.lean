/-! # Binary floating-point numbers of 64 bits
A number is a sign, a significand of at most 53 bits and a binary exponent, or an infinity, or the one
value that is not a number. Every finite number is a whole multiple of the least positive one, `2^-1074`,
here called the *unit*: its magnitude in units is the natural number `significand * 2^exponent`. All
arithmetic below is exact arithmetic on units followed by one rounding. -/

namespace LoxScript

/-- The significand and exponent of a finite number: the significand has 53 bits, or fewer when the
exponent is the least one. -/
def Binary64.Canonical (significand exponent : Nat) : Prop :=
  significand < Nat.pow 2 53 ∧ exponent ≤ 2045 ∧ (Nat.pow 2 52 ≤ significand ∨ exponent = 0)

/-- A binary floating-point number of 64 bits. -/
inductive Binary64 where
  /-- The result of an operation that has no numerical answer. -/
  | nan
  /-- An infinity of either sign. -/
  | infinity (negative : Bool)
  /-- The number `± significand * 2^exponent` units. -/
  | finite (negative : Bool) (significand exponent : Nat)
      (canonical : Binary64.Canonical significand exponent)
  deriving DecidableEq

namespace Binary64

/-- The number of units in one. -/
def one : Nat := Nat.pow 2 1074

instance (m e : Nat) : Decidable (Canonical m e) := inferInstanceAs (Decidable (_ ∧ _ ∧ _))

/-- A zero of either sign. -/
def zero (negative : Bool) : Binary64 := .finite negative 0 0 (by decide)

instance : Inhabited Binary64 := ⟨zero false⟩

/-- The number with the given sign and a rounded significand. A significand that rounding has carried to
`2^53` moves to the next exponent; beyond the largest exponent the number is an infinity. -/
def pack (negative : Bool) (m e : Nat) (bound : m ≤ Nat.pow 2 53) (full : Nat.pow 2 52 ≤ m ∨ e = 0) : Binary64 :=
  if carried : m = Nat.pow 2 53 then
    if small : e + 1 ≤ 2045 then
      .finite negative (Nat.pow 2 52) (e + 1) ⟨by decide, small, .inl (Nat.le_refl _)⟩
    else .infinity negative
  else if small : e ≤ 2045 then
    .finite negative m e ⟨Nat.lt_of_le_of_ne bound carried, small, full⟩
  else .infinity negative

/-- The number that a word of 64 bits stands for: a sign bit, eleven exponent bits and 52 fraction bits,
from the most significant. -/
def ofBits (word : UInt64) : Binary64 :=
  let negative := Nat.pow 2 63 ≤ word.toNat
  let exponent := word.toNat / Nat.pow 2 52 % Nat.pow 2 11
  let fraction := word.toNat % Nat.pow 2 52
  have short : fraction < Nat.pow 2 52 := Nat.mod_lt _ (by decide)
  have double : Nat.pow 2 53 = Nat.pow 2 52 + Nat.pow 2 52 := rfl
  if exponent = 0 then
    pack negative fraction 0 (by omega) (.inr rfl)
  else if exponent = 2047 then
    if fraction = 0 then .infinity negative else .nan
  else
    pack negative (Nat.pow 2 52 + fraction) (exponent - 1) (by omega) (.inl (by omega))

/-- The magnitude in units. -/
def units : Binary64 → Nat
  | .finite _ m e _ => m * Nat.pow 2 e
  | _ => 0

/-- Whether the sign is negative. -/
def isNegative : Binary64 → Bool
  | .nan => false
  | .infinity s => s
  | .finite s .. => s

/-- Whether this is the value that is not a number. -/
def isNaN : Binary64 → Bool
  | .nan => true
  | _ => false

/-- Whether this is a zero of either sign. -/
def isZero : Binary64 → Bool
  | .finite _ m _ _ => m == 0
  | _ => false

/-- The place of a number on the scale of signed units; the infinities lie beyond all finite numbers. -/
def rank (x : Binary64) : Int :=
  let magnitude := match x with
    | .infinity _ => Nat.pow 2 2099
    | y => y.units
  if x.isNegative then -(magnitude : Int) else magnitude

/-- The whole number that equals `x`, if one does. -/
def integer? : Binary64 → Option Int
  | .finite s m e _ =>
    let u := m * Nat.pow 2 e
    if u % one = 0 then some (if s then -((u / one : Nat) : Int) else (u / one : Nat)) else none
  | _ => none

end Binary64

end LoxScript
