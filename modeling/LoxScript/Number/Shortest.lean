import LoxScript.Number.Decimal

/-! # The shortest decimal that reads back
Among the decimals whose nearest floating-point number is `x`, one with the fewest digits; of those the
nearest to `x`, and of two equally near the one with the even last digit. Seventeen digits are always
enough; the exact expansion that ends the search makes that fact needless for totality. -/

namespace LoxScript.Binary64

/-- The value of `units` units divided by `10^power`, as a ratio. -/
def ratioTo (units : Nat) (power : Int) : Nat × Nat :=
  if 0 ≤ power then (units, one * Nat.pow 10 power.toNat)
  else (units * Nat.pow 10 (-power).toNat, one)

/-- The power of ten of the first decimal digit of a positive number of units. Scaling by `10^400` makes
the whole part of even one unit positive. -/
def firstPower (units : Nat) : Int :=
  (Decimal.digitsOf (units * Nat.pow 10 400 / one)).length - 401

/-- The two neighbours of a value on the grid of the multiples of `10^power`, the nearer one first. -/
def neighbours (units : Nat) (power : Int) : List Decimal :=
  let (num, den) := ratioTo units power
  let low := num / den
  let near := nearestEven num den
  [⟨near, power⟩, ⟨if near = low then low + 1 else low, power⟩]

/-- Every digit of a number of units: one unit is `5^1074 * 10^-1074`. -/
def exactDecimal (units : Nat) : Decimal := ⟨units * Nat.pow 5 1074, -1074⟩

/-- The shortest decimal for the magnitude of a finite number. -/
def shortest (x : Binary64) : Decimal :=
  let units := x.units
  let first := firstPower units
  let candidates := (List.range 17).flatMap fun k : Nat => neighbours units (first - k)
  ((candidates.find? fun d => d.toBinary64.units == units).getD (exactDecimal units)).trim

end LoxScript.Binary64
