import LoxScript.Number.Rounding

/-! # Arithmetic and comparison
The operations, negation and the comparisons of binary floating-point numbers. Each finite result is the
exact one, rounded once. A quotient needs a divisor other than zero; the division of the language asks for one
behind a guard, which makes a signed infinity of a number divided by zero. -/

namespace LoxScript.Binary64

/-- The number with the other sign. -/
def neg : Binary64 → Binary64
  | .nan => .nan
  | .infinity s => .infinity !s
  | .finite s m e h => .finite (!s) m e h

/-- The sum. An exact zero is negative only if both operands are. -/
def add : Binary64 → Binary64 → Binary64
  | .nan, _ => .nan
  | _, .nan => .nan
  | .infinity s, .infinity t => if s = t then .infinity s else .nan
  | .infinity s, _ => .infinity s
  | _, .infinity t => .infinity t
  | x@(.finite s ..), y@(.finite t ..) =>
    let total := x.rank + y.rank
    if total = 0 then zero (s && t) else ofRatio (total < 0) total.natAbs 1

/-- The difference. -/
def sub (x y : Binary64) : Binary64 := add x (neg y)

/-- The product. -/
def mul : Binary64 → Binary64 → Binary64
  | .nan, _ => .nan
  | _, .nan => .nan
  | .infinity s, y => if y.isZero then .nan else .infinity (s != y.isNegative)
  | x, .infinity t => if x.isZero then .nan else .infinity (x.isNegative != t)
  | x@(.finite s ..), y@(.finite t ..) => ofRatio (s != t) (x.units * y.units) one

/-- The quotient. Nothing can be divided by zero, not even what is not a number. -/
def quotient? (x y : Binary64) : Option Binary64 :=
  if y.isZero then none
  else some <|
    match x, y with
    | .nan, _ => .nan
    | _, .nan => .nan
    | .infinity _, .infinity _ => .nan
    | .infinity s, y => .infinity (s != y.isNegative)
    | x, .infinity t => zero (x.isNegative != t)
    | x@(.finite s ..), y@(.finite t ..) => ofRatio (s != t) (x.units * one) y.units

/-- The number with the magnitude of `x` and the sign of `y`. -/
def copySign (x y : Binary64) : Binary64 :=
  match x with
  | .nan => .nan
  | .infinity _ => .infinity y.isNegative
  | .finite _ m e h => .finite y.isNegative m e h

instance : Neg Binary64 := ⟨neg⟩
instance : Add Binary64 := ⟨add⟩
instance : Sub Binary64 := ⟨sub⟩
instance : Mul Binary64 := ⟨mul⟩

/-- Whether `x` is smaller than `y`; never so if either is not a number. -/
def less (x y : Binary64) : Bool := !x.isNaN && !y.isNaN && x.rank < y.rank

/-- Whether `x` is smaller than or equal to `y`; never so if either is not a number. -/
def atMost (x y : Binary64) : Bool := !x.isNaN && !y.isNaN && x.rank ≤ y.rank

/-- Numerical equality: the zeros are equal, and what is not a number equals nothing. -/
def equal (x y : Binary64) : Bool := !x.isNaN && !y.isNaN && x.rank == y.rank

/-- **Division as the language has it.** A divisor equal to zero is caught before the quotient is asked for:
zero, and what is not a number, give what is not a number, and other numbers an infinity with the sign of a
product. Should the quotient be missing all the same, there is no result. -/
def divide? (x y : Binary64) : Option Binary64 :=
  if y.equal (zero false) then
    if x.equal (zero false) || x.isNaN then some .nan
    else some (copySign (.infinity false) x * copySign (ofRatio false one 1) y)
  else quotient? x y

end LoxScript.Binary64
