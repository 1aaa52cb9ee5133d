import LoxScript.Number.Arithmetic

/-! # Division

A quotient needs a divisor other than zero, and division asks for one behind a guard. The guard lets through
exactly the divisors that there is a quotient for, so that every division has a result.

* **`quotient?_eq_none_iff`** — the divisors without a quotient.
* **`equal_zero`** — what the guard catches.
* **`divide?_of_isZero`**, **`divide?_of_not_isZero`** — the results on either side of the guard.
* **`exists_divide?`** — there is one for all operands. -/

namespace LoxScript.Binary64

variable {x y : Binary64}

/-- **There is no quotient** iff the divisor is zero. -/
theorem quotient?_eq_none_iff : x.quotient? y = none ↔ y.isZero = true := by
  unfold quotient?
  split
  · next zero => exact iff_of_true rfl zero
  · next other => simp [other]

/-! ## The guard -/

/-- Only zeros are of the rank zero. -/
theorem rank_eq_zero_iff (number : x ≠ .nan) : x.rank = 0 ↔ x.isZero = true := by
  cases x with
  | nan => exact absurd rfl number
  | infinity s =>
    have powers : ∀ n, 0 < Nat.pow 2 n := Nat.two_pow_pos
    have beyond := powers 2099
    simp only [rank, isNegative, isZero, reduceCtorEq, iff_false]
    generalize Nat.pow 2 2099 = limit at beyond
    cases s <;> simp <;> omega
  | finite s m e canonical =>
    have units : m * Nat.pow 2 e = 0 ↔ m = 0 := by simp [Nat.mul_eq_zero]
    simp only [rank, isNegative, isZero, Binary64.units, beq_iff_eq]
    rw [← units]
    generalize m * Nat.pow 2 e = magnitude
    cases s <;> simp

/-- **The guard catches the zeros**, of either sign, and nothing else. -/
theorem equal_zero (x : Binary64) : x.equal (zero false) = x.isZero := by
  by_cases number : x = .nan
  · rw [number]; rfl
  · have rank : (x.rank == 0) = x.isZero := by
      rw [Bool.eq_iff_iff, beq_iff_eq, rank_eq_zero_iff number]
    have notNaN : x.isNaN = false := by
      cases x with
      | nan => exact absurd rfl number
      | infinity | finite => rfl
    have rankZero : (zero false).rank = 0 := (rank_eq_zero_iff (by simp [zero])).mpr rfl
    rw [equal, notNaN, rankZero, rank]
    rfl

/-! ## Signs -/

/-- A number keeps its magnitude under another sign. -/
@[simp] theorem isZero_copySign (x y : Binary64) : (x.copySign y).isZero = x.isZero := by
  cases x <;> rfl

/-- A number stays one under another sign. -/
theorem copySign_ne_nan (number : x ≠ .nan) : x.copySign y ≠ .nan := by
  cases x with
  | nan => exact absurd rfl number
  | infinity | finite => simp [copySign]

/-- A number takes the sign on. -/
theorem isNegative_copySign (number : x ≠ .nan) : (x.copySign y).isNegative = y.isNegative := by
  cases x with
  | nan => exact absurd rfl number
  | infinity | finite => rfl

/-- An infinity times a number other than zero is an infinity with the sign of the product. -/
theorem infinity_mul {s : Bool} (number : y ≠ .nan) (other : y.isZero = false) :
    infinity s * y = infinity (s != y.isNegative) := by
  cases y with
  | nan => exact absurd rfl number
  | infinity t => rfl
  | finite t m e canonical =>
    show (if (finite t m e canonical).isZero then _ else _) = _
    rw [if_neg (by rw [other]; exact Bool.false_ne_true)]

/-! ## Division -/

/-- **Division by zero** is not a number, or a signed infinity. -/
theorem divide?_of_isZero (zero : y.isZero = true) :
    x.divide? y = some (if x.isNaN || x.isZero then .nan else .infinity (x.isNegative != y.isNegative)) := by
  rw [divide?, equal_zero, equal_zero, if_pos zero, Bool.or_comm]
  have unity : ofRatio false one 1 ≠ .nan ∧ (ofRatio false one 1).isZero = false := by decide +kernel
  split
  · rfl
  · have signed : copySign (.infinity false) x = .infinity x.isNegative := rfl
    rw [signed, infinity_mul (copySign_ne_nan unity.1) (by rw [isZero_copySign, unity.2]),
      isNegative_copySign unity.1]

/-- **Division by anything else** is the quotient. -/
theorem divide?_of_not_isZero (other : y.isZero = false) : x.divide? y = x.quotient? y := by
  rw [divide?, equal_zero, other, if_neg Bool.false_ne_true]

/-- **Every division has a result**: where the guard does not give one, there is a quotient. -/
theorem exists_divide? (x y : Binary64) : ∃ z, x.divide? y = some z := by
  cases zero : y.isZero with
  | true => exact ⟨_, divide?_of_isZero zero⟩
  | false =>
    rw [divide?_of_not_isZero zero]
    cases quotient : x.quotient? y with
    | some z => exact ⟨z, rfl⟩
    | none =>
      rw [quotient?_eq_none_iff, zero] at quotient
      cases quotient

end LoxScript.Binary64
