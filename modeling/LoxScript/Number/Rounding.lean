import LoxScript.Number.Binary64

/-! # Rounding a ratio to the nearest number
`Binary64.ofRatio` is the one place where an exact value becomes a floating-point number: the nearest
one, a value half way between two going to the one with the even significand. -/

namespace LoxScript

/-- The whole number nearest to `num / den`; of two equally near the even one. -/
def nearestEven (num den : Nat) : Nat :=
  let q := num / den
  let r := num % den
  if 2 * r < den then q else if den < 2 * r then q + 1 else q + q % 2

/-- The nearest whole number is at least the quotient. -/
theorem div_le_nearestEven (num den : Nat) : num / den ≤ nearestEven num den := by
  simp only [nearestEven]; split
  · exact Nat.le_refl _
  · split <;> omega

/-- The nearest whole number is at most one more than the quotient. -/
theorem nearestEven_le (num den : Nat) : nearestEven num den ≤ num / den + 1 := by
  simp only [nearestEven]; split
  · omega
  · split <;> omega

namespace Binary64

/-- The exponent for a magnitude of `n` whole units: the least one that leaves at most 53 bits. -/
def exponentFor (n : Nat) : Nat := n.log2 - 52

/-- At its exponent a magnitude has at most 53 bits. -/
theorem div_exponentFor_lt (n : Nat) : n / Nat.pow 2 (exponentFor n) < Nat.pow 2 53 := by
  simp only [Nat.pow_eq]
  rw [Nat.div_lt_iff_lt_mul (Nat.two_pow_pos _), ← Nat.pow_add]
  exact Nat.lt_of_lt_of_le Nat.lt_log2_self
    (Nat.pow_le_pow_right (by decide) (by simp only [exponentFor]; omega))

/-- At its exponent a magnitude has all 53 bits, unless the exponent is the least one. -/
theorem le_div_exponentFor (n : Nat) :
    Nat.pow 2 52 ≤ n / Nat.pow 2 (exponentFor n) ∨ exponentFor n = 0 := by
  simp only [Nat.pow_eq]
  by_cases h : n.log2 ≤ 52
  · exact .inr (by simp only [exponentFor]; omega)
  · refine .inl ((Nat.le_div_iff_mul_le (Nat.two_pow_pos _)).2 ?_)
    have hn : n ≠ 0 := by rintro rfl; simp at h
    rw [← Nat.pow_add]
    have e : 52 + exponentFor n = n.log2 := by simp only [exponentFor]; omega
    rw [e]
    exact Nat.log2_self_le hn

/-- The number nearest to `± num / den` units. -/
def ofRatio (negative : Bool) (num den : Nat) : Binary64 :=
  let e := exponentFor (num / den)
  have quotient : num / (den * Nat.pow 2 e) = num / den / Nat.pow 2 e := by rw [Nat.div_div_eq_div_mul]
  pack negative (nearestEven num (den * Nat.pow 2 e)) e
    (by
      have upper := nearestEven_le num (den * Nat.pow 2 e)
      have bound : num / den / Nat.pow 2 e < Nat.pow 2 53 := div_exponentFor_lt (num / den)
      omega)
    (by
      have lower := div_le_nearestEven num (den * Nat.pow 2 e)
      have full : Nat.pow 2 52 ≤ num / den / Nat.pow 2 e ∨ e = 0 := le_div_exponentFor (num / den)
      omega)

end Binary64

end LoxScript
