import LoxScript.Number.Arithmetic

/-! # Exact rounding

What rounding does to ratios that need none.

* **`ofRatio_scale`** — rounding depends on the value of a ratio, not on its terms.
* **`ofRatio_units`** — a number is what its own units are rounded to, so that a finite number without a
  sign is determined by its units (`eq_of_units_eq`). -/

namespace LoxScript

/-- The nearest whole number depends on the value of a ratio only. -/
theorem nearestEven_scale (num den : Nat) {k : Nat} (positive : 0 < k) :
    nearestEven (num * k) (den * k) = nearestEven num den := by
  have scaled : ∀ a b : Nat, a * k < b * k ↔ a < b := fun a b => Nat.mul_lt_mul_right positive
  simp only [nearestEven]
  rw [Nat.mul_div_mul_right num den positive, Nat.mul_mod_mul_right, ← Nat.mul_assoc]
  simp only [scaled]

/-- A whole number is the nearest to itself. -/
theorem nearestEven_mul (n : Nat) {den : Nat} (positive : 0 < den) :
    nearestEven (n * den) den = n := by
  simp only [nearestEven]
  rw [Nat.mul_div_cancel n positive, Nat.mul_mod_left, Nat.mul_zero, if_pos positive]

namespace Binary64

/-- Packing depends on the significand and the exponent only. -/
theorem pack_congr {negative : Bool} {m m' e e' : Nat} (hm : m = m') (he : e = e')
    {bound : m ≤ Nat.pow 2 53} {bound' : m' ≤ Nat.pow 2 53} {full : Nat.pow 2 52 ≤ m ∨ e = 0}
    {full' : Nat.pow 2 52 ≤ m' ∨ e' = 0} :
    pack negative m e bound full = pack negative m' e' bound' full' := by
  subst hm he
  rfl

/-- Rounding packs the nearest significand at the exponent that the quotient asks for. -/
theorem ofRatio_eq_pack (negative : Bool) (num den : Nat) :
    ∃ bound full, ofRatio negative num den =
      pack negative (nearestEven num (den * Nat.pow 2 (exponentFor (num / den))))
        (exponentFor (num / den)) bound full := by
  have quotient : num / (den * Nat.pow 2 (exponentFor (num / den))) =
      num / den / Nat.pow 2 (exponentFor (num / den)) := by rw [Nat.div_div_eq_div_mul]
  have upper := nearestEven_le num (den * Nat.pow 2 (exponentFor (num / den)))
  have lower := div_le_nearestEven num (den * Nat.pow 2 (exponentFor (num / den)))
  have short := div_exponentFor_lt (num / den)
  have long := le_div_exponentFor (num / den)
  refine ⟨?_, ?_, rfl⟩ <;> omega

/-- A significand that is not carried is packed as it is. -/
theorem pack_of_canonical {negative : Bool} {m e : Nat} (canonical : Canonical m e)
    (bound : m ≤ Nat.pow 2 53) (full : Nat.pow 2 52 ≤ m ∨ e = 0) :
    pack negative m e bound full = .finite negative m e canonical := by
  rw [pack, dif_neg (Nat.ne_of_lt canonical.1), dif_pos canonical.2.1]

/-- **Rounding depends on the value of a ratio only.** -/
theorem ofRatio_scale (negative : Bool) (num den : Nat) {k : Nat} (positive : 0 < k) :
    ofRatio negative (num * k) (den * k) = ofRatio negative num den := by
  have quotient : num * k / (den * k) = num / den := Nat.mul_div_mul_right num den positive
  obtain ⟨_, _, scaled⟩ := ofRatio_eq_pack negative (num * k) (den * k)
  obtain ⟨_, _, plain⟩ := ofRatio_eq_pack negative num den
  rw [scaled, plain]
  refine pack_congr ?_ (congrArg exponentFor quotient)
  rw [quotient, Nat.mul_right_comm, nearestEven_scale _ _ positive]

/-- A whole number of units is rounded alike over every denominator. -/
theorem ofRatio_mul_self (negative : Bool) (num : Nat) {k : Nat} (positive : 0 < k) :
    ofRatio negative (num * k) k = ofRatio negative num 1 := by
  have scaled := ofRatio_scale negative num 1 positive
  rw [Nat.one_mul] at scaled
  exact scaled

/-- The exponent of a canonical number is the one its magnitude asks for. -/
theorem exponentFor_of_canonical {m e : Nat} (canonical : Canonical m e) :
    exponentFor (m * Nat.pow 2 e) = e := by
  obtain ⟨bound, -, full⟩ := canonical
  rw [Nat.pow_eq] at bound full ⊢
  rw [exponentFor]
  by_cases zero : m = 0
  · -- Zero has the least exponent, since its significand is not full.
    subst zero
    have least : e = 0 := full.resolve_left (by decide)
    rw [least]
    rfl
  · have nonzero : m * 2 ^ e ≠ 0 := Nat.mul_ne_zero zero (Nat.ne_of_gt (Nat.two_pow_pos e))
    have upper : (m * 2 ^ e).log2 < 53 + e := by
      rw [Nat.log2_lt nonzero, Nat.pow_add]
      exact Nat.mul_lt_mul_of_pos_right bound (Nat.two_pow_pos e)
    rcases full with full | least
    · have lower : 52 + e ≤ (m * 2 ^ e).log2 := by
        rw [Nat.le_log2 nonzero, Nat.pow_add]
        exact Nat.mul_le_mul_right (2 ^ e) full
      omega
    · omega

/-- **A number is what its units are rounded to.** -/
theorem ofRatio_units {negative : Bool} {m e : Nat} (canonical : Canonical m e) :
    ofRatio negative (finite negative m e canonical).units 1 = .finite negative m e canonical := by
  have exponent : exponentFor (m * Nat.pow 2 e / 1) = e := by
    rw [Nat.div_one]
    exact exponentFor_of_canonical canonical
  have significand :
      nearestEven (m * Nat.pow 2 e) (1 * Nat.pow 2 (exponentFor (m * Nat.pow 2 e / 1))) = m := by
    rw [exponent, Nat.one_mul]
    exact nearestEven_mul m (Nat.two_pow_pos e)
  obtain ⟨_, _, packed⟩ := ofRatio_eq_pack negative (m * Nat.pow 2 e) 1
  show ofRatio negative (m * Nat.pow 2 e) 1 = _
  rw [packed, ← pack_of_canonical canonical (Nat.le_of_lt canonical.1) canonical.2.2]
  exact pack_congr significand exponent

/-- A rounded ratio is a finite number of the sign asked for, or an infinity. -/
theorem ofRatio_cases (negative : Bool) (num den : Nat) :
    (∃ m e canonical, ofRatio negative num den = .finite negative m e canonical) ∨
      ofRatio negative num den = .infinity negative := by
  obtain ⟨bound, full, packed⟩ := ofRatio_eq_pack negative num den
  rw [packed]
  unfold pack
  split
  · split
    · next small => exact .inl ⟨_, _, ⟨by decide, small, .inl (Nat.le_refl _)⟩, rfl⟩
    · exact .inr rfl
  · next carried =>
    split
    · next small => exact .inl ⟨_, _, ⟨Nat.lt_of_le_of_ne bound carried, small, full⟩, rfl⟩
    · exact .inr rfl

/-- **A rounded ratio of as many units as a number that is not zero is that number.** -/
theorem ofRatio_eq_of_units_eq {negative : Bool} {m e num den : Nat} {canonical : Canonical m e}
    (nonzero : (finite negative m e canonical).units ≠ 0)
    (h : (ofRatio negative num den).units = (finite negative m e canonical).units) :
    ofRatio negative num den = .finite negative m e canonical := by
  rcases ofRatio_cases negative num den with ⟨m', e', canonical', eq⟩ | eq
  · rw [eq] at h ⊢
    rw [← ofRatio_units canonical', h, ofRatio_units]
  · -- An infinity has no units.
    rw [eq] at h
    exact absurd h.symm nonzero

end Binary64

end LoxScript
