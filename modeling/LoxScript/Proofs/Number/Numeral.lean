import LoxScript.Number.Text
import LoxScript.Proofs.Number.Rounding
import Mathlib.Data.List.TakeWhile

/-! # Numerals

The plain text of a number is a number literal, and one that stands for the same number.

* **`IsNumeral`** — digits with at most one point among them.
* **`Decimal.toBinary64_shift`** — zeros at the end of the coefficient make up for the exponent, so
  neither dropping them (`Decimal.toBinary64_trim`) nor writing a decimal without its exponent
  (`Decimal.positional_denotes`) changes the number.
* **`Binary64.plain_denotes`** — the plain text of a finite number without a sign reads back as the
  number. -/

namespace LoxScript

/-- Digits of ASCII only. -/
def AllDigits (cs : List Char) : Prop := ∀ c ∈ cs, CharClass.isAsciiDigit c = true

/-- **Numerals**: digits, or digits around a point. -/
inductive IsNumeral : List Char → Prop
  | whole {ds : List Char} : ds ≠ [] → AllDigits ds → IsNumeral ds
  | pointed {ws fs : List Char} :
      ws ≠ [] → AllDigits ws → fs ≠ [] → AllDigits fs → IsNumeral (ws ++ '.' :: fs)

/-- A text denotes a number if it is a numeral whose decimal rounds to the number. -/
def Denotes (cs : List Char) (x : Binary64) : Prop :=
  IsNumeral cs ∧ ∃ d, Decimal.ofNumeral? cs = some d ∧ d.toBinary64 = x

/-! ## Digits -/

/-- Digits behind digits are digits. -/
theorem AllDigits.append {cs ds : List Char} (hc : AllDigits cs) (hd : AllDigits ds) :
    AllDigits (cs ++ ds) := by
  intro c mem
  rcases List.mem_append.mp mem with mem | mem
  · exact hc c mem
  · exact hd c mem

/-- Zeros are digits. -/
theorem AllDigits.zeros (n : Nat) : AllDigits (List.replicate n '0') := by
  intro c mem
  rw [List.eq_of_mem_replicate mem]
  rfl

/-- A number is written in digits. -/
theorem AllDigits.digitsOf (n : Nat) : AllDigits (Decimal.digitsOf n) := by
  intro c mem
  have digit := Nat.isDigit_of_mem_toDigits (by decide) (by decide) mem
  exact digit

/-- Digits of ASCII are digits. -/
theorem AllDigits.isDigit {cs : List Char} (h : AllDigits cs) : ∀ c ∈ cs, CharClass.isDigit c = true :=
  fun c mem => CharClass.isDigit_of_isAsciiDigit (h c mem)

/-- A point is not a digit. -/
theorem AllDigits.ne_point {cs : List Char} (h : AllDigits cs) : ∀ c ∈ cs, (c != '.') = true := by
  intro c mem
  rw [bne_iff_ne]
  rintro rfl
  exact absurd (h '.' mem) (by decide)

namespace Decimal

/-- Digits are read as the number they write. -/
theorem readDigits_of_allDigits {cs : List Char} (h : AllDigits cs) :
    readDigits cs = some (Nat.ofDigitChars 10 cs 0) := go cs 0 h
where
  /-- The same behind a number read so far. -/
  go (cs : List Char) (n : Nat) (h : AllDigits cs) :
      cs.foldlM (fun n c => (CharClass.decimalDigit? c).map (10 * n + ·)) n =
        some (Nat.ofDigitChars 10 cs n) := by
    induction cs generalizing n with
    | nil => rfl
    | cons c cs ih =>
      have digit : CharClass.decimalDigit? c = some (c.toNat - '0'.toNat) := by
        rw [CharClass.decimalDigit?, if_pos (h c (List.mem_cons_self ..))]
      rw [List.foldlM_cons, digit, Nat.ofDigitChars_cons]
      exact ih _ fun d mem => h d (List.mem_cons_of_mem _ mem)

/-- The digits of a number are read as this number. -/
theorem ofDigitChars_digitsOf (n : Nat) : Nat.ofDigitChars 10 (digitsOf n) 0 = n :=
  Nat.ofDigitChars_toDigits (by decide) (by decide)

/-- Every number has a digit. -/
theorem digitsOf_ne_nil (n : Nat) : digitsOf n ≠ [] := Nat.toDigits_ne_nil

/-- A whole numeral is read as the number that its digits write. -/
theorem ofNumeral?_whole {ds : List Char} (h : AllDigits ds) :
    ofNumeral? ds = some ⟨Nat.ofDigitChars 10 ds 0, 0⟩ := by
  have whole : ds.takeWhile (· != '.') = ds := List.takeWhile_eq_self_iff.mpr h.ne_point
  have fraction : ds.dropWhile (· != '.') = [] := List.dropWhile_eq_nil_iff.mpr h.ne_point
  rw [ofNumeral?, whole, fraction]
  show (readDigits (ds ++ [])).map _ = _
  rw [List.append_nil, readDigits_of_allDigits h]
  rfl

/-- A numeral with a point is read as the number of all its digits, scaled down by one power of ten for each
behind the point. -/
theorem ofNumeral?_pointed {ws fs : List Char} (hw : AllDigits ws) (hf : AllDigits fs) :
    ofNumeral? (ws ++ '.' :: fs) = some ⟨Nat.ofDigitChars 10 (ws ++ fs) 0, -(fs.length : Int)⟩ := by
  have whole : (ws ++ '.' :: fs).takeWhile (· != '.') = ws := by
    rw [List.takeWhile_append_of_pos hw.ne_point]
    exact List.append_nil ws
  have fraction : (ws ++ '.' :: fs).dropWhile (· != '.') = '.' :: fs := by
    rw [List.dropWhile_append_of_pos hw.ne_point]
    rfl
  rw [ofNumeral?, whole, fraction]
  show (readDigits (ws ++ fs)).map _ = _
  rw [readDigits_of_allDigits (hw.append hf)]
  rfl

/-! ## Decimals of the same value -/

/-- **Zeros at the end of the coefficient make up for the exponent.** -/
theorem toBinary64_shift (c k : Nat) (e : Int) :
    toBinary64 ⟨c * Nat.pow 10 k, e - k⟩ = toBinary64 ⟨c, e⟩ := by
  simp only [toBinary64, Nat.pow_eq]
  by_cases whole : 0 ≤ e
  · rw [if_pos whole]
    by_cases still : 0 ≤ e - k
    · have exponent : e.toNat = k + (e - k).toNat := by omega
      rw [if_pos still, exponent, Nat.pow_add, Nat.mul_assoc c]
    · -- The zeros reach beyond the point, and those beyond it are a common factor.
      rw [if_neg still]
      generalize hj : (-(e - k)).toNat = j
      have numerator : c * 10 ^ k * Binary64.one = c * 10 ^ e.toNat * Binary64.one * 10 ^ j := by
        have exponent : k = e.toNat + j := by omega
        rw [exponent, Nat.pow_add, ← Nat.mul_assoc, Nat.mul_right_comm]
      rw [numerator]
      exact Binary64.ofRatio_mul_self false _ (Nat.pow_pos (by decide))
  · have beyond : ¬ 0 ≤ e - k := by omega
    have exponent : (-(e - k)).toNat = (-e).toNat + k := by omega
    rw [if_neg whole, if_neg beyond, exponent, Nat.pow_add, Nat.mul_right_comm]
    exact Binary64.ofRatio_scale false _ _ (Nat.pow_pos (by decide))

/-- **Dropping zeros from the end does not change the number.** -/
theorem toBinary64_trim (d : Decimal) : d.trim.toBinary64 = d.toBinary64 := by
  obtain ⟨c, e⟩ := d
  simp only [trim, Nat.pow_eq]
  generalize hk : ((digitsOf c).reverse.dropWhile (· == '0')).reverse = kept
  -- The digits are those kept, and zeros.
  have split : digitsOf c = kept ++ List.replicate ((digitsOf c).length - kept.length) '0' := by
    have zeros : ∀ ch ∈ (digitsOf c).reverse.takeWhile (· == '0'), ch = '0' := fun ch mem =>
      eq_of_beq (List.mem_takeWhile_imp (p := (· == '0')) mem)
    have parts := congrArg List.reverse
      (List.takeWhile_append_dropWhile (p := (· == '0')) (l := (digitsOf c).reverse))
    rw [List.reverse_append, hk, List.reverse_reverse, List.eq_replicate_of_mem zeros,
      List.reverse_replicate] at parts
    have lengths := congrArg List.length parts
    rw [List.length_append, List.length_replicate] at lengths
    rw [← lengths, Nat.add_sub_cancel_left]
    exact parts.symm
  generalize (digitsOf c).length - kept.length = k at split
  have value : c = Nat.ofDigitChars 10 kept 0 * 10 ^ k := by
    have read := ofDigitChars_digitsOf c
    rw [split, Nat.ofDigitChars_append, Nat.ofDigitChars_replicate_zero, Nat.mul_comm] at read
    exact read.symm
  generalize Nat.ofDigitChars 10 kept 0 = m at value
  subst value
  rw [Nat.mul_div_cancel m (Nat.pow_pos (by decide)), ← toBinary64_shift m k (e + k)]
  congr 2
  omega

/-- **Writing a decimal without its exponent does not change the number.** -/
theorem positional_denotes (d : Decimal) : Denotes d.positional d.toBinary64 := by
  obtain ⟨c, e⟩ := d
  simp only [positional]
  by_cases whole : 0 ≤ e
  · rw [if_pos whole]
    have digits := (AllDigits.digitsOf c).append (.zeros e.toNat)
    refine ⟨.whole (fun nil => digitsOf_ne_nil c (List.append_eq_nil_iff.mp nil).1) digits, _,
      ofNumeral?_whole digits, ?_⟩
    rw [Nat.ofDigitChars_append, ofDigitChars_digitsOf, Nat.ofDigitChars_replicate_zero, Nat.mul_comm,
      ← toBinary64_shift c e.toNat e]
    congr 2
    omega
  · rw [if_neg whole]
    generalize hp : (-e).toNat = places
    generalize hs : List.replicate (places + 1 - (digitsOf c).length) '0' ++ digitsOf c = padded
    have digits : AllDigits padded := hs ▸ (AllDigits.zeros _).append (.digitsOf c)
    have value : Nat.ofDigitChars 10 padded 0 = c := by
      rw [← hs, Nat.ofDigitChars_append, Nat.ofDigitChars_replicate_zero, Nat.mul_zero,
        ofDigitChars_digitsOf]
    -- The zeros in front leave a digit before the point.
    have long : places + 1 ≤ padded.length := by
      rw [← hs, List.length_append, List.length_replicate]
      omega
    have front : AllDigits (padded.take (padded.length - places)) := fun ch mem =>
      digits ch (List.mem_of_mem_take mem)
    have back : AllDigits (padded.drop (padded.length - places)) := fun ch mem =>
      digits ch (List.mem_of_mem_drop mem)
    have after : (padded.drop (padded.length - places)).length = places := by
      rw [List.length_drop]
      omega
    have before : (padded.take (padded.length - places)).length = padded.length - places := by
      rw [List.length_take]
      omega
    refine ⟨.pointed (List.ne_nil_of_length_pos (by omega)) front
      (List.ne_nil_of_length_pos (by omega)) back, _, ofNumeral?_pointed front back, ?_⟩
    rw [List.take_append_drop, value, after, ← hp]
    congr 2
    omega

end Decimal

/-! ## Plain text -/

namespace Binary64

variable {m e : Nat} {canonical : Canonical m e}

/-- The exact decimal of a number of units has their value. -/
theorem toBinary64_exactDecimal (n : Nat) : (exactDecimal n).toBinary64 = ofRatio false n 1 := by
  have units : Nat.pow 5 1074 * one = Nat.pow 10 1074 := by decide +kernel
  have beyond : ¬ (0 : Int) ≤ -1074 := by decide
  have places : (-(-1074 : Int)).toNat = 1074 := by decide
  rw [exactDecimal, Decimal.toBinary64, if_neg beyond, places, Nat.mul_assoc, units]
  exact ofRatio_mul_self false n (Nat.pow_pos (by decide))

/-- The shortest decimal of a finite number that is not zero rounds to the number. -/
theorem toBinary64_shortest (nonzero : (finite false m e canonical).units ≠ 0) :
    (finite false m e canonical).shortest.toBinary64 = finite false m e canonical := by
  rw [shortest, Decimal.toBinary64_trim]
  cases found : List.find? _ _ with
  | some d =>
    -- A candidate is taken for its units.
    have same := List.find?_some found
    rw [beq_iff_eq] at same
    rw [Option.getD_some, Decimal.toBinary64] at *
    split at same
    · next whole =>
      rw [if_pos whole]
      exact ofRatio_eq_of_units_eq nonzero same
    · next beyond =>
      rw [if_neg beyond]
      exact ofRatio_eq_of_units_eq nonzero same
  | none =>
    rw [Option.getD_none, toBinary64_exactDecimal, ofRatio_units]

/-- A number that is an integer is printed as this integer. -/
theorem plain_of_integer? {n : Int} (h : (finite false m e canonical).integer? = some n) :
    (finite false m e canonical).plain = toString n := by
  rw [plain, h]

/-- Any other is printed with the fewest digits that tell it. -/
theorem plain_of_no_integer (h : (finite false m e canonical).integer? = none) :
    (finite false m e canonical).plain.toList = (finite false m e canonical).shortest.positional := by
  have sign : (signText false).toList = [] := rfl
  rw [plain, h]
  dsimp only
  rw [String.toList_append, String.toList_ofList, sign, List.nil_append]

/-- A number whose units make up whole ones is an integer. -/
theorem integer?_of_whole (whole : m * Nat.pow 2 e % one = 0) :
    (finite false m e canonical).integer? = some ((m * Nat.pow 2 e / one : Nat) : Int) := by
  rw [integer?]
  exact if_pos whole

/-- Otherwise it is none. -/
theorem integer?_of_not_whole (fractional : m * Nat.pow 2 e % one ≠ 0) :
    (finite false m e canonical).integer? = none := by
  rw [integer?]
  exact if_neg fractional

/-- The plain text of a whole number. -/
theorem plain_of_whole (whole : m * Nat.pow 2 e % one = 0) :
    (finite false m e canonical).plain.toList = Decimal.digitsOf (m * Nat.pow 2 e / one) := by
  rw [plain_of_integer? (integer?_of_whole whole)]
  exact Nat.toList_repr

/-- **The plain text of a number reads back as the number.** -/
theorem plain_denotes : Denotes (finite false m e canonical).plain.toList (finite false m e canonical) := by
  have units : (finite false m e canonical).units = m * Nat.pow 2 e := rfl
  by_cases whole : m * Nat.pow 2 e % one = 0
  · rw [plain_of_whole whole]
    refine ⟨.whole (Decimal.digitsOf_ne_nil _) (.digitsOf _), _,
      Decimal.ofNumeral?_whole (.digitsOf _), ?_⟩
    -- A whole number is written digit by digit, and read back as so many ones.
    have product : m * Nat.pow 2 e / one * Nat.pow 10 0 * one = m * Nat.pow 2 e := by
      rw [Nat.pow_eq (m := 10), Nat.pow_zero, Nat.mul_one]
      exact Nat.div_mul_cancel (Nat.dvd_of_mod_eq_zero whole)
    rw [Decimal.ofDigitChars_digitsOf, Decimal.toBinary64, if_pos (Int.le_refl 0)]
    show ofRatio false (m * Nat.pow 2 e / one * Nat.pow 10 0 * one) 1 = _
    rw [product, ← units, ofRatio_units]
  -- With a fraction the shortest decimal is written, which rounds to the number.
  · have nonzero : (finite false m e canonical).units ≠ 0 := by
      intro zero
      rw [← units, zero] at whole
      exact whole (Nat.zero_mod _)
    have denotes := (finite false m e canonical).shortest.positional_denotes
    rw [plain_of_no_integer (integer?_of_not_whole whole)]
    rw [toBinary64_shortest nonzero] at denotes
    exact denotes

end Binary64

end LoxScript
