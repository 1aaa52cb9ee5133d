import LoxScript.Proofs.Printing.Numbers

/-! # The short text of a number

The text that listings and dumps show of a number tells which number it is, with the sign of zero.

* **`Decimal.short`** — the digits of the short text, in positional or in scientific form.
* **`Decimal.ofScientific?`** — the decimal that is written with or without an exponent; the scientific form
  is read back as the decimal itself (`Decimal.ofScientific?_scientific`).
* **`Decimal.short_denotes`** — the short digits of a decimal are read as one of the same value.
* **`Binary64.ofShort_short`** — the result: a number is read back from its short text, so different numbers
  have different ones (`Binary64.short_inj`). -/

namespace LoxScript

/-! ## Characters of numerals -/

/-- A character that does not occur differs from all that do. -/
theorem bne_of_notMem {a : Char} {text : List Char} (h : a ∉ text) : ∀ c ∈ text, (c != a) = true := by
  intro c mem
  rw [bne_iff_ne]
  rintro rfl
  exact h mem

/-- What is no digit does not occur among digits. -/
theorem AllDigits.notMem {ds : List Char} (digits : AllDigits ds) {c : Char}
    (other : CharClass.isAsciiDigit c = false) : c ∉ ds := by
  intro mem
  rw [digits c mem] at other
  cases other

/-- A numeral is of digits and points. -/
theorem IsNumeral.mem {cs : List Char} (h : IsNumeral cs) {c : Char} (mem : c ∈ cs) :
    CharClass.isAsciiDigit c = true ∨ c = '.' := by
  cases h with
  | whole _ digits => exact .inl (digits c mem)
  | pointed _ digits _ digits' =>
    rcases List.mem_append.mp mem with front | back
    · exact .inl (digits c front)
    · rcases List.mem_cons.mp back with point | behind
      · exact .inr point
      · exact .inl (digits' c behind)

namespace Decimal

/-! ## Digits with an exponent -/

/-- The digits of the short text: in positional form from `10^-4` to below `10^16`. -/
def short (d : Decimal) : List Char :=
  if -4 ≤ d.magnitude ∧ d.magnitude < 16 then d.positional ++ if 0 ≤ d.exponent then ['.', '0'] else []
  else d.scientific

/-- Digits with a point behind the first of them, if there are others. -/
def pointed : List Char → List Char
  | first :: second :: rest => first :: '.' :: second :: rest
  | ds => ds

/-- The digits of an exponent, at least two. -/
def powerDigits (n : Nat) : List Char := List.replicate (2 - (digitsOf n).length) '0' ++ digitsOf n

/-- The exponent that stands for a power of ten behind its sign. -/
def readPower : List Char → Int
  | '-' :: digits => -(Nat.ofDigitChars 10 digits 0 : Int)
  | '+' :: digits => Nat.ofDigitChars 10 digits 0
  | _ => 0

/-- The decimal written as a numeral with an exponent behind it, or without one. -/
def ofScientific? (text : List Char) : Option Decimal :=
  let power := readPower ((text.dropWhile (· != 'e')).drop 1)
  (ofNumeral? (text.takeWhile (· != 'e'))).map fun d => ⟨d.coefficient, d.exponent + power⟩

/-- The scientific form is the digits with a point behind the first, and the exponent with its sign. -/
theorem scientific_eq (d : Decimal) :
    d.scientific = pointed (digitsOf d.coefficient) ++ 'e' ::
      (if d.magnitude < 0 then '-' else '+') :: powerDigits d.magnitude.natAbs := rfl

/-- A text without an exponent is read as a numeral. -/
theorem ofScientific?_of_notMem {text : List Char} (plain : 'e' ∉ text) :
    ofScientific? text = ofNumeral? text := by
  have whole : text.takeWhile (· != 'e') = text := List.takeWhile_eq_self_iff.mpr (bne_of_notMem plain)
  have nothing : text.dropWhile (· != 'e') = [] := List.dropWhile_eq_nil_iff.mpr (bne_of_notMem plain)
  have power : readPower (([] : List Char).drop 1) = 0 := rfl
  simp only [ofScientific?, whole, nothing, power, Int.add_zero]
  exact Option.map_id'

/-- A numeral with an exponent is read as the decimal with the exponent added. -/
theorem ofScientific?_append {text : List Char} (plain : 'e' ∉ text) (power : List Char) :
    ofScientific? (text ++ 'e' :: power) =
      (ofNumeral? text).map fun d => ⟨d.coefficient, d.exponent + readPower power⟩ := by
  have front : (text ++ 'e' :: power).takeWhile (· != 'e') = text := by
    rw [List.takeWhile_append_of_pos (bne_of_notMem plain)]
    exact List.append_nil text
  have back : (text ++ 'e' :: power).dropWhile (· != 'e') = 'e' :: power := by
    rw [List.dropWhile_append_of_pos (bne_of_notMem plain)]
    rfl
  rw [ofScientific?, front, back]
  rfl

/-- Digits with a point behind the first have their value, divided by ten for every other digit. -/
theorem ofNumeral?_pointed_digits {ds : List Char} (nonempty : ds ≠ []) (digits : AllDigits ds) :
    ofNumeral? (pointed ds) = some ⟨Nat.ofDigitChars 10 ds 0, -((ds.length - 1 : Nat) : Int)⟩ := by
  match ds, nonempty with
  | [first], _ => exact ofNumeral?_whole digits
  | first :: second :: rest, _ =>
    have front : AllDigits [first] := fun c mem => digits c (List.mem_append_left (second :: rest) mem)
    have back : AllDigits (second :: rest) := fun c mem => digits c (List.mem_cons_of_mem _ mem)
    exact ofNumeral?_pointed front back

/-- The characters of digits with a point are digits and the point. -/
theorem mem_pointed {ds : List Char} {c : Char} (mem : c ∈ pointed ds) : c ∈ ds ∨ c = '.' := by
  match ds with
  | [] | [_] => exact .inl mem
  | first :: second :: rest =>
    simp only [pointed, List.mem_cons] at mem ⊢
    tauto

/-- The power behind its sign is read back. -/
theorem readPower_signed (n : Int) :
    readPower ((if n < 0 then '-' else '+') :: powerDigits n.natAbs) = n := by
  have value : Nat.ofDigitChars 10 (powerDigits n.natAbs) 0 = n.natAbs := by
    rw [powerDigits, Nat.ofDigitChars_append, Nat.ofDigitChars_replicate_zero, Nat.mul_zero,
      ofDigitChars_digitsOf]
  by_cases negative : n < 0
  · rw [if_pos negative]
    show -(Nat.ofDigitChars 10 (powerDigits n.natAbs) 0 : Int) = n
    omega
  · rw [if_neg negative]
    show (Nat.ofDigitChars 10 (powerDigits n.natAbs) 0 : Int) = n
    omega

/-- **A decimal is read back from its scientific form.** -/
theorem ofScientific?_scientific (d : Decimal) : ofScientific? d.scientific = some d := by
  have plain : 'e' ∉ pointed (digitsOf d.coefficient) := by
    intro mem
    rcases mem_pointed mem with digit | point
    · exact (AllDigits.digitsOf _).notMem (by decide) digit
    · exact absurd point (by decide)
  rw [scientific_eq, ofScientific?_append plain, readPower_signed,
    ofNumeral?_pointed_digits (digitsOf_ne_nil _) (.digitsOf _), ofDigitChars_digitsOf]
  -- The magnitude is the exponent of the first digit, the mantissa that of the others.
  obtain ⟨c, e⟩ := d
  simp only [magnitude, Option.map_some, Option.some.injEq, mk.injEq, true_and]
  omega

/-! ## Short digits -/

/-- A whole number with a zero behind the point. -/
theorem positional_pointed_denotes {d : Decimal} (whole : 0 ≤ d.exponent) :
    Denotes (d.positional ++ ['.', '0']) d.toBinary64 := by
  obtain ⟨c, e⟩ := d
  have positive : 0 ≤ e := whole
  have digits : AllDigits (digitsOf c ++ List.replicate e.toNat '0') :=
    (AllDigits.digitsOf c).append (.zeros _)
  have nonempty : digitsOf c ++ List.replicate e.toNat '0' ≠ [] := fun nil =>
    digitsOf_ne_nil c (List.append_eq_nil_iff.mp nil).1
  have zero : AllDigits ['0'] := .zeros 1
  rw [positional, if_pos whole]
  refine ⟨.pointed nonempty digits (List.cons_ne_nil _ _) zero, _, ofNumeral?_pointed digits zero, ?_⟩
  -- The zeros up to the point and the one behind it make up for the exponents.
  have value : Nat.ofDigitChars 10 (digitsOf c ++ List.replicate e.toNat '0' ++ ['0']) 0 =
      c * Nat.pow 10 (e.toNat + 1) := by
    have zeros : List.replicate e.toNat '0' ++ ['0'] = List.replicate (e.toNat + 1) '0' :=
      List.replicate_succ'.symm
    rw [List.append_assoc, zeros, Nat.ofDigitChars_append, ofDigitChars_digitsOf,
      Nat.ofDigitChars_replicate_zero, Nat.mul_comm]
    rfl
  have point : -((['0'].length : Nat) : Int) = e - (e.toNat + 1 : Nat) := by
    rw [List.length_singleton]
    omega
  rw [value, point, toBinary64_shift]

/-- The short digits are a numeral with the value of the decimal, or the scientific form. -/
theorem short_cases (d : Decimal) : Denotes d.short d.toBinary64 ∨ d.short = d.scientific := by
  rw [short]
  split
  · left
    split
    · next whole => exact positional_pointed_denotes whole
    · rw [List.append_nil]
      exact d.positional_denotes
  · exact .inr rfl

/-- **The short digits of a decimal are read as a decimal of its value.** -/
theorem short_denotes (d : Decimal) : (ofScientific? d.short).map toBinary64 = some d.toBinary64 := by
  rcases d.short_cases with ⟨isNumeral, d', value, same⟩ | scientific
  · have plain : 'e' ∉ d.short := by
      intro mem
      rcases isNumeral.mem mem with digit | point
      · exact absurd digit (by decide)
      · exact absurd point (by decide)
    rw [ofScientific?_of_notMem plain, value, Option.map_some, same]
  · rw [scientific, ofScientific?_scientific, Option.map_some]

/-- Short digits begin with a digit. -/
theorem short_begins (d : Decimal) :
    ∃ first more, d.short = first :: more ∧ CharClass.isAsciiDigit first = true := by
  rcases d.short_cases with ⟨isNumeral, -⟩ | scientific
  · exact Lexes.exists_digit_of_numeral isNumeral
  · rw [scientific, scientific_eq]
    have digits := AllDigits.digitsOf d.coefficient
    have nonempty := digitsOf_ne_nil d.coefficient
    revert digits nonempty
    match digitsOf d.coefficient with
    | [] => exact fun _ nonempty => absurd rfl nonempty
    | [first] => exact fun digits _ => ⟨first, _, rfl, digits first (List.mem_cons_self ..)⟩
    | first :: second :: rest => exact fun digits _ => ⟨first, _, rfl, digits first (List.mem_cons_self ..)⟩

/-- The characters of the short digits. -/
theorem mem_short {d : Decimal} {c : Char} (mem : c ∈ d.short) :
    CharClass.isAsciiDigit c = true ∨ c ∈ ['.', 'e', '-', '+'] := by
  rcases d.short_cases with ⟨isNumeral, -⟩ | scientific
  · rcases isNumeral.mem mem with digit | rfl
    · exact .inl digit
    · exact .inr (by decide)
  · rw [scientific, scientific_eq, List.mem_append, List.mem_cons, List.mem_cons] at mem
    rcases mem with mantissa | rfl | sign | power
    · rcases mem_pointed mantissa with digit | rfl
      · exact .inl (AllDigits.digitsOf _ c digit)
      · exact .inr (by decide)
    · exact .inr (by decide)
    · split at sign <;> exact .inr (by simp [sign])
    · exact .inl (((AllDigits.zeros _).append (.digitsOf _)) c power)

end Decimal

namespace Binary64

variable {x y : Binary64} {m e : Nat} {canonical : Canonical m e}

/-! ## Short texts -/

/-- The number that a short text is read back as. -/
def ofShort : List Char → Binary64
  | '-' :: text => (ofShort text).neg
  | 'i' :: _ => .infinity false
  | 'n' :: _ => .nan
  | text => ((Decimal.ofScientific? text).map Decimal.toBinary64).getD .nan

/-- Zero has its sign and one digit on each side of the point. -/
theorem short_zero (negative : Bool) : (zero negative).short = signText negative ++ "0.0" := rfl

/-- Any other finite number has its sign and the short form of its shortest digits. -/
theorem short_of_nonzero {negative : Bool} (nonzero : m ≠ 0) :
    (finite negative m e canonical).short =
      signText negative ++ String.ofList (finite negative m e canonical).shortest.short := by
  rw [short]
  exact if_neg fun zero => nonzero (eq_of_beq zero)

/-- The digits of zero are read back as zero. -/
theorem ofShort_zero : ofShort ['0', '.', '0'] = .zero false := by
  have read : Decimal.ofScientific? ['0', '.', '0'] = some ⟨0, -1⟩ := by decide
  have value : (⟨0, -1⟩ : Decimal).toBinary64 = .zero false := by decide +kernel
  rw [ofShort, read, Option.map_some, value]
  · rfl
  all_goals rintro _ ⟨⟩

/-- The short digits of a number other than zero are read back as its magnitude. -/
theorem ofShort_shortest (nonzero : m ≠ 0) :
    ofShort (finite false m e canonical).shortest.short = finite false m e canonical := by
  obtain ⟨first, more, digits, digit⟩ := (finite false m e canonical).shortest.short_begins
  have value := (finite false m e canonical).shortest.short_denotes
  rw [toBinary64_shortest (units_ne_zero nonzero)] at value
  rw [digits] at value ⊢
  rw [ofShort, value]
  · rfl
  all_goals
    rintro _ ⟨⟩
    exact absurd digit (by decide)

/-- A sign negates what is read behind it. -/
theorem ofShort_signText (negative : Bool) (text : List Char) :
    ofShort ((signText negative).toList ++ text) = if negative then (ofShort text).neg else ofShort text := by
  have signs : (signText true).toList = ['-'] ∧ (signText false).toList = [] := ⟨rfl, rfl⟩
  cases negative with
  | false => rw [signs.2, List.nil_append, if_neg Bool.false_ne_true]
  | true => rw [signs.1, List.singleton_append, ofShort, if_pos rfl]

/-- **A number is read back from its short text.** -/
theorem ofShort_short (x : Binary64) : ofShort x.short.toList = x := by
  cases x with
  | nan => rfl
  | infinity negative => cases negative <;> rfl
  | finite negative m e canonical =>
    by_cases zero : m = 0
    · have digits : "0.0".toList = ['0', '.', '0'] := rfl
      rw [finite_eq_zero zero, short_zero, String.toList_append, digits, ofShort_signText, ofShort_zero]
      cases negative <;> rfl
    · have magnitude : (finite negative m e canonical).shortest = (finite false m e canonical).shortest :=
        shortest_congr rfl
      rw [short_of_nonzero zero, magnitude, String.toList_append, String.toList_ofList, ofShort_signText,
        ofShort_shortest zero]
      cases negative <;> rfl

/-- **Different numbers have different short texts.** -/
theorem short_inj : x.short = y.short ↔ x = y := by
  constructor
  · intro same
    rw [← ofShort_short x, same, ofShort_short]
  · rintro rfl
    rfl

/-- A short text is on one line. -/
theorem newline_notMem_short (x : Binary64) : '\n' ∉ x.short.toList := by
  cases x with
  | nan => decide
  | infinity negative => cases negative <;> decide
  | finite negative m e canonical =>
    by_cases zero : m = 0
    · rw [finite_eq_zero zero, short_zero]
      cases negative <;> decide
    · rw [short_of_nonzero zero, String.toList_append, String.toList_ofList, List.mem_append]
      rintro (sign | digits)
      · cases negative <;> exact absurd sign (by decide)
      · rcases Decimal.mem_short digits with digit | other
        · exact absurd digit (by decide)
        · exact absurd other (by decide)

end Binary64

end LoxScript
