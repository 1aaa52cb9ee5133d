import LoxScript.Proofs.Grammar.ExpressionReading
import LoxScript.Proofs.Printing.Rereading
import LoxScript.Proofs.Scanning.Spaced

/-! # Numbers that are printed and read back

What is left of a number in its text: all of it in the source of a literal, and all but the sign of zero in
the text that a program prints.

* **`Binary64.unsignedZero`** — the number, with zero taken without its sign; printing and comparing see no
  more of a number than that (`plain_unsignedZero`, `rank_unsignedZero`).
* **`Binary64.ofPlain_plain`**, **`Binary64.ofRatio_rank`** — and no less: that much of it is read back from
  its text, and is what its rank is rounded to. So numbers print alike iff they are equal (`plain_eq_iff`).
* **`Expr.Rereads.evaluate`** — what is read from the words of an expression has its value.
* **`number_survives_printing`** — the result. -/

namespace LoxScript

namespace Binary64

variable {x y : Binary64} {m e : Nat} {canonical : Canonical m e}

/-! ## Zeros -/

/-- The number, with zero taken without its sign. -/
def unsignedZero (x : Binary64) : Binary64 := if x.isZero then zero false else x

/-- A number without a significand is zero: the significand is not full, so the exponent is the least. -/
theorem finite_eq_zero {negative : Bool} (zero : m = 0) :
    finite negative m e canonical = .zero negative := by
  subst zero
  obtain rfl : e = 0 := canonical.2.2.resolve_left (by decide)
  rfl

/-- There are two zeros, one of each sign. -/
theorem eq_zero_of_isZero (h : x.isZero = true) : ∃ negative, x = zero negative := by
  cases x with
  | nan | infinity => cases h
  | finite negative m e canonical => exact ⟨negative, finite_eq_zero (eq_of_beq h)⟩

/-- A number with a significand has units. -/
theorem units_ne_zero (nonzero : m ≠ 0) : m * Nat.pow 2 e ≠ 0 :=
  Nat.mul_ne_zero nonzero (Nat.ne_of_gt (Nat.two_pow_pos e))

/-- A number with a significand is taken as it is. -/
theorem unsignedZero_finite {negative : Bool} (nonzero : m ≠ 0) :
    (finite negative m e canonical).unsignedZero = finite negative m e canonical :=
  if_neg fun zero => nonzero (eq_of_beq zero)

/-- A zero prints the same with and without a sign. -/
theorem plain_unsignedZero (x : Binary64) : x.unsignedZero.plain = x.plain := by
  rw [unsignedZero]
  split
  · next zero =>
    obtain ⟨negative, rfl⟩ := eq_zero_of_isZero zero
    cases negative <;> decide +kernel
  · rfl

/-! ## Printed text -/

/-- The number that a printed text is read back as. -/
def ofPlain : List Char → Binary64
  | '-' :: text => (ofPlain text).neg
  | 'i' :: _ => .infinity false
  | 'N' :: _ => .nan
  | text => ((Decimal.ofNumeral? text).map Decimal.toBinary64).getD .nan

/-- A numeral is read back as what it denotes. -/
theorem ofPlain_of_denotes {text : List Char} (denotes : Denotes text x) : ofPlain text = x := by
  obtain ⟨isNumeral, d, value, rfl⟩ := denotes
  obtain ⟨first, more, rfl, digit⟩ := Lexes.exists_digit_of_numeral isNumeral
  rw [ofPlain, value]
  · rfl
  all_goals
    rintro _ ⟨⟩
    exact absurd digit (by decide)

/-- A negative integer has a minus sign before its digits. -/
theorem toString_neg_succ (n : Nat) :
    toString (-((n + 1 : Nat) : Int)) = "-" ++ toString ((n + 1 : Nat) : Int) := rfl

/-- The shortest decimal is that of the magnitude. -/
theorem shortest_congr (same : x.units = y.units) : x.shortest = y.shortest := by
  rw [shortest, shortest, same]

/-- A negative number other than zero prints a sign and its magnitude. -/
theorem plain_negative (nonzero : m ≠ 0) :
    (finite true m e canonical).plain = "-" ++ (finite false m e canonical).plain := by
  by_cases whole : m * Nat.pow 2 e % one = 0
  · have negated : (finite true m e canonical).integer? = some (-((m * Nat.pow 2 e / one : Nat) : Int)) := by
      rw [integer?]
      exact if_pos whole
    -- The whole number is not zero, so that its sign shows.
    have positive : m * Nat.pow 2 e / one ≠ 0 := by
      intro none
      have product := Nat.div_mul_cancel (Nat.dvd_of_mod_eq_zero whole)
      rw [none, Nat.zero_mul] at product
      exact units_ne_zero nonzero product.symm
    obtain ⟨k, eq⟩ := Nat.exists_eq_succ_of_ne_zero positive
    rw [plain, negated, plain_of_integer? (integer?_of_whole whole), eq]
    exact toString_neg_succ k
  · have negated : (finite true m e canonical).integer? = none := by
      rw [integer?]
      exact if_neg whole
    have shortest : (finite true m e canonical).shortest = (finite false m e canonical).shortest :=
      shortest_congr rfl
    have signs : signText true = "-" ∧ signText false = "" := ⟨rfl, rfl⟩
    rw [plain, plain, negated, integer?_of_not_whole whole]
    dsimp only
    rw [shortest, signs.1, signs.2, String.empty_append]

/-- **A number is read back from its printed text**, zero without its sign. -/
theorem ofPlain_plain (x : Binary64) : ofPlain x.plain.toList = x.unsignedZero := by
  cases x with
  | nan => rfl
  | infinity negative => cases negative <;> rfl
  | finite negative m e canonical =>
    by_cases zero : m = 0
    · rw [finite_eq_zero zero, ← plain_unsignedZero]
      exact ofPlain_of_denotes plain_denotes
    · rw [unsignedZero_finite zero]
      cases negative with
      | false => exact ofPlain_of_denotes plain_denotes
      | true =>
        rw [plain_negative zero, String.toList_append]
        show (ofPlain (finite false m e canonical).plain.toList).neg = _
        rw [ofPlain_of_denotes plain_denotes]
        rfl

/-- Numbers print alike iff they are the same but for the sign of zero. -/
theorem plain_eq_plain_iff : x.plain = y.plain ↔ x.unsignedZero = y.unsignedZero := by
  constructor
  · intro same
    rw [← ofPlain_plain, same, ofPlain_plain]
  · intro same
    rw [← plain_unsignedZero, same, plain_unsignedZero]

/-! ## Ranks -/

/-- A zero is of the same rank with and without a sign. -/
theorem rank_unsignedZero (x : Binary64) : x.unsignedZero.rank = x.rank := by
  rw [unsignedZero]
  split
  · next zero =>
    obtain ⟨negative, rfl⟩ := eq_zero_of_isZero zero
    cases negative <;> rfl
  · rfl

/-- **A number is what its rank is rounded to**, zero without its sign. -/
theorem ofRatio_rank (number : x ≠ .nan) :
    ofRatio (decide (x.rank < 0)) x.rank.natAbs 1 = x.unsignedZero := by
  cases x with
  | nan => exact absurd rfl number
  | infinity negative => cases negative <;> decide +kernel
  | finite negative m e canonical =>
    by_cases zero : m = 0
    · rw [finite_eq_zero zero]
      cases negative <;> decide +kernel
    -- The rank of a finite number is its magnitude in units, with its sign.
    · have rounded : ∀ s, ofRatio s (m * Nat.pow 2 e) 1 = finite s m e canonical := fun _ =>
        ofRatio_units canonical
      have positive : m * Nat.pow 2 e ≠ 0 := units_ne_zero zero
      rw [unsignedZero_finite zero]
      cases negative with
      | false =>
        have rank : (finite false m e canonical).rank = ((m * Nat.pow 2 e : Nat) : Int) := rfl
        have sign : ¬((m * Nat.pow 2 e : Nat) : Int) < 0 := by omega
        rw [rank, decide_eq_false sign, Int.natAbs_natCast, rounded]
      | true =>
        have rank : (finite true m e canonical).rank = -((m * Nat.pow 2 e : Nat) : Int) := rfl
        have sign : -((m * Nat.pow 2 e : Nat) : Int) < 0 := by omega
        rw [rank, decide_eq_true sign, Int.natAbs_neg, Int.natAbs_natCast, rounded]

/-- Numbers are equal iff they are numbers, and the same but for the sign of zero. -/
theorem equal_iff : x.equal y = true ↔ x ≠ .nan ∧ y ≠ .nan ∧ x.unsignedZero = y.unsignedZero := by
  have isNumber : ∀ z : Binary64, (!z.isNaN) = true ↔ z ≠ .nan := by
    intro z
    cases z <;> simp [isNaN]
  rw [equal, Bool.and_eq_true, Bool.and_eq_true, isNumber, isNumber, beq_iff_eq, and_assoc]
  refine and_congr_right fun hx => and_congr_right fun hy => ?_
  constructor
  · intro same
    rw [← ofRatio_rank hx, same, ofRatio_rank hy]
  · intro same
    rw [← rank_unsignedZero, same, rank_unsignedZero]

/-- Only what is not a number is taken for that. -/
theorem unsignedZero_eq_nan_iff : x.unsignedZero = .nan ↔ x = .nan := by
  rw [unsignedZero]
  split
  · next zero =>
    obtain ⟨negative, rfl⟩ := eq_zero_of_isZero zero
    exact ⟨nofun, nofun⟩
  · rfl

/-- **Numbers print alike iff they are equal**, or both not a number. -/
theorem plain_eq_iff : x.plain = y.plain ↔ x.equal y = true ∨ (x = .nan ∧ y = .nan) := by
  rw [plain_eq_plain_iff, equal_iff]
  constructor
  · intro same
    by_cases hx : x = .nan
    · rw [unsignedZero_eq_nan_iff.mpr hx] at same
      exact .inr ⟨hx, unsignedZero_eq_nan_iff.mp same.symm⟩
    · refine .inl ⟨hx, fun hy => hx ?_, same⟩
      rw [unsignedZero_eq_nan_iff.mpr hy] at same
      exact unsignedZero_eq_nan_iff.mp same
  · rintro (⟨-, -, same⟩ | ⟨rfl, rfl⟩)
    · exact same
    · rfl

end Binary64

/-! ## Reading expressions back -/

section Reading

open Grammar

/-- **What is read from the words of an expression has its value.** -/
theorem Expr.Rereads.evaluate {expr : Expr} (h : expr.Rereads Derives.Expression) {tokens : List Token}
    (words : tokens.map Token.word = expr.words) {v : Value} (value : ∀ env, expr.evaluate env = .ok v env)
    (known : Option String) (limit : Nat) :
    ∃ e, (Parser.ofTokens tokens known limit).read Grammar.expression =
        (.ok e, { Parser.ofTokens tokens known limit with rest := [] }) ∧
      ∀ env, e.evaluate env = .ok v env := by
  obtain ⟨e, phrase, same⟩ := h tokens words
  have ends : EndsExpression [] := ⟨below_nil 1, fun _ mem => by cases mem⟩
  have read := phrase.read (endSpan tokens) [] ends
  rw [List.append_nil] at read
  refine ⟨e, ?_, fun env => ?_⟩
  · have parser : (Parser.ofTokens tokens known limit).rest = tokens ∧
        (Parser.ofTokens tokens known limit).fin = endSpan tokens := ⟨rfl, rfl⟩
    rw [Parser.read, parser.1, parser.2]
    generalize Grammar.expression (endSpan tokens) tokens = reading at read
    cases reading with
    | done =>
      cases read
      rfl
    | failed => cases read
  · -- Without places both are the same expression, and places do not matter to a value.
    have unplaced := e.evaluate_unplaced env
    rw [same, expr.evaluate_unplaced, value] at unplaced
    cases outcome : e.evaluate env with
    | ok v' env' =>
      rw [outcome] at unplaced
      exact unplaced.symm
    | error stop env' =>
      rw [outcome] at unplaced
      cases unplaced

end Reading

/-! ## Literals at the end of a text -/

/-- A numeral is a number of the language. -/
theorem IsNumeral.isNumber {cs : List Char} (h : IsNumeral cs) : Lexeme.IsNumber cs := by
  cases h with
  | whole nonempty digits =>
    obtain ⟨first, more, rfl⟩ := List.exists_cons_of_ne_nil nonempty
    exact .whole (digits first (List.mem_cons_self ..)) fun d mem =>
      digits.isDigit d (List.mem_cons_of_mem _ mem)
  | pointed nonempty digits nonempty' digits' =>
    obtain ⟨first, more, rfl⟩ := List.exists_cons_of_ne_nil nonempty
    exact .pointed (digits first (List.mem_cons_self ..))
      (fun d mem => digits.isDigit d (List.mem_cons_of_mem _ mem)) nonempty' digits'.isDigit

/-- A number whose plain text denotes it is cut off a text that stands apart from it. -/
theorem Lexes.plain_apart {x : Binary64} (denotes : Denotes x.plain.toList x) {text rest : List Char}
    {ws : List Word} (apart : Apart text) (h : Lexes text ws rest) :
    Lexes (x.plain.toList ++ text) ((Value.number x).word :: ws) rest := by
  obtain ⟨isNumeral, d, value, same⟩ := denotes
  have reads : Lexeme.Reads x.plain.toList (.token .number (some (.number d.toBinary64))) :=
    .number isNumeral.isNumber value
  rw [same] at reads
  exact .cons_apart (w := (Value.number x).word) reads apart h

/-- A number without a sign prints its literal. -/
theorem scan_plain {x : Binary64} (denotes : Denotes x.plain.toList x) (file : Option String) :
    ∃ span, scan x.plain file = [.ok ⟨.number, some (.number x), x.plain, span⟩] := by
  have lexes : Lexes (x.plain.toList ++ []) [(Value.number x).word] [] := .plain_apart denotes .nil .done
  rw [List.append_nil] at lexes
  obtain ⟨tokens, scanned, words⟩ := lexes_iff_tokenize.mp lexes
  obtain ⟨⟨kind, datum, lexeme, span⟩, rfl, word⟩ := exists_singleton_of_words words
  cases word
  exact ⟨span, tokenize_eq_ok_iff.mp scanned⟩

/-- The source of a number is cut into the words of the regrouped literal. -/
theorem lexes_numberSource (x : Binary64) :
    Lexes (Value.numberSource x).toList (Value.number x).regrouped.words [] := by
  have lexes : Lexes ((Value.numberSource x).toList ++ []) ((Value.number x).regrouped.words ++ []) [] := by
    refine Lexes.done.numberSource_of x fun m e canonical unsigned => ?_
    rw [unsigned]
    exact .plain_apart Binary64.plain_denotes .nil .done
  rwa [List.append_nil, List.append_nil] at lexes

/-! ## The result -/

/-- **Numbers survive printing.** The source of a literal is cut into tokens that are read to the end as
one expression, and that has the value of the literal, with the sign of zero, as an infinity, or as what is
not a number. A finite number without a sign prints digits with at most one point among them, which are one
token with that number for its datum. So numbers print alike iff they are equal, or both not a number. -/
theorem number_survives_printing :
    (∀ (x : Binary64) (file known : Option String) (limit : Nat), ∃ tokens e,
      tokenize ((Expr.literal (.number x)).source 0) file = .ok tokens ∧
        (Parser.ofTokens tokens known limit).read Grammar.expression =
          (.ok e, { Parser.ofTokens tokens known limit with rest := [] }) ∧
        ∀ env, e.evaluate env = .ok (.number x) env) ∧
      (∀ (m e : Nat) (canonical : Binary64.Canonical m e) (file : Option String),
        let x : Binary64 := .finite false m e canonical
        IsNumeral x.plain.toList ∧
          ∃ span, scan x.plain file = [.ok ⟨.number, some (.number x), x.plain, span⟩]) ∧
      ∀ x y : Binary64, (Value.number x).printed = (Value.number y).printed ↔
        (Value.number x).equal (.number y) = true ∨ (x = .nan ∧ y = .nan) := by
  refine ⟨fun x file known limit => ?_, fun m e canonical file => ?_, fun x y => ?_⟩
  · obtain ⟨tokens, scanned, words⟩ := lexes_iff_tokenize.mp (lexes_numberSource x)
    have rereads : (Value.number x).regrouped.Rereads Grammar.Derives.Expression :=
      (Expr.Rereads.value (.number x)).expression
    obtain ⟨e, read, value⟩ := rereads.evaluate words (Value.evaluate_regrouped (.number x)) known limit
    exact ⟨tokens, e, scanned, read, value⟩
  · have denotes : Denotes (Binary64.finite false m e canonical).plain.toList _ := Binary64.plain_denotes
    exact ⟨denotes.1, scan_plain denotes file⟩
  · exact Binary64.plain_eq_iff

end LoxScript
