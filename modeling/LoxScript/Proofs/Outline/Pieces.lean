import LoxScript.Proofs.Caret
import LoxScript.Proofs.Number.Short
import LoxScript.Tree.Outline

/-! # What the pieces of an outline tell

Each piece of a line of an outline tells what it shows: no text, however written, looks like another piece.

* **`Quoted.readChar`** — the character that the front of a quoted text shows; it reads every character back
  (`Quoted.readChar_encodeChar`), so different texts are quoted differently (`quoted_inj`).
* **`Value.listing_inj`** — different values are listed differently.
* **`Position.lineColumn_inj`** — line and column are told apart.
* **`Lines.intercalate_inj`** — lines that are joined by newlines are told apart. -/

namespace LoxScript

/-- A text is cut at the last of its separators in one way only. -/
theorem append_cons_inj_last {α : Type} {a : α} {x y z w : List α} (hz : a ∉ z) (hw : a ∉ w) :
    x ++ a :: z = y ++ a :: w ↔ x = y ∧ z = w := by
  constructor
  · intro same
    -- One front is longer than the other by some `c`; if it is, the separator recurs behind itself.
    rcases List.append_eq_append_iff.mp same with ⟨c, rfl, rest⟩ | ⟨c, rfl, rest⟩ <;> cases c with
    | nil => simp_all
    | cons d c => simp_all
  · rintro ⟨rfl, rfl⟩
    rfl

/-! ## Quoted texts -/

namespace Quoted

/-- The value of a hexadecimal digit. -/
def hexValue (c : Char) : Nat :=
  if CharClass.isAsciiDigit c then c.toNat - '0'.toNat else c.toNat - 'a'.toNat + 10

/-- The number that hexadecimal digits write. -/
def ofHex (digits : List Char) : Nat := digits.foldl (fun n c => 16 * n + hexValue c) 0

/-- The character whose code point the first digits write, and what stands behind them. -/
def readHex (width : Nat) (text : List Char) : Char × List Char :=
  (Char.ofNat (ofHex (text.take width)), text.drop width)

/-- The character that the front of a quoted text shows, and what stands behind it. -/
def readChar : List Char → Option (Char × List Char)
  | '\\' :: 'n' :: rest => some ('\n', rest)
  | '\\' :: 'r' :: rest => some ('\r', rest)
  | '\\' :: 't' :: rest => some ('\t', rest)
  | '\\' :: 'x' :: rest => some (readHex 2 rest)
  | '\\' :: 'u' :: rest => some (readHex 4 rest)
  | '\\' :: 'U' :: rest => some (readHex 8 rest)
  | '\\' :: c :: rest => some (c, rest)
  | c :: rest => some (c, rest)
  | [] => none

/-- A hexadecimal digit has the value that it writes. -/
theorem hexValue_digitChar {d : Nat} (h : d < 16) : hexValue (Nat.digitChar d) = d := by
  have each : ∀ k : Fin 16, hexValue (Nat.digitChar k) = k := by decide
  exact each ⟨d, h⟩

/-- Escapes are of fixed width. -/
@[simp] theorem length_hex (width n : Nat) : (hex width n).length = width := by
  induction width generalizing n with
  | zero => rfl
  | succ w ih => rw [hex, List.length_append, ih, List.length_singleton]

/-- The digits of a number are read back if there are enough of them. -/
theorem ofHex_hex {width n : Nat} (fits : n < Nat.pow 16 width) : ofHex (hex width n) = n := by
  induction width generalizing n with
  | zero =>
    have zero : n = 0 := Nat.lt_one_iff.mp fits
    rw [zero]
    rfl
  | succ w ih =>
    have less : n < Nat.pow 16 w * 16 := fits
    have front : ofHex (hex w (n / 16)) = n / 16 := ih (by omega)
    have last : hexValue (Nat.digitChar (n % 16)) = n % 16 := hexValue_digitChar (Nat.mod_lt _ (by decide))
    rw [ofHex] at front ⊢
    rw [hex, List.foldl_append, front, List.foldl_cons, List.foldl_nil, last]
    omega

/-- A code point that fits its escape is read back, whatever follows. -/
theorem readHex_hex {width : Nat} {c : Char} (fits : c.toNat < Nat.pow 16 width) (rest : List Char) :
    readHex width (hex width c.toNat ++ rest) = (c, rest) := by
  have front : (hex width c.toNat ++ rest).take width = hex width c.toNat := by
    rw [List.take_append_of_le_length (by simp), List.take_of_length_le (by simp)]
  have back : (hex width c.toNat ++ rest).drop width = rest := by
    rw [List.drop_append_of_le_length (by simp), List.drop_of_length_le (by simp), List.nil_append]
  rw [readHex, front, back, ofHex_hex fits, Char.ofNat_toNat]

/-- So a character that is shown by its code point is read back. -/
theorem readChar_codeEscape (c : Char) (rest : List Char) :
    readChar (codeEscape c ++ rest) = some (c, rest) := by
  rw [codeEscape]
  split
  · next small => exact congrArg some (readHex_hex small rest)
  · split
    · next small => exact congrArg some (readHex_hex small rest)
    · have small : c.toNat < Nat.pow 16 8 := by
        have codes : Nat.pow 16 8 = 0x100000000 := rfl
        have valid : c.toNat.isValidChar := c.valid
        rw [Nat.isValidChar] at valid
        omega
      exact congrArg some (readHex_hex small rest)

/-- The marks that surround quoted texts. -/
theorem mark_cases (text : List Char) : mark text = '\'' ∨ mark text = '"' := by
  rw [mark]
  split
  · exact .inr rfl
  · exact .inl rfl

variable {q : Char}

/-- **A character is read back from the front of a quoted text**, whatever follows it. -/
theorem readChar_encodeChar (isMark : q = '\'' ∨ q = '"') (c : Char) (rest : List Char) :
    readChar (encodeChar q c ++ rest) = some (c, rest) := by
  rw [encodeChar]
  split
  · -- Marks and backslashes stand behind a backslash, and none of them is the letter of an escape.
    next escaped =>
    rcases Bool.or_eq_true_iff.mp escaped with same | same
    · rw [beq_iff_eq.mp same]
      rcases isMark with rfl | rfl <;> rfl
    · rw [beq_iff_eq.mp same]
      rfl
  · next plain =>
    have other : c ≠ '\\' := by
      rintro rfl
      exact plain (by simp)
    split
    · next newline => rw [beq_iff_eq.mp newline]; rfl
    split
    · next return_ => rw [beq_iff_eq.mp return_]; rfl
    split
    · next tab => rw [beq_iff_eq.mp tab]; rfl
    split
    · rw [List.singleton_append, readChar]
      all_goals
        intros
        contradiction
    · exact readChar_codeEscape c rest

/-- Every character is shown by something. -/
theorem encodeChar_ne_nil (isMark : q = '\'' ∨ q = '"') (c : Char) : encodeChar q c ≠ [] := by
  intro nil
  have read := readChar_encodeChar isMark c []
  rw [nil] at read
  cases read

/-- Texts that are encoded the same, character by character, are the same. -/
theorem flatMap_encodeChar_inj (isMark : q = '\'' ∨ q = '"') {s t : List Char} :
    s.flatMap (encodeChar q) = t.flatMap (encodeChar q) ↔ s = t := by
  constructor
  · intro same
    induction s generalizing t with
    | nil =>
      cases t with
      | nil => rfl
      | cons d t =>
        exact absurd (List.append_eq_nil_iff.mp same.symm).1 (encodeChar_ne_nil isMark d)
    | cons c s ih =>
      cases t with
      | nil => exact absurd (List.append_eq_nil_iff.mp same).1 (encodeChar_ne_nil isMark c)
      | cons d t =>
        -- Both texts are read from the front, and show their first characters.
        have read := congrArg readChar same
        rw [List.flatMap_cons, List.flatMap_cons, readChar_encodeChar isMark,
          readChar_encodeChar isMark] at read
        simp only [Option.some.injEq, Prod.mk.injEq] at read
        rw [read.1, ih read.2]
  · rintro rfl
    rfl

/-- Different texts are shown differently between their marks. -/
theorem encode_inj {s t : List Char} : encode s = encode t ↔ s = t := by
  constructor
  · intro same
    obtain ⟨marks, rest⟩ := List.cons.inj same
    rw [marks] at rest
    exact (flatMap_encodeChar_inj (mark_cases t)).mp (List.append_cancel_right rest)
  · rintro rfl
    rfl

/-- The characters of an escape are hexadecimal digits. -/
theorem mem_hex {width n : Nat} {c : Char} (mem : c ∈ hex width n) : ∃ d < 16, c = Nat.digitChar d := by
  induction width generalizing n with
  | zero => cases mem
  | succ w ih =>
    rcases List.mem_append.mp mem with front | last
    · exact ih front
    · exact ⟨n % 16, Nat.mod_lt _ (by decide), List.mem_singleton.mp last⟩

/-- None of them is a newline. -/
theorem newline_notMem_hex (width n : Nat) : '\n' ∉ hex width n := by
  intro mem
  obtain ⟨d, small, newline⟩ := mem_hex mem
  have each : ∀ k : Fin 16, '\n' ≠ Nat.digitChar k := by decide
  exact each ⟨d, small⟩ newline

/-- No character is shown by a newline, the newline included. -/
theorem newline_notMem_encodeChar (isMark : q = '\'' ∨ q = '"') (c : Char) : '\n' ∉ encodeChar q c := by
  rw [encodeChar]
  split
  · next escaped =>
    rcases Bool.or_eq_true_iff.mp escaped with same | same
    · rw [beq_iff_eq.mp same]
      rcases isMark with rfl | rfl <;> decide
    · rw [beq_iff_eq.mp same]
      decide
  · split
    · decide
    · next other =>
      have ne : '\n' ≠ c := by
        rintro rfl
        exact other rfl
      have escape := newline_notMem_hex
      simp only [codeEscape]
      split_ifs <;> simp [ne, escape]

/-- A quoted text is on one line. -/
theorem newline_notMem_encode (text : List Char) : '\n' ∉ encode text := by
  have ne : '\n' ≠ mark text := by rcases mark_cases text with same | same <;> rw [same] <;> decide
  simp only [encode, List.mem_cons, List.mem_append, List.mem_flatMap, List.not_mem_nil, or_false]
  rintro (first | ⟨c, -, inside⟩ | last)
  · exact ne first
  · exact newline_notMem_encodeChar (mark_cases text) c inside
  · exact ne last

end Quoted

/-- **Different texts are quoted differently.** -/
@[simp] theorem quoted_inj {s t : String} : quoted s = quoted t ↔ s = t := by
  rw [quoted, quoted, String.ofList_inj, Quoted.encode_inj, String.toList_inj]

/-- A quoted text is on one line. -/
@[simp] theorem newline_notMem_quoted (s : String) : '\n' ∉ (quoted s).toList := by
  rw [quoted, String.toList_ofList]
  exact Quoted.newline_notMem_encode s.toList

/-! ## Values -/

namespace Value

/-- The last letter of the name of the type of a value; it tells the type. -/
def typeLetter : Value → Char
  | nil => 'L'
  | boolean _ => 'N'
  | number _ => 'R'
  | text _ => 'G'

/-- The letter stands before the closing parenthesis. -/
theorem listing_typeLetter (v : Value) : v.listing.toList.reverse[1]? = some v.typeLetter := by
  cases v with
  | nil => rfl
  | boolean b => cases b <;> rfl
  | number x => simp [listing, typeLetter]
  | text s => simp [listing, typeLetter]

/-- **Different values are listed differently.** -/
@[simp] theorem listing_inj {v w : Value} : v.listing = w.listing ↔ v = w := by
  constructor
  · intro same
    have letters : v.typeLetter = w.typeLetter := by
      rw [← Option.some_inj, ← listing_typeLetter, same, listing_typeLetter]
    cases v <;> cases w
    case nil.nil => rfl
    case boolean.boolean b c => cases b <;> cases c <;> first | rfl | exact absurd same (by decide)
    case number.number x y =>
      simp only [listing, String.append_left_inj, String.append_right_inj, Binary64.short_inj] at same
      rw [same]
    case text.text s t =>
      simp only [listing, String.append_left_inj, String.append_right_inj, quoted_inj] at same
      rw [same]
    all_goals exact absurd letters (by simp [typeLetter])
  · rintro rfl
    rfl

/-- So is a listed value. -/
@[simp] theorem newline_notMem_listing (v : Value) : '\n' ∉ v.listing.toList := by
  cases v with
  | nil => decide
  | boolean b => cases b <;> decide
  | number x => simp [listing, x.newline_notMem_short]
  | text s => simp [listing]

end Value

/-! ## Places -/

/-- A number from zero on is written in its digits. -/
theorem toString_ofNat (n : Nat) : (toString (Int.ofNat n)).toList = Decimal.digitsOf n := Nat.toList_repr

/-- A negative number has a minus sign before them. -/
theorem toString_negSucc (n : Nat) :
    (toString (Int.negSucc n)).toList = '-' :: Decimal.digitsOf (n + 1) := by
  show ("-" ++ Nat.repr (n + 1)).toList = _
  rw [String.toList_append, Nat.toList_repr]
  rfl

/-- Different numbers have different digits. -/
theorem digitsOf_inj {m n : Nat} : Decimal.digitsOf m = Decimal.digitsOf n ↔ m = n := by
  constructor
  · intro same
    rw [← Decimal.ofDigitChars_digitsOf m, same, Decimal.ofDigitChars_digitsOf]
  · rintro rfl
    rfl

/-- The text of a whole number is of digits behind a sign. -/
theorem notMem_toString_int {c : Char} (h : c ≠ '-' ∧ CharClass.isAsciiDigit c = false) (n : Int) :
    c ∉ (toString n).toList := by
  cases n with
  | ofNat n =>
    rw [toString_ofNat]
    exact (AllDigits.digitsOf n).notMem h.2
  | negSucc n =>
    rw [toString_negSucc]
    exact List.not_mem_cons_of_ne_of_not_mem h.1 ((AllDigits.digitsOf _).notMem h.2)

/-- Different integers are written differently. -/
theorem toString_int_inj {m n : Int} : toString m = toString n ↔ m = n := by
  constructor
  · intro same
    have texts := congrArg String.toList same
    -- A sign is no digit.
    have sign (k : Nat) : '-' ∉ Decimal.digitsOf k := (AllDigits.digitsOf k).notMem (by decide)
    cases m <;> cases n <;>
      simp only [toString_ofNat, toString_negSucc, digitsOf_inj, List.cons.injEq, true_and] at texts
    case ofNat.ofNat => rw [texts]
    case negSucc.negSucc => rw [Nat.succ.inj texts]
    case ofNat.negSucc k _ => exact absurd (texts ▸ List.mem_cons_self ..) (sign k)
    case negSucc.ofNat k => exact absurd (texts ▸ List.mem_cons_self ..) (sign k)
  · rintro rfl
    rfl

namespace Position

/-- A line, a colon and a column. -/
theorem toList_lineColumn (p : Position) :
    p.lineColumn.toList = (toString p.line).toList ++ ':' :: (toString p.column).toList := by
  rw [lineColumn, String.toList_append, String.toList_append, List.append_assoc]
  rfl

/-- A line and a column are of digits, signs and a colon. -/
theorem notMem_lineColumn {c : Char} (h : c ≠ ':' ∧ c ≠ '-' ∧ CharClass.isAsciiDigit c = false)
    (p : Position) : c ∉ p.lineColumn.toList := by
  rw [toList_lineColumn, List.mem_append, List.mem_cons]
  rintro (line | colon | column)
  · exact notMem_toString_int h.2 p.line line
  · exact h.1 colon
  · exact notMem_toString_int h.2 p.column column

/-- Line and column are on one line. -/
theorem newline_notMem_lineColumn (p : Position) : '\n' ∉ p.lineColumn.toList :=
  notMem_lineColumn (by decide) p

/-- **Line and column are told apart.** -/
theorem lineColumn_inj {p p' : Position} :
    p.lineColumn = p'.lineColumn ↔ p.line = p'.line ∧ p.column = p'.column := by
  have colon (n : Int) : ':' ∉ (toString n).toList := notMem_toString_int (by decide) n
  rw [← String.toList_inj, toList_lineColumn, toList_lineColumn, append_cons_inj_last (colon _) (colon _),
    String.toList_inj, String.toList_inj, toString_int_inj, toString_int_inj]

/-- What stands before a place is told from the place. -/
theorem marked_inj {a b : String} {p p' : Position} :
    a ++ " @ " ++ p.lineColumn = b ++ " @ " ++ p'.lineColumn ↔
      a = b ∧ p.line = p'.line ∧ p.column = p'.column := by
  have free (p : Position) : '@' ∉ ' ' :: p.lineColumn.toList :=
    List.not_mem_cons_of_ne_of_not_mem (by decide) (notMem_lineColumn (by decide) p)
  have text (a : String) (p : Position) : (a ++ " @ " ++ p.lineColumn).toList =
      (a.toList ++ [' ']) ++ '@' :: ' ' :: p.lineColumn.toList := by
    simp only [String.toList_append, List.append_assoc]
    rfl
  rw [← String.toList_inj, text, text, append_cons_inj_last (free p) (free p'), List.append_cancel_right_eq,
    List.cons.injEq, String.toList_inj, String.toList_inj, lineColumn_inj]
  simp only [true_and]

end Position

/-! ## Lines -/

/-- A text is a line if it is not empty and has no newline. -/
def IsLine (text : String) : Prop := text ≠ "" ∧ '\n' ∉ text.toList

instance (text : String) : Decidable (IsLine text) := inferInstanceAs (Decidable (_ ∧ _))

/-- A line goes on with a text without newlines. -/
theorem IsLine.append {text more : String} (h : IsLine text) (unbroken : '\n' ∉ more.toList) :
    IsLine (text ++ more) := by
  constructor
  · intro nothing
    exact h.1 (String.append_eq_empty_iff.mp nothing).1
  · rw [String.toList_append, List.mem_append]
    exact not_or.mpr ⟨h.2, unbroken⟩

/-- A line at a level of nesting is one line. -/
theorem IsLine.line {text : String} (h : IsLine text) (level : Nat) : IsLine (Outline.line level text) := by
  constructor
  · intro nothing
    exact h.1 (String.append_eq_empty_iff.mp nothing).2
  · rw [Outline.line, String.toList_append, String.toList_ofList, List.mem_append]
    rintro (blank | inside)
    · exact absurd (List.eq_of_mem_replicate blank) (by decide)
    · exact h.2 inside

namespace Lines

variable {ls ls' : List String}

/-- The pieces of lines that are joined by newlines are the lines. -/
theorem split_lines (each : ∀ l ∈ ls, IsLine l) (some : ls ≠ []) :
    split ("\n".intercalate ls).toList = ls.map String.toList := by
  rw [split_intercalate some, List.map_eq_flatMap]
  exact List.flatMap_congr fun l mem => split_eq_singleton (each l mem).2

/-- Lines that are joined leave no empty text, if there are any. -/
theorem intercalate_ne_empty (each : ∀ l ∈ ls, IsLine l) (some : ls ≠ []) : "\n".intercalate ls ≠ "" := by
  intro nothing
  have pieces := split_lines each some
  rw [nothing] at pieces
  obtain ⟨l, more, rfl⟩ := List.exists_cons_of_ne_nil some
  have first : "".toList = l.toList := (List.cons.inj pieces).1
  exact (each l (List.mem_cons_self ..)).1 (String.toList_inj.mp first.symm)

/-- **Lines that are joined by newlines are told apart.** -/
theorem intercalate_inj (each : ∀ l ∈ ls, IsLine l) (each' : ∀ l ∈ ls', IsLine l) :
    "\n".intercalate ls = "\n".intercalate ls' ↔ ls = ls' := by
  constructor
  · intro same
    cases ls with
    | nil =>
      cases ls' with
      | nil => rfl
      | cons => exact absurd same.symm (intercalate_ne_empty each' (List.cons_ne_nil _ _))
    | cons =>
      cases ls' with
      | nil => exact absurd same (intercalate_ne_empty each (List.cons_ne_nil _ _))
      | cons =>
        have pieces := congrArg (fun text => split text.toList) same
        rw [split_lines each (List.cons_ne_nil _ _), split_lines each' (List.cons_ne_nil _ _)] at pieces
        exact List.map_injective_iff.mpr (fun _ _ => String.toList_inj.mp) pieces
  · rintro rfl
    rfl

end Lines

end LoxScript
