import LoxScript.Diagnostic
import LoxScript.Proofs.Number.Numeral
import LoxScript.Proofs.Scanning.Joined

/-! # Carets

A diagnostic that quotes a source line shows the line behind a gutter with its number, and in the next row
carets under the place it is about.

* **`Lines.split_intercalate`** — the lines of a text that is put together from parts by newlines.
* **`Diagnostic.length_gutter`**, **`Diagnostic.length_toString_le`** — how far the gutter shifts the quoted
  line, and that it is always the same below line 1000.
* **`Diagnostic.Underlined`** — a row that ends in carets, from some column on.
* **`Diagnostic.text_underlined`** — the result: there are as many carets as the place has characters in the
  quoted line, and they stand under them exactly as long as the line number has at most three digits. -/

namespace LoxScript

/-! ## Lines of a text put together -/

namespace Lines

/-- A text without line breaks is one line. -/
theorem split_eq_singleton {line : List Char} (h : '\n' ∉ line) : split line = [line] := by
  induction line with
  | nil => rfl
  | cons c line ih =>
    obtain ⟨other, rest⟩ := not_or.mp (fun mem => h (List.mem_cons.mpr mem))
    exact split_cons (Ne.symm other) (ih rest)

/-- The lines of parts that are joined by newlines are the lines of the parts. -/
theorem split_intercalate {parts : List String} (some : parts ≠ []) :
    split ("\n".intercalate parts).toList = parts.flatMap fun part => split part.toList := by
  induction parts with
  | nil => exact absurd rfl some
  | cons part parts ih =>
    cases parts with
    | nil => rw [String.intercalate_singleton, List.flatMap_singleton]
    | cons next parts =>
      rw [String.intercalate_cons_cons, toList_join, split_append, ih (List.cons_ne_nil _ _)]
      rfl

end Lines

namespace Diagnostic

/-! ## The gutter -/

/-- The **gutter**: what stands in front of the quoted line, the line number in its margin and a bar. -/
def gutter (d : Diagnostic) : List Char := (margin d.span.start.line ++ " | ").toList

/-- A margin is as wide as the line number, but never narrower than the usual width. -/
theorem length_margin (line : Int) : (margin line).length = max marginWidth (toString line).length := by
  simp only [margin, String.length_append, String.length_ofList, List.length_replicate]
  omega

/-- The gutter in front of a quotation is the margin, a bar and two blanks. -/
theorem length_gutter (d : Diagnostic) :
    d.gutter.length = max marginWidth (toString d.span.start.line).length + 3 := by
  rw [gutter, String.length_toList, String.length_append, length_margin]
  rfl

/-- A line number fits the margin as long as it is below 1000. -/
theorem length_toString_le {line : Int} (positive : 1 ≤ line) :
    (toString line).length ≤ marginWidth ↔ line < 1000 := by
  obtain ⟨n, rfl⟩ := Int.eq_ofNat_of_zero_le (by omega : 0 ≤ line)
  have digits : (toString (n : Int)).length ≤ marginWidth ↔ n < 10 ^ marginWidth :=
    Nat.length_repr_le_iff (by decide)
  rw [digits, marginWidth]
  omega

/-- A gutter with a line number from one on is on one line. -/
theorem newline_notMem_gutter {d : Diagnostic} (positive : 1 ≤ d.span.start.line) :
    '\n' ∉ d.gutter := by
  obtain ⟨n, line⟩ := Int.eq_ofNat_of_zero_le (by omega : 0 ≤ d.span.start.line)
  have number : (toString (n : Int)).toList = Decimal.digitsOf n := Nat.toList_repr
  intro mem
  simp only [gutter, margin, line, String.toList_append, String.toList_ofList, List.mem_append] at mem
  rcases mem with (blanks | digits) | bar
  · exact absurd (List.eq_of_mem_replicate blanks) (by decide)
  · rw [number] at digits
    exact absurd (AllDigits.digitsOf n '\n' digits) (by decide)
  · exact absurd bar (by decide)

/-! ## Carets -/

/-- A row is **underlined** from a column on: it ends in `count` carets, the first of them in that column,
and has no others. -/
def Underlined (row : List Char) (column count : Nat) : Prop :=
  ∃ before, row = before ++ List.replicate count '^' ∧ '^' ∉ before ∧ before.length = column

/-- The row with the carets of a diagnostic. -/
def caretRow (d : Diagnostic) (quoted : String) : List Char := ("    | " ++ d.caretLine quoted).toList

/-- The gutter of the caret row is as wide as the margin of three digits makes it. -/
theorem underlined_caretRow (d : Diagnostic) (quoted : String) :
    Underlined (d.caretRow quoted) (marginWidth + 3 + (d.caretColumn - 1).toNat) (d.caretCount quoted) := by
  refine ⟨"    | ".toList ++ List.replicate (d.caretColumn - 1).toNat ' ', ?_, ?_, ?_⟩
  · rw [caretRow, caretLine, String.toList_append, List.append_assoc]
    simp only [String.toList_ofList]
  · intro mem
    rcases List.mem_append.mp mem with bar | blank
    · exact absurd bar (by decide)
    · exact absurd (List.eq_of_mem_replicate blank) (by decide)
  · rw [List.length_append, List.length_replicate]
    rfl

/-- The row of carets is on one line. -/
theorem newline_notMem_caretRow (d : Diagnostic) (quoted : String) : '\n' ∉ d.caretRow quoted := by
  intro mem
  simp only [caretRow, caretLine, String.toList_append, String.toList_ofList, List.mem_append] at mem
  rcases mem with bar | blank | caret
  · exact absurd bar (by decide)
  · exact absurd (List.eq_of_mem_replicate blank) (by decide)
  · exact absurd (List.eq_of_mem_replicate caret) (by decide)

/-! ## The written form -/

/-- The rows of a diagnostic that quotes a line, the **quoted line** and the **caret row** between those of
the head and those of the hints. -/
def Quotes (d : Diagnostic) (quoted : String) (row : List Char) : Prop :=
  Lines.split (d.text true).toList =
    Lines.split d.head.toList ++ ["  |".toList, d.gutter ++ quoted.toList, row] ++
      d.hints.flatMap fun hint => Lines.split ("    = hint: " ++ hint).toList

instance (d : Diagnostic) (quoted : String) (row : List Char) : Decidable (d.Quotes quoted row) :=
  inferInstanceAs (Decidable (_ = _))

variable {d : Diagnostic} {quoted : String}

/-- What a diagnostic with a source line shows is this line, and the row of carets right under it. -/
theorem quotes_caretRow (source : d.sourceLine = some quoted) (unbroken : '\n' ∉ quoted.toList)
    (positive : 1 ≤ d.span.start.line) : d.Quotes quoted (d.caretRow quoted) := by
  have numbered : Lines.split (margin d.span.start.line ++ " | " ++ quoted).toList =
      [d.gutter ++ quoted.toList] := by
    rw [String.toList_append]
    refine Lines.split_eq_singleton fun mem => ?_
    rcases List.mem_append.mp mem with mem | mem
    · exact newline_notMem_gutter positive mem
    · exact unbroken mem
  have carets : Lines.split ("    | " ++ d.caretLine quoted).toList = [d.caretRow quoted] :=
    Lines.split_eq_singleton (newline_notMem_caretRow d quoted)
  have bar : Lines.split "  |".toList = ["  |".toList] := by decide
  simp only [Quotes, text, lines, source, if_pos, quotation]
  rw [Lines.split_intercalate (List.cons_ne_nil _ _)]
  simp only [List.flatMap_cons, List.flatMap_map, numbered, carets, bar,
    List.append_assoc, List.cons_append, List.nil_append]

/-- The number of carets under a line. -/
theorem caretCount_eq (d : Diagnostic) (quoted : String) (column : 1 ≤ d.span.start.column) :
    (d.caretCount quoted : Int) =
      max 1 ((if d.span.start.line = d.span.stop.line then d.span.stop.column else quoted.length) -
        d.span.start.column + 1) := by
  rw [caretCount, caretColumn]
  by_cases oneLine : d.span.start.line = d.span.stop.line
  · rw [if_pos oneLine, if_pos oneLine]
    omega
  · rw [if_neg oneLine, if_neg oneLine]
    omega

/-- **The carets of a diagnostic.** For a place within one line there are as many as it has characters, for
one that ends on another line as many as lead to the last character of the quoted line, and at least one.
The first of them stands in the column in which the quoted line has the character that the place begins
with, or would have it, exactly as long as the line number is below 1000. -/
theorem text_underlined (source : d.sourceLine = some quoted) (unbroken : '\n' ∉ quoted.toList)
    (line : 1 ≤ d.span.start.line) (column : 1 ≤ d.span.start.column) :
    ∃ row first count, d.Quotes quoted row ∧ Underlined row first count ∧ 1 ≤ count ∧
      ((first : Int) = d.gutter.length + (d.span.start.column - 1) ↔ d.span.start.line < 1000) ∧
      (d.span.start.line = d.span.stop.line → d.span.start.column ≤ d.span.stop.column →
        (count : Int) = d.span.stop.column - d.span.start.column + 1) ∧
      (d.span.start.line ≠ d.span.stop.line →
        (count : Int) = max 1 (quoted.length - d.span.start.column + 1)) := by
  have counted := caretCount_eq d quoted column
  refine ⟨_, _, _, quotes_caretRow source unbroken line, underlined_caretRow d quoted, ?_, ?_, ?_, ?_⟩
  · omega
  -- The row of carets has a margin for numbers of three digits; the gutter is as wide exactly up to 999.
  · have width := length_toString_le line
    rw [length_gutter, ← width, caretColumn]
    omega
  · intro oneLine ordered
    rw [if_pos oneLine] at counted
    omega
  · intro lines
    rw [if_neg lines] at counted
    exact counted

/-- A diagnostic about one word of its line, which begins no expression. -/
def aboutWord : Diagnostic where
  code := "E103"
  message := "expected expression, found 'else'"
  severity := .error
  span := ⟨⟨12, 7, 88, none⟩, ⟨12, 10, 91, none⟩⟩
  sourceLine := some "print else;"

/-- The word `else` in the middle of a line has a caret under each of its four letters. -/
theorem text_underlined_word :
    (aboutWord.sourceLine = some "print else;" ∧ '\n' ∉ "print else;".toList ∧
      1 ≤ aboutWord.span.start.line ∧ 1 ≤ aboutWord.span.start.column) ∧
    ∃ row first count, aboutWord.Quotes "print else;" row ∧ Underlined row first count ∧
      (first : Int) = aboutWord.gutter.length + 6 ∧ (count : Int) = 4 := by
  have unbroken : '\n' ∉ "print else;".toList := by decide
  have line : 1 ≤ aboutWord.span.start.line := by decide
  have column : 1 ≤ aboutWord.span.start.column := by decide
  obtain ⟨row, first, count, quotes, underlined, -, below, oneLine, -⟩ :=
    text_underlined rfl unbroken line column
  exact ⟨⟨rfl, unbroken, line, column⟩, row, first, count, quotes, underlined, below.mpr (by decide),
    oneLine rfl (by decide)⟩

/-- A diagnostic about the first character of line 1000. -/
def inThousandth : Diagnostic where
  code := "E001"
  message := "unexpected character '@'"
  severity := .error
  span := ⟨⟨1000, 1, 999, none⟩, ⟨1000, 1, 999, none⟩⟩
  sourceLine := some "@"

/-- From line 1000 on the gutter of the quoted line is wider than that of the caret row: the caret stands one
column before the character it means. -/
theorem caret_before_character :
    (inThousandth.sourceLine = some "@" ∧ '\n' ∉ "@".toList ∧ 1 ≤ inThousandth.span.start.line ∧
      inThousandth.span.start.column = 1) ∧
    inThousandth.Quotes "@" "    | ^".toList ∧ "    | ^".toList.idxOf '^' = 6 ∧
      (inThousandth.gutter ++ "@".toList).idxOf '@' = 7 := by
  decide +kernel

end Diagnostic

end LoxScript
