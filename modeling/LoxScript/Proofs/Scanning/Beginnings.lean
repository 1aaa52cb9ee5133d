import LoxScript.Proofs.Scanning.Places

/-! # Where lexemes begin

Scanning comes from one lexeme to the next, so every result begins at an offset that scanning comes to, and
its place is that of the character there.

* **`Lexeme.MetAt`** — a lexeme that scanning comes to at an offset, and cuts off the text there.
* **`Scanner.exists_metAt`** — every result comes from such a lexeme.
* **`Token.BeginsAt`** — a token made of such a lexeme, with both of its ends (`Token.BeginsAt.span`).
* **`Position.next_ofOffset`** — the place behind a character, unless that is a newline. -/

namespace LoxScript

/-- **A lexeme is met at an offset** of a source if scanning comes to this offset and cuts the lexeme off
the text there. -/
structure Lexeme.MetAt (source : String) (file : Option String) (offset : Nat) (lexeme : Lexeme) : Prop where
  comes : ∃ results s, Scanner.Scans (.ofSource source file) results s ∧ s.cursor.position = offset
  cuts : ∃ first rest, source.toList.drop offset = first :: rest ∧ Lexeme.cut first rest = lexeme

/-- A result comes from a lexeme if it is what the lexeme says. -/
def Lexeme.Gives (lexeme : Lexeme) : Scanned → Prop
  | .ok t => lexeme = ⟨.token t.kind t.datum, t.lexeme.toList⟩
  | .error fault => lexeme.shape = .fault fault.cause

/-- A character within a line that does not belong to its end. -/
def Inner (c : Char) : Prop := c ≠ '\n' ∧ c ≠ '\r'

/-! ## The ends of lexemes -/

namespace Lexeme

/-- Only a blank begins with a newline or a carriage return. -/
theorem inner_of_cut {first : Char} {rest : List Char} (other : (cut first rest).shape ≠ .blank) :
    Inner first := by
  have solid : ¬(CharClass.isBlank first = true ∨ first = '\n') := by
    intro blank
    rw [cut_of_blank blank] at other
    exact other rfl
  constructor
  · rintro rfl
    exact solid (.inr rfl)
  · rintro rfl
    exact solid (.inl (by decide))

/-- No token ends with a newline or a carriage return. -/
theorem Reads.inner_of_getLast? {chars : List Char} {kind : Kind} {datum : Option Datum}
    (h : Reads chars (.token kind datum)) {c : Char} (last : chars.getLast? = some c) : Inner c := by
  have mem := List.mem_of_getLast? last
  cases h with
  | mark mark =>
    have each : ∀ entry ∈ Kind.marks, '\n' ∉ entry.1.toList ∧ '\r' ∉ entry.1.toList := by decide
    obtain ⟨newline, return_⟩ := each _ mark
    exact ⟨fun same => newline (same ▸ mem), fun same => return_ (same ▸ mem)⟩
  | string =>
    rw [List.getLast?_concat] at last
    cases last
    exact ⟨by decide, by decide⟩
  | number isNumber =>
    rcases isNumber.parts _ mem with digit | rfl
    · constructor <;> (rintro rfl; exact absurd digit (by decide +kernel))
    · exact ⟨by decide, by decide⟩
  | keyword isWord | name isWord =>
    have part := isWord.parts _ mem
    constructor <;> (rintro rfl; exact absurd part (by decide +kernel))

section

variable {source : String} {file : Option String} {offset : Nat} {lexeme : Lexeme}

/-- What is met begins within a line, unless it is a blank. -/
theorem MetAt.first (h : lexeme.MetAt source file offset) (other : lexeme.shape ≠ .blank) :
    ∃ c, source.toList[offset]? = some c ∧ Inner c := by
  obtain ⟨first, rest, ahead, rfl⟩ := h.cuts
  refine ⟨first, ?_, inner_of_cut other⟩
  rw [← List.head?_drop, ahead]
  rfl

/-- A token that is met is a lexeme of the language. -/
theorem MetAt.reads {chars : List Char} {kind : Kind} {datum : Option Datum}
    (h : MetAt source file offset ⟨.token kind datum, chars⟩) : Reads chars (.token kind datum) := by
  obtain ⟨first, rest, -, cut⟩ := h.cuts
  rcases cut_cases first rest with reads | ⟨-, unclosed⟩ | ⟨-, unexpected⟩
  · rwa [cut] at reads
  · cases cut.symm.trans unclosed
  · cases cut.symm.trans unexpected

end

end Lexeme

/-! ## The beginnings of results -/

namespace Scanner

variable {source : String} {file : Option String} {s t u : Scanner} {results more : List Scanned}

/-- Steps behind steps are steps, and yield the results of both. -/
theorem Scans.append (first : Scans s results t) (second : Scans t more u) :
    Scans s (results ++ more) u := by
  induction first with
  | done => exact second
  | step step _ ih =>
    rw [List.append_assoc]
    exact .step step (ih second)

/-- **Every result comes from a lexeme that is met**, and begins with it. -/
theorem exists_metAt {result : Scanned} (mem : result ∈ scan source file) :
    ∃ (offset : Nat) (lexeme : Lexeme), lexeme.MetAt source file offset ∧ lexeme.Gives result ∧
      result.span.start = .ofOffset source file offset := by
  -- A scanner that tracks the source and has come from its start does so after the next step.
  let Comes (s : Scanner) : Prop := Tracks source file s ∧ ∃ results, Scans (ofSource source file) results s
  have step {s t : Scanner} {r : Option Scanned} (comes : Comes s) (step : s.step? = some (r, t)) :
      Comes t := by
    obtain ⟨tracks, results, scans⟩ := comes
    exact ⟨tracks.step step, _, scans.append (.step step .done)⟩
  obtain ⟨u, steps, -⟩ := scans_rest (ofSource source file)
  obtain ⟨-, all⟩ := steps.invariant step ⟨tracks_ofSource source file, [], .done⟩
  obtain ⟨s, t, ⟨tracks, results, scans⟩, taken⟩ := all result mem
  obtain ⟨first, rest, left, ahead, -, -, yields⟩ := step?_cases taken
  have drop : source.toList.drop s.cursor.position = first :: rest := by
    rw [← tracks.text_eq, Cursor.text, s.cursor.position_eq, ← List.length_reverse, List.drop_left, ahead]
  refine ⟨s.cursor.position, Lexeme.cut first rest, ⟨⟨results, s, scans, rfl⟩, first, rest, drop, rfl⟩, ?_, ?_⟩
  · rcases yield?_cases yields.symm with ⟨kind, datum, shape, rfl⟩ | ⟨cause, shape, rfl⟩
    · show Lexeme.cut first rest = ⟨.token kind datum, (String.ofList (Lexeme.cut first rest).chars).toList⟩
      rw [String.toList_ofList, ← shape]
    · rw [Lexeme.Gives, Fault.cause_quote]
      exact shape
  · rw [Scanned.span_of_yield? yields.symm]
    exact tracks.nextPosition_eq

end Scanner

/-- **A token of a source begins at an offset** if it is there by its own account, and scanning
meets its lexeme there. -/
structure Token.BeginsAt (source : String) (file : Option String) (t : Token) (offset : Nat) : Prop where
  scanned : .ok t ∈ scan source file
  offset_eq : t.span.start.offset = offset
  met : Lexeme.MetAt source file offset ⟨.token t.kind t.datum, t.lexeme.toList⟩

section

variable {source : String} {file : Option String} {t : Token} {offset : Nat}

/-- Every token of a source begins at an offset of the source. -/
theorem exists_beginsAt (mem : .ok t ∈ scan source file) : ∃ offset, t.BeginsAt source file offset := by
  obtain ⟨offset, lexeme, met, rfl, begins⟩ := Scanner.exists_metAt mem
  exact ⟨offset, mem, congrArg Position.offset begins, met⟩

/-- **Where a token stands**: from the place of its first character to that of its last one, which is
within a line. -/
theorem Token.BeginsAt.span (h : t.BeginsAt source file offset) :
    ∃ last, offset + t.lexeme.toList.length = last + 1 ∧
      t.span = ⟨.ofOffset source file offset, .ofOffset source file last⟩ ∧
      ∃ c, source.toList[last]? = some c ∧ Inner c := by
  obtain ⟨first, last, order, inside, start, stop, newline⟩ := Scanner.span_of_mem_scan h.scanned
  obtain rfl : offset = first := by
    have same : t.span.start.offset = first := congrArg Position.offset start
    exact Int.ofNat_inj.mp (h.offset_eq.symm.trans same)
  have other : ¬ source.toList[last]? = some '\n' := fun h => by
    obtain ⟨fault, token, -⟩ := newline h
    cases token
  rw [if_neg other] at stop
  -- The characters of the token are those between its two ends.
  have slice : (Cursor.atStart source.toList).slice offset (last + 1) = some t.lexeme.toList := by
    have stands := stands_of_mem_scan h.scanned
    rw [Token.Stands, show t.span.start = _ from start, show t.span.stop = _ from stop] at stands
    exact stands
  have chars : (source.toList.drop offset).take (last + 1 - offset) = t.lexeme.toList := by
    rw [Cursor.slice] at slice
    split at slice
    · cases slice
    · have length : ((last : Int) + 1 - offset).toNat = last + 1 - offset := by omega
      rw [length, Int.toNat_natCast] at slice
      exact Option.some.inj slice
  have length : t.lexeme.toList.length = last + 1 - offset := by
    rw [← chars, List.length_take, List.length_drop]
    omega
  have getLast : t.lexeme.toList.getLast? = source.toList[last]? := by
    rw [List.getLast?_eq_getElem?, length, ← chars, List.getElem?_take_of_lt (by omega), List.getElem?_drop]
    exact congrArg _ (by omega)
  obtain ⟨c, at_last⟩ : ∃ c, source.toList[last]? = some c := ⟨_, List.getElem?_eq_getElem inside⟩
  exact ⟨last, by omega, congr (congrArg Span.mk start) stop, c, at_last,
    h.met.reads.inner_of_getLast? (getLast.trans at_last)⟩

end

/-- The place behind a character is that of the next one, unless the character is a newline. -/
theorem Position.next_ofOffset {source : String} {file : Option String} {offset : Nat} {c : Char}
    (at_offset : source.toList[offset]? = some c) (other : c ≠ '\n') :
    (ofOffset source file offset).next = ofOffset source file (offset + 1) := by
  obtain ⟨inside, same⟩ := List.getElem?_eq_some_iff.mp at_offset
  have front : source.toList.take (offset + 1) = source.toList.take offset ++ [c] := by
    rw [List.take_add_one, at_offset]
    rfl
  have right : (c != '\n') = true := bne_iff_ne.mpr other
  rw [next, ofOffset, ofOffset, front, List.count_append, List.count_singleton,
    beq_eq_false_iff_ne.mpr other, List.reverse_append, List.reverse_singleton, List.singleton_append,
    List.takeWhile_cons, right]
  rfl

end LoxScript
