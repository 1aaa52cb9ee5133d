import LoxScript.Proofs.Relocation
import LoxScript.Proofs.Scanning.Steps

/-! # Scanning one source behind another

Scanning depends on what comes before only through the place it has got to, and on what comes behind only
up to the end of the line.

* **`Lexeme.cut_append`** — a lexeme that is no unclosed string does not change when the text goes on at the
  end of a line.
* **`Lines.split_append`**, **`Tracks.line_le`** — the lines of a source, and that scanning stays within them.
* **`Relocation.below`** — a source that stands below another one.
* **`Matches`** — scanners that are at the same place of a source, one of them in a longer source; they step
  in parallel (`Matches.step`).
* **`scan_joined`** — the tokens of two sources that are joined by a newline are those of the first, and
  those of the second further down. -/

namespace LoxScript

/-! ## Lexemes at the end of a line -/

/-- A text that is empty or begins with a newline. -/
def AtLineEnd (tail : List Char) : Prop := ∀ c ∈ tail.head?, c = '\n'

section AtLineEnd

variable {tail : List Char} {p : Char → Bool}

/-- The end of a text is the end of a line. -/
theorem AtLineEnd.nil : AtLineEnd [] := by
  intro c mem
  cases mem

/-- A newline is at the end of a line. -/
theorem AtLineEnd.newline (more : List Char) : AtLineEnd ('\n' :: more) := by
  intro c mem
  cases mem
  rfl

/-- Characters of a class without newlines end at the end of a line. -/
theorem AtLineEnd.takeWhile (h : AtLineEnd tail) (stop : p '\n' = false) (text : List Char) :
    (text ++ tail).takeWhile p = text.takeWhile p := by
  induction text with
  | nil =>
    cases tail with
    | nil => rfl
    | cons c more =>
      rw [List.nil_append, h c rfl, List.takeWhile_cons, stop]
      rfl
  | cons c text ih => rw [List.cons_append, List.takeWhile_cons, List.takeWhile_cons, ih]

/-- What is left behind such characters is followed by the rest of the text. -/
theorem AtLineEnd.dropWhile (h : AtLineEnd tail) (stop : p '\n' = false) (text : List Char) :
    (text ++ tail).dropWhile p = text.dropWhile p ++ tail := by
  induction text with
  | nil =>
    cases tail with
    | nil => rfl
    | cons c more =>
      rw [List.nil_append, h c rfl, List.dropWhile_cons, stop]
      rfl
  | cons c text ih =>
    rw [List.cons_append, List.dropWhile_cons, List.dropWhile_cons, ih]
    split <;> rfl

end AtLineEnd

namespace Lexeme

variable {tail : List Char}

/-- A mark that an equals sign may continue looks at no more than the line. -/
theorem equalMark_append (h : AtLineEnd tail) (kinds : Kind × Kind) (first : Char) (rest : List Char) :
    equalMark kinds first (rest ++ tail) = equalMark kinds first rest := by
  cases rest with
  | nil =>
    cases tail with
    | nil => rfl
    | cons c more =>
      rw [h c rfl]
      rfl
  | cons c rest =>
    rw [List.cons_append, equalMark.eq_def, equalMark.eq_def]
    split <;> split <;> simp_all

/-- A slash and a comment look at no more than the line. -/
theorem slash_append (h : AtLineEnd tail) (rest : List Char) : slash (rest ++ tail) = slash rest := by
  cases rest with
  | nil =>
    cases tail with
    | nil => rfl
    | cons c more =>
      rw [h c rfl]
      rfl
  | cons c rest =>
    by_cases comment : c = '/'
    · subst comment
      rw [List.cons_append, slash, slash, h.takeWhile (by decide)]
    · rw [List.cons_append, slash.eq_def, slash.eq_def]
      split <;> split <;> simp_all

/-- A string that is closed ends at its closing quote. -/
theorem string_append {rest : List Char} (closed : (string rest).shape ≠ .fault .unterminatedString)
    (tail : List Char) : string (rest ++ tail) = string rest := by
  simp only [string] at closed ⊢
  cases behind : rest.dropWhile (· != '"') with
  | nil =>
    rw [behind] at closed
    exact absurd rfl closed
  | cons quote more =>
    have dropped : (rest ++ tail).dropWhile (· != '"') = quote :: (more ++ tail) := by
      rw [List.dropWhile_append, behind]
      rfl
    have taken : (rest ++ tail).takeWhile (· != '"') = rest.takeWhile (· != '"') := by
      have parts := congrArg List.length (List.takeWhile_append_dropWhile (p := (· != '"')) (l := rest))
      rw [behind, List.length_append, List.length_cons] at parts
      rw [List.takeWhile_append, if_neg (by omega)]
    rw [taken, dropped]

/-- A fraction begins with a point. -/
theorem fraction_of_ne_point {c : Char} (h : c ≠ '.') (text : List Char) : fraction (c :: text) = [] := by
  unfold fraction
  split
  · next first => exact absurd (List.cons.inj first).1 h
  · rfl

/-- A point at the end of a line begins no fraction. -/
theorem fraction_append (h : AtLineEnd tail) (text : List Char) :
    fraction (text ++ tail) = fraction text := by
  cases text with
  | nil =>
    cases tail with
    | nil => rfl
    | cons c more =>
      rw [h c rfl]
      exact fraction_of_ne_point (by decide) more
  | cons c text =>
    by_cases point : c = '.'
    · subst point
      cases text with
      | nil =>
        cases tail with
        | nil => rfl
        | cons c more =>
          -- The point needs a digit behind it, and a newline is none.
          have newline : ¬ CharClass.isDigit '\n' = true := by decide +kernel
          rw [h c rfl, List.singleton_append, fraction, if_neg newline]
          rfl
      | cons d text =>
        rw [List.cons_append, List.cons_append, fraction, fraction, h.takeWhile (by decide +kernel)]
    · rw [List.cons_append, fraction_of_ne_point point, fraction_of_ne_point point]

/-- A number looks at no more than the line. -/
theorem number_append (h : AtLineEnd tail) (first : Char) (rest : List Char) :
    number first (rest ++ tail) = number first rest := by
  simp only [number]
  rw [h.takeWhile (by decide +kernel), h.dropWhile (by decide +kernel), fraction_append h]

/-- A word looks at no more than the line. -/
theorem word_append (h : AtLineEnd tail) (first : Char) (rest : List Char) :
    word first (rest ++ tail) = word first rest := by
  simp only [word]
  rw [h.takeWhile (by decide +kernel)]

/-- **A lexeme does not change when the text goes on at the end of a line**, unless it is a string
that is not closed. -/
theorem cut_append (h : AtLineEnd tail) (first : Char) (rest : List Char)
    (closed : (cut first rest).shape ≠ .fault .unterminatedString) :
    cut first (rest ++ tail) = cut first rest := by
  unfold cut
  split
  · rfl
  split
  · exact equalMark_append h _ first rest
  split
  · exact slash_append h rest
  split
  · next quote =>
    subst quote
    exact string_append closed tail
  split
  · exact number_append h first rest
  split
  · exact word_append h first rest
  · rfl

end Lexeme

/-! ## Lines -/

namespace Lines

/-- A text has at least one line. -/
theorem split_ne_nil (text : List Char) : split text ≠ [] := by
  unfold split
  split
  · exact List.cons_ne_nil _ _
  · exact List.cons_ne_nil _ _
  · split <;> exact List.cons_ne_nil _ _

/-- A newline in front makes an empty line. -/
theorem split_newline (text : List Char) : split ('\n' :: text) = [] :: split text := by rw [split]

/-- Any other character in front belongs to the first line. -/
theorem split_cons {c : Char} (other : c ≠ '\n') {text line : List Char} {lines : List (List Char)}
    (h : split text = line :: lines) : split (c :: text) = (c :: line) :: lines := by
  rw [split.eq_def]
  split
  · next first => cases first
  · next first => exact absurd (List.cons.inj first).1 other
  · next first => obtain ⟨rfl, rfl⟩ := List.cons.inj first; rw [h]

/-- The lines of two texts joined by a newline are those of the first and those of the second. -/
theorem split_append (text text' : List Char) :
    split (text ++ '\n' :: text') = split text ++ split text' := by
  induction text with
  | nil => rw [List.nil_append, split_newline, split]; rfl
  | cons c text ih =>
    obtain ⟨line, lines, split_eq⟩ := List.exists_cons_of_ne_nil (split_ne_nil text)
    by_cases newline : c = '\n'
    · subst newline
      rw [List.cons_append, split_newline, split_newline, ih, List.cons_append]
    · rw [split_eq] at ih
      rw [List.cons_append, split_cons newline split_eq]
      exact split_cons newline ih

/-- The characters of joined sources are those of the first, a newline, and those of the second. -/
theorem toList_join (source source' : String) :
    (source ++ "\n" ++ source').toList = source.toList ++ '\n' :: source'.toList := by
  rw [String.toList_append, String.toList_append, List.append_assoc]
  rfl

/-- The lines of joined sources are those of the first and then those of the second. -/
theorem ofSource_join (source source' : String) :
    ofSource (source ++ "\n" ++ source') = ofSource source ++ ofSource source' := by
  rw [ofSource, toList_join, split_append, List.map_append]
  rfl

end Lines

namespace Scanner

/-- Consuming a text leads down by its newlines. -/
theorem advance_line (place : Nat × Nat) (text : List Char) :
    (advance place text).1 + 1 = place.1 + (Lines.split text).length := by
  induction text generalizing place with
  | nil => rfl
  | cons c text ih =>
    by_cases newline : c = '\n'
    · subst newline
      rw [Lines.split_newline, List.length_cons]
      refine (ih (place.1 + 1, 0)).trans ?_
      omega
    · obtain ⟨line, lines, split_eq⟩ := List.exists_cons_of_ne_nil (Lines.split_ne_nil text)
      rw [Lines.split_cons newline split_eq, advance, List.foldl_cons, if_neg newline]
      have others := ih (place.1, place.2 + 1)
      rw [split_eq] at others
      exact others

variable {source : String} {file : Option String} {s s' t t' : Scanner}

/-- **Scanning stays within the lines of the source.** -/
theorem Tracks.line_le (h : Tracks source file s) :
    1 ≤ s.line ∧ s.line ≤ (Lines.ofSource source).length := by
  have line := congrArg Prod.fst h.place_eq
  have passed := advance_line (1, 0) s.cursor.passed.reverse
  have ahead := advance_line (advance (1, 0) s.cursor.passed.reverse) s.cursor.ahead
  have whole := advance_line (1, 0) source.toList
  -- The line that the scanner has got to is the last one passed and the first one ahead.
  rw [← h.text_eq, Cursor.text, advance_append] at whole
  have first := List.length_pos_iff.mpr (Lines.split_ne_nil s.cursor.passed.reverse)
  have last := List.length_pos_iff.mpr (Lines.split_ne_nil s.cursor.ahead)
  rw [Lines.ofSource, List.length_map, ← h.text_eq, Cursor.text]
  dsimp only at line passed ahead whole
  omega

/-- Scanning ends in the last line of the source. -/
theorem Tracks.line_eq (h : Tracks source file s) (atEnd : s.cursor.ahead = []) :
    s.line = (Lines.ofSource source).length := by
  have line := congrArg Prod.fst h.place_eq
  have passed : s.cursor.passed.reverse = source.toList := by
    rw [← h.text_eq, Cursor.text, atEnd, List.append_nil]
  have whole := advance_line (1, 0) source.toList
  rw [passed] at line
  rw [Lines.ofSource, List.length_map]
  dsimp only at line whole
  omega

end Scanner

/-- The lines of a token are lines of its source. -/
theorem lines_of_mem_scan {source : String} {file : Option String} {t : Token}
    (mem : .ok t ∈ scan source file) :
    (1 ≤ t.span.start.line ∧ t.span.start.line ≤ (Lines.ofSource source).length) ∧
      1 ≤ t.span.stop.line ∧ t.span.stop.line ≤ (Lines.ofSource source).length := by
  obtain ⟨s, after, tracks, step⟩ := Scanner.step_of_mem_scan mem
  obtain ⟨first, more, left, -, -, -, yields⟩ := Scanner.step?_cases step
  rcases Scanner.yield?_cases yields.symm with ⟨kind, datum, -, token⟩ | ⟨cause, -, fault⟩
  · cases token
    have start := tracks.line_le
    have stop := (tracks.step step).line_le
    refine ⟨⟨?_, ?_⟩, ?_, ?_⟩
    · exact Int.ofNat_le.mpr start.1
    · exact Int.ofNat_le.mpr start.2
    · exact Int.ofNat_le.mpr stop.1
    · exact Int.ofNat_le.mpr stop.2
  · cases fault

/-! ## A source below another one -/

/-- **A source that stands below another one**: everything is `lines` lines and
`size` characters further down. -/
def Relocation.below (lines size : Nat) : Relocation where
  position := fun p => { p with line := p.line + lines, offset := p.offset + size }
  place := fun line column => (line + lines, column)
  place_eq := fun _ => rfl

/-- A source below nothing stays where it is. -/
theorem Token.moved_below_zero (t : Token) : t.moved (.below 0 0) = t := by
  obtain ⟨kind, datum, lexeme, ⟨⟨l, c, o, f⟩, ⟨l', c', o', f'⟩⟩⟩ := t
  simp [Token.moved, Span.moved, Relocation.below]

namespace Scanner

/-- **Scanners at the same place of a source**, the second one in a source that has it below `lines` lines
and `size` characters, and goes on with `tail`. -/
structure Matches (lines size : Nat) (tail : List Char) (s s' : Scanner) : Prop where
  ahead_eq : s'.cursor.ahead = s.cursor.ahead ++ tail
  position_eq : s'.cursor.position = s.cursor.position + size
  line_eq : s'.line = s.line + lines
  column_eq : s'.column = s.column
  file_eq : s'.file = s.file

variable {lines size : Nat} {tail : List Char} {s s' t : Scanner}

/-- Scanners that match are about to consume the same character, one of them further down. -/
theorem Matches.nextPosition (h : Matches lines size tail s s') :
    s'.nextPosition = (Relocation.below lines size).position s.nextPosition := by
  rw [Scanner.nextPosition, h.line_eq, h.column_eq, h.position_eq, h.file_eq]
  rfl

/-- They have consumed the same one last, if the first of them has consumed any. -/
theorem Matches.lastPosition (h : Matches lines size tail s s') (moved : 0 < s.cursor.position) :
    s'.lastPosition = (Relocation.below lines size).position s.lastPosition := by
  have offset : ((s.cursor.position + size - 1 : Nat) : Int) =
      ((s.cursor.position - 1 : Nat) : Int) + size := by
    omega
  rw [Scanner.lastPosition, h.line_eq, h.column_eq, h.position_eq, h.file_eq, offset]
  rfl

/-- Line and column after a text depend on the line before it by addition only. -/
theorem advance_below (lines : Nat) (place : Nat × Nat) (text : List Char) :
    advance (place.1 + lines, place.2) text =
      ((advance place text).1 + lines, (advance place text).2) := by
  induction text generalizing place with
  | nil => rfl
  | cons c text ih =>
    by_cases newline : c = '\n'
    · rw [advance, List.foldl_cons, if_pos newline, advance, List.foldl_cons, if_pos newline,
        Nat.add_right_comm]
      exact ih (place.1 + 1, 0)
    · rw [advance, List.foldl_cons, if_neg newline, advance, List.foldl_cons, if_neg newline]
      exact ih (place.1, place.2 + 1)

/-- Scanners at the same place are so behind a lexeme of both. -/
theorem Matches.consume (h : Matches lines size tail s s') {chars left : List Char}
    (split : s.cursor.ahead = chars ++ left) :
    Matches lines size tail (s.consume chars) (s'.consume chars) := by
  have split' : s'.cursor.ahead = chars ++ (left ++ tail) := by rw [h.ahead_eq, split, List.append_assoc]
  have place := advance_below lines (s.line, s.column) chars
  refine ⟨?_, ?_, ?_, ?_, h.file_eq⟩
  · rw [ahead_consume split, ahead_consume split']
  · show s'.cursor.position + min chars.length s'.cursor.ahead.length =
      s.cursor.position + min chars.length s.cursor.ahead.length + size
    rw [h.position_eq, split, split']
    simp only [List.length_append]
    omega
  · show (advance (s'.line, s'.column) chars).1 = (advance (s.line, s.column) chars).1 + lines
    rw [h.line_eq, h.column_eq, place]
  · show (advance (s'.line, s'.column) chars).2 = (advance (s.line, s.column) chars).2
    rw [h.line_eq, h.column_eq, place]

/-- **Scanners at the same place step in parallel**, as long as there is no fault. -/
theorem Matches.step (h : Matches lines size tail s s') (lineEnd : AtLineEnd tail) {r : Option Token}
    (step : s.step? = some (r.map .ok, t)) :
    ∃ t', s'.step? = some ((r.map (Token.moved (.below lines size))).map .ok, t') ∧
      Matches lines size tail t t' := by
  obtain ⟨first, more, left, ahead, split, rfl, yields⟩ := step?_cases step
  have ahead' : s'.cursor.ahead = first :: (more ++ tail) := by rw [h.ahead_eq, ahead, List.cons_append]
  -- A string that is not closed would go on behind the end of the line, but it is a fault.
  have closed : (Lexeme.cut first more).shape ≠ .fault .unterminatedString := by
    intro shape
    rw [yield?, shape] at yields
    cases r <;> cases yields
  have after := h.consume (ahead.trans split)
  have cut := Lexeme.cut_append lineEnd first more closed
  refine ⟨s'.consume (Lexeme.cut first more).chars, ?_, after⟩
  rw [step?_of_ahead ahead', cut]
  have moved : 0 < (s.consume (Lexeme.cut first more).chars).cursor.position := by
    have positive := List.length_pos_iff.mpr (Lexeme.cut_ne_nil first more)
    show 0 < s.cursor.position + min (Lexeme.cut first more).chars.length s.cursor.ahead.length
    rw [ahead, List.length_cons]
    omega
  rw [yield?] at yields ⊢
  cases shape : (Lexeme.cut first more).shape with
  | blank | comment =>
    rw [shape] at yields
    cases r with
    | none => rfl
    | some token => cases yields
  | token kind datum =>
    rw [shape] at yields
    cases r with
    | none => cases yields
    | some token =>
      cases yields
      dsimp only
      rw [h.nextPosition, after.lastPosition moved]
      rfl
  | fault cause =>
    rw [shape] at yields
    cases r <;> cases yields

/-- **Scanners at the same place run in parallel**, as long as there is no fault. -/
theorem Scans.matched {results : List Scanned} (h : Scans s results t) (lineEnd : AtLineEnd tail)
    {tokens : List Token} (faultless : results = tokens.map .ok) (same : Matches lines size tail s s') :
    ∃ t', Scans s' ((tokens.map (Token.moved (.below lines size))).map .ok) t' ∧
      Matches lines size tail t t' := by
  -- By induction on the steps of the first scanner: the second makes the same step, at the moved place.
  induction h generalizing s' tokens with
  | done =>
    rw [List.map_eq_nil_iff.mp faultless.symm]
    exact ⟨s', .done, same⟩
  | @step s u t r results first _ ih =>
    cases r with
    | none =>
      obtain ⟨u', step', same'⟩ := same.step lineEnd (r := none) first
      obtain ⟨t', others, final⟩ := ih faultless same'
      exact ⟨t', .step step' others, final⟩
    | some result =>
      cases tokens with
      | nil => cases faultless
      | cons token tokens =>
        obtain ⟨rfl, others_eq⟩ := List.cons.inj faultless
        obtain ⟨u', step', same'⟩ := same.step lineEnd (r := some token) first
        obtain ⟨t', others, final⟩ := ih others_eq same'
        exact ⟨t', .step step' others, final⟩

end Scanner

/-- **The tokens of two sources that are joined by a newline** are those of the first, and those of the
second below it. -/
theorem scan_joined {source₁ source₂ : String} {file : Option String} {tokens₁ tokens₂ : List Token}
    (scanned₁ : scan source₁ file = tokens₁.map .ok) (scanned₂ : scan source₂ file = tokens₂.map .ok) :
    scan (source₁ ++ "\n" ++ source₂) file =
      (tokens₁ ++ tokens₂.map
        (Token.moved (.below (Lines.ofSource source₁).length (source₁.toList.length + 1)))).map .ok := by
  obtain ⟨t, steps, atEnd⟩ := Scanner.scans_rest (.ofSource source₁ file)
  obtain ⟨u, steps', atEnd'⟩ := Scanner.scans_rest (.ofSource source₂ file)
  have tracks := (steps.invariant Scanner.Tracks.step (Scanner.tracks_ofSource source₁ file)).1
  have ahead := Scanner.step?_eq_none.mp atEnd
  have passed : t.cursor.position = source₁.toList.length := by
    rw [← tracks.text_eq, Cursor.text, ahead, List.append_nil, List.length_reverse, t.cursor.position_eq]
  -- The first source is scanned as if nothing came behind it.
  have same : Scanner.Matches 0 0 ('\n' :: source₂.toList) (.ofSource source₁ file)
      (.ofSource (source₁ ++ "\n" ++ source₂) file) := ⟨Lines.toList_join source₁ source₂, rfl, rfl, rfl, rfl⟩
  obtain ⟨t', run, final⟩ := steps.matched (.newline _) scanned₁ same
  have unmoved : Token.moved (.below 0 0) = id := funext Token.moved_below_zero
  rw [unmoved, List.map_id] at run
  -- The newline takes the scanner to the place where the second source begins.
  have ahead' : t'.cursor.ahead = '\n' :: source₂.toList := by rw [final.ahead_eq, ahead, List.nil_append]
  have step : t'.step? = some (none, t'.consume ['\n']) := Scanner.step?_of_ahead ahead'
  have below : Scanner.Matches (Lines.ofSource source₁).length (source₁.toList.length + 1) []
      (.ofSource source₂ file) (t'.consume ['\n']) := by
    refine ⟨?_, ?_, ?_, rfl, final.file_eq.trans tracks.file_eq⟩
    · rw [Scanner.ahead_consume (show t'.cursor.ahead = ['\n'] ++ source₂.toList from ahead'),
        List.append_nil]
      rfl
    · show t'.cursor.position + min 1 t'.cursor.ahead.length = 0 + (source₁.toList.length + 1)
      rw [final.position_eq, passed, ahead', List.length_cons]
      omega
    · show t'.line + 1 = 1 + (Lines.ofSource source₁).length
      rw [final.line_eq, tracks.line_eq ahead, Nat.add_zero, Nat.add_comm]
  obtain ⟨u', run', final'⟩ := steps'.matched .nil scanned₂ below
  have nothing : u'.rest.1 = [] := by
    refine Scanner.rest_of_none (Scanner.step?_eq_none.mpr ?_)
    rw [final'.ahead_eq, Scanner.step?_eq_none.mp atEnd', List.append_nil]
  rw [scan, run.rest, Scanner.rest_of_step step, run'.rest, nothing, List.append_nil, List.map_append]
  rfl

end LoxScript
