import LoxScript.Proofs.Scanning.Joined
import LoxScript.Proofs.Scanning.Lexicon
import Mathlib.Data.List.Induction

/-! # Places in a source

Scanning loses nothing: what it yields stands in the source where its span says, and between the spans there
is nothing but trivia, however the scanner is called.

* **`Position.ofOffset`** — the line and the column of a character by their definition, from the newlines in
  front of it.
* **`Scanner.Tracks.nextPosition_eq`**, **`Scanner.Tracks.lastPosition_eq`** — the line and the column that a
  scanner keeps are those.
* **`Trivia`** — blanks, newlines and comments.
* **`Laid`** — spans that lie in a text in order, with trivia around them.
* **`Scanner.Call`** — the calls that a scanner answers; what a series of calls yields is a beginning of what
  there is (`Scanner.answers_prefix`).
* **`scanning_lossless`** — all of it together. -/

namespace LoxScript

/-! ## Lines and columns -/

/-- **The place of a character** with so many characters before it. The line is one more than the newlines
before it, and the column counts from the last of them. -/
def Position.ofOffset (source : String) (file : Option String) (offset : Nat) : Position where
  line := ((source.toList.take offset).count '\n' + 1 : Nat)
  column := (((source.toList.take offset).reverse.takeWhile (· != '\n')).length + 1 : Nat)
  offset := offset
  file := file

/-- The place just in front of the line below. -/
def Position.below (p : Position) : Position := { p with line := p.line + 1, column := 0 }

namespace Scanner

variable {source : String} {file : Option String} {s t : Scanner}

/-- The last character of a text moves line and column once more. -/
theorem advance_concat (place : Nat × Nat) (text : List Char) (c : Char) :
    advance place (text ++ [c]) =
      if c = '\n' then ((advance place text).1 + 1, 0)
      else ((advance place text).1, (advance place text).2 + 1) :=
  advance_append place text [c]

/-- A text leads down by its newlines, and right by what stands behind the last of them. -/
theorem advance_eq (text : List Char) :
    advance (1, 0) text = (text.count '\n' + 1, (text.reverse.takeWhile (· != '\n')).length) := by
  -- The place after a character depends on the place before it, so the last character comes off first.
  induction text using List.reverseRecOn with
  | nil => rfl
  | append_singleton text c ih =>
    rw [advance_concat, ih, List.count_append, List.reverse_append]
    by_cases newline : c = '\n'
    · subst newline
      rfl
    · have other : (c != '\n') = true := bne_iff_ne.mpr newline
      rw [if_neg newline, List.count_singleton, beq_eq_false_iff_ne.mpr newline, List.reverse_singleton,
        List.singleton_append, List.takeWhile_cons, other]
      rfl

/-- The characters passed are those in front of the position. -/
theorem Tracks.passed_eq (h : Tracks source file s) :
    s.cursor.passed.reverse = source.toList.take s.cursor.position := by
  rw [← h.text_eq, Cursor.text, s.cursor.position_eq, ← List.length_reverse, List.take_left]

/-- **The character about to be consumed** is at its place. -/
theorem Tracks.nextPosition_eq (h : Tracks source file s) :
    s.nextPosition = .ofOffset source file s.cursor.position := by
  obtain ⟨line, column⟩ := Prod.mk.inj (h.place_eq.trans (advance_eq _))
  rw [h.passed_eq] at line column
  rw [nextPosition, Position.ofOffset, ← line, ← column, h.file_eq]
  rfl

/-- **The character consumed last** is at its place, unless it is a newline, behind which is the next line. -/
theorem Tracks.lastPosition_eq (h : Tracks source file s) {last : Char} {before : List Char}
    (passed : s.cursor.passed = last :: before) :
    s.lastPosition =
      if last = '\n' then (Position.ofOffset source file before.length).below
      else .ofOffset source file before.length := by
  have position : s.cursor.position = before.length + 1 := by
    rw [s.cursor.position_eq, passed, List.length_cons]
  -- The characters in front of the last one give its place by themselves.
  have front : source.toList.take before.length = before.reverse := by
    rw [← h.text_eq, Cursor.text, passed, List.reverse_cons, List.append_assoc, ← List.length_reverse,
      List.take_left]
  have place := h.place_eq
  rw [passed, List.reverse_cons, advance_concat, advance_eq] at place
  rw [lastPosition, position, h.file_eq]
  split at place
  · next newline =>
    obtain ⟨line, column⟩ := Prod.mk.inj place
    rw [if_pos newline, Position.below, Position.ofOffset, front, line, column]
    rfl
  · next other =>
    obtain ⟨line, column⟩ := Prod.mk.inj place
    rw [if_neg other, Position.ofOffset, front, line, column]
    rfl

end Scanner

/-! ## Lexemes that end with a newline -/

namespace Lexeme

/-- A word is of characters of names, so it has no newline. -/
theorem IsWord.parts {chars : List Char} (h : IsWord chars) : ∀ c ∈ chars, CharClass.isNamePart c = true := by
  obtain ⟨start, all⟩ := h
  intro c mem
  rcases List.mem_cons.mp mem with rfl | mem
  · exact CharClass.isNamePart_of_isNameStart start
  · exact all c mem

/-- A number is of digits and a point, so it has none either. -/
theorem IsNumber.parts {chars : List Char} (h : IsNumber chars) :
    ∀ c ∈ chars, CharClass.isDigit c = true ∨ c = '.' := by
  intro c mem
  cases h with
  | whole digit all =>
    rcases List.mem_cons.mp mem with rfl | mem
    · exact .inl (CharClass.isDigit_of_isAsciiDigit digit)
    · exact .inl (all c mem)
  | pointed digit all _ all' =>
    rcases List.mem_append.mp mem with mem | mem
    · rcases List.mem_cons.mp mem with rfl | mem
      · exact .inl (CharClass.isDigit_of_isAsciiDigit digit)
      · exact .inl (all c mem)
    · rcases List.mem_cons.mp mem with rfl | mem
      · exact .inr rfl
      · exact .inl (all' c mem)

/-- Of the lexemes of the language only blanks end with a newline. -/
theorem Reads.getLast?_ne {chars : List Char} {shape : Shape} (h : Reads chars shape)
    (other : shape ≠ .blank) : chars.getLast? ≠ some '\n' := by
  intro last
  have mem := List.mem_of_getLast? last
  cases h with
  | blank => exact other rfl
  -- Marks, names and numbers have no newline in them, and a string ends with a quote.
  | comment free => exact free (by simpa using mem)
  | mark mark =>
    have each : ∀ entry ∈ Kind.marks, '\n' ∉ entry.1.toList := by decide
    exact each _ mark mem
  | string =>
    rw [List.getLast?_concat] at last
    cases last
  | number isNumber | invalid isNumber =>
    rcases isNumber.parts _ mem with digit | point
    · exact absurd digit (by decide +kernel)
    · exact absurd point (by decide)
  | keyword isWord | name isWord => exact absurd (isWord.parts _ mem) (by decide +kernel)

/-- Only a blank or an unclosed string is cut off up to a newline. -/
theorem shape_of_getLast? {first : Char} {rest : List Char}
    (last : (cut first rest).chars.getLast? = some '\n') :
    (cut first rest).shape = .blank ∨ (cut first rest).shape = .fault .unterminatedString := by
  rcases cut_cases first rest with reads | ⟨-, lexeme⟩ | ⟨-, lexeme⟩
  · by_cases blank : (cut first rest).shape = .blank
    · exact .inl blank
    · exact absurd last (reads.getLast?_ne blank)
  · exact .inr (congrArg Lexeme.shape lexeme)
  · -- A newline is not unexpected.
    rw [lexeme] at last
    obtain rfl : first = '\n' := by simpa using last
    cases lexeme

end Lexeme

/-! ## Trivia -/

/-- **Trivia**: blanks, newlines and comments. A comment ends in front of a newline; the trivia are
`unended` if they end with a comment behind which no newline has come yet. -/
inductive Trivia : (unended : Bool) → List Char → Prop
  | none : Trivia false []
  | blank {text : List Char} {c : Char} : Trivia false text → CharClass.isBlank c = true →
      Trivia false (text ++ [c])
  | newline {unended : Bool} {text : List Char} : Trivia unended text → Trivia false (text ++ ['\n'])
  | comment {text body : List Char} : Trivia false text → '\n' ∉ body →
      Trivia true (text ++ '/' :: '/' :: body)

/-- **Spans that lie in a text** that begins at an offset: one behind the other, with trivia in front of
each of them and behind the last one. Only there may a comment have no newline behind it. -/
inductive Laid : (offset : Nat) → (text : List Char) → List Span → Prop
  | last {offset : Nat} {gap : List Char} {unended : Bool} : Trivia unended gap → Laid offset gap []
  | next {offset : Nat} {gap chars rest : List Char} {span : Span} {spans : List Span} :
      Trivia false gap → chars ≠ [] → span.start.offset = (offset + gap.length : Nat) →
      span.stop.offset + 1 = (offset + gap.length + chars.length : Nat) →
      Laid (offset + gap.length + chars.length) rest spans →
      Laid offset (gap ++ chars ++ rest) (span :: spans)

section Laid

variable {offset : Nat} {text : List Char} {spans : List Span}

/-- Spans lie behind the offset that their text begins at. -/
theorem Laid.offset_le (h : Laid offset text spans) : ∀ s ∈ spans, (offset : Int) ≤ s.start.offset := by
  induction h with
  | last => exact fun _ mem => by cases mem
  | next _ _ start _ _ ih =>
    intro s mem
    rcases List.mem_cons.mp mem with rfl | mem
    · rw [start]
      omega
    · have behind := ih s mem
      omega

/-- **Spans that lie in a text are disjoint and in order.** -/
theorem Laid.pairwise (h : Laid offset text spans) :
    spans.Pairwise fun s s' => s.stop.offset < s'.start.offset := by
  induction h with
  | last => exact .nil
  | next _ _ _ stop laid ih =>
    refine .cons (fun s mem => ?_) ih
    have behind := laid.offset_le s mem
    omega

end Laid

/-- The place of a result. -/
def Scanned.span : Scanned → Span
  | .ok t => t.span
  | .error fault => fault.span

/-- What a lexeme yields has the place of the lexeme. -/
theorem Scanned.span_of_yield? {s t : Scanner} {lexeme : Lexeme} {r : Scanned}
    (h : Scanner.yield? s t lexeme = some r) : r.span = ⟨s.nextPosition, t.lastPosition⟩ := by
  rcases Scanner.yield?_cases h with ⟨_, _, -, rfl⟩ | ⟨_, -, rfl⟩
  · rfl
  · exact Fault.span_quote _ _

namespace Scanner

variable {source : String} {file : Option String} {s t : Scanner} {r : Option Scanned}

/-- The offset moves by the characters that are consumed. -/
theorem position_consume {chars left : List Char} (h : s.cursor.ahead = chars ++ left) :
    (s.consume chars).cursor.position = s.cursor.position + chars.length := by
  rw [Cursor.position_eq, passed_consume h, List.length_append, List.length_reverse, s.cursor.position_eq,
    Nat.add_comm]

/-- What a step yields begins at the position before it and ends in front of the one after it. -/
theorem offsets_of_step {result : Scanned} (step : s.step? = some (some result, t)) :
    result.span.start.offset = s.cursor.position ∧ result.span.stop.offset + 1 = t.cursor.position := by
  obtain ⟨first, more, left, ahead, split, rfl, yields⟩ := step?_cases step
  have positive := List.length_pos_iff.mpr (Lexeme.cut_ne_nil first more)
  have position := position_consume (ahead.trans split)
  rw [Scanned.span_of_yield? yields.symm]
  refine ⟨rfl, ?_⟩
  show (((s.consume (Lexeme.cut first more).chars).cursor.position - 1 : Nat) : Int) + 1 = _
  omega

end Scanner

/-- Trivia go on with a lexeme that yields nothing. A comment is read up to the end of its line. -/
theorem Trivia.lexeme {gap left : List Char} {unended : Bool} {first : Char} {rest : List Char}
    (h : Trivia unended gap) (ended : unended = true → first = '\n')
    (silent : (Lexeme.cut first rest).shape = .blank ∨ (Lexeme.cut first rest).shape = .comment)
    (split : first :: rest = (Lexeme.cut first rest).chars ++ left) :
    ∃ unended', Trivia unended' (gap ++ (Lexeme.cut first rest).chars) ∧
      (unended' = true → AtLineEnd left) := by
  rcases Lexeme.cut_cases first rest with reads | ⟨-, lexeme⟩ | ⟨-, lexeme⟩
  · have longest := Lexeme.longest_cut reads
    generalize (Lexeme.cut first rest).chars = chars at *
    generalize (Lexeme.cut first rest).shape = shape at *
    cases reads with
    | @blank c blank =>
      obtain rfl : first = c := (List.cons.inj split).1
      refine ⟨false, ?_, fun true => by cases true⟩
      by_cases newline : first = '\n'
      · rw [newline]
        exact h.newline
      · cases unended with
        | true => exact absurd (ended rfl) newline
        | false => exact h.blank (blank.resolve_right newline)
    | @comment body free =>
      obtain rfl : first = '/' := (List.cons.inj split).1
      cases unended with
      | true => exact absurd (ended rfl) (by decide)
      | false =>
        refine ⟨true, h.comment free, fun _ c head => ?_⟩
        -- Another character than a newline would still belong to the comment.
        by_contra other
        obtain ⟨more, rfl⟩ : ∃ more, left = c :: more := List.head?_eq_some_iff.mp head
        have longer : Lexeme.Reads ('/' :: '/' :: (body ++ [c])) .comment := by
          refine .comment fun mem => ?_
          rcases List.mem_append.mp mem with mem | mem
          · exact free mem
          · exact other (List.mem_singleton.mp mem).symm
        have shorter := longest.longest longer ⟨more, by rw [split]; simp⟩
        simp only [List.length_cons, List.length_append, List.length_nil] at shorter
        omega
    | mark | string | number | invalid | keyword | name => rcases silent with silent | silent <;> cases silent
  · rw [lexeme] at silent
    rcases silent with silent | silent <;> cases silent
  · rw [lexeme] at silent
    rcases silent with silent | silent <;> cases silent

namespace Scanner

variable {source : String} {file : Option String} {s t : Scanner} {results : List Scanned}

/-- **The results of steps to the end of a source lie in it**, behind the trivia that have come before. -/
theorem Scans.laid (steps : Scans s results t) (atEnd : t.cursor.ahead = []) {offset : Nat} {gap : List Char}
    {unended : Bool} (trivia : Trivia unended gap) (ended : unended = true → AtLineEnd s.cursor.ahead)
    (position : s.cursor.position = offset + gap.length) :
    Laid offset (gap ++ s.cursor.ahead) (results.map Scanned.span) := by
  -- `gap` holds the trivia since the last result; it grows with every step that yields nothing.
  induction steps generalizing offset gap unended with
  | done =>
    rw [atEnd, List.append_nil]
    exact .last trivia
  | @step s u t r results first _ ih =>
    obtain ⟨c, more, left, ahead, split, after, yields⟩ := step?_cases first
    have begins : unended = true → c = '\n' := fun h => ended h c (by rw [ahead]; rfl)
    have consumed := position_consume (ahead.trans split)
    rw [← after] at consumed
    have behind : u.cursor.ahead = left := by rw [after, ahead_consume (ahead.trans split)]
    rw [ahead, split, ← List.append_assoc]
    cases r with
    | none =>
      have silent : (Lexeme.cut c more).shape = .blank ∨ (Lexeme.cut c more).shape = .comment := by
        rw [yield?] at yields
        cases shape : (Lexeme.cut c more).shape with
        | blank => exact .inl rfl
        | comment => exact .inr rfl
        | token kind datum | fault cause =>
          rw [shape] at yields
          cases yields
      obtain ⟨unended', grown, ended'⟩ := trivia.lexeme begins silent split
      rw [← behind]
      refine ih atEnd grown (fun h => behind ▸ ended' h) ?_
      rw [consumed, position, List.length_append]
      omega
    | some result =>
      -- What yields a result is no newline, so the trivia in front of it have ended.
      cases unended with
      | true =>
        rw [begins rfl] at yields
        cases yields
      | false =>
        obtain ⟨start, stop⟩ := offsets_of_step first
        have place : u.cursor.position = offset + gap.length + (Lexeme.cut c more).chars.length := by
          rw [consumed, position]
        refine .next trivia (Lexeme.cut_ne_nil c more) (by rw [start, position]) (by rw [stop, place]) ?_
        rw [← behind]
        have laid := ih atEnd .none (fun h => by cases h) place
        exact laid

/-- **The results of a source lie in it.** -/
theorem laid_scan (source : String) (file : Option String) :
    Laid 0 source.toList ((scan source file).map Scanned.span) := by
  obtain ⟨t, steps, atEnd⟩ := scans_rest (ofSource source file)
  have laid := steps.laid (step?_eq_none.mp atEnd) .none (fun h => by cases h) rfl
  exact laid

/-! ## Places of results -/

/-- The character consumed last is the one in front of the position. -/
theorem Tracks.getElem?_last (h : Tracks source file s) {last : Char} {before : List Char}
    (passed : s.cursor.passed = last :: before) : source.toList[before.length]? = some last := by
  rw [← h.text_eq, Cursor.text, passed, List.reverse_cons, List.append_assoc, ← List.length_reverse,
    List.getElem?_append_right (Nat.le_refl _), Nat.sub_self]
  rfl

/-- **Where a result stands**: from the place of its first character to that of its last one. Only an
unclosed string can end with a newline, and its end is in the line below then. -/
theorem span_of_mem_scan {result : Scanned} (mem : result ∈ scan source file) :
    ∃ first last : Nat, first ≤ last ∧ last < source.toList.length ∧
      result.span.start = .ofOffset source file first ∧
      result.span.stop =
        (if source.toList[last]? = some '\n' then (Position.ofOffset source file last).below
        else .ofOffset source file last) ∧
      (source.toList[last]? = some '\n' →
        ∃ fault, result = .error fault ∧ fault.cause = .unterminatedString) := by
  obtain ⟨s, t, tracks, step⟩ := step_of_mem_scan mem
  have tracks' := tracks.step step
  obtain ⟨c, more, left, ahead, split, rfl, yields⟩ := step?_cases step
  have span := Scanned.span_of_yield? yields.symm
  -- The last character of the lexeme is the one that has been consumed last.
  obtain ⟨init, last, chars⟩ := List.eq_nil_or_concat' _ |>.resolve_left (Lexeme.cut_ne_nil c more)
  have passed : (s.consume (Lexeme.cut c more).chars).cursor.passed =
      last :: (init.reverse ++ s.cursor.passed) := by
    rw [passed_consume (ahead.trans split), chars, List.reverse_append]
    rfl
  have last_eq := tracks'.getElem?_last passed
  have length : (init.reverse ++ s.cursor.passed).length = s.cursor.position + init.length := by
    rw [List.length_append, List.length_reverse, s.cursor.position_eq, Nat.add_comm]
  rw [length] at last_eq
  refine ⟨s.cursor.position, s.cursor.position + init.length, Nat.le_add_right _ _,
    (List.getElem?_eq_some_iff.mp last_eq).1, ?_, ?_, fun newline => ?_⟩
  · rw [span, tracks.nextPosition_eq]
  · rw [span, tracks'.lastPosition_eq passed, length, last_eq]
    simp only [Option.some.injEq]
  · obtain rfl : last = '\n' := Option.some.inj (last_eq.symm.trans newline)
    rcases Lexeme.shape_of_getLast? (by rw [chars, List.getLast?_concat]) with blank | unclosed
    · rw [yield?, blank] at yields
      cases yields
    · rw [yield?, unclosed] at yields
      cases yields
      exact ⟨_, rfl, Fault.cause_quote _ _⟩

/-! ## Calls -/

/-- A step moves the scanner on. -/
theorem position_lt_of_step {r : Option Scanned} (step : s.step? = some (r, t)) :
    s.cursor.position < t.cursor.position := by
  obtain ⟨c, more, left, ahead, split, rfl, -⟩ := step?_cases step
  have positive := List.length_pos_iff.mpr (Lexeme.cut_ne_nil c more)
  rw [position_consume (ahead.trans split)]
  omega

/-- A call on a scanner. -/
inductive Call where
  /-- The next token or fault, if there is one. -/
  | next
  /-- All tokens up to the first fault, that fault included. -/
  | tokens
  /-- All tokens and faults. -/
  | all

/-- What a call yields, and the scanner after it. -/
def answer (s : Scanner) : Call → List Scanned × Scanner
  | .next => (s.next?.1.toList, s.next?.2)
  | .tokens => s.untilFault
  | .all => s.rest

/-- What calls yield one after another, and the scanner after them. -/
def answers : List Call → Scanner → List Scanned × Scanner
  | [], s => ([], s)
  | call :: calls, s =>
    let later := answers calls (s.answer call).2
    ((s.answer call).1 ++ later.1, later.2)

/-- A scanner is at the end iff nothing is ahead. -/
theorem atEnd_eq_true : s.atEnd = true ↔ s.cursor.ahead = [] := List.isEmpty_iff

/-- **One call for the next result** takes the scanner on, or is made at the end; and it yields nothing only
if it gets to the end. -/
theorem next?_progress (s : Scanner) :
    (s.cursor.position < s.next?.2.cursor.position ∨ s.atEnd = true ∧ s.next? = (none, s)) ∧
      (s.next?.1 = none → s.next?.2.atEnd = true) := by
  fun_induction next? s with
  | case1 s none =>
    have atEnd := atEnd_eq_true.mpr (step?_eq_none.mp none)
    exact ⟨.inr ⟨atEnd, rfl⟩, fun _ => atEnd⟩
  | case2 s r t step => exact ⟨.inl (position_lt_of_step step), fun none => by cases none⟩
  | case3 s t step ih =>
    refine ⟨.inl ?_, ih.2⟩
    have first := position_lt_of_step step
    rcases ih.1 with later | ⟨-, stays⟩
    · exact Nat.lt_trans first later
    · rw [stays]
      exact first

/-- Going to the next result is a run of steps. -/
theorem scans_next? (s : Scanner) : Scans s s.next?.1.toList s.next?.2 := by
  fun_induction next? s with
  | case1 s => exact .done
  | case2 s r t step => exact .step step .done
  | case3 s t step ih => exact .step step ih

/-- So is going on up to the first fault. -/
theorem scans_untilFault (s : Scanner) : Scans s s.untilFault.1 s.untilFault.2 := by
  fun_induction untilFault s with
  | case1 s => exact .done
  | case2 s fault t step => exact .step step .done
  | case3 s r t _ step more final later ih =>
    rw [later] at ih
    exact .step step ih

/-- So is going on to the end. -/
theorem scans_all (s : Scanner) : Scans s s.rest.1 s.rest.2 := by
  fun_induction rest s with
  | case1 s => exact .done
  | case2 s r t step more final later ih =>
    rw [later] at ih
    exact .step step ih

/-- A call takes steps. -/
theorem scans_answer (s : Scanner) (call : Call) : Scans s (s.answer call).1 (s.answer call).2 := by
  cases call with
  | next => exact scans_next? s
  | tokens => exact scans_untilFault s
  | all => exact scans_all s

/-- **What calls yield** is a beginning of what there is, whatever the calls are. -/
theorem answers_prefix (calls : List Call) (s : Scanner) : (answers calls s).1 <+: s.rest.1 := by
  induction calls generalizing s with
  | nil => exact List.nil_prefix
  | cons call calls ih =>
    -- A call takes steps to where the others start, so what they yield comes behind.
    rw [(scans_answer s call).rest]
    exact (List.prefix_append_right_inj _).mpr (ih _)

end Scanner

/-- **Scanning is lossless, and its places are true.**

* Whatever calls a scanner of a source is given, what they yield one after another is a beginning of the
  results of the source. The call for the next result always ends: it takes the scanner on, or the scanner
  is at the end; and it yields nothing only if the scanner gets to the end.
* The spans of the results are disjoint and in order, and the text outside them is trivia.
* The characters of a token are those of the source between its two ends.
* Every token and every fault begins at the line and column of its first character and ends at those of its
  last one; only the end of an unclosed string whose last character is a newline is at column zero of the
  line below. -/
theorem scanning_lossless (source : String) (file : Option String) :
    (∀ calls, (Scanner.answers calls (.ofSource source file)).1 <+: scan source file) ∧
    (∀ s : Scanner,
      (s.cursor.position < s.next?.2.cursor.position ∨ s.atEnd = true ∧ s.next? = (none, s)) ∧
        (s.next?.1 = none → s.next?.2.atEnd = true)) ∧
    ((scan source file).Pairwise fun r r' => r.span.stop.offset < r'.span.start.offset) ∧
    Laid 0 source.toList ((scan source file).map Scanned.span) ∧
    (∀ t, .ok t ∈ scan source file → t.Stands source ∧
      ∃ first last : Nat, first ≤ last ∧ last < source.toList.length ∧
        t.span = ⟨.ofOffset source file first, .ofOffset source file last⟩) ∧
    (∀ fault, .error fault ∈ scan source file →
      ∃ first last : Nat, first ≤ last ∧ last < source.toList.length ∧
        fault.span.start = .ofOffset source file first ∧
        fault.span.stop =
          if fault.cause = .unterminatedString ∧ source.toList[last]? = some '\n' then
            (Position.ofOffset source file last).below
          else .ofOffset source file last) := by
  refine ⟨fun calls => Scanner.answers_prefix calls _, Scanner.next?_progress, ?_,
    Scanner.laid_scan source file, fun t mem => ⟨stands_of_mem_scan mem, ?_⟩, fun fault mem => ?_⟩
  · exact List.pairwise_map.mp (Scanner.laid_scan source file).pairwise
  · obtain ⟨first, last, order, inside, start, stop, newline⟩ := Scanner.span_of_mem_scan mem
    -- Only an unclosed string ends with a newline as its last character, and that is no token.
    have other : ¬ source.toList[last]? = some '\n' := fun h => by
      obtain ⟨fault, token, -⟩ := newline h
      cases token
    rw [if_neg other] at stop
    exact ⟨first, last, order, inside, congr (congrArg Span.mk start) stop⟩
  · obtain ⟨first, last, order, inside, start, stop, newline⟩ := Scanner.span_of_mem_scan mem
    refine ⟨first, last, order, inside, start, stop.trans ?_⟩
    by_cases h : source.toList[last]? = some '\n'
    · obtain ⟨_, same, unclosed⟩ := newline h
      obtain rfl := Except.error.inj same
      rw [if_pos h, if_pos ⟨unclosed, h⟩]
    · rw [if_neg h, if_neg fun both => h both.2]

end LoxScript
