import LoxScript.Scanner
import Mathlib.Data.List.Basic

/-! # Steps of the scanner

What a scanner yields is what its steps yield, one after another, and each step cuts one lexeme off what is
ahead.

* **`Scans`** — steps from one state to another with what they yield. The results still to come in a state
  are those of the steps to the end (`Scans.rest`), and what every step keeps holds wherever a result comes
  from (`Scans.invariant`).
* **`Tracks`** — the invariant of scanning a source: the characters passed and those ahead make up the
  source, and line and column are where the characters passed lead to.
* **`Token.Stands`** — the characters of a token are those of the source between its two ends. -/

namespace LoxScript

namespace Scanner

variable {s t u : Scanner} {r : Option Scanned} {results more : List Scanned}

/-! ## One step -/

/-- At the end there is no step. -/
theorem step?_of_end (h : s.cursor.ahead = []) : s.step? = none := by rw [step?, h]

/-- A step cuts the first lexeme off what is ahead. -/
theorem step?_of_ahead {first : Char} {more : List Char} (h : s.cursor.ahead = first :: more) :
    s.step? = some (yield? s (s.consume (Lexeme.cut first more).chars) (Lexeme.cut first more),
      s.consume (Lexeme.cut first more).chars) := by
  rw [step?, h]

/-- There is no step at the end only. -/
theorem step?_eq_none : s.step? = none ↔ s.cursor.ahead = [] := by
  refine ⟨fun h => ?_, step?_of_end⟩
  cases ahead : s.cursor.ahead with
  | nil => rfl
  | cons first more =>
    rw [step?_of_ahead ahead] at h
    cases h

/-- What is ahead behind the characters of a lexeme. -/
theorem ahead_consume {chars left : List Char} (h : s.cursor.ahead = chars ++ left) :
    (s.consume chars).cursor.ahead = left := by
  show s.cursor.ahead.drop chars.length = left
  rw [h, List.drop_left]

/-- What has been passed behind the characters of a lexeme. -/
theorem passed_consume {chars left : List Char} (h : s.cursor.ahead = chars ++ left) :
    (s.consume chars).cursor.passed = chars.reverse ++ s.cursor.passed := by
  show (s.cursor.ahead.take chars.length).reverse ++ s.cursor.passed = _
  rw [h, List.take_left]

/-- **All that a step can do**: it consumes the first lexeme of what is ahead, and yields what that is. -/
theorem step?_cases (h : s.step? = some (r, t)) :
    ∃ first more left, s.cursor.ahead = first :: more ∧
      first :: more = (Lexeme.cut first more).chars ++ left ∧
      t = s.consume (Lexeme.cut first more).chars ∧ r = yield? s t (Lexeme.cut first more) := by
  cases ahead : s.cursor.ahead with
  | nil =>
    rw [step?_of_end ahead] at h
    cases h
  | cons first more =>
    rw [step?_of_ahead ahead] at h
    cases h
    obtain ⟨left, split⟩ := Lexeme.cut_isPrefix first more
    exact ⟨first, more, left, rfl, split.symm, rfl, rfl⟩

/-- What a lexeme yields stands between the states before and after it. -/
theorem yield?_cases {lexeme : Lexeme} {result : Scanned} (h : yield? s t lexeme = some result) :
    (∃ kind datum, lexeme.shape = .token kind datum ∧
      result = .ok ⟨kind, datum, String.ofList lexeme.chars, ⟨s.nextPosition, t.lastPosition⟩⟩) ∨
    (∃ cause, lexeme.shape = .fault cause ∧
      result = .error ((⟨cause, ⟨s.nextPosition, t.lastPosition⟩, none⟩ :
        Fault LexicalCause).quote s.lines)) := by
  rw [yield?] at h
  cases shape : lexeme.shape with
  | blank =>
    rw [shape] at h
    cases h
  | comment =>
    rw [shape] at h
    cases h
  | token kind datum =>
    rw [shape] at h
    cases h
    exact .inl ⟨kind, datum, rfl, rfl⟩
  | fault cause =>
    rw [shape] at h
    cases h
    exact .inr ⟨cause, rfl, rfl⟩

/-! ## Many steps -/

/-- At the end of a source there is nothing to come. -/
theorem untilFault_of_end (h : s.cursor.ahead = []) : s.untilFault.1 = [] := by
  have none := step?_of_end h
  rw [untilFault]
  split <;> simp_all

/-- A step that yields nothing is passed over. -/
theorem untilFault_of_none (h : s.step? = some (none, t)) : s.untilFault.1 = t.untilFault.1 := by
  rw [untilFault]
  split <;> simp_all

/-- A token is followed by the results up to the first fault. -/
theorem untilFault_of_token {token : Token} (h : s.step? = some (some (.ok token), t)) :
    s.untilFault.1 = .ok token :: t.untilFault.1 := by
  rw [untilFault]
  split <;> simp_all

/-- A fault is the last of these results. -/
theorem untilFault_of_fault {fault : Fault LexicalCause} (h : s.step? = some (some (.error fault), t)) :
    s.untilFault.1 = [.error fault] := by
  rw [untilFault]
  split <;> simp_all

/-- At the end there are no results left. -/
theorem rest_of_none (h : s.step? = none) : s.rest.1 = [] := by
  rw [rest]
  split <;> simp_all

/-- What a step yields comes before the results of the steps behind it. -/
theorem rest_of_step (h : s.step? = some (r, t)) : s.rest.1 = r.toList ++ t.rest.1 := by
  rw [rest]
  split <;> simp_all

/-- **Steps from one state to another**, with the results they yield. -/
inductive Scans : Scanner → List Scanned → Scanner → Prop
  | done {s : Scanner} : Scans s [] s
  | step {s t u : Scanner} {r : Option Scanned} {results : List Scanned} :
      s.step? = some (r, t) → Scans t results u → Scans s (r.toList ++ results) u

/-- The results still to come are those of the steps to the end. -/
theorem scans_rest (s : Scanner) : ∃ t, Scans s s.rest.1 t ∧ t.step? = none := by
  -- Every step leaves fewer characters ahead.
  induction hn : s.cursor.ahead.length using Nat.strongRecOn generalizing s with
  | ind n ih =>
    cases h : s.step? with
    | none =>
      rw [rest_of_none h]
      exact ⟨s, .done, h⟩
    | some next =>
      obtain ⟨r, t⟩ := next
      obtain ⟨u, others, atEnd⟩ := ih _ (hn ▸ step?_shorter h) t rfl
      rw [rest_of_step h]
      exact ⟨u, .step h others, atEnd⟩

/-- What is still to come in a state is what its steps yield, and what comes then. -/
theorem Scans.rest (h : Scans s results t) : s.rest.1 = results ++ t.rest.1 := by
  induction h with
  | done => rfl
  | step first _ ih => rw [rest_of_step first, ih, List.append_assoc]

/-- **What every step keeps** holds where the steps lead, and wherever a result of theirs comes from. -/
theorem Scans.invariant {P : Scanner → Prop}
    (step : ∀ {s t : Scanner} {r : Option Scanned}, P s → s.step? = some (r, t) → P t)
    (h : Scans s results t) (start : P s) :
    P t ∧ ∀ result ∈ results, ∃ s t, P s ∧ s.step? = some (some result, t) := by
  induction h with
  | done => exact ⟨start, fun _ mem => by cases mem⟩
  | @step s t u r results first _ ih =>
    obtain ⟨final, others⟩ := ih (step start first)
    refine ⟨final, fun result mem => ?_⟩
    rcases List.mem_append.mp mem with mem | mem
    · rw [Option.mem_toList.mp mem] at first
      exact ⟨s, t, start, first⟩
    · exact others result mem

/-! ## The invariant of scanning a source -/

/-- **A scanner tracks a source** if the characters passed and those ahead make it up, and line and column
are where the characters passed lead to. -/
structure Tracks (source : String) (file : Option String) (s : Scanner) : Prop where
  lines_eq : s.lines = Lines.ofSource source
  file_eq : s.file = file
  text_eq : s.cursor.text = source.toList
  place_eq : (s.line, s.column) = advance (1, 0) s.cursor.passed.reverse

section Tracks

variable {source : String} {file : Option String}

/-- A scanner at the start tracks its source. -/
theorem tracks_ofSource (source : String) (file : Option String) :
    Tracks source file (ofSource source file) := ⟨rfl, rfl, rfl, rfl⟩

/-- Line and column move through one text and then through the other. -/
theorem advance_append (place : Nat × Nat) (text text' : List Char) :
    advance place (text ++ text') = advance (advance place text) text' :=
  List.foldl_append

/-- **A step keeps track of the source.** -/
theorem Tracks.step (h : Tracks source file s) (step : s.step? = some (r, t)) : Tracks source file t := by
  obtain ⟨first, more, left, ahead, split, rfl, -⟩ := step?_cases step
  refine ⟨h.lines_eq, h.file_eq, ?_, ?_⟩
  · exact (Cursor.text_skip s.cursor _).trans h.text_eq
  · rw [passed_consume (ahead.trans split), List.reverse_append, List.reverse_reverse, advance_append,
      ← h.place_eq]
    rfl

/-- Every result of a source comes from a step that keeps track of it. -/
theorem step_of_mem_scan {result : Scanned} (mem : result ∈ scan source file) :
    ∃ s t, Tracks source file s ∧ s.step? = some (some result, t) := by
  obtain ⟨u, steps, -⟩ := scans_rest (ofSource source file)
  exact (steps.invariant Tracks.step (tracks_ofSource source file)).2 result mem

/-- A step that keeps track passes what the source has between its two ends. -/
theorem Tracks.slice (h : Tracks source file s) (step : s.step? = some (r, t)) :
    ∃ first more, s.cursor.ahead = first :: more ∧ r = yield? s t (Lexeme.cut first more) ∧
      (Cursor.atStart source.toList).slice s.nextPosition.offset (t.lastPosition.offset + 1) =
        some (Lexeme.cut first more).chars := by
  obtain ⟨first, more, left, ahead, split, rfl, yields⟩ := step?_cases step
  refine ⟨first, more, ahead, yields, ?_⟩
  have text : source.toList = s.cursor.passed.reverse ++ ((Lexeme.cut first more).chars ++ left) := by
    rw [← h.text_eq, Cursor.text, ahead, split]
  have positive := List.length_pos_iff.mpr (Lexeme.cut_ne_nil first more)
  have start : s.cursor.position = s.cursor.passed.reverse.length := by
    rw [s.cursor.position_eq, List.length_reverse]
  have stop : (s.consume (Lexeme.cut first more).chars).cursor.position =
      s.cursor.position + (Lexeme.cut first more).chars.length := by
    rw [Cursor.position_eq, passed_consume (ahead.trans split), List.length_append, List.length_reverse,
      s.cursor.position_eq, Nat.add_comm]
  have size : (Cursor.atStart source.toList).size =
      s.cursor.position + (Lexeme.cut first more).chars.length + left.length := by
    rw [Cursor.size, Cursor.atStart, text, start]
    simp only [List.length_append, List.length_nil]
    omega
  -- In integers, the slice begins at the position of `s` and is as long as the lexeme.
  have first_offset : s.nextPosition.offset = (s.cursor.position : Int) := rfl
  have past_offset : (s.consume (Lexeme.cut first more).chars).lastPosition.offset + 1 =
      ((s.cursor.position + (Lexeme.cut first more).chars.length : Nat) : Int) := by
    show (((s.consume (Lexeme.cut first more).chars).cursor.position - 1 : Nat) : Int) + 1 = _
    rw [stop]
    omega
  rw [first_offset, past_offset, Cursor.slice, if_neg (by rw [size]; omega)]
  have long : (((s.cursor.position + (Lexeme.cut first more).chars.length : Nat) : Int)
      - (s.cursor.position : Int)).toNat = (Lexeme.cut first more).chars.length := by omega
  show some ((source.toList.drop (s.cursor.position : Int).toNat).take _) = _
  rw [long, Int.toNat_natCast, text, start, List.drop_left, List.take_left]

end Tracks

end Scanner

/-- A token stands in a source if its characters are those between its two ends. -/
def Token.Stands (source : String) (t : Token) : Prop :=
  (Cursor.atStart source.toList).slice t.span.start.offset (t.span.stop.offset + 1) =
    some t.lexeme.toList

/-- **Every token of a source stands in it.** -/
theorem stands_of_mem_scan {source : String} {file : Option String} {t : Token}
    (mem : .ok t ∈ scan source file) : t.Stands source := by
  obtain ⟨s, after, tracks, step⟩ := Scanner.step_of_mem_scan mem
  obtain ⟨first, more, -, yields, slice⟩ := tracks.slice step
  rcases Scanner.yield?_cases yields.symm with ⟨kind, datum, -, token⟩ | ⟨cause, -, fault⟩
  · cases token
    rw [Token.Stands, String.toList_ofList]
    exact slice
  · cases fault

/-! ## Results without a fault -/

/-- If no result is a fault, the tokens among the results are the tokens of the source. -/
theorem tokensOf_untilFault {s : Scanner} {tokens : List Token} :
    tokensOf s.untilFault.1 = .ok tokens ↔ s.rest.1 = tokens.map .ok := by
  -- Every step leaves fewer characters ahead.
  induction hn : s.cursor.ahead.length using Nat.strongRecOn generalizing s tokens with
  | ind n ih =>
    cases h : s.step? with
    | none =>
      rw [Scanner.untilFault_of_end (Scanner.step?_eq_none.mp h), Scanner.rest_of_none h, tokensOf,
        Except.ok.injEq]
      exact ⟨fun e => by rw [← e, List.map_nil], fun e => (List.map_eq_nil_iff.mp e.symm).symm⟩
    | some next =>
      obtain ⟨r, t⟩ := next
      have shorter := hn ▸ Scanner.step?_shorter h
      cases r with
      | none =>
        rw [Scanner.untilFault_of_none h, Scanner.rest_of_step h]
        exact ih _ shorter rfl
      | some result =>
        cases result with
        | error fault =>
          rw [Scanner.untilFault_of_fault h, Scanner.rest_of_step h, tokensOf]
          cases tokens <;> simp
        | ok token =>
          rw [Scanner.untilFault_of_token h, Scanner.rest_of_step h, tokensOf]
          cases tokens with
          | nil =>
            cases tokensOf t.untilFault.1 <;> simp [Except.map]
          | cons first others =>
            have later : tokensOf t.untilFault.1 = .ok others ↔ t.rest.1 = others.map .ok :=
            ih _ shorter rfl
            simp only [List.map_cons, Option.toList_some, List.cons_append, List.nil_append,
              List.cons.injEq, Except.ok.injEq, ← later]
            cases tokensOf t.untilFault.1 <;> simp [Except.map]

/-- **A source has these tokens iff scanning it yields these and no fault.** -/
theorem tokenize_eq_ok_iff {source : String} {file : Option String} {tokens : List Token} :
    tokenize source file = .ok tokens ↔ scan source file = tokens.map .ok :=
  tokensOf_untilFault

end LoxScript
