import LoxScript.Proofs.Whereabouts

/-! # Quoted lines

Every reported fault quotes the line of the source that it begins in, and begins within that line or just
behind it.

* **`Lines.exists_piece`** — the line of a character, with the character at its column.
* **`Lines.getElem?_trimReturns`** — leaving out the carriage returns at the end of a line leaves out no other
  character.
* **`Cause.About.near`** — a fault begins at a character within a line, or just behind one.
* **`runSource_quotes`** — the result. -/

namespace LoxScript

/-! ## Lines of characters -/

namespace Lines

/-- Where one text goes on with another, the last line of the first goes on with the first
line of the second. -/
theorem split_continued {before text tail line : List Char} {heads lines : List (List Char)}
    (front : split before = heads ++ [tail]) (back : split text = line :: lines) :
    split (before ++ text) = heads ++ (tail ++ line) :: lines := by
  -- By induction on the first text: a newline ends its first line, and any other character goes in front of it,
  -- which may be the line that goes on.
  induction before generalizing heads tail with
  | nil =>
    have both : heads ++ [tail] = [] ++ [[]] := front.symm
    obtain ⟨rfl, last⟩ := List.append_inj' both rfl
    obtain rfl := List.singleton_inj.mp last
    exact back
  | cons d before ih =>
    by_cases newline : d = '\n'
    · subst newline
      rw [split_newline] at front
      cases heads with
      | nil => exact absurd (List.cons.inj front).2 (split_ne_nil before)
      | cons head heads =>
        obtain ⟨rfl, rest⟩ := List.cons.inj front
        rw [List.cons_append, split_newline, ih rest]
        rfl
    · obtain ⟨first, others, split_eq⟩ := List.exists_cons_of_ne_nil (split_ne_nil before)
      rw [split_cons newline split_eq] at front
      cases heads with
      | nil =>
        obtain ⟨rfl, rfl⟩ := List.cons.inj front
        have others : split (before ++ text) = [] ++ (first ++ line) :: lines := ih split_eq
        rw [List.cons_append]
        exact split_cons newline others
      | cons head heads =>
        obtain ⟨rfl, rfl⟩ := List.cons.inj front
        have others : split (before ++ text) = (first :: heads) ++ (tail ++ line) :: lines := ih split_eq
        rw [List.cons_append]
        exact split_cons newline others

/-- **The last line of a text** is what stands behind its last newline, and there is one
line more than newlines. -/
theorem split_eq (text : List Char) :
    ∃ heads, heads.length = text.count '\n' ∧
      split text = heads ++ [(text.reverse.takeWhile (· != '\n')).reverse] := by
  -- By induction from the end: a newline opens an empty last line, any other character extends the last one.
  induction text using List.reverseRecOn with
  | nil => exact ⟨[], rfl, rfl⟩
  | append_singleton text c ih =>
    obtain ⟨heads, count, front⟩ := ih
    rw [List.count_append, List.reverse_append, List.reverse_singleton, List.singleton_append,
      List.takeWhile_cons]
    by_cases newline : c = '\n'
    · subst newline
      refine ⟨heads ++ [(text.reverse.takeWhile (· != '\n')).reverse], ?_, ?_⟩
      · rw [List.length_append, count]
        rfl
      · rw [split_continued front (split_newline []), List.append_nil, List.append_assoc]
        rfl
    · have other : (c != '\n') = true := bne_iff_ne.mpr newline
      refine ⟨heads, ?_, ?_⟩
      · rw [count, List.count_singleton, beq_eq_false_iff_ne.mpr newline]
        rfl
      · rw [split_continued front (split_cons newline (show split [] = [[]] from rfl)), other, if_pos rfl,
          List.reverse_cons]

/-- **The line of a character** is as many lines down as there are newlines before it, and the character is
as far right in it as there are characters behind the last of these. -/
theorem exists_piece (before after : List Char) {c : Char} (other : c ≠ '\n') :
    ∃ piece, (split (before ++ c :: after))[before.count '\n']? = some piece ∧
      piece[(before.reverse.takeWhile (· != '\n')).length]? = some c := by
  obtain ⟨heads, count, front⟩ := split_eq before
  obtain ⟨line, lines, back⟩ := List.exists_cons_of_ne_nil (split_ne_nil after)
  rw [split_continued front (split_cons other back), ← count, List.getElem?_append_right (Nat.le_refl _),
    Nat.sub_self]
  refine ⟨_, rfl, ?_⟩
  rw [← List.length_reverse, List.getElem?_append_right (Nat.le_refl _), Nat.sub_self]
  rfl

/-- Leaving out the carriage returns at the end of a line leaves out no other character. -/
theorem getElem?_trimReturns {piece : List Char} {k : Nat} {c : Char} (at_k : piece[k]? = some c)
    (other : c ≠ '\r') : (trimReturns piece)[k]? = some c := by
  -- The line is what is kept, and carriage returns behind it.
  have parts : piece = trimReturns piece ++ (piece.reverse.takeWhile (· == '\r')).reverse := by
    rw [trimReturns, ← List.reverse_append, List.takeWhile_append_dropWhile, List.reverse_reverse]
  by_cases kept : k < (trimReturns piece).length
  · rwa [parts, List.getElem?_append_left kept] at at_k
  · rw [parts, List.getElem?_append_right (Nat.le_of_not_lt kept)] at at_k
    have mem := List.mem_reverse.mp (List.mem_of_getElem? at_k)
    have return_ : (c == '\r') = true := List.mem_takeWhile_imp (p := (· == '\r')) mem
    exact absurd (beq_iff_eq.mp return_) other

end Lines

/-! ## Places near a character -/

/-- A place is near a character if it is that of the character or the one behind it, as far as
line and column tell. -/
structure Position.Near (source : String) (p : Position) (offset : Nat) : Prop where
  line_eq : p.line = (ofOffset source none offset).line
  column_le : (ofOffset source none offset).column ≤ p.column ∧
    p.column ≤ (ofOffset source none offset).column + 1

/-- **The line of a place** that is near a character within a line: the place is in this line or just behind
it, with or without the carriage returns at its end. -/
theorem Position.Near.exists_piece {source : String} {p : Position} {offset : Nat} {c : Char}
    (near : p.Near source offset) (at_offset : source.toList[offset]? = some c) (inner : Inner c) :
    ∃ piece, (1 ≤ p.line ∧ p.line ≤ (Lines.split source.toList).length) ∧
      (Lines.split source.toList)[(p.line - 1).toNat]? = some piece ∧
      1 ≤ p.column ∧ p.column ≤ (Lines.trimReturns piece).length + 1 := by
  obtain ⟨inside, rfl⟩ := List.getElem?_eq_some_iff.mp at_offset
  have text : source.toList =
      source.toList.take offset ++ source.toList[offset] :: source.toList.drop (offset + 1) := by
    rw [List.getElem_cons_drop, List.take_append_drop]
  obtain ⟨piece, at_line, at_column⟩ :=
    Lines.exists_piece (source.toList.take offset) (source.toList.drop (offset + 1)) inner.1
  rw [← text] at at_line
  obtain ⟨kept, -⟩ := List.getElem?_eq_some_iff.mp (Lines.getElem?_trimReturns at_column inner.2)
  obtain ⟨line_lt, -⟩ := List.getElem?_eq_some_iff.mp at_line
  obtain ⟨line, column⟩ := near
  simp only [ofOffset] at line column
  have index : (p.line - 1).toNat = (source.toList.take offset).count '\n' := by omega
  exact ⟨piece, by omega, by rw [index, at_line], by omega, by omega⟩

section

variable {source : String} {file : Option String} {offset : Nat} {cause : Cause}

/-- The position at an offset is near this offset. -/
theorem Position.near_ofOffset (source : String) (file : Option String) (offset : Nat) :
    (ofOffset source file offset).Near source offset where
  line_eq := rfl
  column_le := ⟨Int.le_refl _, Int.le_of_lt (Int.lt_add_one_of_le (Int.le_refl _))⟩

/-- The end of the input is near the last character of the last token. -/
theorem IsEnd.near (h : IsEnd source file offset) :
    ∃ k c, source.toList[k]? = some c ∧ Inner c ∧ (Position.ofOffset source file offset).Near source k := by
  obtain ⟨tokens, t, first, -, begins, rfl⟩ := h
  obtain ⟨last, length, -, c, at_last, inner⟩ := begins.span
  refine ⟨last, c, at_last, inner, ?_⟩
  rw [length, ← Position.next_ofOffset at_last inner.1]
  exact ⟨rfl, Int.le_of_lt (Int.lt_add_one_of_le (Int.le_refl _)), Int.le_refl _⟩

/-- A token begins at a character within a line. -/
theorem Token.BeginsAt.near {t : Token} (h : t.BeginsAt source file offset) :
    ∃ k c, source.toList[k]? = some c ∧ Inner c ∧ (Position.ofOffset source file offset).Near source k := by
  obtain ⟨c, at_offset, inner⟩ := h.met.first nofun
  exact ⟨offset, c, at_offset, inner, Position.near_ofOffset source file offset⟩

/-- The place of a cause that carries a token is the place of this token. -/
theorem Cause.place_of_token? {t : Token} (carries : cause.token? = some t) :
    cause.place source file offset = .ofOffset source file offset := by
  cases cause with
  | lexical c | grammatical c => rfl
  | runtime c => cases c <;> first | rfl | cases carries

/-- **A fault begins at a character within a line, or just behind one.** -/
theorem Cause.About.near (h : cause.About source file offset) :
    ∃ k c, source.toList[k]? = some c ∧ Inner c ∧ (cause.place source file offset).Near source k := by
  cases h with
  | lexeme met =>
    obtain ⟨c, at_offset, inner⟩ := met.first nofun
    exact ⟨offset, c, at_offset, inner, Position.near_ofOffset source file offset⟩
  | token carries begins =>
    rw [place_of_token? carries]
    exact begins.near
  | @operator _ o t _ carries writes begins =>
    -- The last character of the operator stands for it.
    obtain ⟨symbol, kind, rfl⟩ := Option.map_eq_some_iff.mp writes
    obtain ⟨last, length, -, c, at_last, inner⟩ := begins.span
    rw [begins.met.reads.eq_spelling kind, String.length_toList] at length
    refine ⟨last, c, at_last, inner, ?_⟩
    rw [place, carries]
    dsimp only
    rw [length, Nat.add_sub_cancel]
    obtain ⟨line, column⟩ := Position.near_ofOffset source file last
    exact ⟨line, column⟩
  | loop _ _ begins => exact begins.near
  | ended isEnd | cut isEnd => exact isEnd.near

end

/-! ## Quoted lines of reported faults -/

namespace Session.Reported

variable {passes : Nat} {source : String} {file : Option String} {w : World} {fault : Fault Cause}

/-- A reported fault quotes the line that it begins in, if there is one. -/
theorem sourceLine_eq (h : Reported passes source file w fault) :
    fault.sourceLine = Lines.get? (Lines.ofSource source) fault.span.start.line := by
  have quoted {bare : Fault Cause} (none : bare.sourceLine = none) :
      (bare.quote (Lines.ofSource source)).sourceLine =
        Lines.get? (Lines.ofSource source) (bare.quote (Lines.ofSource source)).span.start.line := by
    rw [Fault.span_quote, Fault.quote, none]
  cases h with
  | scanning none _ => exact quoted none
  | reading _ _ refused => exact quoted (by cases refused <;> rfl)
  | running _ derives mem =>
    obtain ⟨-, same⟩ := writtenIn_of_runAll derives passes w _ mem
    rw [same]
    exact quoted rfl

end Session.Reported

/-- **Every fault that is reported of a source quotes the line that it begins in**: the piece of the source
between newlines that has the number of its line, without the carriage returns at the end. There is such a
piece, and the column is that of a character of the quoted line or of the place just behind it. -/
theorem runSource_quotes (passes : Nat) (source : String) (file : Option String) (limit : Nat) (s : Session) :
    ∃ w new, s.Went w new (Outcome.state (Session.runSource passes source file limit s)) ∧
      ∀ fault ∈ new, ∃ piece,
        (1 ≤ fault.span.start.line ∧ fault.span.start.line ≤ (Lines.split source.toList).length) ∧
        (Lines.split source.toList)[(fault.span.start.line - 1).toNat]? = some piece ∧
        fault.sourceLine = some (String.ofList (Lines.trimReturns piece)) ∧
        1 ≤ fault.span.start.column ∧
        fault.span.start.column ≤ (String.ofList (Lines.trimReturns piece)).length + 1 := by
  obtain ⟨w, went⟩ := Session.went_runSource passes limit s source file
  refine ⟨w, _, went, fun fault mem => ?_⟩
  -- Where a fault begins is told by the stage that reports it; the piece with that line is the one quoted.
  have reported := Session.reported_of_mem passes limit mem
  obtain ⟨offset, about, start⟩ := reported.place
  obtain ⟨k, c, at_k, inner, near⟩ := about.near
  rw [← start] at near
  obtain ⟨piece, line, at_line, column⟩ := near.exists_piece at_k inner
  refine ⟨piece, line, at_line, ?_, ?_⟩
  · rw [reported.sourceLine_eq, Lines.get?, if_pos line.1, Lines.ofSource, List.getElem?_map, at_line]
    rfl
  · rw [String.length_ofList]
    exact column

end LoxScript
