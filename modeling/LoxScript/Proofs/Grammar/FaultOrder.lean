import LoxScript.Proofs.Grammar.Origin
import LoxScript.Proofs.Scanning.Places

/-! # Faults in the order of the source

Reading never goes back, so the faults recorded over a program come in the order of their places; and it
ends when there are enough of them.

* **`InOrder`** — tokens in the order of a source, in front of its end, as those of a source are
  (`inOrder_of_scan`).
* **`Refused.place`** — a fault is about a token from which everything that is left is an end, or about the
  end itself, where nothing is left.
* **`pairwise_faults`** — the faults over a program are in order.
* **`length_faults_le`** — there are at most as many as are enough. -/

namespace LoxScript.Grammar

/-- **Tokens in the order of a source**: each begins in front of the next one, and all begin in front of the
place `fin` of faults at the end. -/
structure InOrder (fin : Span) (tokens : List Token) : Prop where
  pairwise : tokens.Pairwise fun t u => t.span.start.offset < u.span.start.offset
  inFront : ∀ t ∈ tokens, t.span.start.offset < fin.start.offset

section

variable {fin : Span} {tokens later left left' : List Token} {fault fault' : Fault SyntaxCause}

/-- An end of tokens in order is in order. -/
theorem InOrder.suffix (h : InOrder fin tokens) (suffix : later <:+ tokens) : InOrder fin later where
  pairwise := h.pairwise.sublist suffix.sublist
  inFront := fun t mem => h.inFront t (suffix.subset mem)

/-- **The tokens of a source are in order.** -/
theorem inOrder_of_scan {source : String} {file : Option String} (scanned : scan source file = tokens.map .ok) :
    InOrder (endSpan tokens) tokens := by
  have extent : ∀ t ∈ tokens, t.span.start.offset ≤ t.span.stop.offset := by
    intro t mem
    have among : .ok t ∈ scan source file := scanned ▸ List.mem_map_of_mem mem
    obtain ⟨first, last, order, -, start, stop, -⟩ := Scanner.span_of_mem_scan among
    rw [show t.span.start = _ from start, show t.span.stop = _ from stop]
    split <;> exact Int.ofNat_le.mpr order
  have disjoint : tokens.Pairwise fun t u => t.span.stop.offset < u.span.start.offset := by
    have laid := (Scanner.laid_scan source file).pairwise
    rw [scanned, List.map_map] at laid
    exact List.pairwise_map.mp laid
  refine ⟨disjoint.imp_of_mem fun mem _ lt => Int.lt_of_le_of_lt (extent _ mem) lt, fun t mem => ?_⟩
  -- The end is behind the last token, which is the token itself or behind it.
  obtain rfl | ⟨init, last, rfl⟩ := List.eq_nil_or_concat' tokens
  · cases mem
  · have fin : (endSpan (init ++ [last])).start.offset = last.span.stop.offset + 1 := by
      rw [endSpan, List.getLast?_concat]
      rfl
    have ends := extent last (List.mem_append_right _ (List.mem_singleton_self last))
    rw [fin]
    rcases List.mem_append.mp mem with before | same
    · have behind := (List.pairwise_append.mp disjoint).2.2 t before last (List.mem_singleton_self last)
      have begins := extent t mem
      omega
    · rw [List.mem_singleton.mp same]
      omega

/-- **Where a fault is.** What is left at a fault has no token in front of the one that the fault is about. -/
theorem Refused.place (h : Refused fin tokens fault left) :
    (fault.span = fin ∧ left = []) ∨
      ∃ t rest, t :: rest <:+ tokens ∧ left <:+ t :: rest ∧ fault.span = t.span := by
  cases h with
  | ended expected => exact .inl ⟨rfl, rfl⟩
  | cut required => exact .inl ⟨rfl, rfl⟩
  | other at_ kind => exact .inr ⟨_, _, at_, List.suffix_refl _, rfl⟩
  | noExpression at_ => exact .inr ⟨_, _, at_, List.suffix_cons _ _, rfl⟩
  | target at_ kind behind => exact .inr ⟨_, _, at_, behind.trans (List.suffix_cons _ _), rfl⟩
  | body at_ _ =>
    exact .inr ⟨_, _, at_, (List.suffix_append _ _).trans (List.suffix_cons _ _), rfl⟩

/-- **A fault met in what another one has left** is not in front of that one. -/
theorem Refused.start_le (order : InOrder fin tokens) (first : Refused fin tokens fault left)
    (second : Refused fin later fault' left') (suffix : later <:+ left) :
    fault.span.start.offset ≤ fault'.span.start.offset := by
  rcases first.place with ⟨span, rfl⟩ | ⟨t, rest, at_, behind, span⟩
  · -- Nothing is left at the end, so the second fault is about the end as well.
    rcases second.place with ⟨span', -⟩ | ⟨u, others, among, -, -⟩
    · exact Int.le_of_eq (by rw [span, span'])
    · cases List.suffix_nil.mp (among.trans suffix)
  · have ordered := order.suffix at_
    rcases second.place with ⟨span', -⟩ | ⟨u, others, among, -, span'⟩
    · rw [span, span']
      exact Int.le_of_lt (ordered.inFront t (List.mem_cons_self ..))
    · have mem : u ∈ t :: rest := ((among.trans suffix).trans behind).subset (List.mem_cons_self ..)
      rcases List.mem_cons.mp mem with rfl | mem
      · exact Int.le_of_eq (by rw [span, span'])
      · rw [span, span']
        exact Int.le_of_lt ((List.pairwise_cons.mp ordered.pairwise).1 u mem)

end

/-- Reading goes on at an end of what was left at the fault. -/
theorem recoverFrom_suffix_left {first : Token} {more left : List Token} (suffix : left <:+ first :: more) :
    recoverFrom first more left <:+ left := by
  simp only [recoverFrom]
  split
  · next none =>
    -- Nothing was taken, so everything is left.
    have taken := List.getLast?_eq_none_iff.mp none
    have all : left = first :: more := by
      refine suffix.eq_of_length_le ?_
      have length := congrArg List.length taken
      simp only [List.length_take, List.length_nil] at length
      omega
    rw [all]
    exact (resume_suffix _ _).trans (List.suffix_cons _ _)
  · exact resume_suffix _ _

section

variable {fin : Span} {lines : Option (List String)} {limit found : Nat} {tokens : List Token}

/-- **The faults over a program are in the order of the source.** -/
theorem pairwise_faults (order : InOrder fin tokens) :
    (readProgram fin lines limit found tokens).faults.Pairwise fun f g =>
      f.span.start.offset ≤ g.span.start.offset := by
  -- Each declaration takes a token, read or not, so the tokens left get fewer.
  induction hn : tokens.length using Nat.strongRecOn generalizing tokens found with
  | ind n ih =>
    subst hn
    cases tokens with
    | nil =>
      rw [readProgram]
      exact .nil
    | cons t more =>
      cases read : (declaration fin (t :: more)).outcome with
      | ok s rest =>
        have behind := Reading.behind_of_ok read
        rw [readProgram_of_declaration fin lines limit found read]
        exact ih _ behind.length_lt (order.suffix behind.suffix) rfl
      | error bare left =>
        have suffix := Reading.suffix_of_error read
        have suffix' := recoverFrom_suffix_left suffix
        rw [readProgram_of_fault fin lines limit found read]
        split
        · exact List.pairwise_singleton _ _
        · refine .cons (fun fault' mem => ?_)
            (ih _ (recoverFrom_length_lt t more left) (order.suffix (suffix'.trans suffix)) rfl)
          obtain ⟨bare', left', refused', rfl⟩ := exists_refused_of_mem_faults mem
          rw [Fault.span_quote, Fault.span_quote]
          exact (declaration_refused read).start_le order refused' suffix'

/-- **Reading ends when there are enough faults.** -/
theorem length_faults_le (room : found < limit) :
    found + (readProgram fin lines limit found tokens).faults.length ≤ limit := by
  induction hn : tokens.length using Nat.strongRecOn generalizing tokens found with
  | ind n ih =>
    subst hn
    cases tokens with
    | nil =>
      rw [readProgram]
      exact Nat.le_of_lt room
    | cons t more =>
      cases read : (declaration fin (t :: more)).outcome with
      | ok s rest =>
        rw [readProgram_of_declaration fin lines limit found read]
        exact ih _ (Reading.behind_of_ok read).length_lt room rfl
      | error bare left =>
        rw [readProgram_of_fault fin lines limit found read]
        split
        · exact room
        · next more_room =>
          -- The fault found here counts for the rest.
          have others := ih _ (recoverFrom_length_lt t more left) (Nat.lt_of_not_le more_room) rfl
          rw [List.length_cons]
          omega

end

end LoxScript.Grammar
