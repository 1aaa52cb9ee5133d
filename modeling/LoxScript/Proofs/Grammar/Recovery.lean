import LoxScript.Proofs.Grammar.FaultOrder
import Mathlib.Order.Bounds.Defs

/-! # Recovery

Behind a declaration that cannot be read, reading goes on at the next place where a statement may begin. It
gets there without going back and without skipping such a place, and since every declaration takes a token
of its own, it comes to an end.

* **`declaration_takes`** — a declaration takes a token, whether it can be read or not.
* **`Boundary`** — the positions at which reading may go on; `resume` finds the first one (`resume_least`).
* **`Attempts`** — the declarations that are attempted, one after another, with the positions between them;
  recovering from faults is going through all of them (`attempts_recover`).
* **`recover_progresses`** — the result. -/

namespace LoxScript.Grammar

/-! ## Every declaration takes a token -/

/-- An end of what is behind is behind. -/
theorem Behind.of_suffix {tokens left later : List Token} (h : Behind left tokens) (suffix : later <:+ left) :
    Behind later tokens := by
  obtain ⟨front, rfl⟩ := suffix
  rcases List.eq_nil_or_concat' front with rfl | ⟨init, u, rfl⟩
  · exact h
  · refine ⟨u, List.IsSuffix.trans ⟨init, ?_⟩ h.suffix⟩
    simp

section Takes

variable {fin : Span} {α β : Type} {tokens rest : List Token} {t : Token}

/-- **A reading takes a token**, whether it comes to a phrase or to a fault. -/
def Takes (tokens : List Token) (o : Outcome α) : Prop := Behind o.state tokens

/-- What a reading leaves is an end of its tokens. -/
theorem Reading.state_suffix (r : Reading α tokens) : r.outcome.state <:+ tokens := by
  cases r with
  | done _ _ behind => exact behind.suffix
  | failed _ _ suffix => exact suffix

/-- What is left by one reading after another is an end of the tokens. -/
theorem state_bind_suffix {o : Outcome α} {next : α → List Token → Outcome β} (first : o.state <:+ tokens)
    (second : ∀ a left, o = .ok a left → (next a left).state <:+ left) : (o.bind next).state <:+ tokens := by
  cases o with
  | ok a left => exact (second a left rfl).trans first
  | error fault left => exact first

/-- A reading goes on to take a token if it begins by taking one. -/
theorem Takes.bind {o : Outcome α} {next : α → List Token → Outcome β} (first : Takes tokens o)
    (second : ∀ a left, o = .ok a left → (next a left).state <:+ left) : Takes tokens (o.bind next) := by
  cases o with
  | ok a left => exact Behind.of_suffix first (second a left rfl)
  | error fault left => exact first

/-- Wrapping a phrase changes nothing about the tokens taken. -/
theorem Takes.map {o : Outcome α} (h : Takes tokens o) (f : α → β) :
    Takes tokens (o.bind fun a left => .ok (f a) left) :=
  h.bind fun _ left _ => List.suffix_refl left

/-- Whatever is read behind a first token, that token has been taken. -/
theorem takes_of_suffix {o : Outcome α} (h : o.state <:+ rest) : Takes (t :: rest) o := Behind.tail.of_suffix h

/-- A required token is taken or left. -/
theorem requiring_suffix (required : Requirement) (tokens : List Token) :
    (requiring fin required tokens).state <:+ tokens := by
  rw [← outcome_require]
  exact Reading.state_suffix _

variable (fin)

/-- What is left of an expression is an end of its tokens. -/
theorem suffix_compositional : Compositional fin fin [] (fun tokens o _ => o.state <:+ tokens) where
  done _ tokens := List.suffix_refl tokens
  idle _ _ := List.suffix_refl []
  take _ h := h.trans (List.suffix_cons _ _)
  bind _ first second := state_bind_suffix first second
  closing tokens := requiring_suffix _ tokens
  ended _ := List.suffix_refl []
  noExpression t rest := List.suffix_cons t rest
  target _ _ h := state_bind_suffix (h.trans (List.suffix_cons _ _)) fun _ left _ => List.suffix_refl left

/-- Joining more operands leaves an end of the tokens. -/
theorem climbing_suffix (lowest : Nat) (left : Expr) (rest : List Token) :
    (climbing fin lowest left rest).state <:+ rest :=
  (suffix_compositional fin).climbing (fun us _ => (suffix_compositional fin).throughout us) lowest left

/-- A primary takes its first token even if it is refused. -/
theorem primary_takes (t : Token) (rest : List Token) :
    Takes (t :: rest) (primary fin (t :: rest)).outcome := by
  rw [outcome_primary_cons]
  cases atom? t with
  | some e => exact Behind.tail
  | none =>
    dsimp only
    split
    · refine takes_of_suffix (state_bind_suffix (Reading.state_suffix _) fun e left _ => ?_)
      exact state_bind_suffix (requiring_suffix _ left) fun _ after _ => List.suffix_refl after
    · -- The token that begins no expression is passed over.
      exact Behind.tail

/-- So does an operand with its prefixes. -/
theorem unary_takes (t : Token) (rest : List Token) : Takes (t :: rest) (unary fin (t :: rest)).outcome := by
  rw [outcome_unary_cons]
  cases unaryOperator? t with
  | some operator =>
    exact takes_of_suffix (state_bind_suffix (Reading.state_suffix _) fun _ left _ => List.suffix_refl left)
  | none => exact primary_takes fin t rest

/-- So does an expression. -/
theorem expression_takes (t : Token) (rest : List Token) :
    Takes (t :: rest) (expression fin (t :: rest)).outcome := by
  have operand : Takes (t :: rest) (binary fin 1 (t :: rest)).outcome := by
    rw [outcome_binary]
    exact (unary_takes fin t rest).bind fun left rest _ => climbing_suffix fin 1 left rest
  rw [outcome_expression]
  refine operand.bind fun target left _ => ?_
  cases left with
  | nil => exact List.suffix_refl []
  | cons u more =>
    dsimp only
    split
    · refine .trans (state_bind_suffix (Reading.state_suffix _) fun value after _ => ?_)
        (List.suffix_cons u more)
      cases assignTo u target value <;> exact List.suffix_refl after
    · exact List.suffix_refl _

/-- So does an expression with the token behind it. -/
theorem expressionThen_takes (required : Requirement) (t : Token) (rest : List Token) :
    Takes (t :: rest) (expressionThen fin required (t :: rest)).outcome := by
  rw [outcome_expressionThen]
  refine (expression_takes fin t rest).bind fun e left _ => ?_
  exact state_bind_suffix (requiring_suffix required left) fun _ after _ => List.suffix_refl after

/-- So does a statement. -/
theorem statement_takes (t : Token) (rest : List Token) :
    Takes (t :: rest) (statement fin (t :: rest)).outcome := by
  -- A word that begins a statement is taken before anything can fail.
  rw [outcome_statement_cons]
  split
  · exact takes_of_suffix (state_bind_suffix (Reading.state_suffix _) fun _ left _ => List.suffix_refl left)
  · exact takes_of_suffix (state_bind_suffix (Reading.state_suffix _) fun _ left _ => List.suffix_refl left)
  · exact takes_of_suffix (Reading.state_suffix _)
  · refine takes_of_suffix (state_bind_suffix (Reading.state_suffix _) fun test left _ => ?_)
    exact state_bind_suffix (Reading.state_suffix _) fun _ after _ => List.suffix_refl after
  · refine takes_of_suffix (state_bind_suffix (Reading.state_suffix _) fun parts left _ => ?_)
    refine state_bind_suffix (Reading.state_suffix _) fun body after _ => ?_
    cases CountingLoop.expand parts.initial parts.condition parts.increment body <;>
      exact List.suffix_refl after
  · exact (expressionThen_takes fin _ t rest).map _

/-- **A declaration takes a token**, whether it can be read or not. -/
theorem declaration_takes (t : Token) (rest : List Token) :
    Takes (t :: rest) (declaration fin (t :: rest)).outcome := by
  rw [outcome_declaration_cons]
  split
  · exact takes_of_suffix (Reading.state_suffix _)
  · exact statement_takes fin t rest

end Takes

/-! ## Where reading goes on -/

/-- The words that begin a statement. -/
def statementWords : List Kind :=
  [.classWord, .funWord, .varWord, .forWord, .ifWord, .whileWord, .printWord, .returnWord]

/-- The words that begin statements. -/
@[simp] theorem startsStatement_iff {k : Kind} : k.startsStatement = true ↔ k ∈ statementWords := by
  cases k <;> decide

/-- **The positions at which reading may go on**: the end, that behind a semicolon, and that of a word which
begins a statement. -/
def Boundary (tokens : List Token) (r : Nat) : Prop :=
  r = tokens.length ∨
    (∃ i t, r = i + 1 ∧ tokens[i]? = some t ∧ t.kind = .semicolon) ∨
    ∃ t, tokens[r]? = some t ∧ t.kind ∈ statementWords

/-- Whether reading may go on between two parts of the tokens. -/
theorem boundary_append {front rest : List Token} {t : Token} :
    Boundary (front ++ t :: rest) front.length ↔
      front.getLast?.any (·.kind == .semicolon) = true ∨ t.kind.startsStatement = true := by
  have here : (front ++ t :: rest)[front.length]? = some t := by simp
  have not_end : front.length ≠ (front ++ t :: rest).length := by simp
  unfold Boundary
  rw [startsStatement_iff]
  constructor
  -- A boundary is the end, a place behind a semicolon or one in front of a word that starts a statement.
  · rintro (h | ⟨i, u, before, at_, semicolon⟩ | ⟨u, at_, word⟩)
    · exact absurd h not_end
    · left
      rw [List.getElem?_append_left (by omega)] at at_
      have last : front.getLast? = some u := by
        rw [List.getLast?_eq_getElem?, show front.length - 1 = i by omega, at_]
      simp [last, semicolon]
    · right
      rw [here] at at_
      cases at_
      exact word
  · rintro (previous | word)
    · obtain ⟨u, last, semicolon⟩ := (Option.any_eq_true _ _).mp previous
      have nonempty : front ≠ [] := by
        rintro rfl
        cases last
      have positive := List.length_pos_iff.mpr nonempty
      refine .inr (.inl ⟨front.length - 1, u, by omega, ?_, by simpa using semicolon⟩)
      rw [List.getElem?_append_left (by omega), ← List.getLast?_eq_getElem?, last]
    · exact .inr (.inr ⟨t, here, word⟩)

/-- **Reading goes on at the first position at which it may.** -/
theorem resume_least (front left : List Token) :
    ∃ r, resume front.getLast? left = (front ++ left).drop r ∧
      IsLeast {r | front.length ≤ r ∧ Boundary (front ++ left) r} r := by
  -- By induction on the tokens left, where `front` is what has been passed over so far.
  induction left generalizing front with
  | nil =>
    refine ⟨front.length, by simp [resume], ⟨Nat.le_refl _, .inl (by simp)⟩, fun r h => h.1⟩
  | cons t rest ih =>
    by_cases here : front.getLast?.any (·.kind == .semicolon) = true ∨ t.kind.startsStatement = true
    · refine ⟨front.length, ?_, ⟨Nat.le_refl _, boundary_append.mpr here⟩, fun r h => h.1⟩
      rw [resume, if_pos (by simpa using here), List.drop_left]
    · -- The token is passed over, and the search goes on behind it.
      obtain ⟨r, resumed, least⟩ := ih (front ++ [t])
      have split : front ++ [t] ++ rest = front ++ t :: rest := by simp
      rw [List.getLast?_concat, split] at resumed
      rw [split] at least
      refine ⟨r, ?_, ⟨?_, least.1.2⟩, fun r' h => ?_⟩
      · rw [resume, if_neg (by simpa using here), resumed]
      · have := least.1.1
        simp only [List.length_append, List.length_singleton] at this
        omega
      · -- The position passed over is none at which reading may go on.
        have beyond : r' ≠ front.length := by
          rintro rfl
          exact here (boundary_append.mp h.2)
        refine least.2 ⟨?_, h.2⟩
        have := h.1
        simp only [List.length_append, List.length_singleton]
        omega

end LoxScript.Grammar

namespace LoxScript

open Grammar

namespace Parser

/-! ## Positions of a parser -/

/-- A parser whose tokens left are an end of all its tokens. -/
def IsValid (p : Parser) : Prop := p.rest <:+ p.tokens

/-- The parser with a fault recorded, with its line quoted. -/
def record (p : Parser) (fault : Fault SyntaxCause) : Parser :=
  { p with faults := p.faults ++ [fault.quote (p.lines.getD [])] }

/-- Recording a fault does not move a parser. -/
@[simp] theorem record_position (p : Parser) (fault : Fault SyntaxCause) :
    (p.record fault).position = p.position := rfl

/-- A parser that has read nothing has all its tokens left. -/
theorem isValid_ofTokens (tokens : List Token) (source : Option String) (limit : Nat) :
    (ofTokens tokens source limit).IsValid := List.suffix_refl tokens

section

variable {p : Parser}

/-- The tokens read and those left are all of the tokens. -/
theorem IsValid.position_add (valid : p.IsValid) : p.position + p.rest.length = p.tokens.length := by
  have := valid.length_le
  unfold position
  omega

/-- No more tokens are read than there are. -/
theorem IsValid.position_le (valid : p.IsValid) : p.position ≤ p.tokens.length := by
  have := valid.position_add
  omega

/-- The tokens are those read and those left. -/
theorem IsValid.take_append (valid : p.IsValid) : p.tokens.take p.position ++ p.rest = p.tokens := by
  have left : p.tokens.drop p.position = p.rest := List.suffix_iff_eq_drop.mp valid |>.symm
  rw [← left, List.take_append_drop]

/-- There are as many tokens before a position as it says. -/
theorem IsValid.length_take (valid : p.IsValid) : (p.tokens.take p.position).length = p.position := by
  rw [List.length_take]
  have := valid.position_le
  omega

/-- Parsers of the same tokens have the positions of what they have left. -/
theorem position_lt_of_behind {q : Parser} (same : q.tokens = p.tokens) (valid : p.IsValid)
    (behind : Behind q.rest p.rest) : p.position < q.position := by
  have shorter := behind.length_lt
  have sum := valid.position_add
  unfold position at *
  rw [same]
  omega

/-- Behind a declaration that has taken a token, no token is lost before the search begins. -/
theorem synchronize_of_ne {start : Nat} (moved : start ≠ p.position) :
    p.synchronize (some start) = { p with rest := resume p.previous? p.rest } := by
  unfold synchronize
  cases left : p.rest with
  | nil => simp [resume, ← left]
  | cons t more =>
    have other : ¬((start : Int) == (p.position : Int)) = true := by
      rw [beq_iff_eq]
      omega
    simp only [Option.all_some, if_neg other]

/-- **Behind a fault reading goes on at the first position at which it may**, if the declaration
has taken a token. -/
theorem IsValid.synchronize {start : Nat} (valid : p.IsValid) (moved : start ≠ p.position) :
    (p.synchronize (some start)).IsValid ∧
      IsLeast {r | p.position ≤ r ∧ Boundary p.tokens r} (p.synchronize (some start)).position := by
  obtain ⟨r, resumed, least⟩ := resume_least (p.tokens.take p.position) p.rest
  rw [valid.take_append] at resumed least
  rw [valid.length_take] at least
  have within : r ≤ p.tokens.length := least.2 ⟨valid.position_le, .inl rfl⟩
  rw [synchronize_of_ne moved]
  have position : ({ p with rest := resume p.previous? p.rest } : Parser).position = r := by
    unfold Parser.position Parser.previous?
    simp only [resumed, List.length_drop]
    omega
  refine ⟨?_, position ▸ least⟩
  exact (resume_suffix _ _).trans valid

end

/-! ## Attempts -/

/-- **An attempt at a declaration**, with the positions at which it begins, to which it takes tokens, and from
which reading goes on, if it does. -/
structure Attempt where
  start : Nat
  stop : Nat
  next : Option Nat
  /-- The declaration, or the fault as it is recorded. -/
  result : Except (Fault SyntaxCause) Stmt

namespace Attempt

/-- The positions of an attempt, in the order in which they are come to. -/
def positions (a : Attempt) : List Nat := a.start :: a.stop :: a.next.toList

/-- The declaration that was read. -/
def statement? (a : Attempt) : Option Stmt :=
  match a.result with
  | .ok s => some s
  | .error _ => none

/-- The fault that was recorded. -/
def fault? (a : Attempt) : Option (Fault SyntaxCause) :=
  match a.result with
  | .ok _ => none
  | .error fault => some fault

section

variable (start stop : Nat) (next : Option Nat) (s : Stmt) (fault : Fault SyntaxCause)

/-- The statement of an attempt that read one. -/
@[simp] theorem statement?_ok : (⟨start, stop, next, .ok s⟩ : Attempt).statement? = some s := rfl

/-- An attempt that failed has no statement. -/
@[simp] theorem statement?_error : (⟨start, stop, next, .error fault⟩ : Attempt).statement? = none := rfl

/-- An attempt that read a statement has no fault. -/
@[simp] theorem fault?_ok : (⟨start, stop, next, .ok s⟩ : Attempt).fault? = none := rfl

/-- The fault of an attempt that failed. -/
@[simp] theorem fault?_error : (⟨start, stop, next, .error fault⟩ : Attempt).fault? = some fault := rfl

end

/-- Every attempt leads to a declaration or to a fault. -/
theorem length_filterMap (attempts : List Attempt) :
    (attempts.filterMap statement?).length + (attempts.filterMap fault?).length = attempts.length := by
  induction attempts with
  | nil => rfl
  | cons a rest ih =>
    obtain ⟨start, stop, next, result⟩ := a
    cases result <;> simp [List.filterMap_cons] <;> omega

end Attempt

/-- **Declarations attempted one after another**, from one parser to another: behind a declaration that can be
read reading goes on at once, and behind one that cannot where the parser is synchronized, unless there have
been enough faults. -/
inductive Attempts : Parser → List Attempt → Parser → Prop
  | atEnd {p : Parser} : p.rest = [] → Attempts p [] p
  | read {p q r : Parser} {s : Stmt} {attempts : List Attempt} :
      p.rest ≠ [] → p.read declaration = (.ok s, q) → Attempts q attempts r →
      Attempts p (⟨p.position, q.position, some q.position, .ok s⟩ :: attempts) r
  | enough {p q : Parser} {fault : Fault SyntaxCause} :
      p.rest ≠ [] → p.read declaration = (.error fault, q) → p.limit ≤ p.faults.length + 1 →
      Attempts p [⟨p.position, q.position, none, .error (fault.quote (p.lines.getD []))⟩] (q.record fault)
  | failed {p q r : Parser} {fault : Fault SyntaxCause} {attempts : List Attempt} :
      p.rest ≠ [] → p.read declaration = (.error fault, q) → p.faults.length + 1 < p.limit →
      Attempts ((q.record fault).synchronize (some p.position)) attempts r →
      Attempts p (⟨p.position, q.position, some ((q.record fault).synchronize (some p.position)).position,
        .error (fault.quote (p.lines.getD []))⟩ :: attempts) r

section

variable {p q r : Parser}

/-- What a parser reads is the outcome of reading the tokens left, and nothing else of it changes. -/
theorem read_eq {α : Type} {phrase : Span → (tokens : List Token) → Reading α tokens}
    {result : Except (Fault SyntaxCause) α} (read : p.read phrase = (result, q)) :
    (phrase p.fin p.rest).outcome = .settle result q.rest ∧ q = { p with rest := q.rest } := by
  unfold Parser.read at read
  obtain ⟨rfl, rfl⟩ := Prod.mk.inj read
  refine ⟨?_, rfl⟩
  cases phrase p.fin p.rest <;> rfl

/-- **Reading a declaration takes a token**, and changes nothing else. -/
theorem IsValid.read (valid : p.IsValid) (more : p.rest ≠ []) {result : Except (Fault SyntaxCause) Stmt}
    (read : p.read declaration = (result, q)) :
    q.IsValid ∧ q.tokens = p.tokens ∧ q.faults = p.faults ∧ Behind q.rest p.rest ∧ p.position < q.position := by
  obtain ⟨outcome, same⟩ := read_eq read
  obtain ⟨t, rest, tokens⟩ := List.exists_cons_of_ne_nil more
  have behind : Behind q.rest p.rest := by
    have taken := declaration_takes p.fin t rest
    rw [← tokens, outcome] at taken
    cases result <;> exact taken
  have all : q.tokens = p.tokens := by rw [same]
  have before : q.faults = p.faults := by rw [same]
  refine ⟨?_, all, before, behind, position_lt_of_behind all valid behind⟩
  unfold IsValid
  rw [all]
  exact behind.suffix.trans valid

/-- **Behind a declaration that fails** the fault is recorded, and reading goes on at the first position at
which it may. -/
theorem IsValid.failed (valid : p.IsValid) (more : p.rest ≠ []) {fault : Fault SyntaxCause}
    (read : p.read declaration = (.error fault, q)) :
    let next := (q.record fault).synchronize (some p.position)
    next.IsValid ∧ next.tokens = p.tokens ∧ next.faults = p.faults ++ [fault.quote (p.lines.getD [])] ∧
      next.rest <:+ q.rest ∧ IsLeast {i | q.position ≤ i ∧ Boundary p.tokens i} next.position := by
  intro next
  obtain ⟨valid', all, before, -, moved⟩ := valid.read more read
  have lines : q.lines = p.lines := by rw [(read_eq read).2]
  -- At least one token has been taken, so none is passed over before the search.
  have resumed : next = { q.record fault with rest := resume q.previous? q.rest } :=
    synchronize_of_ne (p := q.record fault) (Nat.ne_of_lt moved)
  obtain ⟨valid'', least⟩ := IsValid.synchronize (p := q.record fault) valid' (Nat.ne_of_lt moved)
  have all' : (q.record fault).tokens = p.tokens := all
  rw [all'] at least
  refine ⟨valid'', ?_, ?_, ?_, least⟩
  · rw [resumed]
    exact all
  · rw [resumed, ← before, ← lines]
    rfl
  · rw [resumed]
    exact resume_suffix _ _

/-! ## Recovery step by step -/

/-- Nothing is left to read at the end of the tokens. -/
theorem recover_of_nil (none : p.rest = []) : p.recover = ([], p) := by
  obtain ⟨tokens, lines, limit, rest, faults⟩ := p
  cases none
  simp [recover, readProgram]

/-- A declaration that was read comes before those that follow. -/
theorem recover_of_read (more : p.rest ≠ []) {s : Stmt} (read : p.read declaration = (.ok s, q)) :
    p.recover = (s :: q.recover.1, q.recover.2) := by
  obtain ⟨outcome, same⟩ := read_eq read
  obtain ⟨t, rest, tokens⟩ := List.exists_cons_of_ne_nil more
  rw [tokens] at outcome
  rw [same]
  unfold recover
  rw [tokens, readProgram_of_declaration p.fin p.lines p.limit p.faults.length outcome]
  rfl

/-- A fault that makes up the limit is the last one. -/
theorem recover_of_enough (more : p.rest ≠ []) {fault : Fault SyntaxCause}
    (read : p.read declaration = (.error fault, q)) (enough : p.limit ≤ p.faults.length + 1) :
    p.recover = ([], q.record fault) := by
  obtain ⟨outcome, same⟩ := read_eq read
  obtain ⟨t, rest, tokens⟩ := List.exists_cons_of_ne_nil more
  rw [tokens] at outcome
  rw [same]
  unfold recover
  rw [tokens, readProgram_of_fault p.fin p.lines p.limit p.faults.length outcome, if_pos enough]
  rfl

/-- Where reading resumes behind a fault depends on the token read last, as synchronizing does. -/
theorem IsValid.recoverFrom_eq (valid : p.IsValid) {t : Token} {rest left : List Token}
    (tokens : p.rest = t :: rest) (behind : Behind left p.rest) :
    recoverFrom t rest left = resume ({ p with rest := left } : Parser).previous? left := by
  obtain ⟨front, all⟩ := valid
  obtain ⟨taken, split⟩ := behind.suffix
  have some_taken : taken ≠ [] := by
    rintro rfl
    rw [← split] at behind
    exact absurd behind.length_lt (Nat.lt_irrefl _)
  obtain ⟨init, last, rfl⟩ := (List.eq_nil_or_concat' taken).resolve_left some_taken
  have declared : (t :: rest).take ((t :: rest).length - left.length) = init ++ [last] := by
    rw [← tokens, ← split, List.length_append, Nat.add_sub_cancel, List.take_left]
  have previous : ({ p with rest := left } : Parser).previous? = some last := by
    have consumed : front ++ (init ++ [last]) ++ left = p.tokens := by
      rw [List.append_assoc, split, all]
    unfold previous? position
    simp only [← consumed]
    rw [List.length_append, Nat.add_sub_cancel, List.take_left, ← List.append_assoc]
    exact List.getLast?_concat
  rw [recoverFrom, declared, previous]
  simp

/-- Behind any other fault, recovering goes on at the place that is synchronized to. -/
theorem recover_of_failed (valid : p.IsValid) (more : p.rest ≠ []) {fault : Fault SyntaxCause}
    (read : p.read declaration = (.error fault, q)) (room : p.faults.length + 1 < p.limit) :
    p.recover = ((q.record fault).synchronize (some p.position)).recover := by
  obtain ⟨outcome, same⟩ := read_eq read
  obtain ⟨-, -, -, behind, moved⟩ := valid.read more read
  obtain ⟨t, rest, tokens⟩ := List.exists_cons_of_ne_nil more
  have resumed := valid.recoverFrom_eq tokens behind
  rw [tokens] at outcome
  rw [synchronize_of_ne (p := q.record fault) (Nat.ne_of_lt moved), same]
  unfold recover
  rw [tokens, readProgram_of_fault p.fin p.lines p.limit p.faults.length outcome, if_neg (by omega), resumed]
  simp [record, Parser.fin, Parser.previous?, Parser.position]

/-- **Recovering from faults is going through attempts** to the end or until there have been enough faults. -/
theorem attempts_recover (valid : p.IsValid) : ∃ attempts, Attempts p attempts p.recover.2 ∧
    p.recover.1 = attempts.filterMap Attempt.statement? ∧
    p.recover.2.faults = p.faults ++ attempts.filterMap Attempt.fault? := by
  -- Every attempt takes a token, so the tokens left get fewer.
  induction hn : p.rest.length using Nat.strongRecOn generalizing p with
  | ind n ih =>
    subst hn
    by_cases more : p.rest = []
    · rw [recover_of_nil more]
      exact ⟨[], .atEnd more, rfl, by simp⟩
    · obtain ⟨result, q, read⟩ : ∃ result q, p.read declaration = (result, q) := ⟨_, _, rfl⟩
      obtain ⟨valid', -, before, behind, -⟩ := valid.read more read
      cases result with
      | ok s =>
        obtain ⟨attempts, run, statements, faults⟩ := ih _ behind.length_lt valid' rfl
        rw [recover_of_read more read]
        refine ⟨_, .read more read run, ?_, ?_⟩
        · simp [statements]
        · simp [faults, before, List.filterMap_cons]
      | error fault =>
        by_cases enough : p.limit ≤ p.faults.length + 1
        · rw [recover_of_enough more read enough]
          have lines : q.lines = p.lines := by rw [(read_eq read).2]
          refine ⟨_, .enough more read enough, ?_, ?_⟩
          · simp
          · simp [record, before, lines]
        · have room := Nat.lt_of_not_le enough
          obtain ⟨valid'', -, faults', suffix, -⟩ := valid.failed more read
          obtain ⟨attempts, run, statements, faults⟩ :=
            ih _ (Nat.lt_of_le_of_lt suffix.length_le behind.length_lt) valid'' rfl
          rw [recover_of_failed valid more read room]
          refine ⟨_, .failed more read room run, ?_, ?_⟩
          · simp [statements, List.filterMap_cons]
          · simp [faults, faults']

section

variable {attempts : List Attempt}

/-- **What holds of every attempt**: it takes a token, and if it fails, reading goes on at the first position
at which it may. -/
theorem Attempts.progress (h : Attempts p attempts r) (valid : p.IsValid) :
    ∀ a ∈ attempts, a.start < a.stop ∧ ∀ fault next, a.result = .error fault → a.next = some next →
      IsLeast {i | a.stop ≤ i ∧ Boundary p.tokens i} next := by
  induction h with
  | atEnd none => simp
  | read more read run ih =>
    obtain ⟨valid', same, -, -, moved⟩ := valid.read more read
    refine List.forall_mem_cons.mpr ⟨⟨moved, fun fault next failed _ => by cases failed⟩, ?_⟩
    rw [← same]
    exact ih valid'
  | enough more read enough =>
    obtain ⟨-, -, -, -, moved⟩ := valid.read more read
    exact List.forall_mem_singleton.mpr ⟨moved, fun fault next _ none => by cases none⟩
  | failed more read room run ih =>
    obtain ⟨-, -, -, -, moved⟩ := valid.read more read
    obtain ⟨valid', same, -, -, least⟩ := valid.failed more read
    refine List.forall_mem_cons.mpr ⟨⟨moved, fun fault' next _ resumed => ?_⟩, ?_⟩
    · rw [← Option.some.inj resumed]
      exact least
    · rw [← same]
      exact ih valid'

/-- **The position never goes back**, within an attempt or from one to the next. -/
theorem Attempts.ordered (h : Attempts p attempts r) (valid : p.IsValid) :
    (p.position :: attempts.flatMap Attempt.positions).Pairwise (· ≤ ·) := by
  -- By induction on the run: an attempt ends behind its start, and the next one starts no earlier.
  induction h with
  | atEnd none => simp
  | read more read run ih =>
    obtain ⟨valid', -, -, -, moved⟩ := valid.read more read
    have later := ih valid'
    simp only [List.flatMap_cons, Attempt.positions, Option.toList_some, List.cons_append, List.nil_append]
    grind
  | enough more read enough =>
    obtain ⟨-, -, -, -, moved⟩ := valid.read more read
    simp [Attempt.positions]
    omega
  | failed more read room run ih =>
    obtain ⟨-, -, -, -, moved⟩ := valid.read more read
    obtain ⟨valid', -, -, -, least⟩ := valid.failed more read
    have resumed := least.1.1
    have later := ih valid'
    simp only [List.flatMap_cons, Attempt.positions, Option.toList_some, List.cons_append, List.nil_append]
    grind

/-- There are no more attempts than tokens, since each of them takes one. -/
theorem Attempts.length_le (h : Attempts p attempts r) (valid : p.IsValid) :
    p.position + attempts.length ≤ p.tokens.length := by
  -- By induction on the run: the position moves by at least one with every attempt.
  induction h with
  | atEnd none => exact valid.position_le
  | read more read run ih =>
    obtain ⟨valid', same, -, -, moved⟩ := valid.read more read
    have later := ih valid'
    rw [same] at later
    rw [List.length_cons]
    omega
  | enough more read enough =>
    obtain ⟨valid', same, -, -, moved⟩ := valid.read more read
    have last := valid'.position_le
    rw [same] at last
    rw [List.length_singleton]
    omega
  | failed more read room run ih =>
    obtain ⟨-, -, -, -, moved⟩ := valid.read more read
    obtain ⟨valid', same, -, -, least⟩ := valid.failed more read
    have resumed := least.1.1
    have later := ih valid'
    rw [same] at later
    rw [List.length_cons]
    omega

end

end

end Parser

/-- **Recovery always progresses, and skips only what it must.** Recovering from faults is attempting one
declaration after another until no token is left or there have been enough faults; each attempt leads to one
of the statements or to one of the faults. The position never goes back, and every attempt takes at least one
token, whether it succeeds or not, so there are no more statements and faults together than tokens. Behind an
attempt that fails, unless there have been enough faults, reading goes on at the first position that is the
end, or is behind a semicolon, or is that of a word which begins a statement. The faults in the tokens of a
source are in the order of the places where they start. -/
theorem recover_progresses (tokens : List Token) (source : Option String) (limit : Nat) :
    let p := Parser.ofTokens tokens source limit
    (∃ attempts, p.Attempts attempts p.recover.2 ∧
      p.recover.1 = attempts.filterMap Parser.Attempt.statement? ∧
      p.recover.2.faults = attempts.filterMap Parser.Attempt.fault? ∧
      (attempts.flatMap Parser.Attempt.positions).Pairwise (· ≤ ·) ∧
      ∀ a ∈ attempts, a.start < a.stop ∧ ∀ fault next, a.result = .error fault → a.next = some next →
        IsLeast {i | a.stop ≤ i ∧ Boundary tokens i} next) ∧
    p.recover.1.length + p.recover.2.faults.length ≤ tokens.length ∧
    ∀ text file, scan text file = tokens.map .ok →
      p.recover.2.faults.Pairwise fun f g => f.span.start.offset ≤ g.span.start.offset := by
  intro p
  -- The four properties are proved of the list of attempts, by induction on the run.
  have valid := Parser.isValid_ofTokens tokens source limit
  obtain ⟨attempts, run, statements, faults⟩ := Parser.attempts_recover valid
  have faults' : p.recover.2.faults = attempts.filterMap Parser.Attempt.fault? := faults
  refine ⟨⟨attempts, run, statements, faults', ?_, run.progress valid⟩, ?_, fun text file scanned => ?_⟩
  · exact (List.pairwise_cons.mp (run.ordered valid)).2
  · have few := run.length_le valid
    rw [statements, faults', Parser.Attempt.length_filterMap]
    exact Nat.le_trans (Nat.le_add_left _ _) few
  · rw [(recover_ofTokens tokens source limit).2]
    exact pairwise_faults (inOrder_of_scan scanned)

end LoxScript
