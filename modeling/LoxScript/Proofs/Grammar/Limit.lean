import LoxScript.Proofs.Grammar.FaultOrder

/-! # The limit of faults

Reading a program ends when there are enough faults. How many are enough decides where the reading ends, and
nothing else.

* **`ProgramReading.Truncates`** — a reading that agrees with another one as far as there is room for faults.
* **`readProgram_truncates`** — a reading with a lower limit truncates one with a higher limit.
* **`Parser.verdict`** — what a parser makes of its tokens: the statements, or the first fault.
* **`recover_truncates`** — the result, for parsers that have not read anything yet. -/

namespace LoxScript

namespace Grammar

/-! ## Truncated readings -/

/-- A reading **truncates** another one if it has room for `room` faults: it has the first of them and
the statements in front of them, and as long as there is room left it is the other one, with nothing
left to be read. -/
structure ProgramReading.Truncates (room : Nat) (r whole : ProgramReading) : Prop where
  faults_eq : r.faults = whole.faults.take room
  statements_prefix : r.statements <+: whole.statements
  complete : r.faults.length < room → r = whole ∧ r.rest = []

namespace ProgramReading.Truncates

variable {room : Nat} {r whole : ProgramReading}

/-- Without tokens there is nothing to truncate. -/
theorem nothing (room : Nat) : Truncates room ⟨[], [], []⟩ ⟨[], [], []⟩ where
  faults_eq := List.take_nil.symm
  statements_prefix := List.prefix_refl []
  complete := fun _ => ⟨rfl, rfl⟩

/-- A statement in front needs no room. -/
theorem declared (h : Truncates room r whole) (s : Stmt) :
    Truncates room { r with statements := s :: r.statements }
      { whole with statements := s :: whole.statements } where
  faults_eq := h.faults_eq
  statements_prefix := (List.prefix_cons_inj s).mpr h.statements_prefix
  complete := fun few => by
    obtain ⟨rfl, rest⟩ := h.complete few
    exact ⟨rfl, rest⟩

/-- A fault in front takes the room of one. -/
theorem refused (h : Truncates room r whole) (fault : Fault SyntaxCause) :
    Truncates (room + 1) { r with faults := fault :: r.faults }
      { whole with faults := fault :: whole.faults } where
  faults_eq := by rw [List.take_succ_cons, h.faults_eq]
  statements_prefix := h.statements_prefix
  complete := fun few => by
    obtain ⟨rfl, rest⟩ := h.complete (Nat.lt_of_succ_lt_succ few)
    exact ⟨rfl, rest⟩

/-- Where there is room for one fault, the reading ends at the first one. -/
theorem enough {fault : Fault SyntaxCause} (left : List Token) (first : whole.faults.take 1 = [fault]) :
    Truncates 1 ⟨[], [fault], left⟩ whole where
  faults_eq := first.symm
  statements_prefix := List.nil_prefix
  complete := fun few => absurd few (Nat.lt_irrefl 1)

end ProgramReading.Truncates

/-- **A reading with a lower limit truncates one with a higher limit.** -/
theorem readProgram_truncates (fin : Span) (lines : Option (List String)) {room found limit : Nat}
    (some : 1 ≤ room) (within : found + room ≤ limit) (tokens : List Token) :
    (readProgram fin lines (found + room) found tokens).Truncates room
      (readProgram fin lines limit found tokens) := by
  -- Each declaration takes a token, read or not, so the tokens left get fewer.
  induction hn : tokens.length using Nat.strongRecOn generalizing tokens found room with
  | ind n ih =>
    subst hn
    cases tokens with
    | nil =>
      rw [readProgram, readProgram]
      exact .nothing room
    | cons t more =>
      cases read : (declaration fin (t :: more)).outcome with
      | ok s rest =>
        rw [readProgram_of_declaration fin lines _ found read,
          readProgram_of_declaration fin lines _ found read]
        exact (ih _ (Reading.behind_of_ok read).length_lt some within rest rfl).declared s
      | error bare left =>
        rw [readProgram_of_fault fin lines _ found read, readProgram_of_fault fin lines _ found read]
        by_cases last : room = 1
        · subst last
          rw [if_pos (Nat.le_refl _)]
          by_cases both : limit ≤ found + 1
          · rw [if_pos both]
            exact .enough left rfl
          · rw [if_neg both]
            exact .enough left rfl
        · -- Behind the fault there is room for one less.
          obtain ⟨room, rfl⟩ := Nat.exists_eq_add_one_of_ne_zero (Nat.ne_of_gt some)
          have some' : 1 ≤ room := by omega
          have within' : found + 1 + room ≤ limit := by omega
          have behind := ih _ (recoverFrom_length_lt t more left) some' within' (recoverFrom t more left) rfl
          rw [Nat.add_right_comm] at behind
          rw [if_neg (by omega), if_neg (by omega)]
          exact behind.refused _

end Grammar

open Grammar

/-! ## Parsers -/

namespace Parser

/-- The **verdict** of a parser on its tokens: the statements, or the first fault. -/
def verdict (p : Parser) : Except (Fault SyntaxCause) (List Stmt) :=
  match p.recover.2.faults with
  | [] => .ok p.recover.1
  | fault :: _ => .error fault

/-- The usual limit is that of reading a program at once. -/
theorem verdict_ofTokens (tokens : List Token) (source : Option String) :
    (ofTokens tokens source 20).verdict = parse tokens source := rfl

/-- Every recorded fault is an error in the collector. -/
theorem errorCount_collector (p : Parser) : p.collector.errorCount = p.faults.length := by
  have errors : ∀ d ∈ p.collector.diagnostics, (d.severity == .error) = true := by
    intro d mem
    obtain ⟨fault, -, rfl⟩ := List.mem_map.mp mem
    rfl
  rw [Collector.errorCount, Collector.count, List.countP_eq_length.mpr errors]
  exact List.length_map _

section

variable (tokens : List Token) (source : Option String) {m n : Nat}

/-- Recovery under a lower limit gives the beginning of what it gives under a higher one. -/
theorem recover_ofTokens_truncates (some : 1 ≤ m) (within : m ≤ n) :
    (readProgram (endSpan tokens) (source.map Lines.ofSource) m 0 tokens).Truncates m
      (readProgram (endSpan tokens) (source.map Lines.ofSource) n 0 tokens) := by
  have within' : 0 + m ≤ n := by omega
  have truncates := readProgram_truncates (endSpan tokens) (source.map Lines.ofSource) some within' tokens
  rwa [Nat.zero_add] at truncates

/-- A parser that has read nothing has enough faults exactly if it has as many as its limit. -/
theorem shouldStop_recover (some : 1 ≤ m) :
    (ofTokens tokens source m).recover.2.collector.shouldStop = true ↔
      (ofTokens tokens source m).recover.2.faults.length = m := by
  have most : (ofTokens tokens source m).recover.2.faults.length ≤ m := by
    rw [(recover_ofTokens tokens source m).2, ← Nat.zero_add (List.length _)]
    exact length_faults_le some
  rw [Collector.shouldStop, decide_eq_true_iff, errorCount_collector]
  exact ⟨fun enough => Nat.le_antisymm most enough, fun all => Nat.le_of_eq all.symm⟩

/-- The verdict is the same for a lower limit. -/
theorem verdict_eq (some : 1 ≤ m) (within : m ≤ n) :
    (ofTokens tokens source m).verdict = (ofTokens tokens source n).verdict := by
  obtain ⟨statements, faults⟩ := recover_ofTokens tokens source m
  obtain ⟨statements', faults'⟩ := recover_ofTokens tokens source n
  have truncates := recover_ofTokens_truncates tokens source some within
  rw [verdict, verdict, statements, faults, statements', faults']
  cases all : (readProgram (endSpan tokens) (source.map Lines.ofSource) n 0 tokens).faults with
  | nil =>
    have none : (readProgram (endSpan tokens) (source.map Lines.ofSource) m 0 tokens).faults = [] := by
      rw [truncates.faults_eq, all, List.take_nil]
    have same := (truncates.complete (none ▸ some)).1
    rw [none, same]
  | cons fault others =>
    obtain ⟨room, rfl⟩ := Nat.exists_eq_add_one_of_ne_zero (Nat.ne_of_gt some)
    rw [truncates.faults_eq, all, List.take_succ_cons]

end

end Parser

/-- **The limit of faults only truncates.** Of two parsers for the same tokens, the one with the lower limit
records the first faults of the other, as many as its limit allows, and reads a beginning of its statements.
It has enough faults exactly if it has recorded as many as its limit; otherwise both have read all of the
tokens, with the same result. The verdict does not depend on the limit. -/
theorem recover_truncates (tokens : List Token) (source : Option String) {m n : Nat} (some : 1 ≤ m)
    (within : m ≤ n) :
    let p := Parser.ofTokens tokens source m
    let q := Parser.ofTokens tokens source n
    p.recover.2.faults = q.recover.2.faults.take (min m q.recover.2.faults.length) ∧
      p.recover.1 <+: q.recover.1 ∧
      (p.recover.2.collector.shouldStop = true ↔ p.recover.2.faults.length = m) ∧
      (p.recover.2.faults.length < m → p.recover.1 = q.recover.1 ∧
        p.recover.2.faults = q.recover.2.faults ∧ p.recover.2.rest = [] ∧ q.recover.2.rest = []) ∧
      p.verdict = parse tokens source ∧ q.verdict = parse tokens source := by
  intro p q
  -- Parsing has a limit of its own, 20, and every positive limit comes to the same verdict as that one.
  have verdict : ∀ limit, 1 ≤ limit → (Parser.ofTokens tokens source limit).verdict = parse tokens source := by
    intro limit positive
    rw [← Parser.verdict_ofTokens]
    rcases Nat.le_total limit 20 with below | above
    · exact Parser.verdict_eq tokens source positive below
    · exact (Parser.verdict_eq tokens source (by decide) above).symm
  have truncates := Parser.recover_ofTokens_truncates tokens source some within
  obtain ⟨statements, faults⟩ := recover_ofTokens tokens source m
  obtain ⟨statements', faults'⟩ := recover_ofTokens tokens source n
  refine ⟨?_, ?_, Parser.shouldStop_recover tokens source some, fun few => ?_, verdict m some,
    verdict n (Nat.le_trans some within)⟩
  · rw [faults, faults', truncates.faults_eq, ← List.take_eq_take_min]
  · rw [statements, statements']
    exact truncates.statements_prefix
  · rw [faults] at few
    obtain ⟨same, rest⟩ := truncates.complete few
    have rest' := rest
    rw [same] at rest'
    exact ⟨by rw [statements, statements', same], by rw [faults, faults', same], rest, rest'⟩

/-- Of two declarations that cannot be read, a parser with the limit 1 records the first. -/
theorem recover_truncates_two_bad :
    let tokens := [bare .semicolon, bare .semicolon]
    let p := Parser.ofTokens tokens none 1
    let q := Parser.ofTokens tokens none 2
    (1 ≤ 1 ∧ 1 ≤ 2) ∧ q.recover.2.faults.length = 2 ∧ p.recover.2.faults = q.recover.2.faults.take 1 ∧
      p.recover.2.collector.shouldStop = true ∧ p.verdict = q.verdict := by
  intro tokens p q
  have some : 1 ≤ 1 := by decide
  have within : 1 ≤ 2 := by decide
  have read : ∀ rest, (declaration (endSpan tokens) (bare .semicolon :: rest)).outcome =
      .error ⟨.expectedExpression (bare .semicolon), (bare .semicolon).span, none⟩ rest := fun rest => by cbv
  have two : q.recover.2.faults.length = 2 := by
    rw [(recover_ofTokens tokens none 2).2, readProgram_of_fault _ _ _ _ (read _), if_neg (by decide)]
    show (readProgram _ _ 2 1 [bare .semicolon]).faults.length + 1 = 2
    rw [readProgram_of_fault _ _ _ _ (read _), if_pos (by decide)]
    rfl
  obtain ⟨faults, -, stops, -, verdict, verdict'⟩ := recover_truncates tokens none some within
  rw [two] at faults
  have one : p.recover.2.faults.length = 1 := by rw [faults, List.length_take, two]; rfl
  exact ⟨⟨some, within⟩, two, faults, stops.mpr one, verdict.trans verdict'.symm⟩

end LoxScript
