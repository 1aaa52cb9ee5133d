import LoxScript.Proofs.Outline.Pieces
import LoxScript.Proofs.Printing.Written

/-! # Outlines are unambiguous

The outline of a program shows everything of its tree but the beginnings, offsets and files of its tokens.

* **`Expr.atEnds`**, **`Stmt.atEnds`** — what is left of a tree: of the place of a token, line and column
  of its last character.
* **`Expr.Writable.outline_append_inj`**, **`Stmt.Writable.outline_append_inj`** — trees are read off the
  front of a list of lines in one way only, whatever follows.
* **`Expr.Writable.isLine`**, **`Stmt.Writable.isLine`** — no text within a tree breaks a line.
* **`programOutline_eq_iff`** — the result. -/

namespace LoxScript

/-! ## Trees by the ends of their tokens -/

/-- **The token at its end**: of its place the line and the column of its last character are left. -/
def Token.atEnd (t : Token) : Token :=
  { t with span := .single { line := t.line, column := t.column, offset := 0 } }

/-- Two tokens are the same at their ends iff they are the same words on the same lines and columns. -/
theorem Token.atEnd_eq_iff {t u : Token} :
    t.atEnd = u.atEnd ↔ t.word = u.word ∧ t.line = u.line ∧ t.column = u.column := by
  simp only [atEnd, word, Span.single, Token.mk.injEq, Span.mk.injEq, Position.mk.injEq, Word.mk.injEq,
    and_true, and_self, and_assoc]

/-- The expression with its names at their ends; operators have no other place. -/
def Expr.atEnds : Expr → Expr
  | .assign name value => .assign name.atEnd value.atEnds
  | .binary left operator right => .binary left.atEnds operator right.atEnds
  | .grouping inner => .grouping inner.atEnds
  | .literal value => .literal value
  | .unary operator operand => .unary operator operand.atEnds
  | .reference name => .reference name.atEnd
  | .misplaced s => .misplaced s

mutual

/-- The statement with its names at their ends. -/
def Stmt.atEnds : Stmt → Stmt
  | .block ss => .block (Stmt.atEndsAll ss)
  | .expression e => .expression e.atEnds
  | .print e => .print e.atEnds
  | .declare name initial => .declare name.atEnd (initial.map Expr.atEnds)
  | .branch condition consequent none => .branch condition.atEnds consequent.atEnds none
  | .branch condition consequent (some alternative) =>
    .branch condition.atEnds consequent.atEnds (some alternative.atEnds)
  | .loop condition body => .loop condition.atEnds body.atEnds
  | .misplaced e => .misplaced e

/-- The statements of a block with their names at their ends. -/
def Stmt.atEndsAll : List Stmt → List Stmt
  | [] => []
  | s :: rest => s.atEnds :: Stmt.atEndsAll rest

end

/-- Statements are taken at their ends one by one. -/
theorem Stmt.atEndsAll_eq_map (ss : List Stmt) : Stmt.atEndsAll ss = ss.map Stmt.atEnds := by
  induction ss with
  | nil => rw [atEndsAll, List.map_nil]
  | cons s rest ih => rw [atEndsAll, ih, List.map_cons]

/-! ## Lines with a part -/

/-- A name is listed with the text that it is. -/
theorem Word.IsName.listing_eq {t : Token} (h : t.word.IsName) :
    t.listing = "IDENTIFIER(" ++ quoted t.lexeme ++ ")" := by
  obtain ⟨kind, datum, lexeme, span⟩ := t
  obtain ⟨first, more, -, -, -, same⟩ := h
  cases same
  rfl

/-- Names of the same characters are the same word. -/
theorem Word.IsName.eq_iff {w u : Word} (h : w.IsName) (h' : u.IsName) : w = u ↔ w.lexeme = u.lexeme := by
  obtain ⟨first, more, -, -, -, rfl⟩ := h
  obtain ⟨first', more', -, -, -, rfl⟩ := h'
  simp

/-- Different symbols are spelled differently. -/
theorem Symbol.spelling_inj {s t : Symbol} : s.spelling = t.spelling ↔ s = t := by
  constructor
  · cases s <;> cases t <;> first | exact fun _ => rfl | exact fun same => absurd same (by decide)
  · rintro rfl
    rfl

namespace Outline

variable {level : Nat}

/-- Lines of one level show different texts differently. -/
@[simp] theorem line_inj {text text' : String} : line level text = line level text' ↔ text = text' :=
  String.append_right_inj _

/-- **The line of a name** tells the name, and line and column of its end. -/
theorem tokenPart_inj {part : String} {t u : Token} (h : t.word.IsName) (h' : u.word.IsName) :
    tokenPart level part t = tokenPart level part u ↔ t.atEnd = u.atEnd := by
  have listings : t.listing = u.listing ↔ t.word = u.word := by
    rw [h.listing_eq, h'.listing_eq, h.eq_iff h', String.append_left_inj, String.append_right_inj, quoted_inj]
    rfl
  rw [tokenPart, tokenPart, line_inj, Token.place, Token.place, Position.marked_inj, String.append_right_inj,
    listings, Token.atEnd_eq_iff]
  rfl

/-- **The line of an operator** tells the operator and its place. -/
theorem operatorPart_inj {o o' : Operator} : operatorPart level o = operatorPart level o' ↔ o = o' := by
  have text (o : Operator) : "operator: '" ++ o.symbol.spelling ++ "' @ " ++ o.position.lineColumn =
      "operator: '" ++ o.symbol.spelling ++ "'" ++ " @ " ++ o.position.lineColumn := by
    have marks : "' @ " = "'" ++ " @ " := rfl
    rw [marks, ← String.append_assoc]
  obtain ⟨symbol, row, column⟩ := o
  obtain ⟨symbol', row', column'⟩ := o'
  rw [operatorPart, operatorPart, line_inj, text, text, Position.marked_inj, String.append_left_inj,
    String.append_right_inj, Symbol.spelling_inj, Operator.mk.injEq]
  rfl

end Outline

open Outline

/-! ## Trees at the front of lines -/

/-- **An expression is read off the front of lines in one way only**, whatever follows its outline. -/
theorem Expr.Writable.outline_append_inj {e e' : Expr} (h : e.Writable) (h' : e'.Writable) {level : Nat}
    {r r' : List String} :
    e.outline level ++ r = e'.outline level ++ r' ↔ e.atEnds = e'.atEnds ∧ r = r' := by
  -- The first lines tell the kinds of both; below them each part is read up to where the next one begins.
  induction h generalizing e' level r r' with
  | assign isName _ ih =>
    cases h' with
    | assign isName' writable' =>
      simp only [Expr.outline, Expr.atEnds, List.cons_append, List.cons.injEq, true_and,
        tokenPart_inj isName isName', ih writable', Expr.assign.injEq, and_assoc]
    | binary | grouping | literal | unary | reference => simp [Expr.outline, Expr.atEnds]
  | binary _ _ _ _ _ ihl ihr =>
    cases h' with
    | binary left' _ _ right' _ =>
      simp only [Expr.outline, Expr.atEnds, List.cons_append, List.append_assoc, List.cons.injEq, true_and,
        operatorPart_inj, ihl left', ihr right', Expr.binary.injEq, and_assoc]
    | assign | grouping | literal | unary | reference => simp [Expr.outline, Expr.atEnds]
  | grouping _ ih =>
    cases h' with
    | grouping inner' =>
      simp only [Expr.outline, Expr.atEnds, List.cons_append, List.cons.injEq, true_and, ih inner',
        Expr.grouping.injEq]
    | assign | binary | literal | unary | reference => simp [Expr.outline, Expr.atEnds]
  | literal =>
    cases h' with
    | literal =>
      simp only [Expr.outline, Expr.atEnds, List.cons_append, List.nil_append, List.cons.injEq, true_and,
        line_inj, String.append_right_inj, Value.listing_inj, Expr.literal.injEq]
    | assign | binary | grouping | unary | reference => simp [Expr.outline, Expr.atEnds]
  | unary _ _ _ ih =>
    cases h' with
    | unary _ operand' _ =>
      simp only [Expr.outline, Expr.atEnds, List.cons_append, List.cons.injEq, true_and, operatorPart_inj,
        ih operand', Expr.unary.injEq, and_assoc]
    | assign | binary | grouping | literal | reference => simp [Expr.outline, Expr.atEnds]
  | reference isName =>
    cases h' with
    | reference isName' =>
      simp only [Expr.outline, Expr.atEnds, List.cons_append, List.nil_append, List.cons.injEq, true_and,
        tokenPart_inj isName isName', Expr.reference.injEq]
    | assign | binary | grouping | literal | unary => simp [Expr.outline, Expr.atEnds]

namespace Stmt

/-- The outline of a statement begins with the kind of the statement. -/
theorem Writable.outline_head {s : Stmt} (h : s.Writable) (level : Nat) :
    ∃ more, s.outline level = line level s.kindName :: more := by
  cases h with
  | @declare _ initial => cases initial <;> exact ⟨_, rfl⟩
  | block | expression | print | branch | choice | loop => exact ⟨_, rfl⟩

/-- A statement is of the same kind at its ends. -/
@[simp] theorem kindName_atEnds (s : Stmt) : s.atEnds.kindName = s.kindName := by
  cases s with
  | branch condition consequent alternative => cases alternative <;> rfl
  | block | expression | print | declare | loop | misplaced => rfl

/-- **A statement is delimited** if its outline at a level is read off the front of lines in one way only,
whatever follows it. -/
def Delimited (s : Stmt) (level : Nat) : Prop :=
  ∀ s' : Stmt, s'.Writable → ∀ r r' : List String,
    s.outline level ++ r = s'.outline level ++ r' ↔ s.atEnds = s'.atEnds ∧ r = r'

/-- Statements of different kinds differ in the first line, so that those of one kind remain. -/
theorem Writable.delimited_of_kind {s : Stmt} (h : s.Writable) {level : Nat}
    (same : ∀ s' : Stmt, s'.Writable → s.kindName = s'.kindName → ∀ r r' : List String,
      s.outline level ++ r = s'.outline level ++ r' ↔ s.atEnds = s'.atEnds ∧ r = r') :
    s.Delimited level := by
  intro s' h' r r'
  by_cases kinds : s.kindName = s'.kindName
  · exact same s' h' kinds r r'
  · obtain ⟨more, head⟩ := h.outline_head level
    obtain ⟨more', head'⟩ := h'.outline_head level
    constructor
    · intro lines
      rw [head, head', List.cons_append, List.cons_append, List.cons.injEq, line_inj] at lines
      exact absurd lines.1 kinds
    · rintro ⟨trees, -⟩
      have names := congrArg kindName trees
      rw [kindName_atEnds, kindName_atEnds] at names
      exact absurd names kinds

/-- Lines in which no statement begins at a level. -/
def Closes (level : Nat) (r : List String) : Prop :=
  ∀ s : Stmt, s.Writable → ∀ more, r ≠ s.outline level ++ more

/-- No statement begins where there are no lines. -/
theorem closes_nil (level : Nat) : Closes level [] := by
  intro s writable more same
  obtain ⟨others, head⟩ := writable.outline_head level
  rw [head] at same
  cases same

/-- The bracket behind the statements of a block begins no statement, at whatever level. -/
theorem closes_bracket (inner level : Nat) (r : List String) : Closes inner (line level "]" :: r) := by
  intro s writable more same
  obtain ⟨others, head⟩ := writable.outline_head inner
  rw [head] at same
  have lines : line level "]" = line inner s.kindName := (List.cons.inj same).1
  -- The blanks before it do not matter: no kind of statement has a bracket in its name.
  have bracket : ']' ∈ (line inner s.kindName).toList := by
    rw [← lines]
    simp [line]
  cases writable <;> simp [line, kindName] at bracket

/-- **Statements are read off the front of lines in one way only**, up to lines in which none begins. -/
theorem outlines_append_inj {ss ss' : List Stmt} {level : Nat} {r r' : List String}
    (each : ∀ s ∈ ss, s.Writable) (delimited : ∀ s ∈ ss, s.Delimited level)
    (each' : ∀ s ∈ ss', s.Writable) (closes : Closes level r) (closes' : Closes level r') :
    outlines level ss ++ r = outlines level ss' ++ r' ↔ ss.map atEnds = ss'.map atEnds ∧ r = r' := by
  -- By induction on both lists: where one has ended, no statement begins in what follows it.
  induction ss generalizing ss' with
  | nil =>
    cases ss' with
    | nil => simp [outlines]
    | cons s' rest' =>
      have other : r ≠ s'.outline level ++ (outlines level rest' ++ r') :=
        closes s' (each' s' (List.mem_cons_self ..)) _
      simp [outlines, other]
  | cons s rest ih =>
    cases ss' with
    | nil =>
      have other : r' ≠ s.outline level ++ (outlines level rest ++ r) :=
        closes' s (each s (List.mem_cons_self ..)) _
      simp [outlines, other.symm]
    | cons s' rest' =>
      have first := delimited s (List.mem_cons_self ..) s' (each' s' (List.mem_cons_self ..))
      have others := ih (fun t mem => each t (List.mem_cons_of_mem _ mem))
        (fun t mem => delimited t (List.mem_cons_of_mem _ mem))
        (fun t mem => each' t (List.mem_cons_of_mem _ mem))
      simp only [outlines, List.append_assoc, first, others, List.map_cons, List.cons.injEq, and_assoc]

/-- **Every statement that a program can contain is delimited.** -/
theorem Writable.delimited {s : Stmt} (h : s.Writable) (level : Nat) : s.Delimited level := by
  induction h generalizing level with
  | block each ih =>
    refine (Writable.block each).delimited_of_kind fun s' h' kinds r r' => ?_
    cases h' with
    | block each' =>
      have inside := outlines_append_inj each (fun s mem => ih s mem (level + 2)) each'
        (closes_bracket (level + 2) (level + 1) r) (closes_bracket (level + 2) (level + 1) r')
      simp only [outline, atEnds, atEndsAll_eq_map, List.cons_append, List.append_assoc, List.nil_append,
        List.cons.injEq, true_and, inside, Stmt.block.injEq]
    | expression | print | declare | branch | choice | loop => simp [kindName] at kinds
  | expression writable =>
    refine (Writable.expression writable).delimited_of_kind fun s' h' kinds r r' => ?_
    cases h' with
    | expression writable' =>
      simp only [outline, atEnds, List.cons_append, List.cons.injEq, true_and,
        writable.outline_append_inj writable', Stmt.expression.injEq]
    | block | print | declare | branch | choice | loop => simp [kindName] at kinds
  | print writable =>
    refine (Writable.print writable).delimited_of_kind fun s' h' kinds r r' => ?_
    cases h' with
    | print writable' =>
      simp only [outline, atEnds, List.cons_append, List.cons.injEq, true_and,
        writable.outline_append_inj writable', Stmt.print.injEq]
    | block | expression | declare | branch | choice | loop => simp [kindName] at kinds
  | @declare name initial isName writable =>
    refine (Writable.declare isName writable).delimited_of_kind fun s' h' kinds r r' => ?_
    cases h' with
    | @declare name' initial' isName' writable' =>
      -- An initial value has the line of its part to itself, and one that is missing fills it.
      cases initial <;> cases initial'
      case some.some =>
        simp only [outline, atEnds, List.cons_append, List.cons.injEq, true_and, Option.map_some,
          tokenPart_inj isName isName', (writable _ rfl).outline_append_inj (writable' _ rfl),
          Stmt.declare.injEq, Option.some.injEq, and_assoc]
      all_goals simp [outline, atEnds, missingPart, tokenPart_inj isName isName']
    | block | expression | print | branch | choice | loop => simp [kindName] at kinds
  | branch condition declared consequent ih =>
    refine (Writable.branch condition declared consequent).delimited_of_kind fun s' h' kinds r r' => ?_
    cases h' with
    | branch condition' _ consequent' =>
      simp only [outline, atEnds, List.cons_append, List.append_assoc, List.nil_append, List.cons.injEq,
        true_and, condition.outline_append_inj condition', ih (level + 2) _ consequent', Stmt.branch.injEq,
        and_true, and_assoc]
    | choice condition' _ consequent' =>
      simp [outline, atEnds, missingPart, condition.outline_append_inj condition',
        ih (level + 2) _ consequent']
    | block | expression | print | declare | loop => simp [kindName] at kinds
  | choice condition declared consequent closed declared' alternative ih ih' =>
    refine (Writable.choice condition declared consequent closed declared' alternative).delimited_of_kind
      fun s' h' kinds r r' => ?_
    cases h' with
    | branch condition' _ consequent' =>
      simp [outline, atEnds, missingPart, condition.outline_append_inj condition',
        ih (level + 2) _ consequent']
    | choice condition' _ consequent' _ _ alternative' =>
      simp only [outline, atEnds, List.cons_append, List.append_assoc, List.cons.injEq, true_and,
        condition.outline_append_inj condition', ih (level + 2) _ consequent',
        ih' (level + 2) _ alternative', Stmt.branch.injEq, Option.some.injEq, and_assoc]
    | block | expression | print | declare | loop => simp [kindName] at kinds
  | loop condition declared body ih =>
    refine (Writable.loop condition declared body).delimited_of_kind fun s' h' kinds r r' => ?_
    cases h' with
    | loop condition' _ body' =>
      simp only [outline, atEnds, List.cons_append, List.append_assoc, List.cons.injEq, true_and,
        condition.outline_append_inj condition', ih (level + 2) _ body', Stmt.loop.injEq, and_assoc]
    | block | expression | print | declare | branch | choice => simp [kindName] at kinds

end Stmt

/-! ## Lines of an outline -/

/-- The line of a name is a line, since a name has no newline. -/
theorem isLine_tokenPart {part : String} (h : IsLine part) {name : Token} (isName : name.word.IsName)
    (level : Nat) : IsLine (tokenPart level part name) := by
  have listing : '\n' ∉ name.listing.toList := by
    rw [isName.listing_eq]
    simp
  exact .line ((((h.append (by decide)).append listing).append (by decide)).append
    (Position.newline_notMem_lineColumn _)) _

/-- The line of an operator is one. -/
theorem isLine_operatorPart (o : Operator) (level : Nat) : IsLine (operatorPart level o) := by
  have start : IsLine "operator: '" := by decide
  have spelling : '\n' ∉ o.symbol.spelling.toList := by cases o.symbol <;> decide
  exact .line (((start.append spelling).append (by decide)).append (Position.newline_notMem_lineColumn _)) _

/-- **Each line of the outline of an expression is one line.** -/
theorem Expr.Writable.isLine {e : Expr} (h : e.Writable) (level : Nat) : ∀ l ∈ e.outline level, IsLine l := by
  -- By induction on the expression, each part of which is outlined on lines of its own.
  induction h generalizing level with
  | assign isName _ ih =>
    simp only [Expr.outline, List.forall_mem_cons]
    exact ⟨.line (by decide) _, isLine_tokenPart (by decide) isName _, .line (by decide) _, ih _⟩
  | binary _ _ _ _ _ ihl ihr =>
    simp only [Expr.outline, List.forall_mem_cons, List.forall_mem_append]
    exact ⟨.line (by decide) _, .line (by decide) _, ihl _, isLine_operatorPart _ _, .line (by decide) _, ihr _⟩
  | grouping _ ih =>
    simp only [Expr.outline, List.forall_mem_cons]
    exact ⟨.line (by decide) _, .line (by decide) _, ih _⟩
  | @literal value =>
    have start : IsLine "value: " := by decide
    simp only [Expr.outline, List.forall_mem_cons]
    exact ⟨.line (by decide) _, .line (start.append value.newline_notMem_listing) _, nofun⟩
  | unary _ _ _ ih =>
    simp only [Expr.outline, List.forall_mem_cons]
    exact ⟨.line (by decide) _, isLine_operatorPart _ _, .line (by decide) _, ih _⟩
  | reference isName =>
    simp only [Expr.outline, List.forall_mem_cons]
    exact ⟨.line (by decide) _, isLine_tokenPart (by decide) isName _, nofun⟩

namespace Stmt

/-- The lines of statements are lines if those of each are. -/
theorem isLine_outlines {ss : List Stmt} {level : Nat} (each : ∀ s ∈ ss, ∀ l ∈ s.outline level, IsLine l) :
    ∀ l ∈ outlines level ss, IsLine l := by
  induction ss with
  | nil => exact nofun
  | cons s rest ih =>
    rw [outlines, List.forall_mem_append]
    exact ⟨each s (List.mem_cons_self ..), ih fun t mem => each t (List.mem_cons_of_mem _ mem)⟩

/-- **Each line of the outline of a statement is one line.** -/
theorem Writable.isLine {s : Stmt} (h : s.Writable) (level : Nat) : ∀ l ∈ s.outline level, IsLine l := by
  -- A line is a fixed text, a name or an operator, none of which has a newline, behind an indentation.
  induction h generalizing level with
  | block _ ih =>
    simp only [outline, List.forall_mem_cons, List.forall_mem_append]
    exact ⟨.line (by decide) _, .line (by decide) _, isLine_outlines fun s mem => ih s mem _,
      .line (by decide) _, nofun⟩
  | expression writable | print writable =>
    simp only [outline, List.forall_mem_cons]
    exact ⟨.line (by decide) _, .line (by decide) _, writable.isLine _⟩
  | @declare _ initial isName writable =>
    cases initial with
    | none =>
      simp only [outline, List.forall_mem_cons]
      exact ⟨.line (by decide) _, isLine_tokenPart (by decide) isName _, .line (by decide) _, nofun⟩
    | some e =>
      simp only [outline, List.forall_mem_cons]
      exact ⟨.line (by decide) _, isLine_tokenPart (by decide) isName _, .line (by decide) _,
        (writable e rfl).isLine _⟩
  | branch condition _ _ ih =>
    simp only [outline, List.forall_mem_cons, List.forall_mem_append]
    exact ⟨.line (by decide) _, .line (by decide) _, condition.isLine _, .line (by decide) _, ih _,
      .line (by decide) _, nofun⟩
  | choice condition _ _ _ _ _ ih ih' =>
    simp only [outline, List.forall_mem_cons, List.forall_mem_append]
    exact ⟨.line (by decide) _, .line (by decide) _, condition.isLine _, .line (by decide) _, ih _,
      .line (by decide) _, ih' _⟩
  | loop condition _ _ ih =>
    simp only [outline, List.forall_mem_cons, List.forall_mem_append]
    exact ⟨.line (by decide) _, .line (by decide) _, condition.isLine _, .line (by decide) _, ih _⟩

end Stmt

/-! ## The result -/

/-- **Outlines of programs that can be written are unambiguous.** -/
theorem programOutline_inj {p q : List Stmt} (hp : ∀ s ∈ p, s.Writable) (hq : ∀ s ∈ q, s.Writable) :
    programOutline p = programOutline q ↔ p.map Stmt.atEnds = q.map Stmt.atEnds := by
  have lines {ss : List Stmt} (h : ∀ s ∈ ss, s.Writable) : ∀ l ∈ Stmt.outlines 0 ss, IsLine l :=
    Stmt.isLine_outlines fun s mem => (h s mem).isLine 0
  have trees := Stmt.outlines_append_inj hp (fun s mem => (hp s mem).delimited 0) hq
    (Stmt.closes_nil 0) (Stmt.closes_nil 0)
  -- Nothing follows the statements of a program.
  rw [List.append_nil, List.append_nil] at trees
  rw [programOutline, programOutline, Lines.intercalate_inj (lines hp) (lines hq), trees]
  simp only [and_true]

/-- Tokens that are **cut from sources**: each is a token of some source, in some file. -/
def CutFromSources (tokens : List Token) : Prop := ∀ t ∈ tokens, ∃ source file, .ok t ∈ scan source file

/-- The tokens of a source are cut from sources. -/
theorem cutFromSources_of_tokenize {source : String} {file : Option String} {tokens : List Token}
    (h : tokenize source file = .ok tokens) : CutFromSources tokens := by
  intro t mem
  refine ⟨source, file, ?_⟩
  rw [tokenize_eq_ok_iff.mp h]
  exact List.mem_map_of_mem mem

/-- Tokens that are cut from sources are spelled as their words are. -/
theorem CutFromSources.allSpelled {tokens : List Token} (h : CutFromSources tokens) :
    Grammar.AllSpelled tokens := by
  intro t mem
  obtain ⟨source, file, scanned⟩ := h t mem
  obtain ⟨s, after, -, step⟩ := Scanner.step_of_mem_scan scanned
  obtain ⟨first, more, left, -, -, -, yields⟩ := Scanner.step?_cases step
  rcases Scanner.yield?_cases yields.symm with ⟨kind, datum, shape, same⟩ | ⟨cause, shape, same⟩
  · cases same
    exact Lexeme.cut_spelled shape
  · cases same

/-- **Outlines are unambiguous.** Programs that are read from tokens of sources have the same outline iff
they are the same trees with their names at their ends: the same kinds of nodes in the same order and
nesting, with the same literal values, names and operators, the same parts missing, and each name and
operator on the same line and column. -/
theorem programOutline_eq_iff {tokens tokens' : List Token} {known known' : Option String} {p q : List Stmt}
    (cut : CutFromSources tokens) (cut' : CutFromSources tokens')
    (parsed : parse tokens known = .ok p) (parsed' : parse tokens' known' = .ok q) :
    programOutline p = programOutline q ↔ p.map Stmt.atEnds = q.map Stmt.atEnds :=
  programOutline_inj ((Grammar.derives_of_parse parsed).writable cut.allSpelled)
    ((Grammar.derives_of_parse parsed').writable cut'.allSpelled)

/-- The program `x;` on the second line, behind an empty line and behind a comment, in different files: the
trees are not the same, but they are at the ends of their tokens, and have one outline. -/
theorem programOutline_eq_behind_comment :
    let name (offset : Int) (file : Option String) : Token :=
      ⟨.identifier, some (.text "x"), "x", .single ⟨2, 1, offset, file⟩⟩
    let tokens (offset : Int) (file : Option String) : List Token :=
      [name offset file, ⟨.semicolon, none, ";", .single ⟨2, 2, offset + 1, file⟩⟩]
    let program (offset : Int) (file : Option String) : List Stmt :=
      [.expression (.reference (name offset file))]
    tokenize "\nx;" none = .ok (tokens 1 none) ∧ parse (tokens 1 none) none = .ok (program 1 none) ∧
      tokenize "//\nx;" (some "f") = .ok (tokens 3 (some "f")) ∧
      parse (tokens 3 (some "f")) none = .ok (program 3 (some "f")) ∧ program 1 none ≠ program 3 (some "f") ∧
      programOutline (program 1 none) = programOutline (program 3 (some "f")) := by
  intro name tokens program
  have scanned : tokenize "\nx;" none = .ok (tokens 1 none) := by decide +kernel
  have scanned' : tokenize "//\nx;" (some "f") = .ok (tokens 3 (some "f")) := by decide +kernel
  have parsed : parse (tokens 1 none) none = .ok (program 1 none) := by cbv
  have parsed' : parse (tokens 3 (some "f")) none = .ok (program 3 (some "f")) := by cbv
  have outlines := programOutline_eq_iff (cutFromSources_of_tokenize scanned)
    (cutFromSources_of_tokenize scanned') parsed parsed'
  refine ⟨scanned, parsed, scanned', parsed', ?_, outlines.mpr rfl⟩
  intro same
  cases same

end LoxScript
