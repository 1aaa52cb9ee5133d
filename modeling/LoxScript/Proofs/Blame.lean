import LoxScript.Proofs.Grammar.Derivation
import LoxScript.Proofs.Interpreting

/-! # What a running program is blamed for

The faults of a running program are about its tokens: a name that a token of it spells, or an operator that
a token of it writes.

* **`Expr.WrittenIn`**, **`Stmt.WrittenIn`** — trees that have their names and operators from some tokens, as
  the grammar gives them (`Derives.Declarations.writtenIn`).
* **`RuntimeCause.WrittenIn`** — causes that have their name or operator from there.
* **`Expr.WrittenIn.evaluate`**, **`Stmt.WrittenIn.execute`** — such trees stop for such causes only.
* **`writtenIn_of_runAll`** — so do whole programs. -/

namespace LoxScript

variable {tokens : List Token}

/-! ## Trees written in tokens -/

/-- An operator is written in tokens if one of them writes it. -/
def Operator.WrittenIn (tokens : List Token) (o : Operator) : Prop := ∃ t ∈ tokens, ofToken? t = some o

/-- **An expression is written in tokens** if its names and operators are. -/
inductive Expr.WrittenIn (tokens : List Token) : Expr → Prop
  | assign {name : Token} {value : Expr} :
      name ∈ tokens → WrittenIn tokens value → WrittenIn tokens (.assign name value)
  | binary {left right : Expr} {o : Operator} :
      WrittenIn tokens left → o.WrittenIn tokens → WrittenIn tokens right →
      WrittenIn tokens (.binary left o right)
  | grouping {inner : Expr} : WrittenIn tokens inner → WrittenIn tokens (.grouping inner)
  | literal {value : Value} : WrittenIn tokens (.literal value)
  | unary {o : Operator} {operand : Expr} :
      o.WrittenIn tokens → WrittenIn tokens operand → WrittenIn tokens (.unary o operand)
  | reference {name : Token} : name ∈ tokens → WrittenIn tokens (.reference name)

/-- **A statement is written in tokens** if all of its parts are. -/
inductive Stmt.WrittenIn (tokens : List Token) : Stmt → Prop
  | block {ss : List Stmt} : (∀ s ∈ ss, WrittenIn tokens s) → WrittenIn tokens (.block ss)
  | expression {e : Expr} : e.WrittenIn tokens → WrittenIn tokens (.expression e)
  | print {e : Expr} : e.WrittenIn tokens → WrittenIn tokens (.print e)
  | declare {name : Token} {initial : Option Expr} :
      name ∈ tokens → (∀ e ∈ initial, e.WrittenIn tokens) → WrittenIn tokens (.declare name initial)
  | branch {condition : Expr} {consequent : Stmt} {alternative : Option Stmt} :
      condition.WrittenIn tokens → WrittenIn tokens consequent →
      (∀ s ∈ alternative, WrittenIn tokens s) →
      WrittenIn tokens (.branch condition consequent alternative)
  | loop {condition : Expr} {body : Stmt} :
      condition.WrittenIn tokens → WrittenIn tokens body → WrittenIn tokens (.loop condition body)

/-! ## Programs -/

namespace Grammar

/-- The tokens of a phrase are among those of a program. -/
def Among (tokens ts : List Token) : Prop := ∀ t ∈ ts, t ∈ tokens

namespace Among

variable {t : Token} {ts us : List Token}

/-- The first of tokens among those of the source is one of them. -/
theorem head (h : Among tokens (t :: ts)) : t ∈ tokens := h t (List.mem_cons_self ..)

/-- All but the first are among them too. -/
theorem tail (h : Among tokens (t :: ts)) : Among tokens ts := fun u mem => h u (List.mem_cons_of_mem _ mem)

/-- A beginning of tokens among those of the source is among them. -/
theorem left (h : Among tokens (ts ++ us)) : Among tokens ts := fun u mem => h u (List.mem_append_left _ mem)

/-- So is an end of them. -/
theorem right (h : Among tokens (ts ++ us)) : Among tokens us :=
  fun u mem => h u (List.mem_append_right _ mem)

end Among

/-- A token that joins operands writes the operator. -/
theorem Joins.ofToken? {level : Nat} {t : Token} {symbol : Symbol} (h : Joins level t.kind symbol) :
    Operator.ofToken? t = some ⟨symbol, t.line, t.column⟩ := by
  rw [Operator.ofToken?]
  generalize t.kind = kind at h
  cases h <;> rfl

/-- A block is written in tokens if its statements are. -/
theorem writtenIn_block (ss : List Stmt) :
    (Stmt.block ss).WrittenIn tokens ↔ ∀ s ∈ ss, s.WrittenIn tokens := by
  constructor
  · intro written
    cases written with
    | block each => exact each
  · exact .block

namespace Derives

mutual

/-- **The expression for some tokens is written in them.** -/
theorem Expression.writtenIn : ∀ {ts : List Token} {e : Expr}, Expression ts e → Among tokens ts →
    e.WrittenIn tokens
  | _, _, .operand h, among => h.writtenIn among
  | _, _, .assign _ _ h, among => .assign among.head (h.writtenIn among.tail.tail)

/-- An operand is written in the tokens it is read from: each operator is one of them. -/
theorem Operand.writtenIn : ∀ {level : Nat} {ts : List Token} {e : Expr}, Operand level ts e →
    Among tokens ts → e.WrittenIn tokens
  | _, _, _, .tighter h, among => h.writtenIn among
  | _, _, _, .join hl joins hr, among =>
    .binary (hl.writtenIn among.left) ⟨_, among.right.head, joins.ofToken?⟩ (hr.writtenIn among.right.tail)
  | _, _, _, .prefixed h, among => h.writtenIn among

/-- An operand with its prefixes. -/
theorem Prefixed.writtenIn : ∀ {ts : List Token} {e : Expr}, Prefixed ts e → Among tokens ts →
    e.WrittenIn tokens
  | _, _, .not kind h, among =>
    .unary ⟨_, among.head, by rw [Operator.ofToken?, kind]; rfl⟩ (h.writtenIn among.tail)
  | _, _, .negative kind h, among =>
    .unary ⟨_, among.head, by rw [Operator.ofToken?, kind]; rfl⟩ (h.writtenIn among.tail)
  | _, _, .primary h, among => h.writtenIn among

/-- A primary: only names and groupings take anything from their tokens. -/
theorem Primary.writtenIn : ∀ {ts : List Token} {e : Expr}, Primary ts e → Among tokens ts →
    e.WrittenIn tokens
  | _, _, .number _ _, _ => .literal
  | _, _, .text _, _ => .literal
  | _, _, .trueWord _, _ => .literal
  | _, _, .falseWord _, _ => .literal
  | _, _, .nilWord _, _ => .literal
  | _, _, .name _, among => .reference among.head
  | _, _, .grouping _ h _, among => .grouping (h.writtenIn among.tail.left)

end

/-- A declaration of a variable, with or without an initial value. -/
theorem Variable.writtenIn {ts : List Token} {s : Stmt} (h : Variable ts s) (among : Among tokens ts) :
    s.WrittenIn tokens := by
  cases h with
  | bare => exact .declare among.tail.head nofun
  | initialized _ _ _ he =>
    refine .declare among.tail.head fun e mem => ?_
    cases mem
    exact he.writtenIn among.tail.tail.tail.left

/-- A condition in parentheses. -/
theorem Condition.writtenIn {ts : List Token} {e : Expr} (h : Condition ts e) (among : Among tokens ts) :
    e.WrittenIn tokens := by
  cases h with
  | mk _ he => exact he.writtenIn among.tail.left

/-- The first clause of a counting loop, if it is there. -/
theorem Initial.writtenIn {ts : List Token} {initial : Option Stmt} (h : Initial ts initial)
    (among : Among tokens ts) : ∀ s ∈ initial, s.WrittenIn tokens := by
  intro s mem
  cases h with
  | absent => cases mem
  | var h =>
    cases mem
    exact h.writtenIn among
  | expression h =>
    cases mem
    exact .expression (h.writtenIn among.left)

/-- Its second or third clause, if it is there. -/
theorem Clause.writtenIn {ts : List Token} {clause : Option Expr} (h : Clause ts clause)
    (among : Among tokens ts) : ∀ e ∈ clause, e.WrittenIn tokens := by
  intro e mem
  cases h with
  | absent => cases mem
  | present h =>
    cases mem
    exact h.writtenIn among

mutual

/-- **The statement for some tokens is written in them.** -/
theorem Statement.writtenIn : ∀ {isOpen : Bool} {ts : List Token} {s : Stmt}, Statement isOpen ts s →
    Among tokens ts → s.WrittenIn tokens
  | _, _, _, .expression h _, among => .expression (h.writtenIn among.left)
  | _, _, _, .print _ h _, among => .print (h.writtenIn among.tail.left)
  | _, _, _, .block _ h _, among => .block (h.writtenIn among.tail.left)
  | _, _, _, .branch _ hc h, among =>
    .branch (hc.writtenIn among.tail.left) (h.writtenIn among.tail.right) nofun
  | _, _, _, .choice _ hc h _ ha, among => by
    have alternative := ha.writtenIn among.tail.right.right.tail
    refine .branch (hc.writtenIn among.tail.left) (h.writtenIn among.tail.right.left) fun s mem => ?_
    cases mem
    exact alternative
  | _, _, _, .loop _ hc h, among => .loop (hc.writtenIn among.tail.left) (h.writtenIn among.tail.right)
  | _, _, _, .counting _ _ hi hc _ hn _ h extended, among => by
    -- A counting loop is the block it stands for, made of the parts that were read.
    have body := h.writtenIn among.tail.tail.right.right.tail.right.tail
    have condition := hc.writtenIn among.tail.tail.right.left
    have increment := hn.writtenIn among.tail.tail.right.right.tail.left
    refine .block fun s mem => ?_
    rcases List.mem_append.mp mem with mem | mem
    · exact hi.writtenIn among.tail.tail.left s (Option.mem_toList.mp mem)
    · rw [List.mem_singleton.mp mem]
      refine .loop ?_ (extended.keeps writtenIn_block body fun e mem => .expression (increment e mem))
      cases hc with
      | absent => exact .literal
      | present _ => exact condition _ rfl

/-- A declaration: of a variable, or a statement. -/
theorem Declaration.writtenIn : ∀ {ts : List Token} {s : Stmt}, Declaration ts s → Among tokens ts →
    s.WrittenIn tokens
  | _, _, .var h, among => h.writtenIn among
  | _, _, .statement h, among => h.writtenIn among

/-- Declarations one after another, each from tokens of its own. -/
theorem Declarations.writtenIn : ∀ {ts : List Token} {ss : List Stmt}, Declarations ts ss →
    Among tokens ts → ∀ s ∈ ss, s.WrittenIn tokens
  | _, _, .nil, _ => fun _ mem => by cases mem
  | _, _, .cons h hs, among => by
    have first := h.writtenIn among.left
    have others := hs.writtenIn among.right
    intro s mem
    rcases List.mem_cons.mp mem with rfl | mem
    · exact first
    · exact others s mem

end

end Derives

end Grammar

/-! ## Running -/

/-- **A cause is written in tokens** if it is about a name that one of them spells, or about an operator
that one of them writes. -/
inductive RuntimeCause.WrittenIn (tokens : List Token) : RuntimeCause → Prop
  | alreadyDefined {t : Token} : t ∈ tokens → WrittenIn tokens (.alreadyDefined t.lexeme t)
  | undefined {t : Token} : t ∈ tokens → WrittenIn tokens (.undefined t.lexeme t)
  | notAssignable {t : Token} : t ∈ tokens → WrittenIn tokens (.notAssignable t)
  | invalidOperands {o : Operator} : o.WrittenIn tokens → WrittenIn tokens (.invalidOperands o)
  | invalidUnary {o : Operator} : o.WrittenIn tokens → WrittenIn tokens (.invalidUnary o)
  | invalidOperand {o : Operator} {v : Value} : o.WrittenIn tokens → WrittenIn tokens (.invalidOperand o v)

/-- A program stops with a fault for such a cause, at the place of that and with no line quoted,
or the run ends. -/
inductive Stop.WrittenIn (tokens : List Token) : Stop → Prop
  | cause {c : RuntimeCause} : c.WrittenIn tokens → WrittenIn tokens (.cause c)
  | halt {h : Halt} : WrittenIn tokens (.halt h)

/-- A fault of an operator that joins operands is written in the source that the operator is written in. -/
theorem Operator.WrittenIn.join {o : Operator} (h : o.WrittenIn tokens) {left right : Value} {stop : Stop}
    (stops : o.join left right = .error stop) : stop.WrittenIn tokens :=
  join_stops (.cause (.invalidOperands h)) (fun _ => .halt) (fun _ => .halt) stops

/-- **An expression that is written in tokens** stops for a cause that is. -/
theorem Expr.WrittenIn.evaluate {e : Expr} (h : e.WrittenIn tokens) (env : Environment) :
    Outcome.Stops (Stop.WrittenIn tokens) (e.evaluate env) := by
  -- By induction on the expression: every cause names a token or an operator that was read from one.
  induction h generalizing env with
  | @assign name value mem _ ih =>
    rw [evaluate_assign]
    split
    · exact (ih env).bind fun v env₁ =>
        (assign_stops (.cause (.undefined mem)) v env₁).bind fun _ env₂ => .ok v env₂
    · exact .error (.cause (.notAssignable mem)) env
  | binary _ ho _ ihl ihr =>
    rw [evaluate_binary]
    refine (ihl env).bind fun l env₁ => (ihr env₁).bind fun r env₂ => ?_
    exact .settle (fun stop stops => ho.join stops) env₂
  | grouping _ ih =>
    rw [evaluate_grouping]
    exact ih env
  | literal =>
    rw [evaluate_literal]
    exact .ok _ env
  | unary ho _ ih =>
    rw [evaluate_unary]
    split
    · refine (ih env).bind fun v env₁ => ?_
      exact .settle (fun stop stops => negate_stops (fun v => .cause (.invalidOperand ho)) stops) env₁
    · exact (ih env).bind fun v env₁ => .ok _ env₁
    · exact .error (.cause (.invalidUnary ho)) env
  | reference mem =>
    rw [evaluate_reference]
    exact lookup_stops (.cause (.undefined mem)) env

/-- Closing a scope passes the reason to stop on, or the run ends. -/
theorem Execution.closeScope_writtenIn {o : EStateM.Result Stop World Unit}
    (h : Outcome.Stops (Stop.WrittenIn tokens) o) : Outcome.Stops (Stop.WrittenIn tokens) (closeScope o) := by
  have defect : (Stop.defect .globalExit).WrittenIn tokens := .halt
  cases o with
  | ok _ w =>
    rw [closeScope]
    cases w.environment.exit with
    | ok env => exact .ok () _
    | error fault => exact .error defect w
  | error stop w =>
    rw [closeScope]
    cases w.environment.exit with
    | ok env => exact .error (h stop w rfl) _
    | error fault => exact .error defect w

/-- **A statement that is written in tokens** stops for a cause that is. -/
theorem Stmt.WrittenIn.execute {s : Stmt} (h : s.WrittenIn tokens) (passes : Nat) (w : World) :
    Outcome.Stops (Stop.WrittenIn tokens) (s.execute passes w) := by
  -- By induction on the statement: each way to stop is one of a part, or of the name declared.
  induction h generalizing w with
  | block _ ih =>
    rw [execute_block]
    exact Execution.closeScope_writtenIn (executeAll_stops ih _)
  | expression he =>
    rw [execute_expression]
    exact (ofEvaluation_stops he.evaluate w).bind fun _ w₁ => .ok () w₁
  | print he =>
    rw [execute_print]
    exact (ofEvaluation_stops he.evaluate w).bind fun _ w₁ => .ok () _
  | @declare name initial mem hi =>
    rw [execute_declare]
    have defines := define_stops (Stop.WrittenIn.cause (.alreadyDefined mem))
    refine Outcome.Stops.bind ?_ fun v w₁ => ofEvaluation_stops (defines v) w₁
    cases initial with
    | none => exact .ok _ _
    | some e => exact ofEvaluation_stops (hi e rfl).evaluate w
  | @branch condition consequent alternative hc _ _ ih ih' =>
    rw [execute_branch]
    refine (test_stops hc.evaluate w).bind fun holds w₁ => ?_
    cases holds with
    | true => exact ih w₁
    | false =>
      cases alternative with
      | none => exact .ok () w₁
      | some a => exact ih' a rfl w₁
  | loop hc _ ih =>
    rw [execute_loop]
    exact whileTrue_stops .halt (test_stops hc.evaluate) ih passes w

/-- **The faults of a program are about its tokens**: each has a cause that is written in them, stands at the
place of this cause, and quotes no line itself. -/
theorem writtenIn_of_runAll {program : List Stmt} (derives : Grammar.Derives.Declarations tokens program)
    (passes : Nat) (w : World) :
    ∀ fault ∈ (Outcome.state (Stmt.runAll passes program w)).2,
      fault.cause.WrittenIn tokens ∧ fault = ⟨fault.cause, fault.cause.span, none⟩ := by
  intro fault mem
  have each : ∀ s ∈ program, s.WrittenIn tokens := derives.writtenIn fun t mem => mem
  obtain ⟨-, faults⟩ := Stmt.runAll_stops (fun s mem => (each s mem).execute passes) w
  cases faults fault mem with
  | cause written => exact ⟨written, rfl⟩

end LoxScript
