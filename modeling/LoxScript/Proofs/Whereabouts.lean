import LoxScript.Proofs.Blame
import LoxScript.Proofs.Reports
import LoxScript.Proofs.Scanning.Beginnings

/-! # The places of faults

A fault is about a lexeme of the source, or about its end, and it should begin where that does. All faults
do but those of operators: an operator keeps only the line and the column of its last character.

* **`Cause.About`** — the offset at which the lexeme begins that a cause is about.
* **`Operator.WrittenIn.position_eq`** — what is left of the place of an operator.
* **`Session.Reported.place`** — where a reported fault begins.
* **`runSource_places`** — the result, and **`runSource_places_operator`** — a fault that begins elsewhere. -/

namespace LoxScript

/-! ## What causes are about -/

/-- The token that a cause carries. -/
def Cause.token? : Cause → Option Token
  | grammatical (.notAnOperator t) | grammatical (.expectedExpression t) | grammatical (.invalidTarget t) =>
    some t
  | grammatical (.missing _ found) => found
  | runtime (.alreadyDefined _ t) | runtime (.undefined _ t) | runtime (.notAssignable t) => some t
  | _ => none

/-- The operator that a cause carries. -/
def Cause.operator? : Cause → Option Operator
  | runtime (.invalidOperands o) | runtime (.invalidUnary o) | runtime (.invalidOperand o _) => some o
  | _ => none

/-- **The end of the input** is just behind the last token. -/
def IsEnd (source : String) (file : Option String) (offset : Nat) : Prop :=
  ∃ tokens last first, scan source file = (tokens ++ [last]).map .ok ∧ last.BeginsAt source file first ∧
    offset = first + last.lexeme.toList.length

/-- **What a cause is about**: the lexeme that is no token, the token that it carries, the token that writes
its operator, the word of the loop, or the end of the input. It begins at the offset. -/
inductive Cause.About (source : String) (file : Option String) : Cause → Nat → Prop
  /-- The character or the literal that is no token. -/
  | lexeme {c : LexicalCause} {chars : List Char} {offset : Nat} :
      Lexeme.MetAt source file offset ⟨.fault c, chars⟩ → About source file (.lexical c) offset
  /-- The token that is carried. -/
  | token {cause : Cause} {t : Token} {offset : Nat} :
      cause.token? = some t → t.BeginsAt source file offset → About source file cause offset
  /-- The token that writes the operator which is carried. -/
  | operator {cause : Cause} {o : Operator} {t : Token} {offset : Nat} :
      cause.operator? = some o → Operator.ofToken? t = some o → t.BeginsAt source file offset →
      About source file cause offset
  /-- The first word of a counting loop of the source that is refused. -/
  | loop {refused : LoopBody} {before loop after : List Token} {t : Token} {offset : Nat} :
      scan source file = (before ++ t :: (loop ++ after)).map .ok → Grammar.RefusedLoop (t :: loop) refused →
      t.BeginsAt source file offset → About source file (.grammatical (.loopBody refused)) offset
  /-- The end, in place of a phrase. -/
  | ended {expected : Expectation} {offset : Nat} :
      IsEnd source file offset → About source file (.grammatical (.unexpectedEnd expected)) offset
  /-- The end, in place of a required token. -/
  | cut {required : Requirement} {offset : Nat} :
      IsEnd source file offset → About source file (.grammatical (.missing required none)) offset

/-! ## The places of tokens and operators -/

/-- The characters of an operator are the spelling of its symbol. -/
theorem Lexeme.Reads.eq_spelling {chars : List Char} {kind : Kind} {datum : Option Datum} {symbol : Symbol}
    (h : Reads chars (.token kind datum)) (writes : Symbol.ofKind? kind = some symbol) :
    chars = symbol.spelling.toList := by
  cases h with
  | mark mem =>
    have each : ∀ entry ∈ Kind.marks, ∀ symbol ∈ Symbol.ofKind? entry.2, entry.1 = symbol.spelling := by decide
    exact congrArg String.toList (each _ mem symbol writes)
  | keyword _ mem =>
    have each : ∀ entry ∈ Kind.keywords, Symbol.ofKind? entry.2 = none := by decide
    cases (each _ mem).symm.trans writes
  | string | number | name => cases writes

section

variable {source : String} {file : Option String} {tokens : List Token}
  (scanned : scan source file = tokens.map .ok)

include scanned

/-- A token of a source begins at an offset of the source, and its span says so. -/
theorem beginsAt_of_mem {t : Token} (mem : t ∈ tokens) :
    ∃ offset, t.BeginsAt source file offset ∧ t.span.start = .ofOffset source file offset := by
  obtain ⟨offset, begins⟩ := exists_beginsAt (scanned ▸ List.mem_map_of_mem mem)
  obtain ⟨last, -, span, -⟩ := begins.span
  exact ⟨offset, begins, congrArg Span.start span⟩

/-- Faults at the end begin just behind the last token. -/
theorem isEnd_endSpan (some_token : tokens ≠ []) :
    ∃ offset, IsEnd source file offset ∧
      (Grammar.endSpan tokens).start = .ofOffset source file offset := by
  -- The end is the place behind the last character of the last token, which is no newline.
  obtain ⟨init, t, rfl⟩ := List.eq_nil_or_concat' tokens |>.resolve_left some_token
  obtain ⟨first, begins, -⟩ := beginsAt_of_mem scanned (List.mem_append_right init (List.mem_singleton_self t))
  obtain ⟨last, length, span, c, at_last, inner⟩ := begins.span
  refine ⟨last + 1, ⟨init, t, first, scanned, begins, length.symm⟩, ?_⟩
  rw [Grammar.endSpan, List.getLast?_concat, ← Position.next_ofOffset at_last inner.1]
  show t.span.stop.next = _
  rw [span]

/-- **What is left of the place of an operator**: the line and the column of its last character, but neither
the offset nor the file. -/
theorem Operator.WrittenIn.position_eq {o : Operator} (h : o.WrittenIn tokens) :
    ∃ t offset, ofToken? t = some o ∧ t.BeginsAt source file offset ∧
      o.position = { Position.ofOffset source file (offset + o.symbol.spelling.length - 1) with
        offset := 0, file := none } := by
  obtain ⟨t, mem, writes⟩ := h
  obtain ⟨offset, begins, -⟩ := beginsAt_of_mem scanned mem
  obtain ⟨last, length, span, -⟩ := begins.span
  refine ⟨t, offset, writes, begins, ?_⟩
  obtain ⟨symbol, kind, rfl⟩ := Option.map_eq_some_iff.mp writes
  rw [begins.met.reads.eq_spelling kind] at length
  have last_eq : offset + symbol.spelling.length - 1 = last := by
    rw [← String.length_toList, length, Nat.add_sub_cancel]
  rw [last_eq, position, Token.line, Token.column, span]

end

/-! ## The places of reported faults -/

/-- **Where a fault begins** that has its cause at an offset: at the character there. But a fault of an
operator begins at the last character of that, and neither offset nor file is kept. -/
def Cause.place (cause : Cause) (source : String) (file : Option String) (offset : Nat) : Position :=
  match cause.operator? with
  | none => .ofOffset source file offset
  | some o =>
    { Position.ofOffset source file (offset + o.symbol.spelling.length - 1) with offset := 0, file := none }

namespace Session.Reported

variable {passes : Nat} {source : String} {file : Option String} {w : World} {tokens left : List Token}

/-- A fault of scanning begins with its lexeme. -/
theorem place_lexical {fault : Fault LexicalCause} (mem : .error fault ∈ scan source file) :
    ∃ offset, (Cause.lexical fault.cause).About source file offset ∧
      fault.span.start = .ofOffset source file offset := by
  obtain ⟨offset, ⟨shape, chars⟩, met, gives, start⟩ := Scanner.exists_metAt mem
  obtain rfl : shape = .fault fault.cause := gives
  exact ⟨offset, .lexeme met, start⟩

/-- A fault of reading begins with the token that it is about, or at the end. -/
theorem place_grammatical {fault : Fault SyntaxCause} (scanned : scan source file = tokens.map .ok)
    (some_token : tokens ≠ []) (refused : Grammar.Refused (Grammar.endSpan tokens) tokens fault left) :
    ∃ offset, (Cause.grammatical fault.cause).About source file offset ∧
      fault.span.start = .ofOffset source file offset := by
  have atEnd := isEnd_endSpan scanned some_token
  have atToken {t : Token} {rest : List Token} (at_ : t :: rest <:+ tokens) :=
    beginsAt_of_mem scanned (at_.subset (List.mem_cons_self ..))
  -- A fault is about the end of the tokens, about a token ahead, or about the word of a loop.
  cases refused with
  | ended expected =>
    obtain ⟨offset, isEnd, start⟩ := atEnd
    exact ⟨offset, .ended isEnd, start⟩
  | cut required =>
    obtain ⟨offset, isEnd, start⟩ := atEnd
    exact ⟨offset, .cut isEnd, start⟩
  | other at_ | noExpression at_ | target at_ =>
    obtain ⟨offset, begins, start⟩ := atToken at_
    exact ⟨offset, .token rfl begins, start⟩
  | body at_ loop =>
    obtain ⟨offset, begins, start⟩ := atToken at_
    obtain ⟨before, rfl⟩ := at_
    exact ⟨offset, .loop scanned loop begins, start⟩

/-- A fault of running begins with the name that it is about, or with the operator as far as that is known. -/
theorem place_runtime {c : RuntimeCause} (scanned : scan source file = tokens.map .ok)
    (written : c.WrittenIn tokens) :
    ∃ offset, (Cause.runtime c).About source file offset ∧
      c.span.start = (Cause.runtime c).place source file offset := by
  cases written with
  | alreadyDefined mem | undefined mem | notAssignable mem =>
    obtain ⟨offset, begins, start⟩ := beginsAt_of_mem scanned mem
    exact ⟨offset, .token rfl begins, start⟩
  | invalidOperands h | invalidUnary h | invalidOperand h =>
    obtain ⟨t, offset, writes, begins, position⟩ := h.position_eq scanned
    exact ⟨offset, .operator rfl writes begins, position⟩

/-- **Where a reported fault begins.** -/
theorem place {fault : Fault Cause} (h : Reported passes source file w fault) :
    ∃ offset, fault.cause.About source file offset ∧
      fault.span.start = fault.cause.place source file offset := by
  -- The line that a fault is reported with changes neither its cause nor its place.
  cases h with
  | @scanning bare _ mem =>
    rw [Fault.cause_quote, Fault.span_quote]
    have placed := place_lexical mem
    rw [Fault.cause_quote, Fault.span_quote] at placed
    exact placed
  | reading scanned some_token refused =>
    rw [Fault.cause_quote, Fault.span_quote]
    exact place_grammatical scanned some_token refused
  | @running tokens program bare scanned derives mem =>
    obtain ⟨written, same⟩ := writtenIn_of_runAll derives passes w bare mem
    rw [shown, Fault.cause_quote, Fault.span_quote, same]
    exact place_runtime scanned written

end Session.Reported

/-- **Every fault that is reported of a source begins where its cause does**, at the first character of the
lexeme that it is about or just behind the last token, with line, column, offset and file: every fault but
those of operators. A fault of an operator has the line and the column of its last character, offset zero
and no file, so in a file it does not begin where the operator does. -/
theorem runSource_places (passes : Nat) (source : String) (file : Option String) (limit : Nat) (s : Session) :
    ∃ w new, s.Went w new (Outcome.state (Session.runSource passes source file limit s)) ∧
      ∀ fault ∈ new, ∃ offset, fault.cause.About source file offset ∧
        fault.span.start = fault.cause.place source file offset ∧
        (file ≠ none →
          (fault.span.start = .ofOffset source file offset ↔ fault.cause.operator? = none)) := by
  obtain ⟨w, went⟩ := Session.went_runSource passes limit s source file
  refine ⟨w, _, went, fun fault mem => ?_⟩
  obtain ⟨offset, about, start⟩ := (Session.reported_of_mem passes limit mem).place
  refine ⟨offset, about, start, fun named => ?_⟩
  rw [start, Cause.place]
  cases fault.cause.operator? with
  | none => exact iff_of_true rfl rfl
  | some o =>
    -- The place of an operator has no file.
    refine iff_of_false (fun same => ?_) (Option.some_ne_none o)
    exact named (congrArg Position.file same).symm

set_option maxRecDepth 10000 in
/-- In a file the fault of the source `""<="";` does not begin where its operator does. -/
theorem runSource_places_operator :
    ∃ w fault, Session.Went {} w [fault]
        (Outcome.state (Session.runSource 1 "\"\"<=\"\";" (some "f") 20 {})) ∧
      fault.cause.About "\"\"<=\"\";" (some "f") 2 ∧
      Position.ofOffset "\"\"<=\"\";" (some "f") 2 = ⟨1, 3, 2, some "f"⟩ ∧
      fault.span.start = ⟨1, 4, 0, none⟩ ∧
      ∀ offset, fault.span.start ≠ .ofOffset "\"\"<=\"\";" (some "f") offset := by
  let place (column : Int) : Position := ⟨1, column, column - 1, some "f"⟩
  let operator : Operator := ⟨.lessEqual, 1, 4⟩
  let program : List Stmt := [.expression (.binary (.literal (.text "")) operator (.literal (.text "")))]
  let tokens : List Token := [⟨.string, some (.text ""), "\"\"", ⟨place 1, place 2⟩⟩,
    ⟨.lessEqual, none, "<=", ⟨place 3, place 4⟩⟩, ⟨.string, some (.text ""), "\"\"", ⟨place 5, place 6⟩⟩,
    ⟨.semicolon, none, ";", ⟨place 7, place 7⟩⟩]
  -- The operator is written at columns three and four, and only the second of them is kept.
  have scanned : tokenize "\"\"<=\"\";" (some "f") = .ok tokens := by with_unfolding_all rfl
  have parsed : parse tokens (some "\"\"<=\"\";") = .ok program := by cbv
  obtain ⟨after, went, run⟩ := Session.runSource_accepted (tokenize_eq_ok_iff.mp scanned)
    (Grammar.derives_of_parse parsed) 1 20 {}
  let bare : Fault RuntimeCause := ⟨.invalidOperands operator, Span.single operator.position, none⟩
  have faults : Stmt.runAll 1 program {} = .ok () ({}, [bare]) := rfl
  rw [show ({} : Session).world = {} from rfl, faults] at run
  rw [run]
  have start : (Session.shown (Lines.ofSource "\"\"<=\"\";") bare).span.start = ⟨1, 4, 0, none⟩ := rfl
  have mem : ⟨.lessEqual, none, "<=", ⟨place 3, place 4⟩⟩ ∈ tokens := by simp [tokens]
  obtain ⟨offset, begins, at_⟩ := beginsAt_of_mem (tokenize_eq_ok_iff.mp scanned) mem
  obtain rfl : offset = 2 := (Int.ofNat_inj.mp (congrArg Position.offset at_)).symm
  refine ⟨_, _, went ({}, [bare]), .operator rfl rfl begins, by cbv, start, fun offset same => ?_⟩
  -- Of all that makes up the place, the file is missing.
  cases congrArg Position.file (start.symm.trans same)

end LoxScript
