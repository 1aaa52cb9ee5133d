import LoxScript.Fault

/-! # Readings
To read a phrase is to take tokens from the front of a list. A reading tells the phrase with the tokens
after it, or the fault with the tokens that were left when it was met. Its type keeps what recursion over
phrases rests on: a phrase has at least one token, and what is left is always an end of the list. -/

namespace LoxScript.Grammar

/-- `rest` is an end of `tokens` with at least one token before it. -/
def Behind (rest tokens : List Token) : Prop := ∃ t, t :: rest <:+ tokens

namespace Behind

variable {rest tokens more : List Token} {t : Token}

/-- The tail is behind the list. -/
theorem tail : Behind rest (t :: rest) := ⟨t, List.suffix_refl _⟩

/-- What is behind is an end. -/
theorem suffix (h : Behind rest tokens) : rest <:+ tokens :=
  let ⟨_, ht⟩ := h
  (List.suffix_cons _ _).trans ht

/-- What comes after a token that is behind is an end. -/
theorem next (h : Behind (t :: rest) tokens) : rest <:+ tokens := (List.suffix_cons _ _).trans h.suffix

/-- What is behind is shorter. -/
theorem length_lt (h : Behind rest tokens) : rest.length < tokens.length :=
  let ⟨_, ht⟩ := h
  Nat.lt_of_succ_le (by simpa using ht.length_le)

/-- What is behind an end is behind the list. -/
theorem trans_suffix (h : Behind rest tokens) (hs : tokens <:+ more) : Behind rest more :=
  let ⟨t, ht⟩ := h
  ⟨t, ht.trans hs⟩

end Behind

/-- The outcome of reading a phrase from the front of `tokens`. -/
inductive Reading (α : Type) (tokens : List Token) where
  /-- The phrase, and the tokens after it. -/
  | done (phrase : α) (rest : List Token) (behind : Behind rest tokens)
  /-- The fault, and the tokens left when it was met. -/
  | failed (fault : Fault SyntaxCause) (rest : List Token) (suffix : rest <:+ tokens)

namespace Reading

variable {α β : Type} {tokens rest : List Token}

/-- A reading of an end of the list, seen as a reading of the list. -/
def within (r : Reading α rest) (h : rest <:+ tokens) : Reading α tokens :=
  match r with
  | .done phrase left behind => .done phrase left (behind.trans_suffix h)
  | .failed fault left suffix => .failed fault left (suffix.trans h)

/-- Goes on after a phrase that was read from an end of the list; a fault is passed on. -/
def thenWithin (r : Reading α rest) (h : rest <:+ tokens)
    (next : (phrase : α) → (left : List Token) → Behind left rest → Reading β tokens) :
    Reading β tokens :=
  match r with
  | .done phrase left behind => next phrase left behind
  | .failed fault left suffix => .failed fault left (suffix.trans h)

/-- Goes on after a phrase; a fault is passed on. -/
def andThen (r : Reading α tokens)
    (next : (phrase : α) → (left : List Token) → Behind left tokens → Reading β tokens) :
    Reading β tokens :=
  r.thenWithin (List.suffix_refl _) next

/-- The same reading with another phrase. -/
def map (f : α → β) (r : Reading α tokens) : Reading β tokens :=
  r.andThen fun phrase rest behind => .done (f phrase) rest behind

/-- The phrase or the fault. -/
def result : Reading α tokens → Except (Fault SyntaxCause) α
  | .done phrase .. => .ok phrase
  | .failed fault .. => .error fault

/-- The tokens left. -/
def left : Reading α tokens → List Token
  | .done _ rest _ => rest
  | .failed _ rest _ => rest

end Reading

/-- The place just past the last token, where faults at the end of the input are. -/
def endSpan (tokens : List Token) : Span :=
  match tokens.getLast? with
  | none => Span.single { line := 1, column := 0, offset := 0 }
  | some t => Span.single t.span.stop.next

/-- Reads one required token. -/
def require (fin : Span) (required : Requirement) (tokens : List Token) : Reading Token tokens :=
  match tokens with
  | [] => .failed ⟨.missing required none, fin, none⟩ [] (List.suffix_refl _)
  | t :: rest =>
    if t.kind = required.kind then .done t rest Behind.tail
    else .failed ⟨.missing required (some t), t.span, none⟩ (t :: rest) (List.suffix_refl _)

end LoxScript.Grammar
