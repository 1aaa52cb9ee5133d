import LoxScript.Grammar.Expression

/-! # Operators where they are read

A token is taken for an operator only after the operand behind it, and could be refused then. It never is:
the tables that say which tokens join operands, and which stand before one, name operators only.

* **`Operator.ofToken_eq_error_iff`** — the refusal, and the tokens it is for.
* **`exists_ofToken_of_precedence?`**, **`exists_ofToken_of_unary`** — no token of the tables is refused.
* **`climb_cons`**, **`unary_cons`** — one pass of the loop and one operator before an operand, with the
  operator found out at once. All that is proved about readings of expressions starts from these. -/

namespace LoxScript

/-! ## Taking a token for an operator -/

namespace Operator

/-- A token is taken for the operator that it writes. -/
theorem ofToken_eq_ok_iff {t : Token} {o : Operator} : ofToken t = .ok o ↔ ofToken? t = some o := by
  rw [ofToken]
  cases ofToken? t <;> simp

/-- **A token is refused** iff it writes no operator, and the fault is about that token. -/
theorem ofToken_eq_error_iff {t : Token} {fault : Fault SyntaxCause} :
    ofToken t = .error fault ↔ ofToken? t = none ∧ fault = ⟨.notAnOperator t, t.span, none⟩ := by
  rw [ofToken]
  cases ofToken? t with
  | none => simp [eq_comm]
  | some o => simp

/-- A token writes an operator if its kind is that of a symbol. -/
theorem ofToken?_of_kind {t : Token} {s : Symbol} (h : Symbol.ofKind? t.kind = some s) :
    ofToken? t = some ⟨s, t.line, t.column⟩ := by
  rw [ofToken?, h, Option.map_some]

/-- An operator is of the kind of the token that writes it. -/
theorem kind_of_ofToken? {t : Token} {o : Operator} (h : ofToken? t = some o) : o.symbol.kind = t.kind := by
  obtain ⟨symbol, hs, rfl⟩ := Option.map_eq_some_iff.mp h
  exact Symbol.ofKind?_eq_some_iff.mp hs

end Operator

namespace Grammar

variable {t : Token} {level : Nat}

/-- **A token that joins operands** is an operator. -/
theorem exists_ofToken_of_precedence? (h : precedence? t.kind = some level) :
    ∃ o, Operator.ofToken t = .ok o := by
  have written : ∃ s, Symbol.ofKind? t.kind = some s := by
    cases hk : t.kind <;> rw [hk] at h <;> first | cases h; done | exact ⟨_, rfl⟩
  obtain ⟨s, hs⟩ := written
  exact ⟨_, Operator.ofToken_eq_ok_iff.mpr (Operator.ofToken?_of_kind hs)⟩

/-- **A token that stands before an operand** is an operator. -/
theorem exists_ofToken_of_unary (h : t.kind ∈ unaryOperators) : ∃ o, Operator.ofToken t = .ok o := by
  have kinds : t.kind = .bang ∨ t.kind = .minus := by simpa [unaryOperators] using h
  rcases kinds with kind | kind
  · exact ⟨_, Operator.ofToken_eq_ok_iff.mpr (Operator.ofToken?_of_kind (s := .bang) (by rw [kind]; rfl))⟩
  · exact ⟨_, Operator.ofToken_eq_ok_iff.mpr (Operator.ofToken?_of_kind (s := .minus) (by rw [kind]; rfl))⟩

/-! ## Levels and operators together -/

/-- The level and the operator of a token that joins two operands. -/
def joining? (t : Token) : Option (Nat × Operator) := do
  let level ← precedence? t.kind
  let operator ← Operator.ofToken? t
  return (level, operator)

/-- The operator of a token that may stand before an operand. -/
def unaryOperator? (t : Token) : Option Operator :=
  match t.kind with
  | .bang | .minus => Operator.ofToken? t
  | _ => none

/-- A token joins operands iff it has a level and writes an operator. -/
theorem joining?_eq_some {o : Operator} :
    joining? t = some (level, o) ↔ precedence? t.kind = some level ∧ Operator.ofToken? t = some o := by
  simp [joining?, Option.bind_eq_some_iff]

/-- A token without a level joins no operands. -/
theorem joining?_of_none (h : precedence? t.kind = none) : joining? t = none := by
  simp [joining?, h]

/-- Only two kinds of token stand before an operand. -/
theorem unaryOperator?_eq_none (hb : t.kind ≠ .bang) (hm : t.kind ≠ .minus) : unaryOperator? t = none := by
  rw [unaryOperator?]
  split
  · next h => exact absurd h hb
  · next h => exact absurd h hm
  · rfl

/-- A token that stands before an operand has the operator that it writes. -/
theorem unaryOperator?_of_mem (h : t.kind ∈ unaryOperators) : unaryOperator? t = Operator.ofToken? t := by
  have kinds : t.kind = .bang ∨ t.kind = .minus := by simpa [unaryOperators] using h
  rcases kinds with kind | kind <;> rw [unaryOperator?, kind]

/-! ## Readings with the operator found out at once -/

variable (fin : Span) {tokens : List Token}

/-- **One pass of the loop.** An operator of at least the level `lowest` takes an operand from the levels
above its own, and the loop goes on with the two joined. -/
theorem climb_cons (lowest : Nat) (left : Expr) (more : List Token) (behind : Behind (t :: more) tokens) :
    climb fin lowest tokens left (t :: more) behind =
      match joining? t with
      | none => .done left (t :: more) behind
      | some (level, operator) =>
        if level < lowest then .done left (t :: more) behind
        else
          (binary fin (level + 1) more).thenWithin behind.next fun right after beyond =>
            climb fin lowest tokens (.binary left operator right) after (beyond.trans_suffix behind.next) := by
  rw [climb]
  cases hp : precedence? t.kind with
  | none => simp only [joining?_of_none hp]
  | some level =>
    obtain ⟨o, ho⟩ := exists_ofToken_of_precedence? hp
    simp only [joining?_eq_some.mpr ⟨hp, Operator.ofToken_eq_ok_iff.mp ho⟩, ho]

/-- **One operator before an operand.** -/
theorem unary_cons (rest : List Token) :
    unary fin (t :: rest) =
      match unaryOperator? t with
      | some operator => ((unary fin rest).map (Expr.unary operator)).within (List.suffix_cons _ _)
      | none => primary fin (t :: rest) := by
  rw [unary]
  by_cases mem : t.kind ∈ unaryOperators
  · obtain ⟨o, ho⟩ := exists_ofToken_of_unary mem
    simp only [if_pos mem, unaryOperator?_of_mem mem, Operator.ofToken_eq_ok_iff.mp ho, ho, Reading.map]
  · have others : t.kind ≠ .bang ∧ t.kind ≠ .minus := by simpa [unaryOperators] using mem
    simp only [if_neg mem, unaryOperator?_eq_none others.1 others.2]

end Grammar

end LoxScript
