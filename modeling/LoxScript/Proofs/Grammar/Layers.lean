import LoxScript.Proofs.Grammar.ExpressionReading

/-! # Climbing and layers

Binary operators are read by one loop whose lower bound changes from operand to operand. A reader that
follows the grammar has a loop for each level instead: it reads an operand of the next tighter level, and
then goes on as long as an operator of its own level follows. Both read the same.

* **`Layer`** — the levels of the binary operators, each with the symbols that belong to it.
* **`Layered.operand`**, **`Layered.expression`** — the layered reader, in which an expression in parentheses
  is read from the outermost layer again.
* **`climb_level`** — climbing from the level of a layer is climbing from the level above it, and then the
  loop of the layer.
* **`climbing_eq_layered`** — the same tree and the same tokens left, or the same fault met at the same
  tokens. -/

namespace LoxScript.Grammar

/-! ## Layers -/

/-- **The levels of the binary operators**, from the loosest. -/
inductive Layer where
  | equality | comparison | term | factor

namespace Layer

/-- Every layer, from the outermost to the innermost. -/
def all : List Layer := [equality, comparison, term, factor]

/-- The symbols that a layer joins operands by. -/
def symbols : Layer → List Symbol
  | equality => [.equalEqual, .bangEqual]
  | comparison => [.less, .lessEqual, .greater, .greaterEqual]
  | term => [.plus, .minus]
  | factor => [.star, .slash]

/-- The operator that a token writes, if it is one of the layer's own. -/
def operator? (layer : Layer) (t : Token) : Option Operator :=
  (Operator.ofToken? t).filter fun o => layer.symbols.contains o.symbol

/-- The number of a layer, counted from one. -/
def level : Layer → Nat
  | equality => 1
  | comparison => 2
  | term => 3
  | factor => 4

/-- A symbol is one of the layer's own iff it joins operands at its level. -/
theorem mem_symbols_iff {layer : Layer} {s : Symbol} :
    s ∈ layer.symbols ↔ precedence? s.kind = some layer.level := by
  cases layer <;> cases s <;> decide

/-- **The operators of a layer** are the joining tokens of its level. -/
theorem operator?_eq_some_iff {layer : Layer} {t : Token} {o : Operator} :
    layer.operator? t = some o ↔ joining? t = some (layer.level, o) := by
  rw [joining?_eq_some, operator?, Option.filter_eq_some_iff, List.contains_iff_mem, mem_symbols_iff]
  constructor
  · rintro ⟨written, joins⟩
    exact ⟨Operator.kind_of_ofToken? written ▸ joins, written⟩
  · rintro ⟨joins, written⟩
    exact ⟨written, (Operator.kind_of_ofToken? written).symm ▸ joins⟩

/-- A token that joins no operands at the level of a layer is none of its operators. -/
theorem operator?_eq_none {layer : Layer} {t : Token} (h : ∀ o, joining? t ≠ some (layer.level, o)) :
    layer.operator? t = none := by
  cases own : layer.operator? t with
  | none => rfl
  | some o => exact absurd (operator?_eq_some_iff.mp own) (h o)

end Layer

/-! ## The layered reader -/

namespace Layered

mutual

/-- Reads an expression: an assignment, or an operand of one. -/
def expression (fin : Span) (tokens : List Token) : Reading Expr tokens :=
  (operand fin Layer.all tokens).andThen fun target rest behind =>
    match rest, behind with
    | [], behind => .done target [] behind
    | t :: more, behind =>
      if t.kind = .equal then
        ((expression fin more).within behind.next).andThen
          fun value left behind' =>
            match assignTo t target value with
            | .ok e => .done e left behind'
            | .error fault => .failed fault left behind'.suffix
      else .done target (t :: more) behind
termination_by (tokens.length, 7)
decreasing_by
  · exact Prod.Lex.right _ (by decide)
  · exact Prod.Lex.left _ _ (Behind.tail.trans_suffix behind.suffix).length_lt

/-- **Reads an operand of the first of the layers**: one of the next layer, and then what that layer joins
to it. Within all layers stand the operators before an operand. -/
def operand (fin : Span) (layers : List Layer) (tokens : List Token) : Reading Expr tokens :=
  match layers with
  | [] => unary fin tokens
  | layer :: tighter =>
    (operand fin tighter tokens).andThen fun left rest behind => chain fin layer tighter tokens left rest behind
termination_by (tokens.length, layers.length + 2)
decreasing_by
  · exact Prod.Lex.right _ (by simp)
  · exact Prod.Lex.right _ (by simp)
  · exact Prod.Lex.left _ _ behind.length_lt

/-- Goes on after the operand `left` as long as an operator of the layer's own follows; each takes an operand
of the tighter layers. -/
def chain (fin : Span) (layer : Layer) (tighter : List Layer) (tokens : List Token) (left : Expr)
    (rest : List Token) (behind : Behind rest tokens) : Reading Expr tokens :=
  match rest, behind with
  | [], behind => .done left [] behind
  | t :: more, behind =>
    match layer.operator? t with
    | none => .done left (t :: more) behind
    | some operator =>
      (operand fin tighter more).thenWithin behind.next
        fun right after beyond =>
          chain fin layer tighter tokens (.binary left operator right) after
            (beyond.trans_suffix behind.next)
termination_by (rest.length, 1)
decreasing_by
  · exact Prod.Lex.left _ _ (by simp)
  · exact Prod.Lex.left _ _ (Nat.lt_trans beyond.length_lt (by simp))

/-- Reads an operand with the operators before it. -/
def unary (fin : Span) (tokens : List Token) : Reading Expr tokens :=
  match tokens with
  | [] => primary fin []
  | t :: rest =>
    match unaryOperator? t with
    | some operator =>
      ((unary fin rest).map (Expr.unary operator)).within (List.suffix_cons _ _)
    | none => primary fin (t :: rest)
termination_by (tokens.length, 1)
decreasing_by
  · exact Prod.Lex.right _ (by decide)
  · exact Prod.Lex.left _ _ (by simp)
  · exact Prod.Lex.right _ (by decide)

/-- Reads a literal, a variable or a grouping. -/
def primary (fin : Span) (tokens : List Token) : Reading Expr tokens :=
  match tokens with
  | [] => .failed ⟨.unexpectedEnd .expression, fin, none⟩ [] (List.suffix_refl _)
  | t :: rest =>
    match atom? t with
    | some e => .done e rest Behind.tail
    | none =>
      if t.kind = .leftParen then
        ((expression fin rest).andThen fun inner left behind =>
          ((require fin .closeGrouping left).within behind.suffix).map fun _ =>
            Expr.grouping inner).within (List.suffix_cons _ _)
      else .failed ⟨.expectedExpression t, t.span, none⟩ rest (List.suffix_cons _ _)
termination_by (tokens.length, 0)
decreasing_by exact Prod.Lex.left _ _ (by simp)

end

end Layered

/-! ## One step of each loop -/

section Steps

variable {fin : Span} {lowest : Nat} {layer : Layer} {tighter : List Layer} {left : Expr}
  {tokens rest more : List Token} {t : Token}

/-- Readings that go on alike come to the same. -/
theorem Reading.andThen_congr {α β : Type} {r : Reading α tokens}
    {next next' : (phrase : α) → (left : List Token) → Behind left tokens → Reading β tokens}
    (same : ∀ phrase left behind, next phrase left behind = next' phrase left behind) :
    r.andThen next = r.andThen next' := by
  cases r with
  | done phrase left behind => exact same phrase left behind
  | failed => rfl

/-- Readings one after another may be grouped either way. -/
theorem Reading.andThen_andThen {α β γ : Type} (r : Reading α tokens)
    (next : (phrase : α) → (left : List Token) → Behind left tokens → Reading β tokens)
    (last : (phrase : β) → (left : List Token) → Behind left tokens → Reading γ tokens) :
    (r.andThen next).andThen last =
      r.andThen fun phrase left behind => (next phrase left behind).andThen last := by
  cases r <;> rfl

/-- Climbing ends where no operator of its levels follows. -/
theorem climb_of_below (below : Below lowest rest) (behind : Behind rest tokens) :
    climb fin lowest tokens left rest behind = .done left rest behind := by
  cases rest with
  | nil => rw [climb]
  | cons t more =>
    rw [climb_cons]
    cases joins : joining? t with
    | none => rfl
    | some joined =>
      have lower : joined.1 < lowest := below t rfl joined joins
      exact if_pos lower

/-- An operator of at least the lowest level takes an operand from the levels above its own. -/
theorem climb_of_joining {level : Nat} {o : Operator} (joins : joining? t = some (level, o))
    (le : lowest ≤ level) (behind : Behind (t :: more) tokens) :
    climb fin lowest tokens left (t :: more) behind =
      (binary fin (level + 1) more).thenWithin behind.next fun right after beyond =>
        climb fin lowest tokens (.binary left o right) after (beyond.trans_suffix behind.next) := by
  rw [climb_cons, joins]
  exact if_neg (Nat.not_lt.mpr le)

namespace Layered

/-- The loop of a layer ends where none of its operators follows. -/
theorem chain_of_other (other : ∀ t ∈ rest.head?, ∀ o, joining? t ≠ some (layer.level, o))
    (behind : Behind rest tokens) :
    chain fin layer tighter tokens left rest behind = .done left rest behind := by
  cases rest with
  | nil => rw [chain]
  | cons t more => rw [chain, Layer.operator?_eq_none (other t rfl)]

/-- An operator of the layer takes an operand from the tighter layers. -/
theorem chain_of_joining {o : Operator} (joins : joining? t = some (layer.level, o))
    (behind : Behind (t :: more) tokens) :
    chain fin layer tighter tokens left (t :: more) behind =
      (operand fin tighter more).thenWithin behind.next fun right after beyond =>
        chain fin layer tighter tokens (.binary left o right) after (beyond.trans_suffix behind.next) := by
  rw [chain, Layer.operator?_eq_some_iff.mpr joins]

end Layered

end Steps

/-! ## Climbing through a layer -/

section Climbing

variable {fin : Span} {layer : Layer} {tighter : List Layer}

/-- Where the first token joins operands at a lower level, no operator of the lowest
level or above follows. -/
theorem below_of_joining {lowest level : Nat} {t : Token} {more : List Token} {o : Operator}
    (joins : joining? t = some (level, o)) (lower : level < lowest) : Below lowest (t :: more) := by
  intro u hu p hp
  obtain rfl : t = u := by simpa using hu
  obtain rfl : (level, o) = p := by simpa [joins] using hp
  exact lower

/-- Where an operand of a level does not end, an operator of that level or a higher one stands. -/
theorem exists_joining_of_not_below {lowest : Nat} {rest : List Token} (h : ¬ Below lowest rest) :
    ∃ t more level o, rest = t :: more ∧ joining? t = some (level, o) ∧ lowest ≤ level := by
  cases rest with
  | nil => exact absurd (below_nil lowest) h
  | cons t more =>
    cases joins : joining? t with
    | none => exact absurd (below_cons joins) h
    | some joined =>
      obtain ⟨level, o⟩ := joined
      exact ⟨t, more, level, o, rfl, joins, Nat.not_lt.mp fun lower => h (below_of_joining joins lower)⟩

/-- Behind an operand of the levels above a layer no operator of these follows. -/
theorem below_of_binary {tokens after : List Token} {right : Expr} {beyond : Behind after tokens}
    {lowest : Nat} (le : lowest ≤ 5) (read : binary fin lowest tokens = .done right after beyond) :
    Below lowest after := by
  have outcome : (binary fin lowest tokens).outcome = .ok right after := by rw [read, Reading.outcome_done]
  obtain ⟨-, -, -, below⟩ := faithful.operand le outcome
  exact below

/-- **Climbing from the level of a layer** is climbing from the level above it, and then the loop of the
layer. The operators above the level are taken by the climbing within, those of the level by the loop. -/
theorem climb_level {tokens rest : List Token} (left : Expr) (behind : Behind rest tokens)
    (agree : ∀ us : List Token, us.length < rest.length →
      binary fin (layer.level + 1) us = Layered.operand fin tighter us) :
    climb fin layer.level tokens left rest behind =
      (climb fin (layer.level + 1) tokens left rest behind).andThen fun left' rest' behind' =>
        Layered.chain fin layer tighter tokens left' rest' behind' := by
  have level_le : layer.level + 1 ≤ 5 := by cases layer <;> decide
  -- Each operator takes an operand with it, so the tokens left get fewer.
  induction hn : rest.length using Nat.strongRecOn generalizing left rest with
  | ind n ih =>
    subst hn
    by_cases stops : Below layer.level rest
    · -- No operator of the level or above it follows: neither loop goes on.
      have other : ∀ t ∈ rest.head?, ∀ o, joining? t ≠ some (layer.level, o) := by
        intro t ht o joins
        have lower := stops t ht _ joins
        exact Nat.lt_irrefl _ lower
      rw [climb_of_below stops, climb_of_below (stops.mono (Nat.le_succ _))]
      exact (Layered.chain_of_other other behind).symm
    · obtain ⟨t, more, level, o, rfl, joins, le⟩ := exists_joining_of_not_below stops
      have goesOn : ∀ {us : List Token} (e : Expr) (b : Behind us tokens), us.length < (t :: more).length →
          climb fin layer.level tokens e us b =
            (climb fin (layer.level + 1) tokens e us b).andThen fun e' us' b' =>
              Layered.chain fin layer tighter tokens e' us' b' :=
        fun e b fewer => ih _ fewer e b (fun vs lt => agree vs (Nat.lt_trans lt fewer)) rfl
      rw [climb_of_joining joins le]
      rcases Nat.eq_or_lt_of_le le with rfl | above
      · -- An operator of the level: climbing above it stops here, and the loop of the layer takes it.
        have stopsAbove : Below (layer.level + 1) (t :: more) := below_of_joining joins (Nat.lt_succ_self _)
        rw [climb_of_below stopsAbove]
        show _ = Layered.chain fin layer tighter tokens left (t :: more) behind
        rw [Layered.chain_of_joining joins, ← agree more (by simp)]
        cases read : binary fin (layer.level + 1) more with
        | failed => rfl
        | done right after beyond =>
          have fewer : after.length < (t :: more).length := Nat.lt_trans beyond.length_lt (by simp)
          show climb fin layer.level tokens _ after _ = Layered.chain fin layer tighter tokens _ after _
          rw [goesOn _ _ fewer, climb_of_below (below_of_binary level_le read)]
          rfl
      · -- An operator above the level: both take it within, and go on alike behind its operand.
        rw [climb_of_joining joins above]
        cases binary fin (level + 1) more with
        | failed => rfl
        | done right after beyond =>
          exact goesOn _ _ (Nat.lt_trans beyond.length_lt (by simp))

/-- Reading from the level of a layer is reading through the layer, if reading from the level above it is
reading through the tighter layers. -/
theorem binary_level (layer : Layer) {tokens : List Token}
    (agree : ∀ us : List Token, us.length < tokens.length →
      binary fin (layer.level + 1) us = Layered.operand fin tighter us)
    (within : binary fin (layer.level + 1) tokens = Layered.operand fin tighter tokens) :
    binary fin layer.level tokens = Layered.operand fin (layer :: tighter) tokens := by
  -- Climbing from a level is climbing from the next one, and chaining what it leaves at this level.
  have climbs : ∀ (left : Expr) (rest : List Token) (behind : Behind rest tokens),
      climb fin layer.level tokens left rest behind =
        (climb fin (layer.level + 1) tokens left rest behind).andThen fun left' rest' behind' =>
          Layered.chain fin layer tighter tokens left' rest' behind' := by
    intro left rest behind
    exact climb_level left behind fun us fewer => agree us (Nat.lt_trans fewer behind.length_lt)
  calc binary fin layer.level tokens
      = (unary fin tokens).andThen fun left rest behind =>
          (climb fin (layer.level + 1) tokens left rest behind).andThen fun left' rest' behind' =>
            Layered.chain fin layer tighter tokens left' rest' behind' := by
        rw [binary]
        exact Reading.andThen_congr climbs
    _ = (binary fin (layer.level + 1) tokens).andThen fun left' rest' behind' =>
          Layered.chain fin layer tighter tokens left' rest' behind' := by
        rw [binary, Reading.andThen_andThen]
    _ = Layered.operand fin (layer :: tighter) tokens := by
        rw [Layered.operand, within]

end Climbing

/-! ## The result -/

section Agreement

variable {fin : Span} {tokens : List Token}

/-- Beyond the levels of the operators only the operators before an operand are left. -/
theorem binary_of_five_le {lowest : Nat} (le : 5 ≤ lowest) : binary fin lowest tokens = unary fin tokens := by
  rw [binary]
  cases unary fin tokens with
  | failed => rfl
  | done left rest behind => exact climb_of_below (below_of_five_le le rest) behind

/-- **A list of tokens reads as it does through the layers**, from every level. -/
structure ReadsAsLayered (fin : Span) (tokens : List Token) : Prop where
  expression : expression fin tokens = Layered.expression fin tokens
  operand : ∀ k, binary fin (k + 1) tokens = Layered.operand fin (Layer.all.drop k) tokens
  unary : unary fin tokens = Layered.unary fin tokens

/-- Behind the parenthesis of a grouping fewer tokens are left. -/
theorem primary_eq_layered (shorter : ∀ us : List Token, us.length < tokens.length → ReadsAsLayered fin us) :
    primary fin tokens = Layered.primary fin tokens := by
  cases tokens with
  | nil => rw [primary, Layered.primary]
  | cons t rest =>
    have inner := (shorter rest (by simp)).expression
    cases atom : atom? t with
    | some e => simp only [primary, Layered.primary, atom]
    | none => simp only [primary, Layered.primary, atom, inner]

/-- Prefixes and primaries are read alike, if all shorter lists of tokens are. -/
theorem unary_eq_layered (shorter : ∀ us : List Token, us.length < tokens.length → ReadsAsLayered fin us) :
    unary fin tokens = Layered.unary fin tokens := by
  cases tokens with
  | nil => rw [unary, Layered.unary, primary_eq_layered shorter]
  | cons t rest =>
    have operand := (shorter rest (by simp)).unary
    cases operator : unaryOperator? t with
    | some o => simp only [unary_cons, Layered.unary, operator, operand]
    | none => simp only [unary_cons, Layered.unary, operator, primary_eq_layered shorter]

/-- **Each level reads through its layers**, from the innermost outwards. -/
theorem binary_eq_layered (shorter : ∀ us : List Token, us.length < tokens.length → ReadsAsLayered fin us)
    (k : Nat) : binary fin (k + 1) tokens = Layered.operand fin (Layer.all.drop k) tokens := by
  -- From the innermost level, which reads prefixes only, one level outwards at a time.
  have beyond : ∀ j, 4 ≤ j → binary fin (j + 1) tokens = Layered.operand fin [] tokens := by
    intro j le
    rw [binary_of_five_le (by omega), Layered.operand, unary_eq_layered shorter]
  have factor : binary fin 4 tokens = Layered.operand fin [.factor] tokens :=
    binary_level .factor (fun us fewer => (shorter us fewer).operand 4) (beyond 4 (Nat.le_refl 4))
  have term : binary fin 3 tokens = Layered.operand fin [.term, .factor] tokens :=
    binary_level .term (fun us fewer => (shorter us fewer).operand 3) factor
  have comparison : binary fin 2 tokens = Layered.operand fin [.comparison, .term, .factor] tokens :=
    binary_level .comparison (fun us fewer => (shorter us fewer).operand 2) term
  have equality : binary fin 1 tokens = Layered.operand fin Layer.all tokens :=
    binary_level .equality (fun us fewer => (shorter us fewer).operand 1) comparison
  match k with
  | 0 => exact equality
  | 1 => exact comparison
  | 2 => exact term
  | 3 => exact factor
  | j + 4 =>
    have none : Layer.all.drop (j + 4) = [] := List.drop_eq_nil_of_le (by simp [Layer.all])
    rw [none, beyond (j + 4) (by omega)]

/-- So are whole expressions with their assignments. -/
theorem expression_eq_layered
    (shorter : ∀ us : List Token, us.length < tokens.length → ReadsAsLayered fin us) :
    expression fin tokens = Layered.expression fin tokens := by
  rw [expression, Layered.expression, binary_eq_layered shorter 0]
  refine Reading.andThen_congr fun target rest behind => ?_
  cases rest with
  | nil => rfl
  | cons t more =>
    have value := (shorter more (Behind.tail.trans_suffix behind.suffix).length_lt).expression
    dsimp only
    generalize Layered.expression fin more = reading at value ⊢
    subst value
    rfl

/-- **Climbing reads what the layers read.** From every list of tokens, wherever in the input it begins, and
from every level, the climbing reader gives the same tree and leaves the same tokens, or meets the same fault
at the same tokens, as the reader with a loop for each layer from that level inwards. Both read the same
from the first level, which is the whole ladder, up to the fifth, where no layer is left and only the
operators before an operand are read. -/
theorem climbing_eq_layered (fin : Span) (tokens : List Token) :
    (∀ k, binary fin (k + 1) tokens = Layered.operand fin (Layer.all.drop k) tokens) ∧
      unary fin tokens = Layered.unary fin tokens ∧ expression fin tokens = Layered.expression fin tokens := by
  have all : ReadsAsLayered fin tokens := by
    induction hn : tokens.length using Nat.strongRecOn generalizing tokens with
    | ind n ih =>
      subst hn
      have shorter : ∀ us : List Token, us.length < tokens.length → ReadsAsLayered fin us :=
        fun us fewer => ih us.length fewer us rfl
      exact ⟨expression_eq_layered shorter, binary_eq_layered shorter, unary_eq_layered shorter⟩
  exact ⟨all.operand, all.unary, all.expression⟩

end Agreement

end LoxScript.Grammar
