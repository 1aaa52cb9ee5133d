import LoxScript.Proofs.Grammar.Derivation
import LoxScript.Proofs.Grammar.Outcome

/-! # Reading expressions agrees with the grammar

Precedence climbing reads exactly the expressions of the grammar.

* **Completeness** (`Derives.Expression.read`) — an expression is read whatever follows it, unless that
  could go on with it. By induction on the derivation; an operand of a level is read up to its end with
  the loop still running (`Derives.Operand.read`), so the left-nested joins of a level unroll into
  passes of the loop.
* **Soundness** (`expression_derives`) — what is read as an expression is one. By induction on the
  number of tokens; the loop keeps its operand at a level no tighter operator follows
  (`climbing_derives`). -/

namespace LoxScript

namespace Grammar

/-! ## The tables -/

/-- The token that joins operands and its level are those of the grammar. -/
theorem joining?_eq_some_iff {t : Token} {level : Nat} {o : Operator} :
    joining? t = some (level, o) ↔
      ∃ symbol, Joins level t.kind symbol ∧ o = ⟨symbol, t.line, t.column⟩ := by
  constructor
  · intro h
    obtain ⟨hlevel, ho⟩ := joining?_eq_some.mp h
    obtain ⟨symbol, hs, rfl⟩ := Option.map_eq_some_iff.mp ho
    refine ⟨symbol, ?_, rfl⟩
    rw [← Symbol.ofKind?_eq_some_iff.mp hs] at hlevel ⊢
    cases symbol <;> cases hlevel <;> constructor
  · rintro ⟨symbol, h, rfl⟩
    rw [joining?_eq_some, Operator.ofToken?]
    cases hk : t.kind <;> rw [hk] at h <;> cases h <;> exact ⟨rfl, rfl⟩

/-- Operators that join operands have a level from one to four. -/
theorem Joins.level_le {level : Nat} {k : Kind} {symbol : Symbol} (h : Joins level k symbol) :
    level ≤ 4 := by
  cases h <;> decide

/-- A bang is a prefix. -/
theorem unaryOperator?_of_bang {t : Token} (h : t.kind = .bang) :
    unaryOperator? t = some ⟨.bang, t.line, t.column⟩ := by
  rw [unaryOperator?, Operator.ofToken?, h]; rfl

/-- So is a minus sign. -/
theorem unaryOperator?_of_minus {t : Token} (h : t.kind = .minus) :
    unaryOperator? t = some ⟨.minus, t.line, t.column⟩ := by
  rw [unaryOperator?, Operator.ofToken?, h]; rfl

/-- An expression of one token is a primary. -/
theorem primary_of_atom? {t : Token} {e : Expr} (h : atom? t = some e) :
    Derives.Primary [t] e := by
  rw [atom?] at h
  split at h
  · next hk =>
    split at h
    · next x hx => exact Option.some.inj h ▸ .number hk hx
    · cases h
  · next hk =>
    exact Option.some.inj h ▸ .text hk
  · next hk => exact Option.some.inj h ▸ .trueWord hk
  · next hk => exact Option.some.inj h ▸ .falseWord hk
  · next hk => exact Option.some.inj h ▸ .nilWord hk
  · next hk => exact Option.some.inj h ▸ .name hk
  · exact absurd h (by simp)

/-! ## What may follow an operand -/

/-- An operator at the front of `rest`, if there is one, is of a level below `level`. -/
def Below (level : Nat) (rest : List Token) : Prop :=
  ∀ t ∈ rest.head?, ∀ joined ∈ joining? t, joined.1 < level

/-- What joins nothing at a level joins nothing at a higher one. -/
theorem Below.mono {level level' : Nat} {rest : List Token} (h : Below level rest)
    (le : level ≤ level') : Below level' rest :=
  fun t ht joined hj => Nat.lt_of_lt_of_le (h t ht joined hj) le

/-- No operator is of a level beyond four. -/
theorem below_of_five_le {level : Nat} (le : 5 ≤ level) (rest : List Token) : Below level rest := by
  rintro t - ⟨k, o⟩ hj
  obtain ⟨symbol, h, -⟩ := joining?_eq_some_iff.mp hj
  exact Nat.lt_of_le_of_lt h.level_le le

/-- A token that is no joining operator ends an operand of every level. -/
theorem below_cons {level : Nat} {t : Token} {rest : List Token} (h : joining? t = none) :
    Below level (t :: rest) := by
  rintro u hu joined hj
  obtain rfl : t = u := by simpa using hu
  simp [h] at hj

/-- So does the end of the tokens. -/
theorem below_nil (level : Nat) : Below level [] := by
  intro t ht
  simp at ht

/-- The loop ends where no operator of its levels follows. -/
theorem climbing_of_below {fin : Span} {lowest : Nat} {left : Expr} {rest : List Token}
    (h : Below lowest rest) : climbing fin lowest left rest = .ok left rest := by
  cases rest with
  | nil => exact climbing_nil ..
  | cons t more =>
    rw [climbing_cons]
    cases hj : joining? t with
    | none => rfl
    | some joined =>
      have lower : joined.1 < lowest := h t rfl joined hj
      exact if_pos lower

/-- What may stand behind a whole expression: neither an operator nor an equals sign. -/
def EndsExpression (rest : List Token) : Prop :=
  Below 1 rest ∧ ∀ t ∈ rest.head?, t.kind ≠ .equal

/-- An expression may be followed by a semicolon or a closing parenthesis. -/
theorem endsExpression_cons {t : Token} {rest : List Token}
    (h : t.kind = .semicolon ∨ t.kind = .rightParen) : EndsExpression (t :: rest) := by
  constructor
  · refine below_cons ?_
    rcases h with h | h <;> exact joining?_of_none (by rw [h]; rfl)
  · intro u hu
    obtain rfl : t = u := by simpa using hu
    rcases h with h | h <;> (rw [h]; decide)

/-! ## Completeness -/

section Completeness

variable (fin : Span)

/-- A name is read as an operand of any level if no operator follows. -/
theorem outcome_binary_name {name : Token} (h : name.kind = .identifier) {lowest : Nat}
    {rest : List Token} (hr : Below lowest rest) :
    (binary fin lowest (name :: rest)).outcome = .ok (.reference name) rest := by
  have atom : atom? name = some (.reference name) := by rw [atom?, h]
  rw [outcome_binary, outcome_unary_cons,
    unaryOperator?_eq_none (by rw [h]; decide) (by rw [h]; decide)]
  dsimp only
  rw [outcome_primary_cons, atom, Outcome.bind_ok, climbing_of_below hr]

namespace Derives

/-- A primary does not begin with an operator. -/
theorem Primary.head_not_operator {ts : List Token} {e : Expr} (h : Primary ts e) :
    ∃ t us, ts = t :: us ∧ unaryOperator? t = none := by
  cases h with
  | number hk | text hk | trueWord hk | falseWord hk | nilWord hk | name hk | grouping hk =>
    exact ⟨_, _, rfl, unaryOperator?_eq_none (by rw [hk]; decide) (by rw [hk]; decide)⟩

mutual

/-- **Completeness for expressions**: an expression is read whatever follows it, other than an operator
or an equals sign. -/
theorem Expression.read : ∀ {ts : List Token} {e : Expr}, Expression ts e → ∀ rest : List Token,
    EndsExpression rest → (expression fin (ts ++ rest)).outcome = .ok e rest
  | _, _, .operand h, rest, ends => by
    rw [outcome_expression, h.read rest (Nat.le_refl 1) (ends.1.mono (by decide)),
      climbing_of_below ends.1, Outcome.bind_ok]
    cases rest with
    | nil => rfl
    | cons t more => exact if_neg (ends.2 t rfl)
  | _, _, @Expression.assign name equals ts _ hn he hv, rest, ends => by
    have stop : Below 1 (equals :: (ts ++ rest)) := below_cons (joining?_of_none (by rw [he]; rfl))
    rw [outcome_expression, List.cons_append, List.cons_append, outcome_binary_name fin hn stop,
      Outcome.bind_ok]
    dsimp only
    rw [if_pos he, hv.read rest ends]
    rfl

/-- **Completeness for operands**: the loop gets from the start of an operand to its end. -/
theorem Operand.read : ∀ {level : Nat} {ts : List Token} {e : Expr}, Operand level ts e →
    ∀ {lowest : Nat} (rest : List Token), lowest ≤ level → Below (level + 1) rest →
    (binary fin lowest (ts ++ rest)).outcome = climbing fin lowest e rest
  | _, _, _, .tighter h, _, rest, le, below =>
    h.read rest (Nat.le_succ_of_le le) (below.mono (Nat.le_succ _))
  | _, _, _, @Operand.join level ls rs t symbol _ _ hl hj hr, lowest, rest, le, below => by
    have joined : joining? t = some (level, ⟨symbol, t.line, t.column⟩) :=
      joining?_eq_some_iff.mpr ⟨symbol, hj, rfl⟩
    have next : Below (level + 1) (t :: (rs ++ rest)) := by
      rintro u hu p hp
      obtain rfl : t = u := by simpa using hu
      obtain rfl : (level, (⟨symbol, t.line, t.column⟩ : Operator)) = p := by simpa [joined] using hp
      exact Nat.lt_succ_self level
    rw [List.append_assoc, List.cons_append, hl.read _ le next, climbing_cons, joined]
    dsimp only
    rw [if_neg (Nat.not_lt.mpr le), hr.read rest (Nat.le_refl _) (below.mono (Nat.le_succ _)),
      climbing_of_below below, Outcome.bind_ok]
  | _, _, _, .prefixed h, _, _, _, _ => by rw [outcome_binary, h.read, Outcome.bind_ok]

/-- **An operand with its prefixes is read**, whatever follows: prefixes one by one, then the primary. -/
theorem Prefixed.read : ∀ {ts : List Token} {e : Expr}, Prefixed ts e → ∀ rest : List Token,
    (unary fin (ts ++ rest)).outcome = .ok e rest
  | _, _, .not hk h, rest => by
    rw [List.cons_append, outcome_unary_cons, unaryOperator?_of_bang hk, h.read]; rfl
  | _, _, .negative hk h, rest => by
    rw [List.cons_append, outcome_unary_cons, unaryOperator?_of_minus hk, h.read]; rfl
  | _, _, .primary h, rest => by
    -- A primary begins with no operator, so it is not taken for a longer operand.
    have whole := h.read rest
    obtain ⟨t, us, rfl, hu⟩ := h.head_not_operator
    rw [List.cons_append, outcome_unary_cons, hu]
    exact whole

/-- **A primary is read**, whatever follows; a grouping is read up to its own closing parenthesis. -/
theorem Primary.read : ∀ {ts : List Token} {e : Expr}, Primary ts e → ∀ rest : List Token,
    (primary fin (ts ++ rest)).outcome = .ok e rest
  | _, _, .number hk hd, _ => by rw [List.cons_append, outcome_primary_cons, atom?, hk, hd]; rfl
  | _, _, .text hk, _ => by rw [List.cons_append, outcome_primary_cons, atom?, hk]; rfl
  | _, _, .trueWord hk, _ | _, _, .falseWord hk, _ | _, _, .nilWord hk, _ | _, _, .name hk, _ => by
    rw [List.cons_append, outcome_primary_cons, atom?, hk]; rfl
  | _, _, @Primary.grouping opening closing ts e ho h hc, rest => by
    have inner := h.read (closing :: rest) (endsExpression_cons (.inr hc))
    have last : requiring fin .closeGrouping (closing :: rest) = .ok closing rest := if_pos hc
    rw [List.cons_append, List.append_assoc, List.singleton_append, outcome_primary_cons, atom?, ho]
    dsimp only
    rw [if_pos rfl, inner, Outcome.bind_ok, last, Outcome.bind_ok]

end

end Derives

end Completeness

/-! ## Soundness -/

section Soundness

variable {fin : Span}

/-- An operand that is a bare name is the one token of that name. -/
theorem Derives.Operand.of_reference : ∀ {level : Nat} {ts : List Token} {e : Expr},
    Derives.Operand level ts e → ∀ name, e = .reference name → ts = [name] ∧ name.kind = .identifier
  | _, _, _, .tighter h, name, he => h.of_reference name he
  | _, _, _, .join .., _, he => nomatch he
  | _, _, _, .prefixed h, name, he => by
    subst he
    cases h with
    | primary h => cases h with | name hk => exact ⟨rfl, hk⟩

/-- What is read from `tokens` as an expression, an operand of a level or an operand with the operators
before it is one; behind an operand of a level no operator of that level follows. -/
structure Faithful (fin : Span) (tokens : List Token) : Prop where
  expression : ∀ {e rest}, (expression fin tokens).outcome = .ok e rest →
    ∃ used, tokens = used ++ rest ∧ Derives.Expression used e
  operand : ∀ {lowest e rest}, lowest ≤ 5 → (binary fin lowest tokens).outcome = .ok e rest →
    ∃ used, tokens = used ++ rest ∧ Derives.Operand lowest used e ∧ Below lowest rest
  prefixed : ∀ {e rest}, (unary fin tokens).outcome = .ok e rest →
    ∃ used, tokens = used ++ rest ∧ Derives.Prefixed used e

/-- An operand of a level is one of every looser level. -/
theorem Derives.Operand.loosen {level lowest : Nat} (le : lowest ≤ level) {ts : List Token} {e : Expr}
    (h : Derives.Operand level ts e) : Derives.Operand lowest ts e := by
  induction le with
  | refl => exact h
  | step _ ih => exact ih (.tighter h)

/-- **What is read as a primary is one**, if all expressions from fewer tokens are what they are read as. -/
theorem primary_derives {tokens : List Token}
    (shorter : ∀ us, us <:+ tokens → us.length < tokens.length → Faithful fin us) {e : Expr}
    {rest : List Token} (h : (primary fin tokens).outcome = .ok e rest) :
    ∃ used, tokens = used ++ rest ∧ Derives.Primary used e := by
  cases tokens with
  | nil => rw [outcome_primary_nil] at h; cases h
  | cons t more =>
    rw [outcome_primary_cons] at h
    cases ha : atom? t with
    | some a =>
      rw [ha] at h
      cases h
      exact ⟨[t], rfl, primary_of_atom? ha⟩
    | none =>
      rw [ha] at h
      dsimp only at h
      split at h
      · next ho =>
        obtain ⟨inner, left, hi, hnext⟩ := Outcome.bind_eq_ok.mp h
        obtain ⟨closing, after, hc, hlast⟩ := Outcome.bind_eq_ok.mp hnext
        obtain ⟨rfl, hk⟩ := (requiring_eq_ok fin).mp hc
        obtain ⟨used, rfl, hd⟩ := (shorter more (List.suffix_cons _ _) (by simp)).expression hi
        cases hlast
        exact ⟨t :: (used ++ [closing]), by simp, .grouping ho hd hk⟩
      · cases h

/-- **What is read as an operand with its prefixes is one**, under the same condition. -/
theorem unary_derives {tokens : List Token}
    (shorter : ∀ us, us <:+ tokens → us.length < tokens.length → Faithful fin us) {e : Expr}
    {rest : List Token} (h : (unary fin tokens).outcome = .ok e rest) :
    ∃ used, tokens = used ++ rest ∧ Derives.Prefixed used e := by
  cases tokens with
  | nil => rw [outcome_unary_nil, outcome_primary_nil] at h; cases h
  | cons t more =>
    -- The two prefixes are read alike: the operand from fewer tokens, then the operator put in front.
    have operand : ∀ {o : Operator}, (∀ {ts : List Token} {e : Expr}, Derives.Prefixed ts e →
        Derives.Prefixed (t :: ts) (.unary o e)) → unaryOperator? t = some o →
        ∃ used, t :: more = used ++ rest ∧ Derives.Prefixed used e := by
      intro o derive ho
      rw [outcome_unary_cons, ho] at h
      obtain ⟨inner, left, hi, hlast⟩ := Outcome.bind_eq_ok.mp h
      obtain ⟨used, rfl, hd⟩ := (shorter more (List.suffix_cons _ _) (by simp)).prefixed hi
      cases hlast
      exact ⟨t :: used, rfl, derive hd⟩
    by_cases hb : t.kind = .bang
    · exact operand (.not hb) (unaryOperator?_of_bang hb)
    by_cases hm : t.kind = .minus
    · exact operand (.negative hm) (unaryOperator?_of_minus hm)
    · rw [outcome_unary_cons, unaryOperator?_eq_none hb hm] at h
      obtain ⟨used, eq, hd⟩ := primary_derives shorter h
      exact ⟨used, eq, .primary hd⟩

/-- **The loop keeps its invariant**: the operand read so far is of a level `k` that the loop may use, and
the next operator is of no tighter level, so that the operand can be the left one of a join. -/
theorem climbing_derives {lowest k : Nat} (le : lowest ≤ k) {left : Expr} {used rest : List Token}
    (hl : Derives.Operand k used left) (below : Below (k + 1) rest)
    (shorter : ∀ us, us <:+ rest → us.length < rest.length → Faithful fin us) {e : Expr}
    {after : List Token} (h : climbing fin lowest left rest = .ok e after) :
    ∃ more, rest = more ++ after ∧ Derives.Operand lowest (used ++ more) e ∧ Below lowest after := by
  -- Strong induction on the tokens in front of the loop. It stops at the end, at no operator and at one of a
  -- lower level; at any other the operand joins with what is read behind it, and the invariant holds again.
  induction hn : rest.length using Nat.strongRecOn generalizing left used rest k with
  | ind n ih =>
    subst hn
    have stop (hb : Below lowest rest) :
        ∃ more, rest = more ++ after ∧ Derives.Operand lowest (used ++ more) e ∧
          Below lowest after := by
      rw [climbing_of_below hb] at h
      cases h
      exact ⟨[], rfl, by simpa using hl.loosen le, hb⟩
    cases rest with
    | nil => exact stop (below_nil _)
    | cons t more =>
      cases hj : joining? t with
      | none => exact stop (below_cons hj)
      | some joined =>
        obtain ⟨level, o⟩ := joined
        by_cases hlow : level < lowest
        · refine stop fun u hu p hp => ?_
          obtain rfl : t = u := by simpa using hu
          obtain rfl : (level, o) = p := by simpa [hj] using hp
          exact hlow
        · rw [climbing_cons, hj] at h
          dsimp only at h
          rw [if_neg hlow] at h
          obtain ⟨right, mid, hr, hnext⟩ := Outcome.bind_eq_ok.mp h
          obtain ⟨symbol, hs, rfl⟩ := joining?_eq_some_iff.mp hj
          have level_le : level ≤ k := Nat.lt_succ_iff.mp (below t rfl _ hj)
          -- The right operand is read at the next tighter level, so what follows it is below that level.
          obtain ⟨operand, rfl, hd, hb⟩ := (shorter more (List.suffix_cons _ _) (by simp)).operand
            (Nat.succ_le_succ hs.level_le) hr
          have joined := Derives.Operand.join (hl.loosen level_le) hs hd
          have fewer : mid.length < (t :: (operand ++ mid)).length := by
            rw [List.length_cons, List.length_append]
            omega
          have shorter' : ∀ us, us <:+ mid → us.length < mid.length → Faithful fin us :=
            fun us hus lt => shorter us (hus.trans ⟨t :: operand, rfl⟩) (Nat.lt_trans lt fewer)
          obtain ⟨last, rfl, hd', hb'⟩ :=
            ih mid.length fewer (Nat.not_lt.mp hlow) joined hb shorter' hnext rfl
          exact ⟨t :: (operand ++ last), by simp, by simpa using hd', hb'⟩

/-- **Soundness for expressions**, for the three ways of reading one together. -/
theorem faithful {tokens : List Token} : Faithful fin tokens := by
  induction hn : tokens.length using Nat.strongRecOn generalizing tokens with
  | ind n ih =>
    subst hn
    have shorter : ∀ us, us <:+ tokens → us.length < tokens.length → Faithful fin us :=
      fun us hus hlt => ih us.length hlt rfl
    have operand : ∀ {lowest e rest}, lowest ≤ 5 → (binary fin lowest tokens).outcome = .ok e rest →
        ∃ used, tokens = used ++ rest ∧ Derives.Operand lowest used e ∧ Below lowest rest := by
      intro lowest e rest le h
      rw [outcome_binary] at h
      obtain ⟨left, mid, hl, hnext⟩ := Outcome.bind_eq_ok.mp h
      obtain ⟨used, rfl, hd⟩ := unary_derives shorter hl
      have positive : 0 < used.length := by
        obtain ⟨t, us, rfl, -⟩ := hd.head
        simp
      have shorter' : ∀ us, us <:+ mid → us.length < mid.length → Faithful fin us := by
        intro us hus lt
        refine shorter us (hus.trans (List.suffix_append _ _)) ?_
        rw [List.length_append]
        omega
      obtain ⟨more, rfl, hd', hb⟩ := climbing_derives le (.prefixed hd)
        (below_of_five_le (by decide) mid) shorter' hnext
      exact ⟨used ++ more, by simp, hd', hb⟩
    refine ⟨?_, operand, unary_derives shorter⟩
    intro e rest h
    rw [outcome_expression] at h
    obtain ⟨target, mid, ht, hnext⟩ := Outcome.bind_eq_ok.mp h
    obtain ⟨used, rfl, hd, -⟩ := operand (by decide) ht
    cases mid with
    | nil => cases hnext; exact ⟨used, rfl, .operand hd⟩
    | cons t more =>
      dsimp only at hnext
      split at hnext
      · next hk =>
        obtain ⟨value, left, hv, hlast⟩ := Outcome.bind_eq_ok.mp hnext
        obtain ⟨hassign, rfl⟩ := Outcome.settle_eq_ok.mp hlast
        have fewer : more.length < (used ++ t :: more).length := by
          rw [List.length_append, List.length_cons]
          omega
        obtain ⟨us, rfl, hdv⟩ := (shorter more ⟨used ++ [t], by simp⟩ fewer).expression hv
        -- Only a name may be assigned to, and a name comes from one token.
        cases target with
        | reference name =>
          cases hassign
          obtain ⟨rfl, hn⟩ := hd.of_reference name rfl
          exact ⟨name :: t :: us, by simp, .assign hn hk hdv⟩
        | _ => cases hassign
      · cases hnext
        exact ⟨used, rfl, .operand hd⟩

/-- **Soundness for expressions**: what is read as an expression is one. -/
theorem expression_derives {tokens : List Token} {e : Expr}
    {rest : List Token} (h : (expression fin tokens).outcome = .ok e rest) :
    ∃ used, tokens = used ++ rest ∧ Derives.Expression used e :=
  faithful.expression h

end Soundness

end Grammar

end LoxScript
