import LoxScript.Proofs.Printing.Spelling

/-! # Where an `else` settles

The words of a tree do not tell to which of the choices before it an `else` belongs. Reading them, it
settles with the last of these choices that is still open, which need not be the one that owns it in the
tree.

* **`Stmt.attach`** — an open statement with an `else` behind it.
* **`Stmt.settled`** — the tree in which each `else` has settled.
* **`Stmt.words_settled`** — it has the same words.
* **`Stmt.Over.settled`**, **`Stmt.Over.settled_eq`** — it has nothing open before an `else`, and is the tree
  itself if that has nothing open there either. -/

namespace LoxScript

/-- The statement with an alternative for the last open choice in it, if there is one. -/
def Stmt.attach (s alternative : Stmt) : Stmt :=
  match s with
  | .branch condition consequent none =>
    if consequent.isOpen then .branch condition (consequent.attach alternative) none
    else .branch condition consequent (some alternative)
  | .branch condition consequent (some last) =>
    .branch condition consequent (some (last.attach alternative))
  | .loop condition body => .loop condition (body.attach alternative)
  | s => s

mutual

/-- The statement with each `else` at the last choice before it that is open. -/
def Stmt.settled : Stmt → Stmt
  | .block ss => .block (Stmt.settledAll ss)
  | .branch condition consequent none => .branch condition consequent.settled none
  | .branch condition consequent (some alternative) =>
    (Stmt.branch condition consequent.settled none).attach alternative.settled
  | .loop condition body => .loop condition body.settled
  | s => s

/-- The statements of a block, settled. -/
def Stmt.settledAll : List Stmt → List Stmt
  | [] => []
  | s :: rest => s.settled :: Stmt.settledAll rest

end

namespace Stmt

variable {E : Expr → Prop} {C : Stmt → Prop} {s alternative : Stmt} {ss : List Stmt}

/-- The statements of a block are settled one by one. -/
theorem settledAll_eq_map (ss : List Stmt) : settledAll ss = ss.map settled := by
  induction ss with
  | nil => rw [settledAll, List.map_nil]
  | cons s rest ih => rw [settledAll, ih, List.map_cons]

/-! ## The same words -/

/-- Attaching an alternative to an open statement puts it behind an `else` at the end. -/
theorem words_attach (h : s.isOpen = true) :
    (s.attach alternative).words = s.words ++ .mark .elseWord :: alternative.words := by
  induction s with
  | branch condition consequent last ih ih' =>
    cases last with
    | none =>
      by_cases inner : consequent.isOpen = true
      · simp only [attach, if_pos inner, words, ih inner, List.append_assoc, List.cons_append]
      · simp only [attach, if_neg inner, words, List.append_assoc, List.cons_append]
    | some last => simp only [attach, words, ih' last rfl h, List.append_assoc, List.cons_append]
  | loop condition body ih => simp only [attach, words, ih h, List.append_assoc, List.cons_append]
  | block | expression | print | declare | misplaced => cases h

/-- Their words are the same if those of each are. -/
theorem wordsAll_settledAll (each : ∀ s ∈ ss, s.settled.words = s.words) :
    wordsAll (settledAll ss) = wordsAll ss := by
  induction ss with
  | nil => rw [settledAll]
  | cons s rest ih =>
    rw [settledAll, wordsAll, wordsAll, each s (List.mem_cons_self ..),
      ih fun t mem => each t (List.mem_cons_of_mem _ mem)]

/-- **Settling keeps the words.** -/
theorem words_settled (s : Stmt) : s.settled.words = s.words := by
  induction s with
  | block ss ih => rw [settled, words, words, wordsAll_settledAll ih]
  | branch condition consequent alternative ih ih' =>
    cases alternative with
    | none => rw [settled, words, words, ih]
    | some a =>
      -- The choice that the `else` stands behind is open, whatever is in it.
      have owner : (Stmt.branch condition consequent.settled none).isOpen = true := rfl
      rw [settled, words_attach owner, words, words, ih, ih' a rfl]
      simp only [List.append_assoc, List.cons_append]
  | loop condition body ih => rw [settled, words, words, ih]
  | expression | print | declare | misplaced => rfl

/-! ## Nothing open before an `else` -/

/-- An `else` behind a statement declares nothing in it. -/
@[simp] theorem declared_attach (s alternative : Stmt) : (s.attach alternative).declared = s.declared := by
  cases s with
  | branch condition consequent last =>
    cases last with
    | none =>
      rw [attach]
      split <;> rfl
    | some last => rfl
  | block | expression | print | declare | loop | misplaced => rfl

/-- Settling leaves alone what a statement declares. -/
@[simp] theorem declared_settled (s : Stmt) : s.settled.declared = s.declared := by
  cases s with
  | branch condition consequent alternative =>
    cases alternative with
    | none => rfl
    | some a =>
      rw [settled, declared_attach]
      rfl
  | block | expression | print | declare | loop | misplaced => rfl

/-- An alternative goes to a choice whose consequent is not open. -/
theorem Over.attach (h : s.Over E (·.isOpen = false)) (ha : alternative.Over E (·.isOpen = false))
    (declared : alternative.declared = []) :
    (s.attach alternative).Over E (·.isOpen = false) := by
  induction h with
  | @branch condition consequent hc hd ht ih =>
    rw [Stmt.attach]
    split
    · exact .branch hc ((consequent.declared_attach alternative).trans hd) ih
    · next closed => exact .choice hc hd ht (Bool.eq_false_of_not_eq_true closed) declared ha
  | @choice condition consequent last hc hd ht closed hd' _ _ ih =>
    exact .choice hc hd ht closed ((last.declared_attach alternative).trans hd') ih
  | @loop condition body hc hd _ ih => exact .loop hc ((body.declared_attach alternative).trans hd) ih
  | block hs => exact .block hs
  | expression he => exact .expression he
  | print he => exact .print he
  | declare isName he => exact .declare isName he

/-- **A settled statement has nothing open before an `else`.** -/
theorem Over.settled (h : s.Over E C) : s.settled.Over E (·.isOpen = false) := by
  induction h with
  | @block ss _ ih =>
    rw [Stmt.settled, settledAll_eq_map]
    exact .block (List.forall_mem_map.mpr ih)
  | @branch condition consequent hc hd _ ih =>
    exact .branch hc (consequent.declared_settled.trans hd) ih
  | @choice condition consequent alternative hc hd _ _ hd' _ ih ih' =>
    have owner : (Stmt.branch condition consequent.settled none).Over E (·.isOpen = false) :=
      .branch hc (consequent.declared_settled.trans hd) ih
    exact owner.attach ih' (alternative.declared_settled.trans hd')
  | @loop condition body hc hd _ ih => exact .loop hc (body.declared_settled.trans hd) ih
  | expression he => exact .expression he
  | print he => exact .print he
  | declare isName he => exact .declare isName he

/-- **A statement with nothing open before an `else` is settled.** -/
theorem Over.settled_eq (h : s.Over E (·.isOpen = false)) : s.settled = s := by
  induction h with
  | @block ss _ ih =>
    rw [Stmt.settled, settledAll_eq_map, List.map_congr_left ih, List.map_id']
  | branch _ _ _ ih => rw [Stmt.settled, ih]
  | choice _ _ _ closed _ _ ih ih' =>
    rw [Stmt.settled, ih, ih', Stmt.attach, if_neg (Bool.eq_false_iff.mp closed)]
  | loop _ _ _ ih => rw [Stmt.settled, ih]
  | expression | print | declare => rfl

end Stmt

end LoxScript
