import LoxScript.Proofs.Grammar.Acceptance
import LoxScript.Proofs.Printing.Core
import LoxScript.Proofs.Printing.Rereading
import LoxScript.Proofs.Printing.Settled

/-! # Whose an `else` is when it is read back

The canonical source puts braces around what stands before an `else` if that is a choice. It puts none
around a loop that ends in a choice without an alternative, and then the `else` goes to that choice.

* **`Stmt.isAnchored`** — whether braces or its own end keep what stands before each `else` from taking it.
* **`read_programSource`** — the canonical source is read as the regrouped program, settled.
* **`programSource_keeps_else`** — it has the core of the program exactly if the program is anchored. -/

namespace LoxScript

mutual

/-- **Whether each `else` stands behind a choice or behind a statement that is not open**, so that the
canonical source leaves nothing open before it. -/
def Stmt.isAnchored : Stmt → Bool
  | .block ss => Stmt.isAnchoredAll ss
  | .branch _ consequent none => consequent.isAnchored
  | .branch _ consequent (some alternative) =>
    (consequent.isBranch || !consequent.isOpen) && (consequent.isAnchored && alternative.isAnchored)
  | .loop _ body => body.isAnchored
  | _ => true

/-- Whether the statements of a block are anchored. -/
def Stmt.isAnchoredAll : List Stmt → Bool
  | [] => true
  | s :: rest => s.isAnchored && Stmt.isAnchoredAll rest

end

namespace Stmt

variable {E : Expr → Prop} {C : Stmt → Prop} {s : Stmt} {ss : List Stmt}

/-- Statements are anchored if each of them is. -/
theorem isAnchoredAll_eq_true : isAnchoredAll ss = true ↔ ∀ s ∈ ss, s.isAnchored = true := by
  induction ss with
  | nil => simp [isAnchoredAll]
  | cons s rest ih => simp [isAnchoredAll, ih]

/-- What stands before an `else` in an anchored choice. -/
theorem isBranch_or_isOpen {condition : Expr} {consequent alternative : Stmt}
    (h : (Stmt.branch condition consequent (some alternative)).isAnchored = true) :
    (consequent.isBranch = true ∨ consequent.isOpen = false) ∧ consequent.isAnchored = true ∧
      alternative.isAnchored = true := by
  simpa [isAnchored] using h

/-! ## Anchored statements by what stands before an `else` -/

/-- Where nothing is open before an `else`, statements are anchored. -/
theorem Over.isAnchored (h : s.Over E (·.isOpen = false)) : s.isAnchored = true := by
  induction h with
  | block _ ih => exact isAnchoredAll_eq_true.mpr ih
  | branch _ _ _ ih => exact ih
  | choice _ _ _ closed _ _ ih ih' => simp only [Stmt.isAnchored, closed, ih, ih']; simp
  | loop _ _ _ ih => exact ih
  | expression | print | declare => rfl

/-- Anchored statements have a choice or nothing open before an `else`. -/
theorem Over.anchored (h : s.Over E C) (anchored : s.isAnchored = true) :
    s.Over E fun t => t.isBranch = true ∨ t.isOpen = false := by
  induction h with
  | block _ ih => exact .block fun s mem => ih s mem (isAnchoredAll_eq_true.mp anchored s mem)
  | branch hc declared _ ih => exact .branch hc declared (ih anchored)
  | choice hc declared _ _ declared' _ ih ih' =>
    obtain ⟨before, first, second⟩ := isBranch_or_isOpen anchored
    exact .choice hc declared (ih first) before declared' (ih' second)
  | loop hc declared _ ih => exact .loop hc declared (ih anchored)
  | expression he => exact .expression he
  | print he => exact .print he
  | declare isName he => exact .declare isName he

/-! ## Cores of anchored statements -/

/-- A statement is open iff its core is. -/
@[simp] theorem isOpen_core (s : Stmt) : s.core.isOpen = s.isOpen := by
  induction s with
  | declare name initial => cases initial <;> rfl
  | branch condition consequent alternative _ ih =>
    cases alternative with
    | none => rfl
    | some a => simpa only [core, isOpen] using ih a rfl
  | loop condition body ih => simpa only [core, isOpen] using ih
  | block | expression | print | misplaced => rfl

/-- Taking the braces off a choice changes neither whether it is anchored nor whether it may
stand before an `else`. -/
theorem isAnchored_unbraced (s : Stmt) :
    s.unbraced.isAnchored = s.isAnchored ∧
      (s.unbraced.isBranch || !s.unbraced.isOpen) = (s.isBranch || !s.isOpen) := by
  unfold unbraced
  split
  · next inner =>
    split
    · next choice => exact ⟨(Bool.and_true _).symm, by rw [choice]; rfl⟩
    · exact ⟨rfl, rfl⟩
  · exact ⟨rfl, rfl⟩

/-- **Whether a statement is anchored shows in its core.** -/
theorem isAnchored_core (s : Stmt) : s.core.isAnchored = s.isAnchored := by
  induction s with
  | block ss ih =>
    rw [core, isAnchored, isAnchored, Bool.eq_iff_iff, isAnchoredAll_eq_true, isAnchoredAll_eq_true,
      coreAll_eq_map, List.forall_mem_map]
    exact forall₂_congr fun s mem => by rw [ih s mem]
  | declare name initial => cases initial <;> rfl
  | branch condition consequent alternative ih ih' =>
    cases alternative with
    | none => rw [core, isAnchored, isAnchored, ih]
    | some a =>
      obtain ⟨anchored, before⟩ := consequent.core.isAnchored_unbraced
      rw [core, isAnchored, isAnchored, before, anchored, isBranch_core, isOpen_core, ih, ih' a rfl]
  | loop condition body ih => rw [core, isAnchored, isAnchored, ih]
  | expression | print | misplaced => rfl

/-- Programs of one core are anchored alike. -/
theorem anchored_of_coreAll_eq {ss' : List Stmt} (same : coreAll ss = coreAll ss')
    (anchored : ∀ s ∈ ss, s.isAnchored = true) : ∀ s ∈ ss', s.isAnchored = true := by
  have cores : ∀ t ∈ coreAll ss, t.isAnchored = true := by
    rw [coreAll_eq_map, List.forall_mem_map]
    exact fun s mem => s.isAnchored_core.trans (anchored s mem)
  rw [same, coreAll_eq_map, List.forall_mem_map] at cores
  exact fun s mem => s.isAnchored_core.symm.trans (cores s mem)

end Stmt

/-! ## Reading the canonical source -/

section Reading

variable {program : List Stmt}

/-- The program as its canonical source says it, each `else` where the program has it. -/
def written (program : List Stmt) : List Stmt := Stmt.regroupedAll (program.map Stmt.named)

/-- What is written of a program has its core. -/
theorem coreAll_written (program : List Stmt) : Stmt.coreAll (written program) = Stmt.coreAll program := by
  rw [written, Stmt.regroupedAll_eq_map, Stmt.coreAll_map fun s _ => s.core_regrouped,
    Stmt.coreAll_map fun s _ => s.core_named]

/-- The settled program has nothing open before an `else`, and its expressions are read back. -/
theorem settled_over (printable : ∀ s ∈ program, s.Printable) :
    ∀ t ∈ Stmt.settledAll (written program),
      t.Over (Expr.Rereads Grammar.Derives.Expression) (·.isOpen = false) := by
  rw [Stmt.settledAll_eq_map, List.forall_mem_map]
  refine Stmt.forall_regroupedAll (List.forall_mem_map.mpr fun s mem => ?_)
  have regrouped : s.named.regrouped.Over (Expr.Rereads Grammar.Derives.Expression) fun _ => True :=
    (printable s mem).regrouped fun _ _ => trivial
  exact regrouped.settled

/-- **The canonical source is accepted, and read with each `else` at the last choice before it that is
open**, up to places. -/
theorem read_programSource (printable : ∀ s ∈ program, s.Printable) (file : Option String) :
    ∃ tokens program', tokenize (programSource program) file = .ok tokens ∧
      parse tokens (some (programSource program)) = .ok program' ∧
      Stmt.unplacedAll program' = Stmt.unplacedAll (Stmt.settledAll (written program)) := by
  have lexes := lexes_programSource (List.forall_mem_map.mpr printable)
  rw [programSource_named] at lexes
  obtain ⟨tokens, scanned, words⟩ := lexes_iff_tokenize.mp lexes
  have settled_words : Stmt.wordsAll (Stmt.settledAll (written program)) = Stmt.wordsAll (written program) :=
    Stmt.wordsAll_settledAll fun s _ => s.words_settled
  obtain ⟨program', derives, same⟩ :=
    derives_of_words (settled_over printable) (words.trans settled_words.symm)
  exact ⟨tokens, program', scanned, Grammar.parse_of_derives derives _, same⟩

/-- Settling an anchored program moves nothing. -/
theorem settledAll_written (printable : ∀ s ∈ program, s.Printable)
    (anchored : ∀ s ∈ program, s.isAnchored = true) :
    Stmt.settledAll (written program) = written program := by
  have each : ∀ t ∈ written program, t.settled = t := by
    refine Stmt.forall_regroupedAll (List.forall_mem_map.mpr fun s mem => ?_)
    have named : s.named.isAnchored = true := by
      rw [← Stmt.isAnchored_core, Stmt.core_named, Stmt.isAnchored_core, anchored s mem]
    exact (((printable s mem).anchored named).regrouped fun _ => Stmt.isOpen_braced).settled_eq
  rw [Stmt.settledAll_eq_map, List.map_congr_left each, List.map_id']

end Reading

/-- **Printing keeps each `else` exactly if the program is anchored.** The canonical source of a program
that can be printed is accepted, whatever stands before an `else` in it. What it is read as has the core of
the program, and so each `else` at the choice that owns it in the program, if and only if each `else` stands
behind a choice, which gets braces, or behind a statement that is not open. -/
theorem programSource_keeps_else {program : List Stmt} (printable : ∀ s ∈ program, s.Printable)
    (file : Option String) :
    ∃ tokens program', tokenize (programSource program) file = .ok tokens ∧
      parse tokens (some (programSource program)) = .ok program' ∧
      (Stmt.coreAll program' = Stmt.coreAll program ↔ ∀ s ∈ program, s.isAnchored = true) := by
  obtain ⟨tokens, program', scanned, parsed, same⟩ := read_programSource printable file
  refine ⟨tokens, program', scanned, parsed, ?_⟩
  have core := Stmt.coreAll_eq_of_unplacedAll_eq same
  constructor
  · intro kept
    -- What is read has nothing open before an `else`, and a core says whether its tree is anchored.
    refine Stmt.anchored_of_coreAll_eq (core.symm.trans kept) fun s mem => ?_
    exact (settled_over printable s mem).isAnchored
  · intro anchored
    rw [core, settledAll_written printable anchored, coreAll_written]

/-- The choice of the program stands before an `else` in braces, and its source is read back. -/
theorem programSource_keeps_else_braces :
    let inner : Stmt := .branch (.literal (.boolean true)) (.block []) none
    let program : List Stmt := [.branch (.literal (.boolean true)) inner (some (.block []))]
    (∀ s ∈ program, s.Printable) ∧
      programSource program = "if (true) \x7b\n    if (true) \x7b\x7d\n\x7d else \x7b\x7d" ∧
      ∃ tokens program', tokenize (programSource program) none = .ok tokens ∧
        parse tokens (some (programSource program)) = .ok program' ∧
        Stmt.coreAll program' = Stmt.coreAll program := by
  intro inner program
  have condition : (Expr.literal (.boolean true)).Writable := .literal nofun
  have empty : (Stmt.block []).Over Expr.Writable fun _ => True := .block nofun
  have printable : ∀ s ∈ program, s.Printable := by
    intro s mem
    rw [List.mem_singleton.mp mem]
    exact .choice condition rfl (.branch condition rfl empty) trivial rfl empty
  refine ⟨printable, by cbv, ?_⟩
  obtain ⟨tokens, program', scanned, parsed, kept⟩ := programSource_keeps_else printable none
  refine ⟨tokens, program', scanned, parsed, kept.mpr fun s mem => ?_⟩
  rw [List.mem_singleton.mp mem]
  rfl

/-- The loop before the `else` ends in a choice without an alternative, and the `else` of the outer choice is
read as that of the inner one. -/
theorem programSource_moves_else :
    let condition : Expr := .literal (.boolean true)
    let nested (inner outer : Option Stmt) : Stmt :=
      .branch condition (.loop condition (.branch condition (.block []) inner)) outer
    let program : List Stmt := [nested none (some (.block []))]
    (∀ s ∈ program, s.Printable) ∧
      programSource program = "if (true) while (true) if (true) \x7b\x7d else \x7b\x7d" ∧
      ∃ tokens program', tokenize (programSource program) none = .ok tokens ∧
        parse tokens (some (programSource program)) = .ok program' ∧
        Stmt.coreAll program' = [nested (some (.block [])) none] ∧
        Stmt.coreAll program' ≠ Stmt.coreAll program := by
  intro condition nested program
  have writable : condition.Writable := .literal nofun
  have empty : (Stmt.block []).Over Expr.Writable fun _ => True := .block nofun
  have printable : ∀ s ∈ program, s.Printable := by
    intro s mem
    rw [List.mem_singleton.mp mem]
    exact .choice writable rfl (.loop writable rfl (.branch writable rfl empty)) trivial rfl empty
  have printed : programSource program = "if (true) while (true) if (true) \x7b\x7d else \x7b\x7d" := by
    cbv
  obtain ⟨tokens, program', scanned, parsed, same⟩ := read_programSource printable none
  have moved : Stmt.coreAll program' = [nested (some (.block [])) none] :=
    Stmt.coreAll_eq_of_unplacedAll_eq same
  refine ⟨printable, printed, tokens, program', scanned, parsed, moved, fun kept => ?_⟩
  rw [moved] at kept
  cases kept

end LoxScript
