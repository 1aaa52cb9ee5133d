/-! # A cursor over a text
A cursor stands between the characters it has passed and those still ahead. It only moves forward, one
character at a time; looking around does not move it. -/

namespace LoxScript

/-- A place between two characters of a text. -/
structure Cursor where
  /-- The characters passed, the nearest first. -/
  passed : List Char
  /-- The characters still ahead. -/
  ahead : List Char
  /-- How many characters have been passed. -/
  position : Nat := passed.length
  /-- The position counts the characters passed. -/
  position_eq : position = passed.length := by rfl
  deriving DecidableEq, Repr

namespace Cursor

/-- The cursor at the start of `text`. -/
def atStart (text : List Char) : Cursor := { passed := [], ahead := text }

/-- The whole text, wherever the cursor stands. -/
def text (c : Cursor) : List Char := c.passed.reverse ++ c.ahead

/-- The number of characters of the text. -/
def size (c : Cursor) : Nat := c.position + c.ahead.length

/-- Whether no character is ahead. -/
def atEnd (c : Cursor) : Bool := c.ahead.isEmpty

/-- The next character and the cursor after it. -/
def advance? (c : Cursor) : Option (Char × Cursor) :=
  match c.ahead with
  | [] => none
  | ch :: rest => some (ch,
      { passed := ch :: c.passed, ahead := rest, position := c.position + 1,
        position_eq := by rw [c.position_eq, List.length_cons] })

/-- The cursor after `count` more characters, or at the end if there are fewer. -/
def skip (c : Cursor) (count : Nat) : Cursor where
  passed := (c.ahead.take count).reverse ++ c.passed
  ahead := c.ahead.drop count
  position := c.position + min count c.ahead.length
  position_eq := by
    rw [c.position_eq, List.length_append, List.length_reverse, List.length_take, Nat.add_comm]

/-- The character `n` places ahead; the one about to be consumed is at zero. -/
def peek (c : Cursor) (n : Int) : Option Char :=
  if n < 0 then none else c.ahead[n.toNat]?

/-- The character `n` places behind; the one consumed last is at one, and the next one at zero. -/
def peekBehind (c : Cursor) (n : Int) : Option Char :=
  if n < 0 then none
  else if n = 0 then c.ahead[0]?
  else c.passed[n.toNat - 1]?

/-- The characters from `start` up to but excluding `stop`, if the bounds lie in the text and in order. -/
def slice (c : Cursor) (start stop : Int) : Option (List Char) :=
  if start < 0 ∨ stop < start ∨ (c.size : Int) < stop then none
  else some ((c.text.drop start.toNat).take (stop - start).toNat)

/-- The cursor at the end of the text. -/
def toEnd (c : Cursor) : Cursor := c.skip c.ahead.length

/-- Skipping does not change the text. -/
theorem text_skip (c : Cursor) (count : Nat) : (c.skip count).text = c.text := by
  simp [skip, text, List.append_assoc]

/-- Consuming one character does not change the text. -/
theorem text_advance? {c d : Cursor} {ch : Char} (h : c.advance? = some (ch, d)) : d.text = c.text := by
  unfold advance? at h
  split at h
  · simp at h
  · next e => simp only [Option.some.injEq, Prod.mk.injEq] at h; simp [← h.2, text, e]

end Cursor

end LoxScript
