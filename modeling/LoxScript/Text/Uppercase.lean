import LoxScript.Text.CaseTable
import LoxScript.Text.CharClass

/-! # Upper case
The upper-case form of a text, by the full case mapping: a letter may become more than one character. -/

namespace LoxScript.Uppercase

/-- The upper-case form of a character; one without such a form stays. -/
def ofChar (c : Char) : List Char :=
  if CharClass.isAscii c then [c.toUpper]
  else
    let n := c.toNat
    match CaseTable.expansions.lookup n with
    | some codes => codes.map Char.ofNat
    | none =>
      match CaseTable.runs.find? fun (first, last, step, _) =>
          first ≤ n && n ≤ last && (n - first) % step == 0 with
      | some (_, _, _, distance) => [Char.ofNat (n + distance).toNat]
      | none => [c]

end LoxScript.Uppercase

namespace LoxScript

/-- The upper-case form of `text`. -/
def uppercase (text : String) : String := String.ofList (text.toList.flatMap Uppercase.ofChar)

end LoxScript
