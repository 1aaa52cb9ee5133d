import LoxScript.Number.Text

/-! # YAML values
The value of a YAML document: a scalar, a collection of values or a mapping. Settings are read from such
values, and the one setting that may have any value keeps it as it is. -/

namespace LoxScript

namespace Yaml

/-- What a collection of values is. -/
inductive Form where
  | list
  /-- The bytes of a binary scalar, as whole numbers. -/
  | bytes
  /-- The members of a set. -/
  | set
  deriving DecidableEq, Repr, Inhabited

/-- Values one after another, in some form. -/
structure Collection (α : Type) where
  /-- The values. -/
  items : List α
  /-- Whether they are a list or something else. -/
  form : Form := .list
  deriving Repr, Inhabited

/-- Values without a form of their own are a list. -/
instance {α : Type} : Coe (List α) (Collection α) := ⟨fun items => { items }⟩

/-- The values of a collection, whatever its form. -/
instance {α : Type} : Coe (Collection α) (List α) := ⟨Collection.items⟩

end Yaml

/-- The value of a document or of a part of one. -/
inductive Yaml where
  | null
  | boolean (b : Bool)
  | integer (n : Int)
  | real (x : Binary64)
  | text (s : String)
  /-- A date, with or without a time, as it is written. -/
  | timestamp (s : String)
  | sequence (items : Yaml.Collection Yaml)
  | mapping (entries : List (Yaml × Yaml))
  deriving Inhabited

namespace Yaml

mutual

/-- Whether two values are the same in kind and content. -/
def same : Yaml → Yaml → Bool
  | null, null => true
  | boolean a, boolean b => a == b
  | integer m, integer n => m == n
  | real x, real y => x == y
  | text s, text t => s == t
  | timestamp s, timestamp t => s == t
  | sequence ⟨xs, form⟩, sequence ⟨ys, other⟩ => form == other && sameItems xs ys
  | mapping xs, mapping ys => sameEntries xs ys
  | _, _ => false
termination_by structural v => v

/-- Whether two collections have the same items, in the same order. -/
def sameItems : List Yaml → List Yaml → Bool
  | [], [] => true
  | x :: xs, y :: ys => same x y && sameItems xs ys
  | _, _ => false
termination_by structural items => items

/-- Whether two entries have the same key and the same value. -/
def sameEntry : Yaml × Yaml → Yaml × Yaml → Bool
  | (k, v), (l, w) => same k l && same v w
termination_by structural entry => entry

/-- Whether two mappings have the same entries, in the same order. -/
def sameEntries : List (Yaml × Yaml) → List (Yaml × Yaml) → Bool
  | [], [] => true
  | e :: es, f :: fs => sameEntry e f && sameEntries es fs
  | _, _ => false
termination_by structural entries => entries

end

instance : BEq Yaml := ⟨same⟩

/-- A text is the same as that text only. -/
@[simp] theorem text_beq_iff {s : String} {v : Yaml} : (text s == v) = true ↔ v = text s := by
  show same (text s) v = true ↔ _
  cases v with
  | text t => rw [same, beq_iff_eq, text.injEq, eq_comm]
  | null | boolean | integer | real | timestamp | sequence | mapping => simp [same]

/-- Whether a value counts as absent where a choice is made: null, false, a zero, and what is empty. -/
def isEmpty : Yaml → Bool
  | null => true
  | boolean b => !b
  | integer n => n == 0
  | real x => x.isZero
  | text s => s.isEmpty
  | timestamp _ => false
  | sequence values => values.items.isEmpty
  | mapping entries => entries.isEmpty

mutual

/-- Whether a value can be written out as a text: a whole number of more than 4300 digits cannot. Bytes are
not written as numbers. -/
def writable : Yaml → Bool
  | integer n => n.natAbs < Nat.pow 10 4300
  | sequence ⟨items, form⟩ => form == .bytes || writableItems items
  | mapping entries => writableEntries entries
  | _ => true
termination_by structural v => v

/-- Whether all items of a collection can be written out. -/
def writableItems : List Yaml → Bool
  | [] => true
  | x :: xs => writable x && writableItems xs
termination_by structural items => items

/-- Whether the key and the value of an entry can be written out. -/
def writableEntry : Yaml × Yaml → Bool
  | (k, v) => writable k && writable v
termination_by structural entry => entry

/-- Whether all entries of a mapping can be written out. -/
def writableEntries : List (Yaml × Yaml) → Bool
  | [] => true
  | e :: es => writableEntry e && writableEntries es
termination_by structural entries => entries

end

/-- The name of the type of a value in messages. -/
def typeName : Yaml → String
  | null => "NoneType"
  | boolean _ => "bool"
  | integer _ => "int"
  | real _ => "float"
  | text _ => "str"
  | timestamp s => if s.contains ':' then "datetime.datetime" else "datetime.date"
  | sequence ⟨_, .list⟩ => "list"
  | sequence ⟨_, .bytes⟩ => "bytes"
  | sequence ⟨_, .set⟩ => "set"
  | mapping _ => "dict"

/-- The place of a value on the scale of numbers, in units; truth values count as one and zero. -/
def rank? : Yaml → Option Int
  | boolean b => some (if b then Binary64.one else 0)
  | integer n => some (n * Binary64.one)
  | real x => some x.rank
  | _ => none

/-- Whether two keys are the same: equal numbers are, whatever their types. -/
def sameKey (a b : Yaml) : Bool :=
  match a.rank?, b.rank? with
  | some x, some y => x == y
  | none, none => a == b
  | _, _ => false

/-- The entries with one more; an entry with the same key takes its value. -/
def insert (entries : List (Yaml × Yaml)) (key value : Yaml) : List (Yaml × Yaml) :=
  if entries.any (sameKey key ·.1) then
    entries.map fun e => if sameKey key e.1 then (e.1, value) else e
  else entries ++ [(key, value)]

end Yaml

end LoxScript
