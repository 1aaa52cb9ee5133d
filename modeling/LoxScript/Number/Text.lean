import LoxScript.Number.Shortest

/-! # Numbers as text
Two written forms of a number. The *plain* form is what a program prints: never an exponent, and no point
for a whole number. The *short* form is what listings and dumps show: the fewest digits, with an exponent
for very large and very small numbers. -/

namespace LoxScript.Binary64

/-- The text of a sign. -/
def signText (negative : Bool) : String := if negative then "-" else ""

/-- The text a program prints: all digits of a whole number, else the shortest digits around a point. -/
def plain (x : Binary64) : String :=
  match x with
  | .nan => "NaN"
  | .infinity s => signText s ++ "inf"
  | .finite s .. =>
    match x.integer? with
    | some n => toString n
    | none => signText s ++ String.ofList x.shortest.positional

/-- The text a listing shows: the shortest digits, in positional form from `10^-4` to below `10^16`, where
a whole number ends in `.0`. -/
def short (x : Binary64) : String :=
  match x with
  | .nan => "nan"
  | .infinity s => signText s ++ "inf"
  | .finite s .. =>
    if x.isZero then signText s ++ "0.0" else
    let d := x.shortest
    let digits :=
      if -4 ≤ d.magnitude ∧ d.magnitude < 16 then
        d.positional ++ if 0 ≤ d.exponent then ['.', '0'] else []
      else d.scientific
    signText s ++ String.ofList digits

end LoxScript.Binary64
