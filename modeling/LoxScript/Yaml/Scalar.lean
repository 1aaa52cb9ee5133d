import LoxScript.Number.Arithmetic
import LoxScript.Number.Decimal
import LoxScript.Yaml

/-! # Plain scalars
A scalar without quotes is a null, a truth value or a number if it is written like one, and a text
otherwise. The forms are those of YAML 1.1: `yes` and `off` are truth values, a number that starts with zero
is octal, underscores may stand between digits, and colons separate digits to the base sixty. -/

namespace LoxScript.Yaml.Scalar

/-- The ways to write null. -/
def nulls : List String := ["", "~", "null", "Null", "NULL"]

/-- The ways to write true. -/
def trues : List String := ["yes", "Yes", "YES", "true", "True", "TRUE", "on", "On", "ON"]

/-- The ways to write false. -/
def falses : List String := ["no", "No", "NO", "false", "False", "FALSE", "off", "Off", "OFF"]

/-- The value of a digit up to the base sixteen. -/
def digit? (c : Char) : Option Nat :=
  if '0' ≤ c && c ≤ '9' then some (c.toNat - '0'.toNat)
  else if 'a' ≤ c && c ≤ 'f' then some (c.toNat - 'a'.toNat + 10)
  else if 'A' ≤ c && c ≤ 'F' then some (c.toNat - 'A'.toNat + 10)
  else none

/-- A whole number to a base; underscores are passed over, but one digit there must be. -/
def whole? (base : Nat) (chars : List Char) : Option Nat :=
  let digits := chars.filter (· != '_')
  if digits.isEmpty then none
  else digits.foldlM (fun n c => do
    let d ← digit? c
    if d < base then some (n * base + d) else none) 0

/-- Splits off a sign. -/
def signed (chars : List Char) : Bool × List Char :=
  match chars with
  | '-' :: rest => (true, rest)
  | '+' :: rest => (false, rest)
  | _ => (false, chars)

/-- The places of a number to the base sixty: the first begins with a digit, the others have one or two. -/
def sixties? (parts : List (List Char)) : Option Nat := do
  let first :: rest := parts | none
  guard (!rest.isEmpty && first.head?.any CharClass.isAsciiDigit)
  let start ← whole? 10 first
  rest.foldlM (fun n part => do
    guard (part.all CharClass.isAsciiDigit && part.length ≤ 2)
    let d ← whole? 10 part
    guard (d < 60)
    return n * 60 + d) start

/-- The magnitude of a whole number. -/
def magnitude? (chars : List Char) : Option Nat :=
  match chars with
  | '0' :: 'b' :: rest => whole? 2 rest
  | '0' :: 'x' :: rest => whole? 16 rest
  | ['0'] => some 0
  | '0' :: rest => if rest.all (· == '_') then some 0 else whole? 8 rest
  | first :: rest =>
    if CharClass.isAsciiDigit first then
      if chars.contains ':' then sixties? (chars.splitOn ':') else whole? 10 (first :: rest)
    else none
  | [] => none

/-- The exponent of a decimal: nothing, or a letter with a signed number. -/
def exponent? (chars : List Char) : Option Int :=
  match chars with
  | [] => some 0
  | mark :: sign :: digits =>
    if (mark == 'e' || mark == 'E') && (sign == '+' || sign == '-') &&
        digits.all CharClass.isAsciiDigit then
      (whole? 10 digits).map fun n => if sign == '-' then -(n : Int) else n
    else none
  | _ => none

/-- The places before the point of a decimal; with colons they are to the base sixty. -/
def placesBefore? (chars : List Char) : Option Nat :=
  if chars.contains ':' then sixties? (chars.splitOn ':') else whole? 10 chars

/-- A decimal without its sign, which has a point. Digits may be missing before the point where `needsBefore`
does not ask for them, and after it where there are some before. An exponent goes with the base ten only. -/
def decimal? (needsBefore : Bool) (chars : List Char) : Option Decimal := do
  let isPart (c : Char) := CharClass.isAsciiDigit c || c == '_'
  let before := chars.takeWhile fun c => isPart c || c == ':'
  let '.' :: rest := chars.dropWhile (fun c => isPart c || c == ':') | none
  let after := rest.takeWhile isPart
  let tail := rest.dropWhile isPart
  guard (before.head?.any CharClass.isAsciiDigit ||
    (!needsBefore && before.isEmpty && after.head?.any CharClass.isAsciiDigit))
  guard (tail.isEmpty || !before.contains ':')
  let power ← exponent? tail
  let digits := after.filter (· != '_')
  let start ← if before.isEmpty then some 0 else placesBefore? before
  let fraction ← if digits.isEmpty then some 0 else whole? 10 digits
  return ⟨start * Nat.pow 10 digits.length + fraction, power - digits.length⟩

/-- The number with a sign and a magnitude. -/
def withSign (negative : Bool) (x : Binary64) : Binary64 := if negative then -x else x

/-- A real number, an infinity, or what is not a number. -/
def real? (chars : List Char) : Option Binary64 :=
  let (negative, rest) := signed chars
  if [".inf", ".Inf", ".INF"].contains (String.ofList rest) then some (.infinity negative)
  else if [".nan", ".NaN", ".NAN"].contains (String.ofList chars) then some .nan
  else (decimal? (rest.length < chars.length) rest).map fun d => withSign negative d.toBinary64

/-- The text after at least `least` and at most `most` digits. -/
def digits? (least most : Nat) (chars : List Char) : Option (List Char) :=
  let count := (chars.takeWhile CharClass.isAsciiDigit).length
  if least ≤ count && count ≤ most then some (chars.drop count) else none

/-- The text after a character. -/
def mark? (c : Char) : List Char → Option (List Char)
  | d :: rest => if d == c then some rest else none
  | [] => none

/-- The text after a date whose month and day have at least `least` digits. -/
def date? (least : Nat) (chars : List Char) : Option (List Char) := do
  let chars ← mark? '-' (← digits? 4 4 chars)
  let chars ← mark? '-' (← digits? least 2 chars)
  digits? least 2 chars

/-- Whether what stands behind the seconds of a time is a fraction or a zone, or nothing. -/
def endsTime (chars : List Char) : Bool :=
  let rest := match chars with
    | '.' :: fraction => fraction.dropWhile CharClass.isAsciiDigit
    | _ => chars
  match rest.dropWhile (fun c => c == ' ' || c == '\t') with
  | [] => rest.isEmpty
  | ['Z'] => true
  | sign :: zone =>
    (sign == '-' || sign == '+') &&
      match digits? 1 2 zone with
      | some [] => true
      | some (':' :: minutes) => digits? 2 2 minutes == some []
      | _ => false

/-- Whether this is the time of a date: a letter or blanks, hours, minutes and seconds. -/
def isTime (chars : List Char) : Bool :=
  let start := match chars with
    | 'T' :: rest | 't' :: rest => some rest
    | ' ' :: _ | '\t' :: _ => some (chars.dropWhile fun c => c == ' ' || c == '\t')
    | _ => none
  let seconds := do
    let minutes ← mark? ':' (← digits? 1 2 (← start))
    let seconds ← mark? ':' (← digits? 2 2 minutes)
    digits? 2 2 seconds
  seconds.any endsTime

/-- Whether a scalar is a date, alone or with a time. -/
def isTimestamp (chars : List Char) : Bool :=
  date? 2 chars == some [] || (date? 1 chars).any isTime

/-- The value of a plain scalar. Two forms have a meaning of their own and are no values: the equals sign and
the sign for merging. -/
def resolve? (chars : List Char) : Option Yaml :=
  let word := String.ofList chars
  if word == "=" || word == "<<" then none
  else if nulls.contains word then some .null
  else if trues.contains word then some (.boolean true)
  else if falses.contains word then some (.boolean false)
  else
    let (negative, rest) := signed chars
    match magnitude? rest, real? chars with
    | some n, _ => some (.integer (if negative then -(n : Int) else n))
    | none, some x => some (.real x)
    | none, none => some (if isTimestamp chars then .timestamp word else .text word)

end LoxScript.Yaml.Scalar
