import LoxScript.Yaml.Scalar

/-! # YAML documents
Reading the part of YAML in which settings are written: mappings and sequences by indentation, the same in
brackets, scalars in quotes and plain ones, and comments. Whatever lies outside that part is malformed:
tags, anchors, block scalars, keys that are not scalars, and further documents in one text. The settings of a
file can be read by any reader of documents (`Settings.ofFileBy`), and what is said of them holds for all of
these; this reader is the one that the program runs with. Every function that reads a part gives it back with
the characters after it, or nothing if the part is malformed; it is given a number of steps that the length of
the text bounds. -/

namespace LoxScript.Yaml

/-! ## Blanks, comments and lines -/

/-- The text after the blanks at its beginning. -/
def skipBlanks (text : List Char) : List Char := text.dropWhile (· == ' ')

/-- Whether a character may stand between words: a blank, a tab or a newline. -/
def isSpace (c : Char) : Bool := c == ' ' || c == '\t' || c == '\n'

/-- The text after the next newline. -/
def nextLine (text : List Char) : List Char := (text.dropWhile (· != '\n')).drop 1

/-- The text after the rest of a line that holds nothing but blanks and a comment. -/
def endLine? (text : List Char) : Option (List Char) :=
  match skipBlanks text with
  | [] => some []
  | '\n' :: after => some after
  | '#' :: comment => some (nextLine comment)
  | _ => none

/-- The indentation of the next line that is neither blank nor a comment, and the text from that line on. -/
def nextContent (steps : Nat) (text : List Char) : Nat × List Char :=
  match steps with
  | 0 => (0, [])
  | n + 1 =>
    match endLine? text with
    | some [] => (0, [])
    | some after => nextContent n after
    | none => ((text.takeWhile (· == ' ')).length, text)

/-- Whether a line is the mark that begins or ends a document. -/
def isMark (mark : List Char) (text : List Char) : Bool :=
  mark.isPrefixOf text && ((text.drop mark.length).head?.all isSpace)

/-- Whether the text stands at the end of the document. -/
def atDocumentEnd (text : List Char) : Bool :=
  text.isEmpty || isMark "---".toList text || isMark "...".toList text

/-! ## Scalars -/

/-- The text without blanks and newlines at its ends. -/
def trim (text : List Char) : List Char :=
  ((text.dropWhile isSpace).reverse.dropWhile isSpace).reverse

/-- Line breaks in a scalar: one becomes a blank, and of more than one the first is lost. -/
def foldBreaks (count : Nat) : List Char := if count ≤ 1 then [' '] else List.replicate (count - 1) '\n'

/-- The blanks and line breaks at the beginning of a text as they count within quotes: blanks without a
line break stay, and line breaks are folded together with the blanks around them. -/
def foldSpace (text : List Char) : List Char × List Char :=
  let space := text.takeWhile isSpace
  let rest := text.dropWhile isSpace
  let breaks := space.countP (· == '\n')
  (if breaks = 0 then space else foldBreaks breaks, rest)

/-- The text between apostrophes, the first of which has been read; two stand for one. -/
def singleQuoted (steps : Nat) (text : List Char) : Option (List Char × List Char) :=
  match steps with
  | 0 => none
  | n + 1 =>
    match text with
    | [] => none
    | '\'' :: '\'' :: rest => (singleQuoted n rest).map fun (s, after) => ('\'' :: s, after)
    | '\'' :: rest => some ([], rest)
    | c :: rest =>
      if isSpace c then
        let (space, after) := foldSpace text
        (singleQuoted n after).map fun (s, left) => (space ++ s, left)
      else (singleQuoted n rest).map fun (s, after) => (c :: s, after)

/-- The character that a letter stands for behind a backslash. -/
def escape? : Char → Option Char
  | '0' => some '\x00'
  | 'a' => some '\x07'
  | 'b' => some '\x08'
  | 't' | '\t' => some '\t'
  | 'n' => some '\n'
  | 'v' => some '\x0b'
  | 'f' => some '\x0c'
  | 'r' => some '\r'
  | 'e' => some '\x1b'
  | ' ' => some ' '
  | '"' => some '"'
  | '/' => some '/'
  | '\\' => some '\\'
  | 'N' => some '\u0085'
  | '_' => some '\u00a0'
  | 'L' => some '\u2028'
  | 'P' => some '\u2029'
  | _ => none

/-- The number of hexadecimal digits that a letter announces behind a backslash. -/
def codeLength? : Char → Option Nat
  | 'x' => some 2
  | 'u' => some 4
  | 'U' => some 8
  | _ => none

/-- The character with the code point that `count` hexadecimal digits give. -/
def codePoint? (count : Nat) (text : List Char) : Option Char := do
  let digits := text.take count
  guard (digits.length == count && digits.all fun c => (Scalar.digit? c).isSome)
  let code ← Scalar.whole? 16 digits
  guard code.isValidChar
  return Char.ofNat code

/-- The text between double quotes, the first of which has been read. -/
def doubleQuoted (steps : Nat) (text : List Char) : Option (List Char × List Char) :=
  match steps with
  | 0 => none
  | n + 1 =>
    match text with
    | [] => none
    | '"' :: rest => some ([], rest)
    | '\\' :: '\n' :: rest =>
      let breaks := (rest.takeWhile isSpace).countP (· == '\n')
      (doubleQuoted n (rest.dropWhile isSpace)).map fun (s, after) =>
        (List.replicate breaks '\n' ++ s, after)
    | '\\' :: c :: rest =>
      match escape? c, codeLength? c with
      | some e, _ => (doubleQuoted n rest).map fun (s, after) => (e :: s, after)
      | none, some count => do
        let e ← codePoint? count rest
        let (s, after) ← doubleQuoted n (rest.drop count)
        return (e :: s, after)
      | none, none => none
    | c :: rest =>
      if isSpace c then
        let (space, after) := foldSpace text
        (doubleQuoted n after).map fun (s, left) => (space ++ s, left)
      else (doubleQuoted n rest).map fun (s, after) => (c :: s, after)

/-- The characters that cannot begin a plain scalar. -/
def indicators : List Char :=
  [',', '[', ']', '\x7b', '\x7d', '#', '&', '*', '!', '|', '>', '\'', '"', '%', '@', '\x60']

/-- Whether a plain scalar can begin here. -/
def startsPlain (text : List Char) : Bool :=
  match text with
  | [] => false
  | c :: rest =>
    if c == '-' || c == '?' || c == ':' then rest.head?.any (!isSpace ·)
    else !indicators.contains c && !isSpace c

/-- Whether a character is punctuation within brackets. -/
def isPunctuation (c : Char) : Bool := [',', '[', ']', '\x7b', '\x7d'].contains c

/-- Whether a plain scalar ends before these characters: at a line's end, a tab, a comment, or a colon that
ends a key. Within brackets it also ends at their punctuation and at a question mark. -/
def endsPlain (inBrackets : Bool) (text : List Char) : Bool :=
  match text with
  | [] => true
  | ':' :: rest => rest.head?.all fun d => isSpace d || (inBrackets && isPunctuation d)
  | ' ' :: rest => (skipBlanks rest).head?.any (· == '#')
  | c :: _ => isSpace c || (inBrackets && (isPunctuation c || c == '?'))

/-- The characters of a plain scalar on one line, and the rest. -/
def plainLine (inBrackets : Bool) : List Char → List Char × List Char
  | [] => ([], [])
  | c :: rest =>
    if endsPlain inBrackets (c :: rest) then ([], c :: rest)
    else
      let (taken, left) := plainLine inBrackets rest
      (c :: taken, left)

/-- Goes on with a plain scalar on the next lines as long as these are indented by at least `indent`. Such
a line must not hold a key. -/
def plainLines (steps : Nat) (indent : Nat) (first : List Char) (text : List Char) :
    Option (List Char × List Char) :=
  match steps with
  | 0 => none
  | n + 1 =>
    let space := text.takeWhile fun c => c == ' ' || c == '\n'
    let rest := text.dropWhile fun c => c == ' ' || c == '\n'
    let breaks := space.countP (· == '\n')
    let column := (space.reverse.takeWhile (· == ' ')).length
    let stops := breaks = 0 || rest.isEmpty || column < indent || rest.head? == some '#' ||
      (column == 0 && atDocumentEnd rest)
    if stops then (endLine? text).map fun after => (first, after)
    else
      let (taken, left) := plainLine false rest
      if (trim left).head? == some ':' then none
      else plainLines n indent (first ++ foldBreaks breaks ++ trim taken) left

/-! ## Values in brackets -/

/-- The text after blanks, line breaks and comments. -/
def skipFlow (steps : Nat) (text : List Char) : List Char :=
  match steps with
  | 0 => text
  | n + 1 =>
    match text with
    | '#' :: _ => skipFlow n (text.dropWhile (· != '\n'))
    | c :: rest => if c == ' ' || c == '\n' then skipFlow n rest else text
    | [] => []

/-- A plain scalar within brackets, over as many lines as it takes. -/
def flowPlain (steps : Nat) (text : List Char) : List Char × List Char :=
  match steps with
  | 0 => ([], text)
  | n + 1 =>
    let (taken, left) := plainLine true text
    let after := skipFlow n left
    if left.head? == some '\n' && startsPlain after && !endsPlain true after then
      let (more, rest) := flowPlain n after
      (trim taken ++ ' ' :: more, rest)
    else (trim taken, left)

mutual

/-- Reads a value within brackets. -/
def flowValue (steps : Nat) (text : List Char) : Option (Yaml × List Char) :=
  match steps with
  | 0 => none
  | n + 1 =>
    match text with
    | '[' :: rest => (flowItems n (skipFlow n rest)).map fun (items, after) => (.sequence items, after)
    | '\x7b' :: rest =>
      (flowEntries n [] (skipFlow n rest)).map fun (entries, after) => (.mapping entries, after)
    | '\'' :: rest => (singleQuoted n rest).map fun (s, after) => (.text (String.ofList s), after)
    | '"' :: rest => (doubleQuoted n rest).map fun (s, after) => (.text (String.ofList s), after)
    | _ =>
      if startsPlain text then
        let (s, after) := flowPlain n text
        (Scalar.resolve? s).map (·, after)
      else none

/-- Reads the items of a sequence up to its bracket. An item with a colon is a mapping of one entry. -/
def flowItems (steps : Nat) (text : List Char) : Option (List Yaml × List Char) :=
  match steps with
  | 0 => none
  | n + 1 =>
    match text with
    | ']' :: rest => some ([], rest)
    | _ => do
      let (item, left) ← flowValue n text
      let (item, left) ← match skipFlow n left with
        | ':' :: rest => do
          let (value, after) ← flowEntryValue n (skipFlow n rest)
          pure (Yaml.mapping [(item, value)], after)
        | other => pure (item, other)
      match skipFlow n left with
      | ',' :: rest =>
        let (items, after) ← flowItems n (skipFlow n rest)
        return (item :: items, after)
      | ']' :: rest => return ([item], rest)
      | _ => none

/-- Reads the entries of a mapping up to its brace. A key without a colon has no value. -/
def flowEntries (steps : Nat) (entries : List (Yaml × Yaml)) (text : List Char) :
    Option (List (Yaml × Yaml) × List Char) :=
  match steps with
  | 0 => none
  | n + 1 =>
    match text with
    | '\x7d' :: rest => some (entries, rest)
    | _ => do
      let (key, left) ← flowValue n text
      let (value, left) ← match skipFlow n left with
        | ':' :: rest => flowEntryValue n (skipFlow n rest)
        | other => pure (Yaml.null, other)
      match key with
      | .sequence _ | .mapping _ => none
      | _ =>
        match skipFlow n left with
        | ',' :: rest => flowEntries n (insert entries key value) (skipFlow n rest)
        | '\x7d' :: rest => return (insert entries key value, rest)
        | _ => none

/-- Reads the value of an entry, which may be missing. -/
def flowEntryValue (steps : Nat) (text : List Char) : Option (Yaml × List Char) :=
  match steps with
  | 0 => none
  | n + 1 =>
    match text with
    | ',' :: _ | '\x7d' :: _ | ']' :: _ => some (.null, text)
    | _ => flowValue n text

end

/-! ## Values by indentation -/

/-- The key that a plain scalar is; the equals sign is a key like any other. -/
def keyOf? (chars : List Char) : Option Yaml :=
  if chars == ['='] then some (.text "=") else Scalar.resolve? chars

/-- A key at the beginning of a line, which may be missing before its colon, and the text after its colon;
nothing if the line has no key. -/
def key? (steps : Nat) (text : List Char) : Option (Yaml × List Char) :=
  let colon (key : Yaml) (rest : List Char) : Option (Yaml × List Char) :=
    match skipBlanks rest with
    | ':' :: after =>
      if after.head?.all isSpace then some (key, after) else none
    | _ => none
  match text with
  | '\'' :: rest => do
    let (s, after) ← singleQuoted steps rest
    guard (!((text.take (text.length - after.length)).contains '\n'))
    colon (.text (String.ofList s)) after
  | '"' :: rest => do
    let (s, after) ← doubleQuoted steps rest
    guard (!((text.take (text.length - after.length)).contains '\n'))
    colon (.text (String.ofList s)) after
  | _ =>
    if startsPlain text then
      let (s, after) := plainLine false text
      (keyOf? (trim s)).bind (colon · after)
    else colon .null text

/-- Whether an item of a sequence begins here. -/
def isItem (text : List Char) : Bool :=
  match text with
  | '-' :: rest => rest.head?.all isSpace
  | _ => false

/-- A value that begins within a line and is neither a mapping nor a sequence by indentation, with the lines
after it. Its further lines are indented by at least `indent`. -/
def inlineValue (steps : Nat) (indent : Nat) (text : List Char) : Option (Yaml × List Char) :=
  let close (r : Option (Yaml × List Char)) : Option (Yaml × List Char) := do
    let (value, after) ← r
    let left ← endLine? after
    return (value, left)
  match text with
  | '[' :: _ | '\x7b' :: _ | '\'' :: _ | '"' :: _ => close (flowValue steps text)
  | _ =>
    if startsPlain text then do
      let (s, left) := plainLine false text
      guard ((trim left).head? != some ':')
      let (all, after) ← plainLines steps indent (trim s) left
      return (← Scalar.resolve? all, after)
    else none

mutual

/-- Reads the value that stands on the next lines if these are indented by at least `indent`;
else there is none. -/
def blockValue (steps : Nat) (indent : Nat) (text : List Char) : Option (Yaml × List Char) :=
  match steps with
  | 0 => none
  | n + 1 =>
    let (column, here) := nextContent n text
    let content := here.drop column
    if column < indent || here.isEmpty || (column == 0 && atDocumentEnd here) then some (.null, here)
    else if isItem content then
      (blockItems n column here).map fun (items, after) => (.sequence items, after)
    else if (key? n content).isSome then
      (blockEntries n column [] here).map fun (entries, after) => (.mapping entries, after)
    else inlineValue n indent content

/-- Reads the items of a sequence at one indentation. -/
def blockItems (steps : Nat) (column : Nat) (text : List Char) : Option (List Yaml × List Char) :=
  match steps with
  | 0 => none
  | n + 1 =>
    let (next, here) := nextContent n text
    let content := here.drop next
    if next < column || here.isEmpty || (next == 0 && atDocumentEnd here) then some ([], here)
    else if next == column && isItem content then do
      let (item, left) ← blockValue n (column + 1) (List.replicate (column + 1) ' ' ++ content.drop 1)
      let (items, after) ← blockItems n column left
      return (item :: items, after)
    else if next == column then some ([], here)
    else none

/-- Reads the entries of a mapping at one indentation. -/
def blockEntries (steps : Nat) (column : Nat) (entries : List (Yaml × Yaml)) (text : List Char) :
    Option (List (Yaml × Yaml) × List Char) :=
  match steps with
  | 0 => none
  | n + 1 =>
    let (next, here) := nextContent n text
    if next < column || here.isEmpty || (next == 0 && atDocumentEnd here) then some (entries, here)
    else if next == column then do
      let (key, left) ← key? n (here.drop next)
      let (value, after) ← entryValue n column left
      blockEntries n column (insert entries key value) after
    else none

/-- Reads the value after the colon of a key: on the same line, or on the next ones. A sequence may stand
at the indentation of the key. -/
def entryValue (steps : Nat) (column : Nat) (text : List Char) : Option (Yaml × List Char) :=
  match steps with
  | 0 => none
  | n + 1 =>
    match endLine? text with
    | none => inlineValue n (column + 1) (skipBlanks text)
    | some after =>
      let (next, here) := nextContent n after
      if next == column && isItem (here.drop next) then
        (blockItems n column here).map fun (items, left) => (.sequence items, left)
      else blockValue n (column + 1) after

end

/-- Whether a character may stand in a document. -/
def isAllowed (c : Char) : Bool :=
  c == '\t' || c == '\n' || c == '\r' || (' ' ≤ c && c ≤ '~') || c == '\u0085' ||
    ('\u00a0' ≤ c && c != '\ufffe' && c != '\uffff')

/-- The characters of a document: without the mark of the byte order, and with newlines of one kind. -/
def documentChars (text : String) : List Char :=
  let chars := match text.toList with
    | '\ufeff' :: rest => rest
    | chars => chars
  chars.map fun c => if c == '\u0085' then '\n' else c

/-- Reads the value of a document. Behind the mark that begins it only a value without keys may stand
on the same line. -/
def documentValue (steps : Nat) (text : List Char) : Option (Yaml × List Char) :=
  let (_, start) := nextContent steps text
  if isMark "---".toList start then
    let rest := start.drop 3
    match endLine? rest with
    | none => inlineValue steps 0 (skipBlanks rest)
    | some after => blockValue steps 0 after
  else blockValue steps 0 text

/-- Reads a document; nothing if it is malformed. -/
def read? (text : String) : Option Yaml := do
  guard (text.toList.all isAllowed)
  let chars := documentChars text
  let steps := 2 * chars.length + 10
  let (value, left) ← documentValue steps chars
  let (_, rest) := nextContent steps left
  let rest := if isMark "...".toList rest then (nextContent steps (nextLine rest)).2 else rest
  guard rest.isEmpty
  return value

end LoxScript.Yaml
