import LoxScript.CommandLine.Flag
import LoxScript.Text.CharClass
import LoxScript.Text.Quoted

/-! # Arguments
Understanding the words of a command. First every word is classed by itself: flags with or without a value at
them, unknown flags, plain words, and the two dashes after which all words are plain. Then the words are taken
in order. The first plain word that is not the value of a flag names the script; further ones, and unknown
flags, are left over. Asking for help or for the version ends the reading at once, but a word that cannot be
classed comes before all else, and words left over come last. -/

namespace LoxScript.CommandLine

namespace UsageError

/-- The wording of an error. -/
def message : UsageError → String
  | ambiguous word matching =>
    "ambiguous option: " ++ word ++ " could match " ++ ", ".intercalate matching
  | missingValue flag => "argument " ++ flag.title ++ ": expected one argument"
  | needlessValue flag value =>
    "argument " ++ flag.title ++ ": ignored explicit argument " ++ quoted value
  | exclusive flag other =>
    "argument " ++ flag.title ++ ": not allowed with argument " ++ other.title
  | leftOver words => "unrecognized arguments: " ++ " ".intercalate words
  | needsScript => "--tokens and --ast need a SCRIPT"

end UsageError

/-- Text that stands at a flag in the same word. -/
structure Attached where
  text : String
  /-- Whether an equals sign stands between. -/
  byEquals : Bool
  deriving DecidableEq, Repr, Inhabited

/-- The class of one word. -/
inductive Word where
  | plain (text : String)
  /-- Two dashes. -/
  | divider
  | unknown (text : String)
  /-- A flag; `isShort` tells that it has one dash. -/
  | flag (flag : Flag) (isShort : Bool) (attached : Option Attached)
  deriving DecidableEq, Repr, Inhabited

namespace Word

/-- Splits a text at its first equals sign. -/
def atEquals? (word : List Char) : Option (List Char × List Char) :=
  if word.contains '=' then
    some (word.takeWhile (· != '='), (word.dropWhile (· != '=')).drop 1)
  else none

/-- Whether a word is a negative number: a dash, digits, and perhaps a point with more digits. -/
def isNegativeNumber : List Char → Bool
  | '-' :: rest =>
    let isDigit (c : Char) := (CharClass.decimalDigit? c).isSome
    match rest.dropWhile isDigit with
    | [] => !rest.isEmpty
    | '.' :: places => !places.isEmpty && places.all isDigit
    | _ => false
  | _ => false

/-- The flags that a word may be cut short from, or, at one dash, the flag that its first letter is, with the
text at it. -/
def candidates (word : List Char) : List (String × Word) :=
  match word with
  | '-' :: '-' :: _ =>
    let (start, value) := (atEquals? word).getD (word, [])
    let attached := (atEquals? word).map fun _ => ⟨String.ofList value, true⟩
    (Flag.spellings.filter fun s => start.isPrefixOf s.1.toList).map fun (s, f) =>
      (s, flag f false attached)
  | '-' :: letter :: rest =>
    (Flag.spellings.filter fun s => s.1.toList == ['-', letter]).map fun (s, f) =>
      (s, flag f true (some ⟨String.ofList rest, false⟩))
  | _ => []

/-- The flag that a word is when written out, or before its equals sign. -/
def written? (text : String) : Option Word :=
  let isShort (word : List Char) := word.drop 1 |>.head? |>.any (· != '-')
  match Flag.ofSpelling? text, atEquals? text.toList with
  | some f, _ => some (flag f (isShort text.toList) none)
  | none, some (start, value) =>
    (Flag.ofSpelling? (String.ofList start)).map fun f =>
      flag f (isShort start) (some ⟨String.ofList value, true⟩)
  | none, none => none

/-- The class of a word before the divider. -/
def classify (text : String) : Except UsageError Word :=
  let word := text.toList
  if word.head? != some '-' || word == ['-'] then .ok (plain text)
  else
    match written? text, candidates word with
    | some w, _ => .ok w
    | none, [(_, w)] => .ok w
    | none, [] =>
      .ok (if isNegativeNumber word || word.contains ' ' then plain text else unknown text)
    | none, several => .error (.ambiguous text (several.map Prod.fst))

/-- The classes of all words. -/
def classifyAll : List String → Except UsageError (List Word)
  | [] => .ok []
  | text :: rest =>
    if text == "--" then .ok (divider :: rest.map plain)
    else do return (← classify text) :: (← classifyAll rest)

end Word

/-- What is to be done with a script. -/
inductive Mode where
  | run | tokens | tree
  deriving DecidableEq, Repr, Inhabited

/-- What the words of a command say. -/
structure Arguments where
  script : Option String := none
  mode : Mode := .run
  settings : Option String := none
  verbose : Bool := false
  deriving DecidableEq, Repr, Inhabited

/-- What a command asks for. -/
inductive Request where
  | help
  | version
  | work (arguments : Arguments)
  deriving DecidableEq, Repr, Inhabited

/-- How the reading of words ends before their end. -/
inductive Early where
  | answered (request : Request)
  | error (e : UsageError)
  deriving DecidableEq, Repr, Inhabited

/-- The words read so far. -/
structure Progress where
  arguments : Arguments := {}
  leftOver : List String := []
  deriving DecidableEq, Repr, Inhabited

namespace Progress

/-- Sets the mode, which must not have been set to another one. -/
def setMode (p : Progress) (flag other : Flag) (mode : Mode) : Except Early Progress :=
  if p.arguments.mode == mode || p.arguments.mode == .run then
    .ok { p with arguments := { p.arguments with mode } }
  else .error (.error (.exclusive flag other))

/-- Takes a flag with its value. -/
def take (p : Progress) (flag : Flag) (value : String) : Except Early Progress :=
  match flag with
  | .help => .error (.answered .help)
  | .version => .error (.answered .version)
  | .tokens => p.setMode .tokens .tree .tokens
  | .tree => p.setMode .tree .tokens .tree
  | .settings => .ok { p with arguments := { p.arguments with settings := some value } }
  | .verbose => .ok { p with arguments := { p.arguments with verbose := true } }

/-- Takes flags in turn. -/
def takeAll (p : Progress) : List (Flag × String) → Except Early Progress
  | [] => .ok p
  | (flag, value) :: rest => do (← p.take flag value).takeAll rest

/-- Leaves words over. -/
def leave (p : Progress) (words : List String) : Progress := { p with leftOver := p.leftOver ++ words }

/-- Takes a plain word: the script, unless there is one. -/
def takePlain (p : Progress) (text : String) : Progress :=
  match p.arguments.script with
  | none => { p with arguments := { p.arguments with script := some text } }
  | some _ => p.leave [text]

end Progress

/-- What one word with flags comes to. -/
structure Bundle where
  /-- The flags in it, with their values. -/
  flags : List (Flag × String) := []
  /-- The last flag in it, if its value is still to come. -/
  awaiting : Option Flag := none
  /-- The letters that are no flags. -/
  rest : List String := []
  deriving DecidableEq, Repr, Inhabited

namespace Bundle

/-- The bundle with one more flag in front. -/
def cons (flag : Flag) (b : Bundle) : Bundle := { b with flags := (flag, "") :: b.flags }

/-- The bundle of a flag with nothing at it. -/
def ofFlag (flag : Flag) : Bundle :=
  if flag.takesValue then { awaiting := some flag } else { flags := [(flag, "")] }

/-- The bundle of a flag with one dash and the letters at it: they are its value, or, where it
takes none, further flags. -/
def ofLetters (flag : Flag) (byEquals : Bool) (letters : List Char) : Except UsageError Bundle :=
  if flag.takesValue then .ok { flags := [(flag, String.ofList letters)] }
  else
    match letters with
    | [] => .error (.needlessValue flag "")
    | letter :: more =>
      if byEquals || letter == '-' then .error (.needlessValue flag (String.ofList letters))
      else
        match Flag.ofSpelling? (String.ofList ['-', letter]), more with
        | none, _ => .ok { flags := [(flag, "")], rest := [String.ofList ('-' :: letters)] }
        | some next, [] => .ok ((ofFlag next).cons flag)
        | some next, '=' :: value => (ofLetters next true value).map (cons flag)
        | some next, second :: value => (ofLetters next false (second :: value)).map (cons flag)
termination_by letters.length

/-- The bundle of a word with a flag. -/
def ofWord (flag : Flag) (isShort : Bool) (attached : Option Attached) : Except UsageError Bundle :=
  match attached with
  | none => .ok (ofFlag flag)
  | some a =>
    if isShort then ofLetters flag a.byEquals a.text.toList
    else if flag.takesValue then .ok { flags := [(flag, a.text)] }
    else .error (.needlessValue flag a.text)

end Bundle

/-- The texts of words behind the divider. -/
def plainTexts (words : List Word) : List String :=
  words.filterMap fun
    | .plain text => some text
    | _ => none

/-- Takes what stands behind the divider: its first word may be the script. -/
def Progress.takeRest (p : Progress) (texts : List String) : Progress :=
  match p.arguments.script, texts with
  | some _, _ => p.leave ("--" :: texts)
  | none, [] => p
  | none, script :: more => (p.takePlain script).leave more

/-- Takes the flags of a word, which does not wait for a value. -/
def Progress.takeBundle (p : Progress) (b : Bundle) : Except Early Progress :=
  match b.awaiting with
  | none => (p.leave b.rest).takeAll b.flags
  | some last => .error (.error (.missingValue last))

/-- Reads classed words. A divider right behind the script is passed over with it. -/
def readWords (p : Progress) : List Word → Except Early Progress
  | [] => .ok p
  | .unknown text :: rest => readWords (p.leave [text]) rest
  | .divider :: rest => .ok (p.takeRest (plainTexts rest))
  | .plain text :: .divider :: rest =>
    match p.arguments.script with
    | none => .ok ((p.takePlain text).leave (plainTexts rest))
    | some _ => .ok ((p.leave [text]).takeRest (plainTexts rest))
  | .plain text :: rest => readWords (p.takePlain text) rest
  | .flag flag isShort attached :: .plain text :: rest =>
    match Bundle.ofWord flag isShort attached with
    | .error e => .error (.error e)
    | .ok b =>
      match b.awaiting with
      | some last => do readWords (← p.takeAll (b.flags ++ [(last, text)])) rest
      | none => do readWords (← p.takeBundle b) (.plain text :: rest)
  | .flag flag isShort attached :: rest =>
    match Bundle.ofWord flag isShort attached with
    | .error e => .error (.error e)
    | .ok b => do readWords (← p.takeBundle b) rest

/-- What a command asks for. -/
def readCommand (words : List String) : Except UsageError Request := do
  match readWords {} (← Word.classifyAll words) with
  | .error (.answered request) => return request
  | .error (.error e) => throw e
  | .ok p => if p.leftOver.isEmpty then return .work p.arguments else throw (.leftOver p.leftOver)

end LoxScript.CommandLine
