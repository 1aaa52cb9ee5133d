import LoxScript.Journal
import LoxScript.Text.Lines
import LoxScript.Text.Quoted
import LoxScript.Text.Uppercase
import LoxScript.Yaml.Document

/-! # Settings
The settings of a run are read from a mapping, in which every key may be missing and no others may stand.
Faults are looked for in a fixed order, so that of several the first is given: keys that are not settings,
then each setting in turn. A document without a value gives the settings their defaults; any other one that
is no mapping is refused. -/

namespace LoxScript

/-- The settings of a run. -/
structure Settings where
  /-- What asks for the next line. -/
  prompt : String := "> "
  /-- The number of faults after which reading ends. -/
  maxErrors : Nat := 20
  /-- Whether faults quote the source. -/
  showSource : Bool := true
  /-- The least level of the notes that are shown. -/
  logLevel : Level := .warning
  /-- The file that notes go to, if any. Whether it is one is seen when it is opened. -/
  logFile : Yaml := .null
  deriving Inhabited

/-- Why settings are refused. -/
inductive Refusal where
  | unknownKeys (keys : List String)
  | prompt
  | maxErrors
  | showSource
  | logLevel
  /-- There is no file at the path. -/
  | missing (path : String)
  /-- The file at the path is no document. -/
  | malformed (path : String)
  /-- The document at the path has a value that is no mapping. -/
  | notMapping (path : String)
  deriving DecidableEq, Repr, Inhabited

namespace Refusal

/-- The wording of a refusal. -/
def message : Refusal → String
  | unknownKeys keys => "unknown config key(s): " ++ ", ".intercalate keys
  | prompt => "prompt must be a string"
  | maxErrors => "max_errors must be a positive integer"
  | showSource => "show_source must be true or false"
  | logLevel => "log_level must be one of " ++ ", ".intercalate (Level.all.map Level.name)
  | missing path => "config file not found: " ++ path
  | malformed path => "invalid YAML in " ++ path
  | notMapping path => path ++ ": expected a mapping at top level"

end Refusal

/-- Why reading breaks off at some keys, without a refusal. -/
inductive KeyDefect where
  /-- Unknown keys are to be listed, and the first is not a text but of the type named. -/
  | notText (type : String)
  /-- Unknown keys are to be put in order, and keys of these types have none. -/
  | unordered (left right : String)
  /-- The value of a key is to be written out, and a whole number in it has too many digits for that. -/
  | tooLong
  deriving DecidableEq, Repr, Inhabited

namespace KeyDefect

/-- The wording of a defect. -/
def message : KeyDefect → String
  | notText type => "sequence item 0: expected str instance, " ++ type ++ " found"
  | unordered left right =>
    "'<' not supported between instances of " ++ quoted left ++ " and " ++ quoted right
  | tooLong =>
    "Exceeds the limit (4300 digits) for integer string conversion; " ++
      "use sys.set_int_max_str_digits() to increase the limit"

end KeyDefect

/-- Why there are no settings. -/
inductive SettingsFault where
  | refused (refusal : Refusal)
  | keys (defect : KeyDefect)
  deriving DecidableEq, Repr, Inhabited

namespace Settings

/-- The keys of the settings. -/
def keys : List String := ["prompt", "max_errors", "show_source", "log_level", "log_file"]

/-- The keys that are not those of a setting. -/
def unknownKeys (entries : List (Yaml × Yaml)) : List Yaml :=
  (entries.map Prod.fst).filter fun
    | .text s => !keys.contains s
    | _ => true

/-- The text of a value that is a text. -/
def text? : Yaml → Option String
  | .text s => some s
  | _ => none

/-- The least of keys by their places on the scale of numbers, the first of several. -/
def least (key : Yaml × Int) (others : List (Yaml × Int)) : Yaml :=
  (others.foldl (fun a b => if b.2 < a.2 then b else a) key).1

/-- Whether two keys have an order between them: numbers do, and keys of one type. -/
def ordered (a b : Yaml) : Bool := (a.rank?.isSome && b.rank?.isSome) || a.typeName == b.typeName

/-- What there is to say about unknown keys: texts are listed in order; other keys that can be put in order
cannot be listed, and keys without an order between them cannot even be put in order. -/
def keysFault (key : Yaml) (others : List Yaml) : SettingsFault :=
  match (key :: others).mapM text? with
  | some names => .refused (.unknownKeys (names.mergeSort fun a b => a ≤ b))
  | none =>
    match others.find? (!ordered key ·) with
    | some other => .keys (.unordered other.typeName key.typeName)
    | none =>
      match key.rank?, others.mapM (fun k => k.rank?.map (k, ·)) with
      | some x, some ranked => .keys (.notText (least (key, x) ranked).typeName)
      | _, _ => .keys (.notText key.typeName)

/-- The level that a text names, in letters of either case. -/
def levelOf? : Yaml → Option Level
  | .text s => Level.ofName? (uppercase s)
  | _ => none

/-- The setting with a key, read by `read?` and refused if that fails. -/
def setting {α : Type} (entries : List (Yaml × Yaml)) (key : String) (default : α) (refusal : Refusal)
    (read? : Yaml → Option α) : Except SettingsFault α :=
  match entries.lookup (.text key) with
  | none => .ok default
  | some value =>
    match read? value with
    | some a => .ok a
    | none => .error (.refused refusal)

/-- The number of a value that is a positive integer. -/
def positive? : Yaml → Option Nat
  | .integer n => if 0 < n then some n.toNat else none
  | _ => none

/-- The truth value of a value that is one. -/
def truth? : Yaml → Option Bool
  | .boolean b => some b
  | _ => none

/-- The level that is set. Its value is written out before it is taken for the name of a level. -/
def levelSetting (entries : List (Yaml × Yaml)) : Except SettingsFault Level :=
  if (entries.lookup (.text "log_level")).all Yaml.writable then
    setting entries "log_level" .warning .logLevel levelOf?
  else .error (.keys .tooLong)

/-- The settings that a mapping gives. -/
def ofEntries (entries : List (Yaml × Yaml)) : Except SettingsFault Settings := do
  match unknownKeys entries with
  | [] =>
    let prompt ← setting entries "prompt" "> " .prompt text?
    let maxErrors ← setting entries "max_errors" 20 .maxErrors positive?
    let showSource ← setting entries "show_source" true .showSource truth?
    let logLevel ← levelSetting entries
    let logFile := (entries.lookup (.text "log_file")).getD .null
    return { prompt, maxErrors, showSource, logLevel, logFile }
  | key :: others => throw (keysFault key others)

/-- The settings that the value of the document at `path` gives. -/
def ofValue (path : String) (value : Yaml) : Except SettingsFault Settings :=
  if value.isEmpty then .ok {}
  else
    match value with
    | .mapping entries => ofEntries entries
    | _ => .error (.refused (.notMapping path))

/-- The settings that the document at `path` gives, if it is one. -/
def ofDocument (path : String) : Option Yaml → Except SettingsFault Settings
  | none => .error (.refused (.malformed path))
  | some value => ofValue path value

/-- The settings in the text of the file at `path`, whose document `load` reads; there may be no such file. -/
def ofFileBy (load : String → Option Yaml) (path : String) (text : Option String) :
    Except SettingsFault Settings :=
  match text with
  | none => .error (.refused (.missing path))
  | some text => ofDocument path (load (String.ofList (Lines.universal text.toList)))

/-- The settings in the text of the file at `path`. -/
def ofFile (path : String) (text : Option String) : Except SettingsFault Settings :=
  ofFileBy Yaml.read? path text

end Settings

end LoxScript
