import LoxScript.Settings
import Mathlib.Data.List.Basic
import Mathlib.Data.Option.Basic

/-! # Which documents give settings

Reading a file of settings ends in settings, in a refusal that says what is wrong with the file, or in a
defect of its keys, which nothing that reads settings expects.

* **`Settings.Gives`** — the settings that a mapping gives, said of keys and values and without regard to how
  they are read.
* **`Settings.ofEntries_eq_ok_iff`** — reading a mapping gives these settings and no others; it breaks off iff a
  key is no text or the level is too long to be written out (`Settings.ofEntries_defective_iff`).
* **`Settings.Strict`** — a reading that takes a document without a value or a mapping that gives settings, and
  refuses everything else.
* **`Settings.ofFileBy_strict_iff`** — the result: what each document gives, whatever reads documents, and
  for which of them the reading is strict. -/

namespace LoxScript

/-- A level is found by its name. -/
theorem Level.ofName?_eq_some_iff {name : String} {l : Level} :
    Level.ofName? name = some l ↔ name = l.name := by
  constructor
  · intro found
    have named := List.find?_some found
    exact (eq_of_beq named).symm
  · rintro rfl
    cases l <;> decide

namespace Settings

variable {entries : List (Yaml × Yaml)} {s : Settings}

/-! ## What a mapping gives -/

/-- What is said of a key: `absent` if the entries do not have it, else `present` of its value. -/
def Under (entries : List (Yaml × Yaml)) (key : String) (absent : Prop) (present : Yaml → Prop) : Prop :=
  match entries.lookup (.text key) with
  | none => absent
  | some value => present value

/-- **The settings that entries give.** Every key is that of a setting. A prompt is a text, a number of faults
a positive integer and no truth value, showing the source a truth value, and a level is named in letters of
either case; a log file may be anything. A setting without a key has its default. -/
structure Gives (entries : List (Yaml × Yaml)) (s : Settings) : Prop where
  known : ∀ key ∈ entries.map Prod.fst, ∃ name ∈ keys, key = .text name
  prompt : Under entries "prompt" (s.prompt = "> ") fun v => v = .text s.prompt
  maxErrors : Under entries "max_errors" (s.maxErrors = 20) fun v => v = .integer s.maxErrors ∧ 1 ≤ s.maxErrors
  showSource : Under entries "show_source" (s.showSource = true) fun v => v = .boolean s.showSource
  logLevel : Under entries "log_level" (s.logLevel = .warning) fun v =>
    ∃ word, v = .text word ∧ uppercase word = s.logLevel.name
  logFile : Under entries "log_file" (s.logFile = .null) fun v => s.logFile = v

/-- **A level that is too long**: everything that is looked at before the level is as it should be, and the
value of the level cannot be written out. -/
structure Overlong (entries : List (Yaml × Yaml)) : Prop where
  known : ∀ key ∈ entries.map Prod.fst, ∃ name ∈ keys, key = .text name
  prompt : Under entries "prompt" True fun v => ∃ t, v = .text t
  maxErrors : Under entries "max_errors" True fun v => ∃ n : Nat, v = .integer n ∧ 1 ≤ n
  showSource : Under entries "show_source" True fun v => ∃ b, v = .boolean b
  logLevel : Under entries "log_level" False fun v => v.writable = false

/-- **Entries at which reading breaks off**: a key is no text, or the level is too long. -/
def Defective (entries : List (Yaml × Yaml)) : Prop :=
  (∃ key ∈ entries.map Prod.fst, ∀ t, key ≠ .text t) ∨ Overlong entries

/-! ## Single settings -/

section Reading

variable {v : Yaml}

/-- Only a text is read as a text. -/
theorem text?_eq_some_iff {t : String} : text? v = some t ↔ v = .text t := by
  cases v <;> simp [text?]

/-- A value is no text iff it is read as none. -/
theorem text?_eq_none_iff : text? v = none ↔ ∀ t, v ≠ .text t := by
  simp [Option.eq_none_iff_forall_ne_some, text?_eq_some_iff]

/-- Only an integer from one on is read as a positive number; a truth value is none. -/
theorem positive?_eq_some_iff {n : Nat} : positive? v = some n ↔ v = .integer n ∧ 1 ≤ n := by
  cases v with
  | integer m =>
    simp only [positive?, Option.ite_none_right_eq_some, Option.some.injEq, Yaml.integer.injEq]
    omega
  | _ => simp [positive?]

/-- Only a truth value is read as one. -/
theorem truth?_eq_some_iff {b : Bool} : truth? v = some b ↔ v = .boolean b := by
  cases v <;> simp [truth?]

/-- Only a text is read as a level, and it is the one that it names in upper case. -/
theorem levelOf?_eq_some_iff {l : Level} :
    levelOf? v = some l ↔ ∃ word, v = .text word ∧ uppercase word = l.name := by
  cases v with
  | text word => simp [levelOf?, Level.ofName?_eq_some_iff]
  | _ => simp [levelOf?]

end Reading

section Setting

variable {α : Type} {key : String} {default a : α} {refusal : Refusal} {read? : Yaml → Option α}

/-- A setting is its default, or what is read from its value. -/
theorem setting_eq_ok_iff : setting entries key default refusal read? = .ok a ↔
    Under entries key (a = default) fun v => read? v = some a := by
  rw [setting, Under]
  cases entries.lookup (.text key) with
  | none => simp [eq_comm]
  | some v =>
    dsimp only
    cases read? v <;> simp

/-- A setting can be read iff its key is absent or its value can be read. -/
theorem exists_setting_iff : (∃ a, setting entries key default refusal read? = .ok a) ↔
    Under entries key True fun v => ∃ a, read? v = some a := by
  simp only [setting_eq_ok_iff, Under]
  cases entries.lookup (.text key) <;> simp

/-- A result that is settings or a refusal. -/
def Refuses (result : Except SettingsFault α) : Prop :=
  ∀ fault, result = .error fault → ∃ refusal, fault = .refused refusal

/-- Reading one setting gives a value or is refused. -/
theorem refuses_setting : Refuses (setting entries key default refusal read?) := by
  intro fault failed
  rw [setting] at failed
  cases found : entries.lookup (.text key) with
  | none => simp [found] at failed
  | some v =>
    cases value : read? v with
    | some a => simp [found, value] at failed
    | none =>
      simp only [found, value, Except.error.injEq] at failed
      exact ⟨refusal, failed.symm⟩

/-- Reading one after another is refused if one of the two is. -/
theorem Refuses.bind {β : Type} {result : Except SettingsFault α} {next : α → Except SettingsFault β}
    (first : Refuses result) (others : ∀ a, Refuses (next a)) : Refuses (result >>= next) := by
  intro fault failed
  cases result with
  | ok a => exact others a fault failed
  | error e =>
    obtain rfl : e = fault := Except.error.inj failed
    exact first e rfl

/-- Behind a result that is settings or a refusal, reading breaks off iff it gets there and does so there. -/
theorem Refuses.bind_defective_iff {β : Type} {result : Except SettingsFault α}
    {next : α → Except SettingsFault β} (first : Refuses result) :
    (∃ defect, (result >>= next) = .error (.keys defect)) ↔
      ∃ a, result = .ok a ∧ ∃ defect, next a = .error (.keys defect) := by
  cases result with
  | ok a =>
    have bound : ((Except.ok a : Except SettingsFault α) >>= next) = next a := rfl
    simp [bound]
  | error e =>
    have bound : ((Except.error e : Except SettingsFault α) >>= next) = .error e := rfl
    obtain ⟨refusal, rfl⟩ := first e rfl
    simp [bound]

/-- One result behind another succeeds iff both do. -/
theorem bind_eq_ok_iff {β : Type} {result : Except SettingsFault α}
    {next : α → Except SettingsFault β} {b : β} :
    (result >>= next) = .ok b ↔ ∃ a, result = .ok a ∧ next a = .ok b := by
  cases result with
  | ok a =>
    have bound : ((Except.ok a : Except SettingsFault α) >>= next) = next a := rfl
    simp [bound]
  | error e =>
    have bound : ((Except.error e : Except SettingsFault α) >>= next) = .error e := rfl
    simp [bound]

end Setting

section LevelSetting

variable {l : Level}

/-- What cannot be written out is no text. -/
theorem levelOf?_of_not_writable {v : Yaml} (tooLong : v.writable = false) : levelOf? v = none := by
  cases v with
  | text word => cases tooLong
  | _ => rfl

/-- The level is read from its value as the other settings are: what cannot be written out names none. -/
theorem levelSetting_eq_ok_iff : levelSetting entries = .ok l ↔
    Under entries "log_level" (l = .warning) fun v => levelOf? v = some l := by
  rw [levelSetting]
  split
  · exact setting_eq_ok_iff
  · next tooLong =>
    rw [Under]
    cases found : entries.lookup (.text "log_level") with
    | none => simp [found] at tooLong
    | some v =>
      have unwritable : v.writable = false := by simpa [found] using tooLong
      simp [levelOf?_of_not_writable unwritable]

/-- Reading the level breaks off iff its value cannot be written out. -/
theorem levelSetting_defective_iff : (∃ defect, levelSetting entries = .error (.keys defect)) ↔
    Under entries "log_level" False fun v => v.writable = false := by
  rw [levelSetting, Under]
  cases found : entries.lookup (.text "log_level") with
  | none => simp [setting, found]
  | some v =>
    cases writable : v.writable with
    | true =>
      have refuses : Refuses (setting entries "log_level" Level.warning .logLevel levelOf?) := refuses_setting
      simp only [Option.all_some, writable, if_true, Bool.true_eq_false, iff_false]
      rintro ⟨defect, failed⟩
      obtain ⟨refusal, eq⟩ := refuses _ failed
      cases eq
    | false => simp [writable]

end LevelSetting

/-! ## Keys -/

/-- A key is unknown if it is a key of the mapping and not the text of a name of a setting. -/
theorem mem_unknownKeys_iff {key : Yaml} :
    key ∈ unknownKeys entries ↔ key ∈ entries.map Prod.fst ∧ ∀ name ∈ keys, key ≠ .text name := by
  rw [unknownKeys, List.mem_filter]
  refine and_congr_right fun _ => ?_
  cases key with
  | text t => simp [List.forall_mem_ne]
  | _ => simp

/-- No key is unknown iff each is that of a setting. -/
theorem unknownKeys_eq_nil_iff :
    unknownKeys entries = [] ↔ ∀ key ∈ entries.map Prod.fst, ∃ name ∈ keys, key = .text name := by
  rw [List.eq_nil_iff_forall_not_mem]
  refine forall_congr' fun key => ?_
  rw [mem_unknownKeys_iff]
  simp only [not_and, not_forall, ne_eq, not_not, exists_prop]

/-- A key that is no text is unknown, so that all unknown keys are texts iff all keys are. -/
theorem exists_unknown_not_text_iff :
    (∃ key ∈ unknownKeys entries, text? key = none) ↔ ∃ key ∈ entries.map Prod.fst, ∀ t, key ≠ .text t := by
  simp only [mem_unknownKeys_iff, text?_eq_none_iff]
  constructor
  · rintro ⟨key, ⟨mem, -⟩, other⟩
    exact ⟨key, mem, other⟩
  · rintro ⟨key, mem, other⟩
    exact ⟨key, ⟨mem, fun name _ => other name⟩, other⟩

/-- Texts are read one by one, unless there is another value among them. -/
theorem mapM_text?_eq_none_iff {values : List Yaml} :
    values.mapM text? = none ↔ ∃ v ∈ values, text? v = none := by
  induction values with
  | nil => simp
  | cons v rest ih =>
    rw [List.mapM_cons]
    cases head : text? v with
    | none => simp [head]
    | some t =>
      cases tail : rest.mapM text? with
      | none => simp [head, ← ih, tail]
      | some ts => simp [head, ← ih, tail]

/-- Unknown keys are refused if they are texts, and otherwise defective. -/
theorem keysFault_cases (key : Yaml) (others : List Yaml) :
    ((∃ defect, keysFault key others = .keys defect) ∧ ∃ k ∈ key :: others, text? k = none) ∨
      ((∃ names, keysFault key others = .refused (.unknownKeys names)) ∧
        ¬∃ k ∈ key :: others, text? k = none) := by
  rw [← mapM_text?_eq_none_iff, keysFault]
  cases (key :: others).mapM text? with
  | some names => exact .inr ⟨⟨_, rfl⟩, by simp⟩
  | none =>
    refine .inl ⟨?_, rfl⟩
    dsimp only
    split
    · exact ⟨_, rfl⟩
    · split <;> exact ⟨_, rfl⟩

/-! ## Mappings -/

/-- Reading a mapping of known keys. -/
theorem ofEntries_of_known (known : unknownKeys entries = []) :
    ofEntries entries = (do
      let prompt ← setting entries "prompt" "> " .prompt text?
      let maxErrors ← setting entries "max_errors" 20 .maxErrors positive?
      let showSource ← setting entries "show_source" true .showSource truth?
      let logLevel ← levelSetting entries
      .ok ⟨prompt, maxErrors, showSource, logLevel, (entries.lookup (.text "log_file")).getD .null⟩) := by
  rw [ofEntries, known]
  rfl

/-- Unknown keys are looked at before any value is. -/
theorem ofEntries_of_unknown {key : Yaml} {others : List Yaml} (unknown : unknownKeys entries = key :: others) :
    ofEntries entries = .error (keysFault key others) := by
  rw [ofEntries, unknown]
  rfl

/-- **A mapping is read as the settings that it gives.** -/
theorem ofEntries_eq_ok_iff : ofEntries entries = .ok s ↔ Gives entries s := by
  cases unknown : unknownKeys entries with
  | nil =>
    rw [ofEntries_of_known unknown]
    simp only [bind_eq_ok_iff, setting_eq_ok_iff, levelSetting_eq_ok_iff, text?_eq_some_iff,
      positive?_eq_some_iff, truth?_eq_some_iff, levelOf?_eq_some_iff]
    constructor
    · rintro ⟨prompt, hp, maxErrors, hm, showSource, hs, logLevel, hl, eq⟩
      -- The file of the log is not checked: it is whatever stands under its key.
      obtain rfl := Except.ok.inj eq
      refine ⟨unknownKeys_eq_nil_iff.mp unknown, hp, hm, hs, hl, ?_⟩
      rw [Under]
      cases entries.lookup (.text "log_file") <;> rfl
    · rintro ⟨-, hp, hm, hs, hl, file⟩
      refine ⟨_, hp, _, hm, _, hs, _, hl, ?_⟩
      have logFile : (entries.lookup (.text "log_file")).getD .null = s.logFile := by
        rw [Under] at file
        cases found : entries.lookup (.text "log_file") <;> simp_all
      rw [logFile]
  | cons key others =>
    rw [ofEntries_of_unknown unknown]
    constructor
    · intro read
      cases read
    · intro gives
      rw [unknownKeys_eq_nil_iff.mpr gives.known] at unknown
      cases unknown

/-- Reading a mapping of known keys breaks off iff it gets to the level, which is too long. -/
theorem ofEntries_defective_iff_of_known (known : unknownKeys entries = []) :
    (∃ defect, ofEntries entries = .error (.keys defect)) ↔ Overlong entries := by
  rw [ofEntries_of_known known, refuses_setting.bind_defective_iff]
  simp only [refuses_setting.bind_defective_iff]
  -- The level is read last, so the settings before it are sound when reading breaks off there.
  constructor
  · rintro ⟨prompt, hp, maxErrors, hm, showSource, hs, tooLong⟩
    refine ⟨unknownKeys_eq_nil_iff.mp known, ?_, ?_, ?_, ?_⟩
    · simpa only [text?_eq_some_iff] using exists_setting_iff.mp ⟨prompt, hp⟩
    · simpa only [positive?_eq_some_iff] using exists_setting_iff.mp ⟨maxErrors, hm⟩
    · simpa only [truth?_eq_some_iff] using exists_setting_iff.mp ⟨showSource, hs⟩
    · refine levelSetting_defective_iff.mp ?_
      cases level : levelSetting entries with
      | ok l => simp [level, bind, Except.bind] at tooLong
      | error fault => simpa [level, bind, Except.bind] using tooLong
  · rintro ⟨-, hp, hm, hs, hl⟩
    simp only [← text?_eq_some_iff, ← positive?_eq_some_iff, ← truth?_eq_some_iff] at hp hm hs
    obtain ⟨prompt, hp⟩ := exists_setting_iff.mpr hp
    obtain ⟨maxErrors, hm⟩ := exists_setting_iff.mpr hm
    obtain ⟨showSource, hs⟩ := exists_setting_iff.mpr hs
    obtain ⟨defect, hl⟩ := levelSetting_defective_iff.mpr hl
    exact ⟨prompt, hp, maxErrors, hm, showSource, hs, defect, by rw [hl]; rfl⟩

/-- **Reading a mapping breaks off** iff a key is no text, or the level is too long. -/
theorem ofEntries_defective_iff :
    (∃ defect, ofEntries entries = .error (.keys defect)) ↔ Defective entries := by
  rw [Defective, ← exists_unknown_not_text_iff]
  cases unknown : unknownKeys entries with
  | nil => simpa using ofEntries_defective_iff_of_known unknown
  | cons key others =>
    have short : ¬Overlong entries := by
      intro overlong
      rw [unknownKeys_eq_nil_iff.mpr overlong.known] at unknown
      cases unknown
    rw [ofEntries_of_unknown unknown, or_iff_left short]
    rcases keysFault_cases key others with ⟨⟨defect, eq⟩, other⟩ | ⟨⟨names, eq⟩, texts⟩
    · exact ⟨fun _ => other, fun _ => ⟨defect, by rw [eq]⟩⟩
    · rw [eq]
      exact ⟨nofun, fun other => absurd other texts⟩

/-! ## Documents -/

/-- An empty mapping gives the settings that stand when nothing is said. -/
theorem gives_nil_iff : Gives [] s ↔ s = {} := by
  rw [← ofEntries_eq_ok_iff]
  have read : ofEntries [] = .ok {} := rfl
  rw [read, Except.ok.injEq, eq_comm]

section Document

variable {path : String} {v : Yaml} {document : Option Yaml}

/-- A mapping that counts as absent has no entries. -/
theorem eq_nil_of_isEmpty (absent : (Yaml.mapping entries).isEmpty = true) : entries = [] :=
  List.isEmpty_iff.mp absent

/-- A value gives the defaults if it counts as absent, and otherwise what its mapping gives. -/
theorem ofValue_eq_ok_iff :
    ofValue path v = .ok s ↔ v.isEmpty = true ∧ s = {} ∨ ∃ entries, v = .mapping entries ∧ Gives entries s := by
  unfold ofValue
  by_cases absent : v.isEmpty = true
  · rw [if_pos absent, Except.ok.injEq]
    constructor
    · intro eq
      exact .inl ⟨absent, eq.symm⟩
    · rintro (⟨-, rfl⟩ | ⟨entries, rfl, gives⟩)
      · rfl
      · obtain rfl := eq_nil_of_isEmpty absent
        exact (gives_nil_iff.mp gives).symm
  · rw [if_neg absent]
    cases v with
    | mapping entries => simp [absent, ofEntries_eq_ok_iff]
    | _ => simp [absent]

/-- Nothing is wrong with a mapping that has no entries. -/
theorem not_defective_nil : ¬Defective [] := by
  rintro (⟨key, mem, -⟩ | overlong)
  · cases mem
  · exact overlong.logLevel

/-- Reading a value breaks off iff it is a mapping at whose entries it does. -/
theorem ofValue_defective_iff :
    (∃ defect, ofValue path v = .error (.keys defect)) ↔
      ∃ entries, v = .mapping entries ∧ Defective entries := by
  unfold ofValue
  by_cases absent : v.isEmpty = true
  · rw [if_pos absent]
    constructor
    · rintro ⟨defect, eq⟩
      cases eq
    · rintro ⟨entries, rfl, defective⟩
      obtain rfl := eq_nil_of_isEmpty absent
      exact absurd defective not_defective_nil
  · rw [if_neg absent]
    cases v with
    | mapping entries => simp only [ofEntries_defective_iff, Yaml.mapping.injEq, exists_eq_left']
    | _ => simp

/-- **A document gives settings** iff it can be read, and as an empty value or as a
mapping that gives them. -/
theorem ofDocument_eq_ok_iff : ofDocument path document = .ok s ↔ ∃ v, document = some v ∧
    (v.isEmpty = true ∧ s = {} ∨ ∃ entries, v = .mapping entries ∧ Gives entries s) := by
  cases document with
  | none => simp [ofDocument]
  | some v => simp [ofDocument, ofValue_eq_ok_iff]

/-- **A document breaks off** iff it can be read as a mapping that is defective. -/
theorem ofDocument_defective_iff :
    (∃ defect, ofDocument path document = .error (.keys defect)) ↔
      ∃ entries, document = some (.mapping entries) ∧ Defective entries := by
  cases document with
  | none => simp [ofDocument]
  | some v => simp only [ofDocument, ofValue_defective_iff, Option.some.injEq]

/-- **A strict reading** of a document, or of what is none: it gives settings for a document without a value
and for a mapping that gives some, and ends in a refusal for everything else. -/
structure Strict (document : Option Yaml) (result : Except SettingsFault Settings) : Prop where
  accepts : (∃ s, result = .ok s) ↔
    document = some .null ∨ ∃ entries s, document = some (.mapping entries) ∧ Gives entries s
  refuses : Refuses result

/-- Reading a document is strict unless it counts as absent without being null or a mapping, or reading breaks
off at its entries. -/
theorem strict_ofDocument_iff : Strict document (ofDocument path document) ↔
    (∀ v, document = some v → v.isEmpty = true → v = .null ∨ v = .mapping []) ∧
      ∀ entries, document = some (.mapping entries) → ¬Defective entries := by
  constructor
  · intro strict
    constructor
    · rintro v rfl absent
      -- A value that counts as absent is accepted, and what is accepted is null or a mapping.
      have accepted : ∃ s, ofDocument path (some v) = .ok s :=
        ⟨{}, ofDocument_eq_ok_iff.mpr ⟨v, rfl, .inl ⟨absent, rfl⟩⟩⟩
      rcases strict.accepts.mp accepted with null | ⟨entries, s, mapping, -⟩
      · exact .inl (Option.some.inj null)
      · obtain rfl := Option.some.inj mapping
        rw [eq_nil_of_isEmpty absent]
        exact .inr rfl
    · intro entries mapping defective
      -- At a defect the reading breaks off, which is no refusal.
      obtain ⟨defect, failed⟩ := ofDocument_defective_iff.mpr ⟨entries, mapping, defective⟩
      obtain ⟨refusal, eq⟩ := strict.refuses _ failed
      cases eq
  · rintro ⟨absent, sound⟩
    constructor
    · constructor
      · rintro ⟨s, read⟩
        obtain ⟨v, rfl, ⟨empty, -⟩ | ⟨entries, rfl, gives⟩⟩ := ofDocument_eq_ok_iff.mp read
        · rcases absent v rfl empty with rfl | rfl
          · exact .inl rfl
          · exact .inr ⟨[], {}, rfl, gives_nil_iff.mpr rfl⟩
        · exact .inr ⟨entries, s, rfl, gives⟩
      · rintro (rfl | ⟨entries, s, rfl, gives⟩)
        · exact ⟨{}, rfl⟩
        · exact ⟨s, ofDocument_eq_ok_iff.mpr ⟨_, rfl, .inr ⟨entries, rfl, gives⟩⟩⟩
    · intro fault failed
      cases fault with
      | refused refusal => exact ⟨refusal, rfl⟩
      | keys defect =>
        obtain ⟨entries, mapping, defective⟩ := ofDocument_defective_iff.mp ⟨defect, failed⟩
        exact absurd defective (sound entries mapping)

end Document

/-! ## The result -/

/-- **What a file of settings gives**, whatever reads its document. Settings come from a document that counts
as absent, which gives the defaults, and from a mapping, which gives them by its entries. Reading breaks off
at a mapping with a key that is no text, and at one whose level is too long to be written out; everything else
is refused. So the reading is strict but for three sorts of document: those that count as absent without being
null or a mapping, and the two sorts of mapping. -/
theorem ofFileBy_strict_iff (load : String → Option Yaml) (path text : String) :
    let document := load (String.ofList (Lines.universal text.toList))
    let result := ofFileBy load path (some text)
    (∀ s, result = .ok s ↔ ∃ v, document = some v ∧
        (v.isEmpty = true ∧ s = {} ∨ ∃ entries, v = .mapping entries ∧ Gives entries s)) ∧
      ((∃ defect, result = .error (.keys defect)) ↔
        ∃ entries, document = some (.mapping entries) ∧ Defective entries) ∧
      (Strict document result ↔
        (∀ v, document = some v → v.isEmpty = true → v = .null ∨ v = .mapping []) ∧
          ∀ entries, document = some (.mapping entries) → ¬Defective entries) := by
  intro document result
  have read : result = ofDocument path document := rfl
  rw [read]
  exact ⟨fun s => ofDocument_eq_ok_iff, ofDocument_defective_iff, strict_ofDocument_iff⟩

/-- The values of two documents, and of no others. -/
def loaded (text : String) : Option Yaml :=
  if text = "1: x\n" then some (.mapping [(.integer 1, .text "x")])
  else if text = "[]\n" then some (.sequence { items := [] })
  else none

/-- At a key that is a number reading breaks off, and an empty sequence gives the defaults; a
strict reading refuses both. -/
theorem ofFileBy_not_strict :
    (loaded "1: x\n" = some (.mapping [(.integer 1, .text "x")]) ∧
        ofFileBy loaded "config.yaml" (some "1: x\n") = .error (.keys (.notText "int")) ∧
        ¬Strict (loaded "1: x\n") (ofFileBy loaded "config.yaml" (some "1: x\n"))) ∧
      loaded "[]\n" = some (.sequence { items := [] }) ∧
      ofFileBy loaded "config.yaml" (some "[]\n") = .ok {} ∧
      ¬Strict (loaded "[]\n") (ofFileBy loaded "config.yaml" (some "[]\n")) := by
  have number : loaded "1: x\n" = some (.mapping [(.integer 1, .text "x")]) := rfl
  have sequence : loaded "[]\n" = some (.sequence { items := [] }) := rfl
  have defect : ofFileBy loaded "config.yaml" (some "1: x\n") = .error (.keys (.notText "int")) := by
    have text : String.ofList (Lines.universal "1: x\n".toList) = "1: x\n" := by decide
    rw [ofFileBy, text, number]
    rfl
  have defaults : ofFileBy loaded "config.yaml" (some "[]\n") = .ok {} := by
    have text : String.ofList (Lines.universal "[]\n".toList) = "[]\n" := by decide
    rw [ofFileBy, text, sequence]
    rfl
  refine ⟨⟨number, defect, ?_⟩, sequence, defaults, ?_⟩
  · intro strict
    obtain ⟨refusal, eq⟩ := strict.refuses _ defect
    cases eq
  · intro strict
    rcases strict.accepts.mp ⟨{}, defaults⟩ with null | ⟨entries, s, mapping, -⟩
    · rw [sequence] at null
      cases null
    · rw [sequence] at mapping
      cases mapping

end Settings

end LoxScript
