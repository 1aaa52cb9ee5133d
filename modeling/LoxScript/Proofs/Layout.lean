import LoxScript.Proofs.Grammar.Displaced
import LoxScript.Proofs.Printing.Meaning
import LoxScript.Proofs.Reports
import LoxScript.Proofs.Scanning.Spaced

/-! # Layout

What a source means does not depend on the blanks, the newlines and the comments between its tokens.

* **`Grammar.readProgram_alike`** — tokens with the same words are read alike.
* **`Session.Went.alike`** — sessions in which faults of the same codes and messages have been reported are
  alike.
* **`Session.runSource_alike`** — sources of the same words run alike.
* **`layout_irrelevant`** — the result, for a source and any text in which its lexemes are spaced out. -/

namespace LoxScript

/-- The code and the message of a fault of reading. -/
def Fault.gist (fault : Fault SyntaxCause) : String × String := (fault.cause.code, fault.cause.message)

/-! ## Tokens with the same words -/

section Words

variable {tokens tokens' : List Token}

/-- Tokens with the same words are the same without their places. -/
theorem moved_nowhere_of_words (words : tokens'.map Token.word = tokens.map Token.word) :
    tokens'.map (Token.moved .nowhere) = tokens.map (Token.moved .nowhere) := by
  have forget : Token.moved .nowhere = (fun w : Word => (⟨w.kind, w.datum, w.lexeme, .nowhere⟩ : Token)) ∘
      Token.word := rfl
  rw [forget, ← List.map_map, ← List.map_map, words]

namespace Grammar

/-- **Tokens with the same words are read alike**: as the same statements up to places, and with faults of the
same codes and messages. -/
theorem readProgram_alike (words : tokens'.map Token.word = tokens.map Token.word) (fin fin' : Span)
    (lines lines' : Option (List String)) (limit : Nat) :
    Stmt.unplacedAll (readProgram fin' lines' limit 0 tokens').statements =
        Stmt.unplacedAll (readProgram fin lines limit 0 tokens).statements ∧
      (readProgram fin' lines' limit 0 tokens').faults.map Fault.gist =
        (readProgram fin lines limit 0 tokens).faults.map Fault.gist := by
  have nowhere : fin'.moved .nowhere = fin.moved .nowhere := rfl
  -- Moved to nowhere, the tokens are the same, so what is read from them is the same up to places.
  have same : (readProgram fin' none limit 0 tokens').moved .nowhere =
      (readProgram fin none limit 0 tokens).moved .nowhere := by
    rw [← readProgram_moved, ← readProgram_moved, nowhere, moved_nowhere_of_words words]
  have unplaced : Stmt.moved .nowhere = Stmt.unplaced := funext Stmt.moved_nowhere
  have displaced : Fault.gist ∘ Fault.displaced .nowhere = Fault.gist := by
    funext fault
    simp only [Function.comp_apply, Fault.gist, Fault.displaced, SyntaxCause.code_moved,
      SyntaxCause.message_moved]
  have quoted : ∀ ls : List String, Fault.gist ∘ (·.quote ls) = Fault.gist := by
    intro ls
    funext fault
    rw [Function.comp_apply, Fault.gist, Fault.cause_quote]
    rfl
  constructor
  · have statements := congrArg ProgramReading.statements same
    rw [readProgram_quoted fin' lines', readProgram_quoted fin lines, Stmt.unplacedAll_eq_map,
      Stmt.unplacedAll_eq_map, ← unplaced]
    exact statements
  · have faults := congrArg (List.map Fault.gist) (congrArg ProgramReading.faults same)
    simp only [ProgramReading.moved, List.map_map, displaced] at faults
    rw [readProgram_quoted fin' lines', readProgram_quoted fin lines]
    simpa only [List.map_map, quoted] using faults

end Grammar

/-- Tokens with the same words are accepted alike, or refused alike. -/
theorem parse_alike (words : tokens'.map Token.word = tokens.map Token.word) (source source' : Option String) :
    ((parse tokens' source').map Stmt.unplacedAll).mapError Fault.gist =
      ((parse tokens source).map Stmt.unplacedAll).mapError Fault.gist := by
  obtain ⟨statements, faults⟩ := Grammar.readProgram_alike words (Grammar.endSpan tokens)
    (Grammar.endSpan tokens') (source.map Lines.ofSource) (source'.map Lines.ofSource) 20
  obtain ⟨read, refused⟩ := Grammar.recover_ofTokens tokens source 20
  obtain ⟨read', refused'⟩ := Grammar.recover_ofTokens tokens' source' 20
  rw [← read, ← read'] at statements
  rw [← refused, ← refused'] at faults
  simp only [parse]
  cases first : (Parser.ofTokens tokens source 20).recover.2.faults with
  | nil =>
    rw [first, List.map_nil, List.map_eq_nil_iff] at faults
    rw [faults]
    exact congrArg Except.ok statements
  | cons fault rest =>
    rw [first, List.map_cons] at faults
    obtain ⟨fault', rest', first', gist, -⟩ := List.map_eq_cons_iff.mp faults
    rw [first']
    exact congrArg Except.error gist

end Words

/-! ## Runs -/

namespace Session

/-- What reporters have kept grows by the codes and messages of the faults they receive. -/
theorem kept_receiveAll (r : Reporter) (faults : List (Fault Cause)) :
    (faults.foldl (fun r fault => r.receive fault) r).kept =
      r.kept.map (· ++ faults.map fun fault => (fault.cause.code, fault.cause.message)) := by
  induction faults generalizing r with
  | nil =>
    simp only [List.map_nil, List.append_nil]
    exact Option.map_id'.symm
  | cons fault rest ih =>
    rw [List.foldl_cons, ih, kept_receive, Option.map_map]
    refine congrArg (Option.map · r.kept) (funext fun kept => ?_)
    rw [Function.comp_apply, List.append_assoc, List.map_cons, List.singleton_append]

/-- **Sessions are alike behind faults of the same codes and messages.** -/
theorem Went.alike {s t t' : Session} {w : World} {new new' : List (Fault Cause)} (went : s.Went w new t)
    (went' : s.Went w new' t')
    (same : new.map (fun fault => (fault.cause.code, fault.cause.message)) =
      new'.map fun fault => (fault.cause.code, fault.cause.message)) : Alike t t' where
  world_eq := went.world_eq.trans went'.world_eq.symm
  reported_eq := by
    rw [reported_eq, reported_eq, went.faults_eq, went'.faults_eq, List.map_append, List.map_append, same]
  kept_eq := by
    rw [kept, kept, went.reporters_eq, went'.reporters_eq, List.map_map, List.map_map]
    refine List.map_congr_left fun r _ => ?_
    rw [Function.comp_apply, Function.comp_apply, kept_receiveAll, kept_receiveAll, same]

variable {source source' : String} {file file' : Option String} {tokens tokens' : List Token}

/-- **Sources of the same words run alike.** -/
theorem runSource_alike (scanned : scan source file = tokens.map .ok)
    (scanned' : scan source' file' = tokens'.map .ok) (words : tokens'.map Token.word = tokens.map Token.word)
    (passes limit : Nat) (s : Session) :
    Outcome.Rel Eq Alike Eq (runSource passes source' file' limit s) (runSource passes source file limit s) := by
  obtain ⟨statements, faults⟩ := Grammar.readProgram_alike words (Grammar.endSpan tokens)
    (Grammar.endSpan tokens') (some (Lines.ofSource source)) (some (Lines.ofSource source')) limit
  -- Reading refuses both sources or neither: with as many faults, one list is empty iff the other is.
  by_cases readable : (Grammar.readProgram (Grammar.endSpan tokens) (some (Lines.ofSource source)) limit 0
      tokens).faults = []
  · rw [readable, List.map_nil, List.map_eq_nil_iff] at faults
    rw [runSource_eq_interpret scanned (Grammar.readProgram_derives readable),
      runSource_eq_interpret scanned' (Grammar.readProgram_derives faults)]
    have opened := (went_opened s source' (scan source' file')).1.alike
      (went_opened s source (scan source file)).1 rfl
    exact (interpret_alike statements passes opened).bind fun _ _ _ _ _ alike => .ok rfl alike
  · have refused : (Grammar.readProgram (Grammar.endSpan tokens') (some (Lines.ofSource source')) limit 0
        tokens').faults ≠ [] := by
      intro none
      rw [none, List.map_nil] at faults
      exact readable (List.map_eq_nil_iff.mp faults.symm)
    obtain ⟨t, run, went⟩ := runSource_of_syntaxFaults passes limit s scanned readable
    obtain ⟨t', run', went'⟩ := runSource_of_syntaxFaults passes limit s scanned' refused
    rw [run, run']
    refine .ok rfl (went'.alike went ?_)
    rw [List.map_map, List.map_map]
    exact faults

end Session

/-- **Layout does not matter.** Let the lexemes of a source that scans without a fault be spaced out in
another text: trivia in front of the first lexeme, between any two, and behind the last one, with a blank, a
newline or the end of the text right behind each lexeme. Then the text scans without a fault to tokens of the
same kinds, data and lexemes. They are accepted as the same statements up to places, or refused with the same
code and message, and so are the statements and the faults under each limit of faults. From every state of a
session the two run alike: with the same text printed, the same variables left, and faults of the same codes
and messages reported. -/
theorem layout_irrelevant {source source' : String} {file : Option String} {tokens : List Token}
    (scanned : scan source file = tokens.map .ok)
    (spaced : Spaced (tokens.map Token.lexeme) source'.toList) (file' : Option String) :
    ∃ tokens' : List Token, scan source' file' = tokens'.map .ok ∧
      tokens'.map Token.word = tokens.map Token.word ∧
      ((parse tokens' (some source')).map Stmt.unplacedAll).mapError Fault.gist =
        ((parse tokens (some source)).map Stmt.unplacedAll).mapError Fault.gist ∧
      (∀ limit,
        let p := Parser.ofTokens tokens (some source) limit
        let p' := Parser.ofTokens tokens' (some source') limit
        Stmt.unplacedAll p'.recover.1 = Stmt.unplacedAll p.recover.1 ∧
          p'.recover.2.faults.map Fault.gist = p.recover.2.faults.map Fault.gist) ∧
      ∀ passes limit s, Outcome.Rel Eq Session.Alike Eq (Session.runSource passes source' file' limit s)
        (Session.runSource passes source file limit s) := by
  obtain ⟨tokens', scanned', words⟩ := scan_spaced scanned spaced file'
  refine ⟨tokens', scanned', words, parse_alike words _ _, fun limit => ?_,
    Session.runSource_alike scanned scanned' words⟩
  obtain ⟨read, refused⟩ := Grammar.recover_ofTokens tokens (some source) limit
  obtain ⟨read', refused'⟩ := Grammar.recover_ofTokens tokens' (some source') limit
  simp only [read, refused, read', refused']
  exact Grammar.readProgram_alike words _ _ _ _ limit

set_option maxRecDepth 4000 in
/-- The source `print "";` with a comment and a newline behind its first word. -/
theorem layout_irrelevant_comment :
    let place (column : Int) : Position := ⟨1, column, column - 1, none⟩
    let tokens : List Token := [⟨.printWord, none, "print", ⟨place 1, place 5⟩⟩,
      ⟨.string, some (.text ""), "\"\"", ⟨place 7, place 8⟩⟩, ⟨.semicolon, none, ";", ⟨place 9, place 9⟩⟩]
    (scan "print \"\";" none = tokens.map .ok ∧
        Spaced (tokens.map Token.lexeme) "print //a\n\"\" ; //".toList) ∧
      ∃ tokens' : List Token, scan "print //a\n\"\" ; //" none = tokens'.map .ok ∧
        tokens'.map Token.word = tokens.map Token.word ∧
        (Outcome.state (Session.runSource 1 "print //a\n\"\" ; //" none 20 {})).world.printed = "\n" := by
  intro place tokens
  have tokenized : tokenize "print \"\";" none = .ok tokens := by with_unfolding_all rfl
  have scanned := tokenize_eq_ok_iff.mp tokenized
  have parsed : parse tokens (some "print \"\";") = .ok [.print (.literal (.text ""))] := by cbv
  have spaced : Spaced (tokens.map Token.lexeme) "print //a\n\"\" ; //".toList := by
    have text : "print //a\n\"\" ; //".toList = [] ++ ("print".toList ++ ([' ', '/', '/', 'a', '\n'] ++
        ("\"\"".toList ++ ([' '] ++ (";".toList ++ [' ', '/', '/']))))) := by decide
    have comment : Trivia false [' ', '/', '/', 'a', '\n'] :=
      .newline (@Trivia.comment [' '] ['a'] (.blank .none rfl) (by decide))
    have ending : Trivia true [' ', '/', '/'] := @Trivia.comment [' '] [] (.blank .none rfl) (by decide)
    have apart : ∀ more, Apart (' ' :: more) := by
      rintro more c ⟨⟩
      exact .inl rfl
    rw [text]
    exact .next .none (apart _) (.next comment (apart _) (.next (.blank .none rfl) (apart _) (.last ending)))
  obtain ⟨after, went, run⟩ := Session.runSource_accepted scanned (Grammar.derives_of_parse parsed) 1 20 {}
  have printed : (Outcome.state (Session.runSource 1 "print \"\";" none 20 {})).world.printed = "\n" := by
    rw [run]
    exact congrArg World.printed (went _).world_eq
  obtain ⟨tokens', scanned', words, -, -, alike⟩ := layout_irrelevant scanned spaced none
  refine ⟨⟨scanned, spaced⟩, tokens', scanned', words, ?_⟩
  rw [(alike 1 20 {}).state.world_eq, printed]

end LoxScript
