/-! # Kinds of tokens
The lexical classes of the language: punctuation and operators of one or two characters, literals and
names, sixteen reserved words, and the two classes that are read over. -/

namespace LoxScript

/-- The class of a token. -/
inductive Kind where
  | leftParen | rightParen | leftBrace | rightBrace | comma | dot | minus | plus | semicolon | slash | star
  | bang | bangEqual | equal | equalEqual | greater | greaterEqual | less | lessEqual
  | identifier | string | number
  | andWord | classWord | elseWord | falseWord | funWord | forWord | ifWord | nilWord | orWord | printWord
  | returnWord | superWord | thisWord | trueWord | varWord | whileWord
  | comment | whitespace
  deriving DecidableEq, Repr, Inhabited

namespace Kind

/-- Every kind, in the order of its declaration. -/
def all : List Kind :=
  [leftParen, rightParen, leftBrace, rightBrace, comma, dot, minus, plus, semicolon, slash, star,
    bang, bangEqual, equal, equalEqual, greater, greaterEqual, less, lessEqual,
    identifier, string, number,
    andWord, classWord, elseWord, falseWord, funWord, forWord, ifWord, nilWord, orWord, printWord,
    returnWord, superWord, thisWord, trueWord, varWord, whileWord,
    comment, whitespace]

/-- The name of a kind in listings. -/
def name : Kind → String
  | leftParen => "LEFT_PAREN"
  | rightParen => "RIGHT_PAREN"
  | leftBrace => "LEFT_BRACE"
  | rightBrace => "RIGHT_BRACE"
  | comma => "COMMA"
  | dot => "DOT"
  | minus => "MINUS"
  | plus => "PLUS"
  | semicolon => "SEMICOLON"
  | slash => "SLASH"
  | star => "STAR"
  | bang => "BANG"
  | bangEqual => "BANG_EQUAL"
  | equal => "EQUAL"
  | equalEqual => "EQUAL_EQUAL"
  | greater => "GREATER"
  | greaterEqual => "GREATER_EQUAL"
  | less => "LESS"
  | lessEqual => "LESS_EQUAL"
  | identifier => "IDENTIFIER"
  | string => "STRING"
  | number => "NUMBER"
  | andWord => "AND"
  | classWord => "CLASS"
  | elseWord => "ELSE"
  | falseWord => "FALSE"
  | funWord => "FUN"
  | forWord => "FOR"
  | ifWord => "IF"
  | nilWord => "NIL"
  | orWord => "OR"
  | printWord => "PRINT"
  | returnWord => "RETURN"
  | superWord => "SUPER"
  | thisWord => "THIS"
  | trueWord => "TRUE"
  | varWord => "VAR"
  | whileWord => "WHILE"
  | comment => "COMMENT"
  | whitespace => "WHITESPACE"

/-- The reserved words with their kinds, in alphabetical order. -/
def keywords : List (String × Kind) :=
  [("and", andWord), ("class", classWord), ("else", elseWord), ("false", falseWord), ("for", forWord),
    ("fun", funWord), ("if", ifWord), ("nil", nilWord), ("or", orWord), ("print", printWord),
    ("return", returnWord), ("super", superWord), ("this", thisWord), ("true", trueWord),
    ("var", varWord), ("while", whileWord)]

/-- Punctuation and operators with their kinds. -/
def marks : List (String × Kind) :=
  [("(", leftParen), (")", rightParen), ("\x7b", leftBrace), ("\x7d", rightBrace), (",", comma), (".", dot),
    ("-", minus), ("+", plus), (";", semicolon), ("/", slash), ("*", star), ("!", bang),
    ("!=", bangEqual), ("=", equal), ("==", equalEqual), (">", greater), (">=", greaterEqual),
    ("<", less), ("<=", lessEqual)]

/-- The one spelling of a kind, if every token of the kind is spelled alike. -/
def spelling? (k : Kind) : Option String :=
  ((marks ++ keywords).find? fun entry => entry.2 == k).map (·.1)

/-- The kind of a reserved word. -/
def ofKeyword? (word : String) : Option Kind :=
  (keywords.find? fun entry => entry.1 == word).map (·.2)

/-- How messages speak of a kind: its spelling between apostrophes, or its name in lower case. -/
def describe (k : Kind) : String :=
  match k.spelling? with
  | some spelling => "'" ++ spelling ++ "'"
  | none => String.ofList (k.name.toList.map Char.toLower)

/-- The words that begin a statement; reading goes on at one of them after an error. -/
def startsStatement : Kind → Bool
  | classWord | funWord | varWord | forWord | ifWord | whileWord | printWord | returnWord => true
  | _ => false

end Kind

end LoxScript
