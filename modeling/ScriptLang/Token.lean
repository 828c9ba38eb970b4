import ScriptLang.Number.Text

/-!
# Tokens

The words of a script: their kinds, the values that literals carry, and where a token stands.

## Main definitions

* `TokenKind` — the kinds of tokens
* `TokenKind.ofWord?` — the kind of a keyword
* `Token` — a token with its place in the source
* `Token.describe` — one line about a token
-/

namespace ScriptLang

/-- The kinds of tokens. -/
inductive TokenKind where
  | string
  | number
  | ident
  | eof
  | andWord
  | elseWord
  | falseWord
  | forWord
  | funWord
  | ifWord
  | nilWord
  | orWord
  | printWord
  | returnWord
  | trueWord
  | varWord
  | whileWord
  | leftParen
  | rightParen
  | leftBrace
  | rightBrace
  | comma
  | dot
  | semicolon
  | bang
  | equal
  | plus
  | minus
  | star
  | slash
  | ampersand
  | lesser
  | greater
  | lesserEqual
  | greaterEqual
  | equalEqual
  | bangEqual
  deriving DecidableEq, Repr

namespace TokenKind

/-- The name of a kind. -/
def label : TokenKind → String
  | string => "String"
  | number => "Number"
  | ident => "Ident"
  | eof => "Eof"
  | andWord => "And"
  | elseWord => "Else"
  | falseWord => "False"
  | forWord => "For"
  | funWord => "Fun"
  | ifWord => "If"
  | nilWord => "Nil"
  | orWord => "Or"
  | printWord => "Print"
  | returnWord => "Return"
  | trueWord => "True"
  | varWord => "Var"
  | whileWord => "While"
  | leftParen => "LeftParen"
  | rightParen => "RightParen"
  | leftBrace => "LeftBrace"
  | rightBrace => "RightBrace"
  | comma => "Comma"
  | dot => "Dot"
  | semicolon => "Semicolon"
  | bang => "Bang"
  | equal => "Equal"
  | plus => "Plus"
  | minus => "Minus"
  | star => "Star"
  | slash => "Slash"
  | ampersand => "Ampersand"
  | lesser => "Lesser"
  | greater => "Greater"
  | lesserEqual => "LesserEqual"
  | greaterEqual => "GreaterEqual"
  | equalEqual => "EqualEqual"
  | bangEqual => "BangEqual"

/-- All kinds, in the order of their declaration. -/
def all : List TokenKind :=
  [string, number, ident, eof, andWord, elseWord, falseWord, forWord, funWord, ifWord, nilWord,
    orWord, printWord, returnWord, trueWord, varWord, whileWord, leftParen, rightParen, leftBrace,
    rightBrace, comma, dot, semicolon, bang, equal, plus, minus, star, slash, ampersand, lesser,
    greater, lesserEqual, greaterEqual, equalEqual, bangEqual]

theorem mem_all (k : TokenKind) : k ∈ all := by cases k <;> decide

/-- The kind with a given name. -/
def ofLabel? (name : String) : Option TokenKind :=
  all.find? (·.label == name)

/-- The keyword that a word spells. -/
def ofWord? : String → Option TokenKind
  | "and" => some andWord
  | "else" => some elseWord
  | "false" => some falseWord
  | "for" => some forWord
  | "fun" => some funWord
  | "if" => some ifWord
  | "nil" => some nilWord
  | "or" => some orWord
  | "print" => some printWord
  | "return" => some returnWord
  | "true" => some trueWord
  | "var" => some varWord
  | "while" => some whileWord
  | _ => none

/-- Whether a statement can be taken up again at this kind of token after a syntax error. -/
def beginsStatement : TokenKind → Bool
  | funWord | varWord | forWord | ifWord | whileWord | printWord | returnWord => true
  | _ => false

/-- Whether this is an operator that computes a number or a text from two operands. -/
def isArithmetic : TokenKind → Bool
  | plus | minus | star | slash | ampersand => true
  | _ => false

end TokenKind

/-- The value that a literal token carries. -/
inductive TokenLiteral where
  | number (value : Float)
  | string (value : String)
  deriving DecidableEq

/-- The text of a literal's value. -/
def TokenLiteral.text : TokenLiteral → String
  | number x => Number.render x
  | string s => s

/-- The characters from `start` up to `stop`, the latter excluded, counted from the first character
of the source. -/
structure Span where
  start : Nat
  stop : Nat
  deriving DecidableEq, Repr

/-- A token and its place in the source. -/
structure Token where
  kind : TokenKind
  /-- The text of the token as it stands in the source. -/
  lexeme : String
  /-- The value, for literals. -/
  literal : Option TokenLiteral := none
  /-- The line on which the token starts, counted from one. -/
  line : Nat
  span : Span
  deriving DecidableEq

/-- The kind, the text and the value of a token in one line. -/
def Token.describe (t : Token) : String :=
  match t.literal with
  | none => t.kind.label ++ " " ++ t.lexeme
  | some l => t.kind.label ++ " " ++ t.lexeme ++ " " ++ l.text

end ScriptLang
