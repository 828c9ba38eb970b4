import ScriptLang.Piece

/-!
# Scanning

The tokens of a source text with their places, and the faults found among its characters.  Faults
do not stop the scan, and an end token always closes the list.

## Main definitions

* `Position` — where the scan stands
* `Piece.token?`, `Piece.diagnostics` — what a piece yields at a position
* `scan` — the tokens and diagnostics of a source text
-/

namespace ScriptLang

/-- A place between two characters of the source: how many characters are before it, and its line,
counted from one. -/
structure Position where
  offset : Nat := 0
  line : Nat := 1
  deriving DecidableEq, Repr

/-- The place behind a text that starts here. -/
def Position.after (p : Position) (text : List Char) : Position :=
  { offset := p.offset + text.length, line := p.line + text.count '\n' }

namespace Piece

/-- The token of this kind whose text starts at the position. -/
def tokenAt (p : Position) (kind : TokenKind) (text : List Char) (literal : Option TokenLiteral) :
    Token :=
  { kind, lexeme := String.ofList text, literal, line := p.line
    span := ⟨p.offset, p.offset + text.length⟩ }

/-- The token that a piece makes; only blanks, comments and faulty pieces make none. -/
def token? (p : Position) (piece : Piece) : Option Token :=
  match piece with
  | blank _ | comment _ | openString _ | stray _ => none
  | symbol kind text => some (tokenAt p kind text none)
  | number whole fraction =>
    some (tokenAt p .number piece.text (some (.number (Number.ofLiteral whole fraction))))
  -- A word is read as far as it goes before it is looked up, so no keyword cuts an identifier.
  | word text => some (tokenAt p ((TokenKind.ofWord? (String.ofList text)).getD .ident) text none)
  | string body =>
    some (tokenAt p .string piece.text (some (.string (String.ofList (unescape body)))))

/-- A fault in the first `length` characters behind a position. -/
def faultAt (p : Position) (length : Nat) (fault : SyntaxFault) : Diagnostic :=
  { fault, line := p.line, place := "", span := ⟨p.offset, p.offset + length⟩ }

/-- The faults of a piece.  An unknown escape spans the string up to its backslash. -/
def diagnostics (p : Position) (piece : Piece) : List Diagnostic :=
  match piece with
  | blank _ | comment _ | symbol _ _ | number _ _ | word _ => []
  | stray c => [faultAt p 1 (.unexpectedCharacter c)]
  | string body => escapeFaults body
  | openString body => escapeFaults body ++ [faultAt p piece.text.length .unterminatedString]
where
  /-- One fault for each escape that stands for nothing. -/
  escapeFaults (body : List Char) : List Diagnostic :=
    (unknownEscapes 1 body).map fun (offset, c) => faultAt p offset (.unknownEscape c)

end Piece

/-- The token that closes a list. -/
def Position.endToken (p : Position) : Token :=
  { kind := .eof, lexeme := "", line := p.line, span := ⟨p.offset, p.offset⟩ }

/-- What scanning a text yields. -/
structure Scan where
  tokens : List Token
  diagnostics : List Diagnostic

/-- The tokens and faults of pieces that start at a position. -/
def scanPieces (p : Position) : List Piece → Scan
  | [] => ⟨[p.endToken], []⟩
  | piece :: rest =>
    let later := scanPieces (p.after piece.text) rest
    ⟨(piece.token? p).toList ++ later.tokens, piece.diagnostics p ++ later.diagnostics⟩

/-- The tokens and faults of a source text. -/
def scan (source : String) : Scan :=
  scanPieces {} (pieces source.toList)

end ScriptLang
