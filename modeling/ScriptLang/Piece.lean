import ScriptLang.Diagnostic
import ScriptLang.Text.Identifier

/-!
# Pieces of source text

A source text falls into pieces, one after another without a gap: tokens, blanks, comments,
characters that belong nowhere and strings that never close.  A piece is what its characters say,
without its place; no piece but a line break holds a line break.

## Main definitions

* `Piece` — the kinds of pieces, each of which knows its characters
* `Piece.read` — the first piece of a text, and the text behind it
* `pieces` — all pieces of a text
* `unescape`, `unknownEscapes` — what the escapes in a string stand for, and those that stand for
  nothing

## Main results

* `Piece.text_append_read` — reading a piece only cuts the text
* `flatMap_text_pieces` — the pieces put together are the text
-/

namespace ScriptLang

open Text (isIdentStart isIdentContinue)

/-- A piece of source text. -/
inductive Piece where
  /-- A space, a tab, a carriage return or a line break. -/
  | blank (c : Char)
  /-- Two slashes and the rest of the line. -/
  | comment (body : List Char)
  /-- An operator or a punctuation mark. -/
  | symbol (kind : TokenKind) (text : List Char)
  /-- Digits, and after a point more digits unless `fraction` is empty. -/
  | number (whole fraction : List Char)
  /-- A keyword or an identifier. -/
  | word (text : List Char)
  /-- A string between its quotes. -/
  | string (body : List Char)
  /-- A string without its closing quote, up to the end of the line or of the source. -/
  | openString (body : List Char)
  /-- A character that begins nothing. -/
  | stray (c : Char)
  deriving DecidableEq

namespace Piece

/-- The characters of a piece. -/
def text : Piece → List Char
  | blank c | stray c => [c]
  | comment body => '/' :: '/' :: body
  | symbol _ text | word text => text
  | number whole [] => whole
  | number whole fraction => whole ++ '.' :: fraction
  | string body => '"' :: body ++ ['"']
  | openString body => '"' :: body

end Piece

/-! ### Strings -/

/-- The body of a string whose opening quote has been read, and the text behind it.  The body ends
before a quote, a line break or the end of the text; a backslash keeps the character after it,
unless that is a line break, from ending the body. -/
def splitBody : List Char → List Char × List Char
  | [] => ([], [])
  | '\\' :: c :: rest =>
    -- The line break is left in place: it ends the string and counts as a line.
    if c = '\n' then (['\\'], '\n' :: rest)
    else
      let (body, after) := splitBody rest
      ('\\' :: c :: body, after)
  | c :: rest =>
    if c = '"' ∨ c = '\n' then ([], c :: rest)
    else
      let (body, after) := splitBody rest
      (c :: body, after)

/-- What a backslash and the character `c` stand for together; none if for themselves. -/
def escaped? (c : Char) : Option Char :=
  match c with
  | '"' => some '"'
  | '\\' => some '\\'
  | 'n' => some '\n'
  | 't' => some '\t'
  | _ => none

/-- The value of a string's body. -/
def unescape : List Char → List Char
  | [] => []
  | '\\' :: c :: rest =>
    match escaped? c with
    | some v => v :: unescape rest
    | none => '\\' :: c :: unescape rest
  | c :: rest => c :: unescape rest

/-- The escapes in a string's body that stand for nothing else: the character after the backslash
and its offset, where the body itself starts at `offset`. -/
def unknownEscapes (offset : Nat) : List Char → List (Nat × Char)
  | [] => []
  | '\\' :: c :: rest =>
    if escaped? c = none then (offset + 1, c) :: unknownEscapes (offset + 2) rest
    else unknownEscapes (offset + 2) rest
  | _ :: rest => unknownEscapes (offset + 1) rest

theorem append_splitBody (cs : List Char) : (splitBody cs).1 ++ (splitBody cs).2 = cs := by
  fun_induction splitBody cs <;> simp_all

/-! ### Reading one piece -/

/-- The kind of a symbol of one character. -/
def symbol? (c : Char) : Option TokenKind :=
  match c with
  | '(' => some .leftParen
  | ')' => some .rightParen
  | '{' => some .leftBrace
  | '}' => some .rightBrace
  | ',' => some .comma
  | '.' => some .dot
  | '-' => some .minus
  | '+' => some .plus
  | ';' => some .semicolon
  | '*' => some .star
  | '/' => some .slash
  | '&' => some .ampersand
  | '!' => some .bang
  | '=' => some .equal
  | '<' => some .lesser
  | '>' => some .greater
  | _ => none

/-- The kind of a symbol that an equals sign follows, if the two make one symbol. -/
def withEqual? : TokenKind → Option TokenKind
  | .bang => some .bangEqual
  | .equal => some .equalEqual
  | .lesser => some .lesserEqual
  | .greater => some .greaterEqual
  | _ => none

/-- Whether a character only separates. -/
def isSeparator (c : Char) : Bool :=
  c == ' ' || c == '\t' || c == '\r' || c == '\n'

namespace Piece

/-- The string that starts a text behind its opening quote, and the text behind the string. -/
def readString (cs : List Char) : Piece × List Char :=
  match splitBody cs with
  | (body, '"' :: after) => (string body, after)
  | (body, after) => (openString body, after)

/-- The number that starts with the digit `c`, and the text behind it.  A point belongs to the
number only if a digit follows it. -/
def readNumber (c : Char) (rest : List Char) : Piece × List Char :=
  let whole := c :: rest.takeWhile Char.isDigit
  match rest.dropWhile Char.isDigit with
  | '.' :: d :: after =>
    if d.isDigit then
      (number whole (d :: after.takeWhile Char.isDigit), after.dropWhile Char.isDigit)
    -- The point is a symbol of its own then.
    else (number whole [], '.' :: d :: after)
  | after => (number whole [], after)

/-- The symbol of kind `kind` that starts with the character `c`, and the text behind it. -/
def readSymbol (kind : TokenKind) (c : Char) (rest : List Char) : Piece × List Char :=
  match withEqual? kind, rest with
  | some longer, '=' :: after => (symbol longer [c, '='], after)
  | _, _ => (symbol kind [c], rest)

/-- The piece that starts with the character `c`, and the text behind it. -/
def read (c : Char) (rest : List Char) : Piece × List Char :=
  if c = '"' then readString rest
  -- Two slashes are tried before the symbol that one slash is.
  else if c = '/' ∧ rest.head? = some '/' then
    (comment (rest.tail.takeWhile (· != '\n')), rest.tail.dropWhile (· != '\n'))
  else
    match symbol? c with
    | some kind => readSymbol kind c rest
    | none =>
      if isSeparator c then (blank c, rest)
      else if c.isDigit then readNumber c rest
      else if isIdentStart c then
        (word (c :: rest.takeWhile isIdentContinue), rest.dropWhile isIdentContinue)
      else (stray c, rest)

theorem text_append_readString (cs : List Char) :
    (readString cs).1.text ++ (readString cs).2 = '"' :: cs := by
  have h := append_splitBody cs
  unfold readString
  split <;> simp_all [text]

theorem text_append_readSymbol (kind : TokenKind) (c : Char) (rest : List Char) :
    (readSymbol kind c rest).1.text ++ (readSymbol kind c rest).2 = c :: rest := by
  unfold readSymbol
  split <;> simp [text]

theorem text_append_readNumber (c : Char) (rest : List Char) :
    (readNumber c rest).1.text ++ (readNumber c rest).2 = c :: rest := by
  have hw := List.takeWhile_append_dropWhile (p := Char.isDigit) (l := rest)
  simp only [readNumber]
  split
  · rename_i d after h
    rw [h] at hw
    split <;> simp [text, hw]
  · simp [text]

/-- Reading a piece only cuts the text. -/
theorem text_append_read (c : Char) (rest : List Char) :
    (read c rest).1.text ++ (read c rest).2 = c :: rest := by
  unfold read
  split
  · rename_i h; subst h; exact text_append_readString rest
  · split
    · rename_i h
      obtain ⟨rfl, h⟩ := h
      cases rest with
      | nil => simp at h
      | cons d ds =>
        simp only [List.head?_cons, Option.some.injEq] at h
        subst h
        simp [text]
    · split
      · exact text_append_readSymbol ..
      · split
        · simp [text]
        · split
          · exact text_append_readNumber ..
          · split <;> simp [text]

/-- A piece begins with the character that it was read at. -/
theorem head?_text_read (c : Char) (rest : List Char) : (read c rest).1.text.head? = some c := by
  unfold read
  split
  · rename_i h
    subst h
    unfold readString
    split <;> simp [text]
  · split
    · rename_i h
      simp [text, h.1]
    · split
      · unfold readSymbol
        split <;> simp [text]
      · split
        · simp [text]
        · split
          · simp only [readNumber]
            split
            · split <;> simp [text]
            · simp [text]
          · split <;> simp [text]

theorem length_read (c : Char) (rest : List Char) : (read c rest).2.length ≤ rest.length := by
  have h := congrArg List.length (text_append_read c rest)
  have hc := head?_text_read c rest
  generalize (read c rest).1.text = t at h hc
  cases t with
  | nil => simp at hc
  | cons d ds =>
    simp only [List.length_append, List.length_cons] at h
    omega

end Piece

/-- The pieces of a text, from first to last. -/
def pieces : List Char → List Piece
  | [] => []
  | c :: rest => (Piece.read c rest).1 :: pieces (Piece.read c rest).2
termination_by cs => cs.length
decreasing_by exact Nat.lt_succ_of_le (Piece.length_read c rest)

@[simp] theorem pieces_nil : pieces [] = [] := by rw [pieces]

theorem pieces_cons (c : Char) (rest : List Char) :
    pieces (c :: rest) = (Piece.read c rest).1 :: pieces (Piece.read c rest).2 := by
  rw [pieces]

/-- The pieces put together are the text. -/
@[simp] theorem flatMap_text_pieces (cs : List Char) : (pieces cs).flatMap Piece.text = cs := by
  fun_induction pieces cs with
  | case1 => rfl
  | case2 c rest ih => simp [ih, Piece.text_append_read]

end ScriptLang
