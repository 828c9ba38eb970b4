import ScriptLang.Text.PrintableTable

/-!
# Quoted text

A text between double quotes in which every character shows: quotes, backslashes and the common
control characters have an escape of two characters, and a character that has no form of its own is
written with its code point.
-/

namespace ScriptLang.Text

/-- The halfwidth sound marks extend a cluster, and yet take a place of their own. -/
def isHalfwidthMark (c : Char) : Bool :=
  c == '\uff9e' || c == '\uff9f'

/-- The fillers for missing Hangul letters count as letters, and yet show nothing. -/
def isFiller (c : Char) : Bool :=
  c == '\u115f' || c == '\u1160' || c == '\u3164' || c == '\uffa0'

/-- Whether a character shows when it stands alone. -/
def isVisible (c : Char) : Bool :=
  !unprintableRanges.mem c.toNat && !isFiller c &&
    (isHalfwidthMark c || !graphemeExtendRanges.mem c.toNat)

/-- The code point of a character between braces, in hexadecimal digits. -/
def codePointEscape (c : Char) : List Char :=
  ['\\', 'u', '{'] ++ Nat.toDigits 16 c.toNat ++ ['}']

/-- One character inside the quotes. -/
def quoteChar (c : Char) : List Char :=
  match c with
  | '"' => ['\\', '"']
  | '\\' => ['\\', '\\']
  | '\n' => ['\\', 'n']
  | '\r' => ['\\', 'r']
  | '\t' => ['\\', 't']
  | '\x00' => ['\\', '0']
  | c => if isVisible c then [c] else codePointEscape c

/-- A text between quotes. -/
def quote (s : String) : String :=
  String.ofList ('"' :: s.toList.flatMap quoteChar ++ ['"'])

end ScriptLang.Text
