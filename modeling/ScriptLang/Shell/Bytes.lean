import ScriptLang.Text.Utf8

/-!
# Byte strings

A shell does not care how its bytes encode characters.  What it works on is therefore a string in
which every character stands for one byte: the character U+00e9 is the byte 0xe9, and the letter é
is the two characters that its encoding has.

## Main definitions

* `toBytes`, `ofBytes` — byte strings as lists of bytes, and back
* `ofText`, `toText` — the byte string that encodes a text, and the text that one encodes
* `natural?`, `paddedLeft`, … — numbers and columns
-/

namespace ScriptLang.Shell

/-- The bytes of a byte string. -/
def toBytes (s : String) : List UInt8 :=
  s.toList.map fun c => UInt8.ofNat c.toNat

/-- The byte string of some bytes. -/
def ofBytes (bs : List UInt8) : String :=
  String.ofList (bs.map fun b => Char.ofNat b.toNat)

/-- The byte string that encodes a text. -/
def ofText (s : String) : String :=
  if s.toList.all (fun c => c.toNat < 0x80) then s else ofBytes (Text.encode s)

/-- The text that a byte string encodes, with U+FFFD for what encodes nothing. -/
def toText (s : String) : String :=
  if s.toList.all (fun c => c.toNat < 0x80) then s else Text.decodeLenient (toBytes s)

/-- Whether a character may begin a name. -/
def isNameStart (c : Char) : Bool :=
  c.isAlpha || c == '_'

/-- Whether a character may stand in a name. -/
def isNameChar (c : Char) : Bool :=
  c.isAlphanum || c == '_'

/-- Whether a string is a name. -/
def isName (s : String) : Bool :=
  match s.toList with
  | c :: rest => isNameStart c && rest.all isNameChar
  | [] => false

/-- Whether a character is an octal digit. -/
def isOctal (c : Char) : Bool :=
  '0' ≤ c && c ≤ '7'

/-- The value of a digit in bases up to sixteen. -/
def digitValue? (c : Char) : Option Nat :=
  if c.isDigit then some (c.toNat - '0'.toNat)
  else if 'a' ≤ c ∧ c ≤ 'f' then some (c.toNat - 'a'.toNat + 10)
  else if 'A' ≤ c ∧ c ≤ 'F' then some (c.toNat - 'A'.toNat + 10)
  else none

/-- The number that digits of a base write. -/
def valueOf (base : Nat) (digits : List Char) : Nat :=
  digits.foldl (fun n d => n * base + (digitValue? d).getD 0) 0

/-- The number that a string of decimal digits writes. -/
def natural? (s : String) : Option Nat :=
  if s ≠ "" ∧ s.toList.all Char.isDigit then some (valueOf 10 s.toList) else none

/-- Whether a character is a blank in the sense of the C locale. -/
def isSpace (c : Char) : Bool :=
  c == ' ' || ('\t' ≤ c && c ≤ '\r')

/-- Whether a character is one that prints in the C locale, the space excepted. -/
def isGraph (c : Char) : Bool :=
  '!' ≤ c && c ≤ '~'

/-- Whether a character is a sign of punctuation in the C locale. -/
def isPunct (c : Char) : Bool :=
  isGraph c && !c.isAlphanum

/-- Whether a character is a control character of the C locale. -/
def isControl (c : Char) : Bool :=
  c.toNat < 32 || c.toNat == 127

/-- The character in lower case, if it is a letter of the C locale. -/
def lowered (c : Char) : Char :=
  c.toLower

/-- A string filled up with blanks on the left. -/
def paddedLeft (width : Nat) (s : String) : String :=
  String.ofList (List.replicate (width - s.length) ' ') ++ s

/-- A string filled up with blanks on the right. -/
def paddedRight (width : Nat) (s : String) : String :=
  s ++ String.ofList (List.replicate (width - s.length) ' ')

/-- A number written in a base. -/
def inBase (base n : Nat) : String :=
  String.ofList (Nat.toDigits base n)

/-- The pieces of a list of characters that a mark ends, and whether the last one is ended.  There
is no piece behind the last mark. -/
def splitEnded (mark : Char) (cs : List Char) : List String × Bool :=
  let pieces := (String.ofList cs).splitOn mark.toString
  match pieces.getLast? with
  | some "" => (pieces.dropLast, true)
  | _ => (pieces, false)

/-- The lines of a list of characters, each without its line break, and whether the last one had
one. -/
def splitLines (cs : List Char) : List String × Bool :=
  splitEnded '\n' cs

/-- The lines of a string. -/
def linesOf (s : String) : List String :=
  (splitLines s.toList).1

/-- Strings joined to a text; a mark ends each one. -/
def endedBy (mark : Char) (ss : List String) : String :=
  String.join (ss.map (· ++ mark.toString))

/-- Lines joined to a text; each one ends in a line break. -/
def unlines (ls : List String) : String :=
  endedBy '\n' ls

/-- Whether one string comes before another in the order of their bytes. -/
def before (a b : String) : Bool :=
  decide (a < b)

/-- Strings in the order of their bytes. -/
def sorted (ss : List String) : List String :=
  ss.mergeSort fun a b => !before b a

end ScriptLang.Shell
