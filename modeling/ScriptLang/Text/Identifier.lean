import ScriptLang.Text.IdentifierTable

/-!
# Identifier characters

An identifier starts with an underscore or a character of `XID_Start` and goes on with underscores
and characters of `XID_Continue`.  Within ASCII these are the letters, and the letters and digits.
The second class is built on the first, so it contains it.
-/

namespace ScriptLang.Text

/-- Whether an identifier may start with this character. -/
def isIdentStart (c : Char) : Bool :=
  if c.toNat < 0x80 then c.isAlpha || c == '_' else identStartRanges.mem c.toNat

/-- Whether an identifier may go on with this character. -/
def isIdentContinue (c : Char) : Bool :=
  isIdentStart c || if c.toNat < 0x80 then c.isDigit else identExtraRanges.mem c.toNat

theorem isIdentContinue_of_isIdentStart {c : Char} (h : isIdentStart c = true) :
    isIdentContinue c = true := by
  simp [isIdentContinue, h]

end ScriptLang.Text
