import ScriptLang.Text.CasedTable
import ScriptLang.Text.LowercaseTable

/-!
# Lower case

The full lower-case form of a text.  Every character has its own small form; a capital sigma that
ends a word becomes a final sigma, and a capital I with a dot becomes two characters.
-/

namespace ScriptLang.Text

/-- The small letter of a capital one under runs of mappings in ascending order. -/
def smallUnder : List CaseRun → Nat → Nat
  | [], n => n
  | run :: later, n =>
    if run.last < n then smallUnder later n
    else if run.first ≤ n ∧ (n - run.first) % run.stride = 0 then run.image + (n - run.first)
    else n

/-- The small form of one character, wherever it stands. -/
def smallForm (c : Char) : List Char :=
  if c.toNat < 0x80 then [c.toLower]
  else if c = 'İ' then ['i', '\u0307']
  else [Char.ofNat (smallUnder lowercaseRuns c.toNat)]

/-- Whether a character is a letter with case. -/
def isCased (c : Char) : Bool :=
  if c.toNat < 0x80 then c.isAlpha else casedRanges.mem c.toNat

/-- Whether a character between two letters leaves them in one word. -/
def isCaseIgnorable (c : Char) : Bool :=
  if c.toNat < 0x80 then c == '\'' || c == '.' || c == ':' || c == '^' || c == '`'
  else caseIgnorableRanges.mem c.toNat

/-- Whether the first character of a text that is not ignored is a letter with case. -/
def meetsCased (cs : List Char) : Bool :=
  ((cs.dropWhile isCaseIgnorable).head?.map isCased).getD false

/-- The lower-case form of a text that follows `before`, whose nearest character comes first.  A
sigma is final when a letter with case precedes it and none follows. -/
def lowerAfter (before : List Char) : List Char → List Char
  | [] => []
  | c :: rest =>
    -- A sigma is the one character whose small form depends on its neighbours.
    let small :=
      if c = 'Σ' then (if meetsCased before && !meetsCased rest then ['ς'] else ['σ'])
      else smallForm c
    small ++ lowerAfter (c :: before) rest

/-- The lower-case form of a text. -/
def toLower (s : String) : String :=
  String.ofList (lowerAfter [] s.toList)

end ScriptLang.Text
