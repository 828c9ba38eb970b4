import ScriptLang.Shell.Pattern

/-!
# Regular expressions

A regular expression stands for strings, and is looked for in texts.  Of all places where it is
found the first one counts, and of all strings that it stands for there the longest one.

## Main definitions

* `Regex` — regular expressions
* `Regex.hits` — the places up to which an expression goes
* `Regex.findFrom?` — the first and longest place in a text
-/

namespace ScriptLang.Shell

/-- A place in a text between two characters. -/
inductive Place where
  | lineStart
  | lineEnd
  | textStart
  | textEnd
  | wordStart
  | wordEnd
  | wordEdge
  | noWordEdge
  deriving DecidableEq

/-- A regular expression. -/
inductive Regex where
  | empty
  | anyChar
  | oneOf (negated : Bool) (ranges : List CharRange)
  | place (p : Place)
  | group (number : Nat) (inner : Regex)
  /-- What a group has stood for, once more. -/
  | again (number : Nat)
  | both (first second : Regex)
  | either (first second : Regex)
  | many (inner : Regex) (least : Nat) (most : Option Nat)

/-- How an expression is looked for. -/
structure Looking where
  text : Array Char
  /-- Whether letters also stand for the same letters in the other case. -/
  ignoreCase : Bool := false
  /-- Whether lines begin and end at the line breaks in the text. -/
  byLines : Bool := false

/-- A place up to which an expression goes, and the starts and ends of its groups. -/
structure Hit where
  stop : Nat
  groups : List (Nat × Nat × Nat) := []
  deriving DecidableEq

namespace Hit

/-- Where a group starts and ends. -/
def group? (h : Hit) (number : Nat) : Option (Nat × Nat) :=
  h.groups.lookup number

/-- The hits without those that end where an earlier one ends; those with other groups stay if
`whole` says so. -/
def distinct (whole : Bool) (hs : List Hit) : List Hit :=
  hs.foldr (fun h later => h :: later.filter fun other =>
    other.stop != h.stop || (whole && other.groups != h.groups)) []

/-- The hits in order of length, longest first. -/
def byLength (hs : List Hit) : List Hit :=
  hs.mergeSort fun a b => b.stop ≤ a.stop

end Hit

namespace Looking

/-- Whether the characters before and behind a place belong to words. -/
def wordsAround (l : Looking) (i : Nat) : Bool × Bool :=
  let isWord (c : Char) : Bool := isNameChar c
  (0 < i && l.text[i - 1]?.any isWord, l.text[i]?.any isWord)

/-- Whether a place is of a kind. -/
def isAt (l : Looking) (p : Place) (i : Nat) : Bool :=
  match p with
  | .textStart => i == 0
  | .textEnd => i == l.text.size
  | .lineStart => i == 0 || (l.byLines && l.text[i - 1]? == some '\n')
  | .lineEnd => i == l.text.size || (l.byLines && l.text[i]? == some '\n')
  | .wordStart => let (before, behind) := l.wordsAround i; !before && behind
  | .wordEnd => let (before, behind) := l.wordsAround i; before && !behind
  | .wordEdge => let (before, behind) := l.wordsAround i; before != behind
  | .noWordEdge => let (before, behind) := l.wordsAround i; before == behind

/-- Whether a character is in ranges. -/
def inRanges (l : Looking) (ranges : List CharRange) (c : Char) : Bool :=
  ranges.any (·.holds c) ||
    (l.ignoreCase && ranges.any fun r => r.holds c.toLower || r.holds c.toUpper)

/-- Whether the text goes on with a part of it; yields the place behind it. -/
def repeated? (l : Looking) (start stop i : Nat) : Option Nat :=
  let same (a b : Char) : Bool := if l.ignoreCase then a.toLower == b.toLower else a == b
  let goesOn := (List.range (stop - start)).all fun k =>
    match l.text[start + k]?, l.text[i + k]? with
    | some a, some b => same a b
    | _, _ => false
  if goesOn then some (i + (stop - start)) else none

end Looking

namespace Regex

/-- Whether an expression asks for what a group has stood for. -/
def repeatsGroups : Regex → Bool
  | again _ => true
  | group _ r | many r _ _ => r.repeatsGroups
  | both a b | either a b => a.repeatsGroups || b.repeatsGroups
  | _ => false

/-- All that can be reached by steps; `new` holds what the last one has reached. -/
def reach (whole : Bool) (step : Hit → List Hit) : Nat → List Hit → List Hit → List Hit
  | 0, _, seen => seen
  | n + 1, new, seen =>
    let isNew (h : Hit) : Bool := !seen.any fun other =>
      other.stop == h.stop && (!whole || other.groups == h.groups)
    match (Hit.distinct whole (new.flatMap step)).filter isNew with
    | [] => seen
    | next => reach whole step n next (seen ++ next)

/-- What a number of steps reaches. -/
def stepsFrom (whole : Bool) (step : Hit → List Hit) : Nat → List Hit → List Hit
  | 0, hs => hs
  | n + 1, hs => stepsFrom whole step n (Hit.distinct whole (hs.flatMap step))

/-- The places up to which an expression goes from a place, in order of preference. -/
def hits (l : Looking) (whole : Bool) : Regex → Hit → List Hit
  | empty, h => [h]
  | anyChar, h => if h.stop < l.text.size then [{ h with stop := h.stop + 1 }] else []
  | oneOf negated ranges, h =>
    match l.text[h.stop]? with
    | some c => if l.inRanges ranges c != negated then [{ h with stop := h.stop + 1 }] else []
    | none => []
  | place p, h => if l.isAt p h.stop then [h] else []
  | group number r, h =>
    (r.hits l whole h).map fun found =>
      { found with
        groups := (number, h.stop, found.stop) :: found.groups.filter (·.1 != number) }
  | again number, h =>
    match h.group? number with
    | some (start, stop) => ((l.repeated? start stop h.stop).map fun stop => { h with stop }).toList
    | none => []
  | both a b, h => Hit.distinct whole ((a.hits l whole h).flatMap (b.hits l whole))
  | either a b, h => Hit.distinct whole (Hit.byLength (a.hits l whole h ++ b.hits l whole h))
  | many r least most, h =>
    let begun := stepsFrom whole (r.hits l whole) least [h]
    let further := match most with
      | some most => most - least
      | none => l.text.size + 1
    Hit.byLength (reach whole (r.hits l whole) further begun begun)

/-- The longest part of a text from a place on for which an expression stands. -/
def hitAt? (r : Regex) (l : Looking) (start : Nat) : Option Hit :=
  (Hit.byLength (r.hits l r.repeatsGroups { stop := start })).head?

/-- Looks for an expression at a number of places, one after the other. -/
def findWithin? (r : Regex) (l : Looking) : Nat → Nat → Option (Nat × Hit)
  | 0, _ => none
  | n + 1, start =>
    match r.hitAt? l start with
    | some h => some (start, h)
    | none => r.findWithin? l n (start + 1)

/-- The first part of a text from a place on for which an expression stands, and the longest one
there. -/
def findFrom? (r : Regex) (l : Looking) (start : Nat) : Option (Nat × Hit) :=
  r.findWithin? l (l.text.size + 1 - start) start

/-- Whether a text holds a part for which an expression stands. -/
def isIn (r : Regex) (l : Looking) : Bool :=
  (r.findFrom? l 0).isSome

/-- The expression that stands for one character. -/
def char (c : Char) : Regex :=
  oneOf false [.between c c]

/-- The expression that stands for one string. -/
def literal (s : String) : Regex :=
  s.toList.foldr (fun c r => both (char c) r) empty

/-- Expressions one after the other. -/
def sequence : List Regex → Regex
  | [] => empty
  | [r] => r
  | r :: rs => both r (sequence rs)

/-- One of several expressions. -/
def anyOf : List Regex → Regex
  | [] => empty
  | [r] => r
  | r :: rs => either r (anyOf rs)

end Regex

end ScriptLang.Shell
