import ScriptLang.Shell.Bytes

/-!
# Patterns

A pattern stands for many strings: `*` for any string, `?` for any character, and a list in
brackets for one of its characters.  Quoted characters stand for themselves.

## Main definitions

* `Pattern`, `Pattern.ofGlyphs` — patterns, and the reading of one
* `Pattern.accepts` — whether a string is one of those that a pattern stands for
* `Pattern.trim` — a string without a part at its start or at its end
-/

namespace ScriptLang.Shell

/-- Characters that belong together in a bracket. -/
inductive CharRange where
  | between (least greatest : Char)
  /-- A class with a name, such as `digit`. -/
  | named (name : String)
  deriving DecidableEq

/-- Whether a character belongs to a class of the C locale; none if there is no such class. -/
def classTest? (name : String) : Option (Char → Bool) :=
  match name with
  | "alpha" => some Char.isAlpha
  | "digit" => some Char.isDigit
  | "alnum" => some Char.isAlphanum
  | "upper" => some Char.isUpper
  | "lower" => some Char.isLower
  | "space" => some isSpace
  | "blank" => some fun c => c == ' ' || c == '\t'
  | "punct" => some isPunct
  | "cntrl" => some isControl
  | "graph" => some isGraph
  | "print" => some fun c => c == ' ' || isGraph c
  | "xdigit" => some fun c => (digitValue? c).isSome
  | _ => none

/-- Whether a range holds a character. -/
def CharRange.holds (r : CharRange) (c : Char) : Bool :=
  match r with
  | between least greatest => least ≤ c && c ≤ greatest
  | named name => (classTest? name).any (· c)

/-- A part of a pattern. -/
inductive PatternPart where
  | one (c : Char)
  | anyChar
  | anyString
  | oneOf (negated : Bool) (ranges : List CharRange)
  deriving DecidableEq

/-- A pattern. -/
abbrev Pattern := List PatternPart

namespace Pattern

/-- The name of a class behind `[`, up to `:]`, and what follows. -/
def className? (gs : List (Char × Bool)) : Option (String × List (Char × Bool)) :=
  match gs with
  | (':', false) :: later =>
    let name := later.takeWhile fun g => g.1.isAlpha
    match later.drop name.length with
    | (':', _) :: (']', _) :: rest =>
      let name := String.ofList (name.map Prod.fst)
      if (classTest? name).isSome then some (name, rest) else none
    | _ => none
  | _ => none

/-- The ranges of a bracket up to its end, and what follows; none if it has no end.  A bracket that
closes is an ordinary character in the first place. -/
def ranges? (fuel : Nat) (gs : List (Char × Bool)) (first : Bool) :
    Option (List CharRange × List (Char × Bool)) :=
  match fuel, gs with
  | 0, _ => none
  | _, [] => none
  | n + 1, (c, quoted) :: later =>
    if c = ']' ∧ !quoted ∧ !first then some ([], later)
    else
      match if c = '[' ∧ !quoted then className? later else none with
      | some (name, rest) => (ranges? n rest false).map fun (rs, rest) => (.named name :: rs, rest)
      | none =>
        match later with
        | ('-', false) :: (d, _) :: rest =>
          if d = ']' then (ranges? n later false).map fun (rs, rest) => (.between c c :: rs, rest)
          else (ranges? n rest false).map fun (rs, rest) => (.between c d :: rs, rest)
        | _ => (ranges? n later false).map fun (rs, rest) => (.between c c :: rs, rest)

/-- The pattern that characters form; the ones marked with `true` are quoted. -/
def ofGlyphsFuel : Nat → List (Char × Bool) → Pattern
  | 0, _ => []
  | _, [] => []
  | n + 1, ('*', false) :: later => .anyString :: ofGlyphsFuel n later
  | n + 1, ('?', false) :: later => .anyChar :: ofGlyphsFuel n later
  | n + 1, ('[', false) :: later =>
    let (negated, inner) : Bool × List (Char × Bool) := match later with
      | ('!', false) :: inner => (true, inner)
      | inner => (false, inner)
    match ranges? (inner.length + 1) inner true with
    | some (ranges, rest) => .oneOf negated ranges :: ofGlyphsFuel n rest
    | none => .one '[' :: ofGlyphsFuel n later
  | n + 1, (c, _) :: later => .one c :: ofGlyphsFuel n later

/-- The pattern that characters form; the ones marked with `true` are quoted. -/
def ofGlyphs (gs : List (Char × Bool)) : Pattern :=
  ofGlyphsFuel (gs.length + 1) gs

/-- The characters of a pattern in which a backslash quotes the next one. -/
def glyphsOf : List Char → List (Char × Bool)
  | '\\' :: c :: rest => (c, true) :: glyphsOf rest
  | c :: rest => (c, false) :: glyphsOf rest
  | [] => []

/-- The pattern that a string writes. -/
def ofString (s : String) : Pattern :=
  ofGlyphs (glyphsOf s.toList)

/-- Whether a pattern stands for a string. -/
def acceptsChars : Pattern → List Char → Bool
  | [], cs => cs.isEmpty
  | .anyString :: ps, [] => acceptsChars ps []
  | .anyString :: ps, c :: cs => acceptsChars ps (c :: cs) || acceptsChars (.anyString :: ps) cs
  | _, [] => false
  | .one a :: ps, c :: cs => a == c && acceptsChars ps cs
  | .anyChar :: ps, _ :: cs => acceptsChars ps cs
  | .oneOf negated ranges :: ps, c :: cs => ranges.any (·.holds c) != negated && acceptsChars ps cs
termination_by ps cs => (ps.length, cs.length)

/-- Whether a pattern stands for a string. -/
def accepts (p : Pattern) (s : String) : Bool :=
  acceptsChars p s.toList

/-- A string without the shortest or the longest part at its start, or at its end, for which a
pattern stands. -/
def trim (p : Pattern) (atEnd longest : Bool) (s : String) : String :=
  let cs := s.toList
  let lengths := List.range (cs.length + 1)
  let cut (n : Nat) : List Char × List Char :=
    if atEnd then (cs.drop (cs.length - n), cs.take (cs.length - n)) else (cs.take n, cs.drop n)
  let candidates := if longest then lengths.reverse else lengths
  match candidates.find? fun n => acceptsChars p (cut n).1 with
  | some n => String.ofList (cut n).2
  | none => s

end Pattern

end ScriptLang.Shell
