import ScriptLang.Shell.Action
import ScriptLang.Shell.Pattern

/-!
# Fields

What is filled into a word may fall apart: it is split at separators where it is not quoted, and
every field that it comes to is compared with the names of files.

## Main definitions

* `Glyph` — what filling in a word comes to, character by character
* `splitFields` — the fields of a word
* `matchingPaths` — the files for which a field stands
-/

namespace ScriptLang.Shell

/-- A piece of a word that has been filled in. -/
inductive Glyph where
  /-- A character, whether it was quoted, and whether it may separate fields. -/
  | char (c : Char) (quoted separable : Bool)
  /-- A place where quotes have been; there is a field, even if it is empty. -/
  | quotes
  /-- The end of a field; a soft one ends no empty field. -/
  | gap (hard : Bool)
  /-- The place where something that may be split begins. -/
  | edge

/-- A character and whether it is quoted. -/
abbrev FieldChar := Char × Bool

/-- The glyphs of a string. -/
def glyphsOf (quoted separable : Bool) (s : String) : List Glyph :=
  s.toList.map fun c => .char c quoted separable

/-- The characters of glyphs that are not split. -/
def plainChars (gs : List Glyph) : List FieldChar :=
  gs.filterMap fun
    | .char c quoted _ => some (c, quoted)
    | .gap _ => some (' ', true)
    | _ => none

/-- The text of characters. -/
def textOf (cs : List FieldChar) : String :=
  String.ofList (cs.map Prod.fst)

/-- Fields that are finished and the one that is under way, all last one first. -/
structure Splitting where
  finished : List (List FieldChar) := []
  current : Option (List FieldChar) := none
  /-- Whether the last field has ended at a blank, so that another separator may follow. -/
  afterBlank : Bool := false

namespace Splitting

/-- Finishes the field that is under way. -/
def finish (s : Splitting) : Splitting :=
  match s.current with
  | some cs => { s with finished := cs.reverse :: s.finished, current := none }
  | none => s

/-- Adds a glyph. -/
def add (separators : List Char) (s : Splitting) (g : Glyph) : Splitting :=
  match g with
  | .quotes => { s with current := some (s.current.getD []), afterBlank := false }
  | .edge => { s with afterBlank := false }
  | .gap true => { { s with current := some (s.current.getD []) }.finish with afterBlank := false }
  | .gap false => if s.current.isSome then { s.finish with afterBlank := true } else s
  | .char c quoted separable =>
    if separable ∧ c ∈ separators then
      if c ∈ [' ', '\t', '\n'] then
        if s.current.isSome then { s.finish with afterBlank := true } else s
      else if s.current.isNone ∧ s.afterBlank then { s with afterBlank := false }
      else { { s with current := some (s.current.getD []) }.finish with afterBlank := false }
    else { s with current := some ((c, quoted) :: s.current.getD []), afterBlank := false }

end Splitting

/-- The fields of a word. -/
def splitFields (separators : String) (gs : List Glyph) : List (List FieldChar) :=
  (gs.foldl (Splitting.add separators.toList) {}).finish.finished.reverse

/-- The characters of a pattern; a backslash that comes from a variable quotes what follows. -/
def patternChars : List FieldChar → List FieldChar
  | ('\\', false) :: (c, _) :: rest => (c, true) :: patternChars rest
  | g :: rest => g :: patternChars rest
  | [] => []

/-- The pattern that glyphs form. -/
def patternOf (gs : List Glyph) : Pattern :=
  .ofGlyphs (patternChars (plainChars gs))

/-- Whether a field may stand for files. -/
def isOpenField (cs : List FieldChar) : Bool :=
  cs.any fun (c, quoted) => !quoted && (c == '*' || c == '?' || c == '[')

/-- The parts of a field between slashes. -/
def components (cs : List FieldChar) : List (List FieldChar) :=
  cs.foldr (fun g parts =>
    if g.1 = '/' then [] :: parts
    else match parts with
      | [] => [[g]]
      | part :: later => (g :: part) :: later) [[]]

/-- The paths that begin with a path and go on with parts that may stand for files. -/
def matchingPathsFrom (start : String) : List (List FieldChar) → Action (List String)
  | [] => return [start]
  | part :: later => do
    let slash := if later = [] then "" else "/"
    if !isOpenField part then
      let path := start ++ textOf part ++ slash
      if later = [] ∧ part ≠ [] then
        match ← inspect path false with
        | .ok _ => return [path]
        | .error _ => return []
      else matchingPathsFrom path later
    else
      let pattern := Pattern.ofGlyphs part
      let hidden := pattern.head? = some (.one '.')
      match ← namesIn (if start = "" then "." else start) with
      | .error _ => return []
      | .ok names =>
        let names := if hidden then "." :: ".." :: names else names
        let found := names.filter fun name =>
          (hidden || !name.startsWith ".") && pattern.accepts name
        let paths ← found.mapM fun name => do
          let path := start ++ name
          if later = [] ∨ (← isDirectory path) then matchingPathsFrom (path ++ slash) later
          else return []
        return paths.flatten

/-- The files for which a field stands, or its text if there are none. -/
def matchingPaths (cs : List FieldChar) : Action (List String) := do
  let pattern := patternChars cs
  if (← memory).has 'f' ∨ !isOpenField pattern then return [textOf cs]
  match ← matchingPathsFrom "" (components pattern) with
  | [] => return [textOf cs]
  | paths => return sorted paths

end ScriptLang.Shell
