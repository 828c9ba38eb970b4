import ScriptLang.Shell.Arithmetic
import ScriptLang.Shell.Field

/-!
# Filling in words

The values of parameters, the results of expressions and the output of commands take the places in
a word that ask for them.  How commands are carried out is left open here: whoever fills in a word
says how.

## Main definitions

* `Filler` — carries out the command of a substitution
* `fillWord` — what a word comes to, character by character
* `wordFields`, `wordText`, `wordPattern` — a word as fields, as one text, as a pattern
-/

namespace ScriptLang.Shell

/-- Carries out the command of a substitution and yields what it writes. -/
abbrev Filler := Command → Action String

/-- How a word is filled in. -/
structure Filling where
  /-- Whether the word is made into fields. -/
  full : Bool
  /-- Whether text that is not quoted may be split. -/
  loose : Bool := false

/-- What a name means behind a tilde. -/
def homeOf? (m : Memory) (user : String) : Option String :=
  if user = "" then m.value? "HOME"
  else if user = "root" then some "/root"
  else none

/-- A piece of a word with a tilde at its start replaced; `ended` says whether the word ends with
the piece. -/
def expandTilde (m : Memory) (ended : Bool) (piece : String) : Word :=
  match piece.toList with
  | '~' :: rest =>
    let user := rest.takeWhile (· != '/')
    if user.length = rest.length ∧ !ended then [.text piece false]
    else
      match homeOf? m (String.ofList user) with
      | some home => [.text home true, .text (String.ofList (rest.drop user.length)) false]
      | none => [.text piece false]
  | _ => [.text piece false]

/-- A word with a tilde at its start replaced. -/
def withHome (m : Memory) : Word → Word
  | .text chars false :: later => expandTilde m later.isEmpty chars ++ later
  | w => w

/-- The value of an assignment with the tildes at its start and behind colons replaced; `fresh` says
whether the word begins here, or behind a colon. -/
def withHomes (m : Memory) (fresh : Bool) : Word → Word
  | [] => []
  | .text chars false :: later =>
    let pieces := chars.splitOn ":"
    let count := pieces.length
    let parts := (pieces.zipIdx).flatMap fun (piece, i) =>
      let ended := i + 1 < count || later.isEmpty
      let parts :=
        if fresh ∨ 0 < i then expandTilde m ended piece else [Part.text piece false]
      if 0 < i then .text ":" false :: parts else parts
    parts ++ withHomes m (pieces.getLast? == some "" && 1 < count) later
  | p :: later => p :: withHomes m false later

/-- The value of a parameter that is not a list. -/
def parameterValue? (m : Memory) (name : String) : Option String :=
  match name with
  | "#" => some (toString m.arguments.length)
  | "?" => some (toString m.status)
  | "-" => some (String.ofList m.options)
  | "$" => some (toString m.process)
  | "!" => m.children.head?.map fun c => toString c.process
  | "0" => some m.name
  | _ =>
    match natural? name with
    | some (n + 1) => m.arguments[n]?
    | some 0 => some m.name
    | none => m.value? name

/-- The text between arguments that are joined. -/
def joint (m : Memory) : String :=
  match m.value? "IFS" with
  | none => " "
  | some s => String.ofList (s.toList.take 1)

/-- All arguments. -/
def argumentGlyphs (m : Memory) (name : String) (full quoted : Bool) : List Glyph :=
  let pieces := m.arguments.map (glyphsOf quoted (!quoted))
  if full ∧ quoted ∧ name = "@" then [.gap true].intercalate (pieces.map (.quotes :: ·))
  else if full ∧ !quoted then [.gap false].intercalate pieces
  else (glyphsOf quoted (!quoted) (joint m)).intercalate pieces

/-- Evaluates an expression and makes its assignments. -/
def calculate (text : String) : Action String := do
  let m ← memory
  match evaluate m.value? text with
  | .ok (value, assigned) =>
    for (name, n) in assigned.reverse do
      assign name (toString n)
    return toString value
  | .error (.notANumber text) => fail ("Illegal number: " ++ text)
  | .error (.malformed reason) =>
    fail ("arithmetic expression: " ++ reason ++ ": \"" ++ text ++ "\"")

/-- The output of a command as it is filled in: without the line breaks at its end. -/
def trimmedOutput (s : String) : String :=
  String.ofList ((s.toList.reverse.dropWhile (· == '\n')).reverse.filter (· != '\x00'))

mutual

/-- What a word comes to. -/
def fillWord (filler : Filler) (fuel : Nat) (f : Filling) (w : Word) : Action (List Glyph) := do
  match fuel with
  | 0 => fail "word too deep"
  | n + 1 => return (← w.mapM (fillPart filler n f)).flatten
termination_by structural fuel

/-- What a part of a word comes to. -/
def fillPart (filler : Filler) (fuel : Nat) (f : Filling) (p : Part) : Action (List Glyph) := do
  let found (quoted : Bool) (s : String) : List Glyph :=
    if quoted then glyphsOf true false s else .edge :: glyphsOf false true s
  match fuel with
  | 0 => fail "word too deep"
  | n + 1 =>
    match p with
    | .text chars true => return .quotes :: glyphsOf true false chars
    | .text chars false => return glyphsOf false f.loose chars
    | .arithmetic expr quoted =>
      let text := textOf (plainChars (← fillWord filler n { full := false } expr))
      return found quoted (← calculate text)
    | .command body quoted => return found quoted (trimmedOutput (← filler body))
    | .parameter name use quoted => fillParameter filler n f name use quoted
termination_by structural fuel

/-- What a parameter and its use come to. -/
def fillParameter (filler : Filler) (fuel : Nat) (f : Filling) (name : String) (use : Use)
    (quoted : Bool) : Action (List Glyph) := do
  match fuel with
  | 0 => fail "word too deep"
  | n + 1 =>
    let m ← memory
    let isList := name = "@" ∨ name = "*"
    let value? := if isList then some ((joint m).intercalate m.arguments)
      else parameterValue? m name
    let own : List Glyph := match value? with
      | none => []
      | some s =>
        if isList then
          let gs := argumentGlyphs m name f.full quoted
          if quoted then gs else .edge :: gs
        else if quoted then glyphsOf true false s
        else .edge :: glyphsOf false true s
    let isThere (butEmpty : Bool) : Bool := match value? with
      | none => false
      | some s => !(butEmpty && s == "")
    let isMissing := value?.isNone ∧ m.has 'u'
    let missing : Action (List Glyph) := fail (name ++ ": parameter not set")
    let inner (w : Word) : Word := if quoted then w else withHome m w
    let textIn (w : Word) : Action String := do
      return textOf (plainChars (← fillWord filler n { full := false } (inner w)))
    match use with
    | .bad => fail "Bad substitution"
    | .value => if isMissing then missing else return own
    | .length =>
      if isMissing then missing
      else return glyphsOf quoted (!quoted) (toString (value?.getD "").length)
    | .trim atEnd longest w =>
      if isMissing then missing
      else
        let rest ← match value? with
          -- Without a value nobody looks at the pattern.
          | none => pure ""
          | some value =>
            let pattern := patternOf (← fillWord filler n { full := false } (withHome m w))
            pure (pattern.trim atEnd longest value)
        return if quoted then glyphsOf true false rest else .edge :: glyphsOf false true rest
    | .orElse orEmpty w =>
      if isThere orEmpty then return own
      else fillWord filler n { f with loose := !quoted } (inner w)
    | .ifThere butEmpty w =>
      if isThere butEmpty then fillWord filler n { f with loose := !quoted } (inner w)
      else return []
    | .orAssign orEmpty w =>
      if isThere orEmpty then return own
      else
        let text ← textIn w
        if !isName name then fail (name ++ ": bad variable name")
        assign name text
        return if quoted then glyphsOf true false text else .edge :: glyphsOf false true text
    | .orFail orEmpty w =>
      if isThere orEmpty then return own
      else if w.isEmpty then
        fail (name ++ ": parameter not set" ++ (if orEmpty then " or null" else ""))
      else fail (name ++ ": " ++ (← textIn w))
termination_by structural fuel

end

/-- The fields of a word. -/
def wordFields (filler : Filler) (fuel : Nat) (w : Word) : Action (List String) := do
  let gs ← fillWord filler fuel { full := true } (withHome (← memory) w)
  let fields := splitFields (← memory).separators gs
  return (← fields.mapM matchingPaths).flatten

/-- The text of a word that is not made into fields. -/
def wordText (filler : Filler) (fuel : Nat) (w : Word) : Action String := do
  return textOf (plainChars (← fillWord filler fuel { full := false } (withHome (← memory) w)))

/-- The text of the value of an assignment. -/
def valueText (filler : Filler) (fuel : Nat) (w : Word) : Action String := do
  let w := withHomes (← memory) true w
  return textOf (plainChars (← fillWord filler fuel { full := false } w))

/-- The pattern that a word writes. -/
def wordPattern (filler : Filler) (fuel : Nat) (w : Word) : Action Pattern := do
  return patternOf (← fillWord filler fuel { full := false } (withHome (← memory) w))

end ScriptLang.Shell
