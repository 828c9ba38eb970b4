import ScriptLang.Shell.Format
import ScriptLang.Shell.Regex.Read

/-!
# Editing scripts

A script is a list of commands.  A command may say by addresses for which lines it is meant.

## Main definitions

* `SedAddress`, `SedCommand` — addresses and commands
* `SedReader` — how scripts are read
* `readScript` — the commands that a text writes
-/

namespace ScriptLang.Shell.Tool

/-- An expression and how it is looked for. -/
structure SedRegex where
  regex : Regex
  groups : Nat
  ignoreCase : Bool
  byLines : Bool

/-- The lines for which a command is meant. -/
inductive SedAddress where
  | line (n : Nat)
  /-- Every line that is a number of steps behind a first one. -/
  | every (first step : Nat)
  | last
  /-- The lines in which an expression is found; without one, the expression used last. -/
  | found (r : Option SedRegex)

/-- The end of a range of lines. -/
inductive SedRangeEnd where
  | at (a : SedAddress)
  | after (count : Nat)
  | multiple (of : Nat)

/-- How the case of letters in a replacement is changed. -/
inductive CaseChange where
  | upper
  | lower
  | upperNext
  | lowerNext
  | stop

/-- A part of a replacement. -/
inductive SedPart where
  | text (s : String)
  | group (number : Nat)
  | case (c : CaseChange)

/-- A replacement of what an expression stands for. -/
structure SedSubstitution where
  /-- Without an expression, the one used last counts. -/
  regex : Option SedRegex
  parts : List SedPart
  all : Bool := false
  /-- The first of the places where it is found that is replaced. -/
  nth : Nat := 1
  print : Bool := false
  /-- Whether the result is carried out as a command. -/
  run : Bool := false
  file : Option String := none

/-- What a command does. -/
inductive SedAct where
  | block
  | blockEnd
  | label (name : String)
  /-- Goes on at a label, or at the end. -/
  | branch (name : String)
  | branchIf (name : String)
  | branchUnless (name : String)
  | append (text : String)
  | insert (text : String)
  | change (text : String)
  | substitute (s : SedSubstitution)
  | transliterate (pairs : List (Char × Char))
  | list (width : Option Nat)
  | quit (status : Nat) (silent : Bool)
  | readFile (name : String)
  | readLine (name : String)
  | writeFile (name : String) (first : Bool)
  | execute (command : String)
  /-- A command that is one letter and no more. -/
  | letter (c : Char)

/-- A command and the lines for which it is meant. -/
structure SedCommand where
  start : Option SedAddress := none
  stop : Option SedRangeEnd := none
  negated : Bool := false
  act : SedAct

/-! ### Reading -/

/-- What is left to read of a script, and how much has been read. -/
structure SedReading where
  rest : List Char
  used : Nat := 0

/-- Reads a part of a script, or says what is wrong, and after how many characters. -/
abbrev SedReader := StateT SedReading (Except (String × Nat))

namespace SedReader

/-- Ends the reading with a complaint. -/
def wrong {α : Type} (text : String) : SedReader α :=
  fun s => .error (text, s.used)

/-- The next character, which is not taken. -/
def peek? : SedReader (Option Char) :=
  return (← get).rest.head?

/-- Takes the next character. -/
def next? : SedReader (Option Char) :=
  modifyGet fun s => match s.rest with
    | c :: rest => (some c, { s with rest, used := s.used + 1 })
    | [] => (none, s)

/-- Takes characters as long as they pass a test. -/
def takeAll (test : Char → Bool) : SedReader (List Char) :=
  modifyGet fun s =>
    let taken := s.rest.takeWhile test
    (taken, { s with rest := s.rest.drop taken.length, used := s.used + taken.length })

/-- Skips blanks. -/
def skipBlanks : SedReader Unit := do
  let _ ← takeAll fun c => c == ' ' || c == '\t'

/-- Takes a number. -/
def number : SedReader Nat :=
  return valueOf 10 (← takeAll Char.isDigit)

/-- Takes the rest of a bracket of an expression. -/
def bracketRest : Nat → Bool → SedReader (Option (List Char))
  | 0, _ => return none
  | n + 1, first => do
    match ← next? with
    | none | some '\n' => return none
    | some ']' =>
      if first then return (← bracketRest n false).map (']' :: ·)
      else return some [']']
    | some '[' =>
      match ← peek? with
      | some mark =>
        if mark ∈ [':', '.', '='] then
          let _ ← next?
          let name ← takeAll (· != mark)
          let close ← next?
          return (← bracketRest n false).map fun rest =>
            '[' :: mark :: name ++ close.toList ++ rest
        else return (← bracketRest n false).map ('[' :: ·)
      | none => return none
    | some '\\' =>
      match ← peek? with
      | some 'n' =>
        let _ ← next?
        return (← bracketRest n false).map ('\n' :: ·)
      | _ => return (← bracketRest n false).map ('\\' :: ·)
    | some c => return (← bracketRest n false).map (c :: ·)

/-- Takes characters up to a mark that ends an expression or a replacement; none if there is no
such mark. -/
def upTo (mark : Char) (regex : Bool) : Nat → SedReader (Option (List Char))
  | 0 => return none
  | n + 1 => do
    if (← peek?) = some '\n' then return none
    match ← next? with
    | none => return none
    | some c =>
      if c = mark then return some []
      else if c = '[' ∧ regex then
        let negation : List Char ← match ← peek? with
          | some '^' => do
            let _ ← next?
            pure ['^']
          | _ => pure []
        match ← bracketRest n true with
        | none => return none
        | some inner =>
          return (← upTo mark regex n).map fun rest => '[' :: negation ++ inner ++ rest
      else if c = '\\' then
        match ← next? with
        | none => return none
        | some d =>
          let text : List Char :=
            if d = 'n' ∧ regex ∧ mark ≠ 'n' then ['\n']
            else if d = mark ∧ (regex ∨ d ≠ '&') then [d]
            else if d = '\n' ∧ regex then ['\n']
            else ['\\', d]
          return (← upTo mark regex n).map (text ++ ·)
      else return (← upTo mark regex n).map (c :: ·)

/-- Takes characters up to a mark. -/
def upToMark (mark : Char) (regex : Bool) : SedReader (Option (List Char)) := do
  upTo mark regex ((← get).rest.length + 1)

end SedReader

open SedReader

/-! ### Escapes -/

/-- The character of a numeric escape behind its backslash, and what follows. -/
def numericEscape? (cs : List Char) : Option (Char × List Char) :=
  let read (base most : Nat) (rest : List Char) : Option (Char × List Char) :=
    let isDigitOf (c : Char) : Bool := (digitValue? c).any (· < base)
    let ds := (rest.takeWhile isDigitOf).take most
    if ds = [] then none else some (Char.ofNat (valueOf base ds % 256), rest.drop ds.length)
  match cs with
  | 'd' :: rest => read 10 3 rest
  | 'o' :: rest => read 8 3 rest
  | 'x' :: rest => read 16 2 rest
  | 'c' :: c :: rest => some (Char.ofNat (Nat.xor c.toUpper.toNat 64), rest)
  | _ => none

/-- An expression with its numeric escapes carried out. -/
def withoutNumeric : Nat → List Char → List Char
  | 0, cs => cs
  | _, [] => []
  | n + 1, '\\' :: rest =>
    match numericEscape? rest with
    | some (c, later) => c :: withoutNumeric n later
    | none =>
      match rest with
      | c :: later => '\\' :: c :: withoutNumeric n later
      | [] => ['\\']
  | n + 1, c :: rest => c :: withoutNumeric n rest

/-- The parts of a replacement. -/
def replacementParts : Nat → List Char → List SedPart
  | 0, _ | _, [] => []
  | n + 1, '&' :: rest => .group 0 :: replacementParts n rest
  | n + 1, '\\' :: rest =>
    match numericEscape? rest with
    | some (c, later) => .text c.toString :: replacementParts n later
    | none =>
      match rest with
      | [] => [.text "\\"]
      | c :: later =>
        let part : SedPart := match c with
          | 'U' => .case .upper
          | 'L' => .case .lower
          | 'u' => .case .upperNext
          | 'l' => .case .lowerNext
          | 'E' => .case .stop
          | c =>
            if c.isDigit then .group (c.toNat - '0'.toNat)
            else .text ((Regex.controlChar? c).getD c).toString
        part :: replacementParts n later
  | n + 1, c :: rest => .text c.toString :: replacementParts n rest

/-- A text of the commands that add lines, with its escapes carried out. -/
def addedText : List Char → List Char
  | '\\' :: c :: rest => (Regex.controlChar? c).getD c :: addedText rest
  | c :: rest => c :: addedText rest
  | [] => []

/-- The characters that a transliteration names, or none if a backslash makes no sense. -/
def transliterated? : List Char → Option (List Char)
  | '\\' :: '\\' :: rest => (transliterated? rest).map ('\\' :: ·)
  | '\\' :: c :: rest =>
    match Regex.controlChar? c with
    | some d => (transliterated? rest).map (d :: ·)
    | none => none
  | c :: rest => (transliterated? rest).map (c :: ·)
  | [] => some []

/-! ### Commands -/

/-- The expression that characters write; the empty one stands for the one used last. -/
def sedRegex (extended ignoreCase byLines : Bool) (cs : List Char) :
    SedReader (Option SedRegex) := do
  if cs = [] then
    if ignoreCase || byLines then wrong "cannot specify modifiers on empty regexp"
    return none
  let text := String.ofList (withoutNumeric (cs.length + 1) cs)
  match Regex.read { extended, escapes := true } text with
  | .ok (regex, groups) => return some { regex, groups, ignoreCase, byLines }
  | .error e => wrong e.message

/-- Reads an expression in an address behind its first mark. -/
def addressRegex (extended : Bool) (mark : Char) : SedReader SedAddress := do
  match ← upToMark mark true with
  | none => wrong "unterminated address regex"
  | some cs =>
    let flags ← takeAll fun c => c == 'I' || c == 'M'
    return .found (← sedRegex extended (flags.contains 'I') (flags.contains 'M') cs)

/-- Reads the end of a range that is counted. -/
def countedEnd? : SedReader (Option SedRangeEnd) := do
  match ← peek? with
  | some '+' =>
    let _ ← next?
    return some (.after (← number))
  | some '~' =>
    let _ ← next?
    return some (.multiple (← number))
  | _ => return none

/-- Reads an address, if there is one. -/
def address? (extended : Bool) : SedReader (Option SedAddress) := do
  match ← peek? with
  | some '/' =>
    let _ ← next?
    return some (← addressRegex extended '/')
  | some '\\' =>
    let _ ← next?
    match ← next? with
    | none => wrong "unterminated address regex"
    | some mark => return some (← addressRegex extended mark)
  | some '$' =>
    let _ ← next?
    return some .last
  | some c =>
    if c.isDigit then
      let first ← number
      skipBlanks
      if (← peek?) = some '~' then
        let _ ← next?
        skipBlanks
        return some (.every first (← number))
      return some (.line first)
    return none
  | none => return none

/-- Checks that a command ends here. -/
def endOfCommand : SedReader Unit := do
  skipBlanks
  match ← peek? with
  | none | some '}' | some '#' => return
  | some c =>
    let _ ← next?
    if c ≠ '\n' ∧ c ≠ ';' then wrong "extra characters after command"

/-- Reads a label. -/
def readLabel : SedReader String := do
  skipBlanks
  let label ← takeAll fun c => !isSpace c && c != ';' && c != '}'
  return String.ofList label

/-- Reads the name of a file. -/
def readFileName : SedReader String := do
  skipBlanks
  let name ← takeAll (· != '\n')
  if name = [] then wrong "missing filename in r/R/w/W commands"
  return String.ofList name

/-- Reads the lines of a text up to one that does not end in a backslash; backslashes stay. -/
def textLines : Nat → SedReader (List Char)
  | 0 => return []
  | n + 1 => do
    match ← next? with
    | none | some '\n' => return []
    | some '\\' =>
      match ← next? with
      | none => return []
      | some '\n' => return '\n' :: (← textLines n)
      | some c => return '\\' :: c :: (← textLines n)
    | some c => return c :: (← textLines n)

/-- Reads the text of a command that adds lines. -/
def readText : SedReader String := do
  skipBlanks
  match ← peek? with
  | none => wrong "expected \\ after \x60a', \x60c' or \x60i'"
  | some '\\' =>
    let _ ← next?
    let blanks ← takeAll fun c => c == ' ' || c == '\t'
    if (← peek?) = some '\n' then
      let _ ← next?
      let text ← textLines ((← get).rest.length + 1)
      return String.ofList (addedText text) ++ "\n"
    let text ← textLines ((← get).rest.length + 1)
    -- Blanks behind the backslash belong to the text.
    if blanks = [] ∧ text = [] then return ""
    return String.ofList (blanks ++ addedText text) ++ "\n"
  | some '\n' => wrong "expected \\ after \x60a', \x60c' or \x60i'"
  | some _ =>
    let text ← textLines ((← get).rest.length + 1)
    return String.ofList (addedText text) ++ "\n"

/-- The flags behind a substitution. -/
structure SedFlags where
  all : Bool := false
  print : Bool := false
  run : Bool := false
  nth : Option Nat := none
  ignoreCase : Bool := false
  byLines : Bool := false
  file : Option String := none

/-- Reads the flags behind a substitution. -/
def readFlags : Nat → SedFlags → SedReader SedFlags
  | 0, f => return f
  | n + 1, f => do
    match ← peek? with
    | none | some '}' | some '#' => return f
    | some c =>
      if c.isDigit ∧ c ≠ '0' then
        if f.nth.isSome then
          let _ ← next?
          wrong "multiple number options to \x60s' command"
        return ← readFlags n { f with nth := some (← number) }
      let _ ← next?
      match c with
      | '\n' | ';' => return f
      | ' ' | '\t' | '\r' => readFlags n f
      | 'g' =>
        if f.all then wrong "multiple \x60g' options to \x60s' command"
        readFlags n { f with all := true }
      | 'p' =>
        if f.print then wrong "multiple \x60p' options to \x60s' command"
        readFlags n { f with print := true }
      | 'i' | 'I' => readFlags n { f with ignoreCase := true }
      | 'm' | 'M' => readFlags n { f with byLines := true }
      | 'e' => readFlags n { f with run := true }
      | 'w' => return { f with file := some (← readFileName) }
      | '0' => wrong "number option to \x60s' command may not be zero"
      | _ => wrong "unknown option to \x60s'"

/-- Reads a substitution behind its letter. -/
def readSubstitution (extended : Bool) : SedReader SedAct := do
  match ← next? with
  | none | some '\n' | some '\\' => wrong "unterminated \x60s' command"
  | some mark =>
    match ← upToMark mark true with
    | none => wrong "unterminated \x60s' command"
    | some pattern =>
      match ← upToMark mark false with
      | none => wrong "unterminated \x60s' command"
      | some replacement =>
        let parts := replacementParts (replacement.length + 1) replacement
        let flags ← readFlags ((← get).rest.length + 1) {}
        let regex ← sedRegex extended flags.ignoreCase flags.byLines pattern
        let highest := parts.foldl (fun n part => match part with
          | .group k => max n k
          | _ => n) 0
        if let some r := regex then
          if r.groups < highest then
            wrong ("invalid reference \\" ++ toString highest ++ " on \x60s' command's RHS")
        return .substitute
          { regex, parts, all := flags.all, nth := flags.nth.getD 1, print := flags.print
            run := flags.run, file := flags.file }

/-- Reads a transliteration behind its letter. -/
def readTransliteration : SedReader SedAct := do
  match ← next? with
  | none => wrong "unterminated \x60y' command"
  | some mark =>
    match ← upToMark mark false with
    | none => wrong "unterminated \x60y' command"
    | some source =>
      match ← upToMark mark false with
      | none => wrong "unterminated \x60y' command"
      | some target =>
        match transliterated? source, transliterated? target with
        | some source, some target =>
          if source.length ≠ target.length then
            wrong "strings for \x60y' command are different lengths"
          endOfCommand
          return .transliterate (source.zip target)
        | _, _ => wrong "strings for \x60y' command are different lengths"

/-- Reads what a command does; `ranged` and `addressed` say which addresses it has. -/
def readAct (extended addressed ranged : Bool) (depth : Nat) : SedReader SedAct := do
  skipBlanks
  match ← next? with
  | none => wrong "missing command"
  | some c =>
    match c with
    | '{' => return .block
    | '}' =>
      if depth = 0 then wrong "unexpected \x60\x7d'"
      if addressed then wrong "\x7d doesn't want any addresses"
      endOfCommand
      return .blockEnd
    | '#' => wrong "comments don't accept any addresses"
    | ':' =>
      if addressed then wrong ": doesn't want any addresses"
      let label ← readLabel
      if label = "" then wrong "\":\" lacks a label"
      return .label label
    | 'b' => return .branch (← readLabel)
    | 't' => return .branchIf (← readLabel)
    | 'T' => return .branchUnless (← readLabel)
    | 'a' => return .append (← readText)
    | 'i' => return .insert (← readText)
    | 'c' => return .change (← readText)
    | 'v' =>
      let _ ← readLabel
      return .letter c
    | 'e' =>
      skipBlanks
      return .execute (String.ofList (← takeAll (· != '\n')))
    | 'q' | 'Q' =>
      if ranged then wrong "command only uses one address"
      skipBlanks
      let status ← number
      endOfCommand
      return .quit status (c == 'Q')
    | 'l' =>
      skipBlanks
      let digits ← takeAll Char.isDigit
      endOfCommand
      return .list (if digits = [] then none else some (valueOf 10 digits))
    | 'r' => return .readFile (← readFileName)
    | 'R' => return .readLine (← readFileName)
    | 'w' => return .writeFile (← readFileName) false
    | 'W' => return .writeFile (← readFileName) true
    | 's' => readSubstitution extended
    | 'y' => readTransliteration
    | c =>
      if c ∈ ['=', 'd', 'D', 'F', 'g', 'G', 'h', 'H', 'n', 'N', 'p', 'P', 'z', 'x'] then
        endOfCommand
        return .letter c
      else wrong ("unknown command: \x60" ++ c.toString ++ "'")

/-- Reads the commands of a script. -/
def readCommands (extended : Bool) : Nat → Nat → SedReader (List SedCommand)
  | 0, _ => return []
  | n + 1, depth => do
    let _ ← takeAll fun c => isSpace c || c == ';'
    match ← peek? with
    | none =>
      if depth = 0 then return []
      else fun _ => .error ("unmatched \x60\x7b'", 0)
    | some '#' =>
      let _ ← takeAll (· != '\n')
      readCommands extended n depth
    | some c =>
      if c = '+' ∨ c = '~' then
        let _ ← next?
        let _ ← number
        wrong "invalid usage of +N or ~N as first address"
      let start ← address? extended
      let mut stop : Option SedRangeEnd := none
      if start.isSome then
        skipBlanks
        if (← peek?) = some ',' then
          let _ ← next?
          skipBlanks
          match ← countedEnd? with
          | some e => stop := some e
          | none =>
            match ← address? extended with
            | some a => stop := some (.at a)
            | none =>
              if (← peek?).isSome then
                let _ ← next?
              wrong "unexpected \x60,'"
        skipBlanks
        if let some (.line 0) := start then
          match stop with
          | some (.at (.found _)) => pure ()
          | _ =>
            let _ ← next?
            wrong "invalid usage of line address 0"
      let mut negated := false
      skipBlanks
      if (← peek?) = some '!' then
        let _ ← next?
        skipBlanks
        negated := true
        if (← peek?) = some '!' then
          let _ ← next?
          wrong "multiple \x60!'s"
      let act ← readAct extended start.isSome stop.isSome depth
      let depth := match act with
        | .block => depth + 1
        | .blockEnd => depth - 1
        | _ => depth
      return { start, stop, negated, act } :: (← readCommands extended n depth)

/-- The commands that a text writes, or what is wrong with it and after how many characters. -/
def readScript (extended : Bool) (text : String) : Except (String × Nat) (List SedCommand) :=
  let cs := text.toList
  ((readCommands extended (cs.length + 1) 0).run { rest := cs }).map Prod.fst

end ScriptLang.Shell.Tool
