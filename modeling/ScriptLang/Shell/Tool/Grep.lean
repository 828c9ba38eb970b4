import ScriptLang.Shell.Regex.Read
import ScriptLang.Shell.Tool.Files
import ScriptLang.Shell.Tool.Lines

/-!
# Looking for lines

`grep` writes the lines of its inputs in which one of several patterns is found.

## Main definitions

* `Search` — the patterns, and where they may be found in a line
* `Search.spans` — the parts of a line in which a pattern is found
* `runGrep` — the program of this name
-/

namespace ScriptLang.Shell.Tool

/-- What is looked for in lines. -/
structure Search where
  patterns : List Regex
  ignoreCase : Bool
  /-- Whether only whole words count. -/
  words : Bool
  /-- Whether only whole lines count. -/
  whole : Bool

namespace Search

/-- Whether a part of a line counts. -/
def counts (s : Search) (l : Looking) (start stop : Nat) : Bool :=
  let isWordAt (i : Nat) : Bool := l.text[i]?.any isNameChar
  (!s.whole || (start == 0 && stop == l.text.size)) &&
    (!s.words || ((start == 0 || !isWordAt (start - 1)) && !isWordAt stop))

/-- The longest part of a line from a place on that counts. -/
def stopAt? (s : Search) (l : Looking) (start : Nat) : Option Nat :=
  let stops := s.patterns.flatMap fun r =>
    (r.hits l r.repeatsGroups { stop := start }).map Hit.stop
  (stops.filter (s.counts l start)).max?

/-- The first part of a line that counts, looked for at a number of places. -/
def findWithin? (s : Search) (l : Looking) : Nat → Nat → Option (Nat × Nat)
  | 0, _ => none
  | n + 1, start =>
    match s.stopAt? l start with
    | some stop => some (start, stop)
    | none => s.findWithin? l n (start + 1)

/-- The lines as they are looked at. -/
def looking (s : Search) (line : String) : Looking :=
  { text := line.toList.toArray, ignoreCase := s.ignoreCase }

/-- Whether a pattern is found in a line. -/
def isIn (s : Search) (line : String) : Bool :=
  let l := s.looking line
  (s.findWithin? l (l.text.size + 1) 0).isSome

/-- The parts of a text in which a pattern is found, from a place on. -/
def spansFrom (s : Search) (l : Looking) : Nat → Nat → List (Nat × Nat)
  | 0, _ => []
  | n + 1, start =>
    match s.findWithin? l (l.text.size + 1 - start) start with
    | none => []
    | some (first, stop) =>
      if first = stop then s.spansFrom l n (first + 1)
      else (first, stop) :: s.spansFrom l n stop

/-- The parts of a line in which a pattern is found; empty ones are left out. -/
def spans (s : Search) (line : String) : List (Nat × Nat) :=
  let l := s.looking line
  s.spansFrom l (l.text.size + 1) 0

end Search

/-- The patterns that lines write. -/
def searchFor (found : List (String × String)) (name : String) (lines : List String) :
    Except RegexError Search :=
  -- Of the options that say how patterns are written the last one counts.
  let kinds := found.filter fun o => o.1 ∈ ["E", "F", "G", "P"]
  let kind := (kinds.getLast?.map Prod.fst).getD (match name with
    | "egrep" => "E"
    | "fgrep" => "F"
    | _ => "G")
  let dialect : Dialect :=
    { extended := kind == "E" || kind == "P", lenient := true
      escapes := kind == "P", wide := kind == "P" }
  let read (line : String) : Except RegexError Regex :=
    if kind = "F" then .ok (.literal line) else (Regex.read dialect line).map Prod.fst
  (lines.mapM read).map fun patterns =>
    { patterns, ignoreCase := has found "i" && !has found "I", words := has found "w"
      whole := has found "x" }

/-- The name under which the input is mentioned. -/
def labelOf (found : List (String × String)) (operand : String) : String :=
  if operand = "-" then (argument? found "label").getD "(standard input)" else operand

/-- How lines are shown. -/
structure LineStyle where
  named : Bool
  numbered : Bool
  placed : Bool
  aligned : Bool
  partly : Bool
  coloured : Bool

/-- What stands before a line; `mark` follows every part of it. -/
def LineStyle.before (s : LineStyle) (label : String) (number place : Nat) (mark : Char) : String :=
  let parts := (if s.named then [label] else []) ++
    (if s.numbered then [paddedLeft (if s.aligned then 2 else 0) (toString number)] else []) ++
    (if s.placed then [toString place] else [])
  let text := String.join (parts.map (· ++ mark.toString))
  if s.aligned ∧ parts ≠ [] then text ++ "\t" else text

/-- A line with colours around the parts in which a pattern is found. -/
def coloured (line : String) (spans : List (Nat × Nat)) : String :=
  let cs := line.toList
  let (text, done) := spans.foldl (fun (text, done) (start, stop) =>
    (text ++ String.ofList ((cs.drop done).take (start - done)) ++ "\x1b[01;31m\x1b[K" ++
      String.ofList ((cs.drop start).take (stop - start)) ++ "\x1b[m\x1b[K", stop)) ("", 0)
  text ++ String.ofList (cs.drop done)

/-- The lines of one input that are shown.  `before` and `behind` say how many lines around the
ones that count are shown too; the result also tells how many lines count. -/
def shownLines (search : Search) (s : LineStyle) (inverted : Bool) (before behind most : Nat)
    (grouped : Bool) (label content : String) (shownBefore : Bool) : String × Nat :=
  Id.run do
    let rows := (linesOf content).zipIdx
    let mut out : List String := []
    let mut count := 0
    let mut place := 0
    -- Lines that may have to be shown before the next one that counts, last one first.
    let mut waiting : List String := []
    let mut left := 0
    let mut lastShown : Option Nat := none
    for (line, i) in rows do
      let start := place
      place := place + line.length + 1
      if count < most && search.isIn line != inverted then
        count := count + 1
        let firstShown := i - waiting.length
        let gap := match lastShown with
          | some last => decide (last + 1 < firstShown)
          | none => shownBefore
        if grouped && gap then out := "--\n" :: out
        for text in waiting.reverse do out := text :: out
        waiting := []
        if s.partly then
          if !inverted then
            for (a, b) in search.spans line do
              let part := String.ofList ((line.toList.drop a).take (b - a))
              let part := if s.coloured then coloured part [(0, b - a)] else part
              out := (s.before label (i + 1) (start + a) ':' ++ part ++ "\n") :: out
        else
          let text := if s.coloured ∧ !inverted then coloured line (search.spans line) else line
          out := (s.before label (i + 1) start ':' ++ text ++ "\n") :: out
        left := behind
        lastShown := some i
      else if left ≠ 0 then
        left := left - 1
        if !s.partly then out := (s.before label (i + 1) start '-' ++ line ++ "\n") :: out
        lastShown := some i
      else if before ≠ 0 && count < most then
        let text := if s.partly then "" else s.before label (i + 1) start '-' ++ line ++ "\n"
        waiting := (text :: waiting).take before
    return (String.join out.reverse, count)

/-- The files that an operand names; the empty one names what is in the working directory. -/
def filesFor (found : List (String × String)) (operand : String) : Action (List String) := do
  let chosen (path : String) : Bool :=
    let base := (path.splitOn "/").getLast?.getD path
    let accepts (o : String × String) : Bool := (Pattern.ofString o.2).accepts base
    let included := found.filter (·.1 == "include")
    let excluded := found.filter (·.1 == "exclude")
    (included = [] || included.any accepts) && !excluded.any accepts
  let inside (path : String) : Bool :=
    let parents := ((path.splitOn "/").dropLast).drop 1
    !parents.any fun p => found.any fun o =>
      o.1 == "exclude-dir" && (Pattern.ofString o.2).accepts p
  let start := if operand = "" then "." else operand
  if has found "r" ∧ operand ≠ "-" ∧ (← isDirectory start) then
    let all ← tree maxDepth start
    let files ← all.filterM fun path => do
      return (← kindAt? path) = some .file && chosen path && inside path
    return if operand = "" then files.map fun p => (p.drop 2).toString else files
  else return [start]

/-- Complains about how `grep` was used. -/
def grepMisused : Action Nat := do
  warn "Usage: grep [OPTION]... PATTERNS [FILE]...\n"
  warn "Try 'grep --help' for more information.\n"
  return 2

/-- The options of `grep`. -/
def grepOptions : OptionTable :=
  { short := "A:B:C:EFGHILPRTUVXZabcd:e:f:hilm:noqrsuvwxyz"
    long := [("regexp=", "e"), ("file=", "f"), ("ignore-case", "i"), ("no-ignore-case", "I"),
      ("word-regexp", "w"), ("line-regexp", "x"), ("count", "c"), ("color?", "color"),
      ("colour?", "color"), ("files-without-match", "L"), ("files-with-matches", "l"),
      ("max-count=", "m"), ("only-matching", "o"), ("quiet", "q"), ("silent", "q"),
      ("no-messages", "s"), ("byte-offset", "b"), ("with-filename", "H"), ("no-filename", "h"),
      ("label=", "label"), ("line-number", "n"), ("initial-tab", "T"), ("null", "Z"),
      ("after-context=", "A"), ("before-context=", "B"), ("context=", "C"), ("text", "a"),
      ("binary-files=", "binary"), ("directories=", "d"), ("exclude=", "exclude"),
      ("exclude-from=", "exclude-from"), ("exclude-dir=", "exclude-dir"), ("include=", "include"),
      ("recursive", "r"), ("dereference-recursive", "R"), ("line-buffered", "u"),
      ("extended-regexp", "E"), ("fixed-strings", "F"), ("basic-regexp", "G"),
      ("perl-regexp", "P"), ("null-data", "z"), ("invert-match", "v")] }

/-- The arguments with options such as `-2` as counts of lines around. -/
def withContext (args : List String) : List String :=
  args.map fun arg =>
    match arg.toList with
    | '-' :: d :: ds => if (d :: ds).all Char.isDigit then "-C" ++ String.ofList (d :: ds) else arg
    | _ => arg

/-- `grep`: the lines in which a pattern is found. -/
def runGrep : Tool := fun _ started args => do
  let name := "grep"
  match grepOptions.read (withContext args) with
  | .error text =>
    complain name text
    grepMisused
  | .ok (given, operands) =>
    let given := given.map fun o =>
      (if o.1 = "y" then "i" else if o.1 = "R" then "r" else o.1, o.2)
    let given := if argument? given "d" = some "recurse" then ("r", "") :: given else given
    -- Patterns come from options or from the first operand.
    let mut lines : List String := []
    let mut explicit := false
    for (key, value) in given do
      if key = "e" then
        lines := lines ++ value.splitOn "\n"
        explicit := true
      if key = "f" then
        explicit := true
        match ← inputFrom value with
        | .ok content => lines := lines ++ linesOf content
        | .error e => return ← refuse name (fileName value ++ ": " ++ e.reason) 2
    if !explicit ∧ operands = [] then return ← grepMisused
    let (patterns, operands) :=
      if explicit then (lines, operands)
      else ((operands.headD "").splitOn "\n", operands.tail)
    for (key, what) in [("A", "context length argument"), ("B", "context length argument"),
        ("C", "context length argument")] do
      if let some text := argument? given key then
        if (natural? text).isNone then
          return ← refuse name (text ++ ": invalid " ++ what) 2
    if let some text := argument? given "m" then
      let digits := if text.startsWith "-" then (text.drop 1).toString else text
      if (natural? digits).isNone then return ← refuse name "invalid max count" 2
    match searchFor given started patterns with
    | .error e => refuse name e.message 2
    | .ok search =>
      let around (key : String) : Nat :=
        (((argument? given key).orElse fun _ => argument? given "C").bind natural?).getD 0
      let before := around "B"
      let behind := around "A"
      let grouped := ["A", "B", "C"].any fun key => (argument? given key).isSome
      let most := ((argument? given "m").bind natural?).getD 1000000000
      let inverted := has given "v"
      let quiet := has given "q"
      let silent := has given "s"
      let recursive := has given "r"
      let starts :=
        if operands ≠ [] then operands else if recursive then [""] else ["-"]
      let nameChoice := (given.filter fun o => o.1 ∈ ["h", "H"]).getLast?
      let mut several := decide (1 < operands.length)
      for start in starts do
        if recursive && start != "-" && (start == "" || (← isDirectory start)) then several := true
      let s : LineStyle :=
        { named := nameChoice.elim several (·.1 == "H")
          numbered := has given "n"
          placed := has given "b"
          aligned := has given "T"
          partly := has given "o"
          coloured := argument? given "color" = some "always" }
      let mut selected := false
      let mut failed := false
      let mut shownBefore := false
      for start in starts do
        for path in ← filesFor given start do
          if quiet && selected then continue
          let isDir ← if path = "-" then pure false else isDirectory path
          if isDir && argument? given "d" == some "skip" then continue
          match ← inputFrom path with
          | .error e =>
            if !silent then complain name (path ++ ": " ++ e.reason)
            failed := true
          | .ok content =>
            let content := if has given "z" then content.replace "\x00" "\n" else content
            let label := labelOf given path
            let (text, count) :=
              shownLines search s inverted before behind most grouped label content shownBefore
            let counts := decide (0 < count)
            if counts then selected := true
            if quiet then continue
            let ending := if has given "Z" then "\x00" else "\n"
            if has given "L" then
              if !counts then put (label ++ ending)
            else if has given "l" then
              if counts then put (label ++ ending)
            else if has given "c" then
              let mark := if has given "Z" then "\x00" else ":"
              put ((if s.named then label ++ mark else "") ++ toString count ++ "\n")
            else if content.contains '\x00' && !has given "a" then
              if counts then complain name (label ++ ": binary file matches")
            else
              put (if has given "z" then text.replace "\n" "\x00" else text)
              if text ≠ "" then shownBefore := true
      return if failed ∧ !(quiet ∧ selected) then 2 else if selected then 0 else 1

end ScriptLang.Shell.Tool
