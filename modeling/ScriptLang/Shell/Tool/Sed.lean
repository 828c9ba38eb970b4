import ScriptLang.Shell.Tool.Sed.Script
import ScriptLang.Shell.Tool

/-!
# Editing lines

`sed` reads its inputs line by line, carries out the commands of a script on each line, and writes
what has become of it.

## Main definitions

* `SedState` — the line at hand and all that is kept from line to line
* `SedSubstitution.replace?` — a replacement in a text
* `runSed` — the program of this name
-/

namespace ScriptLang.Shell.Tool

/-- How far a range of lines has come. -/
inductive SedRange where
  | idle
  /-- Within the range; the number of its last line, if it is known. -/
  | active (last : Option Nat)

/-- What is written at the end of a turn. -/
inductive SedQueued where
  | text (s : String)
  | line (s : String)
  | file (name : String)

/-- The settings of a run. -/
structure SedRun where
  commands : Array SedCommand
  quiet : Bool
  /-- Whether every input has lines of its own. -/
  separate : Bool
  /-- Whether inputs are replaced, and what is added to the names of their old contents. -/
  inPlace : Option String
  /-- What ends a line. -/
  ending : String
  width : Nat
  launch : Launch

/-- The line at hand, and all that is kept from line to line. -/
structure SedState where
  space : String := ""
  /-- Whether the line at hand has an end. -/
  ended : Bool := true
  hold : String := ""
  /-- Whether the line that is kept has an end. -/
  holdEnded : Bool := true
  number : Nat := 0
  /-- The lines of the input that are still to be read. -/
  ahead : List (String × Bool) := []
  files : List String
  file : String := "-"
  queue : List SedQueued := []
  replaced : Bool := false
  ranges : Array SedRange
  used : Option SedRegex := none
  /-- Files that are written: name, channel, and whether the last line has no end. -/
  sinks : List (String × Nat × Bool) := []
  /-- Files that are read line by line. -/
  sources : List (String × List String) := []
  /-- Whether the last line written has no end. -/
  open_ : Bool := false
  /-- What replaces the input, last piece first. -/
  edited : List String := []
  editing : Bool := false
  status : Nat := 0
  /-- Why the run cannot go on. -/
  failure : Option (String × Nat) := none

/-- A part of a run. -/
abbrev Editing := StateT SedState Action

namespace SedSubstitution

/-- How the letters that follow are written: the next one, and all. -/
abbrev Casing := Option CaseChange × Option CaseChange

/-- A text with its case changed, and how the letters behind it are written. -/
def cased (k : Casing) (text : List Char) : List Char × Casing :=
  let change (by_ : Option CaseChange) (c : Char) : Char := match by_ with
    | some .upper | some .upperNext => c.toUpper
    | some .lower | some .lowerNext => c.toLower
    | _ => c
  match text with
  | [] => ([], k)
  | c :: rest => (change (k.1.orElse fun _ => k.2) c :: rest.map (change k.2), (none, k.2))

/-- What a replacement comes to. -/
def filled (parts : List SedPart) (text : Array Char) (start : Nat) (h : Hit) : List Char :=
  let step (out : List (List Char) × Casing) (part : SedPart) : List (List Char) × Casing :=
    let add (cs : List Char) : List (List Char) × Casing :=
      let (cs, k) := cased out.2 cs
      (cs :: out.1, k)
    match part with
    | .text s => add s.toList
    | .group 0 => add (text.extract start h.stop).toList
    | .group n => add ((h.group? n).elim [] fun (a, b) => (text.extract a b).toList)
    | .case .upperNext => (out.1, (some .upperNext, out.2.2))
    | .case .lowerNext => (out.1, (some .lowerNext, out.2.2))
    | .case .stop => (out.1, (none, none))
    | .case c => (out.1, (out.2.1, some c))
  (parts.foldl step ([], (none, none))).1.reverse.flatten

/-- The pieces of a text with replacements, last one first; none if nothing is replaced. -/
def replaceFrom (s : SedSubstitution) (r : SedRegex) (l : Looking) :
    Nat → Nat → Nat → Option Nat → Bool → List (List Char) → Option (List (List Char))
  | 0, _, _, _, _, _ => none
  | n + 1, start, count, last, replaced, out =>
    let rest (start : Nat) : List Char := (l.text.extract start l.text.size).toList
    let finish : Option (List (List Char)) := if replaced then some (rest start :: out) else none
    match if start ≤ l.text.size then r.regex.findFrom? l start else none with
    | none => finish
    | some (first, h) =>
      let before := (l.text.extract start first).toList
      let next : List Char := (l.text.extract h.stop (h.stop + 1)).toList
      if first = h.stop ∧ last = some first then
        -- Nothing right behind a place that has been found does not count.
        s.replaceFrom r l n (h.stop + 1) count none replaced (next :: before :: out)
      else
        let counts := s.nth ≤ count + 1
        let part := if counts then filled s.parts l.text first h
          else (l.text.extract first h.stop).toList
        let out := part :: before :: out
        if counts ∧ !s.all then some (rest h.stop :: out)
        else if first = h.stop then
          s.replaceFrom r l n (h.stop + 1) (count + 1) none (replaced || counts) (next :: out)
        else s.replaceFrom r l n h.stop (count + 1) (some h.stop) (replaced || counts) out

/-- A text with replacements; none if nothing is replaced. -/
def replace? (s : SedSubstitution) (r : SedRegex) (text : String) : Option String :=
  let l : Looking :=
    { text := text.toList.toArray, ignoreCase := r.ignoreCase, byLines := r.byLines }
  (s.replaceFrom r l (l.text.size + 2) 0 0 none false []).map fun pieces =>
    String.ofList pieces.reverse.flatten

end SedSubstitution

namespace Editing

/-! ### Output -/

/-- Ends the last line written, if it has no end. -/
def closeLine : Editing Unit := do
  let s ← get
  if s.open_ then
    set { s with open_ := false }
    if s.editing then modify fun s => { s with edited := "\n" :: s.edited }
    else put "\n"

/-- Writes to the output, or into what replaces the input. -/
def write (text : String) : Editing Unit := do
  if text = "" then return
  closeLine
  if (← get).editing then modify fun s => { s with edited := text :: s.edited }
  else put text

/-- Writes a line. -/
def writeLine (p : SedRun) (line : String) : Editing Unit := do
  let ended := (← get).ended
  write (line ++ (if ended then p.ending else ""))
  if !ended then modify fun s => { s with open_ := true }

/-- Writes a line into a file. -/
def writeLineTo (p : SedRun) (name line : String) : Editing Unit := do
  if name = "/dev/stdout" then
    writeLine p line
    return
  let s ← get
  match s.sinks.lookup name with
  | none => return
  | some (id, open_) =>
    let text := (if open_ then "\n" else "") ++ line ++ (if s.ended then p.ending else "")
    let _ ← writeInto id text
    let sinks := s.sinks.map fun e => if e.1 = name then (name, id, !s.ended) else e
    set { s with sinks }

/-- Writes what has been queued. -/
def writeQueue (p : SedRun) : Editing Unit := do
  let queue := (← get).queue
  modify fun s => { s with queue := [] }
  for item in queue do
    match item with
    | .text text => write text
    | .line line => write (line ++ p.ending)
    | .file name =>
      if let .ok content ← inputFrom (if name = "/dev/stdin" then "-" else name) then
        closeLine
        write content

/-! ### Input -/

/-- Ends the replacing of an input. -/
def finishFile (p : SedRun) : Editing Unit := do
  let s ← get
  if !s.editing then return
  if let some suffix := p.inPlace then
    if suffix ≠ "" then
      let base := (s.file.splitOn "/").getLast?.getD s.file
      let directory := String.ofList (s.file.toList.take (s.file.length - base.length))
      let backup := if suffix.contains '*' then suffix.replace "*" base else base ++ suffix
      if let .ok content ← contentOf s.file then
        let _ ← writeFile (directory ++ backup) content
    let _ ← writeFile s.file (String.join s.edited.reverse)
  set { s with editing := false, edited := [], open_ := false }

/-- The lines of a text, and whether each one has an end. -/
def markedLines (p : SedRun) (content : String) : List (String × Bool) :=
  let pieces := content.splitOn p.ending
  match pieces.getLast? with
  | some "" => pieces.dropLast.map fun line => (line, true)
  | some last => pieces.dropLast.map (fun line => (line, true)) ++ [(last, false)]
  | none => []

/-- Begins with the next input; complains if it cannot be read. -/
def openFile (p : SedRun) (name : String) : Editing Unit := do
  if p.inPlace.isSome then
    match ← kindAt? name with
    | some .file | none => pure ()
    | some _ =>
      complain "sed" ("couldn't edit " ++ name ++ ": not a regular file")
      modify fun s => { s with status := 4 }
      return
  match ← inputFrom name with
  | .ok content =>
    modify fun s => { s with
      ahead := markedLines p content, file := name, editing := p.inPlace.isSome, edited := [] }
    if p.separate then
      modify fun s => { s with number := 0, hold := "" }
  | .error .isDirectory =>
    modify fun s => { s with failure := some ("read error on " ++ name ++ ": Is a directory", 4) }
  | .error e =>
    complain "sed" ("can't read " ++ name ++ ": " ++ e.reason)
    modify fun s => { s with status := 2 }

/-- Opens inputs until there is a line; false if there is none. -/
def openInputs (p : SedRun) : Nat → Editing Bool
  | 0 => return false
  | n + 1 => do
    let s ← get
    if s.ahead ≠ [] then return true
    if s.failure.isSome then return false
    finishFile p
    match s.files with
    | [] => return false
    | name :: files =>
      modify fun s => { s with files }
      openFile p name
      openInputs p n

/-- Whether an input has lines. -/
def hasLines (name : String) : Editing Bool := do
  if name = "-" then return (← unread 0).toOption.any (· ≠ [])
  else return (← contentOf name).toOption.any (· ≠ "")

/-- Whether there is no line behind the one at hand. -/
def atEnd (p : SedRun) : Editing Bool := do
  let s ← get
  if s.ahead ≠ [] then return false
  if p.separate then return true
  return !(← s.files.anyM hasLines)

/-- Whether there is no line in any input behind the one at hand. -/
def nothingLeft : Editing Bool := do
  let s ← get
  if s.ahead ≠ [] then return false
  return !(← s.files.anyM hasLines)

/-- Reads the next line, and adds it to the one at hand if `adding` says so; false if there is
none. -/
def advance (p : SedRun) (adding : Bool) : Editing Bool := do
  writeQueue p
  modify fun s => { s with replaced := s.replaced && adding }
  if !(← openInputs p ((← get).files.length + 2)) then return false
  modify fun s => match s.ahead with
    | (line, ended) :: ahead =>
      { s with
        space := if adding then s.space ++ line else line
        ended, ahead, number := s.number + 1 }
    | [] => s
  return true

/-! ### Addresses -/

/-- The expression of an address or of a replacement. -/
def regexFor (r : Option SedRegex) : Editing (Option SedRegex) := do
  match r with
  | some r =>
    modify fun s => { s with used := some r }
    return some r
  | none =>
    let s ← get
    if s.used.isNone then
      set { s with
        failure := some ("-e expression #1, char 0: no previous regular expression", 1) }
    return s.used

/-- Whether the line at hand is at an address. -/
def isAt (p : SedRun) (a : SedAddress) : Editing Bool := do
  let s ← get
  match a with
  | .line n => return s.number = n
  | .every first step =>
    return if step = 0 then s.number = first
      else first ≤ s.number && (s.number - first) % step == 0
  | .last => atEnd p
  | .found r =>
    match ← regexFor r with
    | none => return false
    | some r =>
      return r.regex.isIn
        { text := s.space.toList.toArray, ignoreCase := r.ignoreCase, byLines := r.byLines }

/-- Whether a command is meant for the line at hand. -/
def isMeant (p : SedRun) (i : Nat) (c : SedCommand) : Editing Bool := do
  match c.start, c.stop with
  | none, _ => return true
  | some a, none => isAt p a
  | some a, some e =>
    let setRange (r : SedRange) : Editing Unit :=
      modify fun s => { s with ranges := s.ranges.setIfInBounds i r }
    let number := (← get).number
    match (← get).ranges[i]?, e with
    | some (.active (some last)), _ =>
      if last ≤ number then setRange .idle
      return number ≤ last
    | some (.active none), .at stop =>
      if ← isAt p stop then setRange .idle
      return true
    | _, e =>
      if !(← isAt p a) then return false
      match e with
      | .after count => if count ≠ 0 then setRange (.active (some (number + count)))
      | .multiple of =>
        if of ≠ 0 then
          let last := (number + of - 1) / of * of
          if number < last then setRange (.active (some last))
      | .at (.line last) => if number < last then setRange (.active (some last))
      | .at _ => setRange (.active none)
      return true

/-! ### Commands -/

/-- How a turn goes on or ends. -/
inductive Flow where
  | next
  | jump (place : Nat)
  /-- The turn ends; the line is written unless `silent`. -/
  | done (silent : Bool)
  /-- The turn ends, and the next one begins with what is left of the line. -/
  | again
  | quit (status : Nat)

/-- The end of the block that begins at a place. -/
def blockEnd (p : SedRun) (start : Nat) : Nat :=
  let rec go : Nat → Nat → Nat → Nat
    | 0, i, _ => i
    | n + 1, i, depth =>
      match p.commands[i]?.map SedCommand.act with
      | none => i
      | some .block => go n (i + 1) (depth + 1)
      | some .blockEnd => if depth ≤ 1 then i else go n (i + 1) (depth - 1)
      | some _ => go n (i + 1) depth
  go (p.commands.size + 1) start 0

/-- Where a branch leads. -/
def target (p : SedRun) (name : String) : Nat :=
  if name = "" then p.commands.size
  else
    (p.commands.findIdx? fun c => match c.act with
      | .label l => l == name
      | _ => false).getD p.commands.size

/-- A text in which every character can be seen, in lines of a width. -/
def shownLine (width : Nat) (text : String) : String :=
  let piece (c : Char) : String := match c with
    | '\\' => "\\\\"
    | '\x07' => "\\a"
    | '\x08' => "\\b"
    | '\x0c' => "\\f"
    | '\n' => "\\n"
    | '\r' => "\\r"
    | '\t' => "\\t"
    | '\x0b' => "\\v"
    | c =>
      if c = ' ' ∨ isGraph c then c.toString
      else
        let ds := inBase 8 c.toNat
        "\\" ++ String.ofList (List.replicate (3 - ds.length) '0') ++ ds
  let (text, _) := text.toList.foldl (fun (out, column) c =>
    let s := piece c
    if 0 < width ∧ width - 1 < column + s.length then (out ++ "\\\n" ++ s, s.length)
    else (out ++ s, column + s.length)) ("", 0)
  text ++ "$\n"

/-- Carries out a substitution. -/
def substitute (p : SedRun) (c : SedSubstitution) : Editing Unit := do
  match ← regexFor c.regex with
  | none => return
  | some r =>
    match c.replace? r (← get).space with
    | none => return
    | some space =>
      modify fun s => { s with space, replaced := true }
      if c.run then
        let id ← openChannel (.sink [] none)
        let before ← memory
        remember fun m => m.connect 1 (some id)
        let _ ← p.launch "sh" ["-c", space]
        remember fun _ => before
        let output ← written id
        let output := if output.endsWith "\n" then (output.dropEnd 1).toString else output
        modify fun s => { s with space := output }
      if c.print then writeLine p (← get).space
      if let some name := c.file then writeLineTo p name (← get).space

/-- The first line of a text, and what is behind it. -/
def firstLine (text : String) : String × Option String :=
  match text.splitOn "\n" with
  | first :: rest@(_ :: _) => (first, some ("\n".intercalate rest))
  | _ => (text, none)

/-- Carries out a command that is one letter. -/
def letter (p : SedRun) (c : Char) : Editing Flow := do
  let s ← get
  let put (s : SedState) : Editing Flow := do
    set s
    return .next
  match c with
  | '=' =>
    write (toString s.number ++ "\n")
    return .next
  | 'F' =>
    write (s.file ++ "\n")
    return .next
  | 'd' => return .done true
  | 'D' =>
    match firstLine s.space with
    | (_, none) => return .done true
    | (_, some rest) =>
      set { s with space := rest }
      return .again
  | 'g' => put { s with space := s.hold, ended := s.holdEnded }
  | 'G' =>
    put { s with space := s.space ++ "\n" ++ s.hold, ended := s.ended || s.holdEnded }
  | 'h' => put { s with hold := s.space, holdEnded := s.ended }
  | 'H' =>
    put { s with hold := s.hold ++ "\n" ++ s.space, holdEnded := s.ended || s.holdEnded }
  | 'x' =>
    put { s with space := s.hold, ended := s.holdEnded, hold := s.space, holdEnded := s.ended }
  | 'z' => put { s with space := "" }
  | 'p' =>
    writeLine p s.space
    return .next
  | 'P' =>
    write ((firstLine s.space).1 ++ p.ending)
    return .next
  | 'n' =>
    if ← nothingLeft then return .done false
    if !p.quiet then writeLine p s.space
    if ← advance p false then return .next else return .done true
  | 'N' =>
    if ← nothingLeft then return .done false
    set { s with space := s.space ++ "\n" }
    if ← advance p true then return .next else return .done true
  | _ => return .next

/-- Carries out a command. -/
def carryOut (p : SedRun) (i : Nat) (c : SedCommand) : Editing Flow := do
  let queue (q : SedQueued) : Editing Flow := do
    modify fun s => { s with queue := s.queue ++ [q] }
    return .next
  match c.act with
  | .block | .blockEnd | .label _ => return .next
  | .branch name => return .jump (target p name)
  | .branchIf name =>
    let s ← get
    set { s with replaced := false }
    return if s.replaced then .jump (target p name) else .next
  | .branchUnless name =>
    let s ← get
    set { s with replaced := false }
    return if s.replaced then .next else .jump (target p name)
  | .append text => queue (.text text)
  | .insert text =>
    write text
    return .next
  | .change text =>
    let inRange := match (← get).ranges[i]? with
      | some (.active _) => c.stop.isSome && !c.negated
      | _ => false
    if !inRange then write text
    return .done true
  | .substitute sub =>
    substitute p sub
    return .next
  | .transliterate pairs =>
    modify fun s => { s with
      space := String.ofList (s.space.toList.map fun c => (pairs.lookup c).getD c) }
    return .next
  | .list width =>
    write (shownLine (width.getD p.width) (← get).space)
    return .next
  | .quit status silent =>
    if !silent then
      if !p.quiet then writeLine p (← get).space
      writeQueue p
    return .quit status
  | .readFile name => queue (.file name)
  | .readLine name =>
    let s ← get
    let lines ← match s.sources.lookup name with
      | some lines => pure lines
      | none => do pure ((← contentOf name).toOption.elim [] linesOf)
    let others := s.sources.filter (·.1 != name)
    set { s with sources := (name, lines.tail) :: others }
    match lines with
    | line :: _ => queue (.line line)
    | [] => return .next
  | .writeFile name first =>
    let space := (← get).space
    writeLineTo p name (if first then (firstLine space).1 else space)
    return .next
  | .execute command =>
    let _ ← p.launch "sh" ["-c", command]
    return .next
  | .letter l => letter p l

/-- Carries out the commands from a place on. -/
def turn (p : SedRun) : Nat → Nat → Editing Flow
  | 0, _ => return .quit 1
  | n + 1, i => do
    match p.commands[i]? with
    | none => return .done false
    | some c =>
      let meant ← isMeant p i c
      if let some (text, status) := (← get).failure then
        complain "sed" text
        return .quit status
      if meant = c.negated then
        match c.act with
        | .block => turn p n (blockEnd p i + 1)
        | _ => turn p n (i + 1)
      else
        let flow ← carryOut p i c
        if let some (text, status) := (← get).failure then
          complain "sed" text
          return .quit status
        match flow with
        | .next => turn p n (i + 1)
        | .jump place => turn p n place
        | flow => return flow

/-- How many commands one turn may carry out. -/
def turnBound : Nat := 100000000

/-- Carries out turns until the inputs have come to an end. -/
def turns (p : SedRun) : Nat → Editing Nat
  | 0 => return 1
  | n + 1 => do
    match ← turn p turnBound 0 with
    | .quit status =>
      finishFile p
      let s ← get
      return if status ≠ 0 then status else s.status
    | .again =>
      writeQueue p
      turns p n
    | flow =>
      match flow with
      | .done true => pure ()
      | _ =>
        let space := (← get).space
        if !p.quiet then writeLine p space
      if ← advance p false then turns p n
      else match (← get).failure with
        | some (text, status) =>
          complain "sed" text
          return status
        | none => return (← get).status

/-- A whole run. -/
def whole (p : SedRun) : Editing Nat := do
  if ← advance p false then turns p turnBound
  else match (← get).failure with
    | some (text, status) =>
      complain "sed" text
      return status
    | none => return (← get).status

end Editing

/-- The files into which commands write. -/
def sedSinks (commands : Array SedCommand) : List String :=
  (commands.toList.filterMap fun c => match c.act with
    | .writeFile name _ => some name
    | .substitute s => s.file
    | _ => none).eraseDups.filter (· ≠ "/dev/stdout")

/-- The branches that lead nowhere. -/
def lostBranches (commands : Array SedCommand) : List String :=
  let labels := commands.toList.filterMap fun c => match c.act with
    | .label name => some name
    | _ => none
  commands.toList.filterMap fun c => match c.act with
    | .branch name | .branchIf name | .branchUnless name =>
      if name = "" ∨ name ∈ labels then none else some name
    | _ => none

/-- A script in pieces: where each piece comes from, and its text. -/
abbrev SedPieces := List (Option String × String)

/-- Where something is wrong, for a complaint. -/
def sedPlace (pieces : SedPieces) (used : Nat) : String :=
  let rec go : Nat → Nat → SedPieces → String
    | i, used, (file, text) :: rest =>
      if used ≤ text.length ∨ rest = [] then
        match file with
        | some name =>
          let line := ((text.toList.take used).filter (· == '\n')).length + 1
          "file " ++ name ++ " line " ++ toString line
        | none => "-e expression #" ++ toString i ++ ", char " ++ toString used
      else go (if file.isNone then i + 1 else i) (used - text.length - 1) rest
    | _, used, [] => "-e expression #1, char " ++ toString used
  go 1 used pieces

/-- The options of `sed`. -/
def sedOptions : OptionTable :=
  { short := "bsnrzuEe:f:l:i::V:hs"
    long := [("expression=", "e"), ("file=", "f"), ("in-place?", "i"), ("line-length=", "l"),
      ("quiet", "n"), ("silent", "n"), ("null-data", "z"), ("separate", "s"),
      ("unbuffered", "u"), ("regexp-extended", "E"), ("posix", "p"), ("sandbox", "sandbox"),
      ("debug", "debug"), ("follow-symlinks", "follow")] }

/-- `sed`: carries out a script on every line. -/
def runSed : Tool := fun launch name args => do
  let usage := "Usage: sed [OPTION]... \x7bscript-only-if-no-other-script\x7d [input-file]...\n"
  match sedOptions.read args with
  | .error text =>
    complain name text
    warn usage
    return 1
  | .ok (found, operands) =>
    let mut given : SedPieces := []
    for (key, value) in found do
      if key = "e" then given := given ++ [(none, value)]
      if key = "f" then
        match ← inputFrom value with
        | .ok content =>
          let text := if content.endsWith "\n" then (content.dropEnd 1).toString else content
          given := given ++ [(some value, text)]
        | .error e =>
          return ← refuse name ("couldn't open file " ++ value ++ ": " ++ e.reason) 4
    let (pieces, operands) : SedPieces × List String :=
      if given = [] then ((operands.head?.map fun s => (none, s)).toList, operands.tail)
      else (given, operands)
    if pieces = [] then
      warn usage
      return 1
    let text := "\n".intercalate (pieces.map Prod.snd)
    match readScript (has found "E" || has found "r") text with
    | .error (problem, used) => refuse name (sedPlace pieces used ++ ": " ++ problem)
    | .ok commands =>
      let commands := commands.toArray
      if let some label := (lostBranches commands).head? then
        return ← refuse name ("can't find label for jump to \x60" ++ label ++ "'") 4
      let mut sinks : List (String × Nat × Bool) := []
      for file in sedSinks commands do
        match ← openFile .overwrite file with
        | .ok id => sinks := sinks ++ [(file, id, false)]
        | .error e =>
          return ← refuse name ("couldn't open file " ++ file ++ ": " ++ e.reason) 4
      let inPlace := argument? found "i"
      let first := (pieces.head?.map Prod.snd).getD ""
      let p : SedRun :=
        { commands, launch, inPlace
          quiet := has found "n" || first = "#n" || first.startsWith "#n\n"
          separate := has found "s" || inPlace.isSome
          ending := if has found "z" then "\x00" else "\n"
          width := ((argument? found "l").bind natural?).getD 70 }
      let ranges := commands.map fun c => match c.start with
        | some (.line 0) => SedRange.active none
        | _ => .idle
      let (status, _) ← (Editing.whole p).run { files := inputs operands, ranges, sinks }
      return status

end ScriptLang.Shell.Tool
