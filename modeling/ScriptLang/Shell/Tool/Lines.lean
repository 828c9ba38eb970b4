import ScriptLang.Shell.Tool

/-!
# Parts of inputs

`head` and `tail` write the beginning and the end of their inputs, `wc` counts what they hold, and
`tee` copies its input to files.

## Main definitions

* `Amount` — how much is asked for
* `runHead`, `runTail`, `runWc`, `runTee` — the programs of these names
-/

namespace ScriptLang.Shell.Tool

/-- How many bytes a unit has; there are units of a thousand and of 1024. -/
def unitSize? (unit : String) : Option Nat :=
  let powers := ["K", "M", "G", "T", "P", "E", "Z", "Y", "R", "Q"]
  let power? (letter : String) : Option Nat := (powers.findIdx? (· == letter)).map (· + 1)
  match unit with
  | "" => some 1
  | "b" => some 512
  | "k" => some 1024
  | "m" => some (Nat.pow 1024 2)
  | "kB" => some 1000
  | _ =>
    let letter := String.ofList (unit.toList.take 1)
    match String.ofList (unit.toList.drop 1) with
    | "" | "iB" => (power? letter).map (Nat.pow 1024)
    | "B" => (power? letter).map (Nat.pow 1000)
    | _ => none

/-- A number with a unit, such as `2K`. -/
def amount? (text : String) : Option Nat :=
  let cs := text.toList.dropWhile isSpace
  let cs := if cs.head? = some '+' then cs.drop 1 else cs
  let ds := cs.takeWhile Char.isDigit
  if ds = [] then none
  else (unitSize? (String.ofList (cs.drop ds.length))).map (valueOf 10 ds * ·)

/-- The largest amount that can be asked for. -/
def maxAmount : Nat := 0xffffffffffffffff

/-- The first lines of a text, with the marks that end them. -/
def firstLines (mark : Char) : Nat → List Char → List Char
  | 0, _ => []
  | _, [] => []
  | n + 1, c :: rest =>
    if c = mark then c :: firstLines mark n rest else c :: firstLines mark (n + 1) rest
termination_by n cs => (cs.length, n)

/-- The number of lines in a text; the last one counts even without the mark that ends it. -/
def lineCount (mark : Char) (cs : List Char) : Nat :=
  cs.count mark + (if cs.getLast?.any (· != mark) then 1 else 0)

/-- How much of an input is asked for. -/
structure Amount where
  count : Nat
  /-- Whether characters are counted, not lines. -/
  chars : Bool := false
  /-- Whether the count says what is left out: at the end for `head`, before the start for
  `tail`. -/
  inverted : Bool := false
  /-- The mark that ends lines. -/
  mark : Char := '\n'

/-- The beginning of a text. -/
def Amount.head (a : Amount) (cs : List Char) : List Char :=
  if a.chars then cs.take (if a.inverted then cs.length - a.count else a.count)
  else firstLines a.mark (if a.inverted then lineCount a.mark cs - a.count else a.count) cs

/-- The end of a text. -/
def Amount.tail (a : Amount) (cs : List Char) : List Char :=
  if a.chars then cs.drop (if a.inverted then a.count - 1 else cs.length - a.count)
  else
    let skipped := if a.inverted then a.count - 1 else lineCount a.mark cs - a.count
    cs.drop (firstLines a.mark skipped cs).length

/-- The amount that the last option of its kind asks for, or the status of a complaint; `inverting`
is the sign that inverts it. -/
def amountFrom (name : String) (found : List (String × String)) (inverting : Char) :
    Action (Except Nat Amount) := do
  let last := found.reverse.find? fun o => o.1 == "n" || o.1 == "c"
  let (key, text) := last.getD ("n", "10")
  let inverted := text.toList.head? == some inverting
  let signed := inverted || text.startsWith "-"
  let digits := if signed then String.ofList (text.toList.drop 1) else text
  -- A minus sign in front of a count is not shown in complaints.
  let shown := if text.startsWith "-" then digits else text
  let invalid := "invalid number of " ++ (if key = "c" then "bytes" else "lines") ++ ": " ++
    quotedName shown
  match if signed ∧ digits.startsWith "+" then none else amount? digits with
  | none => return .error (← refuse name invalid)
  | some count =>
    if maxAmount < count then
      return .error (← refuse name (invalid ++ ": Value too large for defined data type"))
    return .ok { count, chars := key == "c", inverted, mark := lineMark found }

/-- Does something for each input, with a heading between several ones. -/
def withHeadings (name : String) (found : List (String × String)) (operands : List String)
    (act : String → String → Action Unit) : Action Nat := do
  let headed := (1 < operands.length || has found "v") && !has found "q"
  let mut status := 0
  let mut first := true
  for operand in inputs operands do
    let content ← do
      if operand = "-" then
        match ← unread 0 with
        | .ok cs => pure (.ok (String.ofList cs))
        | .error e => pure (.error e)
      else inputFrom operand
    match content with
    | .ok content =>
      if headed then
        let title := if operand = "-" then "standard input" else operand
        put ((if first then "" else "\n") ++ "==> " ++ title ++ " <==\n")
      first := false
      act operand content
    | .error e =>
      let what := if e = .isDirectory then "error reading " else "cannot open "
      let ending := if e = .isDirectory then ": " else " for reading: "
      if headed ∧ e = .isDirectory then
        put ((if first then "" else "\n") ++ "==> " ++ operand ++ " <==\n")
        first := false
      complain name (what ++ quotedName operand ++ ending ++ e.reason)
      status := 1
  return status

/-- Says that the input has been read: a file up to some place, anything else to its end. -/
def inputUsed (used : Nat) : Action Unit := do
  match ← channelOf 0 with
  | some (_, .file ..) => skip 0 used
  | some (_, .source rest) => skip 0 rest.length
  | _ => return

/-- The options that an argument such as `-5q` stands for, or a letter that is none of them. -/
def headShorthand : List String → Except Char (List String)
  | [] => .ok []
  | arg :: rest =>
    match arg.toList with
    | '-' :: d :: later =>
      if !d.isDigit then .ok (arg :: rest)
      else
        let ds := (d :: later).takeWhile Char.isDigit
        let letters := (d :: later).drop ds.length
        match letters.find? (· ∉ ['b', 'c', 'k', 'l', 'm', 'q', 'v', 'z']) with
        | some c => .error c
        | none =>
          let unit := letters.filter fun c => c ∈ ['b', 'k', 'm']
          let last := (letters.filter fun c => c ∈ ['b', 'c', 'k', 'l', 'm']).getLast?
          let key := if last.all (· == 'l') then "-n" else "-c"
          let marks := letters.filter fun c => c ∈ ['q', 'v', 'z']
          .ok ((key ++ String.ofList (ds ++ unit.reverse.take 1)) ::
            ((if marks = [] then [] else ["-" ++ String.ofList marks]) ++ rest))
    | _ => .ok (arg :: rest)

/-- `head`: the beginning of inputs. -/
def runHead : Tool := fun _ name args =>
  match headShorthand args with
  | .error c => misused name ("invalid trailing option -- " ++ c.toString)
  | .ok args =>
  withOptions
    { short := "n:c:qvz0123456789"
      long := [("lines=", "n"), ("bytes=", "c"), ("quiet", "q"), ("silent", "q"),
        ("verbose", "v"), ("zero-terminated", "z")] }
    name args fun found operands => do
  if let some (digit, _) := found.find? fun o => o.1.toList.all Char.isDigit then
    return ← misused name ("invalid trailing option -- " ++ digit)
  match ← amountFrom name found '-' with
  | .error status => return status
  | .ok amount =>
    withHeadings name found operands fun operand content => do
      let part := amount.head content.toList
      put (String.ofList part)
      if operand = "-" then inputUsed part.length

/-- The options that an argument such as `-5` or `+5` stands for, where no more than one file
follows. -/
def tailShorthand (args : List String) : List String :=
  let isOperand (arg : String) : Bool := !arg.startsWith "-" || arg == "-"
  let alone : Bool := match args with
    | [_] => true
    | [_, file] => isOperand file || file == "--"
    | [_, "--", _] => true
    | _ => false
  match args with
  | arg :: rest =>
    let read (sign : String) (cs : List Char) : List String :=
      let ds := cs.takeWhile Char.isDigit
      let letters := cs.drop ds.length
      let (letters, forever) : List Char × List String :=
        if letters.getLast? = some 'f' then (letters.dropLast, ["-f"]) else (letters, [])
      let number := if ds = [] then "10" else String.ofList ds
      if cs.head? = some 'c' ∧ sign = "-" ∧ cs ≠ ['c'] then args
      else
        match letters with
        | [] | ['l'] => ("-n" ++ sign ++ number) :: forever ++ rest
        | ['b'] => ("-c" ++ sign ++ number ++ "b") :: forever ++ rest
        | ['c'] => ("-c" ++ sign ++ number) :: forever ++ rest
        | _ => args
    match arg.toList with
    | '+' :: cs => if alone then read "+" cs else args
    | '-' :: d :: cs => if alone ∧ d.isDigit then read "-" (d :: cs) else args
    | _ => args
  | [] => []

/-- `tail`: the end of inputs. -/
def runTail : Tool := fun _ name args =>
  withOptions
    { short := "n:c:qvfFs:z0123456789"
      long := [("lines=", "n"), ("bytes=", "c"), ("quiet", "q"), ("silent", "q"),
        ("verbose", "v"), ("follow?", "f"), ("zero-terminated", "z"), ("retry", "retry")] }
    name (tailShorthand args) fun found operands => do
  if let some (digit, _) := found.find? fun o => o.1.toList.all Char.isDigit then
    return ← refuse name ("option used in invalid context -- " ++ digit)
  match ← amountFrom name found '+' with
  | .error status => return status
  | .ok amount =>
    let status ← withHeadings name found operands fun operand content => do
      put (String.ofList (amount.tail content.toList))
      if operand = "-" then inputUsed content.length
    -- There is nothing to wait for if no file could be read.
    if has found "f" ∧ status ≠ 0 ∧ operands.length = 1 then complain name "no files remaining"
    return status

/-! ### Counting -/

/-- What `wc` counts. -/
structure Counts where
  lines : Nat := 0
  words : Nat := 0
  chars : Nat := 0
  bytes : Nat := 0
  longest : Nat := 0

/-- The number of words in a text.  What separates words is blank, and a word has to hold a
character that prints. -/
def wordCount (cs : List Char) : Nat :=
  (cs.foldl (fun (n, inWord) c =>
    if isSpace c then (n, false)
    else if isGraph c ∧ !inWord then (n + 1, true)
    else (n, inWord)) (0, false)).1

/-- The width of the widest line of a text; tabs go to the next column that is a multiple of
eight. -/
def widest (cs : List Char) : Nat :=
  let step (s : Nat × Nat) (c : Char) : Nat × Nat :=
    if c ∈ ['\n', '\r', '\x0c'] then (max s.1 s.2, 0)
    else if c = '\t' then (s.1, (s.2 / 8 + 1) * 8)
    else if isGraph c ∨ c = ' ' then (s.1, s.2 + 1)
    else s
  let (most, last) := cs.foldl step (0, 0)
  max most last

/-- The counts of a text. -/
def countsOf (content : String) : Counts :=
  let cs := content.toList
  { lines := cs.count '\n', words := wordCount cs, chars := cs.length, bytes := cs.length
    longest := widest cs }

/-- The counts of several texts together. -/
def Counts.add (a b : Counts) : Counts :=
  ⟨a.lines + b.lines, a.words + b.words, a.chars + b.chars, a.bytes + b.bytes,
    max a.longest b.longest⟩

/-- Which counts `wc` shows. -/
def Counts.shown (c : Counts) (found : List (String × String)) : List Nat :=
  let all := !found.any fun o => o.1 ∈ ["c", "l", "m", "L", "w"]
  (if has found "l" || all then [c.lines] else []) ++
    (if has found "w" || all then [c.words] else []) ++
    (if has found "m" then [c.chars] else []) ++
    (if has found "c" || all then [c.bytes] else []) ++
    (if has found "L" then [c.longest] else [])

/-- How wide the columns for some inputs are: as wide as the sum of all sizes, and seven places for
what has no size. -/
def countWidth (names : List String) (columns : Nat) : Action Nat := do
  let files ← names.mapM fun name => do
    if name = "-" then
      match ← channelOf 0 with
      | some (_, .file path ..) => return (← call (.inspect path true)).toOption
      | _ => return some (⟨.device, 0, 0, 0, 1, 0⟩ : FileInfo)
    else return (← inspect name).toOption
  let known := files.filterMap id
  let sizes := (known.filter (·.kind == .file)).map FileInfo.size
  let digits := (toString (sizes.foldl (· + ·) 0)).length
  if files.length = 1 ∧ columns = 1 then return 1
  return if known.all (·.kind == .file) then digits else max 7 digits

/-- `wc`: counts lines, words and characters. -/
def runWc : Tool := fun _ name args =>
  withOptions
    { short := "clmLw"
      long := [("bytes", "c"), ("chars", "m"), ("lines", "l"), ("words", "w"),
        ("max-line-length", "L"), ("total=", "total"), ("files0-from=", "from")] }
    name args fun found operands => do
  let mode ← match ← wordChosen name "--total" ((argument? found "total").getD "auto")
      [["auto"], ["always"], ["only"], ["never"]] with
    | .ok word => pure word
    | .error status => return status
  -- The names of the inputs can be read from an input.
  let (names, labelled) ← match argument? found "from" with
    | none => pure (inputs operands, !operands.isEmpty)
    | some list =>
      if let extra :: _ := operands then
        complain name ("extra operand " ++ quotedName extra)
        warn "file operands cannot be combined with --files0-from\n"
        warn ("Try '" ++ name ++ " --help' for more information.\n")
        return 1
      match ← inputFrom list with
      | .ok content => pure ((splitEnded '\x00' content.toList).1, true)
      | .error e =>
        return ← refuse name ("cannot open " ++ quotedName list ++ " for reading: " ++ e.reason)
  let columns := ((({} : Counts).shown found)).length
  let width ← if mode = "only" ∨ argument? found "from" = some "-" then pure 1
    else countWidth names columns
  let row (c : Counts) (label : String) : String :=
    " ".intercalate ((c.shown found).map fun n => paddedLeft width (toString n)) ++
      (if label = "" then "" else " " ++ label) ++ "\n"
  let mut status := 0
  let mut total : Counts := {}
  for (operand, i) in names.zipIdx do
    if operand = "" then
      let list := (argument? found "from").getD ""
      complain name ((if has found "from" then fileName list ++ ":" ++ toString (i + 1) ++ ": "
        else "") ++ "invalid zero-length file name")
      status := 1
    else
      let counts ← match ← inputFrom operand with
        | .ok content => pure (some (countsOf content))
        | .error e =>
          complain name (fileName operand ++ ": " ++ e.reason)
          status := 1
          -- A directory is counted as empty.
          pure (if e = .isDirectory then some {} else none)
      if let some c := counts then
        total := total.add c
        if mode ≠ "only" then put (row c (if labelled then operand else ""))
  if mode = "only" then put (row total "")
  else if mode = "always" ∨ (mode = "auto" ∧ 1 < names.length) then put (row total "total")
  return status

/-- `tee`: copies its input to its output and to files. -/
def runTee : Tool := fun _ name args =>
  withOptions
    { short := "aip"
      long := [("append", "a"), ("ignore-interrupts", "i"), ("output-error?", "error")] }
    name args fun found operands => do
  if let some word := argument? found "error" then
    if word ≠ "" then
      if let .error status ← wordChosen name "--output-error" word
          [["warn"], ["warn-nopipe"], ["exit"], ["exit-nopipe"]] then
        return status
  let content ← match ← readAll 0 with
    | .ok content => pure content
    | .error _ => pure ""
  let mut status := 0
  for operand in operands do
    match ← openFile (if has found "a" then .append else .overwrite) operand with
    | .ok id =>
      let _ ← writeInto id content
    | .error e =>
      complain name (fileName operand ++ ": " ++ e.reason)
      status := 1
  put content
  return status

end ScriptLang.Shell.Tool
