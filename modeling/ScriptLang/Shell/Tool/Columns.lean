import ScriptLang.Shell.Tool

/-!
# Columns

`cut` writes parts of lines, and `paste` puts the lines of several inputs side by side.

## Main definitions

* `PlaceRange`, `readRanges` — which fields or characters of a line are meant
* `runCut`, `runPaste` — the programs of these names
-/

namespace ScriptLang.Shell.Tool

/-! ### Cutting lines -/

/-- A range of places, counted from one; without an end it goes on for ever. -/
structure PlaceRange where
  first : Nat
  last : Option Nat

namespace PlaceRange

/-- Whether a place lies in a range. -/
def holds (r : PlaceRange) (n : Nat) : Bool :=
  r.first ≤ n && r.last.all (n ≤ ·)

/-- Ranges in order, those that overlap made one. -/
def merged (rs : List PlaceRange) : List PlaceRange :=
  let add (out : List PlaceRange) (r : PlaceRange) : List PlaceRange :=
    match out with
    | last :: earlier =>
      if last.last.all (r.first ≤ ·) then
        let stop := match last.last, r.last with
          | some a, some b => some (max a b)
          | _, _ => none
        ⟨last.first, stop⟩ :: earlier
      else r :: out
    | [] => [r]
  ((rs.mergeSort fun a b => a.first ≤ b.first).foldl add []).reverse

/-- The places from a place on that lie in none of some ordered ranges. -/
def gaps (start : Nat) : List PlaceRange → List PlaceRange
  | [] => [⟨start, none⟩]
  | r :: later =>
    let before : List PlaceRange := if start < r.first then [⟨start, some (r.first - 1)⟩] else []
    match r.last with
    | some last => before ++ gaps (last + 1) later
    | none => before

end PlaceRange

/-- What has been read of one range. -/
structure RangeReading where
  /-- The number behind the minus sign, or the only one. -/
  value : Nat := 0
  /-- The number before the minus sign. -/
  first : Nat := 1
  before : Bool := false
  behind : Bool := false
  dashed : Bool := false

/-- Reads ranges between commas and blanks, such as `3`, `2-4`, `-4` or `2-`, or says what is wrong
with them. -/
def readRanges (fields : Bool) : RangeReading → List Char → Except String (List PlaceRange)
  | s, [] => (finished s).map fun r => [r]
  | s, '-' :: rest =>
    let place := if fields then "field" else "byte or character"
    if s.dashed then .error ("invalid " ++ place ++ " range")
    else if s.before ∧ s.value = 0 then .error fromOne
    else
      readRanges fields
        { s with dashed := true, first := if s.before then s.value else 1, value := 0 } rest
  | s, c :: rest =>
    if c = ',' ∨ c = ' ' ∨ c = '\t' then
      (finished s).bind fun r => (readRanges fields {} rest).map (r :: ·)
    else if c.isDigit then
      let value := s.value * 10 + (c.toNat - '0'.toNat)
      if 0xffffffffffffffff ≤ value then
        .error ((if fields then "field number " else "byte/character offset ") ++
          quotedName (toString s.value ++ String.ofList ((c :: rest).takeWhile Char.isDigit)) ++
          " is too large")
      else if s.dashed then readRanges fields { s with value, behind := true } rest
      else readRanges fields { s with value, before := true } rest
    else
      .error ("invalid " ++ (if fields then "field value " else "byte/character position ") ++
        quotedName (String.ofList (c :: rest)))
where
  /-- The complaint about the place zero. -/
  fromOne : String :=
    (if fields then "fields" else "byte/character positions") ++ " are numbered from 1"
  /-- The range that has been read. -/
  finished (s : RangeReading) : Except String PlaceRange :=
    if !s.dashed then if s.value = 0 then .error fromOne else .ok ⟨s.value, some s.value⟩
    else if !s.before ∧ !s.behind then .error "invalid range with no endpoint: -"
    else if !s.behind then .ok ⟨s.first, none⟩
    else if s.value < s.first then .error "invalid decreasing range"
    else .ok ⟨s.first, some s.value⟩

/-- The parts of a line that ranges of fields name; none if the line has one field only. -/
def cutFields (ranges : List PlaceRange) (delimiter between line : String) : Option String :=
  let parts := line.splitOn delimiter
  if parts.length ≤ 1 then none
  else
    let kept := (parts.zipIdx 1).filter fun p => ranges.any (·.holds p.2)
    some (between.intercalate (kept.map Prod.fst))

/-- The characters of a line in some ranges, with a text where another range begins. -/
def cutChars (ranges : List PlaceRange) (between line : String) : String :=
  let kept := (line.toList.zipIdx 1).filter fun p => ranges.any (·.holds p.2)
  let begins (n : Nat) : Bool := ranges.any (·.first == n)
  String.join (kept.zipIdx.map fun ((c, place), i) =>
    (if 0 < i ∧ begins place then between else "") ++ c.toString)

/-- `cut`: parts of lines. -/
def runCut : Tool := fun _ name args =>
  withOptions
    { short := "b:c:d:f:nsz"
      long := [("bytes=", "b"), ("characters=", "c"), ("delimiter=", "d"), ("fields=", "f"),
        ("only-delimited", "s"), ("complement", "complement"), ("output-delimiter=", "between"),
        ("zero-terminated", "z")] }
    name args fun found operands => do
  let lists := found.filter fun o => o.1 ∈ ["b", "c", "f"]
  if 1 < lists.length then return ← misused name "only one list may be specified"
  let delimiter := (argument? found "d").getD "\t"
  if 1 < delimiter.length then
    return ← misused name "the delimiter must be a single character"
  match lists.head? with
  | none => misused name "you must specify a list of bytes, characters, or fields"
  | some (kind, text) =>
    let fields := kind == "f"
    if has found "d" ∧ !fields then
      return ← misused name
        "an input delimiter may be specified only when operating on fields"
    if has found "s" ∧ !fields then
      return ← misused name
        "suppressing non-delimited lines makes sense\n\tonly when operating on fields"
    match readRanges fields {} text.toList with
    | .error problem => misused name problem
    | .ok ranges =>
      let ranges := PlaceRange.merged ranges
      let ranges := if has found "complement" then PlaceRange.gaps 1 ranges else ranges
      let delimiter := if delimiter = "" then "\x00" else delimiter
      let between := (argument? found "between").getD (if fields then delimiter else "")
      let mark := lineMark found
      forInputs name operands fun _ content => do
        let lines := (splitEnded mark content.toList).1
        -- If lines are the fields, the whole input is one line.
        let lines := if fields ∧ delimiter = mark.toString then [mark.toString.intercalate lines]
          else lines
        for line in lines do
          if fields then
            match cutFields ranges delimiter between line with
            | some text => put (text ++ mark.toString)
            | none => if !has found "s" then put (line ++ mark.toString)
          else put (cutChars ranges between line ++ mark.toString)

/-! ### Putting lines side by side -/

/-- The delimiters that a list of characters and escapes writes; an empty one is none at all. -/
def delimiters : List Char → List String
  | '\\' :: c :: rest =>
    let text := match c with
      | '0' => ""
      | 'b' => "\x08"
      | 'f' => "\x0c"
      | 'n' => "\n"
      | 'r' => "\r"
      | 't' => "\t"
      | 'v' => "\x0b"
      | c => c.toString
    text :: delimiters rest
  | c :: rest => c.toString :: delimiters rest
  | [] => []

/-- Pieces with delimiters between them, in turn. -/
def joinedBy (ds : List String) (pieces : List String) : String :=
  match pieces with
  | [] => ""
  | first :: later =>
    let count := ds.length
    (later.zipIdx).foldl (fun text (piece, i) =>
      text ++ (ds[i % count]?).getD "" ++ piece) first

/-- The lines of an input, or why it cannot be opened.  A directory can be opened, but has no
lines. -/
def linesToPaste (name : String) (mark : Char) (operand : String) :
    Action (Except IoError (List String × Bool)) := do
  match ← inputFrom operand with
  | .ok content => return .ok ((splitEnded mark content.toList).1, true)
  | .error .isDirectory =>
    complain name (fileName operand ++ ": " ++ IoError.isDirectory.reason)
    return .ok ([], false)
  | .error e => return .error e

/-- `paste`: the lines of several inputs side by side. -/
def runPaste : Tool := fun _ name args =>
  withOptions
    { short := "d:sz", long := [("delimiters=", "d"), ("serial", "s"), ("zero-terminated", "z")] }
    name args fun found operands => do
  let list := ((argument? found "d").getD "\t").toList
  if (list.reverse.takeWhile (· == '\\')).length % 2 = 1 then
    return ← refuse name ("delimiter list ends with an unescaped backslash: " ++ String.ofList list)
  let ds := if list = [] then [""] else delimiters list
  let mark := lineMark found
  let serial := has found "s"
  let operands := inputs operands
  let mut status := 0
  let mut columns : List (List String) := []
  -- The input gives its lines in turn if it is named more than once.
  let shared := 1 < (operands.filter (· == "-")).length ∧ !serial
  for operand in operands do
    if shared ∧ operand = "-" then columns := columns ++ [[]]
    else
      match ← linesToPaste name mark operand with
      | .ok (lines, clean) =>
        if !clean then status := 1
        if serial then put (joinedBy ds lines ++ mark.toString)
        else columns := columns ++ [lines]
      | .error e =>
        complain name (fileName operand ++ ": " ++ e.reason)
        status := 1
        if !serial then return status
  if serial then return status
  if shared then
    let lines ← match ← readAll 0 with
      | .ok content => pure (splitEnded mark content.toList).1
      | .error _ => pure []
    let turns := (operands.zipIdx.filter fun o => o.1 == "-").map Prod.snd
    columns := columns.zipIdx.map fun (column, i) =>
      match turns.findIdx? (· == i) with
      | some turn => ((lines.zipIdx).filter fun l => l.2 % turns.length == turn).map Prod.fst
      | none => column
  let rows := (columns.map List.length).foldl max 0
  for row in List.range rows do
    put (joinedBy ds (columns.map fun column => (column[row]?).getD "") ++ mark.toString)
  return status

end ScriptLang.Shell.Tool
