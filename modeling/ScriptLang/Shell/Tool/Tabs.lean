import ScriptLang.Shell.Tool

/-!
# Breaking lines and filling tabs

`fold` breaks lines that are too long, `expand` writes blanks instead of tabs, and `unexpand` tabs
instead of blanks.

## Main definitions

* `TabStops`, `TabStops.next?` — the columns at which tabs end
* `runFold`, `runExpand`, `runUnexpand` — the programs of these names
-/

namespace ScriptLang.Shell.Tool

/-! ### Breaking lines -/

/-- The column behind a character. -/
def columnAfter (column : Nat) (c : Char) (bytes : Bool) : Nat :=
  if bytes then column + 1
  else if c = '\x08' then column - 1
  else if c = '\r' then 0
  else if c = '\t' then (column / 8 + 1) * 8
  else column + 1

/-- The width of characters from the first column on. -/
def columnsOf (cs : List Char) (bytes : Bool) : Nat :=
  cs.foldl (fun n c => columnAfter n c bytes) 0

/-- The lines into which a line is broken; the line under way comes last character first. -/
def foldLine (width : Nat) (spaces bytes : Bool) : Nat → List Char → List Char → List String
  | 0, line, _ => [String.ofList line.reverse]
  | _, line, [] => [String.ofList line.reverse]
  | n + 1, line, c :: rest =>
    let column := columnsOf line.reverse bytes
    if columnAfter column c bytes ≤ width ∨ line = [] then
      foldLine width spaces bytes n (c :: line) rest
    else
      let tail := line.takeWhile fun c => c != ' ' && c != '\t'
      if spaces ∧ tail.length < line.length then
        String.ofList (line.drop tail.length).reverse ::
          foldLine width spaces bytes n [] (tail.reverse ++ c :: rest)
      else String.ofList line.reverse :: foldLine width spaces bytes n [c] rest

/-- Options of which a number alone is one. -/
def withNumbers (short : String) : String :=
  short ++ "0::1::2::3::4::5::6::7::8::9::"

/-- The argument that a number alone writes, as an option. -/
def numberAlone? (option : String × String) : Option String :=
  if option.1.toList.all Char.isDigit then some (option.1 ++ option.2) else none

/-- `fold`: breaks lines that are too long. -/
def runFold : Tool := fun _ name args =>
  withOptions
    { short := withNumbers "bsw:", long := [("bytes", "b"), ("spaces", "s"), ("width=", "w")] }
    name args fun found operands => do
  let widths := found.filterMap fun o => if o.1 = "w" then some o.2 else numberAlone? o
  match ← numberWithin name "number of columns" (widths.getLast?.getD "80") 1
      (0xffffffffffffffff - 9) with
  | .error status => return status
  | .ok width =>
    forInputs name operands fun _ content => do
      let (lines, ended) := splitLines content.toList
      for (line, i) in lines.zipIdx do
        let pieces := foldLine width.toNat (has found "s") (has found "b")
          (line.length * (line.length + 2) + 2) [] line.toList
        let close := if ended ∨ i + 1 < lines.length then "\n" else ""
        put ("\n".intercalate pieces ++ close)

/-! ### Tab stops -/

/-- How tabs go on behind the last column that is listed. -/
inductive TabTail where
  /-- Each tab is one blank. -/
  | none
  /-- To multiples of a number. -/
  | multiples (size : Nat)
  /-- In steps from the last column that is listed. -/
  | steps (size : Nat)

/-- The columns at which tabs end. -/
structure TabStops where
  columns : List Nat := []
  tail : TabTail := .none

namespace TabStops

/-- The column at which a tab ends; none if there are no more stops. -/
def next? (t : TabStops) (column : Nat) : Option Nat :=
  let multiple (size : Nat) : Option Nat := some (column + (size - column % size))
  match t.columns, t.tail with
  | [], .none => multiple 8
  | [], .multiples size | [], .steps size => multiple size
  | [size], .none => multiple size
  | columns, tail =>
    match columns.find? (column < ·), tail with
    | some stop, _ => some stop
    | none, .none => none
    | none, .multiples size => multiple size
    | none, .steps size =>
      some (column + (size - (column - columns.getLast?.getD 0) % size))

/-- What is wrong with some stops. -/
def problem? (t : TabStops) : Option String :=
  if t.columns.contains 0 then some "tab size cannot be 0"
  else if (t.columns.zip t.columns.tail).any fun (a, b) => b ≤ a then
    some "tab sizes must be ascending"
  else none

end TabStops

/-- A list of stops while it is read. -/
structure TabReading where
  stops : TabStops := {}
  /-- The digits of the number that is being read. -/
  digits : List Char := []
  /-- The mark in front of the number. -/
  mark : Option Char := none
  problems : List String := []

namespace TabReading

/-- Takes the number that has been read. -/
def finished (r : TabReading) : TabReading :=
  let value := valueOf 10 r.digits.reverse
  let bare := { r with digits := [] }
  let wrong (problem : String) : TabReading := { bare with problems := r.problems ++ [problem] }
  let last (c : Char) : String :=
    "'" ++ c.toString ++ "' specifier only allowed with the last value"
  let both := "'/' specifier is mutually exclusive with '+'"
  if r.digits = [] then r
  else
    match r.mark, r.stops.tail with
    | none, _ => { bare with stops := { r.stops with columns := r.stops.columns ++ [value] } }
    | some '/', .none =>
      if value = 0 then bare else { bare with stops := { r.stops with tail := .multiples value } }
    | some _, .none =>
      if value = 0 then bare else { bare with stops := { r.stops with tail := .steps value } }
    | some '/', .multiples _ => wrong (last '/')
    | some '+', .steps _ => wrong (last '+')
    | some _, _ => wrong both

/-- Reads the rest of a list of stops. -/
def readFrom (r : TabReading) : List Char → TabReading
  | [] => if r.problems = [] then r.finished else r
  | c :: rest =>
    if c = ',' ∨ c = ' ' ∨ c = '\t' then readFrom { r.finished with digits := [] } rest
    else if c = '/' ∨ c = '+' then
      let problems := if r.digits = [] then r.problems
        else r.problems ++ ["'" ++ c.toString ++ "' specifier not at start of number: " ++
          quotedName (String.ofList (c :: rest))]
      readFrom { r with mark := some c, problems } rest
    else if c.isDigit then readFrom { r with digits := c :: r.digits } rest
    else
      { r with
        problems := r.problems ++ ["tab size contains invalid character(s): " ++
          quotedName (String.ofList (c :: rest))] }

end TabReading

/-- The stops that some lists write, or the status of complaints. -/
def tabStops (name : String) (lists : List String) : Action (Except Nat TabStops) := do
  let mut stops : TabStops := {}
  for list in lists do
    let r := ({ stops : TabReading }).readFrom list.toList
    for problem in r.problems do
      complain name problem
    if r.problems ≠ [] then return .error 1
    stops := r.stops
  match stops.problem? with
  | some problem => return .error (← refuse name problem)
  | none => return .ok stops

/-- The options of a program that knows about tabs; a number alone lists stops. -/
def tabOptions (long : List (String × String)) (short : String) : OptionTable :=
  { short := withNumbers (short ++ "t:"), long := ("tabs=", "t") :: long }

/-- The lists of stops among some options. -/
def tabLists (found : List (String × String)) : List String :=
  found.filterMap fun o => if o.1 = "t" then some o.2 else numberAlone? o

/-! ### Blanks and tabs -/

/-- A line with its tabs filled; `initial` says that only those at its start are. -/
def expandedLine (stops : TabStops) (initial : Bool) (line : String) : String :=
  let step (s : List Char × Nat × Bool) (c : Char) : List Char × Nat × Bool :=
    let (out, column, converts) := s
    if !converts then (c :: out, column, false)
    else if c = '\t' then
      let next := (stops.next? column).getD (column + 1)
      (List.replicate (next - column) ' ' ++ out, next, true)
    else if c = '\x08' then (c :: out, column - 1, !initial)
    else (c :: out, column + 1, !initial || c == ' ')
  String.ofList (line.toList.foldl step ([], 0, true)).1.reverse

/-- `expand`: blanks instead of tabs. -/
def runExpand : Tool := fun _ name args =>
  withOptions (tabOptions [("initial", "i")] "i") name args fun found operands => do
  match ← tabStops name (tabLists found) with
  | .error status => return status
  | .ok stops =>
    forInputs name operands fun _ content => do
      let (lines, ended) := splitLines content.toList
      let text := "\n".intercalate (lines.map (expandedLine stops (has found "i")))
      put (text ++ if ended ∧ lines ≠ [] then "\n" else "")

/-- A line while its blanks are replaced. -/
structure BlankState where
  /-- What has been written, last character first. -/
  out : List Char := []
  column : Nat := 0
  /-- The blanks that have not been written yet. -/
  pending : List Char := []
  /-- Whether the first of them came just before a stop. -/
  single : Bool := false
  /-- Whether the last character was a blank; the start of a line counts as one. -/
  blank : Bool := true
  /-- Whether blanks are still replaced. -/
  converts : Bool := true

namespace BlankState

/-- Writes the pending blanks and a character. -/
def flushed (s : BlankState) (c : Char) : BlankState :=
  let pending := if 1 < s.pending.length ∧ s.single then '\t' :: s.pending.drop 1 else s.pending
  { s with
    out := c :: (pending.reverse ++ s.out)
    pending := []
    single := s.single && s.pending.isEmpty }

/-- Goes over a character. -/
def step (stops : TabStops) (all : Bool) (s : BlankState) (c : Char) : BlankState :=
  if !s.converts then { s with out := c :: s.out }
  else if c = ' ' ∨ c = '\t' then
    match stops.next? s.column with
    | none => { s.flushed c with blank := true, converts := false }
    | some stop =>
      if c = '\t' then
        -- A tab swallows the blanks before it, but for one just before a stop.
        let first := if s.single then ['\t'] else []
        { ({ s with column := stop, pending := first }).flushed c with blank := true }
      else if s.blank ∧ s.column + 1 = stop then
        let first := if s.single then ['\t'] else []
        { ({ s with column := stop, pending := first }).flushed '\t' with blank := true }
      else
        { s with
          column := s.column + 1
          single := s.single || s.column + 1 == stop
          pending := s.pending ++ [c]
          blank := true }
  else
    let column := if c = '\x08' then s.column - 1 else s.column + 1
    { ({ s with column }).flushed c with blank := false, converts := all }

end BlankState

/-- A line with tabs for the blanks before the stops; `all` says that not only those at its start
are replaced. -/
def unexpandedLine (stops : TabStops) (all : Bool) (line : String) : String :=
  let s := line.toList.foldl (BlankState.step stops all) {}
  let pending := if 1 < s.pending.length ∧ s.single then '\t' :: s.pending.drop 1 else s.pending
  String.ofList (pending.reverse ++ s.out).reverse

/-- `unexpand`: tabs instead of blanks. -/
def runUnexpand : Tool := fun _ name args =>
  withOptions (tabOptions [("all", "a"), ("first-only", "f")] "a") name args
    fun found operands => do
  match ← tabStops name (tabLists found) with
  | .error status => return status
  | .ok stops =>
    let all := (has found "a" || has found "t") && !has found "f"
    forInputs name operands fun _ content => do
      let (lines, ended) := splitLines content.toList
      let text := "\n".intercalate (lines.map (unexpandedLine stops all))
      put (text ++ if ended ∧ lines ≠ [] then "\n" else "")

end ScriptLang.Shell.Tool
