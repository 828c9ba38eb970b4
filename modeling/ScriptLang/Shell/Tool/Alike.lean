import ScriptLang.Shell.Tool.Sort

/-!
# Lines that are alike

`uniq` looks at lines that are alike and stand together, and `comm` tells which lines two files in
order have in common.

## Main definitions

* `groups` — lines that are alike and stand together
* `Comparison` — the state of `comm` between two lines
* `runUniq`, `runComm` — the programs of these names
-/

namespace ScriptLang.Shell.Tool

/-! ### Lines that stand together -/

/-- Lines that are alike and stand together. -/
def groups (alike : String → String → Bool) (lines : List String) : List (List String) :=
  lines.foldr (fun line gs => match gs with
    | (first :: same) :: later =>
      if alike line first then (line :: first :: same) :: later else [line] :: gs
    | gs => [line] :: gs) []

/-- Where empty lines set groups apart. -/
structure GroupMarks where
  before : Bool := false
  between : Bool := false
  behind : Bool := false

/-- Groups as lines, with empty lines between them. -/
def markedGroups (m : GroupMarks) (gs : List (List String)) : List String :=
  let start (i : Nat) : List String := if m.before ∨ (m.between ∧ 0 < i) then [""] else []
  (gs.zipIdx.flatMap fun (g, i) => start i ++ g) ++ (if m.behind ∧ gs ≠ [] then [""] else [])

/-- The empty lines that a method asks for. -/
def groupMarks (method : String) : GroupMarks :=
  match method with
  | "prepend" => { before := true }
  | "append" => { between := true, behind := true }
  | "both" => { before := true, behind := true }
  | "separate" => { between := true }
  | _ => {}

/-- Which lines of a group are written: all but the last one if later ones are asked for, and one
line that stands for the group. -/
def chosenLines (found : List (String × String)) (g : List String) : List String :=
  let later := has found "D"
  let stands := if g.length ≤ 1 then !has found "d" && !later else !has found "u"
  let one := if later then g.getLast? else g.head?
  (if later then g.dropLast else []) ++ (if stands then one.toList else [])

/-- The arguments that a number alone stands for: fields to skip, or characters to skip. -/
def uniqShorthand (args : List String) : List String :=
  args.map fun arg =>
    match arg.toList with
    | '-' :: d :: ds =>
      if (d :: ds).all Char.isDigit then "-f" ++ String.ofList (d :: ds) else arg
    | '+' :: d :: ds =>
      if (d :: ds).all Char.isDigit then "-s" ++ String.ofList (d :: ds) else arg
    | _ => arg

/-- What a line is compared by. -/
def uniqKey (fields chars : Nat) (limit : Option Nat) (ignoreCase : Bool) (line : String) :
    List Char :=
  let cs := (fieldStart none fields line.toList).drop chars
  let cs := match limit with
    | some n => cs.take n
    | none => cs
  if ignoreCase then cs.map lowered else cs

/-- `uniq`: one line for lines that are alike and stand together. -/
def runUniq : Tool := fun _ name args =>
  withOptions
    { short := "cdDif:s:uw:z"
      long := [("count", "c"), ("repeated", "d"), ("all-repeated?", "D"), ("group?", "group"),
        ("ignore-case", "i"), ("skip-fields=", "f"), ("skip-chars=", "s"), ("unique", "u"),
        ("check-chars=", "w"), ("zero-terminated", "z")] }
    name (uniqShorthand args) fun found operands => do
  let mut marks : GroupMarks := {}
  for (key, text) in found do
    if key = "D" ∧ text ≠ "" then
      match ← wordChosen name "--all-repeated" text [["none"], ["prepend"], ["separate"]] with
      | .ok word => marks := groupMarks word
      | .error status => return status
    if key = "group" then
      match ← wordChosen name "--group" (if text = "" then "separate" else text)
          [["prepend"], ["append"], ["separate"], ["both"]] with
      | .ok word => marks := groupMarks word
      | .error status => return status
  for (key, what) in [("f", "fields to skip"), ("s", "bytes to skip"), ("w", "bytes to compare")] do
    if let some text := argument? found key then
      if (wholeNumber? text false).isNone then
        return ← refuse name (text ++ ": invalid number of " ++ what)
  if let third :: _ := operands.drop 2 then
    return ← misused name ("extra operand " ++ quotedName third)
  if has found "group" ∧ found.any (fun o => o.1 ∈ ["c", "d", "D", "u"]) then
    return ← misused name "--group is mutually exclusive with -c/-d/-D/-u"
  if has found "D" ∧ has found "c" then
    return ← misused name "printing all duplicated lines and repeat counts is meaningless"
  let number (key : String) : Option Nat :=
    ((argument? found key).bind fun text => wholeNumber? text false).map Int.toNat
  let key := uniqKey ((number "f").getD 0) ((number "s").getD 0) (number "w") (has found "i")
  let mark := lineMark found
  match ← inputFrom (operands.headD "-") with
  | .error e =>
    let text := if e = .isDirectory then "error reading " ++ quotedName (operands.headD "-")
      else fileName (operands.headD "-")
    refuse name (text ++ ": " ++ e.reason)
  | .ok content =>
    let gs := groups (fun a b => key a == key b) (splitEnded mark content.toList).1
    let counted (g : List String) : List String :=
      (chosenLines found g).map fun line =>
        if has found "c" then paddedLeft 7 (toString g.length) ++ " " ++ line else line
    let shown := if has found "group" then gs else (gs.map counted).filter (· ≠ [])
    let text := endedBy mark (markedGroups marks shown)
    match operands.drop 1 with
    | [] | ["-"] =>
      put text
      return 0
    | path :: _ =>
      match ← writeFile path text with
      | .ok _ => return 0
      | .error e => refuse name (fileName path ++ ": " ++ e.reason)

/-! ### Lines in common -/

/-- Whether files are checked to be in order. -/
inductive OrderCheck where
  | always
  /-- Only if there are lines that the other file does not have. -/
  | unpaired
  | never
  deriving DecidableEq

/-- The check that options ask for. -/
def orderCheck (found : List (String × String)) : OrderCheck :=
  match found.reverse.find? fun o => o.1 == "check" || o.1 == "nocheck" with
  | some ("check", _) => .always
  | some _ => .never
  | none => .unpaired

/-- One of the two files of a comparison. -/
structure OrderedFile where
  /-- The lines that have been read, last one first. -/
  read : List String := []
  /-- The lines from the present one on. -/
  rest : List String
  /-- Whether it has been found out of order. -/
  disordered : Bool := false

/-- The state of `comm` between two lines. -/
structure Comparison where
  first : OrderedFile
  second : OrderedFile
  /-- Whether a line has been seen that only one file has. -/
  unpaired : Bool := false
  /-- How many lines only the first file has, only the second, and both. -/
  totals : Nat × Nat × Nat := (0, 0, 0)

/-- Goes to the next line of a file; true if it turns out that the file is out of order. -/
def OrderedFile.advance (f : OrderedFile) (checks : Bool) : OrderedFile × Bool :=
  match f.rest with
  | [] => (f, false)
  | line :: rest =>
    -- At the end, the last two lines are looked at once more.
    let wrong := match rest, f.read with
      | next :: _, _ => before next line
      | [], last :: _ => before line last
      | [], [] => false
    let found := checks && wrong && !f.disordered
    ({ read := line :: f.read, rest, disordered := f.disordered || found }, found)

/-- Compares the present lines, and goes on behind them; the columns say what is written before a
line that is in the first file, the second, or both. -/
def compareLines (name : String) (check : OrderCheck) (mark : Char)
    (columns : List (Option String)) :
    Nat → Comparison → Action (Comparison × Nat)
  | 0, s => return (s, 0)
  | n + 1, s => do
    let write (column : Nat) (line : String) : Action Unit :=
      match columns[column]? with
      | some (some start) => put (start ++ line ++ mark.toString)
      | _ => return
    let order : Option Ordering := match s.first.rest, s.second.rest with
      | [], [] => none
      | [], _ => some .gt
      | _, [] => some .lt
      | a :: _, b :: _ => some (if a = b then .eq else if before a b then .lt else .gt)
    let (one, two, both) := s.totals
    match order with
    | none => return (s, 0)
    | some order =>
      let s ← match order with
        | .eq =>
          write 2 (s.second.rest.headD "")
          pure { s with totals := (one, two, both + 1) }
        | .lt =>
          write 0 (s.first.rest.headD "")
          pure { s with unpaired := true, totals := (one + 1, two, both) }
        | .gt =>
          write 1 (s.second.rest.headD "")
          pure { s with unpaired := true, totals := (one, two + 1, both) }
      let checks := check == .always || (check == .unpaired && s.unpaired)
      let (first, wrong₁) := if order = .gt then (s.first, false) else s.first.advance checks
      if wrong₁ then complain name "file 1 is not in sorted order"
      if wrong₁ ∧ check = .always then return (s, 1)
      let (second, wrong₂) := if order = .lt then (s.second, false) else s.second.advance checks
      if wrong₂ then complain name "file 2 is not in sorted order"
      if wrong₂ ∧ check = .always then return (s, 1)
      compareLines name check mark columns n { s with first, second }

/-- `comm`: which lines two files in order have alone, and which they have in common. -/
def runComm : Tool := fun _ name args =>
  withOptions
    { short := "123z"
      long := [("check-order", "check"), ("nocheck-order", "nocheck"),
        ("output-delimiter=", "between"), ("total", "total"), ("zero-terminated", "z")] }
    name args fun found operands => do
  let delimiters := (found.filter (·.1 == "between")).map Prod.snd
  if 1 < delimiters.eraseDups.length then
    return ← refuse name "multiple output delimiters specified"
  match operands with
  | [] => misused name "missing operand"
  | [one] => misused name ("missing operand after " ++ quotedName one)
  | [one, two] =>
    let tab := match delimiters.head? with
      | some "" => "\x00"
      | some text => text
      | none => "\t"
    let start₂ := if has found "1" then "" else tab
    let start₃ := start₂ ++ (if has found "2" then "" else tab)
    let column (option start : String) : Option String :=
      if has found option then none else some start
    match ← inputFrom one, ← inputFrom two with
    | .error e, _ => refuse name (fileName one ++ ": " ++ e.reason)
    | _, .error e => refuse name (fileName two ++ ": " ++ e.reason)
    | .ok a, .ok b =>
      let mark := lineMark found
      let s := (splitEnded mark a.toList).1
      let t := (splitEnded mark b.toList).1
      let (result, status) ← compareLines name (orderCheck found) mark
        [column "1" "", column "2" start₂, column "3" start₃] (s.length + t.length + 1)
        { first := { rest := s }, second := { rest := t } }
      if status ≠ 0 then return status
      if has found "total" then
        let (one, two, both) := result.totals
        put (tab.intercalate [toString one, toString two, toString both, "total"] ++ mark.toString)
      if result.first.disordered ∨ result.second.disordered then
        return ← refuse name "input is not in sorted order"
      return 0
  | _ :: _ :: third :: _ => misused name ("extra operand " ++ quotedName third)

end ScriptLang.Shell.Tool
