import ScriptLang.Shell.Tool

/-!
# Showing files

`cat` copies its inputs to the output, `tac` turns the order of lines round, and `rev` the order of
characters in each line.

## Main definitions

* `runCat`, `runTac`, `runRev` — the programs of these names
-/

namespace ScriptLang.Shell.Tool

/-- How `cat` shows its inputs. -/
structure Showing where
  numbered : Bool := false
  /-- Whether only lines that are not empty are numbered. -/
  sparse : Bool := false
  squeezed : Bool := false
  ends : Bool := false
  tabs : Bool := false
  marks : Bool := false

/-- A character made visible. -/
def visible (s : Showing) (c : Char) : String :=
  let n := c.toNat
  let plain (n : Nat) : String :=
    if n < 32 then "^" ++ (Char.ofNat (n + 64)).toString
    else if n = 127 then "^?"
    else (Char.ofNat n).toString
  if c = '\t' then if s.tabs then "^I" else "\t"
  else if !s.marks then c.toString
  else if n < 128 then plain n
  else "M-" ++ plain (n - 128)

/-- Where `cat` is in its output. -/
structure ShowState where
  number : Nat := 0
  /-- How many empty lines have just been written. -/
  empty : Nat := 0
  /-- Whether the next character begins a line. -/
  fresh : Bool := true

/-- The text of a line as `cat` shows it. -/
def showLine (s : Showing) (line : String) (ended : Bool) (t : ShowState) : String × ShowState :=
  let isEmpty := line == "" && t.fresh && ended
  if s.squeezed ∧ isEmpty ∧ 0 < t.empty then ("", { t with empty := t.empty + 1 })
  else
    let counts := t.fresh && (s.numbered || s.sparse) && !(s.sparse && isEmpty)
    let number := if counts then t.number + 1 else t.number
    let start := if counts then paddedLeft 6 (toString number) ++ "\t" else ""
    let body := String.join (line.toList.map (visible s))
    let close := if ended then (if s.ends then "$" else "") ++ "\n" else ""
    (start ++ body ++ close,
      { number, empty := if isEmpty then t.empty + 1 else 0, fresh := ended })

/-- `cat`: copies its inputs to the output. -/
def runCat : Tool := fun _ name args =>
  withOptions
    { short := "benstuvAET"
      long := [("number-nonblank", "b"), ("number", "n"), ("squeeze-blank", "s"),
        ("show-nonprinting", "v"), ("show-ends", "E"), ("show-tabs", "T"), ("show-all", "A")] }
    name args fun found operands => do
  let all := has found "A"
  let showing : Showing :=
    { numbered := has found "n", sparse := has found "b", squeezed := has found "s"
      ends := all || has found "E" || has found "e", tabs := all || has found "T" || has found "t"
      marks := all || has found "v" || has found "e" || has found "t" }
  let isPlain := !(showing.numbered || showing.sparse || showing.squeezed || showing.ends ||
    showing.tabs || showing.marks)
  let mut status := 0
  let mut state : ShowState := {}
  for operand in inputs operands do
    match ← inputFrom operand with
    | .error e =>
      complain name (fileName operand ++ ": " ++ e.reason)
      status := 1
    | .ok content =>
      if isPlain then put content
      else
        let (lines, ended) := splitLines content.toList
        for (line, i) in lines.zipIdx do
          let (text, next) := showLine showing line (ended || i + 1 < lines.length) state
          state := next
          put text
  return status

/-- The records of a text, each with the separator that belongs to it: the one behind it, or the one
before it. -/
def records (separator content : String) (leading : Bool) : List String :=
  match (content.splitOn separator).reverse with
  | [] => []
  | last :: earlier =>
    if leading then
      match (last :: earlier).reverse with
      | first :: later => (first :: later.map (separator ++ ·)).filter (· != "")
      | [] => []
    else (earlier.reverse.map (· ++ separator)) ++ (if last = "" then [] else [last])

/-- `tac`: writes the lines of its inputs, last one first. -/
def runTac : Tool := fun _ name args =>
  withOptions
    { short := "bs:", long := [("before", "b"), ("separator=", "s")] }
    name args fun found operands => do
  let separator := match argument? found "s" with
    | some "" => "\x00"
    | some text => text
    | none => "\n"
  let mut status := 0
  for operand in inputs operands do
    match ← inputFrom operand with
    | .ok content => put (String.join (records separator content (has found "b")).reverse)
    | .error e =>
      if e = .isDirectory then
        complain name (fileName operand ++ ": read error: Invalid argument")
      else
        complain name ("failed to open " ++ quotedName operand ++ " for reading: " ++ e.reason)
      status := 1
  return status

/-- `rev`: writes every line with its characters in reverse. -/
def runRev : Tool := fun _ name args =>
  withOptions { short := "" } name args fun _ operands => do
  let mut status := 0
  for operand in inputs operands do
    match ← inputFrom operand with
    | .ok content =>
      let (lines, ended) := splitLines content.toList
      let reversed := lines.map fun line => ofText (String.ofList (toText line).toList.reverse)
      put ("\n".intercalate reversed ++ if ended ∧ lines ≠ [] then "\n" else "")
    | .error e =>
      let what := if e = .isDirectory then "" else "cannot open "
      complain name (what ++ operand ++ ": " ++ e.reason)
      status := 1
  return status

end ScriptLang.Shell.Tool
