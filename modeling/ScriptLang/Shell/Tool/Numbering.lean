import ScriptLang.Shell.Regex.Read
import ScriptLang.Shell.Tool

/-!
# Numbering lines

`nl` numbers the lines of its inputs.  An input is a sequence of pages, and a page has a header, a
body and a footer; lines of their own tell where each begins.

## Main definitions

* `NumberStyle` — which lines of a section are numbered
* `PageLayout` — how sections begin and numbers are written
* `runNl` — the program of this name
-/

namespace ScriptLang.Shell.Tool

/-- Which lines of a section are numbered. -/
inductive NumberStyle where
  | all
  | nonempty
  | none
  | found (pattern : Regex)

/-- The sections of a page. -/
inductive Section where
  | header
  | body
  | footer
  deriving DecidableEq

/-- Where a number stands in its column. -/
inductive NumberColumn where
  | left
  | right
  | zeros

/-- How lines are numbered. -/
structure PageLayout where
  style : Section → NumberStyle
  /-- What the lines that begin sections are made of. -/
  delimiter : String := "\\:"
  first : Int := 1
  step : Int := 1
  /-- Of how many empty lines the last one is numbered, where all lines are. -/
  blanks : Nat := 1
  column : NumberColumn := .right
  width : Nat := 6
  separator : String := "\t"
  /-- Whether numbers go on from one section to the next. -/
  running : Bool := false

namespace PageLayout

/-- The section that a line begins. -/
def section? (l : PageLayout) (line : String) : Option Section :=
  let d := l.delimiter
  if d = "" then none
  else if line = d ++ d ++ d then some .header
  else if line = d ++ d then some .body
  else if line = d then some .footer
  else none

/-- A number in its column. -/
def number (l : PageLayout) (n : Int) : String :=
  let digits := toString n.natAbs
  let sign := if n < 0 then "-" else ""
  match l.column with
  | .left => paddedRight l.width (sign ++ digits)
  | .right => paddedLeft l.width (sign ++ digits)
  | .zeros =>
    sign ++ String.ofList (List.replicate (l.width - sign.length - digits.length) '0') ++ digits

end PageLayout

/-- Where `nl` is in its input. -/
structure NumberingState where
  place : Section := .body
  next : Int
  /-- How many empty lines have gone without a number. -/
  skipped : Nat := 0

/-- A line as `nl` writes it. -/
def numberedLine (l : PageLayout) (s : NumberingState) (line : String) :
    String × NumberingState :=
  match l.section? line with
  | some place => ("\n", { s with place, next := if l.running then s.next else l.first })
  | none =>
    let plain := paddedLeft (l.width + l.separator.length) "" ++ line ++ "\n"
    let counted := l.number s.next ++ l.separator ++ line ++ "\n"
    let next := s.next + l.step
    match l.style s.place with
    | .none => (plain, s)
    | .nonempty => if line = "" then (plain, s) else (counted, { s with next })
    | .found pattern =>
      if pattern.isIn { text := line.toList.toArray } then (counted, { s with next })
      else (plain, s)
    | .all =>
      if line ≠ "" ∨ l.blanks ≤ s.skipped + 1 then (counted, { s with next, skipped := 0 })
      else (plain, { s with skipped := s.skipped + 1 })

/-- The style that an argument names, or what is wrong with it. -/
def numberStyle? (what text : String) : Except String NumberStyle :=
  match text.toList with
  | ['a'] => .ok .all
  | ['t'] => .ok .nonempty
  | ['n'] => .ok .none
  | 'p' :: pattern =>
    match Regex.read { extended := false } (String.ofList pattern) with
    | .ok (r, _) => .ok (.found r)
    | .error e => .error e.message
  | _ => .error ("invalid " ++ what ++ " numbering style: " ++ quotedName text)

/-- The layout with one option added, or the status of a complaint; the flag tells whether the use
of the program has to be shown. -/
def addLayoutOption (name : String) (l : PageLayout) (key text : String) :
    Action (Except Nat (PageLayout × Bool)) := do
  let styled (what : String) (place : Section) : Action (Except Nat (PageLayout × Bool)) := do
    match numberStyle? what text with
    | .ok style =>
      let styles (s : Section) : NumberStyle := if s = place then style else l.style s
      return .ok ({ l with style := styles }, false)
    | .error problem =>
      complain name problem
      return if text.startsWith "p" then .error 1 else .ok (l, true)
  let sized (what : String) (least most : Int) (signed : Bool) (set : Int → PageLayout) :
      Action (Except Nat (PageLayout × Bool)) := do
    match ← numberWithin name what text least most signed with
    | .ok n => return .ok (set n, false)
    | .error status => return .error status
  let largest : Int := 0x7fffffffffffffff
  match key with
  | "b" => styled "body" .body
  | "h" => styled "header" .header
  | "f" => styled "footer" .footer
  | "v" => sized "starting line number" (-largest - 1) largest true fun n => { l with first := n }
  | "i" => sized "line number increment" (-largest - 1) largest true fun n => { l with step := n }
  | "l" => sized "line number of blank lines" 1 largest true fun n => { l with blanks := n.toNat }
  | "w" => sized "line number field width" 1 0x7fffffff true fun n => { l with width := n.toNat }
  | "s" => return .ok ({ l with separator := text }, false)
  | "d" =>
    return .ok ({ l with delimiter := if text.length = 1 then text ++ ":" else text }, false)
  | "p" => return .ok ({ l with running := true }, false)
  | "n" =>
    match text with
    | "ln" => return .ok ({ l with column := .left }, false)
    | "rn" => return .ok ({ l with column := .right }, false)
    | "rz" => return .ok ({ l with column := .zeros }, false)
    | _ =>
      complain name ("invalid line numbering format: " ++ quotedName text)
      return .ok (l, true)
  | _ => return .ok (l, false)

/-- `nl`: numbers lines. -/
def runNl : Tool := fun _ name args =>
  withOptions
    { short := "b:h:f:i:n:s:v:w:l:d:p"
      long := [("body-numbering=", "b"), ("footer-numbering=", "f"), ("header-numbering=", "h"),
        ("join-blank-lines=", "l"), ("line-increment=", "i"), ("no-renumber", "p"),
        ("number-format=", "n"), ("number-separator=", "s"), ("number-width=", "w"),
        ("section-delimiter=", "d"), ("starting-line-number=", "v")] }
    name args fun found operands => do
  let mut layout : PageLayout := { style := fun s => if s = .body then .nonempty else .none }
  let mut unclear := false
  for (key, text) in found do
    match ← addLayoutOption name layout key text with
    | .error status => return status
    | .ok (next, problem) =>
      layout := next
      unclear := unclear || problem
  if unclear then
    warn ("Try '" ++ name ++ " --help' for more information.\n")
    return 1
  let mut status := 0
  let mut state : NumberingState := { next := layout.first }
  for operand in inputs operands do
    match ← inputFrom operand with
    | .error e =>
      complain name (fileName operand ++ ": " ++ e.reason)
      status := 1
    | .ok content =>
      for line in linesOf content do
        let (text, next) := numberedLine layout state line
        state := next
        put text
  return status

end ScriptLang.Shell.Tool
