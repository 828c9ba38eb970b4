import ScriptLang.Shell.Regex

/-!
# How regular expressions are written

There are two ways to write a regular expression.  In the basic one, parentheses and braces stand
for themselves unless a backslash stands before them; in the extended one it is the other way
round.

## Main definitions

* `Dialect` — what may be written how
* `RegexError` — what may be wrong
* `Regex.read` — the expression that a string writes
-/

namespace ScriptLang.Shell

/-- How an expression is written. -/
structure Dialect where
  /-- Whether parentheses, braces and bars need no backslash. -/
  extended : Bool
  /-- Whether what makes no sense stands for itself. -/
  lenient : Bool := false
  /-- Whether escapes such as `\n` stand for control characters. -/
  escapes : Bool := false
  /-- Whether `\d` stands for digits, and `(?:` opens a group that is not counted. -/
  wide : Bool := false

/-- What may be wrong with an expression. -/
inductive RegexError where
  | openGroup
  | closedGroup
  | openBracket
  | openBrace
  | badBrace
  | badCounts
  | tooBig
  | nothingToRepeat
  | unknownGroup
  | trailingBackslash
  | unknownClass
  | badRange
  | bareClass

/-- What is said about a wrong expression. -/
def RegexError.message : RegexError → String
  | openGroup => "Unmatched ( or \\("
  | closedGroup => "Unmatched ) or \\)"
  | openBracket => "Unmatched [, [^, [:, [., or [="
  | openBrace => "Unmatched \\\x7b"
  | badBrace | badCounts => "Invalid content of \\\x7b\\\x7d"
  | tooBig => "Regular expression too big"
  | nothingToRepeat => "Invalid preceding regular expression"
  | unknownGroup => "Invalid back reference"
  | trailingBackslash => "Trailing backslash"
  | unknownClass => "Invalid character class name"
  | badRange => "Invalid range end"
  | bareClass => "character class syntax is [[:space:]], not [:space:]"

namespace Regex

/-! ### Brackets -/

/-- The character for which a letter behind a backslash stands. -/
def controlChar? (c : Char) : Option Char :=
  match c with
  | 'n' => some '\n'
  | 't' => some '\t'
  | 'r' => some '\r'
  | 'f' => some '\x0c'
  | 'v' => some '\x0b'
  | 'a' => some '\x07'
  | _ => none

/-- A character in a bracket, in its own notation or not, and what follows. -/
def bracketChar (d : Dialect) : List Char → Except RegexError (Char × List Char)
  | '[' :: '.' :: c :: '.' :: ']' :: rest => .ok (c, rest)
  | '[' :: '=' :: c :: '=' :: ']' :: rest => .ok (c, rest)
  | '\\' :: c :: rest =>
    match if d.escapes then controlChar? c else none with
    | some control => .ok (control, rest)
    | none => .ok ('\\', c :: rest)
  | c :: rest => .ok (c, rest)
  | [] => .error .openBracket

/-- The ranges of a bracket up to its end, and what follows. -/
def bracketRanges (d : Dialect) : Nat → Bool → List Char →
    Except RegexError (List CharRange × List Char)
  | 0, _, _ | _, _, [] => .error .openBracket
  | n + 1, first, cs =>
    let add (r : CharRange) (rest : List Char) : Except RegexError (List CharRange × List Char) :=
      (bracketRanges d n false rest).map fun (rs, rest) => (r :: rs, rest)
    match cs with
    | ']' :: rest => if first then single ']' rest n add else .ok ([], rest)
    | '[' :: ':' :: rest =>
      let name := rest.takeWhile (· != ':')
      match rest.drop name.length with
      | ':' :: ']' :: rest =>
        let name := String.ofList name
        if (classTest? name).isSome then add (.named name) rest else .error .unknownClass
      | _ => .error .openBracket
    | cs =>
      match bracketChar d cs with
      | .ok (c, rest) => single c rest n add
      | .error e => .error e
where
  /-- A character, or a range if a minus sign and another character follow. -/
  single (c : Char) (rest : List Char) (_n : Nat)
      (add : CharRange → List Char → Except RegexError (List CharRange × List Char)) :
      Except RegexError (List CharRange × List Char) :=
    match rest with
    | '-' :: ']' :: _ => add (.between c c) rest
    | '-' :: later =>
      match bracketChar d later with
      | .ok (last, rest) => if c ≤ last then add (.between c last) rest else .error .badRange
      | .error e => .error e
    | _ => add (.between c c) rest

/-- A bracket behind its first sign, and what follows. -/
def bracket (d : Dialect) (cs : List Char) : Except RegexError (Regex × List Char) :=
  let (negated, inner) : Bool × List Char := match cs with
    | '^' :: inner => (true, inner)
    | inner => (false, inner)
  match bracketRanges d (inner.length + 1) true inner with
  | .error e => .error e
  | .ok (ranges, rest) =>
    let written := cs.take (cs.length - rest.length)
    match written with
    | ':' :: name =>
      -- A class needs two brackets.
      match name.reverse with
      | ']' :: ':' :: _ :: _ =>
        if d.lenient then .error .bareClass else .ok (oneOf negated ranges, rest)
      | _ => .ok (oneOf negated ranges, rest)
    | _ => .ok (oneOf negated ranges, rest)

/-! ### Counts -/

/-- The counts in braces, and what follows them. -/
def counts (d : Dialect) (cs : List Char) :
    Except RegexError ((Nat × Option Nat) × List Char) :=
  let low := cs.takeWhile Char.isDigit
  let least := valueOf 10 low
  let finish (most : Option Nat) (ok : Bool) (rest : List Char) :
      Except RegexError ((Nat × Option Nat) × List Char) :=
    let close (rest : List Char) : Except RegexError ((Nat × Option Nat) × List Char) :=
      if !ok then .error .badBrace
      else if most.any (· < least) then .error .badCounts
      else if 32767 < most.getD least then .error .tooBig
      else .ok ((least, most), rest)
    match d.extended, rest with
    | true, '}' :: rest => close rest
    | false, '\\' :: '}' :: rest => close rest
    | _, [] => .error .openBrace
    | _, _ => .error .badBrace
  match cs.drop low.length with
  | ',' :: later =>
    let high := later.takeWhile Char.isDigit
    let most := if high = [] then none else some (valueOf 10 high)
    finish most true (later.drop high.length)
  | rest => finish (some least) (low ≠ []) rest

/-! ### Expressions -/

/-- A group that has been opened: its number, the alternatives that are finished and the parts of
the one that is under way, last ones first. -/
structure Frame where
  number : Nat := 0
  finished : List Regex := []
  parts : List Regex := []

/-- What a group stands for. -/
def Frame.regex (f : Frame) : Regex :=
  anyOf (sequence f.parts.reverse :: f.finished).reverse

/-- How far an expression has been read. -/
structure Reading where
  /-- The innermost group that is open. -/
  top : Frame := {}
  outer : List Frame := []
  opened : Nat := 0
  closed : List Nat := []

namespace Reading

/-- Adds a part. -/
def add (s : Reading) (r : Regex) : Reading :=
  { s with top := { s.top with parts := r :: s.top.parts } }

/-- Opens a group. -/
def openGroup (s : Reading) : Reading :=
  { s with
    top := { number := s.opened + 1 }
    outer := s.top :: s.outer
    opened := s.opened + 1 }

/-- Opens a group that is not counted. -/
def openBareGroup (s : Reading) : Reading :=
  { s with top := {}, outer := s.top :: s.outer }

/-- Closes a group. -/
def closeGroup (d : Dialect) (s : Reading) : Except RegexError Reading :=
  match s.outer with
  | frame :: outer =>
    let inner := s.top.regex
    let whole := if s.top.number = 0 then inner else group s.top.number inner
    .ok { s with
      top := { frame with parts := whole :: frame.parts }
      outer
      closed := s.top.number :: s.closed }
  | [] => if d.lenient ∧ d.extended then .ok (s.add (char ')')) else .error .closedGroup

/-- Begins another alternative. -/
def bar (s : Reading) : Reading :=
  { s with top := { s.top with
    finished := sequence s.top.parts.reverse :: s.top.finished
    parts := [] } }

/-- Whether nothing has been read that could be repeated. -/
def atStart (d : Dialect) (s : Reading) : Bool :=
  match s.top.parts with
  | [] => true
  | [place .lineStart] => !d.extended || d.lenient
  | _ => false

/-- Repeats the last part. -/
def repeatLast (d : Dialect) (s : Reading) (least : Nat) (most : Option Nat) :
    Except RegexError Reading :=
  match s.top.parts with
  | last :: parts =>
    .ok { s with top := { s.top with parts := many last least most :: parts } }
  | [] => if d.lenient then .ok s else .error .nothingToRepeat

end Reading

/-- What a letter behind a backslash stands for in both ways of writing. -/
def escaped? (c : Char) : Option Regex :=
  let word : List CharRange := [.named "alnum", .between '_' '_']
  match c with
  | 'w' => some (oneOf false word)
  | 'W' => some (oneOf true word)
  | 's' => some (oneOf false [.named "space"])
  | 'S' => some (oneOf true [.named "space"])
  | 'b' => some (place .wordEdge)
  | 'B' => some (place .noWordEdge)
  | '<' => some (place .wordStart)
  | '>' => some (place .wordEnd)
  | '`' => some (place .textStart)
  | '\'' => some (place .textEnd)
  | _ => none

/-- What stands behind a backslash, and what follows. -/
def afterBackslash (d : Dialect) (s : Reading) (c : Char) (rest : List Char) :
    Except RegexError (Reading × List Char) :=
  let basic := !d.extended
  let plain (s : Reading) : Except RegexError (Reading × List Char) := .ok (s, rest)
  match c with
  | '(' => plain (if basic then s.openGroup else s.add (char c))
  | ')' => if basic then (s.closeGroup d).map fun s => (s, rest) else plain (s.add (char c))
  | '|' => plain (if basic then s.bar else s.add (char c))
  | '+' =>
    if basic ∧ !s.atStart d then (s.repeatLast d 1 none).map fun s => (s, rest)
    else plain (s.add (char c))
  | '?' =>
    if basic ∧ !s.atStart d then (s.repeatLast d 0 (some 1)).map fun s => (s, rest)
    else plain (s.add (char c))
  | '{' =>
    if basic then
      if s.top.parts = [] ∧ d.lenient then plain (s.add (char c))
      else
        match counts d rest with
        | .ok ((least, most), rest) => (s.repeatLast d least most).map fun s => (s, rest)
        | .error e => .error e
    else plain (s.add (char c))
  | c =>
    if d.wide ∧ c = 'd' then plain (s.add (oneOf false [.named "digit"]))
    else if d.wide ∧ c = 'D' then plain (s.add (oneOf true [.named "digit"]))
    else if '1' ≤ c ∧ c ≤ '9' then
      let number := c.toNat - '0'.toNat
      if number ∈ s.closed then plain (s.add (again number)) else .error .unknownGroup
    else
      match escaped? c with
      | some r => plain (s.add r)
      | none =>
        match if d.escapes then controlChar? c else none with
        | some control => plain (s.add (char control))
        | none => plain (s.add (char c))

/-- Whether an alternative ends here, so that a dollar sign before it stands for the end. -/
def endsHere : List Char → Bool
  | [] => true
  | '\\' :: c :: _ => c == ')' || c == '|'
  | _ => false

/-- Reads one part of an expression, and yields what follows. -/
def readPart (d : Dialect) (s : Reading) : List Char → Except RegexError (Reading × List Char)
  | [] => .ok (s, [])
  | ['\\'] => .error .trailingBackslash
  | '\\' :: c :: rest => afterBackslash d s c rest
  | '[' :: rest =>
    match bracket d rest with
    | .ok (r, rest) => .ok (s.add r, rest)
    | .error e => .error e
  | '.' :: rest => .ok (s.add anyChar, rest)
  | '^' :: rest =>
    if d.extended ∨ s.top.parts = [] then .ok (s.add (place .lineStart), rest)
    else .ok (s.add (char '^'), rest)
  | '$' :: rest =>
    if d.extended ∨ endsHere rest then .ok (s.add (place .lineEnd), rest)
    else .ok (s.add (char '$'), rest)
  | '*' :: rest =>
    if s.atStart d then
      if d.extended then
        if d.lenient then .ok (s, rest) else (s.repeatLast d 0 none).map fun s => (s, rest)
      else .ok (s.add (char '*'), rest)
    else (s.repeatLast d 0 none).map fun s => (s, rest)
  | c :: rest =>
    if !d.extended then .ok (s.add (char c), rest)
    else
      match c with
      | '(' =>
        match d.wide, rest with
        | true, '?' :: ':' :: rest => .ok (s.openBareGroup, rest)
        | _, _ => .ok (s.openGroup, rest)
      | ')' => (s.closeGroup d).map fun s => (s, rest)
      | '|' => .ok (s.bar, rest)
      | '+' => (s.repeatLast d 1 none).map fun s => (s, rest)
      | '?' => (s.repeatLast d 0 (some 1)).map fun s => (s, rest)
      | '{' =>
        match counts d rest with
        | .ok ((least, most), rest) => (s.repeatLast d least most).map fun s => (s, rest)
        | .error .badBrace =>
          if d.lenient then .ok (s.add (char '{'), rest) else .error .badBrace
        | .error .openBrace =>
          if d.lenient then .ok (s.add (char '{'), rest) else .error .openBrace
        | .error e => .error e
      | c => .ok (s.add (char c), rest)

/-- Reads the parts of an expression up to its end. -/
def readParts (d : Dialect) : Nat → Reading → List Char → Except RegexError Reading
  | 0, s, _ | _, s, [] => .ok s
  | n + 1, s, cs =>
    match readPart d s cs with
    | .ok (s, rest) => readParts d n s rest
    | .error e => .error e

/-- The expression that a string writes, and the number of its groups. -/
def read (d : Dialect) (text : String) : Except RegexError (Regex × Nat) :=
  let cs := text.toList
  match readParts d (cs.length + 1) {} cs with
  | .ok s => if s.outer = [] then .ok (s.top.regex, s.opened) else .error .openGroup
  | .error e => .error e

end Regex

end ScriptLang.Shell
