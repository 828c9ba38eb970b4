import ScriptLang.Shell.Format
import ScriptLang.Shell.Regex.Read
import ScriptLang.Shell.Tool

/-!
# Numbers and expressions

`seq` counts, `factor` takes numbers apart, and `expr` evaluates an expression that its arguments
write.

## Main definitions

* `Decimal` — a decimal with a fixed number of places
* `Calculation` — the evaluation of an expression in arguments
* `runSeq`, `runFactor`, `runExpr` — the programs of these names
-/

namespace ScriptLang.Shell.Tool

/-! ### Counting -/

/-- A decimal: its digits as an integer, and how many of them stand behind the point. -/
structure Decimal where
  digits : Int
  places : Nat
  /-- How wide it was written. -/
  width : Nat

namespace Decimal

/-- The decimal that a text writes, up to the exponent. -/
def mantissa? (cs : List Char) : Option (Decimal × List Char) :=
  let (negative, unsigned) : Bool × List Char := match cs with
    | '-' :: rest => (true, rest)
    | '+' :: rest => (false, rest)
    | rest => (false, rest)
  let whole := unsigned.takeWhile Char.isDigit
  let rest := unsigned.drop whole.length
  let (places, rest) : List Char × List Char := match rest with
    | '.' :: later =>
      let places := later.takeWhile Char.isDigit
      (places, later.drop places.length)
    | rest => ([], rest)
  if whole = [] ∧ places = [] then none
  else
    let n : Int := valueOf 10 (whole ++ places)
    let width := (unsigned.length - rest.length) + (if negative then 1 else 0)
    some (⟨if negative then -n else n, places.length, width⟩, rest)

/-- The decimal that a text writes. -/
def read? (text : String) : Option Decimal :=
  let cs := text.toList.dropWhile isSpace
  match cs with
  | '0' :: 'x' :: ds | '0' :: 'X' :: ds =>
    if ds ≠ [] ∧ ds.all (fun c => (digitValue? c).isSome) then
      let n := valueOf 16 ds
      some ⟨n, 0, (toString n).length⟩
    else none
  | _ =>
    match mantissa? cs with
    | none => none
    | some (d, []) => some d
    | some (d, c :: rest) =>
      if c ≠ 'e' ∧ c ≠ 'E' then none
      else
        match readExponent? rest with
        | some (e, []) =>
          -- The exponent moves the point.
          let places := ((d.places : Int) - e).toNat
          let n := d.digits * (Nat.pow 10 (e - d.places).toNat : Nat)
          some ⟨n, places, (toString n.natAbs).length⟩
        | _ => none

/-- The digits of a decimal with so many places. -/
def scaled (d : Decimal) (places : Nat) : Int :=
  d.digits * (Nat.pow 10 (places - d.places) : Nat)

/-- The width of a decimal if it is written with so many places. -/
def widthWith (d : Decimal) (places : Nat) : Nat :=
  if d.places = 0 then if places = 0 then d.width else d.width + 1 + places
  else if places = 0 then d.width - d.places - 1
  else d.width + places - d.places

end Decimal

/-- An integer of which the last digits stand behind a point, in a given width. -/
def decimalText (n : Int) (places width : Nat) : String :=
  let text := String.ofList (Number.pointed (toString n.natAbs).toList places false)
  let sign := if n < 0 then "-" else ""
  let zeros := String.ofList (List.replicate (width - sign.length - text.length) '0')
  sign ++ zeros ++ text

/-- The directive in a format: what stands before it, how it writes, and what stands behind. -/
structure SeqFormat where
  before : String
  conversion : Conversion
  letter : Char
  behind : String

/-- A text in which two percent signs stand for one, and what follows it. -/
def plainFormat : List Char → String × List Char
  | '%' :: '%' :: rest =>
    let (text, rest) := plainFormat rest
    ("%" ++ text, rest)
  | '%' :: rest => ("", '%' :: rest)
  | c :: rest =>
    let (text, rest) := plainFormat rest
    (c.toString ++ text, rest)
  | [] => ("", [])

/-- The format that a text writes, or what is wrong with it. -/
def seqFormat (text : String) : Except String SeqFormat :=
  let quoted := quotedName text
  let (before, rest) := plainFormat text.toList
  match rest with
  | [] => .error ("format " ++ quoted ++ " has no % directive")
  | _ :: rest =>
    let flags := rest.takeWhile (· ∈ ['-', '+', '#', '0', ' ', '\''])
    let rest := rest.drop flags.length
    let width := rest.takeWhile Char.isDigit
    let rest := rest.drop width.length
    let (precision, rest) : Option Nat × List Char := match rest with
      | '.' :: rest =>
        let ds := rest.takeWhile Char.isDigit
        (some (valueOf 10 ds), rest.drop ds.length)
      | rest => (none, rest)
    match rest with
    | [] => .error ("format " ++ quoted ++ " ends in %")
    | letter :: rest =>
      if letter ∈ ['a', 'e', 'f', 'g', 'A', 'E', 'F', 'G'] then
        let (behind, rest) := plainFormat rest
        if rest ≠ [] then .error ("format " ++ quoted ++ " has too many % directives")
        else
          let v := flags.foldl Conversion.flagged {}
          .ok ⟨before, { v with width := valueOf 10 width, precision }, letter, behind⟩
      else .error ("format " ++ quoted ++ " has unknown %" ++ letter.toString ++ " directive")

/-- How many numbers are written at most to an output that never ends. -/
def countBound : Nat := 100000

/-- `seq`: the numbers from one to another. -/
def runSeq : Tool := fun _ name args =>
  -- A minus sign before a digit begins a number.
  let isNumber (arg : String) : Bool := match arg.toList with
    | '-' :: c :: _ => c.isDigit || c == '.'
    | _ => true
  let rec optionCount : List String → Nat
    | [] => 0
    | arg :: rest =>
      if arg = "--" ∨ isNumber arg then 0
      else if arg ∈ ["-s", "-f", "--separator", "--format"] then
        match rest with
        | [] => 1
        | _ :: rest => 2 + optionCount rest
      else 1 + optionCount rest
  let count := optionCount args
  let operands := args.drop count
  let operands := if operands.head? = some "--" then operands.tail else operands
  withOptions
    { short := "f:s:w", strict := true
      long := [("format=", "f"), ("separator=", "s"), ("equal-width", "w")] }
    name (args.take count) fun found _ => do
  if operands = [] then return ← misused name "missing operand"
  if 3 < operands.length then
    return ← misused name ("extra operand " ++ quotedName (operands[3]?.getD ""))
  let mut numbers : List Decimal := []
  let mut endless := false
  for operand in operands do
    let lowered := (String.ofList (operand.toList.dropWhile fun c => c == '+' || isSpace c)).toLower
    if lowered = "nan" ∨ lowered = "-nan" then
      return ← misused name ("invalid 'not-a-number' argument: " ++ quotedName operand)
    if lowered = "inf" ∨ lowered = "infinity" then
      endless := true
      numbers := numbers ++ [⟨0, 0, 3⟩]
    else
      match Decimal.read? operand with
      | some d => numbers := numbers ++ [d]
      | none =>
        return ← misused name ("invalid floating point argument: " ++ quotedName operand)
  let one : Decimal := ⟨1, 0, 1⟩
  let (first, step, last) := match numbers with
    | [last] => (one, one, last)
    | [first, last] => (first, one, last)
    | [first, step, last] => (first, step, last)
    | _ => (one, one, one)
  if step.digits = 0 then
    return ← misused name ("invalid Zero increment value: " ++ quotedName (operands[1]?.getD ""))
  let format ← match argument? found "f" with
    | none => pure none
    | some text =>
      match seqFormat text with
      | .error text => return ← refuse name text
      | .ok f =>
        if has found "w" then
          return ← misused name
            "format string may not be specified when printing equal width strings"
        pure (some f)
  let places := max first.places step.places
  let scale := max places last.places
  let from_ := first.scaled scale
  let by_ := step.scaled scale
  let to_ := last.scaled scale
  let width :=
    if has found "w" then max (first.widthWith places) (last.widthWith places) else 0
  let distance := if 0 < by_ then to_ - from_ else from_ - to_
  let count := if endless then countBound else
    if distance < 0 then 0 else distance.toNat / by_.natAbs + 1
  let shown (i : Nat) : String :=
    let n := from_ + by_ * i
    match format with
    | some f =>
      let x := Number.ofDecimal n.natAbs (-(scale : Int))
      let x := if n < 0 then -x else x
      f.before ++ f.conversion.writeFloat f.letter x ++ f.behind
    | none =>
      -- The places that only the last number has are zeros here.
      decimalText (n.tdiv (Nat.pow 10 (scale - places) : Nat)) places width
  if count = 0 then return 0
  let separator := (argument? found "s").getD "\n"
  deliver name (separator.intercalate ((List.range count).map shown) ++ "\n")

/-! ### Factors -/

/-- The prime factors of a number, tried from a divisor on. -/
def factorsFrom : Nat → Nat → Nat → List Nat
  | 0, _, n => [n]
  | fuel + 1, d, n =>
    if n < 2 then []
    else if n < d * d then [n]
    else if n % d = 0 then d :: factorsFrom fuel d (n / d)
    else factorsFrom fuel (if d = 2 then 3 else d + 2) n

/-- The prime factors of a number. -/
def factors (n : Nat) : List Nat :=
  -- No divisor that is tried is greater than this bound for the square root.
  factorsFrom (Nat.log2 n + Nat.pow 2 (Nat.log2 n / 2 + 1) + 2) 2 n

/-- Equal numbers as powers. -/
def powersText (ns : List Nat) : String :=
  let groups := ns.foldl (fun groups n => match groups with
    | (m, k) :: rest => if m = n then (m, k + 1) :: rest else (n, 1) :: groups
    | [] => [(n, 1)]) ([] : List (Nat × Nat))
  String.join (groups.reverse.map fun (n, k) =>
    " " ++ toString n ++ (if k = 1 then "" else "^" ++ toString k))

/-- `factor`: the prime factors of numbers. -/
def runFactor : Tool := fun _ name args =>
  withOptions { short := "h", long := [("exponents", "h")] } name args fun found operands => do
  let words ←
    if operands ≠ [] then pure operands
    else match ← readAll 0 with
      | .ok text =>
        pure ((text.splitToList isSpace).filter (· ≠ ""))
      | .error _ => pure []
  let mut status := 0
  for word in words do
    let digits := if word.startsWith "+" then (word.drop 1).toString else word
    match natural? digits with
    | some n =>
      let ns := factors n
      put (toString n ++ ":" ++
        (if has found "h" then powersText ns
          else String.join (ns.map fun n => " " ++ toString n)) ++ "\n")
    | none =>
      complain name (quotedName word ++ " is not a valid positive integer")
      status := 1
  return status

/-! ### Expressions -/

/-- The evaluation of an expression: the arguments that are left, and the last one that was
read. -/
structure Calculation where
  left : List String
  last : String := ""

/-- What is wrong with an expression. -/
abbrev Calculated (α : Type) := Except String (α × Calculation)

namespace Calculation

/-- The integer that a string writes. -/
def integer? (s : String) : Option Int :=
  match s.toList with
  | '-' :: ds => (natural? (String.ofList ds)).map fun n => -(n : Int)
  | _ => (natural? s).map fun n => (n : Int)

/-- Whether a value counts as nothing. -/
def isNull (s : String) : Bool :=
  s == "" || (match s.toList with
    | '-' :: ds => ds != [] && ds.all (· == '0')
    | ds => ds.all (· == '0'))

/-- The complaint about a missing argument. -/
def missing {α : Type} (s : Calculation) : Calculated α :=
  .error ("syntax error: missing argument after " ++ quotedName s.last)

/-- Takes the next argument. -/
def take (s : Calculation) : Calculated String :=
  match s.left with
  | arg :: left => .ok (arg, ⟨left, arg⟩)
  | [] => s.missing

/-- Compares the beginning of a string with a regular expression: yields what its first group
stands for, or the length of what the expression stands for. -/
def matched (value pattern : String) : Except String String :=
  match Regex.read { extended := false } pattern with
  | .error e => .error e.message
  | .ok (r, groups) =>
    match r.hitAt? { text := value.toList.toArray } 0 with
    | none => .ok (if groups = 0 then "0" else "")
    | some h =>
      if groups = 0 then .ok (toString h.stop)
      else
        let part := (h.group? 1).map fun (start, stop) =>
          String.ofList ((value.toList.drop start).take (stop - start))
        .ok (part.getD "")

/-- The result of an operation on two integers. -/
def arithmetic (op a b : String) : Except String String :=
  match integer? a, integer? b with
  | some x, some y =>
    if op ∈ ["/", "%"] ∧ y = 0 then .error "division by zero"
    else
      .ok (toString (match op with
        | "+" => x + y
        | "-" => x - y
        | "*" => x * y
        | "/" => x.tdiv y
        | _ => x.tmod y))
  | _, _ => .error "non-integer argument"

/-- Compares two values, as integers if both are some. -/
def compared (op a b : String) : Bool :=
  let order : Ordering := match integer? a, integer? b with
    | some x, some y => compare x y
    | _, _ => compare a b
  match op with
  | "<" => order.isLT
  | "<=" => order.isLE
  | "=" | "==" => order.isEq
  | "!=" => !order.isEq
  | ">=" => order.isGE
  | _ => order.isGT

/-- The operators of each level, the loosest ones first. -/
def operators (level : Nat) : List String :=
  match level with
  | 0 => ["|"]
  | 1 => ["&"]
  | 2 => ["<", "<=", "=", "==", "!=", ">=", ">"]
  | 3 => ["+", "-"]
  | 4 => ["*", "/", "%"]
  | _ => [":"]

/-- The result of an operator; `live` is false for a part whose value does not matter. -/
def combine (live : Bool) (op a b : String) : Except String String :=
  match op with
  | "|" => .ok (if !isNull a then a else if !isNull b then b else "0")
  | "&" => .ok (if isNull a ∨ isNull b then "0" else a)
  | ":" => if live then matched a b else .ok ""
  | "+" | "-" | "*" | "/" | "%" => if live then arithmetic op a b else .ok "0"
  | _ => .ok (if compared op a b then "1" else "0")

/-- What is read. -/
inductive Goal where
  | level (n : Nat)
  /-- The operators of a level behind a value. -/
  | rest (n : Nat) (value : String)
  | operand

/-- Evaluates. -/
def evaluate : Nat → Bool → Goal → Calculation → Calculated String
  | 0, _, _, _ => .error "syntax error"
  | fuel + 1, live, .level n, s =>
    match evaluate fuel live (if 5 ≤ n then .operand else .level (n + 1)) s with
    | .ok (value, s) => evaluate fuel live (.rest n value) s
    | .error e => .error e
  | fuel + 1, live, .rest n value, s =>
    match s.left with
    | op :: left =>
      if op ∈ operators n then
        let alive := match op with
          | "|" => live && isNull value
          | "&" => live && !isNull value
          | _ => live
        match evaluate fuel alive (if 5 ≤ n then .operand else .level (n + 1)) ⟨left, op⟩ with
        | .ok (other, s) =>
          match combine live op value other with
          | .ok value => evaluate fuel live (.rest n value) s
          | .error e => .error e
        | .error e => .error e
      else .ok (value, s)
    | [] => .ok (value, s)
  | fuel + 1, live, .operand, s =>
    match s.left with
    | [] => s.missing
    | "(" :: left =>
      match evaluate fuel live (.level 0) ⟨left, "("⟩ with
      | .ok (value, s) =>
        match s.left with
        | ")" :: left => .ok (value, ⟨left, ")"⟩)
        | [] => .error ("syntax error: expecting ')' after " ++ quotedName s.last)
        | other :: _ => .error ("syntax error: expecting ')' instead of " ++ quotedName other)
      | .error e => .error e
    | ")" :: _ => .error "syntax error: unexpected ')'"
    | "+" :: left => take ⟨left, "+"⟩
    | "length" :: left =>
      match evaluate fuel live .operand ⟨left, "length"⟩ with
      | .ok (value, s) => .ok (toString value.length, s)
      | .error e => .error e
    | "match" :: left =>
      match evaluate fuel live .operand ⟨left, "match"⟩ with
      | .ok (value, s) =>
        match evaluate fuel live .operand s with
        | .ok (pattern, s) => (matched value pattern).map fun v => (v, s)
        | .error e => .error e
      | .error e => .error e
    | "index" :: left =>
      match evaluate fuel live .operand ⟨left, "index"⟩ with
      | .ok (value, s) =>
        match evaluate fuel live .operand s with
        | .ok (chars, s) =>
          let position := (value.toList.findIdx? (· ∈ chars.toList)).elim 0 (· + 1)
          .ok (toString position, s)
        | .error e => .error e
      | .error e => .error e
    | "substr" :: left =>
      match evaluate fuel live .operand ⟨left, "substr"⟩ with
      | .ok (value, s) =>
        match evaluate fuel live .operand s with
        | .ok (start, s) =>
          match evaluate fuel live .operand s with
          | .ok (count, s) =>
            let part := match integer? start, integer? count with
              | some start, some count =>
                if start < 1 ∨ count < 1 then ""
                else String.ofList ((value.toList.drop (start.toNat - 1)).take count.toNat)
              | _, _ => ""
            .ok (part, s)
          | .error e => .error e
        | .error e => .error e
      | .error e => .error e
    | arg :: left => .ok (arg, ⟨left, arg⟩)

end Calculation

/-- `expr`: the value of an expression. -/
def runExpr : Tool := fun _ name args => do
  let args := if args.head? = some "--" then args.tail else args
  if args = [] then return ← misused name "missing operand" 2
  match Calculation.evaluate (16 * (args.length + 1)) true (.level 0) { left := args } with
  | .error text => refuse name text 2
  | .ok (value, s) =>
    match s.left with
    | arg :: _ => refuse name ("syntax error: unexpected argument " ++ quotedName arg) 2
    | [] =>
      put (value ++ "\n")
      return if Calculation.isNull value then 1 else 0

end ScriptLang.Shell.Tool
