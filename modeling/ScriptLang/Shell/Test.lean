import ScriptLang.Shell.Action
import ScriptLang.Shell.Arithmetic

/-!
# Conditions

The expressions of `test` and `[`: strings, integers and files are looked at and compared, and
conditions are joined.  What an argument means depends on the ones behind it, so that every string
can also be an operand.

## Main definitions

* `Operator` — what an argument can mean
* `testArguments` — whether the condition that arguments form holds
-/

namespace ScriptLang.Shell

/-- What an argument of a condition can mean. -/
inductive Operator where
  /-- A test of one operand. -/
  | unary (name : String)
  /-- A test of two operands. -/
  | binary (name : String)
  | not
  | and
  | or
  | opens
  | closes
  | operand
  /-- There is no argument. -/
  | missing
  deriving DecidableEq

/-- What a string means as an operator. -/
def operator? (s : String) : Option Operator :=
  if s ∈ ["-r", "-w", "-x", "-e", "-f", "-d", "-c", "-b", "-p", "-u", "-g", "-k", "-s", "-t", "-z",
    "-n", "-h", "-O", "-G", "-L", "-S"] then some (.unary s)
  else if s ∈ ["=", "!=", "<", ">", "-eq", "-ne", "-ge", "-gt", "-le", "-lt", "-nt", "-ot",
    "-ef"] then some (.binary s)
  else
    match s with
    | "!" => some .not
    | "-a" => some .and
    | "-o" => some .or
    | "(" => some .opens
    | ")" => some .closes
    | _ => none

/-- Whether a string is an operator with two operands. -/
def isBinary (s : String) : Bool :=
  match operator? s with
  | some (.binary _) => true
  | _ => false

namespace Condition

/-- What the argument at a place means. -/
def meaning (args : Array String) (i : Nat) : Operator :=
  match args[i]? with
  | none => .missing
  | some s =>
    match operator? s with
    | some (.unary name) =>
      -- A test without an operand, or in front of an operator, is itself an operand.
      match args[i + 1]?, args[i + 2]? with
      | none, _ => .operand
      | some _, none => .unary name
      | some next, some _ => if isBinary next then .operand else .unary name
    | some .opens => if i + 1 < args.size then .opens else .operand
    | some op => op
    | none => .operand

/-- Complains about an operator. -/
def malformed {α : Type} (op reason : String) : Action α :=
  fail (if op = "" then reason else op ++ ": " ++ reason)

/-- The integer that an operand writes. -/
def integer (s : String) : Action Int := do
  let cs := s.toList.dropWhile isSpace
  let (negative, ds) : Bool × List Char := match cs with
    | '-' :: ds => (true, ds)
    | '+' :: ds => (false, ds)
    | ds => (false, ds)
  let digits := ds.takeWhile Char.isDigit
  let n : Int := if negative then -(valueOf 10 digits : Int) else valueOf 10 digits
  if digits = [] ∨ !(ds.drop digits.length).all isSpace ∨ n < minInteger ∨ maxInteger < n then
    fail ("Illegal number: " ++ s)
  return n

/-- Whether a test of one operand holds. -/
def unary (name operand : String) : Action Bool := do
  let of (test : FileInfo → Bool) : Action Bool := do
    match ← inspect operand with
    | .ok info => return test info
    | .error _ => return false
  let bit (mask : Nat) (info : FileInfo) : Bool := info.mode &&& mask != 0
  match name with
  | "-z" => return operand = ""
  | "-n" => return operand ≠ ""
  | "-t" => do
    let _ ← integer operand
    return false
  | "-e" | "-r" | "-w" | "-O" | "-G" => of fun _ => true
  | "-x" => of fun info => info.kind == .directory || bit 0o111 info
  | "-f" => of fun info => info.kind == .file
  | "-d" => of fun info => info.kind == .directory
  | "-c" => of fun info => info.kind == .device
  | "-s" => of fun info => 0 < info.size
  | "-u" => of (bit 0o4000)
  | "-g" => of (bit 0o2000)
  | "-k" => of (bit 0o1000)
  | "-h" | "-L" => do
    match ← inspect operand false with
    | .ok info => return info.kind = .link
    | .error _ => return false
  | _ => return false

/-- Whether a test of two operands holds. -/
def binary (name a b : String) : Action Bool := do
  let compare (test : Int → Int → Bool) : Action Bool := do
    let m ← integer a
    return test m (← integer b)
  let files (test : FileInfo → FileInfo → Bool) : Action Bool := do
    match ← inspect a, ← inspect b with
    | .ok i, .ok j => return test i j
    | _, _ => return false
  match name with
  | "=" => return a = b
  | "!=" => return a ≠ b
  | "<" => return before a b
  | ">" => return before b a
  | "-eq" => compare (· == ·)
  | "-ne" => compare (· != ·)
  | "-ge" => compare (· ≥ ·)
  | "-gt" => compare (· > ·)
  | "-le" => compare (· ≤ ·)
  | "-lt" => compare (· < ·)
  | "-nt" => files fun i j => i.modified > j.modified
  | "-ot" => files fun i j => i.modified < j.modified
  | _ => files fun i j => i.identity == j.identity

/-- The levels of the grammar. -/
inductive Level where
  | disjunction
  | conjunction
  | negation
  | primary

/-- Whether the condition at a place holds, whose first argument means something, and the place of
its last argument. -/
def level (args : Array String) : Nat → Level → Nat → Operator → Action (Bool × Nat)
  | 0, _, _, _ => fail "too many arguments"
  | n + 1, .disjunction, i, op => do
    let (a, i) ← level args n .conjunction i op
    if meaning args (i + 1) = .or then
      let (b, i) ← level args n .disjunction (i + 2) (meaning args (i + 2))
      return (a || b, i)
    else return (a, i)
  | n + 1, .conjunction, i, op => do
    let (a, i) ← level args n .negation i op
    if meaning args (i + 1) = .and then
      let (b, i) ← level args n .conjunction (i + 2) (meaning args (i + 2))
      return (a && b, i)
    else return (a, i)
  | n + 1, .negation, i, op => do
    if op = .not then
      let next := meaning args (i + 1)
      let (a, i) ← level args n .negation (if next = .missing then i else i + 1) next
      return (!a, i)
    else level args n .primary i op
  | n + 1, .primary, i, op => do
    match op with
    | .missing => return (false, i)
    | .opens =>
      let next := meaning args (i + 1)
      if next = .closes then return (false, i + 1)
      let (a, i) ← level args n .disjunction (i + 1) next
      if meaning args (i + 1) ≠ .closes then malformed "" "closing paren expected"
      return (a, i + 1)
    | .unary name =>
      match args[i + 1]? with
      | some operand => return (← unary name operand, i + 1)
      | none => malformed name "argument expected"
    | _ =>
      let first := args[i]?.getD ""
      match meaning args (i + 1) with
      | .binary name =>
        match args[i + 2]? with
        | some second => return (← binary name first second, i + 2)
        | none => malformed name "argument expected"
      | _ => return (first ≠ "", i)

end Condition

/-- Whether the condition that arguments form holds; `negated` turns the answer round. -/
def testArguments (negated : Bool) (args : List String) : Nat → Action Bool
  | 0 => fail "too many arguments"
  | n + 1 => do
    let middle := match args with
      | [_, op, _] => isBinary op
      | _ => false
    let short := (args.length = 3 ∧ !middle) ∨ args.length = 4
    if args = [] then return negated
    else if short ∧ args.head? = some "!" then
      -- The rest is a condition of its own, with the rules for its length.
      testArguments true (args.drop 1) n
    else
      let inner := short ∧ args.head? = some "(" ∧ args.getLast? = some ")"
      let args := (if inner then args.tail.dropLast else args).toArray
      let op := if middle then .operand else Condition.meaning args 0
      let (holds, i) ← Condition.level args (8 * (args.size + 2)) .disjunction 0 op
      if i + 1 < args.size then
        Condition.malformed (args[i]?.getD "") "unexpected operator"
      return holds != negated

end ScriptLang.Shell
