import ScriptLang.Shell.Bytes

/-!
# Arithmetic of the shell

Expressions over integers of 64 bits, with operators on their bits and with assignments.  An
expression is evaluated while it is read, from left to right; what an operator such as `||` leaves
out is read, but not evaluated.  The first thing that goes wrong is what is complained about.

## Main definitions

* `ArithmeticFault` — what can go wrong
* `wrapped` — an integer modulo 2^64
* `readInteger` — the integer at the start of a string, decimal, octal or hexadecimal
* `evaluate` — the value of an expression, and what it assigns
-/

namespace ScriptLang.Shell

/-- What can go wrong with an expression. -/
inductive ArithmeticFault where
  /-- Something is missing or too much. -/
  | malformed (reason : String)
  /-- A variable that does not hold a number. -/
  | notANumber (text : String)

/-- The greatest integer of 64 bits. -/
def maxInteger : Int := 9223372036854775807

/-- The least integer of 64 bits. -/
def minInteger : Int := -9223372036854775808

/-- The integer of 64 bits that an integer is modulo 2^64. -/
def wrapped (n : Int) : Int :=
  (n + 9223372036854775808) % 18446744073709551616 - 9223372036854775808

/-- The integer of 64 bits that is closest to an integer. -/
def clamped (n : Int) : Int :=
  max minInteger (min maxInteger n)

/-- The digits of a base at the start of a list. -/
def digitsOf (base : Nat) (cs : List Char) : List Char :=
  cs.takeWhile fun c => (digitValue? c).any (· < base)

/-- A natural number at the start of a list, with its base, and what follows.  A leading zero makes
it octal, `0x` hexadecimal. -/
def readNatural (cs : List Char) : Nat × List Char :=
  let read (base : Nat) (cs : List Char) : Nat × List Char :=
    let ds := digitsOf base cs
    (valueOf base ds, cs.drop ds.length)
  match cs with
  | '0' :: x :: d :: rest =>
    if (x = 'x' ∨ x = 'X') ∧ (digitValue? d).isSome then read 16 (d :: rest) else read 8 cs
  | '0' :: _ => read 8 cs
  | _ => read 10 cs

/-- An integer at the start of a string, behind blanks and a sign, and what follows; none if there
are no digits. -/
def readInteger? (cs : List Char) : Option (Int × List Char) :=
  let cs := cs.dropWhile isSpace
  let (negative, cs) : Bool × List Char := match cs with
    | '-' :: rest => (true, rest)
    | '+' :: rest => (false, rest)
    | cs => (false, cs)
  match cs with
  | c :: _ =>
    if c.isDigit then
      let (n, rest) := readNatural cs
      some (if negative then -(n : Int) else n, rest)
    else none
  | [] => none

/-! ### Tokens -/

/-- A token of an expression. -/
inductive ArithToken where
  | number (n : Int)
  | name (text : String)
  | sign (text : String)
  /-- A character that means nothing. -/
  | stray
  | finish
  deriving DecidableEq

/-- The signs, longest first. -/
def arithmeticSigns : List String :=
  ["<<=", ">>=", "<<", ">>", "<=", ">=", "==", "!=", "&&", "||", "+=", "-=", "*=", "/=", "%=", "&=",
    "|=", "^=", "+", "-", "*", "/", "%", "&", "|", "^", "~", "!", "<", ">", "=", "?", ":", "(", ")"]

/-- The tokens of a text. -/
def arithTokens : Nat → List Char → List ArithToken
  | 0, _ => []
  | _, [] => []
  | n + 1, c :: rest =>
    if c = ' ' ∨ c = '\t' ∨ c = '\n' then arithTokens n rest
    else if c.isDigit then
      let (value, after) := readNatural (c :: rest)
      .number (clamped value) :: arithTokens n after
    else if isNameStart c then
      let name := (c :: rest).takeWhile isNameChar
      .name (String.ofList name) :: arithTokens n ((c :: rest).drop name.length)
    else
      match arithmeticSigns.find? fun s => s.toList.isPrefixOf (c :: rest) with
      | some s => .sign s :: arithTokens n ((c :: rest).drop s.length)
      | none => .stray :: arithTokens n rest

/-! ### Evaluation -/

/-- What is left of an expression, and what it has assigned, newest first. -/
structure Evaluation where
  tokens : List ArithToken
  assigned : List (String × Int) := []

/-- Evaluation that can fail. -/
abbrev Arith := StateT Evaluation (Except ArithmeticFault)

namespace Arith

/-- The value of a variable that a text holds: an integer alone, or nothing. -/
def valueOfText (text : String) : Except ArithmeticFault Int :=
  let cs := text.toList.dropWhile isSpace
  if cs = [] then .ok 0
  else
    match readInteger? cs with
    | some (n, rest) =>
      if rest.all isSpace ∧ minInteger ≤ n ∧ n ≤ maxInteger then .ok n
      else .error (.notANumber text)
    | none => .error (.notANumber text)

/-- The value of a variable. -/
def lookup (contents : String → Option String) (name : String) : Arith Int := do
  match (← get).assigned.lookup name with
  | some n => return n
  | none => valueOfText ((contents name).getD "")

/-- The next token, which stays. -/
def peek : Arith ArithToken := do
  return (← get).tokens.headD .finish

/-- Takes a token. -/
def next : Arith ArithToken := do
  let t ← peek
  modify fun s => { s with tokens := s.tokens.tail }
  return t

/-- Fails. -/
def fail {α : Type} (reason : String) : Arith α :=
  throw (.malformed reason)

/-- How tightly a binary operator binds; the least number binds the tightest. -/
def rank? (t : ArithToken) : Option Nat :=
  match t with
  | .sign s =>
    match s with
    | "*" | "/" | "%" => some 0
    | "+" | "-" => some 1
    | "<<" | ">>" => some 2
    | "<" | ">" | "<=" | ">=" => some 3
    | "==" | "!=" => some 4
    | "&" => some 5
    | "^" => some 6
    | "|" => some 7
    | _ => none
  | _ => none

/-- Whether a token is a certain sign. -/
def isSign (t : ArithToken) (s : String) : Bool :=
  t == .sign s

/-- One if something holds, zero if not. -/
def truth (b : Bool) : Int :=
  if b then 1 else 0

/-- Does something bit by bit. -/
def bitwise (f : Nat → Nat → Nat) (a b : Int) : Int :=
  wrapped (f (a % 18446744073709551616).toNat (b % 18446744073709551616).toNat)

/-- The result of a binary operator. -/
def binary (op : String) (a b : Int) : Arith Int :=
  let shift := (b % 64).toNat
  match op with
  | "*" => return wrapped (a * b)
  | "/" => if b = 0 then fail "division by zero" else return wrapped (a.tdiv b)
  | "%" => if b = 0 then fail "division by zero" else return a.tmod b
  | "+" => return wrapped (a + b)
  | "-" => return wrapped (a - b)
  | "<<" => return wrapped (a * (Nat.pow 2 shift : Nat))
  | ">>" => return a.fdiv (Nat.pow 2 shift : Nat)
  | "<" => return truth (a < b)
  | ">" => return truth (b < a)
  | "<=" => return truth (a ≤ b)
  | ">=" => return truth (b ≤ a)
  | "==" => return truth (a = b)
  | "!=" => return truth (a ≠ b)
  | "&" => return bitwise Nat.land a b
  | "^" => return bitwise Nat.xor a b
  | _ => return bitwise Nat.lor a b

/-- The operator in front of the `=` of a compound assignment. -/
def compound? (t : ArithToken) : Option String :=
  match t with
  | .sign s =>
    if s ∈ ["*=", "/=", "%=", "+=", "-=", "<<=", ">>=", "&=", "|=", "^="] then
      some (String.ofList s.toList.dropLast)
    else none
  | _ => none

/-- The levels of the grammar, from the tightest operators outwards. -/
inductive Level where
  | operand
  /-- Binary operators up to a rank. -/
  | operators (rank : Nat)
  /-- Further operators of a rank behind a value. -/
  | later (rank : Nat) (value : Int)
  | conjunction
  | disjunction
  | choice
  | assignment

/-- The value of what stands at a level.  Nothing is looked up or assigned if `idle` says so. -/
def level (contents : String → Option String) : Nat → Bool → Level → Arith Int
  | 0, _, _ => fail "expression too long"
  | n + 1, idle, .operand => do
    match ← next with
    | .number value => return value
    | .name text => if idle then return 0 else lookup contents text
    | .sign "(" =>
      let value ← level contents n idle .assignment
      if !isSign (← next) ")" then fail "expecting ')'"
      return value
    | .sign "+" => level contents n idle .operand
    | .sign "-" => return wrapped (-(← level contents n idle .operand))
    | .sign "!" => return truth ((← level contents n idle .operand) = 0)
    | .sign "~" => return -(← level contents n idle .operand) - 1
    | _ => fail "expecting primary"
  | n + 1, idle, .operators rank => do
    let tighter : Level := if rank = 0 then .operand else .operators (rank - 1)
    let first ← level contents n idle tighter
    level contents n idle (.later rank first)
  | n + 1, idle, .later rank a => do
    let op ← peek
    if rank? op ≠ some rank then return a
    let _ ← next
    let tighter : Level := if rank = 0 then .operand else .operators (rank - 1)
    let b ← level contents n idle tighter
    let value ← match op with
      | .sign text => if idle then pure b else binary text a b
      | _ => pure a
    level contents n idle (.later rank value)
  | n + 1, idle, .conjunction => do
    let a ← level contents n idle (.operators 7)
    if !isSign (← peek) "&&" then return a
    let _ ← next
    let b ← level contents n (idle || a == 0) .conjunction
    return truth (a ≠ 0 ∧ b ≠ 0)
  | n + 1, idle, .disjunction => do
    let a ← level contents n idle .conjunction
    if !isSign (← peek) "||" then return a
    let _ ← next
    let b ← level contents n (idle || a != 0) .disjunction
    return truth (a ≠ 0 ∨ b ≠ 0)
  | n + 1, idle, .choice => do
    let a ← level contents n idle .disjunction
    if !isSign (← peek) "?" then return a
    let _ ← next
    let yes ← level contents n (idle || a == 0) .assignment
    if !isSign (← next) ":" then fail "expecting ':'"
    let no ← level contents n (idle || a != 0) .choice
    return if a ≠ 0 then yes else no
  | n + 1, idle, .assignment => do
    match (← get).tokens with
    | .name text :: op :: later =>
      if isSign op "=" || (compound? op).isSome then
        modify fun s => { s with tokens := later }
        let value ← level contents n idle .assignment
        if idle then return value
        let value ← match compound? op with
          | some op => do binary op (← lookup contents text) value
          | none => pure value
        modify fun s => { s with assigned := (text, value) :: s.assigned }
        return value
      else level contents n idle .choice
    | _ => level contents n idle .choice

/-- The value of a whole expression. -/
def whole (contents : String → Option String) (fuel : Nat) : Arith Int := do
  let value ← level contents fuel false .assignment
  if (← peek) ≠ .finish then fail "expecting EOF"
  return value

end Arith

/-- The value of an expression, and what it assigns, newest first. -/
def evaluate (contents : String → Option String) (text : String) :
    Except ArithmeticFault (Int × List (String × Int)) :=
  let tokens := arithTokens (text.length + 1) text.toList
  ((Arith.whole contents (16 * (tokens.length + 2))).run { tokens }).map fun (value, s) =>
    (value, s.assigned)

end ScriptLang.Shell
