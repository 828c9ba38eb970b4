import ScriptLang.Shell.Format
import ScriptLang.Shell.Pattern
import ScriptLang.Shell.Tool

/-!
# Replacing characters

`tr` replaces, removes and squeezes characters.  What it works on are sets of characters, which are
in order and may hold a character more than once.

## Main definitions

* `SetPart`, `readSet` — a part of a set, and how sets are written
* `SetPart.expand`, `expandSet` — the characters of a set
* `Translation` — what is done with characters
* `runTr` — the program of this name
-/

namespace ScriptLang.Shell.Tool

/-! ### Sets -/

/-- A part of a set of characters. -/
inductive SetPart where
  | chars (cs : List Char)
  /-- A character again and again, as often as there is room if there is no count. -/
  | repeated (c : Char) (count : Option Nat)
  /-- The characters that are alike to one; there are no others. -/
  | alike (c : Char)
  | letters (upper : Bool)
  | named (test : Char → Bool)

/-- The characters from one to another. -/
def charsBetween (a b : Char) : List Char :=
  (List.range (b.toNat + 1 - a.toNat)).map fun i => Char.ofNat (a.toNat + i)

/-- All characters that a byte can be. -/
def allChars : List Char :=
  (List.range 256).map Char.ofNat

/-- The characters of a set with the escapes carried out; the flag marks escaped ones. -/
def setChars : Nat → List Char → List (Char × Bool)
  | 0, _ => []
  | _, [] => []
  | n + 1, '\\' :: c :: rest =>
    if isOctal c then
      let ds := ((c :: rest).takeWhile isOctal).take 3
      let ds := if valueOf 8 ds < 256 then ds else ds.take 2
      (octalChar ds, true) :: setChars n ((c :: rest).drop ds.length)
    else ((if c = 'e' then c else (letterEscape? c).getD c), true) :: setChars n rest
  | n + 1, c :: rest => (c, false) :: setChars n rest

/-- The characters before an unescaped mark with a closing bracket behind it, and what follows. -/
def untilClosed? (mark : Char) : List (Char × Bool) → Option (List Char × List (Char × Bool))
  | [] | [_] => none
  | a :: b :: rest =>
    if a = (mark, false) ∧ b = (']', false) then some ([], rest)
    else (untilClosed? mark (b :: rest)).map fun (cs, later) => (a.1 :: cs, later)

/-- The part that a class name stands for, or what is wrong with it. -/
def namedPart (name : String) : Except String SetPart :=
  match name with
  | "" => .error "missing character class name '[::]'"
  | "upper" => .ok (.letters true)
  | "lower" => .ok (.letters false)
  | _ =>
    match classTest? name with
    | some test => .ok (.named test)
    | none => .error ("invalid character class " ++ quotedName name)

/-- The part that a text between equals signs stands for, or what is wrong with it. -/
def alikePart : List Char → Except String SetPart
  | [] => .error "missing equivalence class character '[==]'"
  | [c] => .ok (.alike c)
  | cs => .error (String.ofList cs ++ ": equivalence class operand must be a single character")

/-- The part that a character and a count stand for, or what is wrong with the count. -/
def repeatedPart (c : Char) (digits : List Char) : Except String SetPart :=
  let octal := digits.head? == some '0'
  if digits.all fun d => if octal then isOctal d else d.isDigit then
    let count := valueOf (if octal then 8 else 10) digits
    .ok (.repeated c (if count = 0 then none else some count))
  else
    .error ("invalid repeat count " ++ quotedName (String.ofList digits) ++ " in [c*n] construct")

/-- The part in brackets that a text begins with, and what follows it; none if there is none. -/
def bracketPart? : List (Char × Bool) → Option (Except String (SetPart × List (Char × Bool)))
  | ('[', false) :: (':', false) :: rest =>
    (untilClosed? ':' rest).bind fun (name, later) =>
      -- What is no name of a class can still be a repetition.
      match namedPart (String.ofList name), rest with
      | .error problem, ('*', false) :: _ =>
        some ((repetition? ':' (rest.drop 1)).getD (.error problem))
      | part, _ => some (part.map fun p => (p, later))
  | ('[', false) :: ('=', false) :: rest =>
    match untilClosed? '=' rest, rest with
    | some (cs, later), _ => some ((alikePart cs).map fun p => (p, later))
    | none, ('*', false) :: later => repetition? '=' later
    | none, _ => none
  | ('[', false) :: (c, _) :: ('*', false) :: rest => repetition? c rest
  | _ => none
where
  /-- The repetition of a character, behind the asterisk. -/
  repetition? (c : Char) (rest : List (Char × Bool)) :
      Option (Except String (SetPart × List (Char × Bool))) :=
    let digits := rest.takeWhile (· != (']', false))
    match rest.drop digits.length with
    | _ :: later => some ((repeatedPart c (digits.map Prod.fst)).map fun p => (p, later))
    | [] => none

/-- The parts of a set of characters, or what is wrong with it. -/
def setParts : Nat → List (Char × Bool) → Except String (List SetPart)
  | 0, _ => .ok []
  | _, [] => .ok []
  | n + 1, cs =>
    match bracketPart? cs with
    | some (.ok (part, later)) => (setParts n later).map (part :: ·)
    | some (.error problem) => .error problem
    | none =>
      match cs with
      | (a, _) :: ('-', false) :: (b, _) :: later =>
        if b < a then
          .error ("range-endpoints of '" ++ a.toString ++ "-" ++ b.toString ++
            "' are in reverse collating sequence order")
        else (setParts n later).map (SetPart.chars (charsBetween a b) :: ·)
      | (c, _) :: later => (setParts n later).map (SetPart.chars [c] :: ·)
      | [] => .ok []

/-- The parts of the set that a text writes, or what is wrong with it. -/
def readSet (text : String) : Except String (List SetPart) :=
  let cs := setChars (text.length + 1) text.toList
  setParts (cs.length + 1) cs

namespace SetPart

/-- The characters of a part; what fills up the set gets as many as there is room for. -/
def expand (room : Nat) : SetPart → List Char
  | chars cs => cs
  | repeated c (some n) => List.replicate n c
  | repeated c none => List.replicate room c
  | alike c => [c]
  | letters true => charsBetween 'A' 'Z'
  | letters false => charsBetween 'a' 'z'
  | named test => allChars.filter test

/-- Whether a part fills up the set. -/
def fills : SetPart → Bool
  | repeated _ none => true
  | _ => false

/-- Whether a part is a class of characters. -/
def isClass : SetPart → Bool
  | letters _ | named _ => true
  | _ => false

end SetPart

/-- The characters of a set that is to have some length. -/
def expandSet (parts : List SetPart) (wanted : Nat) : List Char :=
  let fixed := (parts.flatMap (SetPart.expand 0)).length
  parts.flatMap (SetPart.expand (wanted - fixed))

/-- Where the classes of upper or lower case letters begin in a set. -/
def letterStarts (parts : List SetPart) (wanted : Nat) : List Nat :=
  let room := wanted - (parts.flatMap (SetPart.expand 0)).length
  (parts.foldl (fun (starts, place) part =>
    let next := place + (part.expand room).length
    match part with
    | .letters _ => (place :: starts, next)
    | _ => (starts, next)) ([], 0)).1

/-! ### Translations -/

/-- What is done with characters. -/
structure Translation where
  first : List SetPart
  /-- The second set, if there is one. -/
  second : Option (List SetPart)
  complement : Bool
  delete : Bool
  squeeze : Bool
  truncate : Bool

namespace Translation

/-- Whether characters are replaced. -/
def replaces (t : Translation) : Bool :=
  !t.delete && t.second.isSome

/-- The characters of the first set. -/
def from₁ (t : Translation) : List Char :=
  let listed := expandSet t.first 0
  if t.complement then allChars.filter (!listed.contains ·) else listed

/-- The characters of the second set. -/
def to₂ (t : Translation) : List Char :=
  expandSet (t.second.getD []) t.from₁.length

/-- What forbids a translation. -/
def problem? (t : Translation) : Option String :=
  let parts := t.second.getD []
  let set₁ := t.from₁
  let set₂ := t.to₂
  let starts := letterStarts t.first 0
  let isRestricted : SetPart → Bool
    | .named _ => true
    | _ => false
  let isAlike : SetPart → Bool
    | .alike _ => true
    | _ => false
  if t.first.any SetPart.fills then
    some "the [c*] repeat construct may not appear in string1"
  else if 1 < (parts.filter SetPart.fills).length then
    some "only one [c*] repeat construct may appear in string2"
  else if t.second.isNone then none
  else if !t.replaces then
    if parts.any SetPart.fills then
      some "the [c*] construct may appear in string2 only when translating"
    else none
  else if parts.any isAlike then
    some "[=c=] expressions may not appear in string2 when translating"
  else if parts.any isRestricted then
    some ("when translating, the only character classes that may appear in\n" ++
      "string2 are 'upper' and 'lower'")
  else if !t.complement ∧ (letterStarts parts set₁.length).any fun start =>
      start ≤ set₁.length && !starts.contains start then
    some "misaligned [:upper:] and/or [:lower:] construct"
  else if set₂.length < set₁.length ∧ !t.truncate ∧ set₂ = [] then
    some "when not truncating set1, string2 must be non-empty"
  else if set₂.length < set₁.length ∧ !t.truncate ∧ parts.getLast?.any SetPart.isClass then
    some ("when translating with string1 longer than string2,\n" ++
      "the latter string must not end with a character class")
  else if t.complement ∧ t.first.any SetPart.isClass ∧
      (set₁.length < set₂.length ∨ (set₂.length < set₁.length ∧ t.truncate) ∨
        set₂.any fun c => some c != set₂.head?) then
    some ("when translating with complemented character classes,\n" ++
      "string2 must map all characters in the domain to one")
  else none

/-- What each character becomes, the last rule for it first; a second set that is too short goes on
with its last character. -/
def table (t : Translation) : List (Char × Char) :=
  let set₂ := t.to₂
  let set₁ := if t.truncate then t.from₁.take set₂.length else t.from₁
  let last := set₂.getLast?.getD ' '
  (set₁.zip (set₂ ++ List.replicate (set₁.length - set₂.length) last)).reverse

/-- Characters without those of a set that repeat the one before them. -/
def squeezed (set : List Char) (cs : List Char) : List Char :=
  (cs.foldl (fun (out : List Char) c =>
    if out.head? = some c ∧ set.contains c then out else c :: out) []).reverse

/-- Characters after a translation. -/
def apply (t : Translation) (cs : List Char) : List Char :=
  let set₁ := t.from₁
  let table := t.table
  let kept :=
    if t.delete then cs.filter (!set₁.contains ·)
    else if t.replaces then cs.map fun c => (table.lookup c).getD c
    else cs
  if !t.squeeze then kept
  else squeezed (if t.second.isSome then t.to₂ else set₁) kept

end Translation

/-- `tr`: replaces, removes and squeezes characters. -/
def runTr : Tool := fun _ name args =>
  withOptions
    { short := "cCdst", strict := true
      long := [("complement", "c"), ("delete", "d"), ("squeeze-repeats", "s"),
        ("truncate-set1", "t")] }
    name args fun found operands => do
  let delete := has found "d"
  let squeeze := has found "s"
  let least := if delete == squeeze then 2 else 1
  let most := if delete && !squeeze then 1 else 2
  let explained (text hint : String) : Action Nat := do
    complain name text
    if hint ≠ "" then warn (hint ++ "\n")
    warn ("Try '" ++ name ++ " --help' for more information.\n")
    return 1
  match operands with
  | [] => misused name "missing operand"
  | first :: rest =>
    if operands.length < least then
      return ← explained ("missing operand after " ++ quotedName first)
        (if delete then "Two strings must be given when both deleting and squeezing repeats."
          else "Two strings must be given when translating.")
    if let extra :: _ := operands.drop most then
      return ← explained ("extra operand " ++ quotedName extra)
        (if operands.length = 2 then
          "Only one string may be given when deleting without squeezing repeats." else "")
    for text in operands do
      if (text.toList.reverse.takeWhile (· == '\\')).length % 2 = 1 then
        complain name "warning: an unescaped backslash at end of string is not portable"
    match readSet first, rest.head?.mapM readSet with
    | .error text, _ | _, .error text => refuse name text
    | .ok parts, .ok second =>
      let t : Translation :=
        { first := parts, second, complement := has found "c" || has found "C", delete, squeeze
          truncate := has found "t" }
      if let some problem := t.problem? then return ← refuse name problem
      match ← readAll 0 with
      | .ok content =>
        put (String.ofList (t.apply content.toList))
        return 0
      | .error e => refuse name ("read error: " ++ e.reason)

end ScriptLang.Shell.Tool
