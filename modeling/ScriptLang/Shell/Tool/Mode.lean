import ScriptLang.Shell.Own.Place

/-!
# Permission bits

The mode of a file says who may do what with it.  Changes of modes are written in octal digits or in
clauses such as `go-w`.

## Main definitions

* `ModeChange`, `modeChanges?` — one change of a mode, and how changes are written
* `ModeChange.apply`, `changedMode` — the mode after changes
* `modeLetters`, `modeDigits` — how modes are shown
-/

namespace ScriptLang.Shell.Tool

/-- The bits that a change sets or removes. -/
inductive ModeSource where
  | bits (value : Nat)
  /-- Bits, and those of execution where somebody may execute already. -/
  | executable (value : Nat)
  /-- The bits of one party, for all parties. -/
  | copied (party : Nat)

/-- One change of a mode. -/
structure ModeChange where
  /-- The bits of the parties that are named; zero if none is. -/
  affected : Nat
  /-- A plus, minus or equals sign. -/
  sign : Char
  source : ModeSource
  /-- The bits that are named; others of a directory stay as they are. -/
  mentioned : Nat

/-- The bits of a party. -/
def partyMask? (c : Char) : Option Nat :=
  match c with
  | 'u' => some 0o4700
  | 'g' => some 0o2070
  | 'o' => some 0o1007
  | 'a' => some 0o7777
  | _ => none

/-- The bits of a permission, for all parties. -/
def permissionMask? (c : Char) : Option Nat :=
  match c with
  | 'r' => some 0o444
  | 'w' => some 0o222
  | 'x' => some 0o111
  | 'X' => some 0
  | 's' => some 0o6000
  | 't' => some 0o1000
  | _ => none

/-- The masks that letters stand for, put together. -/
def maskOf (mask? : Char → Option Nat) (letters : List Char) : Nat :=
  letters.foldl (fun bits c => bits ||| (mask? c).getD 0) 0

/-- Reads what comes behind the parties of a clause. -/
def clauseActions? (affected : Nat) : Nat → List Char → Option (List ModeChange)
  | 0, _ => none
  | _, [] => some []
  | n + 1, sign :: rest =>
    let made (source : ModeSource) (value : Nat) : ModeChange :=
      ⟨affected, sign, source, if affected = 0 then value else affected &&& value⟩
    if sign ∉ ['+', '-', '='] then none
    else
      match rest with
      | 'u' :: later => (clauseActions? affected n later).map (made (.copied 0o700) 0o700 :: ·)
      | 'g' :: later => (clauseActions? affected n later).map (made (.copied 0o070) 0o070 :: ·)
      | 'o' :: later => (clauseActions? affected n later).map (made (.copied 0o007) 0o007 :: ·)
      | _ =>
        if rest.head?.any isOctal then
          let value := valueOf 8 rest
          if affected = 0 ∧ rest.all isOctal ∧ value ≤ 0o7777 then
            some [⟨0o7777, sign, .bits value, 0o7777⟩]
          else none
        else
          let letters := rest.takeWhile fun c => (permissionMask? c).isSome
          let value := maskOf permissionMask? letters
          let source : ModeSource := if letters.contains 'X' then .executable value else .bits value
          (clauseActions? affected n (rest.drop letters.length)).map (made source value :: ·)

/-- The changes that a clause writes. -/
def clause? (clause : String) : Option (List ModeChange) :=
  let parties := clause.toList.takeWhile fun c => (partyMask? c).isSome
  match clause.toList.drop parties.length with
  | [] => none
  | cs => clauseActions? (maskOf partyMask? parties) (cs.length + 1) cs

/-- The changes that octal digits or clauses write; none if they make no sense. -/
def modeChanges? (text : String) : Option (List ModeChange) :=
  match octalMode? text with
  | some mode =>
    if 0o7777 < mode then none
    else
      some [⟨0o7777, '=', .bits mode, if text.length < 5 then mode ||| 0o1777 else 0o7777⟩]
  | none => ((text.splitOn ",").mapM clause?).map List.flatten

/-- A mode after a change. -/
def ModeChange.apply (c : ModeChange) (mask : Nat) (directory : Bool) (mode : Nat) : Nat :=
  let kept := if directory then Files.unmasked 0o6000 c.mentioned else 0
  let wanted := match c.source with
    | .bits value => value
    | .executable value => if directory ∨ mode &&& 0o111 ≠ 0 then value ||| 0o111 else value
    | .copied party =>
      let bits := mode &&& party
      (if bits &&& 0o444 ≠ 0 then 0o444 else 0) ||| (if bits &&& 0o222 ≠ 0 then 0o222 else 0) |||
        (if bits &&& 0o111 ≠ 0 then 0o111 else 0)
  let allowed := if c.affected = 0 then Files.unmasked wanted mask else wanted &&& c.affected
  let value := Files.unmasked allowed kept
  match c.sign with
  | '+' => mode ||| value
  | '-' => Files.unmasked mode value
  | _ =>
    let preserved := (if c.affected = 0 then 0 else Files.unmasked 0o7777 c.affected) ||| kept
    (mode &&& preserved) ||| value

/-- A mode after changes. -/
def changedMode (changes : List ModeChange) (mask : Nat) (directory : Bool) (mode : Nat) : Nat :=
  changes.foldl (fun mode c => c.apply mask directory mode) mode

/-- The mode of a file that a text asks for. -/
def modeOf? (text : String) : Option Nat :=
  (modeChanges? text).map fun changes => changedMode changes 0 false 0

/-- The permission bits as letters. -/
def modeLetters (mode : Nat) : String :=
  let triple (bits : Nat) (special : Bool) (letter : Char) : List Char :=
    let executes := bits &&& 1 ≠ 0
    [if bits &&& 4 ≠ 0 then 'r' else '-', if bits &&& 2 ≠ 0 then 'w' else '-',
      if special then (if executes then letter else letter.toUpper)
      else if executes then 'x' else '-']
  String.ofList (triple (mode / 64) (mode &&& 0o4000 != 0) 's' ++
    triple (mode / 8) (mode &&& 0o2000 != 0) 's' ++ triple mode (mode &&& 0o1000 != 0) 't')

/-- A mode in four octal digits. -/
def modeDigits (mode : Nat) : String :=
  let digits := inBase 8 mode
  String.ofList (List.replicate (4 - digits.length) '0') ++ digits

end ScriptLang.Shell.Tool
