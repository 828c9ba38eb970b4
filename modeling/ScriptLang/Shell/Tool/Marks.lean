import ScriptLang.Shell.Tool.Clock
import ScriptLang.Shell.Tool.Files

/-!
# Marking files

`chmod` changes who may do what with files, and `touch` changes the times at which they were
changed.

## Main definitions

* `ModeRequest`, `changeMode` — a change of modes
* `stampTime?` — a moment written as digits
* `runChmod`, `runTouch` — the programs of these names
-/

namespace ScriptLang.Shell.Tool

/-! ### Modes -/

/-- A change of modes. -/
structure ModeRequest where
  name : String
  changes : List ModeChange
  /-- Whether each file is told about. -/
  verbose : Bool
  /-- Whether only files whose modes change are told about. -/
  changed : Bool
  quiet : Bool
  /-- Whether it is told if the mask keeps bits from changing. -/
  surprised : Bool

/-- Changes the permission bits of one file; false if that fails.  `top` says that the path is an
operand, so that links are followed. -/
def changeMode (r : ModeRequest) (top : Bool) (path : String) : Action Bool := do
  let shown (mode : Nat) : String := modeDigits mode ++ " (" ++ modeLetters mode ++ ")"
  match ← inspect path top with
  | .error e =>
    let dangling := e == .notFound && (← inspect path false).toOption.isSome
    if !r.quiet then
      if dangling then complain r.name ("cannot operate on dangling symlink " ++ quotedName path)
      else complain r.name ("cannot access " ++ quotedName path ++ ": " ++ e.reason)
    if r.verbose then put (quotedName path ++ " could not be accessed\n")
    return false
  | .ok info =>
    if info.kind = .link then
      if r.verbose then
        put ("neither symbolic link " ++ quotedName path ++ " nor referent has been changed\n")
      return true
    let mask := (← memory).mask
    let old := info.mode % 0o10000
    let directory := info.kind == .directory
    let new := changedMode r.changes mask directory old
    let _ ← changeAt path fun p => .setMode p new
    if new = old then
      if r.verbose then
        put ("mode of " ++ quotedName path ++ " retained as " ++ shown old ++ "\n")
    else if r.verbose ∨ r.changed then
      put ("mode of " ++ quotedName path ++ " changed from " ++ shown old ++ " to " ++ shown new ++
        "\n")
    let expected := changedMode r.changes 0 directory old
    if r.surprised ∧ Files.unmasked new expected ≠ 0 then
      complain r.name (fileName path ++ ": new permissions are " ++ modeLetters new ++ ", not " ++
        modeLetters expected)
      return false
    return true

/-- `chmod`: changes permission bits.  A mode may look like an option. -/
def runChmod : Tool := fun _ name args =>
  let letters := "rwxXstugoa,+=01234567".toList
  withOptions
    { short := "Rcvf" ++ String.join (letters.map fun c => c.toString ++ "::")
      long := [("recursive", "R"), ("verbose", "v"), ("silent", "f"), ("quiet", "f"),
        ("changes", "c"), ("reference=", "reference"), ("preserve-root", "P"),
        ("no-preserve-root", "N")] }
    name args fun found operands => do
  let given := found.filterMap fun (key, text) =>
    if key.toList.all (letters.contains ·) ∧ key.length = 1 then some ("-" ++ key ++ text) else none
  let (text, paths) : Option String × List String := match argument? found "reference", given with
    | some _, _ => (none, operands)
    | none, [] => (operands.head?, operands.drop 1)
    | none, modes => (some (",".intercalate modes), operands)
  if text.isNone ∧ !has found "reference" then return ← misused name "missing operand"
  if paths = [] then
    return ← match operands with
      | [] => misused name "missing operand"
      | first :: _ => misused name ("missing operand after " ++ quotedName first)
  let changes ← match text, argument? found "reference" with
    | some text, _ =>
      match modeChanges? text with
      | some changes => pure changes
      | none => return ← misused name ("invalid mode: " ++ quotedName text)
    | none, other =>
      let path := other.getD ""
      match ← inspect path with
      | .ok info => pure [⟨0o7777, '=', .bits (info.mode % 0o10000), 0o7777⟩]
      | .error e =>
        return ← refuse name ("failed to get attributes of " ++ quotedName path ++ ": " ++ e.reason)
  let r : ModeRequest :=
    { name, changes, verbose := has found "v", changed := has found "c", quiet := has found "f"
      surprised := !given.isEmpty }
  let mut status := 0
  for operand in paths do
    let path := atMostOneSlash operand
    if !(← changeMode r true path) then status := 1
    if has found "R" then
      for inner in (← tree maxDepth path).drop 1 do
        if !(← changeMode r false inner) then status := 1
  return status

/-! ### Times -/

/-- The moment that digits such as `202101020304.05` write: a year, which may be short or missing, a
month, a day, an hour, a minute and perhaps a second. -/
def stampTime? (now : Moment) (text : String) : Option Moment :=
  let (digits, seconds?) : List Char × Option Nat := match text.splitOn "." with
    | [digits] => (digits.toList, some 0)
    | [digits, seconds] => (digits.toList, if seconds.length = 2 then natural? seconds else none)
    | _ => ([], none)
  let pair (i : Nat) : Int := valueOf 10 ((digits.drop i).take 2)
  let year? : Option (Int × Nat) := match digits.length with
    | 8 => some (now.year, 0)
    | 10 => some ((if pair 0 < 69 then 2000 else 1900) + pair 0, 2)
    | 12 => some (pair 0 * 100 + pair 2, 4)
    | _ => none
  match year?, seconds? with
  | some (year, i), some seconds =>
    let (month, day, hour, minute) := (pair i, pair (i + 2), pair (i + 4), pair (i + 6))
    if digits.all Char.isDigit ∧ DateReading.isDate year month day ∧ hour < 24 ∧ minute < 60 ∧
        seconds < 61 then
      some (.ofSeconds (((daysOfDate year month day * 24 + hour) * 60 + minute) * 60 + seconds))
    else none
  | _, _ => none

/-- A moment as a clock tells it. -/
def clockOf (m : Moment) : Float :=
  Float.ofInt m.seconds + Float.ofNat m.nanoseconds / 1000000000

/-- The time that options ask for, or the status of a complaint. -/
def markTime (name : String) (found : List (String × String)) : Action (Except Nat Float) := do
  let now ← call .clock
  let invalid (text : String) : Action (Except Nat Float) := do
    return .error (← refuse name ("invalid date format " ++ quotedName text))
  match argument? found "t", argument? found "r", argument? found "d" with
  | some _, some _, _ | some _, _, some _ =>
    return .error (← misused name "cannot specify times from more than one source")
  | some text, none, none =>
    match stampTime? (.ofClock now) text with
    | some m => return .ok (clockOf m)
    | none => invalid text
  | none, other, date =>
    let base ← match other with
      | none => pure now
      | some path =>
        match ← inspect path with
        | .ok info => pure info.modified
        | .error e =>
          return .error (← refuse name ("failed to get attributes of " ++ quotedName path ++ ": " ++
            e.reason))
    match date with
    | none => return .ok base
    | some text =>
      match DateReading.moment? (.ofClock base) text with
      | some m => return .ok (clockOf m)
      | none => invalid text

/-- `touch`: creates files, or tells that they have changed. -/
def runTouch : Tool := fun _ name args =>
  withOptions
    { short := "acd:fhmr:t:"
      long := [("no-create", "c"), ("date=", "d"), ("reference=", "r"), ("time=", "time"),
        ("no-dereference", "h")] }
    name args fun found operands => do
  let word ← match argument? found "time" with
    | none => pure none
    | some word =>
      match ← wordChosen name "--time" word [["atime", "access", "use"], ["mtime", "modify"]] with
      | .ok word => pure (some word)
      | .error status => return status
  match ← markTime name found with
  | .error status => return status
  | .ok time =>
    if operands = [] then return ← misused name "missing file operand"
    let access := has found "a" || word == some "atime"
    let changes := !access || has found "m" || word == some "mtime"
    let create := !(has found "c" || has found "h")
    let mark (path : String) : Action (Except IoError Unit) := do
      if changes then changeAt path fun p => .setTime p time else return .ok ()
    let mut status := 0
    for path in operands do
      let problem : Option String ← match ← inspect path (!has found "h") with
        | .ok _ =>
          match ← mark path with
          | .ok _ => pure none
          | .error e => pure (some ("setting times of " ++ quotedName path ++ ": " ++ e.reason))
        | .error e =>
          let times := some ("setting times of " ++ quotedName path ++ ": " ++ e.reason)
          if !create then pure (if e = .notFound then none else times)
          else
            match ← openFile .append path with
            | .ok _ =>
              let _ ← mark path
              pure none
            -- Only what can be a directory alone is looked for once more.
            | .error .isDirectory => pure times
            | .error e => pure (some ("cannot touch " ++ quotedName path ++ ": " ++ e.reason))
      if let some text := problem then
        complain name text
        status := 1
    return status

end ScriptLang.Shell.Tool
