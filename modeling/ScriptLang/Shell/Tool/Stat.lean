import ScriptLang.Shell.Tool.Listing

/-!
# Properties of files

`stat` tells about files, in a given format or in one of its own.

## Main definitions

* `StatField`, `statText` — what a directive of a format asks for
* `runStat` — the program of this name
-/

namespace ScriptLang.Shell.Tool

/-- What kind of file something is, in words. -/
def kindWords (info : FileInfo) : String :=
  match info.kind with
  | .directory => "directory"
  | .file => if info.size = 0 then "regular empty file" else "regular file"
  | .link => "symbolic link"
  | .device => "character special file"

/-- A file that is told about. -/
structure StatSubject where
  path : String
  info : FileInfo
  /-- What a link holds. -/
  target : Option String

/-- What a directive asks for. -/
inductive StatField where
  | text (s : String)
  | number (n : Nat)
  /-- A number in another base, and what goes before it if that is asked for. -/
  | based (digits start : String)
  /-- Seconds, which may have places behind the point. -/
  | seconds (m : Moment)

/-- What a directive asks for; a question mark if there is no such directive. -/
def statField (s : StatSubject) (c : Char) : StatField :=
  let info := s.info
  let typeBits := match info.kind with
    | .directory => 0o040000
    | .file => 0o100000
    | .link => 0o120000
    | .device => 0o020000
  let moment := Moment.ofClock info.modified
  let isDevice := info.kind == .device
  match c with
  | 'n' => .text s.path
  | 'N' => .text (quotedName s.path ++ (match s.target with
    | some t => " -> " ++ quotedName t
    | none => ""))
  | 's' => .number info.size
  | 'a' => .based (inBase 8 (info.mode % 0o10000)) "0"
  | 'A' => .text (kindLetter info.kind ++ modeLetters info.mode)
  | 'f' => .based (inBase 16 (typeBits + info.mode % 0o10000)) "0x"
  | 'F' => .text (kindWords info)
  | 'h' => .number info.links
  | 'i' => .number info.identity
  | 'u' | 'g' => .number 0
  | 'U' | 'G' => .text "root"
  | 'b' => .number (spaceOf info / 512)
  | 'B' => .number 512
  | 'o' => .number 4096
  | 't' => .based (if isDevice then "1" else "0") "0x"
  | 'T' => .based (if isDevice then "3" else "0") "0x"
  | 'w' | 'x' | 'y' | 'z' => .text (moment.format "%Y-%m-%d %H:%M:%S.%N %z")
  | 'W' | 'X' | 'Y' | 'Z' => .seconds moment
  | _ => .text "?"

/-- How a directive is written: its flags, its width and its precision. -/
structure StatShape where
  flags : List Char
  width : Nat
  precision : Option Nat

/-- What a directive asks for, as it is written. -/
def StatField.shown (f : StatField) (shape : StatShape) : String :=
  let fill (zeros : Bool) (text : String) : String :=
    if shape.flags.contains '-' then paddedRight shape.width text
    else if zeros ∧ shape.flags.contains '0' then
      String.ofList (List.replicate (shape.width - text.length) '0') ++ text
    else paddedLeft shape.width text
  match f with
  | .text s =>
    fill false (match shape.precision with
      | some n => String.ofList (s.toList.take n)
      | none => s)
  | .number n => fill true (toString n)
  | .based digits start =>
    fill true ((if shape.flags.contains '#' ∧ digits ≠ "0" then start else "") ++ digits)
  | .seconds m =>
    let places := shape.precision.getD 0
    let digits := (toString (1000000000 + m.nanoseconds)).toList.drop 1
    let fraction := (digits ++ List.replicate (places - 9) '0').take places
    fill true (toString m.seconds ++
      (if places = 0 then "" else "." ++ String.ofList fraction))

/-- The character of an escape, and what follows it. -/
def statEscape (cs : List Char) : Char × List Char :=
  match cs with
  | 'x' :: rest =>
    let ds := (rest.takeWhile fun c => (digitValue? c).isSome).take 2
    if ds = [] then ('x', rest) else (Char.ofNat (valueOf 16 ds), rest.drop ds.length)
  | c :: rest =>
    if isOctal c then escaped cs
    else ((letterEscape? c).getD c, rest)
  | [] => ('\\', [])

/-- A format filled in, or the directive that makes no sense; the flag tells whether backslashes
begin escapes. -/
def statText (s : StatSubject) (escapes : Bool) : Nat → List Char → Except String String
  | 0, _ => .ok ""
  | _, [] => .ok ""
  | n + 1, '%' :: rest =>
    let flags := rest.takeWhile fun c => c ∈ ['\'', '-', '+', ' ', '0', '#', 'I']
    let rest₁ := rest.drop flags.length
    let width := rest₁.takeWhile Char.isDigit
    let rest₂ := rest₁.drop width.length
    let places := match rest₂ with
      | '.' :: ds => some (ds.takeWhile Char.isDigit)
      | _ => none
    let rest₃ := match places with
      | some ds => rest₂.drop (ds.length + 1)
      | none => rest₂
    let plain := flags = [] ∧ width = [] ∧ places = none
    match rest₃ with
    | [] =>
      if plain then .ok "%"
      else .error ("%" ++ String.ofList (rest.take (rest.length - rest₃.length)))
    | '%' :: later =>
      if plain then (statText s escapes n later).map ("%" ++ ·)
      else .error ("%" ++ String.ofList (rest.take (rest.length - rest₃.length + 1)))
    | c :: later =>
      let shape : StatShape := ⟨flags, valueOf 10 width, places.map (valueOf 10)⟩
      (statText s escapes n later).map ((statField s c).shown shape ++ ·)
  | n + 1, '\\' :: rest =>
    if escapes then
      let (c, later) := statEscape rest
      (statText s escapes n later).map (c.toString ++ ·)
    else (statText s escapes n rest).map ("\\" ++ ·)
  | n + 1, c :: rest => (statText s escapes n rest).map (c.toString ++ ·)

/-- The format that is used if none is given. -/
def statReport (s : StatSubject) : String :=
  let info := s.info
  let moment := (Moment.ofClock info.modified).format "%Y-%m-%d %H:%M:%S.%N %z"
  let name := match s.target with
    | some t => s.path ++ " -> " ++ t
    | none => s.path
  "  File: " ++ name ++ "\n  Size: " ++ paddedRight 10 (toString info.size) ++ "\tBlocks: " ++
    paddedRight 10 (toString (spaceOf info / 512)) ++ " IO Block: 4096   " ++ kindWords info ++
    "\nDevice: 0,1\tInode: " ++ paddedRight 10 (toString info.identity) ++ "  Links: " ++
    toString info.links ++ "\nAccess: (" ++ modeDigits (info.mode % 0o10000) ++ "/" ++
    kindLetter info.kind ++ modeLetters info.mode ++
    ")  Uid: (    0/    root)   Gid: (    0/    root)\nAccess: " ++ moment ++ "\nModify: " ++
    moment ++ "\nChange: " ++ moment ++ "\n Birth: " ++ moment ++ "\n"

/-- `stat`: tells about files. -/
def runStat : Tool := fun _ name args =>
  withOptions
    { short := "Lfc:t"
      long := [("dereference", "L"), ("format=", "c"), ("printf=", "printf"), ("terse", "t"),
        ("file-system", "f"), ("cached=", "cached")] }
    name args fun found operands => do
  if operands = [] then return ← misused name "missing operand"
  if let some word := argument? found "cached" then
    if let .error status ← wordChosen name "--cached" word [["default"], ["never"], ["always"]] then
      return status
  let mut status := 0
  for path in operands do
    match ← inspect path (has found "L") with
    | .error e =>
      let what := if has found "f" then "cannot read file system information for "
        else "cannot statx "
      complain name (what ++ quotedName path ++ ": " ++ e.reason)
      status := 1
    | .ok info =>
      let target ← if info.kind ≠ .link then pure none
        else do
          let text ← call (.readLink (← pathOf path))
          pure ((text.map ofText).toOption)
      let subject : StatSubject := ⟨path, info, target⟩
      let format := (found.reverse.find? fun o => o.1 == "c" || o.1 == "printf")
      match format with
      | none => put (statReport subject)
      | some (key, format) =>
        let raw := key == "printf"
        match statText subject raw (format.length + 1) format.toList with
        | .ok text => put (text ++ if raw then "" else "\n")
        | .error directive => return ← refuse name (quotedName directive ++ ": invalid directive")
  return status

end ScriptLang.Shell.Tool
