import ScriptLang.Shell.Format
import ScriptLang.Shell.Tool.Digest
import ScriptLang.Shell.Tool.Lines

/-!
# Bytes as text

`od` shows bytes as numbers or characters; `base64` and `base32` write them with letters and digits
only.

## Main definitions

* `DumpType` — a way to show bytes
* `runOd`, `runBase64`, `runBase32` — the programs of these names
-/

namespace ScriptLang.Shell.Tool

/-! ### Dumps -/

/-- A way to show bytes: how many belong together, how wide they are shown, and how. -/
structure DumpType where
  size : Nat
  width : Nat
  /-- The text of a number whose bytes have been put together. -/
  shown : Nat → String
  /-- Whether the characters are shown at the end of the line. -/
  trailer : Bool := false

/-- The names of the control characters. -/
def controlNames : Array String :=
  #["nul", "soh", "stx", "etx", "eot", "enq", "ack", "bel", "bs", "ht", "nl", "vt", "ff", "cr",
    "so", "si", "dle", "dc1", "dc2", "dc3", "dc4", "nak", "syn", "etb", "can", "em", "sub", "esc",
    "fs", "gs", "rs", "us", "sp"]

/-- A byte as a character or an escape. -/
def shownChar (n : Nat) : String :=
  match n with
  | 0 => "\\0"
  | 7 => "\\a"
  | 8 => "\\b"
  | 9 => "\\t"
  | 10 => "\\n"
  | 11 => "\\v"
  | 12 => "\\f"
  | 13 => "\\r"
  | n =>
    if 32 ≤ n ∧ n < 127 then (Char.ofNat n).toString
    else
      let ds := inBase 8 n
      String.ofList (List.replicate (3 - ds.length) '0') ++ ds

/-- A byte with a name if it is a control character; the highest bit is left out. -/
def namedChar (n : Nat) : String :=
  let n := n % 128
  if n = 127 then "del" else (controlNames[n]?).getD (Char.ofNat n).toString

/-- A number filled up with zeros. -/
def zeroFilled (width : Nat) (ds : String) : String :=
  String.ofList (List.replicate (width - ds.length) '0') ++ ds

/-- The number that a word of so many bytes stands for if its highest bit is a sign. -/
def signedWord (size n : Nat) : Int :=
  let top := Nat.pow 256 size
  if 2 * n < top then n else (n : Int) - top

/-- The way to show bytes that a letter and a size name. -/
def dumpType? (letter : Char) (size : Nat) : Option DumpType :=
  let column (widths : List Nat) : Nat := match size with
    | 1 => widths[0]?.getD 0
    | 2 => widths[1]?.getD 0
    | 4 => widths[2]?.getD 0
    | _ => widths[3]?.getD 0
  match letter with
  | 'o' =>
    let w := column [3, 6, 11, 22]
    some { size, width := w, shown := fun n => zeroFilled w (inBase 8 n) }
  | 'x' =>
    some { size, width := 2 * size, shown := fun n => zeroFilled (2 * size) (inBase 16 n) }
  | 'u' => some { size, width := column [3, 5, 10, 20], shown := fun n => toString n }
  | 'd' =>
    some { size, width := column [4, 6, 11, 20], shown := fun n => toString (signedWord size n) }
  | 'c' => some { size := 1, width := 3, shown := shownChar }
  | 'a' => some { size := 1, width := 3, shown := namedChar }
  | _ => none

/-- The ways to show bytes that a text such as `x1z` names. -/
def dumpTypes? (whole : String) : Nat → List Char → Except String (List DumpType)
  | 0, _ | _, [] => .ok []
  | n + 1, letter :: rest =>
    let sized := letter ∈ ['d', 'o', 'u', 'x']
    let digits := if sized then rest.takeWhile Char.isDigit else []
    let behind := rest.drop digits.length
    let (size, behind) : Nat × List Char :=
      if digits ≠ [] then (valueOf 10 digits, behind)
      else
        let unit := behind.head?.bind fun c => ([('C', 1), ('S', 2), ('I', 4), ('L', 8)]).lookup c
        match if sized then unit else none with
        | some size => (size, behind.tail)
        | none => (4, behind)
    let (trailer, behind) : Bool × List Char := match behind with
      | 'z' :: later => (true, later)
      | later => (false, later)
    match dumpType? letter size with
    | none =>
      .error ("invalid character '" ++ letter.toString ++ "' in type string " ++ quotedName whole)
    | some t =>
      if sized ∧ size ∉ [1, 2, 4, 8] then
        .error ("invalid type string " ++ quotedName whole ++
          ";\nthis system doesn't provide a " ++ toString size ++ "-byte integral type")
      else (dumpTypes? whole n behind).map ({ t with trailer } :: ·)

/-- A line of a dump in one of the ways; `total` is the width of the widest way. -/
def dumpLine (t : DumpType) (perLine total : Nat) (bytes : List UInt8) : String :=
  let fields := perLine / t.size
  let words := blocksIn t.size bytes.length bytes
  let pad := total - fields * (t.width + 1)
  let (text, _) := words.foldl (fun ((text, i) : String × Nat) w =>
    let left := pad * (fields - i) / fields
    let next := pad * (fields - i - 1) / fields
    let w := w ++ List.replicate (t.size - w.length) 0
    (text ++ paddedLeft (t.width + 1 + left - next) (t.shown (bigEndian w.reverse)), i + 1)) ("", 0)
  if t.trailer then
    let shown := bytes.map fun b =>
      if 32 ≤ b.toNat ∧ b.toNat < 127 then Char.ofNat b.toNat else '.'
    paddedRight total text ++ "  >" ++ String.ofList shown ++ "<"
  else text

/-- A place in a dump. -/
def dumpPlace (base : Char) (n : Nat) : String :=
  match base with
  | 'd' => zeroFilled 7 (toString n)
  | 'x' => zeroFilled 6 (inBase 16 n)
  | 'n' => ""
  | _ => zeroFilled 7 (inBase 8 n)

/-- The lines of a dump; lines that equal the one before are shown once as an asterisk. -/
def dumpLines (types : List DumpType) (base : Char) (perLine : Nat) (all : Bool) (start : Nat)
    (bytes : List UInt8) : List String :=
  let total := (types.map fun t => perLine / t.size * (t.width + 1)).foldl max 0
  let blocks := (blocksIn perLine bytes.length bytes).zipIdx
  let step (s : List String × Option (List UInt8) × Bool) (item : List UInt8 × Nat) :
      List String × Option (List UInt8) × Bool :=
    let (lines, last, starred) := s
    let (block, i) := item
    if !all ∧ last = some block ∧ block.length = perLine then
      (if starred then lines else "*" :: lines, last, true)
    else
      let place := dumpPlace base (start + i * perLine)
      let first := types.head?.elim "" fun t => dumpLine t perLine total block
      let others := types.tail.map fun t =>
        String.ofList (List.replicate place.length ' ') ++ dumpLine t perLine total block
      (others.reverse ++ (place ++ first) :: lines, some block, false)
  let (lines, _, _) := blocks.foldl step ([], none, false)
  let ending := if base = 'n' then [] else [dumpPlace base (start + bytes.length)]
  lines.reverse ++ ending

/-- `od`: shows bytes. -/
def runOd : Tool := fun _ name args =>
  withOptions
    { short := "A:abcdDeFfhHiIj:lLN:oOsS:t:vw::xX"
      long := [("address-radix=", "A"), ("skip-bytes=", "j"), ("read-bytes=", "N"),
        ("format=", "t"), ("output-duplicates", "v"), ("width?", "w"), ("strings?", "S")] }
    name args fun found operands => do
  let mut types : List DumpType := []
  for (key, value) in found do
    let text? : Option String := match key with
      | "t" => some value
      | "a" | "c" => some key
      | "b" => some "o1"
      | "d" => some "u2"
      | "D" => some "u4"
      | "o" => some "o2"
      | "O" => some "o4"
      | "s" => some "d2"
      | "i" => some "d4"
      | "l" | "I" | "L" => some "d8"
      | "x" | "h" => some "x2"
      | "X" | "H" => some "x4"
      | _ => none
    if let some text := text? then
      match dumpTypes? text (text.length + 1) text.toList with
      | .ok more => types := types ++ more
      | .error problem => return ← refuse name problem
  if types = [] then types := (dumpType? 'o' 2).toList
  let base := ((argument? found "A").bind fun text => text.toList.head?).getD 'o'
  if base ∉ ['o', 'd', 'x', 'n'] then
    return ← refuse name ("invalid output address radix '" ++ base.toString ++
      "'; it must be one character from [doxn]")
  let number (key : String) : Except String (Option Nat) :=
    match argument? found key with
    | none => .ok none
    | some text =>
      let amount := if text.startsWith "0x" then some (valueOf 16 (text.toList.drop 2))
        else amount? text
      match amount with
      | some n => .ok (some n)
      | none => .error ("invalid -" ++ key ++ " argument " ++ quotedName text)
  match number "j", number "N" with
  | .error text, _ | _, .error text => refuse name text
  | .ok skip, .ok limit =>
    let skip := skip.getD 0
    let least := (types.map DumpType.size).foldl max 1
    let perLine := match argument? found "w" with
      | none => 16
      | some "" => 32
      | some text => (natural? text).getD 16
    let wrongWidth := perLine % least ≠ 0 ∨ perLine = 0
    let perLine' := if wrongWidth then least else perLine
    let mut all : List Char := []
    let mut status := 0
    let mut opened := false
    for operand in inputs operands do
      match ← inputFrom operand with
      | .ok content =>
        opened := true
        all := all ++ content.toList
      | .error e =>
        complain name (fileName operand ++ ": " ++ e.reason)
        -- A directory can be opened, but not read.
        if e = .isDirectory then opened := true
        status := 1
    if !opened then return status
    if all.length < skip then
      return ← refuse name "cannot skip past end of combined input"
    if wrongWidth then
      complain name ("warning: invalid width " ++ toString perLine ++ "; using " ++
        toString perLine' ++ " instead")
    let part := all.drop skip
    let part := limit.elim part (part.take ·)
    let bytes := part.map fun c => UInt8.ofNat c.toNat
    put (unlines (dumpLines types base perLine' (has found "v") skip bytes))
    return status

/-! ### Letters and digits -/

/-- A way to write bytes with characters: the characters, how many of them belong together, and for
how many bytes they stand. -/
structure Alphabet where
  letters : Array Char
  group : Nat
  bytes : Nat

/-- The alphabet of 64 characters. -/
def alphabet64 : Alphabet :=
  ⟨"ABCDEFGHIJKLMNOPQRSTUVWXYZabcdefghijklmnopqrstuvwxyz0123456789+/".toList.toArray, 4, 3⟩

/-- The alphabet of 32 characters. -/
def alphabet32 : Alphabet :=
  ⟨"ABCDEFGHIJKLMNOPQRSTUVWXYZ234567".toList.toArray, 8, 5⟩

namespace Alphabet

/-- Bytes in an alphabet. -/
def encode (a : Alphabet) (bytes : List UInt8) : List Char :=
  let base := a.letters.size
  (blocksIn a.bytes bytes.length bytes).flatMap fun block =>
    let n := bigEndian (block ++ List.replicate (a.bytes - block.length) 0)
    let all := (List.range a.group).map fun i =>
      a.letters.getD (n / Nat.pow base (a.group - 1 - i) % base) '='
    -- So many characters are needed for the bytes that are there.
    let used := (block.length * a.group + a.bytes - 1) / a.bytes
    all.take used ++ List.replicate (a.group - used) '='

/-- The bytes that characters write, and whether all of them made sense. -/
def decode (a : Alphabet) (cs : List Char) : List UInt8 × Bool :=
  let base := a.letters.size
  (blocksIn a.group cs.length cs).foldl (fun (out, ok) block =>
    if !ok then (out, false)
    else
      let data := block.takeWhile (· != '=')
      let values := (data.takeWhile (a.letters.contains ·)).filterMap fun c =>
        a.letters.findIdx? (· == c)
      let count := values.length * a.bytes / a.group
      let n := (values ++ List.replicate (a.group - values.length) 0).foldl
        (fun n v => n * base + v) 0
      let bytes := (toBigEndian a.bytes n).take count
      let fits := block.length = a.group ∧ values.length = data.length ∧
        (block.drop data.length).all (· == '=') ∧
        values.length = (count * a.group + a.bytes - 1) / a.bytes
      (out ++ bytes, fits)) ([], true)

end Alphabet

/-- A program that writes bytes in an alphabet, and reads them back. -/
def alphabetTool (a : Alphabet) : Tool := fun _ name args =>
  withOptions
    { short := "diw:", long := [("decode", "d"), ("ignore-garbage", "i"), ("wrap=", "w")] }
    name args fun found operands => do
  if let some extra := operands[1]? then
    return ← misused name ("extra operand " ++ quotedName extra)
  let wrap ← match argument? found "w" with
    | none => pure 76
    | some text =>
      match natural? text with
      | some n => pure n
      | none => return ← refuse name ("invalid wrap size: " ++ quotedName text)
  let operand := operands.headD "-"
  match ← inputFrom operand with
  | .error e =>
    if e = .isDirectory then refuse name ("read error: " ++ e.reason)
    else refuse name (fileName operand ++ ": " ++ e.reason)
  | .ok content =>
    if has found "d" then
      let cs := content.toList.filter fun c =>
        c != '\n' && (!has found "i" || a.letters.contains c || c == '=')
      let (bytes, ok) := a.decode cs
      put (ofBytes bytes)
      if ok then return 0 else refuse name "invalid input"
    else
      let text := a.encode (toBytes content)
      if wrap = 0 then put (String.ofList text)
      else put (unlines ((blocksIn wrap text.length text).map String.ofList))
      return 0

/-- `base64`. -/
def runBase64 : Tool := alphabetTool alphabet64

/-- `base32`. -/
def runBase32 : Tool := alphabetTool alphabet32

end ScriptLang.Shell.Tool
