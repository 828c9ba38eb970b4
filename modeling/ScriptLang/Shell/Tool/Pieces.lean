import ScriptLang.Shell.Tool.Move
import ScriptLang.Shell.Tool.Lines

/-!
# Sizes, names and pieces of files

Programs that cut files to a size or into pieces, and that give files other names.

## Main definitions

* `runTruncate`, `runSplit`, `runLink`, `runUnlink` — the programs of these names
-/

namespace ScriptLang.Shell.Tool

/-- `truncate`: cuts files to a size, or fills them up. -/
def runTruncate : Tool := fun _ name args =>
  withOptions
    { short := "cor:s:"
      long := [("no-create", "c"), ("io-blocks", "o"), ("reference=", "r"), ("size=", "s")] }
    name args fun found operands => do
  let size? := argument? found "s"
  let reference? := argument? found "r"
  if size?.isNone ∧ reference?.isNone then
    return ← misused name "you must specify either '--size' or '--reference'"
  if operands = [] then return ← misused name "missing file operand"
  let base ← match reference? with
    | none => pure none
    | some path =>
      match ← inspect path with
      | .ok info => pure (some info.size)
      | .error e => return ← refuse name ("cannot stat " ++ quotedName path ++ ": " ++ e.reason)
  let text := size?.getD "+0"
  let sign := text.toList.head?.filter (· ∈ ['+', '-', '<', '>', '/', '%'])
  let digits := if sign.isSome then (text.drop 1).toString else text
  match amount? digits with
  | none => refuse name ("Invalid number: " ++ quotedName text)
  | some n =>
    let mut status := 0
    for path in operands do
      if !has found "c" then
        if let .error e ← writeFile path "" true then
          complain name ("cannot open " ++ quotedName path ++ " for writing: " ++ e.reason)
          status := 1
          continue
      let old ← contentOf path
      match old with
      | .error .notFound => continue
      | .error e =>
        complain name ("cannot open " ++ quotedName path ++ " for writing: " ++ e.reason)
        status := 1
        continue
      | .ok _ => pure ()
      let content := old.toOption.getD ""
      let from_ := base.getD content.length
      let rounded (up : Bool) : Nat :=
        if n = 0 then from_ else (from_ + (if up then n - 1 else 0)) / n * n
      let target := match sign with
        | some '+' => from_ + n
        | some '-' => from_ - n
        | some '<' => min from_ n
        | some '>' => max from_ n
        | some '/' => rounded false
        | some '%' => rounded true
        | _ => n
      let filled := String.ofList
        (content.toList.take target ++ List.replicate (target - content.length) '\x00')
      if let .error e ← writeFile path filled then
        complain name ("cannot open " ++ quotedName path ++ " for writing: " ++ e.reason)
        status := 1
    return status

/-- The ending of the name of a piece. -/
def pieceName (digits : Bool) (width i : Nat) : String :=
  let base := if digits then 10 else 26
  let first := if digits then '0' else 'a'
  let rec go : Nat → Nat → List Char → List Char
    | 0, _, out => out
    | n + 1, i, out => go n (i / base) (Char.ofNat (first.toNat + i % base) :: out)
  String.ofList (go width i [])

/-- A list in parts of so many elements. -/
def partsOf {α : Type} (count : Nat) : Nat → List α → List (List α)
  | 0, _ | _, [] => []
  | n + 1, items => items.take count :: partsOf count n (items.drop count)

/-- `split`: cuts a file into pieces. -/
def runSplit : Tool := fun _ name args =>
  withOptions
    { short := "a:b:C:dl:n:x"
      long := [("suffix-length=", "a"), ("bytes=", "b"), ("line-bytes=", "C"), ("lines=", "l"),
        ("numeric-suffixes?", "d"), ("number=", "n"), ("additional-suffix=", "suffix")] }
    name args fun found operands => do
  if let some extra := operands[2]? then
    return ← misused name ("extra operand " ++ quotedName extra)
  let input := operands.headD "-"
  let start := operands[1]?.getD "x"
  let counted (key what : String) : Except String (Option Nat) :=
    match argument? found key with
    | none => .ok none
    | some text =>
      match amount? text with
      | some 0 | none => .error ("invalid number of " ++ what ++ ": " ++ quotedName text)
      | some n => .ok (some n)
  match counted "b" "bytes", counted "l" "lines", counted "n" "chunks" with
  | .error text, _, _ | _, .error text, _ | _, _, .error text => refuse name text
  | .ok bytes, .ok lines, .ok chunks =>
    match ← inputFrom input with
    | .error e =>
      refuse name ("cannot open " ++ quotedName input ++ " for reading: " ++ e.reason)
    | .ok content =>
      let cs := content.toList
      let byLines (count : Nat) : List String :=
        let (ls, ended) := splitLines cs
        let ls := if ended then ls.map (· ++ "\n")
          else ls.dropLast.map (· ++ "\n") ++ ls.getLast?.toList
        (partsOf count ls.length ls).map String.join
      let pieces : List String := match bytes, chunks with
        | some n, _ => (partsOf n cs.length cs).map String.ofList
        | none, some k =>
          -- The first pieces are longer if the size cannot be divided.
          (List.range k).map fun i =>
            let size := cs.length / k
            let extra := cs.length % k
            let first := i * size + min i extra
            let count := size + (if i < extra then 1 else 0)
            String.ofList ((cs.drop first).take count)
        | none, none => byLines (lines.getD 1000)
      let width := ((argument? found "a").bind natural?).getD 2
      let ending := (argument? found "suffix").getD ""
      for (piece, i) in pieces.zipIdx do
        let path := start ++ pieceName (has found "d") width i ++ ending
        if let .error e ← writeFile path piece then
          return ← refuse name (fileName path ++ ": " ++ e.reason)
      return 0

/-- `link`: gives a file one more name. -/
def runLink : Tool := fun _ name args =>
  withOptions { short := "" } name args fun _ operands => do
  match operands with
  | [] => misused name "missing operand"
  | [one] => misused name ("missing operand after " ++ quotedName one)
  | [source, target] =>
    let result ← do
      let from_ ← pathOf source
      changeAt target fun p => .addName from_ p
    match result with
    | .ok _ => return 0
    | .error e =>
      refuse name ("cannot create link " ++ quotedName target ++ " to " ++ quotedName source ++
        ": " ++ e.reason)
  | _ :: _ :: extra :: _ => misused name ("extra operand " ++ quotedName extra)

/-- `unlink`: removes a name of a file. -/
def runUnlink : Tool := fun _ name args =>
  withOptions { short := "" } name args fun _ operands => do
  match operands with
  | [] => misused name "missing operand"
  | [path] =>
    match ← changeAt path .remove with
    | .ok _ => return 0
    | .error e => refuse name ("cannot unlink " ++ quotedName path ++ ": " ++ e.reason)
  | _ :: extra :: _ => misused name ("extra operand " ++ quotedName extra)

end ScriptLang.Shell.Tool
