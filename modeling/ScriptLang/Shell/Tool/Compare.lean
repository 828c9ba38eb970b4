import ScriptLang.Shell.Calendar
import ScriptLang.Shell.Tool.Move

/-!
# Comparing files

`cmp` finds the first byte in which two files differ, and `diff` the lines.

## Main definitions

* `Hunk`, `hunks` — the parts in which two lists of lines differ
* `runCmp`, `runDiff` — the programs of these names
-/

namespace ScriptLang.Shell.Tool

/-- Complains about how a tool was used; the second line names the tool, too. -/
def misusedTwice (name text : String) : Action Nat := do
  complain name text
  complain name ("Try '" ++ name ++ " --help' for more information.")
  return 2

/-! ### Bytes -/

/-- The places from one on at which two texts differ, and the characters there. -/
def differences (a b : List Char) : List (Nat × Char × Char) :=
  ((a.zip b).zipIdx 1).filterMap fun ((x, y), i) => if x = y then none else some (i, x, y)

/-- A character as `cmp` shows it. -/
def shownByte (c : Char) : String :=
  let low (c : Char) : String :=
    if c.toNat < 32 then "^" ++ (Char.ofNat (c.toNat + 64)).toString
    else if c.toNat = 127 then "^?"
    else c.toString
  if c.toNat < 128 then low c else "M-" ++ low (Char.ofNat (c.toNat - 128))

/-- `cmp`: the first byte in which two files differ. -/
def runCmp : Tool := fun _ name args => do
  let t : OptionTable :=
    { short := "bi:ln:sv"
      long := [("print-bytes", "b"), ("ignore-initial=", "i"), ("verbose", "l"), ("bytes=", "n"),
        ("silent", "s"), ("quiet", "s")] }
  match t.read args with
  | .error text => misusedTwice name text
  | .ok (found, operands) =>
    let (first, second) ← match operands with
      | [] => return ← misusedTwice name ("missing operand after " ++ quotedName name)
      | [first] => pure (first, "-")
      | first :: second :: rest =>
        if let some extra := rest[2]? then
          return ← misusedTwice name ("extra operand " ++ quotedName extra)
        pure (first, second)
    let limit ← match argument? found "n" with
      | none => pure none
      | some text =>
        match natural? text with
        | some n => pure (some n)
        | none =>
          return ← misusedTwice name ("invalid --bytes value " ++ quotedName text)
    let skips := ((argument? found "i").elim [] (·.splitOn ":")) ++ operands.drop 2
    let skipped (i : Nat) : Nat := ((skips[i]?.orElse fun _ => skips.head?).bind natural?).getD 0
    let second? := if 3 ≤ operands.length ∧ skips.length = 1 then 0 else skipped 1
    let silent := has found "s"
    let read (operand : String) : Action (Option (List Char)) := do
      match ← inputFrom operand with
      | .ok content => return some content.toList
      | .error e =>
        if !silent then complain name (operand ++ ": " ++ e.reason)
        return none
    -- Both files are opened before either is read.
    let mut opened := true
    for operand in [first, second] do
      if opened && operand ≠ "-" then
        if let .error e ← inspect operand then
          if !silent then complain name (operand ++ ": " ++ e.reason)
          opened := false
    if !opened then return 2
    let same := first = second ∨ (← identityOf first true) = (← identityOf second true)
    if same ∧ skipped 0 = second? then return 0
    match ← read first with
    | none => return 2
    | some a =>
      match ← read second with
      | none => return 2
      | some b =>
        let cut (cs : List Char) (skip : Nat) : List Char :=
          let cs := cs.drop skip
          limit.elim cs (cs.take ·)
        let a := cut a (skipped 0)
        let b := cut b second?
        let found' := differences a b
        let common := min a.length b.length
        let octal (c : Char) : String := paddedLeft 3 (inBase 8 c.toNat)
        let shorter := if a.length < b.length then first else second
        let short := if a.length < b.length then a else b
        let width := (toString (max a.length b.length)).length
        if has found "l" then
          for (i, x, y) in found' do
            if !silent then
              put (paddedLeft width (toString i) ++ " " ++ octal x ++
                (if has found "b" then " " ++ paddedRight 4 (shownByte x) else "") ++ " " ++
                octal y ++ (if has found "b" then " " ++ shownByte y else "") ++ "\n")
          if a.length ≠ b.length then
            if !silent then
              complain name (if common = 0 then "EOF on " ++ shorter ++ " which is empty"
                else "EOF on " ++ shorter ++ " after byte " ++ toString common)
            return 1
          return if found' = [] then 0 else 1
        match found' with
        | (i, x, y) :: _ =>
          if !silent then
            let line := (a.take (i - 1)).count '\n' + 1
            let bytes := has found "b"
            put (first ++ " " ++ second ++ " differ: " ++ (if bytes then "byte " else "char ") ++
              toString i ++ ", line " ++ toString line ++
              (if bytes then " is " ++ octal x ++ " " ++ shownByte x ++ " " ++ octal y ++ " " ++
                shownByte y else "") ++ "\n")
          return 1
        | [] =>
          if a.length = b.length then return 0
          if !silent then
            let lines := short.count '\n'
            let place := if short.getLast? = some '\n' then "line " ++ toString lines
              else "in line " ++ toString (lines + 1)
            complain name (if common = 0 then "EOF on " ++ shorter ++ " which is empty"
              else "EOF on " ++ shorter ++ " after byte " ++ toString common ++ ", " ++ place)
          return 1

/-! ### Lines -/

/-- A line, and whether it has an end. -/
abbrev DiffLine := String × Bool

/-- The lines of a text. -/
def diffLines (content : String) : List DiffLine :=
  let (lines, ended) := splitLines content.toList
  if ended then lines.map fun line => (line, true)
  else lines.dropLast.map (fun line => (line, true)) ++
    (lines.getLast?.map fun line => (line, false)).toList

/-- How lines are compared, and how the differences are shown. -/
structure DiffStyle where
  ignoreCase : Bool
  ignoreSpace : Bool
  squeezeSpace : Bool
  ignoreTrailing : Bool
  ignoreBlank : Bool
  brief : Bool
  sameToo : Bool
  /-- The letter of the way in which differences are shown; none stands for the usual one. -/
  shape : Option Char
  context : Nat
  labels : List String
  recursive : Bool
  absentEmpty : Bool
  /-- The options as they are repeated in headings. -/
  given : String

/-- What two lines have in common if they count as equal. -/
def DiffStyle.key (s : DiffStyle) (line : DiffLine) : String × Bool :=
  let cs := line.1.toList
  let cs := if s.ignoreCase then cs.map Char.toLower else cs
  let trimmed (cs : List Char) : List Char := (cs.reverse.dropWhile isSpace).reverse
  let squeezed (cs : List Char) : List Char :=
    (cs.foldl (fun out c => match isSpace c, out with
      | true, ' ' :: _ => out
      | true, _ => ' ' :: out
      | false, _ => c :: out) []).reverse
  let cs :=
    if s.ignoreSpace then cs.filter (!isSpace ·)
    else if s.squeezeSpace then squeezed (trimmed cs)
    else if s.ignoreTrailing then trimmed cs
    else cs
  (String.ofList cs, line.2 || s.ignoreSpace || s.squeezeSpace || s.ignoreTrailing)

/-- A part in which two lists differ: where it begins in each, and how much of each it takes. -/
structure Hunk where
  start : Nat
  count : Nat
  start' : Nat
  count' : Nat

/-- The lengths of the longest common parts of a list and of the rests of another one, for every
rest of the first. -/
def commonLengths (a b : Array (String × Bool)) : Array (Array Nat) :=
  let row (x : String × Bool) (below : Array Nat) : Array Nat :=
    -- The row is built from its end.
    ((List.range b.size).reverse.foldl (fun (row : List Nat) j =>
      let n := if b[j]? = some x then below.getD (j + 1) 0 + 1
        else max (below.getD j 0) (row.headD 0)
      n :: row) [0]).toArray
  let rows := a.toList.foldr (fun x rows => row x (rows.headD #[]) :: rows)
    [(List.replicate (b.size + 1) 0).toArray]
  rows.toArray

/-- The parts in which two lists differ, each as late as it can be. -/
def hunksFrom (a b : Array (String × Bool)) (lengths : Array (Array Nat)) :
    Nat → Nat → Nat → Option Hunk → List Hunk
  | 0, _, _, h => h.toList
  | n + 1, i, j, h =>
    let length (i j : Nat) : Nat := ((lengths[i]?.getD #[])[j]?).getD 0
    let here := h.getD ⟨i, 0, j, 0⟩
    if i = a.size ∧ j = b.size then h.toList
    else if i < a.size ∧ a[i]? = b[j]? then
      h.toList ++ hunksFrom a b lengths n (i + 1) (j + 1) none
    else if j = b.size ∨ (i < a.size ∧ length i (j + 1) ≤ length (i + 1) j) then
      hunksFrom a b lengths n (i + 1) j (some { here with count := here.count + 1 })
    else hunksFrom a b lengths n i (j + 1) (some { here with count' := here.count' + 1 })

/-- The parts in which two lists of lines differ. -/
def hunks (s : DiffStyle) (a b : List DiffLine) : List Hunk :=
  let x := (a.map s.key).toArray
  let y := (b.map s.key).toArray
  -- What the lists have in common at their ends does not matter.
  let front := ((x.toList.zip y.toList).takeWhile fun p => p.1 == p.2).length
  let back := (((x.toList.drop front).reverse.zip (y.toList.drop front).reverse).takeWhile
    fun p => p.1 == p.2).length
  let x' := x.extract front (x.size - back)
  let y' := y.extract front (y.size - back)
  let found := hunksFrom x' y' (commonLengths x' y') (x'.size + y'.size + 1) 0 0 none
  let found := found.map fun h => { h with start := h.start + front, start' := h.start' + front }
  -- A part moves on while the line behind it equals its first one.
  let rec shift : Nat → Array (String × Bool) → Nat → Nat → Nat
    | 0, _, start, _ => start
    | n + 1, lines, start, stop =>
      if stop < lines.size ∧ lines[start]? = lines[stop]? then shift n lines (start + 1) (stop + 1)
      else start
  let moved (h : Hunk) : Hunk :=
    if h.count' = 0 then
      let start := shift back x h.start (h.start + h.count)
      { h with start, start' := h.start' + (start - h.start) }
    else if h.count = 0 then
      let start' := shift back y h.start' (h.start' + h.count')
      { h with start', start := h.start + (start' - h.start') }
    else h
  let found := match found.reverse with
    | last :: earlier => (moved last :: earlier).reverse
    | [] => []
  if s.ignoreBlank then
    found.filter fun h =>
      ((a.drop h.start).take h.count ++ (b.drop h.start').take h.count').any (·.1 ≠ "")
  else found

/-- A line behind a mark, with a remark if it has no end. -/
def markedLine (mark : String) (line : DiffLine) : String :=
  mark ++ line.1 ++ "\n" ++ (if line.2 then "" else "\\ No newline at end of file\n")

/-- The part of a list from a place on. -/
def part (lines : List DiffLine) (start count : Nat) : List DiffLine :=
  (lines.drop start).take count

/-- Line numbers as the usual output shows them. -/
def lineRange (start count : Nat) : String :=
  if count ≤ 1 then toString (start + count)
  else toString (start + 1) ++ "," ++ toString (start + count)

/-- A difference in the usual output. -/
def normalHunk (a b : List DiffLine) (h : Hunk) : String :=
  let letter := if h.count = 0 then "a" else if h.count' = 0 then "d" else "c"
  lineRange h.start h.count ++ letter ++ lineRange h.start' h.count' ++ "\n" ++
    String.join ((part a h.start h.count).map (markedLine "< ")) ++
    (if h.count ≠ 0 ∧ h.count' ≠ 0 then "---\n" else "") ++
    String.join ((part b h.start' h.count').map (markedLine "> "))

/-- The differences as commands of an editor, last one first. -/
def editHunk (b : List DiffLine) (h : Hunk) : String :=
  let letter := if h.count = 0 then "a" else if h.count' = 0 then "d" else "c"
  lineRange h.start h.count ++ letter ++ "\n" ++
    (if h.count' = 0 then ""
      else String.join ((part b h.start' h.count').map fun line => line.1 ++ "\n") ++ ".\n")

/-- A difference in the form for files under revision. -/
def revisionHunk (b : List DiffLine) (h : Hunk) : String :=
  (if h.count = 0 then ""
    else "d" ++ toString (h.start + 1) ++ " " ++ toString h.count ++ "\n") ++
    (if h.count' = 0 then ""
      else "a" ++ toString (h.start + h.count) ++ " " ++ toString h.count' ++ "\n" ++
        String.join ((part b h.start' h.count').map fun line => line.1 ++ "\n"))

/-- The differences in groups whose surroundings meet. -/
def grouped (context : Nat) (hs : List Hunk) : List (List Hunk) :=
  (hs.foldl (fun (groups : List (List Hunk)) h => match groups with
    | (last :: group) :: earlier =>
      if h.start ≤ last.start + last.count + 2 * context then (h :: last :: group) :: earlier
      else [h] :: groups
    | _ => [h] :: groups) []).reverse.map List.reverse

/-- Line numbers as the unified output shows them. -/
def unifiedRange (start count : Nat) : String :=
  if count = 0 then toString start ++ ",0"
  else if count = 1 then toString (start + 1)
  else toString (start + 1) ++ "," ++ toString count

/-- A group of differences with what surrounds them: where the group begins and ends in both
lists. -/
structure HunkGroup where
  hunks : List Hunk
  start : Nat
  stop : Nat
  start' : Nat
  stop' : Nat

/-- A group with its surroundings. -/
def surrounded (context : Nat) (a b : List DiffLine) (hs : List Hunk) : HunkGroup :=
  let first := hs.headD ⟨0, 0, 0, 0⟩
  let last := hs.getLast?.getD first
  let before := min context first.start
  let behind := min context (a.length - (last.start + last.count))
  { hunks := hs
    start := first.start - before
    stop := last.start + last.count + behind
    start' := first.start' - before
    stop' := min b.length (last.start' + last.count' + behind) }

/-- A group of differences in the unified output. -/
def unifiedGroup (a b : List DiffLine) (g : HunkGroup) : String :=
  let (text, done) := g.hunks.foldl (fun (text, done) h =>
    (text ++ String.join ((part a done (h.start - done)).map (markedLine " ")) ++
      String.join ((part a h.start h.count).map (markedLine "-")) ++
      String.join ((part b h.start' h.count').map (markedLine "+")), h.start + h.count))
    ("", g.start)
  "@@ -" ++ unifiedRange g.start (g.stop - g.start) ++ " +" ++
    unifiedRange g.start' (g.stop' - g.start') ++ " @@\n" ++ text ++
    String.join ((part a done (g.stop - done)).map (markedLine " "))

/-- Line numbers as the context output shows them. -/
def contextRange (start stop : Nat) : String :=
  if stop ≤ start + 1 then toString stop else toString (start + 1) ++ "," ++ toString stop

/-- One side of a group in the context output. -/
def contextSide (lines : List DiffLine) (start stop : Nat) (mark : String)
    (spans : List (Nat × Nat × Bool)) : String :=
  if spans.all (·.2.1 == 0) then ""
  else
    let (text, done) := spans.foldl (fun (text, done) (first, count, changed) =>
      (text ++ String.join ((part lines done (first - done)).map (markedLine "  ")) ++
        String.join ((part lines first count).map
          (markedLine ((if changed then "!" else mark) ++ " "))), first + count)) ("", start)
    text ++ String.join ((part lines done (stop - done)).map (markedLine "  "))

/-- A group of differences in the context output. -/
def contextGroup (a b : List DiffLine) (g : HunkGroup) : String :=
  let changed (h : Hunk) : Bool := h.count != 0 && h.count' != 0
  "***************\n*** " ++ contextRange g.start g.stop ++ " ****\n" ++
    contextSide a g.start g.stop "-" (g.hunks.map fun h => (h.start, h.count, changed h)) ++
    "--- " ++ contextRange g.start' g.stop' ++ " ----\n" ++
    contextSide b g.start' g.stop' "+" (g.hunks.map fun h => (h.start', h.count', changed h))

/-- Two columns with a mark between them. -/
def sideBySide (a b : List DiffLine) (hs : List Hunk) : String :=
  let fill (column target : Nat) : String :=
    -- Tabs as far as they go, then blanks.
    let tabs := target / 8 - column / 8
    if tabs = 0 then String.ofList (List.replicate (target - column) ' ')
    else String.ofList (List.replicate tabs '\t') ++
      String.ofList (List.replicate (target % 8) ' ')
  let row (left : Option DiffLine) (mark : String) (right : Option DiffLine) : String :=
    let l := String.ofList ((left.elim "" Prod.fst).toList.take 61)
    let r := String.ofList ((right.elim "" Prod.fst).toList.take 61)
    if mark = " " then l ++ fill l.length 64 ++ r ++ "\n"
    else
      let start := l ++ fill l.length 62 ++ mark
      if right.isNone then start ++ "\n" else start ++ "\t" ++ r ++ "\n"
  let same (start start' count : Nat) : String :=
    String.join (((part a start count).zip (part b start' count)).map fun (x, y) =>
      row (some x) " " (some y))
  let (text, done, done') := hs.foldl (fun (text, done, done') h =>
    let old := part a h.start h.count
    let new := part b h.start' h.count'
    let paired := min h.count h.count'
    (text ++ same done done' (h.start - done) ++
      String.join ((old.zip new).map fun (x, y) => row (some x) "|" (some y)) ++
      String.join ((old.drop paired).map fun x => row (some x) "<" none) ++
      String.join ((new.drop paired).map fun y => row none ">" (some y)),
      h.start + h.count, h.start' + h.count')) ("", 0, 0)
  text ++ same done done' (a.length - done)

/-- The heading of a file in the unified and in the context output. -/
def headingOf (s : DiffStyle) (i : Nat) (name : String) : Action String := do
  match s.labels[i]? with
  | some label => return label
  | none =>
    let m : Moment ← match ← inspect name with
      | .ok info => pure (Moment.ofClock info.modified)
      | .error _ => pure (Moment.ofClock (← call .clock))
    let shape := if s.shape = some 'c' then "%a %b %e %H:%M:%S %Y" else "%Y-%m-%d %H:%M:%S.%N %z"
    return name ++ "\t" ++ m.format shape

/-- Shows the differences between two texts; the status tells whether there are any. -/
def diffTexts (s : DiffStyle) (first second a b : String) (headed : Bool) : Action Nat := do
  let x := diffLines a
  let y := diffLines b
  let hs := if a = b then [] else hunks s x y
  let same : Action Nat := do
    if s.sameToo then put ("Files " ++ first ++ " and " ++ second ++ " are identical\n")
    return 0
  if hs = [] ∧ s.shape ≠ some 'y' then return ← same
  if s.brief then
    put ("Files " ++ first ++ " and " ++ second ++ " differ\n")
    return 1
  if a.contains '\x00' ∨ b.contains '\x00' then
    put ("Binary files " ++ first ++ " and " ++ second ++ " differ\n")
    return 1
  let shown (i : Nat) (name : String) : String := fileName ((s.labels[i]?).getD name)
  if headed then put ("diff " ++ s.given ++ shown 0 first ++ " " ++ shown 1 second ++ "\n")
  let groups := (grouped s.context hs).map (surrounded s.context x y)
  match s.shape with
  | some 'u' =>
    put ("--- " ++ (← headingOf s 0 first) ++ "\n+++ " ++ (← headingOf s 1 second) ++ "\n")
    put (String.join (groups.map (unifiedGroup x y)))
  | some 'c' =>
    put ("*** " ++ (← headingOf s 0 first) ++ "\n--- " ++ (← headingOf s 1 second) ++ "\n")
    put (String.join (groups.map (contextGroup x y)))
  | some 'y' => put (sideBySide x y hs)
  | some 'e' => put (String.join (hs.reverse.map (editHunk y)))
  | some 'n' => put (String.join (hs.map (revisionHunk y)))
  | _ => put (String.join (hs.map (normalHunk x y)))
  return if hs = [] then 0 else 1

/-- Compares two files or directories; the status tells whether they differ. -/
def diffPaths (name : String) (s : DiffStyle) : Nat → Bool → String → String → Action Nat
  | 0, _, _, _ => return 2
  | n + 1, top, first, second => do
    let isDir (path : String) : Action Bool := do
      if path = "-" then return false else isDirectory path
    let firstIsDir ← isDir first
    let secondIsDir ← isDir second
    let alike := first ≠ "-" ∧ (← identityOf first true).isSome ∧
      (← identityOf first true) = (← identityOf second true)
    if alike ∧ s.shape ≠ some 'y' then
      if s.sameToo ∧ !firstIsDir then
        put ("Files " ++ first ++ " and " ++ second ++ " are identical\n")
      return 0
    if firstIsDir && secondIsDir then
      let names := (← namesIn first).toOption.getD []
      let names' := (← namesIn second).toOption.getD []
      let mut status := 0
      for entry in sorted (names ++ names').eraseDups do
        let path := joinedPath first entry
        let path' := joinedPath second entry
        if !s.absentEmpty && (entry ∉ names || entry ∉ names') then
          put ("Only in " ++ (if entry ∈ names then first else second) ++ ": " ++ entry ++ "\n")
          status := max status 1
        else
          let subdirs := (← isDirectory path) && (← isDirectory path')
          if subdirs && !s.recursive then
            put ("Common subdirectories: " ++ path ++ " and " ++ path' ++ "\n")
          else
            status := max status (← diffPaths name s n false path path')
      return status
    else
      let lacking (path : String) : Action (Option IoError) := do
        if path = "-" then return none
        match ← inspect path with
        | .ok _ => return none
        | .error e => return if s.absentEmpty && e = .notFound then none else some e
      let mut missing := false
      for path in [first, second] do
        if let some e ← lacking path then
          complain name (path ++ ": " ++ e.reason)
          missing := true
      if missing then return 2
      let first := if firstIsDir && top then joinedPath first (baseOf second) else first
      let second := if secondIsDir && top then joinedPath second (baseOf first) else second
      if firstIsDir != secondIsDir && !top then
        let kind (dir : Bool) : String := if dir then "directory" else "regular file"
        put ("File " ++ first ++ " is a " ++ kind firstIsDir ++ " while file " ++ second ++
          " is a " ++ kind secondIsDir ++ "\n")
        return 1
      let read (path : String) : Action (Option String) := do
        match ← inputFrom path with
        | .ok content => return some content
        | .error e =>
          if s.absentEmpty && e = .notFound then return some ""
          complain name (path ++ ": " ++ e.reason)
          return none
      let a? ← read first
      let b? ← read second
      match a?, b? with
      | some a, some b => diffTexts s first second a b (!top)
      | _, _ => return 2

/-- `diff`: the lines in which files differ. -/
def runDiff : Tool := fun _ name args => do
  let t : OptionTable :=
    { short := "abBcC:dD:eEfF:hHiI:lL:nNpPqrsS:tTuU:vwW:x:X:yZ"
      long := [("brief", "q"), ("report-identical-files", "s"), ("unified?", "U"),
        ("context?", "C"), ("ed", "e"), ("rcs", "n"), ("side-by-side", "y"), ("normal", "normal"),
        ("label=", "L"), ("recursive", "r"), ("new-file", "N"), ("ignore-case", "i"),
        ("ignore-all-space", "w"), ("ignore-space-change", "b"), ("ignore-trailing-space", "Z"),
        ("ignore-blank-lines", "B"), ("text", "a"), ("width=", "W"), ("color?", "color"),
        ("minimal", "d"), ("strip-trailing-cr", "cr"), ("exclude=", "x")] }
  match t.read args with
  | .error text => misusedTwice name text
  | .ok (found, operands) =>
    match operands with
    | [] => misusedTwice name ("missing operand after " ++ quotedName (args.getLast?.getD name))
    | [one] => misusedTwice name ("missing operand after " ++ quotedName one)
    | first :: second :: rest =>
      if let some extra := rest.head? then
        return ← misusedTwice name ("extra operand " ++ quotedName extra)
      let shapes := found.filterMap fun (key, value) => match key with
        | "u" | "U" => some ('u', natural? value)
        | "c" | "C" => some ('c', natural? value)
        | "e" => some ('e', none)
        | "n" => some ('n', none)
        | "y" => some ('y', none)
        | _ => none
      let options := (operands.foldr (fun operand as => as.erase operand) args.reverse).reverse
      let s : DiffStyle :=
        { ignoreCase := has found "i", ignoreSpace := has found "w"
          squeezeSpace := has found "b", ignoreTrailing := has found "Z"
          ignoreBlank := has found "B", brief := has found "q", sameToo := has found "s"
          shape := shapes.getLast?.map Prod.fst
          context := ((shapes.filterMap Prod.snd).getLast?).getD 3
          labels := (found.filter (·.1 == "L")).map Prod.snd
          recursive := has found "r", absentEmpty := has found "N"
          given := String.join (options.map (fileName · ++ " ")) }
      diffPaths name s maxDepth true first second

end ScriptLang.Shell.Tool
