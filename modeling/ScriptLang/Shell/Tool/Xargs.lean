import ScriptLang.Shell.Tool.Lines

/-!
# Arguments from the input

`xargs` reads items and starts a program with them as arguments.

## Main definitions

* `Item`, `readItems` — the items of an input
* `runXargs` — the program of this name
-/

namespace ScriptLang.Shell.Tool

/-- An item, and whether a line ends with it. -/
structure Item where
  text : String
  endsLine : Bool

/-- How far items have been read. -/
structure ItemReading where
  found : List Item := []
  /-- The item that is under way, last character first. -/
  current : Option (List Char) := none

namespace ItemReading

/-- Adds a character to the item that is under way. -/
def add (s : ItemReading) (c : Char) : ItemReading :=
  { s with current := some (c :: s.current.getD []) }

/-- Ends the item that is under way. -/
def finish (s : ItemReading) (endsLine : Bool) : ItemReading :=
  match s.current with
  | some cs => { found := ⟨String.ofList cs.reverse, endsLine⟩ :: s.found }
  | none => s

end ItemReading

/-- Reads items between blanks, or lines if `whole` says so; quotes and backslashes protect
characters.  The reading ends at a quote that is not closed, whose name is told. -/
def quotedItems (whole : Bool) : Nat → List Char → ItemReading → ItemReading × Option String
  | 0, _, s => (s, none)
  | _, [], s => (s.finish true, none)
  | n + 1, c :: rest, s =>
    if c = '\'' ∨ c = '"' then
      let inside := rest.takeWhile fun d => d != c && d != '\n'
      match rest.drop inside.length with
      | d :: later =>
        if d = c then
          let s := { s with current := some (s.current.getD []) }
          quotedItems whole n later (inside.foldl ItemReading.add s)
        else (s, some (if c = '"' then "double" else "single"))
      | [] => (s, some (if c = '"' then "double" else "single"))
    else if c = '\\' then
      match rest with
      | d :: later => quotedItems whole n later (s.add d)
      | [] => (s.finish true, none)
    else if c = '\n' then
      if s.current.isSome then quotedItems whole n rest (s.finish true)
      else
        -- A line that ends in a blank goes on with the next one.
        quotedItems whole n rest s
    else if c = ' ' ∨ c = '\t' ∨ (isSpace c ∧ !whole) then
      if whole then quotedItems whole n rest (if s.current.isSome then s.add c else s)
      else quotedItems whole n rest (s.finish false)
    else quotedItems whole n rest (s.add c)

/-- The items of an input between separators. -/
def separatedItems (separator : Char) (content : String) : List Item :=
  let pieces := content.splitOn separator.toString
  let pieces := if pieces.getLast? = some "" then pieces.dropLast else pieces
  pieces.map fun text => ⟨text, true⟩

/-- The character that separates items, as a text names it. -/
def separator? (text : String) : Option Char :=
  match text.toList with
  | [c] => some c
  | ['\\', c] =>
    match c with
    | 'n' => some '\n'
    | 't' => some '\t'
    | 'r' => some '\r'
    | '0' => some '\x00'
    | 'a' => some '\x07'
    | 'b' => some '\x08'
    | 'f' => some '\x0c'
    | 'v' => some '\x0b'
    | '\\' => some '\\'
    | _ => none
  | '\\' :: 'x' :: ds => if ds.all (fun c => (digitValue? c).isSome) then
      some (Char.ofNat (valueOf 16 ds % 256)) else none
  | '\\' :: ds => if ds.all isOctal then some (Char.ofNat (valueOf 8 ds % 256)) else none
  | _ => none

/-- The items in groups, each for one start of the program. -/
def itemGroups (count lines : Option Nat) (room : Nat) (items : List Item) : List (List String) :=
  let step (s : List (List String) × List String × Nat × Nat) (item : Item) :
      List (List String) × List String × Nat × Nat :=
    let (groups, group, ended, size) := s
    let full := count.any (· ≤ group.length) ||
      (group != [] && room < size + item.text.length + 1)
    let (groups, group, ended, size) :=
      if full then (group.reverse :: groups, [], 0, 0) else (groups, group, ended, size)
    let group := item.text :: group
    let ended := if item.endsLine then ended + 1 else ended
    if lines.any (· ≤ ended) then (group.reverse :: groups, [], 0, 0)
    else (groups, group, ended, size + item.text.length + 1)
  let (groups, group, _, _) := items.foldl step ([], [], 0, 0)
  (if group = [] then groups else group.reverse :: groups).reverse

/-- An argument as a trace shows it. -/
def tracedArgument (arg : String) : String :=
  let special := ['\'', '"', '$', '*', '?', ';', '&', '|', '(', ')', '<', '>', '\\']
  if arg = "" ∨ arg.toList.any (fun c => isSpace c || c ∈ special) then quotedName arg else arg

/-- `xargs`: starts a program with the items of the input as arguments. -/
def runXargs : Tool := fun launch name args =>
  withOptions
    { short := "0a:d:E:eiI:i::L:l::n:oprs:txP:", strict := true
      long := [("null", "0"), ("arg-file=", "a"), ("delimiter=", "d"), ("eof?", "E"),
        ("replace?", "i"), ("max-lines?", "l"), ("max-args=", "n"), ("interactive", "p"),
        ("no-run-if-empty", "r"), ("max-chars=", "s"), ("verbose", "t"), ("exit", "x"),
        ("max-procs=", "P"), ("open-tty", "o")] }
    name args fun found operands => do
  for key in ["n", "L", "s", "P"] do
    if let some text := argument? found key then
      if (natural? text).isNone then
        complain name ("invalid number \"" ++ text ++ "\" for -" ++ key ++ " option")
        warn ("Try '" ++ name ++ " --help' for more information.\n")
        return 1
  let separator ← match argument? found "d" with
    | none => pure (if has found "0" then some '\x00' else none)
    | some text =>
      match separator? text with
      | some c => pure (some c)
      | none =>
        return ← refuse name ("Invalid input delimiter specification " ++ text ++
          ": the delimiter must be either a single character or an escape sequence " ++
          "starting with \\.")
  -- Of the ways to group items the last one counts.
  let modes := found.filterMap fun (key, value) => match key with
    | "I" => some ("I", value)
    | "i" => some ("I", if value = "" then "\x7b\x7d" else value)
    | "L" => some ("L", value)
    | "l" => some ("L", if value = "" then "1" else value)
    | "n" => some ("n", value)
    | _ => none
  let place := (modes.reverse.find? (·.1 == "I")).map Prod.snd
  let place := if (modes.getLast?.map Prod.fst) = some "L" then none
    else if modes.getLast? = some ("n", "1") ∨ (modes.getLast?.map Prod.fst) ≠ some "n" then place
    else none
  let lines := ((modes.reverse.find? (·.1 == "L")).bind fun m => natural? m.2)
  let count := ((modes.reverse.find? (·.1 == "n")).bind fun m => natural? m.2)
  let content ← match argument? found "a" with
    | some file =>
      match ← inputFrom file with
      | .ok content => pure content
      | .error e =>
        return ← refuse name ("Cannot open input file " ++ quotedName file ++ ": " ++ e.reason)
    | none => pure ((← readAll 0).toOption.getD "")
  let (items, problem) : List Item × Option String := match separator with
    | some c => (separatedItems c content, none)
    | none =>
      let (s, problem) := quotedItems place.isSome (content.length + 1) content.toList {}
      (s.found.reverse, problem)
  let items := match (argument? found "E").filter (· ≠ "") with
    | some ending => if separator.isSome then items else items.takeWhile (·.text != ending)
    | none => items
  let program := operands.headD "echo"
  let first := operands.tail
  let fixedSize := (program :: first).foldl (fun n a => n + a.length + 1) 0
  let room := ((argument? found "s").bind natural?).elim 131072 (· - fixedSize)
  let commands : List (List String) := match place with
    | some mark => items.map fun item => first.map (·.replace mark item.text)
    | none =>
      let groups := itemGroups count lines room items
      if groups ≠ [] then groups.map (first ++ ·)
      else if has found "r" ∨ problem.isSome then []
      else [first]
  let empty ← openChannel (.source [])
  let mut status := 0
  for command in commands do
    if has found "t" then
      warn (" ".intercalate ((program :: command).map tracedArgument) ++ "\n")
    match ← apart (fun m => m.connect 0 (some empty)) (launch program command) with
    | .ok 0 => pure ()
    | .ok 255 =>
      return ← refuse name (program ++ ": exited with status 255; aborting") 124
    | .ok _ => status := 123
    | .error e =>
      return ← refuse name (program ++ ": " ++ e.reason) (if e = .notFound then 127 else 126)
  if let some quote := problem then
    return ← refuse name ("unmatched " ++ quote ++
      " quote; by default quotes are special to xargs unless you use the -0 option")
  return status

end ScriptLang.Shell.Tool
