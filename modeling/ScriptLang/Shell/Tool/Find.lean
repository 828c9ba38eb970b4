import ScriptLang.Shell.Calendar
import ScriptLang.Shell.Format
import ScriptLang.Shell.Regex.Read
import ScriptLang.Shell.Tool.Move

/-!
# Finding files

`find` walks through directories and does with every file what an expression says.

## Main definitions

* `FindTest`, `FindExpr` — what can be asked of a file, and done with it
* `FindReader` — how expressions are read
* `runFind` — the program of this name
-/

namespace ScriptLang.Shell.Tool

/-- How a number is compared with a bound. -/
inductive Bound where
  | exactly (n : Nat)
  | more (n : Nat)
  | less (n : Nat)

/-- Whether a number keeps to a bound. -/
def Bound.holds (b : Bound) (n : Nat) : Bool :=
  match b with
  | exactly m => n == m
  | more m => m < n
  | less m => n < m

/-- The bound that a text writes. -/
def bound? (text : String) : Option Bound :=
  match text.toList with
  | '+' :: ds => (natural? (String.ofList ds)).map .more
  | '-' :: ds => (natural? (String.ofList ds)).map .less
  | _ => (natural? text).map .exactly

/-- What can be asked of a file, or done with it. -/
inductive FindTest where
  | always (answer : Bool)
  /-- Compares the last name, or the whole path, with a pattern. -/
  | name (pattern : Pattern) (whole ignoreCase : Bool)
  | link (pattern : Pattern) (ignoreCase : Bool)
  | regex (r : Regex) (ignoreCase : Bool)
  | kind (letters : List Char)
  | size (unit : Nat) (b : Bound)
  | empty
  /-- Compares the age, in units of so many seconds. -/
  | age (unit : Nat) (b : Bound)
  | newer (time : Float)
  | same (identity : Nat)
  | identity (b : Bound)
  | links (b : Bound)
  | mode (bits : Nat) (how : Char)
  | prune
  | quit
  | print (ending : String)
  | printf (format : String)
  | delete
  | exec (command : List String)
  /-- Starts a program once with all files; the number tells such commands apart. -/
  | execAll (number : Nat) (command : List String)

/-- What is done with every file. -/
inductive FindExpr where
  | test (t : FindTest)
  | not (a : FindExpr)
  | and (a b : FindExpr)
  | or (a b : FindExpr)
  /-- Both, and the second one counts. -/
  | list (a b : FindExpr)

/-! ### Reading -/

/-- What is left to read of an expression, and what has been read beside it. -/
structure FindReading where
  left : List String
  last : String := ""
  maxDepth : Option Nat := none
  minDepth : Nat := 0
  depthFirst : Bool := false
  extended : Bool := false
  /-- Whether something is done with files, so that they are not written as well. -/
  acts : Bool := false
  /-- The commands that are started once with all files. -/
  commands : List (List String) := []
  follow : Bool := false

/-- Reads a part of an expression, or says what is wrong with it. -/
abbrev FindReader := StateT FindReading (ExceptT String Action)

namespace FindReader

/-- Ends the reading with a complaint. -/
def wrong {α : Type} (text : String) : FindReader α :=
  StateT.lift (ExceptT.mk (return .error text))

/-- A name in the quotes that this program uses. -/
def quoted (s : String) : String :=
  "\x60" ++ s ++ "'"

/-- Takes the argument of a test. -/
def argument (test : String) : FindReader String := do
  let s ← get
  match s.left with
  | arg :: left =>
    set { s with left }
    return arg
  | [] => wrong ("missing argument to " ++ quoted test)

/-- Takes a number that is the argument of an option. -/
def depthArgument (test : String) : FindReader Nat := do
  let text ← argument test
  match natural? text with
  | some n => return n
  | none =>
    wrong ("Expected a positive decimal integer argument to " ++ test ++ ", but got '" ++ text ++
      "'")

/-- Takes the bound that is the argument of a test. -/
def boundArgument (test : String) : FindReader Bound := do
  let text ← argument test
  match bound? text with
  | some b => return b
  | none => wrong ("invalid argument " ++ quoted text ++ " to " ++ quoted test)

/-- Takes a command up to its end; the last word tells how it ends. -/
def command (test : String) : FindReader (List String × Bool) := do
  let s ← get
  let words := s.left.takeWhile (· != ";")
  -- A plus sign ends a command if braces stand before it.
  let rec plus : List String → List String → Option (List String × List String)
    | "\x7b\x7d" :: "+" :: rest, before => some (before.reverse, rest)
    | word :: rest, before => if word = ";" then none else plus rest (word :: before)
    | [], _ => none
  match plus s.left [] with
  | some (before, left) =>
    if before = [] then wrong ("missing argument to " ++ quoted test)
    if before.any fun word => 1 < (word.splitOn "\x7b\x7d").length then
      wrong ("Only one instance of \x7b\x7d is supported with " ++ test ++ " ... +")
    set { s with left }
    return (before, true)
  | none =>
    if words.length = s.left.length ∨ words = [] then
      wrong ("missing argument to " ++ quoted test)
    set { s with left := s.left.drop (words.length + 1) }
    return (words, false)

/-- Notes that something is done with files. -/
def acting (t : FindTest) : FindReader FindTest := do
  modify fun s => { s with acts := true }
  return t

/-- A pattern in lower case if case does not count. -/
def patternFor (ignoreCase : Bool) (text : String) : Pattern :=
  Pattern.ofString (if ignoreCase then text.toLower else text)

/-- An expression in which a plus sign and a question mark repeat, and bars and parentheses need a
backslash. -/
def swapped : List Char → List Char
  | '\\' :: '+' :: rest => '+' :: swapped rest
  | '\\' :: '?' :: rest => '?' :: swapped rest
  | '\\' :: c :: rest => '\\' :: c :: swapped rest
  | '+' :: rest => '\\' :: '+' :: swapped rest
  | '?' :: rest => '\\' :: '?' :: swapped rest
  | c :: rest => c :: swapped rest
  | [] => []

/-- Reads a size with its unit. -/
def sizeTest (text : String) : FindReader FindTest := do
  let unit? : Option Nat := match text.toList.getLast? with
    | some 'c' => some 1
    | some 'w' => some 2
    | some 'b' => some 512
    | some 'k' => some 1024
    | some 'M' => some 1048576
    | some 'G' => some 1073741824
    | _ => none
  let digits := if unit?.isSome then (text.dropEnd 1).toString else text
  match bound? digits with
  | some b => return .size (unit?.getD 512) b
  | none => wrong ("invalid -size type " ++ quoted (text.toList.getLast?.elim "" Char.toString))

/-- Reads a test behind its name; none stands for an option that asks nothing. -/
def test (name : String) : FindReader FindTest := do
  match name with
  | "-name" => return .name (patternFor false (← argument name)) false false
  | "-iname" => return .name (patternFor true (← argument name)) false true
  | "-path" | "-wholename" => return .name (patternFor false (← argument name)) true false
  | "-ipath" | "-iwholename" => return .name (patternFor true (← argument name)) true true
  | "-lname" => return .link (patternFor false (← argument name)) false
  | "-ilname" => return .link (patternFor true (← argument name)) true
  | "-regextype" =>
    let kind ← argument name
    modify fun s => { s with
      extended := kind ∈ ["posix-extended", "egrep", "posix-egrep", "awk", "posix-awk"] }
    return .always true
  | "-regex" | "-iregex" =>
    let text ← argument name
    let extended := (← get).extended
    let text := if extended then text else String.ofList (swapped text.toList)
    match Regex.read { extended } text with
    | .ok (r, _) => return .regex r (name = "-iregex")
    | .error e => wrong e.message
  | "-type" | "-xtype" =>
    let text ← argument name
    let letters := text.toList.filter (· != ',')
    if let some c := letters.find? fun c => c ∉ ['b', 'c', 'd', 'p', 'f', 'l', 's'] then
      wrong ("Unknown argument to -type: " ++ c.toString)
    return .kind letters
  | "-size" => sizeTest (← argument name)
  | "-empty" => return .empty
  | "-mtime" | "-atime" | "-ctime" => return .age 86400 (← boundArgument name)
  | "-mmin" | "-amin" | "-cmin" => return .age 60 (← boundArgument name)
  | "-newer" | "-anewer" | "-cnewer" | "-newermm" =>
    let path ← argument name
    match ← (inspect path : Action (Except IoError FileInfo)) with
    | .ok info => return .newer info.modified
    | .error e => wrong (quotedName path ++ ": " ++ e.reason)
  | "-samefile" =>
    let path ← argument name
    match ← (inspect path : Action (Except IoError FileInfo)) with
    | .ok info => return .same info.identity
    | .error e => wrong (quotedName path ++ ": " ++ e.reason)
  | "-inum" => return .identity (← boundArgument name)
  | "-links" => return .links (← boundArgument name)
  | "-perm" =>
    let text ← argument name
    let how := (text.toList.head?.filter fun c => c == '-' || c == '/').getD '='
    let digits := if how = '=' then text else (text.drop 1).toString
    match modeOf? digits with
    | some bits => return .mode bits how
    | none => wrong ("invalid mode " ++ quotedName text)
  | "-user" | "-group" =>
    let who ← argument name
    if who = "root" ∨ who = "0" then return .always true
    if (natural? who).isSome then return .always false
    let what := if name = "-user" then "a known user" else "an existing group"
    wrong (quotedName who ++ " is not the name of " ++ what)
  | "-uid" | "-gid" => return .always ((← boundArgument name).holds 0)
  | "-nouser" | "-nogroup" => return .always false
  | "-readable" | "-writable" => return .always true
  | "-executable" => return .mode 0o111 '/'
  | "-true" | "-noleaf" | "-mount" | "-xdev" | "-daystart" | "-nowarn" | "-warn" |
    "-ignore_readdir_race" => return .always true
  | "-false" => return .always false
  | "-depth" | "-d" =>
    modify fun s => { s with depthFirst := true }
    return .always true
  | "-follow" =>
    modify fun s => { s with follow := true }
    return .always true
  | "-maxdepth" =>
    let n ← depthArgument name
    modify fun s => { s with maxDepth := some n }
    return .always true
  | "-mindepth" =>
    let n ← depthArgument name
    modify fun s => { s with minDepth := n }
    return .always true
  | "-prune" => return .prune
  | "-quit" => acting .quit
  | "-print" => acting (.print "\n")
  | "-print0" => acting (.print "\x00")
  | "-printf" => acting (.printf (← argument name))
  | "-delete" =>
    modify fun s => { s with depthFirst := true }
    acting .delete
  | "-exec" | "-execdir" =>
    let (words, all) ← command name
    if all then
      let number := (← get).commands.length
      modify fun s => { s with commands := s.commands ++ [words] }
      acting (.execAll number words)
    else acting (.exec words)
  | _ => wrong ("unknown predicate " ++ quoted name)

/-- What is read of an expression. -/
inductive Goal where
  | list
  | disjunction
  | conjunction
  | negation

/-- Reads an expression; `depth` is the number of open parentheses. -/
def expression : Nat → Goal → Nat → FindReader FindExpr
  | 0, _, _ => wrong "invalid expression"
  | n + 1, .list, depth => do
    let a ← expression n .disjunction depth
    let s ← get
    match s.left with
    | "," :: left =>
      set { s with left, last := "," }
      return .list a (← expression n .list depth)
    | _ => return a
  | n + 1, .disjunction, depth => do
    let a ← expression n .conjunction depth
    let s ← get
    match s.left with
    | op :: left =>
      if op = "-o" ∨ op = "-or" then
        set { s with left, last := op }
        return .or a (← expression n .disjunction depth)
      else return a
    | [] => return a
  | n + 1, .conjunction, depth => do
    let a ← expression n .negation depth
    let s ← get
    match s.left with
    | op :: left =>
      if op ∈ ["-o", "-or", ","] then return a
      else if op = ")" then
        if depth = 0 then wrong "you have too many ')'"
        return a
      else if op = "-a" ∨ op = "-and" then
        set { s with left, last := op }
        return .and a (← expression n .conjunction depth)
      else return .and a (← expression n .conjunction depth)
    | [] => return a
  | n + 1, .negation, depth => do
    let s ← get
    match s.left with
    | [] =>
      if s.last = "!" ∨ s.last = "-not" then
        wrong ("expected an expression after '" ++ s.last ++ "'")
      else if s.last = "(" then
        wrong ("invalid expression; I was expecting to find a ')' somewhere but did not see one.")
      else wrong ("expected an expression after '" ++ s.last ++ "'")
    | word :: left =>
      set { s with left, last := word }
      match word with
      | "!" => return .not (← expression n .negation depth)
      | "-not" => return .not (← expression n .negation depth)
      | "(" =>
        if left.head? = some ")" then
          wrong "invalid expression; empty parentheses are not allowed."
        let inner ← expression n .list (depth + 1)
        let s ← get
        match s.left with
        | ")" :: left =>
          set { s with left }
          return inner
        | _ =>
          wrong "invalid expression; I was expecting to find a ')' somewhere but did not see one."
      | ")" =>
        if depth = 0 then
          wrong "invalid expression; you have used the ')' without the matching '('."
        else wrong "invalid expression; empty parentheses are not allowed."
      | _ =>
        if word ∈ ["-o", "-or", "-a", "-and", ","] then
          wrong ("invalid expression; you have used a binary operator '" ++ word ++
            "' with nothing before it.")
        else if word.startsWith "-" then return .test (← test word)
        else wrong ("paths must precede expression: " ++ quoted word)

end FindReader

/-! ### Walking -/

/-- A file that is looked at. -/
structure FoundFile where
  path : String
  /-- The operand from which the walk has started. -/
  start : String
  depth : Nat
  info : FileInfo

/-- The letter of a kind of file in expressions. -/
def findLetter : FileKind → Char
  | .directory => 'd'
  | .file => 'f'
  | .link => 'l'
  | .device => 'c'

/-- What is kept during a walk. -/
structure Walk where
  expr : FindExpr
  maxDepth : Option Nat
  minDepth : Nat
  depthFirst : Bool
  follow : Bool
  launch : Launch

/-- What changes during a walk. -/
structure WalkState where
  status : Nat := 0
  pruned : Bool := false
  ended : Bool := false
  /-- The files for programs that are started once, by the number of the command. -/
  waiting : List (Nat × String) := []

/-- A part of a walk. -/
abbrev Walking := StateT WalkState Action

namespace Walking

/-- Complains about a path. -/
def complainAbout (path : String) (e : IoError) : Walking Unit := do
  complain "find" (quotedName path ++ ": " ++ e.reason)
  modify fun s => { s with status := 1 }

/-- What a directive of a format writes. -/
def directive (f : FoundFile) (c : Char) : Walking String := do
  let base := baseOf f.path
  match c with
  | 'p' => return f.path
  | 'f' => return base
  | 'h' =>
    if f.path.contains '/' then
      let text := (f.path.toList.take (f.path.length - base.length - 1))
      return String.ofList text
    else return "."
  | 'H' => return f.start
  | 'P' =>
    let rest := (f.path.drop f.start.length).toString
    return if rest.startsWith "/" then (rest.drop 1).toString else rest
  | 's' => return toString f.info.size
  | 'k' => return toString ((f.info.size + 1023) / 1024)
  | 'b' => return toString ((f.info.size + 4095) / 4096 * 8)
  | 'm' => return inBase 8 (f.info.mode % 0o10000)
  | 'M' =>
    let letter := if f.info.kind = .file then '-' else findLetter f.info.kind
    return letter.toString ++ modeLetters f.info.mode
  | 'y' | 'Y' => return (findLetter f.info.kind).toString
  | 'd' => return toString f.depth
  | 'n' => return toString f.info.links
  | 'i' => return toString f.info.identity
  | 'u' | 'g' => return "root"
  | 'U' | 'G' => return "0"
  | 'l' =>
    if f.info.kind ≠ .link then return ""
    match ← call (.readLink (← pathOf f.path)) with
    | .ok text => return ofText text
    | .error _ => return ""
  | 't' | 'c' | 'a' => return (Moment.ofClock f.info.modified).format "%a %b %e %H:%M:%S.%N %Y"
  | '%' => return "%"
  | c => return "%" ++ c.toString

/-- Fills a format. -/
def formatFile (f : FoundFile) : Nat → List Char → Walking String
  | 0, _ | _, [] => return ""
  | n + 1, '%' :: 'T' :: c :: rest => do
    let m := Moment.ofClock f.info.modified
    let text := match c with
      | '@' => m.format "%s.%N" ++ "0"
      | '+' => m.format "%Y-%m-%d+%H:%M:%S.%N" ++ "0"
      | c => m.format ("%" ++ c.toString)
    return text ++ (← formatFile f n rest)
  | n + 1, '%' :: rest => do
    let flags := rest.takeWhile fun c => c == '-' || c.isDigit
    match rest.drop flags.length with
    | [] => return "%"
    | c :: later =>
      let text ← directive f c
      let width := valueOf 10 (flags.filter Char.isDigit)
      let text := if flags.contains '-' then paddedRight width text else paddedLeft width text
      return text ++ (← formatFile f n later)
  | n + 1, '\\' :: rest => do
    let (c, later) := escaped rest
    return c.toString ++ (← formatFile f n later)
  | n + 1, c :: rest => return c.toString ++ (← formatFile f n rest)

/-- Whether a test holds for a file; some tests do something. -/
def test (w : Walk) (f : FoundFile) (t : FindTest) : Walking Bool := do
  let lower (ignoreCase : Bool) (s : String) : String := if ignoreCase then s.toLower else s
  match t with
  | .always answer => return answer
  | .name pattern whole ignoreCase =>
    return pattern.accepts (lower ignoreCase (if whole then f.path else baseOf f.path))
  | .link pattern ignoreCase =>
    if f.info.kind ≠ .link then return false
    return pattern.accepts (lower ignoreCase (← directive f 'l'))
  | .regex r ignoreCase =>
    let l : Looking := { text := f.path.toList.toArray, ignoreCase }
    return (r.hitAt? l 0).any (·.stop == l.text.size)
  | .kind letters => return letters.contains (findLetter f.info.kind)
  | .size unit b => return b.holds ((f.info.size + unit - 1) / unit)
  | .empty =>
    match f.info.kind with
    | .file => return f.info.size = 0
    | .directory => return (← namesIn f.path).toOption = some []
    | _ => return false
  | .age unit b =>
    let now : Float ← call .clock
    return b.holds (((now - f.info.modified) / Float.ofNat unit).toUInt64.toNat)
  | .newer time => return f.info.modified > time
  | .same identity => return f.info.identity = identity
  | .identity b => return b.holds f.info.identity
  | .links b => return b.holds f.info.links
  | .mode bits how =>
    let mode := f.info.mode % 0o10000
    return match how with
      | '-' => mode &&& bits == bits
      | '/' => bits == 0 || mode &&& bits != 0
      | _ => mode == bits
  | .prune =>
    modify fun s => { s with pruned := true }
    return true
  | .quit =>
    modify fun s => { s with ended := true }
    return true
  | .print ending =>
    put (f.path ++ ending)
    return true
  | .printf format =>
    put (← formatFile f (format.length + 1) format.toList)
    return true
  | .delete =>
    let result ← if f.info.kind = .directory then changeAt f.path .removeDirectory
      else changeAt f.path .remove
    match result with
    | .ok _ => return true
    | .error e =>
      complain "find" ("cannot delete " ++ quotedName f.path ++ ": " ++ e.reason)
      modify fun s => { s with status := 1 }
      return false
  | .exec command =>
    match command.map (·.replace "\x7b\x7d" f.path) with
    | [] => return false
    | program :: args =>
      match ← w.launch program args with
      | .ok status => return status = 0
      | .error e =>
        complain "find" (quotedName program ++ ": " ++ e.reason)
        return false
  | .execAll number _ =>
    modify fun s => { s with waiting := s.waiting ++ [(number, f.path)] }
    return true

/-- Whether an expression holds for a file. -/
def holds (w : Walk) (f : FoundFile) : FindExpr → Walking Bool
  | .test t => test w f t
  | .not a => return !(← holds w f a)
  | .and a b => do
    if !(← holds w f a) then return false
    if (← get).ended then return false
    holds w f b
  | .or a b => do
    if ← holds w f a then return true
    if (← get).ended then return false
    holds w f b
  | .list a b => do
    let _ ← holds w f a
    holds w f b

/-- Walks through what is at a path. -/
def visit (w : Walk) (start : String) : Nat → Nat → String → Walking Unit
  | 0, _, _ => return
  | n + 1, depth, path => do
    if (← get).ended then return
    let found ← do
      match ← inspect path w.follow with
      | .ok info => pure (.ok info)
      -- A link that leads nowhere is looked at itself.
      | .error e => if w.follow && e == .notFound then inspect path false else pure (.error e)
    match found with
    | .error e => complainAbout path e
    | .ok info =>
      let f : FoundFile := ⟨path, start, depth, info⟩
      modify fun s => { s with pruned := false }
      if !w.depthFirst ∧ w.minDepth ≤ depth then
        let _ ← holds w f w.expr
      let s ← get
      let deeper := info.kind == .directory && w.maxDepth.all (depth < ·) && !s.ended &&
        (w.depthFirst || !s.pruned)
      if deeper then
        match ← namesIn path with
        | .error e => complainAbout path e
        | .ok names =>
          for name in names do visit w start n (depth + 1) (inDirectory path name)
      if w.depthFirst ∧ w.minDepth ≤ depth ∧ !(← get).ended then
        let _ ← holds w f w.expr

end Walking

/-- `find`: walks through directories. -/
def runFind : Tool := fun launch name args => do
  let options := args.takeWhile fun a => a ∈ ["-H", "-L", "-P"]
  let rest := args.drop options.length
  let isPath (a : String) : Bool :=
    !(a.startsWith "-" && 1 < a.length) && a ∉ ["(", ")", "!", ","]
  let paths := rest.takeWhile isPath
  let words := rest.drop paths.length
  let paths := if paths = [] then ["."] else paths
  let start : FindReading := { left := words, follow := options.getLast? = some "-L" }
  let always : FindExpr := .test (.always true)
  let reading : FindReader FindExpr :=
    if words = [] then pure always else FindReader.expression (8 * words.length + 8) .list 0
  match ← (reading.run start).run with
  | .error text => refuse name text
  | .ok (expr, s) =>
    if let some word := s.left.head? then
      return ← refuse name ("paths must precede expression: \x60" ++ word ++ "'")
    let expr := if s.acts then expr else .and expr (.test (.print "\n"))
    let w : Walk :=
      { expr, maxDepth := s.maxDepth, minDepth := s.minDepth, depthFirst := s.depthFirst
        follow := s.follow, launch }
    let walk : Walking Unit := do
      for path in paths do Walking.visit w path maxDepth 0 path
    let (_, s') ← walk.run {}
    let mut status := s'.status
    for (command, number) in s.commands.zipIdx do
      let files := (s'.waiting.filter (·.1 == number)).map Prod.snd
      if files ≠ [] then
        match ← launch (command.headD "") (command.tail ++ files) with
        | .ok 0 => pure ()
        | .ok _ => status := 1
        | .error e =>
          complain name (quotedName (command.headD "") ++ ": " ++ e.reason)
          status := 1
    return status

end ScriptLang.Shell.Tool
