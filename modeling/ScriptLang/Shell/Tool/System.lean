import ScriptLang.Shell.Format
import ScriptLang.Shell.Lookup
import ScriptLang.Shell.Test
import ScriptLang.Shell.Tool

/-!
# The system and its user

Programs that tell who and where one is, that show and change the variables of the surroundings,
that start other programs, and that write what they are given.

## Main definitions

* `runEcho`, `runPrintf`, `runTest` — writing and comparing, as programs
* `runEnv`, `runPrintenv`, `runWhich` — the variables of the surroundings and the programs
* `runUname`, `runId`, `runWhoami`, … — the system and its user
-/

namespace ScriptLang.Shell.Tool

/-! ### Writing -/

/-- A text with its escapes carried out, and whether `\c` has ended it. -/
def echoEscapes : Nat → List Char → List Char × Bool
  | 0, _ | _, [] => ([], false)
  | n + 1, '\\' :: c :: rest =>
    let add (c : Char) (rest : List Char) : List Char × Bool :=
      let (text, ended) := echoEscapes n rest
      (c :: text, ended)
    match c with
    | 'c' => ([], true)
    | '0' =>
      let ds := (rest.takeWhile isOctal).take 3
      add (octalChar ds) (rest.drop ds.length)
    | 'x' =>
      let ds := (rest.takeWhile fun c => (digitValue? c).isSome).take 2
      if ds = [] then
        let (text, ended) := echoEscapes n rest
        ('\\' :: 'x' :: text, ended)
      else add (Char.ofNat (valueOf 16 ds)) (rest.drop ds.length)
    | c =>
      match letterEscape? c with
      | some d => add d rest
      | none =>
        if isOctal c then
          let ds := ((c :: rest).takeWhile isOctal).take 3
          add (octalChar ds) ((c :: rest).drop ds.length)
        else
          let (text, ended) := echoEscapes n rest
          ('\\' :: c :: text, ended)
  | n + 1, c :: rest =>
    let (text, ended) := echoEscapes n rest
    (c :: text, ended)

/-- `echo`: writes its arguments. -/
def runEcho : Tool := fun _ name args => do
  let isOption (arg : String) : Bool := match arg.toList with
    | '-' :: c :: cs => (c :: cs).all (· ∈ ['n', 'e', 'E'])
    | _ => false
  let options := args.takeWhile isOption
  let letters := (String.join options).toList.filter (· != '-')
  let escapes := (letters.reverse.find? (· != 'n')) == some 'e'
  let text := " ".intercalate (args.drop options.length)
  let (shown, ended) := if escapes then echoEscapes (text.length + 1) text.toList
    else (text.toList, false)
  deliver name (String.ofList shown ++ (if ended ∨ letters.contains 'n' then "" else "\n"))

/-- `printf`: fills a format with arguments. -/
def runPrintf : Tool := fun _ name args => do
  let args := if args.head? = some "--" then args.tail else args
  match args with
  | [] => misused name "missing operand"
  | format :: args =>
    let f := formatted format args
    let _ ← deliver name f.text
    let mut status := 0
    for text in f.complaints do
      let parts := text.splitOn ": "
      let reason := match parts.getLast?.getD "" with
        | "expected numeric value" => "expected a numeric value"
        | "not completely converted" => "value not completely converted"
        | reason => reason
      complain name (quotedName (": ".intercalate parts.dropLast) ++ ": " ++ reason)
      status := 1
    match f.failure with
    | some text =>
      complain name (text.replace "invalid directive" "invalid conversion specification")
      return 1
    | none =>
      if let some extra := f.arguments.head? then
        if !f.ended then
          complain name ("warning: ignoring excess arguments, starting with " ++ quotedName extra)
      return status

/-- `test` and `[`: zero if a condition holds. -/
def runTest : Tool := fun _ name args => do
  let bracket := name.endsWith "["
  if bracket ∧ args.getLast? ≠ some "]" then
    complain name "missing ']'"
    return 2
  let args := if bracket then args.dropLast else args
  match ← caught (testArguments false args (args.length + 2)) with
  | .ok holds => return if holds then 0 else 1
  | .error .fault => return 2
  | .error stop => throw stop

/-- `yes`: writes a line again and again. -/
def runYes : Tool := fun _ _ args => do
  let line := if args = [] then "y" else " ".intercalate args
  let count := 4096 / (line.length + 1) + 1
  let chunk := String.join (List.replicate count (line ++ "\n"))
  let rec go : Nat → Action Nat
    | 0 => return 1
    | n + 1 => do
      match ← writeTo 1 chunk with
      | .ok _ => go n
      | .error _ => return 1
  go 100000

/-! ### Surroundings -/

/-- The place of a variable among those that a program is given. -/
def bucketOf (name : String) : Nat :=
  let codes := name.toList.map Char.toNat
  codes.foldl (· + ·) (codes.headD 0 * 16) % 39

/-- The variables that a program is given, in the order in which it finds them. -/
def surroundings : Action (List (String × String)) := do
  return (← memory).environment.mergeSort fun a b => bucketOf a.1 ≤ bucketOf b.1

/-- The variables of a shell that has been given others. -/
def exportedVariables (vars : List (String × String)) : List (String × Variable) :=
  vars.map fun (name, value) => (name, { value := some value, exported := true })

/-- `env`: shows the variables, or starts a program with others. -/
def runEnv : Tool := fun launch name args =>
  withOptions
    { short := "iu:0C:vS:", strict := true
      long := [("ignore-environment", "i"), ("unset=", "u"), ("null", "0"), ("chdir=", "C"),
        ("debug", "v"), ("split-string=", "S")] }
    name args (fun found operands => do
  let split := ((argument? found "S").elim [] fun text => text.splitToList isSpace).filter (· ≠ "")
  let operands := split ++ operands
  let (clears, operands) : Bool × List String := match operands with
    | "-" :: rest => (true, rest)
    | operands => (has found "i", operands)
  let start ← if clears then pure [] else surroundings
  let removed := (found.filter (·.1 == "u")).map Prod.snd
  let start := start.filter fun v => v.1 ∉ removed
  let settings := operands.takeWhile fun a => a.contains '='
  let vars := settings.foldl (fun vars setting =>
    let key := String.ofList (setting.toList.takeWhile (· != '='))
    let value := (setting.drop (key.length + 1)).toString
    if vars.any (·.1 == key) then vars.map fun v => if v.1 = key then (key, value) else v
    else vars ++ [(key, value)]) start
  match operands.drop settings.length with
  | [] =>
    if has found "C" then
      return ← misused name "must specify command with --chdir (-C)" 125
    let ending := if has found "0" then "\x00" else "\n"
    deliver name (String.join (vars.map fun (name, value) => name ++ "=" ++ value ++ ending))
  | program :: args =>
    let directory ← match argument? found "C" with
      | none => pure none
      | some path =>
        match ← call (.resolve (← pathOf path)) with
        | .ok target =>
          if !(← isDirectory path) then
            return ← refuse name
              ("cannot change directory to " ++ quotedName path ++ ": Not a directory") 125
          pure (some target)
        | .error e =>
          return ← refuse name
            ("cannot change directory to " ++ quotedName path ++ ": " ++ e.reason) 125
    -- Without a path, programs are looked for in the usual places.
    let usual := if vars.any (·.1 == "PATH") then []
      else [("PATH", ({ value := some "/bin:/usr/bin" } : Variable))]
    let result ← apart
      (fun m => { m with
        settings := exportedVariables vars ++ usual
        directory := directory.orElse fun _ => m.directory })
      (launch program args)
    match result with
    | .ok status => return status
    | .error e =>
      refuse name (quotedName program ++ ": " ++ e.reason) (if e = .notFound then 127 else 126)) 125

/-- `printenv`: shows variables. -/
def runPrintenv : Tool := fun _ name args =>
  withOptions { short := "0", long := [("null", "0")], strict := true } name args
    (fun found operands => do
  let vars ← surroundings
  let ending := if has found "0" then "\x00" else "\n"
  if operands = [] then
    let lines := vars.map fun (name, value) => name ++ "=" ++ value ++ ending
    return ← deliver name (String.join lines)
  let mut status := 0
  for operand in operands do
    match vars.lookup operand with
    | some value => put (value ++ ending)
    | none => status := 1
  return status) 2

/-- `which`: tells where programs are. -/
def runWhich : Tool := fun _ name args =>
  withOptions { short := "as", strict := true } name args fun found operands => do
  let directories := directoriesIn (((← memory).value? "PATH").getD "")
  let mut status := if operands = [] then 1 else 0
  for operand in operands do
    let places := if operand.contains '/' then [operand]
      else directories.map (inDirectory · operand)
    let paths ← places.filterM fun path => do
      match ← inspect path with
      | .ok info => return info.kind = .file && info.mode &&& 0o111 ≠ 0
      | .error _ => return false
    if paths = [] then status := 1
    if !has found "s" then
      put (unlines (if has found "a" then paths else paths.take 1))
  return status

/-- Starts a program in the name of another one, and complains if that cannot be done. -/
def handOver (launch : Launch) (name : String) : List String → Action Nat
  | [] => misused name "missing operand" 125
  | program :: args => do
    match ← launch program args with
    | .ok status => return status
    | .error e =>
      let text :=
        if name = "nohup" ∨ name = "setsid" ∨ name = "stdbuf" then
          "failed to run command " ++ quotedName program
        else quotedName program
      refuse name (text ++ ": " ++ e.reason) (if e = .notFound then 127 else 126)

/-- `nohup`: starts a program that goes on when its user leaves. -/
def runNohup : Tool := fun launch name args =>
  handOver launch name (if args.head? = some "--" then args.tail else args)

/-- `nice`: starts a program with another priority. -/
def runNice : Tool := fun launch name args =>
  withOptions { short := "n:", long := [("adjustment=", "n")], strict := true } name args
    (fun _ operands => if operands = [] then say "0\n" else handOver launch name operands) 125

/-- `pwd`: tells where one is. -/
def runPwd : Tool := fun _ name args => do
  let here ← workingDirectory
  if args.any fun a => a.startsWith "-" ∧ a.contains 'L' then deliver name (here ++ "\n")
  else
    match ← call (.resolve (toText here)) with
    | .ok path => deliver name (ofText path ++ "\n")
    | .error _ => deliver name (here ++ "\n")

/-! ### The system and its user -/

/-- A program without operands that writes one line. -/
def tellsLine (line : String) : Tool := fun _ name args =>
  withOptions { short := "" } name args fun _ operands => do
  match operands with
  | extra :: _ => misused name ("extra operand " ++ quotedName extra)
  | [] => deliver name (line ++ "\n")

/-- `uname`: names the system. -/
def runUname : Tool := fun _ name args =>
  withOptions
    { short := "asnrvmpio"
      long := [("all", "a"), ("kernel-name", "s"), ("nodename", "n"), ("kernel-release", "r"),
        ("kernel-version", "v"), ("machine", "m"), ("processor", "p"), ("hardware-platform", "i"),
        ("operating-system", "o")] }
    name args fun found operands => do
  if let some extra := operands.head? then
    return ← misused name ("extra operand " ++ quotedName extra)
  let host ← match ← contentOf "/etc/hostname" with
    | .ok text => pure ((linesOf text).headD "localhost")
    | .error _ => pure "localhost"
  let all := has found "a"
  let parts := [("s", "Linux"), ("n", host), ("r", "6.1.0"), ("v", "#1 SMP"), ("m", "x86_64"),
    ("o", "GNU/Linux")]
  let shown := parts.filter fun p => all || has found p.1 || (found = [] && p.1 == "s")
  let unknown := if has found "p" ∨ has found "i" then ["unknown"] else []
  deliver name (" ".intercalate (shown.map Prod.snd ++ (if all then [] else unknown)) ++ "\n")

/-- `id`: tells who one is. -/
def runId : Tool := fun _ name args =>
  withOptions
    { short := "agGnruzZ"
      long := [("group", "g"), ("groups", "G"), ("name", "n"), ("real", "r"), ("user", "u")] }
    name args fun found operands => do
  if let some user := operands.head? then
    if user ≠ "root" ∧ user ≠ "0" then
      return ← refuse name (quotedName user ++ ": no such user")
  let short := has found "u" || has found "g" || has found "G"
  if has found "n" && !short then
    return ← refuse name "cannot print only names or real IDs in default format"
  deliver name (if short then (if has found "n" then "root\n" else "0\n")
    else "uid=0(root) gid=0(root) groups=0(root)\n")

/-- `whoami`: names the user. -/
def runWhoami : Tool := tellsLine "root"

/-- `arch`: names the kind of machine. -/
def runArch : Tool := tellsLine "x86_64"

/-- `groups`: names the groups of the user. -/
def runGroups : Tool := fun _ name _ => deliver name "root\n"

/-- `logname`: says that nobody has logged in. -/
def runLogname : Tool := fun _ name _ => refuse name "no login name"

/-- `nproc`: tells how many processors there are. -/
def runNproc : Tool := tellsLine "1"

/-- `true`: does nothing, and `sync` has nothing to do. -/
def runTrue : Tool := fun _ _ _ => return 0

/-- `false`: does nothing, without success. -/
def runFalse : Tool := fun _ _ _ => return 1

/-- `hostname`: names the machine. -/
def runHostname : Tool := fun _ name _ => do
  match ← contentOf "/etc/hostname" with
  | .ok text => deliver name text
  | .error _ => deliver name "localhost\n"

/-- `tty`: tells that there is no terminal. -/
def runTty : Tool := fun _ name args =>
  withOptions { short := "s", long := [("silent", "s"), ("quiet", "s")] } name args
    fun found _ => do
  if !has found "s" then put "not a tty\n"
  return 1

end ScriptLang.Shell.Tool
