import ScriptLang.Shell.Own.Options

/-!
# Where the shell is

`cd` moves the shell to another directory, `pwd` tells where it is, and `umask` says which
permissions new files do not get.

## Main definitions

* `runCd`, `runPwd`, `runUmask` — the commands of these names
-/

namespace ScriptLang.Shell

/-- The path that leads from a directory along another path, without dots. -/
def along (directory path : String) : String :=
  let start := if path.startsWith "/" then [] else (directory.splitOn "/").filter (· != "")
  let steps := (path.splitOn "/").filter fun step => step ≠ "" ∧ step ≠ "."
  let names := steps.foldl (fun names step =>
    if step = ".." then names.dropLast else names ++ [step]) start
  let root := if path.startsWith "//" ∧ !path.startsWith "///" then "//" else "/"
  root ++ "/".intercalate names

/-- Moves to a directory; false if there is none. -/
def moveTo (path : String) (physical : Bool) : Action Bool := do
  let here ← workingDirectory
  let target := along here path
  let target ← if physical then
      match ← call (.resolve (toText target)) with
      | .ok target => pure (ofText target)
      | .error _ => pure target
    else pure target
  if !(← isDirectory target) then return false
  remember fun m => { m with directory := some (toText target) }
  assign "OLDPWD" here
  assign "PWD" target
  let exported (name : String) (m : Memory) : Memory :=
    m.put name { (m.find? name).getD { value := none } with exported := true }
  remember fun m => exported "OLDPWD" (exported "PWD" m)
  return true

/-- `cd`: moves to a directory. -/
def runCd (args : List String) : Action Nat := do
  let (found, rest) ← options "LP" args
  let physical := (found.getLast?.map Prod.fst) == some 'P'
  let m ← memory
  let (target, shown) := match rest.head? with
    | none => ((m.value? "HOME").getD "", false)
    | some "-" => ((m.value? "OLDPWD").getD "", true)
    | some target => (target, false)
  let first := (target.splitOn "/").headD ""
  let direct := target.startsWith "/" || first == "." || first == ".."
  let directory := if target = "" then "." else target
  let arrive (path : String) (shown : Bool) : Action Nat := do
    if !(← moveTo path physical) then fail ("can't cd to " ++ target)
    if shown then say ((← workingDirectory) ++ "\n") else return 0
  if !direct then
    for start in ((m.value? "CDPATH").getD "").splitOn ":" do
      let path := if start = "" then directory
        else if start.endsWith "/" then start ++ directory
        else start ++ "/" ++ directory
      if ← isDirectory path then return ← arrive path (shown || start != "")
  arrive directory shown

/-- `pwd`: tells where the shell is. -/
def runPwd (args : List String) : Action Nat := do
  let (found, _) ← options "LP" args
  let here ← workingDirectory
  if (found.getLast?.map Prod.fst) = some 'P' then
    match ← call (.resolve (toText here)) with
    | .ok path => say (ofText path ++ "\n")
    | .error _ => say (here ++ "\n")
  else say (here ++ "\n")

/-- The permissions that a mode grants to one of three parties. -/
def grants (bits : Nat) : String :=
  String.ofList ((if bits &&& 4 ≠ 0 then ['r'] else []) ++ (if bits &&& 2 ≠ 0 then ['w'] else []) ++
    (if bits &&& 1 ≠ 0 then ['x'] else []))

/-- The permission bits that letters name, for all three parties. -/
def permissionBits? (letters : List Char) : Option Nat :=
  letters.foldl (fun bits c => bits.bind fun b =>
    match c with
    | 'r' => some (b ||| 0o444)
    | 'w' => some (b ||| 0o222)
    | 'x' | 'X' => some (b ||| 0o111)
    | _ => none) (some 0)

/-- The bits of the parties that letters name; all of them if there are none. -/
def partyBits (letters : List Char) : Nat :=
  if letters = [] ∨ letters.contains 'a' then 0o777
  else
    letters.foldl (fun bits c => bits ||| (match c with
      | 'u' => 0o700
      | 'g' => 0o070
      | _ => 0o007)) 0

/-- The mode after a clause such as `go-w`; none if it makes no sense. -/
def applyClause? (mode : Nat) (clause : String) : Option Nat :=
  let parties := clause.toList.takeWhile fun c => c ∈ ['u', 'g', 'o', 'a']
  match clause.toList.drop parties.length with
  | sign :: letters =>
    (permissionBits? letters).bind fun bits =>
      let who := partyBits parties
      let bits := bits &&& who
      match sign with
      | '+' => some (mode ||| bits)
      | '-' => some (Files.unmasked mode bits)
      | '=' => some (Files.unmasked mode who ||| bits)
      | _ => none
  | [] => none

/-- The mode after clauses between commas; none if one makes no sense. -/
def applyClauses? (mode : Nat) (text : String) : Option Nat :=
  (text.splitOn ",").foldl (fun m clause => m.bind (applyClause? · clause)) (some mode)

/-- The mode that octal digits write. -/
def octalMode? (text : String) : Option Nat :=
  if text ≠ "" ∧ text.toList.all isOctal then some (valueOf 8 text.toList) else none

/-- `umask`: shows or changes the permissions that new files do not get. -/
def runUmask (args : List String) : Action Nat := do
  let (found, rest) ← options "S" args
  let mask := (← memory).mask
  match rest with
  | [] =>
    if given found 'S' then
      let mode := Files.unmasked 0o777 mask
      say ("u=" ++ grants (mode / 64) ++ ",g=" ++ grants (mode / 8) ++ ",o=" ++ grants mode ++ "\n")
    else
      let digits := inBase 8 mask
      say (String.ofList (List.replicate (4 - digits.length) '0') ++ digits ++ "\n")
  | text :: _ =>
    match octalMode? text with
    | some mask =>
      remember fun m => { m with mask := mask % 512 }
      return 0
    | none =>
      if (text.toList.head?).any Char.isDigit then fail ("Illegal number: " ++ text)
      match applyClauses? (Files.unmasked 0o777 mask) text with
      | some mode =>
        remember fun m => { m with mask := Files.unmasked 0o777 mode }
        return 0
      | none => fail ("Illegal mode: " ++ text)

end ScriptLang.Shell
