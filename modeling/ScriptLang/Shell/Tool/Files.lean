import ScriptLang.Shell.Lookup
import ScriptLang.Shell.Tool
import ScriptLang.Shell.Tool.Mode

/-!
# Making and removing files

Programs that create and remove files and directories.

## Main definitions

* `changeAt` — a change at a path that is given by its name
* `tree` — everything below a path
* `runMkdir`, `runRmdir`, `runRm`, `runMktemp` — the programs of these names
-/

namespace ScriptLang.Shell.Tool

/-- Makes a change at a path that is given by its name. -/
def changeAt (name : String) (c : String → FileChange) : Action (Except IoError Unit) := do
  change (c (← pathOf name))

/-- A path without slashes at its end, unless it is the root. -/
def trimmedPath (path : String) : String :=
  Files.trimSlashes path

/-- A path with no more than one slash at its end. -/
def atMostOneSlash (path : String) : String :=
  let trimmed := trimmedPath path
  if trimmed = "/" ∨ !path.endsWith "/" then path else trimmed ++ "/"

/-- The path of a name in a directory, with one slash between them. -/
def joinedPath (directory name : String) : String :=
  inDirectory (trimmedPath directory) name

/-- The paths of a directory and of those that it lies in, outermost first. -/
def ancestors (path : String) : List String :=
  let steps := (trimmedPath path).splitOn "/"
  ((List.range steps.length).map fun i => "/".intercalate (steps.take (i + 1))).filter (· != "")

/-- How deep directories can lie in each other. -/
def maxDepth : Nat := 10000

/-- Everything at a path and below it, the path itself first. -/
def tree : Nat → String → Action (List String)
  | 0, path => return [path]
  | n + 1, path => do
    match ← inspect path false with
    | .ok info =>
      if info.kind ≠ .directory then return [path]
      let names := (← namesIn path).toOption.getD []
      let below ← names.mapM fun name => tree n (inDirectory path name)
      return path :: below.flatten
    | .error _ => return [path]

/-! ### Directories -/

/-- `mkdir`: makes directories. -/
def runMkdir : Tool := fun _ name args =>
  withOptions
    { short := "pm:vZ", long := [("parents", "p"), ("mode=", "m"), ("verbose", "v")] }
    name args fun found operands => do
  if operands = [] then return ← misused name "missing operand"
  let mode ← match argument? found "m" with
    | none => pure none
    | some text =>
      match modeChanges? text with
      | some changes => pure (some (changedMode changes (← memory).mask true 0o777))
      | none => return ← refuse name ("invalid mode " ++ quotedName text)
  let parents := has found "p"
  let mut status := 0
  for path in operands do
    let steps := if parents then (ancestors path).dropLast ++ [path] else [path]
    for (step, i) in steps.zipIdx do
      let last := i + 1 == steps.length
      let isThere ← if parents then isDirectory step else pure false
      if !isThere then
        match ← changeAt step fun p => .makeDirectory p 0o777 with
        | .ok _ =>
          if has found "v" then put (name ++ ": created directory " ++ quotedName step ++ "\n")
          if last then
            if let some mode := mode then let _ ← changeAt step fun p => .setMode p mode
        | .error e =>
          let failure : String × IoError ←
            if e = .alreadyExists ∧ parents then
              match ← inspect step with
              | .ok _ => pure ("create directory", if last then e else .notDirectory)
              | .error .notFound => pure ("create directory", e)
              | .error e => pure (if last then "stat" else "create directory", e)
            else pure ("create directory", e)
          let (action, e) := failure
          complain name ("cannot " ++ action ++ " " ++ quotedName step ++ ": " ++ e.reason)
          status := 1
          break
  return status

/-- `rmdir`: removes empty directories. -/
def runRmdir : Tool := fun _ name args =>
  withOptions
    { short := "pv"
      long := [("parents", "p"), ("verbose", "v"), ("ignore-fail-on-non-empty", "i")] }
    name args fun found operands => do
  if operands = [] then return ← misused name "missing operand"
  let mut status := 0
  for path in operands do
    let steps := path :: (if has found "p" then (ancestors path).dropLast.reverse else [])
    for step in steps do
      if has found "v" then put (name ++ ": removing directory, " ++ quotedName step ++ "\n")
      match ← changeAt step .removeDirectory with
      | .ok _ => pure ()
      | .error e =>
        if !(has found "i" && e == .notEmpty) then
          let what := if step = path then "failed to remove " else "failed to remove directory "
          let linked := e == .notDirectory && step.endsWith "/" &&
            (← inspect (trimmedPath step) false).toOption.any (·.kind == .link)
          let reason := if linked then "Symbolic link not followed" else e.reason
          complain name (what ++ quotedName step ++ ": " ++ reason)
          status := 1
        break
  return status

/-! ### Removing -/

/-- How `rm` removes files. -/
structure Removal where
  name : String
  recursive : Bool
  directories : Bool
  forced : Bool
  /-- Whether it asks before each removal. -/
  asks : Bool
  verbose : Bool

/-- Removes what is at a path; false if that fails.  The fuel bounds how deep directories lie in
each other. -/
def remove (r : Removal) : Nat → String → Action Bool
  | 0, _ => return false
  | n + 1, path => do
    let failed (e : IoError) : Action Bool := do
      complain r.name ("cannot remove " ++ quotedName path ++ ": " ++ e.reason)
      return false
    let agreed (question : String) : Action Bool := do
      if r.asks then confirmed (r.name ++ ": " ++ question ++ " " ++ quotedName path ++ "? ")
      else return true
    match ← inspect path false with
    | .error _ =>
      match ← changeAt path .remove with
      | .ok _ => return true
      | .error e =>
        if r.forced ∧ (e = .notFound ∨ e = .notDirectory) then return true else failed e
    | .ok info =>
      if info.kind = .directory then
        if !r.recursive ∧ !r.directories then return ← failed .isDirectory
        let names ← if r.recursive then namesIn path else pure (.ok [])
        let names := names.toOption.getD []
        if names ≠ [] then
          if !(← agreed "descend into directory") then return true
        let mut clean := true
        for name in names do
          if !(← remove r n (inDirectory path name)) then clean := false
        if !clean then return false
        if !(← agreed "remove directory") then return true
        match ← changeAt path .removeDirectory with
        | .ok _ =>
          if r.verbose then put ("removed directory " ++ quotedName path ++ "\n")
          return true
        -- What was kept in the directory keeps the directory.
        | .error e => if r.asks ∧ e = .notEmpty ∧ r.recursive then return true else failed e
      else
        let kind := match info.kind with
          | .link => "symbolic link"
          | .device => "character special file"
          | _ => if info.size = 0 then "regular empty file" else "regular file"
        if !(← agreed ("remove " ++ kind)) then return true
        match ← changeAt path .remove with
        | .ok _ =>
          if r.verbose then put ("removed " ++ quotedName path ++ "\n")
          return true
        | .error e => failed e

/-- When `rm` asks. -/
inductive Asking where
  | never
  | once
  | always
  deriving DecidableEq

/-- When `rm` asks, as the last of its options says, or the status of a complaint. -/
def askingFrom (name : String) (found : List (String × String)) : Action (Except Nat Asking) := do
  match found.reverse.find? fun o => o.1 ∈ ["f", "i", "I", "interactive"] with
  | some ("i", _) | some ("interactive", "") => return .ok .always
  | some ("I", _) => return .ok .once
  | some ("interactive", word) =>
    match ← wordChosen name "--interactive" word
        [["never", "no", "none"], ["once"], ["always", "yes"]] with
    | .ok "never" => return .ok .never
    | .ok "once" => return .ok .once
    | .ok _ => return .ok .always
    | .error status => return .error status
  | _ => return .ok .never

/-- `rm`: removes files. -/
def runRm : Tool := fun _ name args =>
  withOptions
    { short := "firvdRI"
      long := [("force", "f"), ("recursive", "r"), ("verbose", "v"), ("dir", "d"),
        ("interactive?", "interactive"), ("one-file-system", "o"), ("preserve-root?", "P"),
        ("no-preserve-root", "N")] }
    name args fun found operands => do
  match ← askingFrom name found with
  | .error status => return status
  | .ok asking =>
    let recursive := has found "r" || has found "R"
    let last := found.reverse.find? fun o => o.1 ∈ ["f", "i", "I", "interactive"]
    let forced := last.any (·.1 == "f")
    if operands = [] then
      if forced then return 0
      return ← misused name "missing operand"
    let r : Removal :=
      { name, recursive, directories := has found "d", forced, asks := asking == .always
        verbose := has found "v" }
    if asking = .once ∧ (recursive ∨ 3 < operands.length) then
      let noun := if operands.length = 1 then " argument" else " arguments"
      let count := toString operands.length ++ noun
      let ending := if recursive then " recursively? " else "? "
      if !(← confirmed (name ++ ": remove " ++ count ++ ending))
      then
        return 0
    let mut status := 0
    for operand in operands do
      let path := atMostOneSlash operand
      let last := ((trimmedPath path).splitOn "/").getLast?.getD ""
      if recursive ∧ (last = "." ∨ last = "..") ∧ (← isDirectory path) then
        complain name ("refusing to remove '.' or '..' directory: skipping " ++ quotedName path)
        status := 1
      else if recursive ∧ trimmedPath path = "/" ∧ !has found "N" then
        complain name "it is dangerous to operate recursively on '/'"
        complain name "use --no-preserve-root to override this failsafe"
        status := 1
      else if !(← remove r maxDepth path) then status := 1
    return status

/-! ### Names that nothing else has -/

/-- A template of a name: marks are replaced by letters. -/
structure NameTemplate where
  start : String
  marks : Nat
  ending : String

/-- Takes a template apart, or says what is wrong with it. -/
def nameTemplate? (template : String) (suffix : Option String) : Except String NameTemplate := do
  let (body, ending) ← match suffix with
    | some suffix =>
      if !template.endsWith "X" then
        throw ("with --suffix, template " ++ quotedName template ++ " must end in X")
      pure (template.toList, suffix)
    | none =>
      let tail := template.toList.reverse.takeWhile (· != 'X')
      let tail := if template.contains 'X' then tail.reverse else []
      pure (template.toList.take (template.length - tail.length), String.ofList tail)
  if ending.contains '/' then
    throw ("invalid suffix " ++ quotedName ending ++ ", contains directory separator")
  let marks := (body.reverse.takeWhile (· == 'X')).length
  if marks < 3 then throw ("too few X's in template " ++ quotedName template)
  return ⟨String.ofList (body.take (body.length - marks)), marks, ending⟩

/-- Letters that depend on a number. -/
def lettersFor (serial count : Nat) : String :=
  let letters := "abcdefghijklmnopqrstuvwxyz0123456789".toList
  String.ofList ((List.range count).map fun i =>
    (letters[(serial * 7919 + serial / (i + 1) * 31 + i * 17) % letters.length]?).getD 'x')

/-- `mktemp`: makes a file or a directory whose name nothing else has. -/
def runMktemp : Tool := fun _ name args =>
  withOptions
    { short := "dqup:t"
      long := [("directory", "d"), ("quiet", "q"), ("dry-run", "u"), ("suffix=", "suffix"),
        ("tmpdir?", "p")] }
    name args fun found operands => do
  if 1 < operands.length then return ← misused name "too many templates"
  let template := operands.headD "tmp.XXXXXXXXXX"
  match nameTemplate? template (argument? found "suffix") with
  | .error problem => refuse name problem
  | .ok t =>
    let usual := match (← memory).environment.lookup "TMPDIR" with
      | some "" | none => "/tmp"
      | some path => path
    let directory : Option String := match argument? found "p" with
      | some "" => some usual
      | some path => some path
      | none => if operands = [] ∨ has found "t" then some usual else none
    if has found "t" ∧ template.contains '/' then
      return ← refuse name ("invalid template, " ++ quotedName template ++
        ", contains directory separator")
    if has found "p" ∧ template.startsWith "/" then
      return ← refuse name ("invalid template, " ++ quotedName template ++
        "; with --tmpdir, it may not be absolute")
    let base := match directory with
      | some d => inDirectory d t.start
      | none => t.start
    let serial ← modifyGet fun s => (s.nextProcess, { s with nextProcess := s.nextProcess + 1 })
    let path := base ++ lettersFor serial t.marks ++ t.ending
    let result ←
      if has found "u" then pure (.ok ())
      else if has found "d" then changeAt path fun p => .makeDirectory p 0o700
      else do
        let result ← writeFile path ""
        let _ ← changeAt path fun p => .setMode p 0o600
        pure result
    match result with
    | .ok _ => deliver name (path ++ "\n")
    | .error e =>
      let kind := if has found "d" then "directory" else "file"
      let whole := base ++ String.ofList (List.replicate t.marks 'X') ++ t.ending
      if has found "q" then return 1
      refuse name ("failed to create " ++ kind ++ " via template " ++ quotedName whole ++ ": " ++
        e.reason)

end ScriptLang.Shell.Tool
