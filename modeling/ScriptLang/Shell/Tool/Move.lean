import ScriptLang.Shell.Tool.Files

/-!
# Moving and copying files

Programs that move, copy and link files.  The last operand is the target; if it is a directory, the
others go into it under their own names.  What is at a target may be kept, be kept under another
name, or be replaced.

## Main definitions

* `Targets`, `targetsOf` — the sources and the target that operands name
* `Replacing` — what happens to files that are in the way
* `Copying` — how files are copied
* `runMv`, `runCp`, `runLn` — the programs of these names
-/

namespace ScriptLang.Shell.Tool

/-! ### Sources and targets -/

/-- The last name in a path. -/
def baseOf (path : String) : String :=
  let trimmed := trimmedPath path
  if trimmed = "/" then "/" else (trimmed.splitOn "/").getLast?.getD trimmed

/-- The sources and the target that operands name, and whether the target is a directory into which
the sources go. -/
structure Targets where
  sources : List String
  target : String
  into : Bool

/-- Reads operands as sources and a target, or complains. -/
def targetsOf (name : String) (found : List (String × String)) (operands : List String) :
    Action (Except Nat Targets) := do
  match argument? found "t" with
  | some directory =>
    if operands = [] then return .error (← misused name "missing file operand")
    match ← inspect directory with
    | .error e =>
      let text := "target directory " ++ quotedName directory ++ ": " ++ e.reason
      return .error (← refuse name text)
    | .ok info =>
      if info.kind ≠ .directory then
        return .error
          (← refuse name ("target directory " ++ quotedName directory ++ ": Not a directory"))
      return .ok ⟨operands, directory, true⟩
  | none =>
    match operands with
    | [] => return .error (← misused name "missing file operand")
    | [one] =>
      return .error
        (← misused name ("missing destination file operand after " ++ quotedName one))
    | _ =>
      let target := operands.getLast?.getD ""
      let sources := operands.dropLast
      if has found "T" then
        if 1 < sources.length then
          return .error (← misused name ("extra operand " ++ quotedName (operands[2]?.getD "")))
        return .ok ⟨sources, target, false⟩
      match ← inspect target with
      | .ok info =>
        if info.kind = .directory then return .ok ⟨sources, target, true⟩
        if 1 < sources.length then
          return .error (← refuse name ("target " ++ quotedName target ++ ": Not a directory"))
        return .ok ⟨sources, target, false⟩
      | .error e =>
        if 1 < sources.length then
          return .error (← refuse name ("target " ++ quotedName target ++ ": " ++ e.reason))
        return .ok ⟨sources, target, false⟩

/-- Where a source goes. -/
def Targets.place (t : Targets) (source : String) : String :=
  if t.into then joinedPath t.target (baseOf source) else t.target

/-- The identity of what is at a path. -/
def identityOf (path : String) (last : Bool) : Action (Option Nat) := do
  return (← inspect path last).toOption.map FileInfo.identity

/-! ### Files in the way -/

/-- Under which name a file that is in the way is kept. -/
inductive Backup where
  | none
  | simple
  /-- Numbered if there are numbered ones already. -/
  | existing
  | numbered
  deriving DecidableEq

/-- What happens to files that are in the way. -/
structure Replacing where
  name : String
  asks : Bool
  /-- Whether they are left as they are. -/
  sparing : Bool
  /-- Whether they are left if they are not older. -/
  newer : Bool
  backup : Backup
  /-- What is added to the names of files that are kept. -/
  suffix : String

namespace Replacing

/-- What options say about files in the way, or the status of a complaint. -/
def ofOptions (name : String) (found : List (String × String)) :
    Action (Except Nat Replacing) := do
  let asking := (found.reverse.find? fun o => o.1 ∈ ["f", "i", "n"]).map Prod.fst
  let suffix := (argument? found "S").getD "~"
  let update ← match argument? found "u" with
    | none => pure "all"
    | some "" => pure "older"
    | some word =>
      match ← wordChosen name "--update" word [["all"], ["none"], ["older"]] with
      | .ok word => pure word
      | .error status => return .error status
  let backup ← match (found.reverse.find? fun o => o.1 ∈ ["b", "backup", "S"]) with
    | none => pure Backup.none
    | some _ =>
      let word := (argument? found "backup").getD ""
      if word = "" then pure Backup.existing
      else
        match ← wordChosen name "backup type" word
            [["none", "off"], ["simple", "never"], ["existing", "nil"], ["numbered", "t"]] with
        | .ok "none" => pure Backup.none
        | .ok "simple" => pure Backup.simple
        | .ok "existing" => pure Backup.existing
        | .ok _ => pure Backup.numbered
        | .error status => return .error status
  return .ok
    { name, asks := asking == some "i", sparing := asking == some "n" || update == "none"
      newer := update == "older", backup, suffix }

/-- The options that say something about files in the way. -/
def options : List (String × String) :=
  [("backup?", "backup"), ("force", "f"), ("interactive", "i"), ("suffix=", "S")]

/-- The name under which what is at a path is to be kept, if it is to be kept. -/
def keptName? (r : Replacing) (path : String) : Action (Option String) := do
  let names := (← namesIn (if path.contains '/' then path ++ "/.." else ".")).toOption.getD []
  let start := baseOf path ++ ".~"
  let numbers := names.filterMap fun name =>
    if name.startsWith start ∧ name.endsWith "~" then
      natural? (String.ofList ((name.toList.drop start.length).dropLast))
    else none
  let numbered := path ++ ".~" ++ toString (numbers.foldl max 0 + 1) ++ "~"
  return match r.backup with
    | .none => none
    | .simple => some (path ++ r.suffix)
    | .existing => some (if numbers = [] then path ++ r.suffix else numbered)
    | .numbered => some numbered

/-- What is done about a file in the way. -/
inductive Decision where
  /-- It is replaced, and kept under another name if there is one. -/
  | replace (kept : Option String)
  /-- It stays; the flag tells whether that is a failure. -/
  | leave (failed : Bool)

/-- Decides about what is at a target, and puts it out of the way if it is to be kept. -/
def decide (r : Replacing) (source : FileInfo) (target : FileInfo) (path : String) :
    Action Decision := do
  if target.kind = .directory then return .replace none
  if r.sparing ∨ (r.newer ∧ target.modified ≥ source.modified) then return .leave false
  if r.asks then
    if !(← confirmed (r.name ++ ": " ++ (if r.name = "ln" then "replace " else "overwrite ") ++
        quotedName path ++ "? ")) then
      return .leave true
  match ← r.keptName? path with
  | some kept =>
    let _ ← change (.rename (← pathOf path) (← pathOf kept))
    return .replace (some kept)
  | none => return .replace none

end Replacing

/-- The words about a file that was kept under another name. -/
def keptWords (kept : Option String) : String :=
  match kept with
  | some name => " (backup: " ++ quotedName name ++ ")"
  | none => ""

/-! ### Moves -/

/-- Moves one file; false if that fails. -/
def moveOne (r : Replacing) (verbose : Bool) (source target : String) : Action Bool := do
  let failed (text : String) : Action Bool := do
    complain r.name text
    return false
  match ← inspect source false with
  | .error e => failed ("cannot stat " ++ quotedName source ++ ": " ++ e.reason)
  | .ok info =>
    let there ← inspect target false
    let mut kept : Option String := none
    if let .error e := there then
      if e ≠ .notFound then
        return ← failed ("cannot stat " ++ quotedName target ++ ": " ++ e.reason)
    if let .ok other := there then
      if other.identity = info.identity then
        return ← failed (quotedName source ++ " and " ++ quotedName target ++ " are the same file")
      if other.kind = .directory ∧ info.kind ≠ .directory then
        return ← failed ("cannot overwrite directory " ++ quotedName target ++
          " with non-directory")
      if other.kind ≠ .directory ∧ info.kind = .directory then
        return ← failed ("cannot overwrite non-directory " ++ quotedName target ++
          " with directory " ++ quotedName source)
      match ← r.decide info other target with
      | .leave problem => return !problem
      | .replace name => kept := name
    match ← change (.rename (← pathOf source) (← pathOf target)) with
    | .ok _ =>
      if verbose then
        let change := quotedName source ++ " -> " ++ quotedName target
        put ("renamed " ++ change ++ keptWords kept ++ "\n")
      return true
    | .error .invalidArgument =>
      failed ("cannot move " ++ quotedName source ++ " to a subdirectory of itself, " ++
        quotedName target)
    | .error e =>
      if e = .notEmpty then
        return ← failed ("cannot overwrite " ++ quotedName target ++ ": " ++ e.reason)
      let change := quotedName source ++ " to " ++ quotedName target
      failed ("cannot move " ++ change ++ ": " ++ e.reason)

/-- `mv`: moves files. -/
def runMv : Tool := fun _ name args =>
  withOptions
    { short := "bfint:uvS:TZ"
      long := [("no-clobber", "n"), ("update?", "u"), ("verbose", "v"),
        ("target-directory=", "t"), ("no-target-directory", "T"),
        ("strip-trailing-slashes", "strip")] ++ Replacing.options }
    name args fun found operands => do
  match ← Replacing.ofOptions name found with
  | .error status => return status
  | .ok r =>
  match ← targetsOf name found operands with
  | .error status => return status
  | .ok t =>
    let mut status := 0
    for source in t.sources do
      let path := if has found "strip" then trimmedPath source else source
      if !(← moveOne r (has found "v") path (t.place source)) then status := 1
    return status

/-! ### Copies -/

/-- How `cp` copies. -/
structure Copying where
  name : String
  recursive : Bool
  /-- Whether links are copied as links. -/
  links : Bool
  /-- Whether modes and times are kept. -/
  keep : Bool
  forced : Bool
  replacing : Replacing
  verbose : Bool
  /-- Whether files get one more name instead of being copied. -/
  hard : Bool
  /-- Whether links to files are made. -/
  symbolic : Bool
  /-- Whether what is in the way is removed, not written over. -/
  removing : Bool
  /-- Whether only files are made, without what they hold. -/
  empty : Bool

/-- Whether files are linked instead of being copied. -/
def Copying.linking (c : Copying) : Bool :=
  c.hard || c.symbolic

/-- Gives a copy the mode and, if they are kept, the time of what it was made from. -/
def keepMarks (c : Copying) (info : FileInfo) (target : String) (fresh : Bool) : Action Unit := do
  if fresh ∨ c.keep then
    let m ← memory
    let mask := if c.keep then 0 else m.mask
    let _ ← changeAt target fun p => .setMode p (Files.unmasked info.mode mask)
  if c.keep then
    let _ ← changeAt target fun p => .setTime p info.modified

/-- A copy that is to be made: what is copied, and what is already at the target. -/
structure CopyStep where
  source : String
  target : String
  info : FileInfo
  there : Option FileInfo

namespace CopyStep

/-- Complains that a copy cannot be made. -/
def failed (s : CopyStep) (c : Copying) (before between reason : String) : Action Bool := do
  let names := quotedName s.target ++
    (if between = "" then "" else between ++ quotedName s.source)
  complain c.name (before ++ names ++ reason)
  return false

/-- Tells what is copied where. -/
def report (s : CopyStep) (c : Copying) (kept : Option String) : Action Unit := do
  if c.verbose then
    put (quotedName s.source ++ " -> " ++ quotedName s.target ++ keptWords kept ++ "\n")

/-- Copies a link; false if that fails. -/
def copyLink (s : CopyStep) (c : Copying) : Action Bool := do
  match ← call (.readLink (← pathOf s.source)) with
  | .error e =>
    complain c.name ("cannot read symbolic link " ++ quotedName s.source ++ ": " ++ e.reason)
    return false
  | .ok text =>
    let _ ← changeAt s.target .remove
    match ← changeAt s.target fun p => .makeLink text p with
    | .ok _ =>
      s.report c none
      return true
    | .error e => s.failed c "cannot create symbolic link " "" (": " ++ e.reason)

/-- Makes a link to a file; false if that fails. -/
def makeLink (s : CopyStep) (c : Copying) (kept : Option String) : Action Bool := do
  -- A name that is there already for the same file is as good as a new one.
  if c.hard ∧ !c.forced ∧ s.there.any (·.identity == s.info.identity) then return true
  let result ← if c.hard then change (.addName (← pathOf s.source) (← pathOf s.target))
    else changeAt s.target fun p => .makeLink (toText s.source) p
  match result with
  | .ok _ =>
    s.report c kept
    return true
  | .error e =>
    let kind := if c.hard then "hard" else "symbolic"
    s.failed c ("cannot create " ++ kind ++ " link ") " to " (": " ++ e.reason)

/-- Copies a file, or makes a link to it; false if that fails. -/
def copyFile (s : CopyStep) (c : Copying) (top : Bool) : Action Bool := do
  let mut kept : Option String := none
  if let some other := s.there then
    if other.kind = .directory then
      complain c.name ("cannot overwrite directory " ++ quotedName s.target ++
        " with non-directory" ++ (if top then "" else " " ++ quotedName s.source))
      return false
    match ← c.replacing.decide s.info other s.target with
    | .leave problem => return !problem
    | .replace name => kept := name
  if (c.forced ∧ c.linking) ∨ c.removing then
    let _ ← changeAt s.target .remove
  if c.linking then return ← s.makeLink c kept
  if s.there.isNone ∧ (← identityOf s.target false).isSome then
    return ← s.failed c "not writing through dangling symlink " "" ""
  match ← inputFrom (if s.source = "-" then "./-" else s.source) with
  | .error e =>
    complain c.name ("cannot open " ++ quotedName s.source ++ " for reading: " ++ e.reason)
    return false
  | .ok content =>
    let content := if c.empty then "" else content
    let written ← writeFile s.target content
    match written.mapError fun e => if e = .isDirectory then .notDirectory else e with
    | .ok _ =>
      s.report c kept
      keepMarks c s.info s.target s.there.isNone
      return true
    | .error e => s.failed c "cannot create regular file " "" (": " ++ e.reason)

end CopyStep

/-- What has come of copying an operand so far. -/
structure CopyState where
  /-- Whether nothing has failed. -/
  clean : Bool := true
  /-- The first directory that was made. -/
  made : Option Nat := none
  /-- Whether the copy has been met in what is copied. -/
  inward : Bool := false

/-- Copies what is at a path that belongs to an operand: the names of the operand and of its copy
are given.  `top` says that the path is the operand itself. -/
def copy (c : Copying) (operand place : String) :
    Nat → Bool → CopyState → String → String → Action CopyState
  | 0, _, state, _, _ => return { state with clean := false }
  | n + 1, top, state, source, target => do
    let failed (text : String) : Action CopyState := do
      complain c.name text
      return { state with clean := false }
    match ← inspect source (!c.links) with
    | .error e => failed ("cannot stat " ++ quotedName source ++ ": " ++ e.reason)
    | .ok info =>
      if info.kind = .directory ∧ !c.recursive then
        return ← failed ("-r not specified; omitting directory " ++ quotedName source)
      let follows := info.kind = .file ∧ !c.linking ∧ !c.removing ∧ c.replacing.backup = .none
      let found ← inspect target follows
      if let .error e := found then
        if e ≠ .notFound then
          return ← failed ("cannot stat " ++ quotedName target ++ ": " ++ e.reason)
      let there := found.toOption
      if there.any (·.identity == info.identity) ∧ !c.hard then
        return ← failed (quotedName source ++ " and " ++ quotedName target ++ " are the same file")
      let step : CopyStep := { source, target, info, there }
      let ended (clean : Bool) : CopyState := { state with clean := state.clean && clean }
      match info.kind with
      | .directory =>
        if let some other := there then
          if other.kind ≠ .directory then
            return ← failed ("cannot overwrite non-directory " ++ quotedName target ++
              " with directory " ++ quotedName source)
        if state.made = some info.identity then
          complain c.name ("cannot copy a directory, " ++ quotedName operand ++
            ", into itself, " ++ quotedName place)
          return { state with clean := false, inward := true }
        let mut state := state
        if there.isNone then
          match ← changeAt target fun p => .makeDirectory p 0o777 with
          | .ok _ =>
            step.report c none
            let made := (← identityOf target true)
            state := { state with made := state.made.orElse fun _ => made }
          | .error e =>
            return ← failed ("cannot create directory " ++ quotedName target ++ ": " ++ e.reason)
        for name in (← namesIn source).toOption.getD [] do
          if !state.inward then
            let inner := joinedPath source name
            state ← copy c operand place n false state inner (joinedPath target name)
        keepMarks c info target there.isNone
        return state
      | .link => return ended (← step.copyLink c)
      | _ => return ended (← step.copyFile c top)

/-- Makes the directories under a target that lie on the way to a source, and yields where the
source goes; none if that fails. -/
def makeParents (c : Copying) (source target : String) : Action (Option String) := do
  let steps := (ancestors (source.dropWhile (· == '/')).toString).dropLast
  for step in steps do
    let above := if source.startsWith "/" then "/" ++ step else step
    match ← inspect above with
    | .error e =>
      complain c.name ("failed to get attributes of " ++ quotedName above ++ ": " ++ e.reason)
      return none
    | .ok info =>
      let path := joinedPath target step
      if !(← isDirectory path) then
        match ← changeAt path fun p => .makeDirectory p info.mode with
        | .ok _ => if c.verbose then put (fileName above ++ " -> " ++ fileName path ++ "\n")
        | .error e =>
          complain c.name ("cannot make directory " ++ quotedName path ++ ": " ++ e.reason)
          return none
  return some (joinedPath target (source.dropWhile (· == '/')).toString)

/-- `cp`: copies files. -/
def runCp : Tool := fun _ name args =>
  withOptions
    { short := "abdfHilLnprst:uvxPRS:TZ"
      long := [("archive", "a"), ("attributes-only", "empty"), ("link", "l"),
        ("dereference", "L"), ("no-dereference", "P"), ("no-clobber", "n"), ("preserve?", "p"),
        ("no-preserve=", "no-preserve"), ("recursive", "r"), ("remove-destination", "remove"),
        ("one-file-system", "x"), ("symbolic-link", "s"), ("target-directory=", "t"),
        ("update?", "u"), ("verbose", "v"), ("no-target-directory", "T"),
        ("parents", "parents"), ("reflink?", "reflink"), ("sparse=", "sparse"),
        ("strip-trailing-slashes", "strip")] ++ Replacing.options }
    name args fun found operands => do
  let recursive := has found "r" || has found "R" || has found "a"
  match ← Replacing.ofOptions name (found.filter (·.1 != "f")) with
  | .error status => return status
  | .ok replacing =>
  let c : Copying :=
    { name, recursive, replacing
      links := (recursive || has found "P" || has found "d") && !has found "L"
      keep := has found "p" || has found "a", forced := has found "f"
      verbose := has found "v", hard := has found "l", symbolic := has found "s"
      removing := has found "remove", empty := has found "empty" }
  match ← targetsOf name found operands with
  | .error status => return status
  | .ok t =>
    let parents := has found "parents"
    if parents ∧ !t.into then
      return ← misused name "with --parents, the destination must be a directory"
    let mut status := 0
    for source in t.sources do
      -- The directory around a directory is copied into the target itself.
      let goal := if baseOf source = ".." ∧ t.into then joinedPath t.target "."
        else t.place source
      let place ← if parents then makeParents c source t.target else pure (some goal)
      match place with
      | none => status := 1
      | some place =>
        if !(← copy c source place maxDepth true {} source place).clean then status := 1
    return status

/-! ### Links -/

/-- A path from one directory to something, both without links. -/
def relativePath (start target : String) : String :=
  let split (path : String) : List String := (path.splitOn "/").filter (· != "")
  let rec go : List String → List String → List String
    | a :: s, b :: t => if a = b then go s t else ((a :: s).map fun _ => "..") ++ b :: t
    | s, t => (s.map fun _ => "..") ++ t
  let steps := go (split start) (split target)
  if steps = [] then "." else "/".intercalate steps

/-- How `ln` makes links. -/
structure Linking where
  replacing : Replacing
  symbolic : Bool
  /-- Whether what is in the way is removed. -/
  forced : Bool
  /-- Whether symbolic links hold paths from where they lie. -/
  relative : Bool
  /-- Whether what a link leads to gets the name, not the link. -/
  follows : Bool
  verbose : Bool

/-- Makes one link; false if that fails. -/
def linkOne (l : Linking) (source target : String) : Action Bool := do
  let name := l.replacing.name
  let failed (text : String) : Action Bool := do
    complain name text
    return false
  if !l.symbolic then
    match ← inspect source l.follows with
    | .error e => return ← failed ("failed to access " ++ quotedName source ++ ": " ++ e.reason)
    | .ok info =>
      if info.kind = .directory then
        return ← failed (fileName source ++ ": hard link not allowed for directory")
  let there ← inspect target false
  let mut kept : Option String := none
  if l.forced ∨ l.replacing.asks ∨ l.replacing.backup ≠ .none then
    if let .error e := there then
      if e ≠ .notFound then
        return ← failed ("failed to access " ++ quotedName target ++ ": " ++ e.reason)
    if let .ok other := there then
      if other.kind = .directory then
        return ← failed (fileName target ++ ": cannot overwrite directory")
      if (← identityOf source l.follows) = some other.identity ∧ l.replacing.backup = .none then
        return ← failed (quotedName source ++ " and " ++ quotedName target ++ " are the same file")
      match ← l.replacing.decide other other target with
      | .leave problem => return !problem
      | .replace name => kept := name
      let _ ← changeAt target .remove
  let text ← if !l.relative then pure (toText source)
    else do
      let directory := "/".intercalate ((along (← workingDirectory) target).splitOn "/").dropLast
      pure (relativePath directory (along (← workingDirectory) source))
  let linked ← pathOf source
  let linked ← if !l.follows then pure linked
    else do
      match ← call (.resolve linked) with
      | .ok path => pure path
      | .error _ => pure linked
  let result ← if l.symbolic then changeAt target fun p => .makeLink text p
    else change (.addName linked (← pathOf target))
  let arrow := if l.symbolic then " -> " else " => "
  match result with
  | .ok _ =>
    if l.verbose then
      let before := match kept with
        | some kept => quotedName kept ++ " ~ "
        | none => ""
      put (before ++ quotedName target ++ arrow ++ quotedName source ++ "\n")
    return true
  | .error e =>
    let kind := if l.symbolic then "symbolic" else "hard"
    let brief := if l.symbolic then e ≠ .nameTooLong ∧ source ≠ "" else e = .alreadyExists
    let rest := if brief then "" else arrow ++ quotedName source
    let what := kind ++ " link " ++ quotedName target ++ rest
    failed ("failed to create " ++ what ++ ": " ++ e.reason)

/-- `ln`: makes links. -/
def runLn : Tool := fun _ name args =>
  withOptions
    { short := "bdfFilnrsS:t:TvLP"
      long := [("symbolic", "s"), ("no-dereference", "n"), ("relative", "r"),
        ("target-directory=", "t"), ("no-target-directory", "T"), ("verbose", "v"),
        ("logical", "L"), ("physical", "P")] ++ Replacing.options }
    name args fun found operands => do
  match ← Replacing.ofOptions name (found.filter (·.1 != "n")) with
  | .error status => return status
  | .ok replacing =>
  let l : Linking :=
    { replacing, symbolic := has found "s", forced := has found "f", relative := has found "r"
      follows := (found.reverse.find? fun o => o.1 == "L" || o.1 == "P").any (·.1 == "L")
      verbose := has found "v" }
  match operands, argument? found "t" with
  | [source], none =>
    if has found "T" then
      return ← misused name ("missing destination file operand after " ++ quotedName source)
    return if ← linkOne l source (joinedPath "." (baseOf source)) then 0 else 1
  | _, _ =>
    -- A link to a directory can be taken for the link itself.
    let isLink := ((← inspect (operands.getLast?.getD "") false).toOption.any (·.kind == .link))
    let found := if has found "n" ∧ isLink then ("T", "") :: found else found
    match ← targetsOf name found operands with
    | .error status => return status
    | .ok t =>
      let mut status := 0
      for source in t.sources do
        if !(← linkOne l source (t.place source)) then status := 1
      return status

end ScriptLang.Shell.Tool
