import ScriptLang.Shell.Tool.Move

/-!
# Paths

Programs that take paths apart and that follow links.

## Main definitions

* `canonical` — the path from the root that leads over no links
* `runBasename`, `runDirname`, `runReadlink`, `runRealpath` — the programs of these names
-/

namespace ScriptLang.Shell.Tool

/-- A name without an ending, unless nothing else would be left. -/
def withoutEnding (name ending : String) : String :=
  if ending ≠ "" ∧ name ≠ ending ∧ name.endsWith ending then
    String.ofList (name.toList.take (name.length - ending.length))
  else name

/-- `basename`: the last name in a path. -/
def runBasename : Tool := fun _ name args =>
  withOptions
    { short := "as:z"
      long := [("multiple", "a"), ("suffix=", "s"), ("zero", "z")]
      strict := true }
    name args fun found operands => do
  let close := if has found "z" then "\x00" else "\n"
  match operands with
  | [] => misused name "missing operand"
  | first :: rest =>
    if has found "a" ∨ has found "s" then
      let ending := (argument? found "s").getD ""
      put (String.join (operands.map fun p => withoutEnding (baseOf p) ending ++ close))
      return 0
    else
      match rest with
      | [] =>
        put (baseOf first ++ close)
        return 0
      | [ending] =>
        put (withoutEnding (baseOf first) ending ++ close)
        return 0
      | _ :: extra :: _ => misused name ("extra operand " ++ quotedName extra)

/-- The path of the directory in which the last name of a path lies. -/
def directoryOf (path : String) : String :=
  let cs := (path.toList.reverse.dropWhile (· == '/')).dropWhile (· != '/')
  let rest := cs.dropWhile (· == '/')
  if rest ≠ [] then String.ofList rest.reverse
  else if path.startsWith "/" then "/"
  else "."

/-- `dirname`: paths without their last names. -/
def runDirname : Tool := fun _ name args =>
  withOptions { short := "z", long := [("zero", "z")], strict := true } name args
    fun found operands => do
  if operands = [] then return ← misused name "missing operand"
  let close := if has found "z" then "\x00" else "\n"
  put (String.join (operands.map fun p => directoryOf p ++ close))
  return 0

/-! ### Canonical paths -/

/-- What may be missing of a path. -/
inductive Lack where
  | nothing
  /-- The last name may be. -/
  | last
  | anything
  deriving DecidableEq

/-- Whether a name must be that of a directory because of what stands behind it. -/
def wantsDirectory (later : List String) : Bool :=
  match later, later.dropWhile fun step => step = "" ∨ step = "." with
  | [], _ => false
  | _, [] => true
  | _, step :: _ => step == ".."

/-- The names that lead from the root to the end of a path without dots, and without links unless
these are not to be followed; `place` has the names found so far. -/
def canonicalNames (lack : Lack) (follow : Bool) (links : Nat) (place rest : List String) :
    Action (Except IoError (List String)) := do
  match rest with
  | [] => return .ok place
  | step :: later =>
    if step = "" ∨ step = "." then canonicalNames lack follow links place later
    else if step = ".." then canonicalNames lack follow links place.dropLast later
    else
      let path := "/" ++ "/".intercalate (place ++ [step])
      let link ← if follow then call (.readLink (toText path)) else pure (.error .invalidArgument)
      match link with
      | .ok text =>
        match links with
        | links + 1 =>
          let start := if text.startsWith "/" then [] else place
          canonicalNames lack follow links start ((ofText text).splitOn "/" ++ later)
        | 0 =>
          if lack = .anything then canonicalNames lack follow 0 (place ++ [step]) later
          else return .error .tooManyLinks
      | .error e =>
        let found : Except IoError Unit ←
          if lack = .anything then pure (.ok ())
          else if wantsDirectory later then pure ((← inspect (path ++ "/.")).map fun _ => ())
          else if follow then pure (if e = .invalidArgument then .ok () else .error e)
          else if later = [] then pure ((← inspect path).map fun _ => ())
          else pure (.ok ())
        match found with
        | .ok _ => canonicalNames lack follow links (place ++ [step]) later
        | .error e =>
          if lack = .last ∧ e = .notFound ∧ later.all (· == "") then
            canonicalNames lack follow links (place ++ [step]) later
          else return .error e
termination_by (links, rest.length)

/-- The path from the root to the end of a path, without dots, and without links unless these are
not to be followed. -/
def canonical (lack : Lack) (follow : Bool) (path : String) : Action (Except IoError String) := do
  if path = "" then return .error .notFound
  let start ←
    if path.startsWith "/" then pure []
    else
      match ← call (.resolve (← pathOf ".")) with
      | .ok here => pure ((ofText here).splitOn "/" |>.filter (· != ""))
      | .error e => return .error e
  return (← canonicalNames lack follow 64 start (path.splitOn "/")).map fun place =>
    "/" ++ "/".intercalate place

/-- `readlink`: what symbolic links hold, or paths that lead over no links. -/
def runReadlink : Tool := fun _ name args =>
  withOptions
    { short := "femnqsvz"
      long := [("canonicalize", "f"), ("canonicalize-existing", "e"),
        ("canonicalize-missing", "m"), ("no-newline", "n"), ("quiet", "q"), ("silent", "s"),
        ("verbose", "v"), ("zero", "z")] }
    name args fun found operands => do
  if operands = [] then return ← misused name "missing operand"
  let one := operands.length == 1
  if has found "n" ∧ !one then complain name "ignoring --no-newline with multiple arguments"
  let close := if has found "n" ∧ one then "" else if has found "z" then "\x00" else "\n"
  let mut status := 0
  for path in operands do
    let result ←
      if has found "m" then canonical .anything true path
      else if has found "f" then canonical .last true path
      else if has found "e" then canonical .nothing true path
      else do
        let text ← call (.readLink (← pathOf path))
        pure (text.map ofText)
    match result with
    | .ok text => put (text ++ close)
    | .error e =>
      if has found "v" then complain name (fileName path ++ ": " ++ e.reason)
      status := 1
  return status

/-- Whether a path is that of a directory, or of something below it. -/
def isBelow (directory path : String) : Bool :=
  directory == "/" || path == directory || path.startsWith (directory ++ "/")

/-- From where paths are shown, and below which directory this is done; both without links. -/
structure Viewpoint where
  start : Option String := none
  base : Option String := none

/-- A path as it is seen from a viewpoint. -/
def Viewpoint.shown (v : Viewpoint) (path : String) : String :=
  match v.start with
  | none => path
  | some start => if v.base.all (isBelow · path) then relativePath start path else path

/-- `realpath`: paths that lead over no links. -/
def runRealpath : Tool := fun _ name args =>
  withOptions
    { short := "eLmPqsz"
      long := [("canonicalize-existing", "e"), ("canonicalize-missing", "m"), ("logical", "L"),
        ("physical", "P"), ("quiet", "q"), ("strip", "s"), ("no-symlinks", "s"), ("zero", "z"),
        ("relative-to=", "to"), ("relative-base=", "base")] }
    name args fun found operands => do
  if operands = [] then return ← misused name "missing operand"
  let close := if has found "z" then "\x00" else "\n"
  let lack : Lack := if has found "m" then .anything else if has found "e" then .nothing else .last
  let find (path : String) : Action (Except IoError String) := do
    if has found "s" then canonical lack false path
    else if has found "L" then
      -- Dots are taken away before links are followed.
      match ← canonical lack false path with
      | .ok path => canonical lack true path
      | .error e => return .error e
    else canonical lack true path
  let mut view : Viewpoint := {}
  for key in ["to", "base"] do
    if let some path := argument? found key then
      match ← find path with
      | .error e => return ← refuse name (fileName path ++ ": " ++ e.reason)
      | .ok target =>
        if key = "to" then view := { view with start := some target }
        else
          view := match view.start with
            | none => { start := some target, base := some target }
            | some start =>
              if isBelow target start then { view with base := some target } else {}
  let mut status := 0
  for path in operands do
    match ← find path with
    | .ok text => put (view.shown text ++ close)
    | .error e =>
      if !has found "q" then complain name (fileName path ++ ": " ++ e.reason)
      status := 1
  return status

end ScriptLang.Shell.Tool
