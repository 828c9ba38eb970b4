import ScriptLang.Shell.Action
import ScriptLang.Shell.Read

/-!
# Looking up commands

A name that begins a command is looked up among the functions, the shell's own commands, and the
programs in the directories that `PATH` names.

## Main definitions

* `specialCommands`, `ownCommands` — the commands that are not programs
* `search` — the program with a name
* `Found`, `lookUp` — what a name stands for
* `describe` — what a name stands for, in words
-/

namespace ScriptLang.Shell

/-- The commands in which a mistake ends the shell, and whose assignments last. -/
def specialCommands : List String :=
  [":", ".", "break", "continue", "eval", "exec", "exit", "export", "local", "readonly", "return",
    "set", "shift", "times", "trap", "unset"]

/-- The other commands of the shell's own. -/
def ordinaryCommands : List String :=
  ["[", "alias", "bg", "cd", "chdir", "command", "echo", "false", "fg", "getopts", "hash", "jobs",
    "kill", "printf", "pwd", "read", "test", "true", "type", "ulimit", "umask", "unalias", "wait"]

/-- The directories that a list such as `PATH` names. -/
def directoriesIn (list : String) : List String :=
  (list.splitOn ":").map fun directory => if directory = "" then "." else directory

/-- The path of a name in a directory. -/
def inDirectory (directory name : String) : String :=
  if directory.endsWith "/" then directory ++ name else directory ++ "/" ++ name

/-- The first file with a name in some directories, or why there is none. -/
def searchIn (directories : List String) (name : String) : Action (Except IoError String) := do
  let mut reason := IoError.notFound
  for directory in directories do
    let path := inDirectory directory name
    match ← inspect path with
    | .ok info =>
      if info.kind = .file ∧ info.mode &&& 0o111 ≠ 0 then return .ok path
      reason := .accessDenied
    | .error _ => pure ()
  return .error reason

/-- The program with a name in the directories of `PATH`, or why there is none. -/
def search (name : String) : Action (Except IoError String) := do
  searchIn (directoriesIn (((← memory).value? "PATH").getD "")) name

/-- What a name stands for. -/
inductive Found where
  | own (special : Bool)
  | function (body : Command)
  | program (path : String)
  | nothing (reason : IoError)

/-- What a name stands for; functions are left out if `functions` says so. -/
def lookUp (name : String) (functions : Bool := true) : Action Found := do
  if name.contains '/' then return .program name
  if name ∈ specialCommands then return .own true
  let m ← memory
  match if functions then m.functions.lookup name else none with
  | some body => return .function body
  | none =>
    if name ∈ ordinaryCommands then return .own false
    match ← search name with
    | .ok path => return .program path
    | .error e => return .nothing e

/-- The pieces of a text in single quotes, and the runs of single quotes between them in double
ones. -/
def quotedPieces : Nat → List Char → List Char
  | 0, _ => []
  | n + 1, cs =>
    let piece := cs.takeWhile (· != '\'')
    let rest := cs.drop piece.length
    let marks := rest.takeWhile (· == '\'')
    let later := rest.drop marks.length
    '\'' :: piece ++ '\'' ::
      let others := if later = [] then [] else quotedPieces n later
      (if marks = [] then [] else '"' :: marks ++ '"' :: others)

/-- A text in quotes, as the shell could read it again. -/
def quoted (s : String) : String :=
  String.ofList (quotedPieces (s.length + 1) s.toList)

/-- Says what a name stands for, briefly or in words. -/
def describe (name : String) (words : Bool) : Action Nat := do
  let m ← memory
  let answer (brief long : String) : Action Nat := do
    say ((if words then name ++ long else brief) ++ "\n")
  if name ∈ keywords then answer name " is a shell keyword"
  else
    match m.aliases.lookup name with
    | some value =>
      answer ("alias " ++ name ++ "=" ++ quoted value) (" is an alias for " ++ value)
    | none =>
      let unknown : Action Nat := do
        if words then let _ ← say (name ++ ": not found\n")
        return 127
      match ← lookUp name with
      | .own true => answer name " is a special shell builtin"
      | .own false => answer name " is a shell builtin"
      | .function _ => answer name " is a shell function"
      | .program path =>
        match ← inspect path with
        | .ok _ => answer path (" is " ++ path)
        | .error _ => unknown
      | .nothing _ => unknown

end ScriptLang.Shell
