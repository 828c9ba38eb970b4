import ScriptLang.Shell.Format
import ScriptLang.Shell.Own.Control
import ScriptLang.Shell.Own.Input
import ScriptLang.Shell.Own.Names
import ScriptLang.Shell.Own.Place
import ScriptLang.Shell.Test

/-!
# The shell's own commands

The commands that a shell carries out by itself and that do not carry out others.

## Main definitions

* `runEcho`, `runPrintf`, `runTest` — commands that write and compare
* `ownCommand?` — the command with a name
-/

namespace ScriptLang.Shell

/-- The text that `echo` writes for its arguments. -/
def echoText : List String → Bool → String
  | [], line => if line then "\n" else ""
  | arg :: later, line =>
    let (text, ended) := unescaped arg
    if ended then text
    else if later = [] then text ++ echoText [] line
    else text ++ " " ++ echoText later line

/-- `echo`: writes its arguments. -/
def runEcho (args : List String) : Action Nat :=
  match args with
  | "-n" :: later => say (echoText later false)
  | args => say (echoText args true)

/-- `printf`: fills a format with arguments.  Complaints come before the output. -/
def runPrintf (args : List String) : Action Nat := do
  let (_, args) ← options "" args
  match args with
  | [] => fail "usage: printf format [arg ...]"
  | format :: args =>
    let f := formatted format args
    for text in f.complaints do
      complaint text
    match f.failure with
    | some text =>
      let r ← caught (fail text : Action Nat)
      let _ ← say f.text
      match r with
      | .ok status => return status
      | .error stop => throw stop
    | none =>
      let status ← say f.text
      return if f.complaints = [] then status else 1

/-- `test` and `[`: zero if a condition holds. -/
def runTest (name : String) (args : List String) : Action Nat := do
  if name = "[" ∧ args.getLast? ≠ some "]" then fail "missing ]"
  let args := if name = "[" then args.dropLast else args
  return if ← testArguments false args (args.length + 2) then 0 else 1

/-- `ulimit`: says that nothing is limited. -/
def runUlimit (args : List String) : Action Nat := do
  let (_, rest) ← options "HSatfdscmlpnvwr" args
  if rest = [] then say "unlimited\n" else return 0

/-- The command of the shell's own with a name, if it carries out no others. -/
def ownCommand? (name : String) : Option (List String → Action Nat) :=
  match name with
  | ":" | "true" => some fun _ => return 0
  | "false" => some fun _ => return 1
  | "[" | "test" => some (runTest name)
  | "alias" => some runAlias
  | "bg" | "fg" => some fun _ => fail "No current job"
  | "break" => some runBreak
  | "cd" | "chdir" => some runCd
  | "continue" => some runContinue
  | "echo" => some runEcho
  | "exit" => some runExit
  | "export" => some (runMark name Variable.exported fun v => { v with exported := true })
  | "getopts" => some runGetopts
  | "hash" => some runHash
  | "jobs" => some fun _ => return 0
  | "kill" => some runKill
  | "local" => some runLocal
  | "printf" => some runPrintf
  | "pwd" => some runPwd
  | "read" => some runRead
  | "readonly" => some (runMark name Variable.readOnly fun v => { v with readOnly := true })
  | "return" => some runReturn
  | "set" => some runSet
  | "shift" => some runShift
  | "times" => some fun _ => say "0m0.000000s 0m0.000000s\n0m0.000000s 0m0.000000s\n"
  | "trap" => some runTrap
  | "type" => some runType
  | "ulimit" => some runUlimit
  | "umask" => some runUmask
  | "unalias" => some runUnalias
  | "unset" => some runUnset
  | "wait" => some runWait
  | _ => none

end ScriptLang.Shell
