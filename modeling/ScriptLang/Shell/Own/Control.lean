import ScriptLang.Shell.Lookup
import ScriptLang.Shell.Own.Options

/-!
# Control

The commands that leave loops, functions and the shell, and those that deal with signals and with
processes in the background.

## Main definitions

* `runBreak`, `runContinue`, `runReturn`, `runExit` — the commands of these names
* `runTrap`, `runKill`, `runWait` — the commands of these names
-/

namespace ScriptLang.Shell

/-- The number of loops that an argument asks for, at most as many as there are. -/
def loopCount (args : List String) : Action Nat := do
  let n ← match args with
    | [] => pure 1
    | arg :: _ =>
      match natural? arg with
      | some (n + 1) => pure (n + 1)
      | _ => fail ("Illegal number: " ++ arg)
  return min n (← memory).loops

/-- `break`: leaves loops. -/
def runBreak (args : List String) : Action Nat := do
  let n ← loopCount args
  if 0 < n then
    setStatus 0
    throw (.leaveLoops n)
  return 0

/-- `continue`: goes on with the next turn of a loop. -/
def runContinue (args : List String) : Action Nat := do
  let n ← loopCount args
  if 0 < n then
    setStatus 0
    throw (.nextTurn n)
  return 0

/-- `return`: leaves a function or a script. -/
def runReturn (args : List String) : Action Nat := do
  match args with
  | [] => pure ()
  | arg :: _ => setStatus (← natural arg)
  throw .goBack

/-- `exit`: leaves the shell. -/
def runExit (args : List String) : Action Nat := do
  match args with
  | [] => pure ()
  | arg :: _ => setStatus ((← natural arg) % 256)
  throw .leave

/-! ### Signals -/

/-- The names of the signals, from number 1 on. -/
def signalNames : List String :=
  ["HUP", "INT", "QUIT", "ILL", "TRAP", "ABRT", "BUS", "FPE", "KILL", "USR1", "SEGV", "USR2",
    "PIPE", "ALRM", "TERM", "STKFLT", "CHLD", "CONT", "STOP", "TSTP", "TTIN", "TTOU", "URG",
    "XCPU", "XFSZ", "VTALRM", "PROF", "WINCH", "POLL", "PWR", "SYS"]

/-- The name of a signal that an argument names or numbers; the end of the shell is signal zero. -/
def signal? (arg : String) : Option String :=
  if arg.toUpper = "EXIT" then some "EXIT"
  else
    match natural? arg with
    | some 0 => some "EXIT"
    | some (n + 1) => signalNames[n]?
    | none => if signalNames.contains arg.toUpper then some arg.toUpper else none

/-- The number of a signal. -/
def signalNumber (name : String) : Nat :=
  if name = "EXIT" then 0 else signalNames.findIdx (· == name) + 1

/-- `trap`: says what is to be done when a signal comes, or lists what has been said. -/
def runTrap (args : List String) : Action Nat := do
  let (_, args) ← options "" args
  match args with
  | [] =>
    let traps := (← memory).traps.mergeSort fun a b => signalNumber a.1 ≤ signalNumber b.1
    say (unlines (traps.map fun (name, action) => "trap -- " ++ quoted action ++ " " ++ name))
  | first :: later =>
    -- An action that is left out, or a minus sign, goes back to what happens by itself.
    let (action, names) : Option String × List String :=
      if later = [] then (none, args)
      else if first = "-" then (none, later)
      else if (natural? first).isSome ∧ (signal? first).isSome then (none, args)
      else (some first, later)
    for name in names do
      match signal? name with
      | none =>
        warn ("trap: " ++ name ++ ": bad trap\n")
        return 1
      | some signal =>
        remember fun m =>
          let others := m.traps.filter (·.1 != signal)
          { m with traps := match action with
            | some action => others ++ [(signal, action)]
            | none => others }
    return 0

/-- Lets a signal come to the shell itself. -/
def raise (signal : String) : Action Unit := do
  match (← memory).traps.lookup signal with
  | some "" => return
  | some _ =>
    if signal = "KILL" ∨ signal = "STOP" then throw (.killed (signalNumber signal))
    remember fun m => { m with pending := m.pending ++ [signal] }
  | none =>
    if signal ∈ ["CHLD", "CONT", "URG", "WINCH", "EXIT"] then return
    throw (.killed (signalNumber signal))

/-- The wording of how `kill` is used. -/
def killUsage : String :=
  "Usage: kill [-s sigspec | -signum | -sigspec] [pid | job]... or\nkill -l [exitstatus]"

/-- `kill`: sends a signal to processes, of which only the shell itself is still there. -/
def runKill (args : List String) : Action Nat := do
  let send (signal : String) (targets : List String) : Action Nat := do
    if targets = [] then fail killUsage
    let mut status := 0
    for target in targets do
      let negative := target.startsWith "-"
      let digits := if negative then (target.drop 1).toString else target
      let n ← match natural? digits with
        | some n => pure n
        | none => fail ("Illegal number: " ++ target)
      if n = (← memory).process ∨ n = 0 then raise signal
      else
        complaint "No such process\n"
        status := 1
    return status
  match args with
  | ["-l"] => say (unlines ("0" :: signalNames))
  | ["-l", arg] =>
    match natural? arg with
    | none => fail ("Illegal number: " ++ arg)
    | some n =>
      match signalNames[(if 128 < n then n - 128 else n) - 1]? with
      | some name => say (name ++ "\n")
      | none => fail ("invalid signal number or exit status: " ++ arg)
  | "-s" :: name :: targets =>
    match signal? name with
    | some signal => send signal targets
    | none => fail ("invalid signal number or name: " ++ name)
  | "--" :: targets => send "TERM" targets
  | arg :: targets =>
    if arg.startsWith "-" ∧ 1 < arg.length then
      match signal? (arg.drop 1).toString with
      | some signal => send signal targets
      | none => fail ("invalid signal number or name: " ++ (arg.drop 1).toString)
    else send "TERM" args
  | [] => send "TERM" []

/-- `wait`: waits for processes in the background, which have all ended. -/
def runWait (args : List String) : Action Nat := do
  let mut status := 0
  for arg in args do
    let n ← natural arg
    status := ((← memory).children.find? (·.process == n)).elim 127 Child.status
  return status

end ScriptLang.Shell
