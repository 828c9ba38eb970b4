import ScriptLang.Shell.Lookup
import ScriptLang.Shell.Own.Variables

/-!
# Names of commands

`alias` and `unalias` give names to texts, `type` says what a name stands for, and `hash` lists the
programs that have been used.

## Main definitions

* `runAlias`, `runUnalias`, `runType`, `runHash` — the commands of these names
-/

namespace ScriptLang.Shell

/-- The definition of an alias. -/
def aliasLine (name value : String) : String :=
  name ++ "=" ++ quoted value ++ "\n"

/-- `alias`: gives names to texts, or shows what names stand for. -/
def runAlias (args : List String) : Action Nat := do
  if args = [] then
    return ← say (String.join ((← memory).aliases.map fun (name, value) => aliasLine name value))
  let mut status := 0
  for arg in args do
    match cutAssignment arg with
    | (name, some value) =>
      if name = "" then
        status := 1
      else remember fun m =>
        { m with aliases := (name, value) :: m.aliases.filter (·.1 != name) }
    | (name, none) =>
      match (← memory).aliases.lookup name with
      | some value =>
        let _ ← say (aliasLine name value)
      | none =>
        warn ("alias: " ++ name ++ " not found\n")
        status := 1
  return status

/-- `unalias`: takes names away from texts. -/
def runUnalias (args : List String) : Action Nat := do
  let (found, names) ← options "a" args
  if given found 'a' then
    remember fun m => { m with aliases := [] }
    return 0
  let mut status := 0
  for name in names do
    if ((← memory).aliases.lookup name).isSome then
      remember fun m => { m with aliases := m.aliases.filter (·.1 != name) }
    else
      warn ("unalias: " ++ name ++ " not found\n")
      status := 1
  return status

/-- `type`: says what names stand for. -/
def runType (args : List String) : Action Nat := do
  let mut status := 0
  for name in args do
    status := max status (← describe name true)
  return status

/-- `hash`: remembers programs, or lists those that are remembered. -/
def runHash (args : List String) : Action Nat := do
  let (found, names) ← options "rv" args
  if given found 'r' then
    remember fun m => { m with used := [] }
    return 0
  if names = [] then return ← say (unlines (← memory).used)
  let mut status := 0
  for name in names do
    match ← lookUp name with
    | .program path =>
      if !name.contains '/' then
        remember fun m => { m with used := path :: m.used.filter (· != path) }
    | .nothing _ =>
      complaint (name ++ ": not found")
      status := 1
    | _ => pure ()
  return status

end ScriptLang.Shell
