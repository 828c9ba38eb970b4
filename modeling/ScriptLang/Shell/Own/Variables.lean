import ScriptLang.Shell.Lookup
import ScriptLang.Shell.Own.Options

/-!
# Variables and options of the shell

The commands that mark, remove and list variables, and those that change options and arguments.

## Main definitions

* `runMark` — `export` and `readonly`
* `runLocal`, `runUnset`, `runSet`, `runShift` — the commands of these names
-/

namespace ScriptLang.Shell

/-- A line for each variable: words in front of it, and its value if it has one. -/
def listing (start : String) (vs : List (String × Variable)) : String :=
  let lines := vs.map fun (name, v) =>
    start ++ name ++ (match v.value with
      | some value => "=" ++ quoted value
      | none => "")
  unlines (sorted lines)

/-- An argument cut at its first equals sign. -/
def cutAssignment (arg : String) : String × Option String :=
  let name := arg.toList.takeWhile (· != '=')
  match arg.toList.drop name.length with
  | _ :: value => (String.ofList name, some (String.ofList value))
  | [] => (arg, none)

/-- Complains if a string is not a name. -/
def checkName (name : String) : Action Unit := do
  if !isName name then fail (name ++ ": bad variable name")

/-- `export` and `readonly`: marks variables, which may get values, or lists those with the mark. -/
def runMark (word : String) (hasMark : Variable → Bool) (mark : Variable → Variable)
    (args : List String) : Action Nat := do
  let (found, names) ← options "p" args
  if given found 'p' ∨ names = [] then
    return ← say (listing (word ++ " ") ((← memory).settings.filter fun e => hasMark e.2))
  for arg in names do
    let (name, value) := cutAssignment arg
    checkName name
    if let some value := value then assign name value
    remember fun m => m.put name (mark ((m.find? name).getD { value := none }))
  return 0

/-- `local`: covers variables of the surroundings, which keep their values at first. -/
def runLocal (args : List String) : Action Nat := do
  if (← memory).covered.isEmpty then fail "not in a function"
  for arg in args do
    if arg = "-" then
      remember fun m => { m with
        covered := match m.covered with
          | frame :: outer =>
            (("-", some { value := some (String.ofList m.options) }) :: frame) :: outer
          | [] => [] }
    else
      let (name, value) := cutAssignment arg
      checkName name
      cover name
      if let some value := value then assign name value
  return 0

/-- `unset`: forgets variables or functions. -/
def runUnset (args : List String) : Action Nat := do
  let (found, names) ← options "vf" args
  let functions := (found.getLast?.map Prod.fst) == some 'f'
  for name in names do
    if functions then
      remember fun m => { m with functions := m.functions.filter (·.1 != name) }
    else
      checkName name
      match (← memory).find? name with
      | some v =>
        if v.readOnly then fail (name ++ ": is read only")
        remember (·.drop name)
      | none => pure ()
  return 0

/-- The options with their names; those without a letter cannot be set by one. -/
def optionNames : List (String × Char) :=
  [("errexit", 'e'), ("noglob", 'f'), ("ignoreeof", 'I'), ("interactive", 'i'), ("monitor", 'm'),
    ("noexec", 'n'), ("stdin", 's'), ("xtrace", 'x'), ("verbose", 'v'), ("vi", 'V'),
    ("emacs", 'E'), ("noclobber", 'C'), ("allexport", 'a'), ("notify", 'b'), ("nounset", 'u'),
    ("privileged", 'p'), ("nolog", '\x01'), ("debug", '\x02')]

/-- Sets or resets an option. -/
def setOption (c : Char) (on : Bool) : Action Unit := do
  if !(optionNames.any fun o => o.2 == c) then fail ("Illegal option -" ++ c.toString)
  remember fun m =>
    let others := m.options.filter (· != c)
    let options := if on then c :: others else others
    { m with options := (optionNames.map Prod.snd).filter options.contains }

/-- The settings of all options, as a table or as commands. -/
def optionTable (m : Memory) (asCommands : Bool) : String :=
  let lines := optionNames.map fun (name, c) =>
    if asCommands then "set " ++ (if m.has c then "-o " else "+o ") ++ name
    else paddedRight 16 name ++ (if m.has c then "on" else "off")
  unlines (if asCommands then lines else "Current option settings" :: lines)

/-- Reads the letters of an argument of `set`; true if a name is to follow. -/
def setLetters (on : Bool) : List Char → Action Bool
  | [] => return false
  | 'o' :: later => do
    let _ ← setLetters on later
    return true
  | c :: later => do
    setOption c on
    setLetters on later

/-- Reads the options of `set`; none if there are no arguments behind them that become the
arguments of the shell. -/
def setOptions : Nat → List String → Action (Option (List String))
  | 0, _ => return none
  | n + 1, args => do
    match args with
    | [] => return none
    | "--" :: rest => return some rest
    | "-" :: rest =>
      setOption 'x' false
      setOption 'v' false
      return if rest = [] then none else some rest
    | arg :: rest =>
      match arg.toList with
      | sign :: c :: letters =>
        if sign = '-' ∨ sign = '+' then
          if ← setLetters (sign == '-') (c :: letters) then
            match rest with
            | [] =>
              let _ ← say (optionTable (← memory) (sign == '+'))
              return none
            | name :: rest =>
              match optionNames.lookup name with
              | some c => setOption c (sign == '-')
              | none => fail ("Illegal option " ++ sign.toString ++ "o " ++ name)
              setOptions n rest
          else setOptions n rest
        else return some args
      | _ => return some args

/-- `set`: lists variables, or changes options and the arguments. -/
def runSet (args : List String) : Action Nat := do
  if args = [] then
    return ← say (listing "" ((← memory).settings.filter fun e => e.2.value.isSome))
  match ← setOptions (args.length + 1) args with
  | some arguments =>
    remember fun m => { m with arguments, optionOffset := none }
    return 0
  | none => return 0

/-- `shift`: drops the first arguments. -/
def runShift (args : List String) : Action Nat := do
  let n ← match args with
    | [] => pure 1
    | arg :: _ => natural arg
  if (← memory).arguments.length < n then fail "can't shift that many"
  remember fun m => { m with arguments := m.arguments.drop n }
  return 0

end ScriptLang.Shell
