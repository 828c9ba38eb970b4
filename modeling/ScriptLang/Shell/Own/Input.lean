import ScriptLang.Shell.Own.Variables

/-!
# Reading input and arguments

`read` takes a line from the input and gives its fields to variables; `getopts` takes an option
from arguments.

## Main definitions

* `runRead`, `runGetopts` — the commands of these names
-/

namespace ScriptLang.Shell

/-- A character and whether it was protected by a backslash. -/
abbrev InputChar := Char × Bool

/-- Reads a line; false if the input has ended before a line break.  Unless `raw` says otherwise, a
backslash protects the next character, and joins lines before a line break. -/
def readInputLine (raw : Bool) : Nat → Action (List InputChar × Bool)
  | 0 => return ([], false)
  | n + 1 => do
    match ← readUntil 0 (fun c => c == '\n' || (!raw && c == '\\')) with
    | .error _ => return ([], false)
    | .ok cs =>
      let cs' : List InputChar := (cs.filter (· != '\x00')).map (·, false)
      match cs.getLast? with
      | some '\n' => return (cs'.dropLast, true)
      | some '\\' =>
        if raw then return (cs', false)
        match ← readUntil 0 fun _ => true with
        | .ok [c] =>
          let (later, ended) ← readInputLine raw n
          let here : List InputChar := if c = '\n' then [] else [(c, true)]
          return (cs'.dropLast ++ here ++ later, ended)
        | _ => return (cs'.dropLast, false)
      | _ => return (cs', false)

namespace InputField

/-- Whether a character separates fields. -/
def separates (separators : List Char) (g : InputChar) : Bool :=
  !g.2 && separators.contains g.1

/-- Whether a character separates fields and is a blank. -/
def isBlank (separators : List Char) (g : InputChar) : Bool :=
  separates separators g && (g.1 == ' ' || g.1 == '\t' || g.1 == '\n')

/-- What follows a field: blanks, one other separator, and blanks are skipped. -/
def afterField (separators : List Char) (gs : List InputChar) : List InputChar :=
  let gs := gs.dropWhile (isBlank separators)
  match gs with
  | g :: later =>
    if separates separators g then later.dropWhile (isBlank separators) else gs
  | [] => []

/-- The text of characters. -/
def text (gs : List InputChar) : String :=
  String.ofList (gs.map Prod.fst)

/-- The fields for so many variables; the last one gets all that is left. -/
def split (separators : List Char) : Nat → List InputChar → List String
  | 0, _ => []
  | 1, gs =>
    let field := gs.takeWhile (!separates separators ·)
    -- A separator behind the only field does not belong to it.
    if afterField separators (gs.drop field.length) = [] then [text field]
    else [text (gs.reverse.dropWhile (isBlank separators)).reverse]
  | n + 1, gs =>
    let field := gs.takeWhile (!separates separators ·)
    text field :: split separators n (afterField separators (gs.drop field.length))

end InputField

/-- `read`: gives the fields of a line to variables. -/
def runRead (args : List String) : Action Nat := do
  let (found, names) ← options "p:r" args
  if names = [] then fail "arg count"
  let length := match ← unread 0 with
    | .ok cs => cs.length
    | .error _ => 0
  let (line, ended) ← readInputLine (given found 'r') (length + 1)
  let separators := (← memory).separators.toList
  let line := line.dropWhile (InputField.isBlank separators)
  for (name, value) in names.zip (InputField.split separators names.length line) do
    checkName name
    assign name value
  return if ended then 0 else 1

/-- What `getopts` has found: the letter, what is left of its argument, and the arguments behind
it. -/
structure OptionStep where
  letter : Char
  inside : List Char
  rest : List String

/-- The next option in arguments, of which the first one has been read up to some place. -/
def optionStep? (inside : List Char) (args : List String) : Option OptionStep ⊕ List String :=
  match inside with
  | c :: later => .inl (some ⟨c, later, args⟩)
  | [] =>
    match args with
    | [] => .inr []
    | arg :: rest =>
      match arg.toList with
      | ['-', '-'] => .inr rest
      | '-' :: c :: later => .inl (some ⟨c, later, rest⟩)
      | _ => .inr args

/-- `getopts`: gives the next option to a variable. -/
def runGetopts (args : List String) : Action Nat := do
  match args with
  | known :: variableName :: args =>
    let m ← memory
    let all := if args = [] then m.arguments else args
    let index := max 1 ((natural? ((m.value? "OPTIND").getD "1")).getD 1)
    -- The argument before the index may have been read only in part.
    let inside := match m.optionOffset with
      | some offset => (all[index - 2]?.map fun arg => arg.toList.drop offset).getD []
      | none => []
    let silent := known.startsWith ":"
    let finish (letter : String) (inside : List Char) (rest : List String) (status : Nat) :
        Action Nat := do
      let next := all.length - rest.length + 1
      assign "OPTIND" (toString next)
      let length := (all[next - 2]?.getD "").length
      remember fun m => { m with
        optionOffset := if inside = [] then none else some (length - inside.length) }
      checkName variableName
      assign variableName letter
      return status
    match optionStep? inside (all.drop (index - 1)) with
    | .inr rest => finish "?" [] rest 1
    | .inl none => finish "?" [] [] 1
    | .inl (some step) =>
      let c := step.letter.toString
      let problem (reason silently : String) (inside : List Char) : Action Nat := do
        if silent then assign "OPTARG" c
        else
          warn (reason ++ "\n")
          remember (·.drop "OPTARG")
        finish (if silent then silently else "?") inside step.rest 0
      match known.toList.dropWhile (· != step.letter) with
      | [] => problem ("Illegal option -" ++ c) "?" step.inside
      | _ :: ':' :: _ =>
        if step.inside ≠ [] then
          assign "OPTARG" (String.ofList step.inside)
          finish c [] step.rest 0
        else
          match step.rest with
          | value :: rest =>
            assign "OPTARG" value
            finish c [] rest 0
          | [] => problem ("No arg for -" ++ c ++ " option") ":" []
      | _ =>
        assign "OPTARG" ""
        finish c step.inside step.rest 0
  | _ => fail "Usage: getopts optstring var [arg...]"

end ScriptLang.Shell
