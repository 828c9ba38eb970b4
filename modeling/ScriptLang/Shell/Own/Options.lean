import ScriptLang.Shell.Action

/-!
# Options of the shell's own commands

Options are single letters behind a minus sign, several of them maybe in one argument.  The first
argument that is not an option, or two minus signs, end them.

## Main definitions

* `options` — takes the options off the arguments
* `natural` — reads an argument that is a number
-/

namespace ScriptLang.Shell

/-- Takes letters off an argument; `:` behind a letter that is known says that an argument belongs
to it.  What is left of the arguments comes second. -/
def optionLetters (known : List Char) : List Char → List String →
    Action (List (Char × String) × List String)
  | [], rest => return ([], rest)
  | c :: later, rest => do
    match known.dropWhile (· != c) with
    | [] => fail ("Illegal option -" ++ c.toString)
    | _ :: ':' :: _ =>
      if later ≠ [] then return ([(c, String.ofList later)], rest)
      else
        match rest with
        | value :: rest => return ([(c, value)], rest)
        | [] => fail ("No arg for -" ++ c.toString ++ " option")
    | _ =>
      let (found, rest) ← optionLetters known later rest
      return ((c, "") :: found, rest)

/-- Takes the options off the arguments. -/
def optionsFuel (known : List Char) : Nat → List String →
    Action (List (Char × String) × List String)
  | 0, args => return ([], args)
  | n + 1, args => do
    match args with
    | "--" :: rest => return ([], rest)
    | arg :: rest =>
      match arg.toList with
      | '-' :: c :: letters =>
        let (found, rest) ← optionLetters known (c :: letters) rest
        let (more, rest) ← optionsFuel known n rest
        return (found ++ more, rest)
      | _ => return ([], args)
    | [] => return ([], [])

/-- Takes the options off the arguments. -/
def options (known : String) (args : List String) : Action (List (Char × String) × List String) :=
  optionsFuel known.toList (args.length + 1) args

/-- Whether an option has been given. -/
def given (found : List (Char × String)) (c : Char) : Bool :=
  found.any (·.1 == c)

/-- The natural number that an argument writes. -/
def natural (arg : String) : Action Nat := do
  match natural? arg with
  | some n => if n ≤ 2147483647 then return n else fail ("Illegal number: " ++ arg)
  | none => fail ("Illegal number: " ++ arg)

end ScriptLang.Shell
