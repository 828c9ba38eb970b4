import ScriptLang.Session

/-!
# The command line

The program runs a script, evaluates an expression, or prompts for one line after another.  What it
does is a dialogue that ends with an exit code.

## Main definitions

* `Invocation.read` — what the arguments ask for
* `CommandLine.main` — the program
-/

namespace ScriptLang

/-! ### Arguments -/

/-- What the arguments say. -/
structure Options where
  script : Option String := none
  expression : Option String := none
  listings : Listings := {}

/-- What the arguments ask for. -/
inductive Invocation where
  | start (options : Options)
  | version
  | help
  /-- The arguments make no sense. -/
  | misuse

namespace Options

/-- The options with a script to run; none if there is one already. -/
def withScript? (o : Options) (path : String) : Option Options :=
  if o.script.isSome ∨ path = "" then none else some { o with script := some path }

/-- The options with an expression to evaluate; none if there is one already. -/
def withExpression? (o : Options) (text : String) : Option Options :=
  if o.expression.isSome then none else some { o with expression := some text }

/-- The options with the listing of the tokens; none if it was asked for already. -/
def withTokens? (o : Options) : Option Options :=
  if o.listings.tokens then none else some { o with listings := { o.listings with tokens := true } }

/-- The options with the listing of the tree; none if it was asked for already. -/
def withTree? (o : Options) : Option Options :=
  if o.listings.tree then none else some { o with listings := { o.listings with tree := true } }

/-- A script and an expression exclude each other. -/
def finish (o : Options) : Invocation :=
  if o.script.isSome ∧ o.expression.isSome then .misuse else .start o

end Options

namespace Invocation

/-- Goes on with options that make sense. -/
def proceed (o : Option Options) (next : Options → Invocation) : Invocation :=
  match o with
  | none => misuse
  | some o => next o

/-- Whether an argument can be the value of an option that stands before it. -/
def isValue (arg : String) : Bool :=
  !arg.startsWith "-" || arg == "-"

/-- Reads arguments behind the mark that ends the options. -/
def readScripts (o : Options) : List String → Invocation
  | [] => o.finish
  | path :: later => proceed (o.withScript? path) fun o => readScripts o later

/-- Reads arguments one after the other.  The first one that makes no sense or asks for the version
or for help decides. -/
def readFrom (o : Options) : List String → Invocation
  | [] => o.finish
  | "--" :: later => readScripts o later
  | "--version" :: _ => version
  | "--help" :: _ => help
  | "--tokens" :: later => proceed o.withTokens? fun o => readFrom o later
  | "--ast" :: later => proceed o.withTree? fun o => readFrom o later
  | arg :: later =>
    if arg = "-e" ∨ arg = "--eval" then
      match later with
      | [] => misuse
      | text :: later =>
        if isValue text then proceed (o.withExpression? text) fun o => readFrom o later else misuse
    else
      match arg.toList with
      | '-' :: '-' :: 'e' :: 'v' :: 'a' :: 'l' :: '=' :: text =>
        proceed (o.withExpression? (String.ofList text)) fun o => readFrom o later
      | '-' :: 'e' :: '=' :: text | '-' :: 'e' :: text =>
        proceed (o.withExpression? (String.ofList text)) fun o => readFrom o later
      | '-' :: 'V' :: _ => version
      | '-' :: 'h' :: _ => help
      | _ =>
        if isValue arg then proceed (o.withScript? arg) fun o => readFrom o later else misuse

/-- What the arguments ask for. -/
def read (args : List String) : Invocation :=
  readFrom {} args

end Invocation

/-! ### The program -/

namespace CommandLine

/-- The codes with which the program ends. -/
def exitOk : Nat := 0

/-- The input or the output failed. -/
def exitIo : Nat := 1

/-- The arguments make no sense. -/
def exitMisuse : Nat := 2

/-- The script is faulty. -/
def exitSyntax : Nat := 65

/-- The script cannot be read. -/
def exitNoInput : Nat := 66

/-- The script failed while it ran. -/
def exitRuntime : Nat := 70

/-- The code for an error. -/
def exitCode : RunError → Nat
  | .syntaxErrors _ => exitSyntax
  | .runtime _ | .outOfFuel => exitRuntime
  | .output _ => exitIo

/-- What is written before each line that is asked for. -/
def promptText : String := "〉 "

/-- Shows lines to the user. -/
def reportLines : List String → Dialogue Unit
  | [] => pure ()
  | line :: later => do
    Dialogue.request (.report line)
    reportLines later

/-- Shows an error and ends with its code. -/
def fail (e : RunError) : Dialogue Nat := do
  reportLines e.report
  return exitCode e

/-- Runs the script in a file. -/
def runFile (fuel : Nat) (listings : Listings) (path : String) : Dialogue Nat := do
  let source : Except IoError String ← match ← Dialogue.request (.readFile path) with
    | .error why => pure (.error why)
    | .ok bytes =>
      match Text.decodeStrict? bytes with
      | some source => pure (.ok source)
      | none => pure (.error .notText)
  match source with
  | .error why =>
    Dialogue.request (.report ("Could not read '" ++ path ++ "': " ++ why.message))
    return exitNoInput
  | .ok source =>
    match ← (Session.run fuel listings source).run.run Session.start with
    | (.ok _, _) => return exitOk
    | (.error e, _) => fail e

/-- Evaluates an expression and writes its value. -/
def runExpression (fuel : Nat) (text : String) : Dialogue Nat := do
  match ← (Session.evalExpression fuel text).run.run Session.start with
  | (.error e, _) => fail e
  | (.ok value, _) =>
    match ← Dialogue.request (.write (value.text ++ "\n")) with
    | .ok _ => return exitOk
    | .error _ => return exitIo

/-- Writes the prompt and passes it on. -/
def writePrompt : Dialogue (Except IoError Unit) := do
  match ← Dialogue.request (.write promptText) with
  | .error why => return .error why
  | .ok _ => Dialogue.request .flush

/-- Runs one line after another in one session, until there is none, or a blank one, or `exit`.  An
error ends nothing but its line.  At most `lines` lines are asked for. -/
def runPrompt (fuel : Nat) (listings : Listings) : Nat → Session → Dialogue Nat
  | 0, _ => return exitOk
  | lines + 1, session => do
    match ← writePrompt with
    | .error _ => return exitIo
    | .ok _ =>
      match ← readLine with
      | .error why =>
        Dialogue.request (.report ("Could not read input: " ++ why.message))
        return exitIo
      | .ok none => return exitOk
      | .ok (some line) =>
        let line := Text.trim line
        if line = "" ∨ line = "exit" then return exitOk
        let (result, session) ← (Session.run fuel listings line).run.run session
        match result with
        | .ok _ => runPrompt fuel listings lines session
        -- The session keeps what the line did before it failed.
        | .error e =>
          reportLines e.report
          runPrompt fuel listings lines session

/-- The name and the version of the program. -/
def versionText : String := "suiron 0.1.0\n"

/-- How the program is used. -/
def helpText : String :=
  "Usage: suiron [OPTIONS] [SCRIPT]\n\n" ++
  "Arguments:\n  [SCRIPT]  Script to run\n\n" ++
  "Options:\n" ++
  "      --tokens       Print the token stream before running\n" ++
  "      --ast          Print every parsed statement before running\n" ++
  "  -e, --eval <EXPR>  Evaluate a single expression and print its value\n" ++
  "  -h, --help         Print help\n" ++
  "  -V, --version      Print version\n"

/-- Writes a text and ends. -/
def say (text : String) : Dialogue Nat := do
  let _ ← Dialogue.request (.write text)
  return exitOk

/-- More fuel than any run that ends can use up in practice. -/
def ample : Nat := Nat.pow 2 62

/-- The program: does what its arguments ask for, and ends with an exit code. -/
def main (args : List String) : Dialogue Nat :=
  match Invocation.read args with
  | .version => say versionText
  | .help => say helpText
  | .misuse => do
    Dialogue.request (.report helpText)
    return exitMisuse
  | .start options =>
    match options.expression, options.script with
    | some text, _ => runExpression ample text
    | none, some path => runFile ample options.listings path
    | none, none => runPrompt ample options.listings ample Session.start

end CommandLine

end ScriptLang
