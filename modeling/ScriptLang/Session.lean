import ScriptLang.Eval
import ScriptLang.Scan
import ScriptLang.Tree.ReadStmt
import ScriptLang.Tree.Render

/-!
# Sessions

A session runs one unit of source text after another.  The names that a unit declares outside of
blocks and functions are there for the next one.

## Main definitions

* `Session` — the open frames, and how many units there have been
* `RunError` — why a unit did not run to its end
* `Session.run` — runs a script
* `Session.evalExpression` — evaluates a single expression
-/

namespace ScriptLang

/-- Why a unit of source text did not run to its end. -/
inductive RunError where
  /-- Nothing was run, because the text is faulty. -/
  | syntaxErrors (diagnostics : List Diagnostic)
  | runtime (e : RuntimeError)
  /-- A listing could not be written, or the output not be passed on. -/
  | output (why : IoError)
  | outOfFuel

namespace RunError

/-- The wording of an error in one line. -/
def message : RunError → String
  | syntaxErrors ds => toString ds.length ++ " syntax error(s)"
  | runtime e => e.message
  | output why => "could not write output: " ++ why.message
  | outOfFuel => "out of fuel"

/-- The lines shown to the user. -/
def report : RunError → List String
  | syntaxErrors ds => ds.map Diagnostic.render
  | runtime e => [e.report]
  | e => [e.message]

/-- The error that a stopped run comes to. -/
def ofStop : Stop → RunError
  | .error e => runtime e
  | .outOfFuel => outOfFuel

end RunError

/-- What lives on between units: the open frames, and how many units there have been. -/
structure Session where
  scopes : Scopes
  units : Nat := 0

/-- Listings that are written before a script runs. -/
structure Listings where
  tokens : Bool := false
  tree : Bool := false

/-- A step of a session. -/
abbrev SessionM := ExceptT RunError (StateT Session Dialogue)

namespace Session

/-- A new session, in which only the built-in functions have names. -/
def start : Session where
  scopes := .ofBindings (Builtin.all.map fun b => (b.name, .callable (.builtin b)))

/-- The number of the next unit. -/
def nextUnit : SessionM Nat :=
  ExceptT.mk fun s => pure (.ok s.units, { s with units := s.units + 1 })

/-- Runs an action on the open frames. -/
def perform {α : Type} (action : Action α) : SessionM α :=
  ExceptT.mk fun s => do
    let (result, scopes) ← action.run.run s.scopes
    match result with
    | .ok a => return (.ok a, { s with scopes })
    | .error stop => return (.error (.ofStop stop), { s with scopes })

/-- Asks the host for something that it can fail to do. -/
def request {α : Type} (d : Dialogue (Except IoError α)) : SessionM α :=
  ExceptT.mk fun s => do
    match ← d with
    | .ok a => return (.ok a, s)
    | .error why => return (.error (.output why), s)

/-- Writes lines. -/
def writeLines : List String → SessionM Unit
  | [] => pure ()
  | line :: later => do
    request (Dialogue.request (.write (line ++ "\n")))
    writeLines later

/-- Runs the statements of a new unit.  A statement outside of functions that returns ends the
unit. -/
def runStmts (fuel : Nat) (stmts : List Stmt) : SessionM Unit := do
  let unit ← nextUnit
  let _ ← perform (execAll fuel unit stmts)

/-- Runs a script.  A fault anywhere in its text keeps all of it from running.  The listing of the
tokens comes before that is known, the listing of the tree after. -/
def run (fuel : Nat) (listings : Listings) (source : String) : SessionM Unit := do
  let scan := scan source
  -- Tokens are listed even if the text turns out to be faulty.
  if listings.tokens then writeLines (scan.tokens.map Token.describe)
  let script := Script.ofTokens scan.tokens
  let diagnostics := scan.diagnostics ++ script.diagnostics
  if diagnostics ≠ [] then throw (.syntaxErrors diagnostics)
  if listings.tree then writeLines (script.stmts.map Stmt.render)
  runStmts fuel script.stmts
  -- Only a run without an error passes its output on.
  request (Dialogue.request .flush)

/-- Evaluates a text that is a single expression. -/
def evalExpression (fuel : Nat) (source : String) : SessionM Value := do
  let scan := scan source
  let (expr, diagnostics) := Expr.ofTokens scan.tokens
  match expr, scan.diagnostics ++ diagnostics with
  | some expr, [] =>
    let unit ← nextUnit
    perform (eval fuel unit expr)
  | _, diagnostics => throw (.syntaxErrors diagnostics)

/-- Calls a function without a look at the number of its arguments. -/
def callFunction (fuel : Nat) (f : Callable) (args : List Value) (paren : Token) : SessionM Value :=
  perform (call fuel f args paren)

/-- The value of a name outside of all blocks and functions. -/
def get (s : Session) (ident : Token) : Except RuntimeError Value :=
  s.scopes.get ident s.scopes.oldest

/-- Whether a name is bound outside of all blocks and functions. -/
def contains (s : Session) (name : String) : Bool :=
  (s.scopes.bindings s.scopes.oldest).binds name

/-- Binds a name outside of all blocks and functions. -/
def insert (s : Session) (name : String) (value : Value) : Session :=
  { s with scopes := s.scopes.insert name value s.scopes.oldest }

end Session

end ScriptLang
