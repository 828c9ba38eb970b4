import ScriptLang.Builtin.Run
import ScriptLang.Scope

/-!
# Evaluation

Running statements and evaluating expressions.  A run changes the open frames and asks the host; it
ends with a result, with a runtime error, or because its fuel is used up.  Fuel bounds how deep
evaluation nests and how often loops turn; a run that ends for another reason ends in the same way
with more fuel.

A block runs in a frame of its own, enclosed by the frame in which the block stands.  The body of a
function runs in a frame enclosed by the oldest one, wherever the function was declared or called.
Either frame is closed when its statements end, in whatever way.

## Main definitions

* `Action` — computations on the open frames that ask the host and can stop
* `Flow` — how a statement ends when it does not fail
* `exec`, `eval`, `call` — run a statement, evaluate an expression, call a function
-/

namespace ScriptLang

/-- Why a run stops. -/
inductive Stop where
  | error (e : RuntimeError)
  | outOfFuel

/-- How a statement ends when it does not fail. -/
inductive Flow where
  /-- The next statement is run. -/
  | normal
  /-- The function that is running returns a value. -/
  | returned (value : Value)

/-- A computation that changes the open frames, asks the host and can stop. -/
abbrev Action := ExceptT Stop (StateT Scopes Dialogue)

namespace Action

variable {α : Type}

/-- Stops with a fault at a token. -/
def fail (token : Token) (fault : RuntimeFault) : Action α :=
  throw (.error ⟨token, fault⟩)

/-- Asks the host. -/
def request (r : Request) : Action r.Answer :=
  ExceptT.mk fun s => do return (.ok (← Dialogue.request r), s)

/-- The value of a variable, as seen from the newest frame. -/
def read (ident : Token) : Action Value :=
  ExceptT.mk fun s =>
    match s.get ident s.newest with
    | .ok value => pure (.ok value, s)
    | .error e => pure (.error (.error e), s)

/-- Changes the open frames, or stops with an error.  The frames are handed over, not shared, so
that they are changed in place. -/
def change (f : Scopes → Except RuntimeError Unit × Scopes) : Action Unit :=
  ExceptT.mk fun s =>
    let (result, s') := f s
    pure (result.mapError .error, s')

/-- Changes a variable, as seen from the newest frame. -/
def assign (ident : Token) (value : Value) : Action Unit :=
  change fun s => s.assign ident value s.newest

/-- Creates a variable in the newest frame. -/
def define (ident : Token) (value : Value) : Action Unit :=
  change fun s => s.define ident value s.newest

/-- Runs in a new frame, which is closed afterwards in any case. -/
def within (enter : Scopes → Scopes) (body : Action α) : Action α :=
  ExceptT.mk fun s => do
    -- Results, returns and faults all come back as a value here, so none can skip the closing.
    let (result, s') ← body.run.run (enter s)
    return (result, s'.pop)

/-- Runs in a new frame enclosed by the newest one. -/
def inBlock (body : Action α) : Action α :=
  within (fun s => s.push s.newest) body

/-- Runs in a new frame enclosed by the oldest one. -/
def inCall (body : Action α) : Action α :=
  within (fun s => s.push s.oldest) body

end Action

/-! ### Operators -/

/-- The number that an operand of an addition stands for: itself, or what a string denotes. -/
def addend? : Value → Option Float
  | .number x => some x
  | .string s => Number.readTrimmed? s
  | _ => none

/-- The value of a binary operation. -/
def applyBinary (op : Token) (left right : Value) : Except RuntimeFault Value :=
  match op.kind with
  | .equalEqual => .ok (.bool (left == right))
  | .bangEqual => .ok (.bool (left != right))
  | .ampersand => .ok (.string (left.text ++ right.text))
  | .plus =>
    match addend? left, addend? right with
    | some x, some y => .ok (.number (x + y))
    | _, _ => .error .operandsNotAddable
  | kind =>
    match left, right with
    | .number x, .number y =>
      match kind with
      | .minus => .ok (.number (x - y))
      | .star => .ok (.number (x * y))
      | .slash => .ok (.number (x / y))
      | .greater => .ok (.bool (y < x))
      | .greaterEqual => .ok (.bool (y ≤ x))
      | .lesser => .ok (.bool (x < y))
      | .lesserEqual => .ok (.bool (x ≤ y))
      | _ => .error (.unknownOperator op.lexeme)
    | _, _ => .error .operandsNotNumbers

/-- The value of a prefix operation.  Every operator but the minus sign negates a truth value. -/
def applyUnary (op : Token) (operand : Value) : Except RuntimeFault Value :=
  match op.kind with
  | .minus =>
    match operand with
    | .number x => .ok (.number (-x))
    | _ => .error .operandNotNumber
  | _ => .ok (.bool (!operand.isTruthy))

/-- Whether the left operand of a logical operator is its value.  Every operator but `or` stops at a
value that does not count as true. -/
def decidedBy (op : Token) (left : Value) : Bool :=
  match op.kind with
  | .orWord => left.isTruthy
  | _ => !left.isTruthy

/-- A result, with its fault found at a token. -/
def Action.ofResult {α : Type} (token : Token) : Except RuntimeFault α → Action α
  | .ok a => pure a
  | .error fault => Action.fail token fault

/-- Calls a built-in function; its faults are found at the end of the call. -/
def callBuiltin (b : Builtin) (args : List Value) (paren : Token) : Action Value :=
  ExceptT.mk fun s => do
    match ← b.run args with
    | .ok value => return (.ok value, s)
    | .error fault => return (.error (.error ⟨paren, fault⟩), s)

/-- Creates the parameters of a function in the newest frame.  Arguments without a parameter are
dropped, and parameters without an argument are not created. -/
def bindParams : List Token → List Value → Action Unit
  | param :: params, arg :: args => do
    Action.define param arg
    bindParams params args
  | _, _ => pure ()

/-! ### Statements and expressions -/

mutual

/-- Runs a statement of the unit of source text with number `unit`. -/
def exec : Nat → Nat → Stmt → Action Flow
  | 0, _, _ => throw .outOfFuel
  | fuel + 1, unit, stmt =>
    match stmt with
    | .expression expr => do
      let _ ← eval fuel unit expr
      return .normal
    | .print keyword expr => do
      let value ← eval fuel unit expr
      match ← Action.request (.write (value.text ++ "\n")) with
      | .ok _ => return .normal
      | .error why => Action.fail keyword (.outputFailed why)
    | .var ident none => do
      Action.define ident .nil
      return .normal
    | .var ident (some init) => do
      let value ← eval fuel unit init
      Action.define ident value
      return .normal
    | .block body => Action.inBlock (execAll fuel unit body)
    | .branch condition yes no => do
      if (← eval fuel unit condition).isTruthy then exec fuel unit yes
      else
        match no with
        | some no => exec fuel unit no
        | none => return .normal
    | .loop condition body => do
      if (← eval fuel unit condition).isTruthy then
        match ← exec fuel unit body with
        | .returned value => return .returned value
        -- The next turn is the same statement with less fuel.
        | .normal => exec fuel unit (.loop condition body)
      else return .normal
    | .function ident params body => do
      Action.define ident (.callable (.user ⟨unit, ident, params, body⟩))
      return .normal
    | .ret _ none => return .returned .nil
    | .ret _ (some value) => return .returned (← eval fuel unit value)
termination_by structural fuel => fuel

/-- Runs statements in order, up to the first one that returns. -/
def execAll : Nat → Nat → List Stmt → Action Flow
  | 0, _, _ => throw .outOfFuel
  | _ + 1, _, [] => return .normal
  | fuel + 1, unit, stmt :: later => do
    match ← exec fuel unit stmt with
    | .returned value => return .returned value
    | .normal => execAll fuel unit later
termination_by structural fuel => fuel

/-- Evaluates an expression of the unit of source text with number `unit`. -/
def eval : Nat → Nat → Expr → Action Value
  | 0, _, _ => throw .outOfFuel
  | fuel + 1, unit, expr =>
    match expr with
    | .constant value => return .ofConstant value
    | .group inner => eval fuel unit inner
    | .name ident => Action.read ident
    | .assign ident value => do
      let value ← eval fuel unit value
      Action.assign ident value
      return value
    | .logical op left right => do
      let left ← eval fuel unit left
      if decidedBy op left then return left else eval fuel unit right
    | .unary op operand => do
      Action.ofResult op (applyUnary op (← eval fuel unit operand))
    | .binary op left right => do
      let left ← eval fuel unit left
      let right ← eval fuel unit right
      Action.ofResult op (applyBinary op left right)
    | .call callee paren args => do
      match ← eval fuel unit callee with
      | .callable f =>
        -- The arguments are evaluated before anyone asks whether there are enough of them.
        let args ← evalAll fuel unit args
        if args.length = f.arity then call fuel f args paren
        else Action.fail paren (.wrongArity f.arity args.length)
      | _ => Action.fail paren .notCallable
termination_by structural fuel => fuel

/-- Evaluates expressions in order. -/
def evalAll : Nat → Nat → List Expr → Action (List Value)
  | 0, _, _ => throw .outOfFuel
  | _ + 1, _, [] => return []
  | fuel + 1, unit, expr :: later => do
    let value ← eval fuel unit expr
    return value :: (← evalAll fuel unit later)
termination_by structural fuel => fuel

/-- Calls a function.  The token is where the faults of built-in functions are found. -/
def call : Nat → Callable → List Value → Token → Action Value
  | 0, _, _, _ => throw .outOfFuel
  | fuel + 1, f, args, paren =>
    match f with
    | .builtin b => callBuiltin b args paren
    -- The body belongs to the unit of its declaration, which may be an earlier one.
    | .user f => Action.inCall do
      bindParams f.decl.params args
      match ← execAll fuel f.unit f.decl.body with
      | .returned value => return value
      | .normal => return .nil
termination_by structural fuel => fuel

end

end ScriptLang
