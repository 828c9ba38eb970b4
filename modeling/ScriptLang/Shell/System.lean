import ScriptLang.Host.Files

/-!
# System calls

What a shell and the programs that it starts ask of the system below them.  A process is a
computation with such calls; it says nothing of how they are answered, and it cannot ask for
anything else.

## Main definitions

* `Call`, `Call.Answer` — what can be asked, and what is answered
* `Process` — a computation that makes calls
-/

namespace ScriptLang.Shell

/-- What a process can ask of the system. -/
inductive Call where
  | readFile (path : String)
  | writeFile (path : String) (content : List UInt8) (append : Bool)
  /-- What is at a path; a link in the last place is followed only if `last` says so. -/
  | inspect (path : String) (last : Bool)
  | list (path : String)
  | readLink (path : String)
  /-- The one path to a node that leads over no links. -/
  | resolve (path : String)
  | change (c : FileChange)
  | workingDirectory
  /-- The names and values that every process is given. -/
  | environment
  /-- The time in seconds since the beginning of 1970. -/
  | clock
  | sleep (seconds : Float)

/-- What the system answers. -/
def Call.Answer : Call → Type
  | readFile _ => Except IoError (List UInt8)
  | writeFile .. | change _ => Except IoError Unit
  | inspect .. => Except IoError FileInfo
  | list _ => Except IoError (List String)
  | readLink _ | resolve _ => Except IoError String
  | workingDirectory => String
  | environment => List (String × String)
  | clock => Float
  | sleep _ => Unit

/-- A computation that makes calls. -/
inductive Process (α : Type) where
  | done (result : α)
  | ask (call : Call) (next : call.Answer → Process α)

namespace Process

variable {α β : Type}

/-- One process after another. -/
protected def bind : Process α → (α → Process β) → Process β
  | done result, f => f result
  | ask call next, f => ask call fun answer => (next answer).bind f

/-- A call on its own. -/
def call (c : Call) : Process c.Answer :=
  ask c done

instance : Monad Process where
  pure := done
  bind := Process.bind

/-- Carries a process on to its end with a system whose state is a value. -/
def run {σ : Type} (answer : σ → (c : Call) → c.Answer × σ) : Process α → σ → α × σ
  | done result, s => (result, s)
  | ask c next, s =>
    let (a, s') := answer s c
    (next a).run answer s'

end Process

end ScriptLang.Shell
