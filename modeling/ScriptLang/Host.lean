/-!
# Host and script

A script acts on the world around it by asking its host: to write, to read a line, to open a file.
A computation with such requests is a dialogue, which a host carries on by answering one request
after the other.  Nothing is said here about how a host finds its answers.

## Main definitions

* `IoError` — why a host could not do what it was asked
* `Request`, `Request.Answer` — what can be asked, and what is answered
* `Dialogue` — a computation that asks its host

## Main results

* `Dialogue` is a lawful monad
-/

namespace ScriptLang

/-- Why a host could not do what it was asked. -/
inductive IoError where
  | brokenPipe
  | notPermitted
  | notFound
  | noDevice
  | badDescriptor
  | accessDenied
  | alreadyExists
  | crossDevice
  | notDirectory
  | isDirectory
  | invalidArgument
  | noSpace
  | nameTooLong
  | notEmpty
  | tooManyLinks
  | nulInPath
  | nulInCommand
  | notText
  /-- Anything else, in the words of the host. -/
  | other (text : String)
  deriving DecidableEq, Repr

/-- What an error says, and the number that the system gives it, if it has one. -/
def IoError.parts : IoError → String × Option Nat
  | brokenPipe => ("broken pipe", none)
  | notPermitted => ("Operation not permitted", some 1)
  | notFound => ("No such file or directory", some 2)
  | noDevice => ("No such device or address", some 6)
  | badDescriptor => ("Bad file descriptor", some 9)
  | accessDenied => ("Permission denied", some 13)
  | alreadyExists => ("File exists", some 17)
  | crossDevice => ("Invalid cross-device link", some 18)
  | notDirectory => ("Not a directory", some 20)
  | isDirectory => ("Is a directory", some 21)
  | invalidArgument => ("Invalid argument", some 22)
  | noSpace => ("No space left on device", some 28)
  | nameTooLong => ("File name too long", some 36)
  | notEmpty => ("Directory not empty", some 39)
  | tooManyLinks => ("Too many levels of symbolic links", some 40)
  | nulInPath => ("file name contained an unexpected NUL byte", none)
  | nulInCommand => ("nul byte found in provided data", none)
  | notText => ("stream did not contain valid UTF-8", none)
  | other text => (text, none)

/-- What an error says. -/
def IoError.reason (e : IoError) : String :=
  e.parts.1

/-- The wording of an error, with its number. -/
def IoError.message (e : IoError) : String :=
  match e.parts with
  | (reason, none) => reason
  | (reason, some n) => reason ++ " (os error " ++ toString n ++ ")"

/-- What a command has written to its output and to its error output. -/
structure Written where
  out : List UInt8 := []
  err : List UInt8 := []

/-- What a script can ask of its host. -/
inductive Request where
  /-- To write a text to the output. -/
  | write (text : String)
  /-- To pass on what has been written. -/
  | flush
  /-- To read the next line of the input. -/
  | readLine
  /-- To write a line for the user beside the output. -/
  | report (line : String)
  | readFile (path : String)
  | writeFile (path : String) (content : List UInt8) (append : Bool)
  | isFile (path : String)
  /-- To tell the time, in seconds since the beginning of 1970. -/
  | clock
  /-- To choose an integer between two others, both included. -/
  | choose (least greatest : Int) (le : least ≤ greatest)
  /-- To let a number of seconds pass. -/
  | sleep (seconds : Float)
  /-- To have a shell carry out a command. -/
  | shell (command : String)

/-- What a host answers. -/
def Request.Answer : Request → Type
  | write _ | flush | writeFile .. => Except IoError Unit
  /- The bytes of the line with its line break; none at the end of the input. -/
  | readLine => Except IoError (List UInt8)
  | readFile _ => Except IoError (List UInt8)
  | isFile _ => Bool
  | report _ | sleep _ => Unit
  | clock => Float
  | choose least greatest _ => { n : Int // least ≤ n ∧ n ≤ greatest }
  | shell _ => Written

/-- A computation that asks its host. -/
inductive Dialogue (α : Type) where
  | done (result : α)
  | ask (request : Request) (next : request.Answer → Dialogue α)

namespace Dialogue

variable {α β γ : Type}

/-- One dialogue after another. -/
protected def bind : Dialogue α → (α → Dialogue β) → Dialogue β
  | done result, f => f result
  | ask request next, f => ask request fun answer => (next answer).bind f

/-- A request on its own. -/
def request (r : Request) : Dialogue r.Answer :=
  ask r done

instance : Monad Dialogue where
  pure := done
  bind := Dialogue.bind

@[simp] theorem pure_eq (result : α) : (pure result : Dialogue α) = done result := rfl

@[simp] theorem done_bind (result : α) (f : α → Dialogue β) : done result >>= f = f result := rfl

@[simp] theorem ask_bind (r : Request) (next : r.Answer → Dialogue α) (f : α → Dialogue β) :
    ask r next >>= f = ask r fun answer => next answer >>= f := rfl

theorem bind_done (d : Dialogue α) : d >>= done = d := by
  induction d with
  | done => rfl
  | ask r next ih => simp [ih]

protected theorem bind_assoc (d : Dialogue α) (f : α → Dialogue β) (g : β → Dialogue γ) :
    d >>= f >>= g = d >>= fun a => f a >>= g := by
  induction d with
  | done => rfl
  | ask r next ih => simp [ih]

instance : LawfulMonad Dialogue :=
  LawfulMonad.mk' _ bind_done (fun _ _ => rfl) Dialogue.bind_assoc

end Dialogue

end ScriptLang
