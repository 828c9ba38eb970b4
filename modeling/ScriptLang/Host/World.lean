import ScriptLang.Host.Root
import ScriptLang.Shell.Run

/-!
# A host in memory

A host whose whole state is a value: what has been written, what is left to read, the files, and
the time.  It can be given an output that takes only so many bytes.

## Main definitions

* `World` — the state
* `World.serve` — the answer to a system call of a shell, and the state after it
* `World.answer` — the answer to a request, and the state after it
* `Dialogue.run` — carries a dialogue on to its end
-/

namespace ScriptLang

/-- The state of a host in memory. -/
structure World where
  /-- The bytes written to the output. -/
  written : Array UInt8 := #[]
  /-- How many more bytes the output takes; any number if there is no bound. -/
  capacity : Option Nat := none
  /-- Whether passing on the output fails. -/
  flushFails : Bool := false
  /-- What was reported to the user beside the output. -/
  reported : String := ""
  /-- The bytes of the input that have not been read. -/
  unread : List UInt8 := []
  files : Files := .fresh
  /-- The time in seconds since the beginning of 1970. -/
  now : Float := 1767225600.125
  /-- How many choices have been made. -/
  choices : Nat := 0

namespace World

/-- Writes bytes.  An output that does not take all of them takes the first ones and fails. -/
def write (w : World) (bytes : List UInt8) : Except IoError Unit × World :=
  match w.capacity with
  | none => (.ok (), { w with written := w.written ++ bytes })
  | some n =>
    if bytes.length ≤ n then
      (.ok (), { w with written := w.written ++ bytes, capacity := some (n - bytes.length) })
    -- What fits is written before the failure shows.
    else (.error .brokenPipe, { w with written := w.written ++ bytes.take n, capacity := some 0 })

/-- The first line of some bytes, with its line break, and the bytes behind it. -/
def splitLine : List UInt8 → List UInt8 × List UInt8
  | [] => ([], [])
  | b :: rest =>
    if b = 10 then ([b], rest)
    else
      let (line, after) := splitLine rest
      (b :: line, after)

/-- An integer between two others.  The choices go through the range in turn. -/
def chosen (w : World) (least greatest : Int) (le : least ≤ greatest) :
    { n : Int // least ≤ n ∧ n ≤ greatest } :=
  ⟨least + (w.choices : Int) % (greatest - least + 1), by
    have := Int.emod_nonneg (w.choices : Int) (b := greatest - least + 1) (by omega)
    have := Int.emod_lt_of_pos (w.choices : Int) (b := greatest - least + 1) (by omega)
    omega⟩

/-- How much time passes with each look at the clock and with each change, in seconds. -/
def tick : Float := 1 / 65536

/-- The world after a change to its files, which may fail. -/
def withFiles (w : World) : Except IoError Files → Except IoError Unit × World
  | .ok files => (.ok (), { w with files, now := w.now + tick })
  | .error e => (.error e, w)

/-- The names and values that every process is given. -/
def environment (w : World) : List (String × String) :=
  [("HOME", "/root"),
    ("PATH", "/usr/local/sbin:/usr/local/bin:/usr/sbin:/usr/bin:/sbin:/bin"),
    ("PWD", w.files.workingPath)]

/-- The answer to a system call of a shell, and the state after it. -/
def serve (w : World) : (c : Shell.Call) → c.Answer × World
  | .readFile path => (w.files.read path, w)
  | .writeFile path content append => w.withFiles (w.files.write path content append w.now)
  | .inspect path last => (w.files.inspect path last, w)
  | .list path => (w.files.list path, w)
  | .readLink path => (w.files.readLink path, w)
  | .resolve path => (w.files.resolve path, w)
  | .change c => w.withFiles (w.files.change w.now c)
  | .workingDirectory => (w.files.workingPath, w)
  | .environment => (w.environment, w)
  | .clock => (w.now, { w with now := w.now + tick })
  | .sleep seconds => ((), { w with now := w.now + seconds })

/-- The answer to a request, and the state after it. -/
def answer (w : World) : (r : Request) → r.Answer × World
  | .write text => w.write (Text.encode text)
  | .flush => (if w.flushFails then .error .brokenPipe else .ok (), w)
  | .readLine => (.ok (splitLine w.unread).1, { w with unread := (splitLine w.unread).2 })
  | .report line => ((), { w with reported := w.reported ++ line ++ "\n" })
  | .readFile path => (w.files.read path, w)
  | .writeFile path content append => w.withFiles (w.files.write path content append w.now)
  | .isFile path => (w.files.isFile path, w)
  | .clock => (w.now, { w with now := w.now + tick })
  | .choose least greatest le => (w.chosen least greatest le, { w with choices := w.choices + 1 })
  | .sleep seconds => ((), { w with now := w.now + seconds })
  | .shell command => (Shell.shell command).run serve w

end World

namespace Dialogue

variable {α β : Type}

/-- The result of a dialogue with a host in memory, and the host's state at the end. -/
def run : Dialogue α → World → α × World
  | done result, w => (result, w)
  | ask request next, w =>
    let (answer, w') := w.answer request
    (next answer).run w'

@[simp] theorem run_done (result : α) (w : World) : (done result).run w = (result, w) := rfl

@[simp] theorem run_ask (r : Request) (next : r.Answer → Dialogue α) (w : World) :
    (ask r next).run w = (next (w.answer r).1).run (w.answer r).2 := rfl

@[simp] theorem run_bind (d : Dialogue α) (f : α → Dialogue β) (w : World) :
    (d >>= f).run w = (f (d.run w).1).run (d.run w).2 := by
  induction d generalizing w with
  | done => rfl
  | ask r next ih => simp [ih]

end Dialogue

end ScriptLang
