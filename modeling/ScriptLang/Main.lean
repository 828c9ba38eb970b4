import Std.Time.DateTime.Timestamp
import ScriptLang.CommandLine
import ScriptLang.Shell.Run

/-!
# The program

The command line on a real host: requests become input and output.
-/

namespace ScriptLang.Program

/-- The error that a failed input or output comes to. -/
def ioError (e : IO.Error) : IoError :=
  match e with
  | .noFileOrDirectory .. => .notFound
  | .inappropriateType _ 20 _ => .notDirectory
  | .inappropriateType .. => .isDirectory
  | .permissionDenied .. => .accessDenied
  | .alreadyExists .. => .alreadyExists
  | .unsatisfiedConstraints .. => .notEmpty
  | .resourceVanished .. => .brokenPipe
  | e => .other (toString e)

/-- Does something that can fail. -/
def attempt {α : Type} (act : IO α) : IO (Except IoError α) :=
  act.toBaseIO >>= fun
    | .ok a => pure (.ok a)
    | .error e => pure (.error (ioError e))

/-- Reads bytes up to a line break or the end of a stream. -/
partial def readBytes (stream : IO.FS.Stream) (line : ByteArray) : IO ByteArray := do
  let chunk ← stream.read 1
  let line := line ++ chunk
  if chunk.isEmpty || chunk.data.back? == some 10 then return line else readBytes stream line

/-- Writes the content of a file. -/
def writeBytes (path : String) (content : List UInt8) (append : Bool) : IO Unit := do
  let handle ← IO.FS.Handle.mk path (if append then .append else .write)
  handle.write ⟨content.toArray⟩
  handle.flush

/-- Whether there is a file that can be read. -/
def isReadable (path : String) : IO Bool := do
  let probe : IO ByteArray := do (← IO.FS.Handle.mk path .read).read 1
  match ← probe.toBaseIO with
  | .ok _ => return true
  | .error _ => return false

/-- The time in seconds since the beginning of 1970. -/
def secondsNow : IO Float := do
  let now ← Std.Time.Timestamp.now
  return Float.ofInt now.toNanosecondsSinceUnixEpoch.val / 1000000000

/-- Chooses an integer between two others. -/
def choose (least greatest : Int) (le : least ≤ greatest) :
    IO { n : Int // least ≤ n ∧ n ≤ greatest } := do
  let n ← IO.rand 0 (greatest - least).toNat
  let offset := min n (greatest - least).toNat
  return ⟨least + offset, by omega⟩

/-- Does something at a path that can fail; no path holds the character NUL. -/
def attemptAt {α : Type} (path : String) (act : IO α) : IO (Except IoError α) :=
  if path.contains '\x00' then pure (.error .nulInPath) else attempt act

/-! ### Answers to shells -/

/-- What is at a path, as far as reading it tells. -/
def inspect (path : String) : IO FileInfo := do
  let isProgram (content : ByteArray) : Bool :=
    content.data.toList.take 2 == [35, 33] || content.data.toList.take 2 == [127, 69]
  try
    let content ← IO.FS.readBinFile path
    let mode := if isProgram content then 0o755 else 0o644
    return ⟨.file, (hash path).toNat, content.size, mode, 1, 0⟩
  catch e =>
    match ioError e with
    | .isDirectory => return ⟨.directory, (hash path).toNat, 4096, 0o755, 2, 0⟩
    | _ => throw e

/-- Makes a change to the files. -/
def makeChange : FileChange → IO Unit
  | .makeDirectory path _ => IO.FS.createDir path
  | .remove path => IO.FS.removeFile path
  | .removeDirectory path => IO.FS.removeDir path
  | .rename source target => IO.FS.rename source target
  | .setMode .. | .setTime .. => pure ()
  | .addName .. | .makeLink .. => throw (IO.userError "Function not implemented")

/-- The names of the variables that shells are given. -/
def variableNames : List String :=
  ["HOME", "PATH", "PWD", "USER", "LANG", "TERM"]

/-- Answers a system call of a shell. -/
def serve : (c : Shell.Call) → IO c.Answer
  | .readFile path => attemptAt path do return (← IO.FS.readBinFile path).data.toList
  | .writeFile path content append => attemptAt path (writeBytes path content append)
  | .inspect path _ => attemptAt path (inspect path)
  | .list _ | .readLink _ => return .error (.other "Function not implemented")
  | .resolve path => attemptAt path do return (← IO.FS.realPath path).toString
  | .change c => attempt (makeChange c)
  | .workingDirectory => do return (← IO.currentDir).toString
  | .environment =>
    variableNames.filterMapM fun name => do return (← IO.getEnv name).map fun v => (name, v)
  | .clock => secondsNow
  | .sleep seconds => IO.sleep (seconds * 1000).toUInt32

/-- Carries a process on to its end. -/
def carryOutProcess {α : Type} : Shell.Process α → IO α
  | .done result => return result
  | .ask call next => do carryOutProcess (next (← serve call))

/-- Answers a request. -/
def answer : (r : Request) → IO r.Answer
  | .write text => attempt do (← IO.getStdout).putStr text
  | .flush => attempt do (← IO.getStdout).flush
  | .readLine => attempt do return (← readBytes (← IO.getStdin) .empty).data.toList
  | .report line => IO.eprintln line
  | .readFile path => attemptAt path do return (← IO.FS.readBinFile path).data.toList
  | .writeFile path content append => attemptAt path (writeBytes path content append)
  | .isFile path => if path.contains '\x00' then return false else isReadable path
  | .clock => secondsNow
  | .choose least greatest le => choose least greatest le
  | .sleep seconds => IO.sleep (seconds * 1000).toUInt32
  | .shell command => carryOutProcess (Shell.shell command)

/-- Carries a dialogue on to its end. -/
def carryOut {α : Type} : Dialogue α → IO α
  | .done result => return result
  | .ask request next => do carryOut (next (← answer request))

end ScriptLang.Program

/-- Runs the command line. -/
def main (args : List String) : IO UInt32 := do
  return (← ScriptLang.Program.carryOut (ScriptLang.CommandLine.main args)).toUInt32
