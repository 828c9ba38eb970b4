import ScriptLang.Builtin.Arguments
import ScriptLang.Text.Grapheme
import ScriptLang.Text.Lowercase
import ScriptLang.Text.Replace
import ScriptLang.Text.Utf8

/-!
# Running built-in functions

What the built-in functions do.  Each one checks its arguments first and only then asks the host
for anything.

## Main definitions

* `readLine` — the next line of the input
* `Builtin.run` — the value of a call, or the fault that ends it
-/

namespace ScriptLang

/-- The text of a line of input without what ends it. -/
def trimLineEnd (s : String) : String :=
  String.ofList (s.toList.reverse.dropWhile fun c => c == '\n' || c == '\r').reverse

/-- Reads the next line of the input; none at its end.  A line that is no text has been read all the
same. -/
def readLine : Dialogue (Except IoError (Option String)) := do
  match ← Dialogue.request .readLine with
  | .error e => return .error e
  | .ok [] => return .ok none
  | .ok bytes =>
    match Text.decodeStrict? bytes with
    | some s => return .ok (some (trimLineEnd s))
    -- The host has let go of the bytes already, so the next line is the next one.
    | none => return .error .notText

namespace Builtin

/-- What a call comes to. -/
abbrev Outcome := Dialogue (Except RuntimeFault Value)

/-- Goes on with arguments that have been checked. -/
@[inline] def checked {α : Type} (args : Checked α) (body : α → Outcome) : Outcome :=
  match args with
  | .error fault => .done (.error fault)
  | .ok a => body a

/-- A call that asks nothing of the host. -/
def plain (result : Except RuntimeFault Value) : Outcome :=
  .done result

/-- The characters from cluster `start` on, `length` clusters long. -/
def substringOf (s : String) (start length : Int) : Except RuntimeFault String :=
  let clusters := Text.clusters s.toList
  let count : Int := clusters.length
  -- The length is compared with what is left, so no sum can leave the range of integers.
  if start < 0 ∨ count < start then .error .substringStartBounds
  else if length < 0 ∨ count - start < length then .error .substringLengthBounds
  else .ok (String.ofList ((clusters.drop start.toNat).take length.toNat).flatten)

/-- `substring(string, start, length)`: part of a string, counted in grapheme clusters. -/
def runSubstring (args : List Value) : Except RuntimeFault Value := do
  let s ← Arguments.string args 0 .substringText
  let start ← Arguments.integer args 1 .substringStart
  let length ← Arguments.integer args 2 .substringLength
  return .string (← substringOf s start length)

/-- `len(string)`: the number of grapheme clusters. -/
def runLen (args : List Value) : Except RuntimeFault Value :=
  match args.head? with
  | some (.string s) => .ok (.number (Number.ofCount (Text.clusters s.toList).length))
  | some v => .error (.lenArgument v.typeName)
  | none => .error .lenMissing

/-- `floor(number)`: the greatest whole number that is not greater. -/
def runFloor (args : List Value) : Except RuntimeFault Value :=
  match args.head? with
  | some (.number x) => .ok (.number x.floor)
  | some .nil | none => .error .floorMissing
  | some v => .error (.floorArgument v.typeName)

/-- `isInt(value)`: whether the value is a whole number. -/
def runIsInt (args : List Value) : Except RuntimeFault Value :=
  match args.head? with
  | some (.number x) => .ok (.bool (Number.isWhole x))
  | _ => .ok (.bool false)

/-- `toInt(string)`: the whole number that a string denotes. -/
def runToInt (args : List Value) : Except RuntimeFault Value :=
  match args.head? with
  | some (.string s) =>
    match Number.readTrimmed? s with
    | some x => if Number.isWhole x then .ok (.number x) else .error (.toIntFraction s)
    | none => .error (.toIntUnreadable s)
  | some .nil | none => .error .toIntMissing
  | some v => .error (.toIntArgument v.typeName)

/-- `toLower(string)`: the string in lower case. -/
def runToLower (args : List Value) : Except RuntimeFault Value := do
  let s ← Arguments.string args 0 .toLowerArgument
  return .string (Text.toLower s)

/-- `replace(string, old, new)`: the string with every `old` replaced. -/
def runReplace (args : List Value) : Except RuntimeFault Value := do
  let s ← Arguments.string args 0 .replaceInput
  let old ← Arguments.string args 1 .replaceFrom
  let new ← Arguments.string args 2 .replaceTo
  return .string (Text.replace s old new)

/-- The seconds of a pause, which have to be positive and to fit into 64 bits. -/
def pauseOf (args : List Value) : Checked Float :=
  match args.head? with
  | some (.number x) =>
    if x < 0 then .error .waitNegative
    else if x < 18446744073709551616 then .ok x
    else .error .waitTooLong
  | some .nil | none => .error .waitMissing
  | some v => .error (.waitArgument v.typeName)

/-- The bounds of a choice. -/
def rangeOf (args : List Value) : Checked { r : Int × Int // r.1 ≤ r.2 } := do
  let least ← Arguments.integer args 0 .randomLeast
  let greatest ← Arguments.integer args 1 .randomGreatest
  if h : least ≤ greatest then return ⟨(least, greatest), h⟩ else throw .randomEmpty

/-- `input(prompt)`: writes the prompt and reads a line; nil at the end of the input. -/
def runInput (args : List Value) : Outcome := do
  let prompt := (args.head?.map Value.text).getD ""
  match ← Dialogue.request (.write prompt) with
  | .error e => return .error (.promptFailed e)
  | .ok _ =>
    match ← Dialogue.request .flush with
    | .error e => return .error (.promptFailed e)
    | .ok _ =>
      match ← readLine with
      | .error e => return .error (.inputFailed e)
      | .ok none => return .ok .nil
      | .ok (some line) => return .ok (.string line)

/-- `readFile(path)`: the content of a file. -/
def runReadFile (path : String) : Outcome := do
  match ← Dialogue.request (.readFile path) with
  | .error e => return .error (.readFileFailed path e)
  | .ok bytes =>
    match Text.decodeStrict? bytes with
    | some s => return .ok (.string s)
    | none => return .error (.readFileFailed path .notText)

/-- `writeFile(path, content, append)`: writes a file. -/
def runWriteFile (path content : String) (append : Bool) : Outcome := do
  match ← Dialogue.request (.writeFile path (Text.encode content) append) with
  | .error e => return .error (.writeFileFailed path e)
  | .ok _ => return .ok .nil

/-- Shows what a command has written, unless it is blank. -/
def showWritten (out err : String) : Dialogue (Except RuntimeFault Unit) := do
  let shown ← if Text.allBlank out then pure (.ok ()) else Dialogue.request (.write (out ++ "\n"))
  match shown with
  | .error e => return .error (.outputFailed e)
  | .ok _ =>
    if !Text.allBlank err then Dialogue.request (.report err)
    return .ok ()

/-- `executeCommand(command, print)`: what a shell command writes, nil if nothing. -/
def runExecuteCommand (command : String) (print : Bool) : Outcome := do
  if '\x00' ∈ command.toList then return .error (.commandFailed command .nulInCommand)
  let written ← Dialogue.request (.shell command)
  let out := Text.decodeLenient written.out
  let shown ← if print then showWritten out (Text.decodeLenient written.err) else pure (.ok ())
  match shown with
  | .error fault => return .error fault
  | .ok _ => return .ok (if out = "" then .nil else .string out)

/-- The value of a call of a built-in function with these arguments, or the fault that ends it. -/
def run (b : Builtin) (args : List Value) : Outcome :=
  match b with
  | clock => do return .ok (.number (← Dialogue.request .clock))
  | input => runInput args
  | substring => plain (runSubstring args)
  | len => plain (runLen args)
  | floor => plain (runFloor args)
  | isInt => plain (runIsInt args)
  | toInt => plain (runToInt args)
  | toLower => plain (runToLower args)
  | replace => plain (runReplace args)
  | wait => checked (pauseOf args) fun seconds => do
    Dialogue.request (.sleep seconds)
    return .ok .nil
  | random => checked (rangeOf args) fun ⟨(least, greatest), le⟩ => do
    let n ← Dialogue.request (.choose least greatest le)
    return .ok (.number (Number.ofInt n.val))
  | readFile => checked (Arguments.string args 0 .readFilePath) runReadFile
  | writeFile =>
    checked (Arguments.string args 0 .writeFilePath) fun path =>
      checked (Arguments.string args 1 .writeFileContent) fun content =>
        checked (Arguments.flag args 2 .writeFileAppend) fun append =>
          runWriteFile path content append
  | fileExists => checked (Arguments.string args 0 .fileExistsPath) fun path => do
    return .ok (.bool (← Dialogue.request (.isFile path)))
  | executeCommand =>
    checked (Arguments.string args 0 .commandText) fun command =>
      checked (Arguments.flag args 1 .commandPrint) fun print => runExecuteCommand command print

end Builtin

end ScriptLang
